import Sidecars.Proofs.FileSystem.Resolve

/-!
# Looking at directories

What a listing shows is what the entries of the directory are, so two listings can be compared
without a look at the trees.

* `FileSystem.mem_listing` says what stands in a listing;
* `FileSystem.list_eq_ok_iff` says when a path leads to a directory with a listing;
* `FileSystem.filter_listing_eq` says that a part of a listing is known once its members are;
* `FileSystem.withChance` is a file system in which chance says something else, which nobody who
  only looks can tell.
-/

namespace Sidecars

/-- The kind of what stands at a location. -/
def Entry.kind : Entry → NodeKind
  | .file _ _ => .file
  | .directory _ => .directory
  | .link _ => .link
  | .pipe _ => .pipe

lemma Node.kind_entry (n : Node) : n.entry.kind = n.kind := by
  cases n <;> rfl

namespace FileSystem

/-! ## Listings -/

lemma mem_listing {n : Node} {name : Name} {kind : NodeKind} :
    (name, kind) ∈ listing n ↔ ∃ m, n.child? name = some m ∧ m.kind = kind := by
  simp only [listing, List.mem_filterMap, Option.map_eq_some_iff, Prod.mk.injEq]
  constructor
  · rintro ⟨_, -, m, hm, rfl, hkind⟩
    exact ⟨m, hm, hkind⟩
  · rintro ⟨m, hm, hkind⟩
    exact ⟨name, Node.mem_names_iff.2 ⟨m, hm⟩, m, hm, rfl, hkind⟩

/-- What stands in the listing of the directory at a location is what stands below the location. -/
lemma mem_listing_iff_entry {fs : FileSystem} {loc : Location} {n : Node} {name : Name}
    {kind : NodeKind} (hn : fs.root.get? loc = some n) :
    (name, kind) ∈ listing n ↔ ∃ e, fs.entryAt? (loc ++ [name]) = some e ∧ e.kind = kind := by
  rw [mem_listing, entryAt?_eq, Node.get?_concat hn]
  constructor
  · rintro ⟨m, hm, hkind⟩
    exact ⟨m.entry, by rw [hm]; rfl, by rw [Node.kind_entry, hkind]⟩
  · rintro ⟨e, he, hkind⟩
    obtain ⟨m, hm, rfl⟩ := Option.map_eq_some_iff.1 he
    exact ⟨m, hm, by rw [← hkind, Node.kind_entry]⟩

/-- A listing goes by ascending names. -/
lemma listing_pairwise (n : Node) :
    (listing n).Pairwise fun e e' => Name.Before e.1 e'.1 := by
  refine List.Pairwise.filterMap _ (fun name name' hbefore e he e' he' => ?_)
    (Node.names_pairwise n)
  obtain ⟨m, -, rfl⟩ := Option.map_eq_some_iff.1 he
  obtain ⟨m', -, rfl⟩ := Option.map_eq_some_iff.1 he'
  exact hbefore

lemma listing_names_nodup (n : Node) : ((listing n).map Prod.fst).Nodup := by
  refine List.pairwise_map.2 ((listing_pairwise n).imp fun {e e'} hbefore heq => ?_)
  rw [Name.Before, heq] at hbefore
  exact List.lt_irrefl _ hbefore

/-- Two parts of listings are the same if the same stands in them. -/
lemma filter_listing_eq {n m : Node} {keep keep' : Name × NodeKind → Bool}
    (h : ∀ name kind, ((name, kind) ∈ listing n ∧ keep (name, kind) = true) ↔
      (name, kind) ∈ listing m ∧ keep' (name, kind) = true) :
    (listing n).filter keep = (listing m).filter keep' := by
  let order (e e' : Name × NodeKind) : Prop := Name.Before e.1 e'.1
  have hirrefl : Std.Irrefl order := ⟨fun e => List.lt_irrefl e.1.bytes⟩
  have hantisymm : Std.Antisymm order :=
    ⟨fun _ _ hab hba => absurd hba (List.lt_asymm hab)⟩
  refine List.Pairwise.eq_of_mem_iff ((listing_pairwise n).filter _)
    ((listing_pairwise m).filter _) fun e => ?_
  rw [List.mem_filter, List.mem_filter]
  exact h e.1 e.2

/-! ## Paths -/

variable {fs : FileSystem} {p : Path}

lemma nodeAt_eq_ok_iff {last : Bool} {n : Node} :
    fs.nodeAt last p = .ok n ↔ ∃ loc, fs.resolve last p = .ok (.found loc n) := by
  unfold nodeAt
  constructor
  · intro h
    split at h
    · next loc m hresolve =>
      simp only [Except.ok.injEq] at h
      exact ⟨loc, by rw [hresolve, h]⟩
    · simp at h
    · simp at h
  · rintro ⟨loc, hresolve⟩
    rw [hresolve]

lemma status_eq_ok_iff {n : Node} :
    fs.status p = .ok n ↔ ∃ loc, fs.resolve true p = .ok (.found loc n) := nodeAt_eq_ok_iff

lemma linkStatus_eq_ok_iff {n : Node} :
    fs.linkStatus p = .ok n ↔ ∃ loc, fs.resolve false p = .ok (.found loc n) := nodeAt_eq_ok_iff

/-- What a path leads to is at its end, unless there is a link at its end. -/
lemma linkStatus_of_status {n : Node} (h : fs.status p = .ok n) :
    fs.linkStatus p = .ok n ∨ ∃ target, fs.linkStatus p = .ok (.link target) := by
  obtain ⟨loc, hresolve⟩ := status_eq_ok_iff.1 h
  have hrefusal := refusal?_of_resolve hresolve
  rw [resolve_of_refusal_eq_none hrefusal] at hresolve
  rw [linkStatus, nodeAt, resolve_of_refusal_eq_none hrefusal]
  by_cases hlink : ∃ l target,
      follow fs.root false maxLinks (fs.origin p) p.steps = .ok (.found l (.link target))
  · obtain ⟨l, target, hfollow⟩ := hlink
    exact .inr ⟨target, by rw [hfollow]⟩
  · have hlast := follow_last fun l target hfollow => hlink ⟨l, target, hfollow⟩
    exact .inl (by rw [← hlast, hresolve])

lemma isDirectory_path_iff : fs.isDirectory p = true ↔
    ∃ loc n, fs.resolve true p = .ok (.found loc n) ∧ n.isDirectory = true := by
  unfold isDirectory
  constructor
  · intro h
    split at h
    · next n hn =>
      obtain ⟨loc, hloc⟩ := status_eq_ok_iff.1 hn
      exact ⟨loc, n, hloc, h⟩
    · simp at h
  · rintro ⟨loc, n, hloc, hn⟩
    rw [status_eq_ok_iff.2 ⟨loc, hloc⟩]
    exact hn

lemma list_eq_ok_iff {entries : List (Name × NodeKind)} : fs.list p = .ok entries ↔
    ∃ loc n, fs.resolve true p = .ok (.found loc n) ∧ n.isDirectory = true ∧
      entries = listing n := by
  unfold list
  constructor
  · intro h
    split at h
    · next n hn =>
      obtain ⟨loc, hloc⟩ := status_eq_ok_iff.1 hn
      split at h
      · next hdir =>
        simp only [Except.ok.injEq] at h
        exact ⟨loc, n, hloc, hdir, h.symm⟩
      · simp at h
    · simp at h
  · rintro ⟨loc, n, hloc, hn, rfl⟩
    rw [status_eq_ok_iff.2 ⟨loc, hloc⟩]
    simp only [hn, if_true]

lemma list_names_nodup {entries : List (Name × NodeKind)} (h : fs.list p = .ok entries) :
    (entries.map Prod.fst).Nodup := by
  obtain ⟨-, n, -, -, rfl⟩ := list_eq_ok_iff.1 h
  exact listing_names_nodup n

/-! ## Two looks at one path -/

variable {fs' : FileSystem}

lemma contents_eq_of_entry_eq {n m : Node} (h : n.entry = m.entry) : contents n = contents m := by
  cases n <;> cases m <;> simp_all [Node.entry, contents]

lemma cases_of_map_entry_eq {r r' : Except Errno Node}
    (h : r'.map Node.entry = r.map Node.entry) :
    (∃ e, r' = .error e ∧ r = .error e) ∨
      ∃ n' n, r' = .ok n' ∧ r = .ok n ∧ n'.entry = n.entry := by
  cases r' with
  | error e' =>
    cases r with
    | error e =>
      rw [Except.map, Except.map, Except.error.injEq] at h
      exact .inl ⟨e, by rw [h], rfl⟩
    | ok n => simp [Except.map] at h
  | ok n' =>
    cases r with
    | error e => simp [Except.map] at h
    | ok n =>
      rw [Except.map, Except.map, Except.ok.injEq] at h
      exact .inr ⟨n', n, rfl, rfl, h⟩

/-- What is read is decided by what is told of the end of the path. -/
lemma read_eq_of_status_eq
    (h : (fs'.status p).map Node.entry = (fs.status p).map Node.entry) : fs'.read p = fs.read p := by
  unfold read
  rcases cases_of_map_entry_eq h with ⟨e, hn', hn⟩ | ⟨n', n, hn', hn, hentry⟩
  · rw [hn', hn]
  · rw [hn', hn]
    exact contents_eq_of_entry_eq hentry

/-! ## Chance -/

/-- A file system in which chance says something else. -/
def withChance (fs : FileSystem) (chance : Path → Nat) : FileSystem := { fs with chance := chance }

section

variable (fs : FileSystem) (chance : Path → Nat) (p : Path)

@[simp] lemma resolve_withChance (last : Bool) :
    (fs.withChance chance).resolve last p = fs.resolve last p := rfl

@[simp] lemma status_withChance : (fs.withChance chance).status p = fs.status p := rfl

@[simp] lemma linkStatus_withChance :
    (fs.withChance chance).linkStatus p = fs.linkStatus p := rfl

@[simp] lemma pathExists_withChance :
    (fs.withChance chance).pathExists p = fs.pathExists p := rfl

@[simp] lemma isDirectory_withChance :
    (fs.withChance chance).isDirectory p = fs.isDirectory p := rfl

@[simp] lemma isFile_withChance : (fs.withChance chance).isFile p = fs.isFile p := rfl

@[simp] lemma list_withChance : (fs.withChance chance).list p = fs.list p := rfl

end

end FileSystem

end Sidecars
