import Sidecars.Proofs.FileSystem.Growth
import Sidecars.Proofs.FileSystem.Looking
import Sidecars.Proofs.Sidecar.Writing

/-!
# Going down from a root

A walk joins name after name to the path of its root.  Where such a path leads is known from where
the root leads, one name at a time (`FileSystem.resolve_join`).

* `FileSystem.Leads`: the path made of a root and some names leads, if anywhere, to the directory at
  the location made of the same names.  This is all that is known when there may be links.
* `FileSystem.Opens`: such a path leads to that directory.  Then what stands at one location decides
  what comes of looking at an entry of the directory (`Opens.status_child`) or of writing over it
  (`Opens.targetPlace_child`).
-/

namespace Sidecars

namespace FileSystem

open Sidecars.Path (Step)

variable {fs fs' : FileSystem} {root p : Path} {name : Name} {S : Set Location}

/-! ## One name more -/

lemma follow_iff_of_stay {tree n : Node} {xs : List Step} {k : Nat} {loc l : Location}
    (h : p.steps = xs ∨ p.steps = xs ++ [.stay]) (hn : n.isDirectory = true) :
    follow tree true k loc p.steps = .ok (.found l n) ↔
      follow tree true k loc xs = .ok (.found l n) := by
  rcases h with h | h
  · rw [h]
  · rw [h, follow_concat_stay]
    exact and_iff_left hn

lemma origin_join (hp : p.bytes ≠ []) (bs : Bytes) : fs.origin (p.join bs) = fs.origin p := by
  rw [origin, origin, Path.isAbsolute_join hp]

lemma refusal?_of_join (hp : p.bytes ≠ []) {bs : Bytes} (h : (p.join bs).refusal? = none) :
    p.refusal? = none :=
  Path.refusal?_eq_none_of_start (Path.prefix_join p bs) hp h

lemma bytes_ne_nil_of_resolve {last : Bool} {spot : Spot} (h : fs.resolve last p = .ok spot) :
    p.bytes ≠ [] :=
  (Path.refusal?_eq_none_iff.1 (refusal?_of_resolve h)).2.1

/-- What a joined path leads to is looked for in the directory to which the path leads. -/
theorem resolve_join {l : Location} {n : Node} {last : Bool}
    (hp : fs.resolve true p = .ok (.found l n)) (hn : n.isDirectory = true)
    (hjoin : (p.join name.bytes).refusal? = none)
    (hlink : last = true → ∀ target, n.child? name ≠ some (.link target)) :
    fs.resolve last (p.join name.bytes) = lookIn n l name := by
  have hne := bytes_ne_nil_of_resolve hp
  obtain ⟨xs, hxs, hsteps⟩ := Path.steps_join hne
  rw [resolve_of_refusal_eq_none (refusal?_of_resolve hp), follow_iff_of_stay hxs hn] at hp
  rw [resolve_of_refusal_eq_none hjoin, origin_join hne, hsteps]
  have hfollow : follow fs.root false maxLinks (fs.origin p) (xs ++ [.down name]) =
      lookIn n l name := by
    rw [follow_concat, hp]
    rfl
  cases last with
  | false => exact hfollow
  | true =>
    rw [follow_last, hfollow]
    intro l' target hfound
    rw [hfollow, lookIn_eq_ok_iff] at hfound
    obtain ⟨-, -, ⟨-, hfree⟩ | ⟨m, hm, heq⟩⟩ := hfound
    · simp at hfree
    · simp only [Spot.found.injEq] at heq
      exact hlink rfl target (heq.2 ▸ hm)

/-- The place of a sidecar that is named in a directory. -/
theorem targetPlace_join_eq_ok_iff {place : Place} (hp : p.bytes ≠ []) :
    Sidecar.targetPlace fs (p.join name.bytes) = .ok place ↔
      (p.join name.bytes).refusal? = none ∧ place.name = name ∧
      name.bytes.length ≤ Name.maxLength ∧ ¬ fs.HasDirectory place.location ∧
      ∃ n, fs.resolve true p = .ok (.found place.directory n) ∧ n.isDirectory = true := by
  obtain ⟨xs, hxs, hsteps⟩ := Path.steps_join hp
  rw [Sidecar.targetPlace_eq_ok_iff (hsteps name)]
  refine and_congr_right fun hrefusal => ?_
  rw [resolve_of_refusal_eq_none (refusal?_of_join hp hrefusal), origin_join hp]
  refine and_congr_right fun _ => and_congr_right fun _ => and_congr_right fun _ => ?_
  refine exists_congr fun n => ⟨fun ⟨h, hn⟩ => ⟨?_, hn⟩, fun ⟨h, hn⟩ => ⟨?_, hn⟩⟩
  · rwa [follow_iff_of_stay hxs hn]
  · rwa [follow_iff_of_stay hxs hn] at h

/-! ## With links -/

/-- A path made of a root and some names leads, if anywhere, to the directory at the location made
of the same names. -/
structure Leads (fs : FileSystem) (root : Path) (top : Location) (names : Location) : Prop where
  directory : fs.HasDirectory (top ++ names)
  leads : ∀ l n, fs.resolve true (root.descend names) = .ok (.found l n) → l = top ++ names

/-- In a file system that has grown, what leads to a directory has led there before. -/
lemma Grown.resolve_back (h : fs.Grown S fs') {l : Location} {n : Node}
    (hp : fs'.resolve true p = .ok (.found l n)) (hn : n.isDirectory = true) :
    ∃ m, fs.resolve true p = .ok (.found l m) ∧ m.isDirectory = true := by
  have hrefusal := refusal?_of_resolve hp
  rw [resolve_of_refusal_eq_none hrefusal] at hp ⊢
  exact h.follow_back hp hn

/-- What a listing shows to be a directory, while files are added, is one to which its path leads. -/
theorem Leads.child {top a : Location} {entries : List (Name × NodeKind)}
    (ha : fs.Leads root top a) (h : fs.Grown S fs')
    (hlist : fs'.list (root.descend a) = .ok entries) (hname : (name, .directory) ∈ entries) :
    fs.Leads root top (a ++ [name]) := by
  obtain ⟨l, n, hresolve, hn, rfl⟩ := list_eq_ok_iff.1 hlist
  obtain ⟨m, hm, hdir⟩ := h.resolve_back hresolve hn
  obtain rfl := ha.leads l m hm
  have hget := get?_of_resolve hresolve
  obtain ⟨e, he, hkind⟩ := (mem_listing_iff_entry hget).1 hname
  have hchild : fs.HasDirectory (top ++ a ++ [name]) := by
    rw [← h.hasDirectory_iff]
    cases e with
    | directory mode => exact ⟨mode, he⟩
    | file mode contents => simp [Entry.kind] at hkind
    | link target => simp [Entry.kind] at hkind
    | pipe mode => simp [Entry.kind] at hkind
  refine ⟨by rwa [← List.append_assoc], fun l' d hl' => ?_⟩
  have hgetm := get?_of_resolve hm
  rw [Path.descend_concat] at hl'
  rw [resolve_join hm hdir (refusal?_of_resolve hl'), lookIn_eq_ok_iff] at hl'
  · obtain ⟨-, -, ⟨-, hfree⟩ | ⟨k, -, heq⟩⟩ := hl'
    · simp at hfree
    · simp only [Spot.found.injEq] at heq
      rw [heq.1, List.append_assoc]
  · intro _ target htarget
    obtain ⟨mode, hmode⟩ := hchild
    rw [entryAt?_eq, Node.get?_concat hgetm, htarget] at hmode
    simp [Node.entry] at hmode

/-! ## Without links -/

/-- A path made of a root and some names leads to the directory at the location made of the same
names. -/
def Opens (fs : FileSystem) (root : Path) (top names : Location) : Prop :=
  ∃ n, fs.resolve true (root.descend names) = .ok (.found (top ++ names) n) ∧ n.isDirectory = true

namespace Opens

variable {top a : Location}

lemma bytes_ne_nil (h : fs.Opens root top a) : (root.descend a).bytes ≠ [] := by
  obtain ⟨n, hn, -⟩ := h
  exact bytes_ne_nil_of_resolve hn

lemma leads (h : fs.Opens root top a) : fs.Leads root top a := by
  obtain ⟨n, hn, hdir⟩ := h
  refine ⟨hasDirectory_iff.2 ⟨n, get?_of_resolve hn, hdir⟩, fun l m hl => ?_⟩
  rw [hn] at hl
  simp only [Except.ok.injEq, Spot.found.injEq] at hl
  exact hl.1.symm

lemma back (h : fs'.Opens root top a) (hgrown : fs.Grown S fs') : fs.Opens root top a := by
  obtain ⟨n, hn, hdir⟩ := h
  exact hgrown.resolve_back hn hdir

/-- A directory is still led to if no file took the place of a link. -/
lemma grown (h : fs.Opens root top a) (hgrown : fs.Grown S fs')
    (hlinks : ∀ l target, l ∈ S → fs.entryAt? l ≠ some (.link target)) : fs'.Opens root top a := by
  obtain ⟨n, hn, hdir⟩ := h
  have hrefusal := refusal?_of_resolve hn
  rw [resolve_of_refusal_eq_none hrefusal] at hn
  obtain ⟨m, hm, hdir'⟩ := follow_embeds (hgrown.embedded hlinks) hn hdir
  refine ⟨m, ?_, hdir'⟩
  rw [resolve_of_refusal_eq_none hrefusal, hgrown.origin_eq, hm]

/-- What can be told of an entry by its path, from what stands at its location. -/
def shown (q : Path) (name : Name) (e : Option Entry) : Except Errno Entry :=
  match q.refusal? with
  | some err => .error err
  | none =>
    if Name.maxLength < name.bytes.length then .error .nameTooLong
    else
      match e with
      | some e => .ok e
      | none => .error .noEntry

/-- What a path tells of an entry that is no link is what stands at its location. -/
theorem status_child (h : fs.Opens root top a)
    (hlink : ∀ target, fs.entryAt? (top ++ a ++ [name]) ≠ some (.link target)) :
    (fs.status (root.descend (a ++ [name]))).map Node.entry =
      shown (root.descend (a ++ [name])) name (fs.entryAt? (top ++ a ++ [name])) := by
  obtain ⟨n, hn, hdir⟩ := h
  have hget := get?_of_resolve hn
  rw [entryAt?_eq, Node.get?_concat hget] at hlink ⊢
  rw [Path.descend_concat, status, nodeAt]
  unfold shown
  cases hrefusal : ((root.descend a).join name.bytes).refusal? with
  | some e =>
    rw [resolve, hrefusal]
    rfl
  | none =>
    have hchild : ∀ target, n.child? name ≠ some (.link target) := by
      intro target htarget
      exact hlink target (by rw [htarget]; rfl)
    rw [resolve_join hn hdir hrefusal fun _ => hchild, lookIn]
    by_cases hlong : Name.maxLength < name.bytes.length
    · simp [hdir, hlong, Except.map]
    · cases n.child? name <;> simp [hdir, hlong, Except.map]

open Classical in
/-- The place of a sidecar is decided by whether a directory is there. -/
theorem targetPlace_child (h : fs.Opens root top a) :
    Sidecar.targetPlace fs (root.descend (a ++ [name])) =
      match (root.descend (a ++ [name])).refusal? with
      | some e => .error e
      | none =>
        if Name.maxLength < name.bytes.length then .error .nameTooLong
        else if fs.HasDirectory (top ++ a ++ [name]) then .error .isDirectory
        else .ok ⟨top ++ a, name⟩ := by
  obtain ⟨n, hn, hdir⟩ := h
  have hold := @Sidecar.not_hasDirectory_iff_of_child fs n (top ++ a) name (get?_of_resolve hn)
  rw [Path.descend_concat, Sidecar.targetPlace]
  cases hrefusal : ((root.descend a).join name.bytes).refusal? with
  | some e =>
    rw [resolve, hrefusal]
  | none =>
    rw [resolve_join hn hdir hrefusal (by simp), lookIn]
    by_cases hlong : Name.maxLength < name.bytes.length
    · simp [hdir, hlong]
    · have hplace : Place.ofLocation? (top ++ a ++ [name]) = some ⟨top ++ a, name⟩ := by
        simp [Place.ofLocation?]
      by_cases hdirectory : fs.HasDirectory (top ++ a ++ [name])
      · rw [if_pos hdirectory]
        rw [← not_iff_not, not_not, not_forall] at hold
        obtain ⟨m, hm⟩ := hold.1 hdirectory
        rw [Classical.not_imp, Bool.not_eq_false] at hm
        simp [hdir, hlong, hplace, hm.1, hm.2, -List.append_assoc]
      · rw [if_neg hdirectory]
        cases hm : n.child? name with
        | none => simp [hdir, hlong]
        | some m => simp [hdir, hlong, hplace, hold.1 hdirectory m hm, -List.append_assoc]

lemma targetPlace_eq (h : fs.Opens root top a) (h' : fs'.Opens root top a)
    (hdir : fs'.HasDirectory (top ++ a ++ [name]) ↔ fs.HasDirectory (top ++ a ++ [name])) :
    Sidecar.targetPlace fs' (root.descend (a ++ [name])) =
      Sidecar.targetPlace fs (root.descend (a ++ [name])) := by
  rw [h.targetPlace_child, h'.targetPlace_child]
  by_cases hd : fs.HasDirectory (top ++ a ++ [name])
  · rw [if_pos hd, if_pos (hdir.2 hd)]
  · rw [if_neg hd, if_neg (hdir.not.2 hd)]

lemma place_eq (h : fs.Opens root top a) {place : Place}
    (hplace : Sidecar.targetPlace fs (root.descend (a ++ [name])) = .ok place) :
    place = ⟨top ++ a, name⟩ := by
  rw [Path.descend_concat, targetPlace_join_eq_ok_iff h.bytes_ne_nil] at hplace
  obtain ⟨-, hname, -, -, n, hn, -⟩ := hplace
  obtain ⟨m, hm, -⟩ := h
  rw [hm, Except.ok.injEq, Spot.found.injEq] at hn
  rw [hn.1, ← hname]

/-- Where a sidecar can be put, its path tells what stands there. -/
lemma status_of_targetPlace (h : fs.Opens root top a)
    (hlink : ∀ target, fs.entryAt? (top ++ a ++ [name]) ≠ some (.link target)) {place : Place}
    (hplace : Sidecar.targetPlace fs (root.descend (a ++ [name])) = .ok place) :
    (fs.status (root.descend (a ++ [name]))).map Node.entry =
      match fs.entryAt? (top ++ a ++ [name]) with
      | some e => .ok e
      | none => .error .noEntry := by
  rw [Path.descend_concat, targetPlace_join_eq_ok_iff h.bytes_ne_nil, ← Path.descend_concat]
    at hplace
  obtain ⟨hrefusal, -, hlength, -⟩ := hplace
  rw [h.status_child hlink, shown.eq_def, hrefusal]
  simp only [if_neg (Nat.not_lt.2 hlength)]

/-- Where a sidecar can be put, its path leads to a regular file if one stands there. -/
lemma isFile_iff (h : fs.Opens root top a)
    (hlink : ∀ target, fs.entryAt? (top ++ a ++ [name]) ≠ some (.link target)) {place : Place}
    (hplace : Sidecar.targetPlace fs (root.descend (a ++ [name])) = .ok place) :
    fs.isFile (root.descend (a ++ [name])) = true ↔
      ∃ mode contents, fs.entryAt? (top ++ a ++ [name]) = some (.file mode contents) := by
  have hstatus := h.status_of_targetPlace hlink hplace
  unfold isFile
  cases hentry : fs.entryAt? (top ++ a ++ [name]) with
  | none =>
    rw [hentry] at hstatus
    cases hn : fs.status (root.descend (a ++ [name])) with
    | error e => simp
    | ok n => simp [hn, Except.map] at hstatus
  | some e =>
    rw [hentry] at hstatus
    cases hn : fs.status (root.descend (a ++ [name])) with
    | error e => simp [hn, Except.map] at hstatus
    | ok n =>
      rw [hn, Except.map, Except.ok.injEq] at hstatus
      subst hstatus
      cases n <;> simp [Node.isFile, Node.kind, Node.entry]

/-- A sidecar that is there keeps its mode. -/
lemma sidecarMode_of_file (h : fs.Opens root top a) {place : Place}
    (hplace : Sidecar.targetPlace fs (root.descend (a ++ [name])) = .ok place) {mode : Nat}
    {contents : Bytes} (hfile : fs.entryAt? (top ++ a ++ [name]) = some (.file mode contents)) :
    Sidecar.sidecarMode fs (root.descend (a ++ [name])) = mode := by
  have hstatus := h.status_of_targetPlace (fun target => by simp only [hfile]; simp) hplace
  rw [hfile] at hstatus
  unfold Sidecar.sidecarMode
  cases hn : fs.status (root.descend (a ++ [name])) with
  | error e => simp [hn, Except.map] at hstatus
  | ok n => cases n <;> simp_all [Except.map, Node.entry]

end Opens

end FileSystem

end Sidecars
