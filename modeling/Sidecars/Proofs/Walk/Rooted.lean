import Sidecars.Proofs.Walk
import Sidecars.Proofs.Walk.Reach

/-!
# Walks from a root

While a root leads to a directory, what its walk is shown is known from what stands at the locations
below.  When there is no symbolic link among the entries there, so are the items of the walk.

* `FileSystem.Rooted` asks for both; it stays true while sidecars are added (`Rooted.grown`).
* `FileSystem.Opens.carry` and `FileSystem.fault_or_opens` say what can be opened below a root in two
  file systems with the same directories.
* `FileSystem.shows_of_entries` compares what two file systems show of the same directory.
* `Walk.mem_items` finds every regular file below the root in the walk, as long as the paths are not
  too long to be followed.
-/

namespace Sidecars

namespace Node

/-- Whether there is no symbolic link in a tree. -/
def NoLink (n : Node) : Prop := ∀ names target, n.get? names ≠ some (.link target)

lemma noLink_file (mode : Nat) (contents : Bytes) : (Node.file mode contents).NoLink := by
  intro names target
  cases names <;> simp [get?, child?, entries]

lemma noLink_directory {mode : Nat} {es : List (Name × Node)} (h : ∀ e ∈ es, e.2.NoLink) :
    (Node.directory mode es).NoLink := by
  intro names target
  cases names with
  | nil => simp
  | cons name names =>
    rw [get?_cons]
    intro hlink
    obtain ⟨m, hm, hget⟩ := Option.bind_eq_some_iff.1 hlink
    obtain ⟨before, after, heq, -⟩ := List.lookup_eq_some_iff.1 hm
    have hes : es = before ++ (name, m) :: after := heq
    exact h (name, m) (by rw [hes]; simp) names target hget

end Node

namespace FileSystem

variable {fs fs' : FileSystem} {root : Path} {top a : Location} {name : Name} {kind : NodeKind}
  {S : Set Location}

/-- A root that leads to a directory below which there are no symbolic links. -/
structure Rooted (fs : FileSystem) (root : Path) (top : Location) : Prop where
  /-- The root leads to a directory. -/
  leads : ∃ n, fs.resolve true root = .ok (.found top n) ∧ n.isDirectory = true
  /-- There are no links below it. -/
  noLink : ∀ names target, fs.entryAt? (top ++ names) ≠ some (.link target)

/-- What a joined path leads to is reached by way of a directory. -/
lemma resolve_of_join {p : Path} {l : Location} {n : Node} (hp : p.bytes ≠ [])
    (h : fs.resolve true (p.join name.bytes) = .ok (.found l n)) :
    ∃ l' m, fs.resolve true p = .ok (.found l' m) ∧ m.isDirectory = true := by
  obtain ⟨xs, hxs, hsteps⟩ := Path.steps_join hp
  have hrefusal := refusal?_of_resolve h
  rw [resolve_of_refusal_eq_none hrefusal, origin_join hp, hsteps] at h
  have hconcat := @follow_concat fs.root maxLinks (fs.origin p) xs (.down name)
  have hfailed : ∀ e, thenStep fs.root (.down name)
      (follow fs.root true maxLinks (fs.origin p) xs) ≠ .error e := by
    intro e he
    rw [he] at hconcat
    rw [follow_last (by simp [hconcat]), hconcat] at h
    simp at h
  cases hfollow : follow fs.root true maxLinks (fs.origin p) xs with
  | error e =>
    rw [hfollow] at hfailed
    exact absurd rfl (hfailed e)
  | ok spot =>
    rw [hfollow] at hfailed
    cases spot with
    | free place => exact absurd rfl (hfailed .noEntry)
    | found l' m =>
      have hdir : m.isDirectory = true := by
        by_contra hdir
        refine hfailed .notDirectory ?_
        rw [thenStep, takeStep, lookIn, if_pos hdir]
      refine ⟨l', m, ?_, hdir⟩
      rw [resolve_of_refusal_eq_none (refusal?_of_join hp hrefusal), follow_iff_of_stay hxs hdir]
      exact hfollow

/-- What stands below a location is what stands in the tree there. -/
lemma noLink_below {n : Node} (h : n.NoLink) (hn : fs.root.get? top = some n) (names : Location)
    (target : Path) : fs.entryAt? (top ++ names) ≠ some (.link target) := by
  rw [Ne, ← get?_link_iff, Node.get?_append, hn]
  exact h names target

namespace Rooted

lemma noLink_child (h : fs.Rooted root top) (a : Location) (name : Name) (target : Path) :
    fs.entryAt? (top ++ a ++ [name]) ≠ some (.link target) := by
  rw [List.append_assoc]
  exact h.noLink _ target

lemma opens (h : fs.Rooted root top) : fs.Opens root top [] := by
  obtain ⟨n, hn, hdir⟩ := h.leads
  exact ⟨n, by rwa [List.append_nil], hdir⟩

lemma isDirectory (h : fs.Rooted root top) : fs.isDirectory root = true := by
  obtain ⟨n, hn, hdir⟩ := h.leads
  exact isDirectory_path_iff.2 ⟨top, n, hn, hdir⟩

lemma bytes_ne_nil (h : fs.Rooted root top) : root.bytes ≠ [] := by
  obtain ⟨n, hn, -⟩ := h.leads
  exact bytes_ne_nil_of_resolve hn

/-- A root stays one while files are added below it. -/
lemma grown (h : fs.Rooted root top) (hgrown : fs.Grown S fs') (hS : ∀ l ∈ S, top <+: l) :
    fs'.Rooted root top where
  leads := by
    have hlinks : ∀ l target, l ∈ S → fs.entryAt? l ≠ some (.link target) := by
      rintro l target hl
      obtain ⟨names, rfl⟩ := hS l hl
      exact h.noLink names target
    obtain ⟨n, hn, hdir⟩ := h.opens.grown hgrown hlinks
    exact ⟨n, by rwa [List.append_nil] at hn, hdir⟩
  noLink names target hlink := h.noLink names target (hgrown.link_of_link hlink)

end Rooted

/-! ## Below a root that is opened -/

namespace Opens

/-- A directory below the root is opened by its path if its path leads anywhere. -/
lemma of_resolve (h : fs.Opens root top []) {l : Location} {n : Node}
    (hdir : fs.HasDirectory (top ++ a))
    (hresolve : fs.resolve true (root.descend a) = .ok (.found l n)) : fs.Opens root top a := by
  induction a using List.reverseRecOn generalizing l n with
  | nil => exact h
  | append_singleton a name ih =>
    rw [Path.descend_concat] at hresolve
    obtain ⟨l', m, hm, -⟩ := resolve_of_join (Path.descend_ne_nil h.bytes_ne_nil a) hresolve
    rw [← List.append_assoc] at hdir
    obtain ⟨mode, hmode⟩ := hdir
    obtain ⟨d, hd, hdd⟩ := ih (hasDirectory_of_below hmode) hm
    rw [entryAt?_eq, Node.get?_concat (get?_of_resolve hd)] at hmode
    obtain ⟨child, hchild, hentry⟩ := Option.map_eq_some_iff.1 hmode
    have hdirectory : child.isDirectory = true := Node.isDirectory_iff_entry.2 ⟨mode, hentry⟩
    have hlink : ∀ target, d.child? name ≠ some (.link target) := by
      intro target htarget
      rw [hchild, Option.some.injEq] at htarget
      rw [htarget] at hdirectory
      simp [Node.isDirectory, Node.kind] at hdirectory
    have hjoin : fs.resolve true ((root.descend a).join name.bytes) = lookIn d (top ++ a) name :=
      resolve_join hd hdd (refusal?_of_resolve hresolve) fun _ => hlink
    rw [hjoin, lookIn_eq_ok_iff] at hresolve
    refine ⟨child, ?_, hdirectory⟩
    rw [Path.descend_concat, hjoin, lookIn_eq_ok_iff, ← List.append_assoc]
    exact ⟨hdd, hresolve.2.1, .inr ⟨child, hchild, rfl⟩⟩

/-- On the way to a directory that is opened by its path, all directories are. -/
lemma of_append (h : fs.Opens root top []) {b : Location} (hb : fs.Opens root top (a ++ b)) :
    fs.Opens root top a := by
  induction b using List.reverseRecOn with
  | nil => rwa [List.append_nil] at hb
  | append_singleton b name ih =>
    obtain ⟨mode, hmode⟩ := hb.leads.directory
    obtain ⟨n, hn, -⟩ := hb
    rw [← List.append_assoc, Path.descend_concat] at hn
    obtain ⟨l, m, hm, -⟩ := resolve_of_join (Path.descend_ne_nil h.bytes_ne_nil _) hn
    rw [← List.append_assoc a, ← List.append_assoc] at hmode
    exact ih (h.of_resolve (hasDirectory_of_below hmode) hm)

/-- Where a directory stands, there is no link. -/
lemma not_link_of_hasDirectory {l : Location} (h : fs.HasDirectory l) (target : Path) :
    fs.entryAt? l ≠ some (.link target) := by
  obtain ⟨mode, hmode⟩ := h
  simp [hmode]

/-- As long as the root is opened and no directory goes away, what was opened is opened. -/
lemma carry (h : fs.Opens root top []) (h' : fs'.Opens root top [])
    (hentries : ∀ l, fs.HasDirectory l → fs'.entryAt? l = fs.entryAt? l)
    (ha : fs.Opens root top a) : fs'.Opens root top a := by
  induction a using List.reverseRecOn with
  | nil => exact h'
  | append_singleton a name ih =>
    have hparent : fs.Opens root top a := h.of_append ha
    have hdir : fs.HasDirectory (top ++ a ++ [name]) := by
      rw [List.append_assoc]
      exact ha.leads.directory
    have hentry := hentries _ hdir
    have hdir' : fs'.HasDirectory (top ++ a ++ [name]) := by
      rw [HasDirectory, hentry]
      exact hdir
    have hstatus : (fs'.status (root.descend (a ++ [name]))).map Node.entry =
        (fs.status (root.descend (a ++ [name]))).map Node.entry := by
      rw [hparent.status_child (not_link_of_hasDirectory hdir),
        (ih hparent).status_child (not_link_of_hasDirectory hdir'), hentry]
    obtain ⟨n, hn, -⟩ := ha
    rcases cases_of_map_entry_eq hstatus with ⟨e, -, he⟩ | ⟨n', -, hn', -⟩
    · rw [status_eq_ok_iff.2 ⟨_, hn⟩] at he
      cases he
    · obtain ⟨l', hl'⟩ := status_eq_ok_iff.1 hn'
      exact h'.of_resolve (by rwa [← List.append_assoc]) hl'

/-- A directory below the root is opened by its path if the path is not refused and no name in it is
too long. -/
lemma of_hasDirectory (h : fs.Opens root top []) (hdir : fs.HasDirectory (top ++ a))
    (hrefusal : (root.descend a).refusal? = none)
    (hlength : ∀ name ∈ a, name.bytes.length ≤ Name.maxLength) : fs.Opens root top a := by
  induction a using List.reverseRecOn with
  | nil => exact h
  | append_singleton a name ih =>
    have hdir' : fs.HasDirectory (top ++ a ++ [name]) := by rwa [List.append_assoc]
    obtain ⟨mode, hmode⟩ := hdir'
    have hparent : fs.Opens root top a := by
      refine ih (hasDirectory_of_below hmode) ?_ fun name hname => hlength name (by simp [hname])
      rw [Path.descend_concat] at hrefusal
      exact refusal?_of_join (Path.descend_ne_nil h.bytes_ne_nil a) hrefusal
    have hstatus := hparent.status_child (not_link_of_hasDirectory ⟨mode, hmode⟩)
    have hname : ¬ Name.maxLength < name.bytes.length := Nat.not_lt.2 (hlength name (by simp))
    rw [hmode, shown, hrefusal] at hstatus
    simp only [if_neg hname] at hstatus
    cases hn : fs.status (root.descend (a ++ [name])) with
    | error e => simp [hn, Except.map] at hstatus
    | ok n =>
      obtain ⟨l, hl⟩ := status_eq_ok_iff.1 hn
      exact h.of_resolve hdir hl

end Opens

/-! ## Two looks at one directory -/

/-- Whether a listing on the way down from the root shows a node of some kind at an address. -/
def Listed (fs : FileSystem) (root : Path) (top a : Location) (kind : NodeKind) : Prop :=
  (∃ e, fs.entryAt? (top ++ a) = some e ∧ e.kind = kind) ∧
    (a = [] ∨ ∃ parent name, a = parent ++ [name] ∧ fs.Opens root top parent)

lemma Listed.hasDirectory (h : fs.Listed root top a .directory) : fs.HasDirectory (top ++ a) := by
  obtain ⟨⟨e, he, hkind⟩, -⟩ := h
  cases e with
  | directory mode => exact ⟨mode, he⟩
  | file mode contents => simp [Entry.kind] at hkind
  | link target => simp [Entry.kind] at hkind
  | pipe mode => simp [Entry.kind] at hkind

lemma Opens.listed (h : fs.Opens root top []) : fs.Listed root top [] .directory := by
  obtain ⟨mode, hmode⟩ := h.leads.directory
  exact ⟨⟨_, hmode, rfl⟩, .inl rfl⟩

/-- What is no directory stands in one. -/
lemma Listed.exists_parent (h : fs.Listed root top a kind) (hroot : fs.Opens root top [])
    (hkind : kind ≠ .directory) :
    ∃ parent name, a = parent ++ [name] ∧ fs.Opens root top parent := by
  rcases h.2 with rfl | hparent
  · obtain ⟨mode, hmode⟩ := hroot.leads.directory
    obtain ⟨e, he, hkind'⟩ := h.1
    rw [hmode, Option.some.injEq] at he
    rw [← hkind', ← he] at hkind
    exact absurd rfl hkind
  · exact hparent

/-- A directory that is told to be the same in two file systems can either be looked into in both,
or in neither for the same reason. -/
theorem fault_or_opens (h : fs.Opens root top []) (h' : fs'.Opens root top [])
    (hlisted : fs.Listed root top a .directory)
    (hentry : fs'.entryAt? (top ++ a) = fs.entryAt? (top ++ a))
    (hopens : ∀ parent, fs.Opens root top parent → fs'.Opens root top parent) :
    (∃ e, fs'.list (root.descend a) = .error e ∧ fs.list (root.descend a) = .error e) ∨
      fs'.Opens root top a ∧ fs.Opens root top a := by
  have hdir := hlisted.hasDirectory
  have hdir' : fs'.HasDirectory (top ++ a) := by
    rw [HasDirectory, hentry]
    exact hdir
  rcases hlisted.2 with rfl | ⟨parent, name, rfl, hparent⟩
  · exact .inr ⟨h', h⟩
  · rw [← List.append_assoc] at hentry hdir
    have hlink := Opens.not_link_of_hasDirectory hdir
    have hstatus : (fs'.status (root.descend (parent ++ [name]))).map Node.entry =
        (fs.status (root.descend (parent ++ [name]))).map Node.entry := by
      rw [hparent.status_child hlink, (hopens parent hparent).status_child (by rwa [hentry]),
        hentry]
    rcases cases_of_map_entry_eq hstatus with ⟨e, he', he⟩ | ⟨n', n, hn', hn, -⟩
    · exact .inl ⟨e, by rw [list, he'], by rw [list, he]⟩
    · obtain ⟨l', hl'⟩ := status_eq_ok_iff.1 hn'
      obtain ⟨l, hl⟩ := status_eq_ok_iff.1 hn
      rw [List.append_assoc] at hdir
      exact .inr ⟨h'.of_resolve hdir' hl', h.of_resolve hdir hl⟩

lemma Opens.list {n : Node} (hn : fs.resolve true (root.descend a) = .ok (.found (top ++ a) n))
    (hdir : n.isDirectory = true) : fs.list (root.descend a) = .ok (listing n) :=
  list_eq_ok_iff.2 ⟨_, n, hn, hdir, rfl⟩

/-- A directory shows the same in two file systems, except for some more files in the first one, if
the same is told of it and its entries differ in just this way. -/
theorem shows_of_entries {extra : Name → Bool} (ha : fs'.Opens root top a)
    (hb : fs.Opens root top a)
    (hsame : ∀ name kind, kind ≠ .pipe →
      ((∃ e, fs.entryAt? (top ++ a ++ [name]) = some e ∧ e.kind = kind) ↔
        (∃ e, fs'.entryAt? (top ++ a ++ [name]) = some e ∧ e.kind = kind) ∧ extra name = false))
    (hextra : ∀ name e, extra name = true → fs'.entryAt? (top ++ a ++ [name]) = some e →
      e.kind = .file) :
    Walk.Shows extra (fs'.list (root.descend a)) (fs.list (root.descend a)) := by
  obtain ⟨n', hn', hdir'⟩ := ha
  obtain ⟨n, hn, hdir⟩ := hb
  rw [Opens.list hn hdir, Opens.list hn' hdir']
  have hget := get?_of_resolve hn
  have hget' := get?_of_resolve hn'
  refine .listed _ _ (listing_names_nodup n') ?_ fun e he hmore => ?_
  · rw [Walk.looked, Walk.looked, List.filter_filter]
    refine filter_listing_eq fun name kind => ?_
    rw [mem_listing_iff_entry hget, mem_listing_iff_entry hget']
    by_cases hkind : kind = .pipe
    · simp [hkind]
    · simpa [hkind] using hsame name kind hkind
  · obtain ⟨entry, hentry, hkind⟩ := (mem_listing_iff_entry hget').1 (List.mem_filter.1 he).1
    rw [← hkind]
    exact hextra e.1 entry hmore hentry

/-- A listing shows what stands at the locations below the directory. -/
lemma Listed.child {entries : List (Name × NodeKind)} (h : fs.Opens root top [])
    (ha : fs.Listed root top a .directory) (hlist : fs.list (root.descend a) = .ok entries)
    {e : Name × NodeKind} (he : e ∈ entries) : fs.Listed root top (a ++ [e.1]) e.2 := by
  obtain ⟨l, m, hm, -⟩ := list_eq_ok_iff.1 hlist
  obtain ⟨n, hn, hdir⟩ := h.of_resolve ha.hasDirectory hm
  rw [Opens.list hn hdir, Except.ok.injEq] at hlist
  subst hlist
  refine ⟨?_, .inr ⟨a, e.1, rfl, n, hn, hdir⟩⟩
  rw [← List.append_assoc]
  exact (mem_listing_iff_entry (get?_of_resolve hn)).1 he

end FileSystem

/-! ## What is found -/

namespace Walk

open FileSystem

variable {fs : FileSystem} {root : Path} {top a : Location} {name : Name} {item : WalkItem}

/-- What is known of an item that a walk has met: a file stands in a directory that is opened by
its path, and a fault is a directory that is not. -/
def Found (fs : FileSystem) (root : Path) (top : Location) : WalkItem → Prop
  | .file file => ∃ a name mode contents, file = .ofPath (root.descend (a ++ [name])) ∧
      fs.Opens root top a ∧ fs.entryAt? (top ++ a ++ [name]) = some (.file mode contents)
  | .fault p _ => ∃ a, p = root.descend a ∧ fs.Listed root top a .directory

lemma found_file (h : fs.Rooted root top) {kind : NodeKind} (ha : fs.Listed root top a kind)
    (hkind : kind = .file ∨ kind = .link) :
    Found fs root top (.file (.ofPath (root.descend a))) := by
  obtain ⟨e, he, hkind'⟩ := ha.1
  cases e with
  | file mode contents =>
    obtain ⟨parent, name, rfl, hparent⟩ := ha.exists_parent h.opens (hkind' ▸ NodeKind.noConfusion)
    rw [← List.append_assoc] at he
    exact ⟨parent, name, mode, contents, rfl, hparent, he⟩
  | link target => exact absurd he (h.noLink a target)
  | directory mode =>
    rw [← hkind'] at hkind
    simp [Entry.kind] at hkind
  | pipe mode =>
    rw [← hkind'] at hkind
    simp [Entry.kind] at hkind

/-- Every item that a walk meets is found below its root. -/
theorem found_of_mem_items (h : fs.Rooted root top) (hitem : item ∈ items fs root) :
    Found fs root top item := by
  have hsimulates : Simulates root (fun _ => fs) (fun items item => items ++ [item]) (fun _ => fs)
      (fun items item => items ++ [item]) (fs.Listed root top) (fun _ => false)
      (fun _ (items _ : List WalkItem) => ∀ item ∈ items, Found fs root top item) := by
    refine ⟨?_, ?_, fun _ _ => rfl, ?_, fun _ _ _ hextra => ?_, ?_⟩
    · intro met items _ a _ _ _
      cases hlist : fs.list (root.descend a) with
      | error e => exact .fault e
      | ok entries => exact .listed entries entries (list_names_nodup hlist) (by simp) (by simp)
    · exact fun _ ha _ hlist e he => ha.child h.opens hlist he
    · intro met items _ a kind hitems ha hkind _ _ item hitem
      rcases List.mem_append.1 hitem with hitem | hitem
      · exact hitems item hitem
      · rw [List.mem_singleton.1 hitem]
        exact found_file h ha hkind
    · simp at hextra
    · intro met items _ a e hitems ha _ item hitem
      rcases List.mem_append.1 hitem with hitem | hitem
      · exact hitems item hitem
      · rw [List.mem_singleton.1 hitem]
        exact ⟨a, rfl, ha⟩
  obtain ⟨-, hfound⟩ := fold_simulates hsimulates (s := []) (t := []) h.isDirectory h.isDirectory
    (fun _ hitem => absurd hitem List.not_mem_nil) h.opens.listed rfl
  exact hfound item hitem

/-- Every file in a directory below the root that is opened by its path is met. -/
theorem mem_items (h : fs.Rooted root top) {mode : Nat} {contents : Bytes}
    (hopens : fs.Opens root top a)
    (hfile : fs.entryAt? (top ++ a ++ [name]) = some (.file mode contents)) :
    .file (.ofPath (root.descend (a ++ [name]))) ∈ items fs root := by
  rw [List.append_assoc] at hfile
  have hreaches : Reaches fs root top (a ++ [name]) (fun _ => fs)
      (fun items item => items ++ [item])
      fun items => .file (.ofPath (root.descend (a ++ [name]))) ∈ items := by
    refine ⟨fun _ => ⟨∅, .refl fs⟩, fun _ _ hitem => List.mem_append_left _ hitem, ?_, ?_⟩
    · intro S fs' e hgrown he depth items
      obtain ⟨mode', contents', hfile'⟩ := hgrown.file_of_file hfile
      obtain rfl : .file mode' contents' = e := by rwa [hfile', Option.some.injEq] at he
      rw [Entry.kind, visit_file]
      exact List.mem_append_right _ (List.mem_singleton_self _)
    · -- the directories on the way are opened like the last one
      intro items b e habove hne hlist
      have hb : b <+: a := by
        rcases List.prefix_concat_iff.1 habove with hb | hb
        · exact absurd hb hne
        · exact hb
      obtain ⟨c, rfl⟩ := hb
      obtain ⟨n, hn, hdir⟩ := h.opens.of_append hopens
      rw [Opens.list hn hdir] at hlist
      simp at hlist
  obtain ⟨n, hroot, hn⟩ := h.leads
  exact hreaches.fold hroot hn (List.concat_ne_nil _ _) (by simp [hfile]) rfl

end Walk

end Sidecars
