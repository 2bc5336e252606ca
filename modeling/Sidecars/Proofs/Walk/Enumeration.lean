import Sidecars.Proofs.Path.Components
import Sidecars.Proofs.Walk.Rooted
import Sidecars.Proofs.Walk.Sighting

/-!
# What a walk meets, and in which order

A walk through a file system that stays as it is meets exactly what can be reached from its root:
down through directories that are no links and that can be opened by their paths, it meets the
regular files, the symbolic links that lead to one, and the directories that cannot be opened.  It
meets each of them once, by ascending names at every level.

* `FileSystem.Reachable` is what can be reached, said of the tree and not of the walk.
* `Walk.mem_sightings` says it of a part of a walk: of whatever lies at or below an address.
* `Walk.sightings_pairwise` is the order, by the names that lead to an entry.
* `Walk.items_enumerate` puts the two together for a whole walk.
-/

namespace Sidecars

/-- The location to which a path leads, whether there is an entry or not. -/
def Spot.location : Spot → Location
  | .found loc _ => loc
  | .free place => place.location

/-- Where something is that a walk comes upon. -/
def Sight.path : Sight → Path
  | .file p => p
  | .link p => p
  | .fault p _ => p

lemma Sight.path_of_item? {fs : FileSystem} {x : Sight} {item : WalkItem}
    (h : x.item? fs = some item) : item.path = x.path := by
  cases x with
  | file p =>
    obtain rfl : .file (.ofPath p) = item := by simpa [item?] using h
    rfl
  | link p =>
    obtain ⟨-, rfl⟩ : fs.isFile p = true ∧ .file (.ofPath p) = item := by simpa [item?] using h
    rfl
  | fault p e =>
    obtain rfl : .fault p e = item := by simpa [item?] using h
    rfl

namespace FileSystem

variable {fs : FileSystem} {root p : Path} {top a b : Location} {name : Name} {kind : NodeKind}
  {entries : List (Name × NodeKind)}

/-! ## What can be reached -/

/-- From an address, names lead on through directories each of which can be opened by its path. -/
def Onward (fs : FileSystem) (root : Path) (a b : Location) : Prop :=
  ∀ c name, c ++ [name] <+: b → ∃ entries, fs.list (root.descend (a ++ c)) = .ok entries

/-- An entry to which one can come from a root.  What stands at its location has directories on the
way to it and no links, and all of these can be opened by their paths. -/
structure Reachable (fs : FileSystem) (root : Path) (top a : Location) : Prop where
  /-- There is such an entry. -/
  stands : ∃ e, fs.entryAt? (top ++ a) = some e
  /-- The directories on the way can be opened. -/
  opened : ∀ b name, b ++ [name] <+: a → ∃ entries, fs.list (root.descend b) = .ok entries

/-- An entry that counts as a file: a regular file, or a symbolic link the path of which leads to
one. -/
def CountsAsFile (fs : FileSystem) (root : Path) (top a : Location) : Prop :=
  (∃ mode contents, fs.entryAt? (top ++ a) = some (.file mode contents)) ∨
    (∃ target, fs.entryAt? (top ++ a) = some (.link target)) ∧ fs.isFile (root.descend a) = true

lemma onward_nil : fs.Onward root a [] := by
  intro c name h
  have hlength := h.length_le
  simp at hlength

lemma onward_cons_iff : fs.Onward root a (name :: b) ↔
    (∃ entries, fs.list (root.descend a) = .ok entries) ∧ fs.Onward root (a ++ [name]) b := by
  constructor
  · intro h
    refine ⟨?_, ?_⟩
    · have hfirst := h [] name ⟨b, rfl⟩
      rwa [List.append_nil] at hfirst
    · intro c next hc
      have hnext := h (name :: c) next (List.cons_prefix_cons.2 ⟨rfl, hc⟩)
      rwa [List.append_cons] at hnext
  · rintro ⟨hfirst, hrest⟩ c next hc
    cases c with
    | nil => rwa [List.append_nil]
    | cons other c =>
      obtain ⟨rfl, hrest'⟩ := List.cons_prefix_cons.1 hc
      rw [List.append_cons]
      exact hrest c next hrest'

/-- A listing shows what stands below the location to which the names lead. -/
lemma mem_entries_iff (hroot : fs.Opens root top []) (hdir : fs.HasDirectory (top ++ a))
    (hlist : fs.list (root.descend a) = .ok entries) :
    (name, kind) ∈ entries ↔
      ∃ e, fs.entryAt? (top ++ (a ++ [name])) = some e ∧ e.kind = kind := by
  obtain ⟨l, m, hm, -⟩ := list_eq_ok_iff.1 hlist
  obtain ⟨n, hn, hndir⟩ := hroot.of_resolve hdir hm
  rw [Opens.list hn hndir, Except.ok.injEq] at hlist
  rw [← hlist, mem_listing_iff_entry (get?_of_resolve hn), List.append_assoc]

lemma exists_list_of_isDirectory (h : fs.isDirectory p = true) :
    ∃ entries, fs.list p = .ok entries := by
  obtain ⟨l, n, hn, hdir⟩ := isDirectory_path_iff.1 h
  exact ⟨_, list_eq_ok_iff.2 ⟨l, n, hn, hdir, rfl⟩⟩

lemma entries_pairwise (hlist : fs.list p = .ok entries) :
    entries.Pairwise fun e e' => Name.Before e.1 e'.1 := by
  obtain ⟨-, n, -, -, rfl⟩ := list_eq_ok_iff.1 hlist
  exact listing_pairwise n

lemma length_lt_of_list (hlist : fs.list p = .ok entries) : p.bytes.length < Path.tooLong := by
  obtain ⟨l, n, hn, -⟩ := list_eq_ok_iff.1 hlist
  exact (Path.refusal?_eq_none_iff.1 (refusal?_of_resolve hn)).2.2

end FileSystem

namespace Walk

open FileSystem

variable {fs : FileSystem} {root : Path} {top a b : Location} {x y : Sight} {depth : Nat}
  {kind : NodeKind}

/-! ## What is come upon -/

/-- What a walk comes upon where an entry stands. -/
inductive Sees (fs : FileSystem) (p : Path) : Entry → Sight → Prop where
  /-- A file. -/
  | file (mode : Nat) (contents : Bytes) : Sees fs p (.file mode contents) (.file p)
  /-- A link. -/
  | link (target : Path) : Sees fs p (.link target) (.link p)
  /-- A directory, if it cannot be opened. -/
  | fault (mode : Nat) {e : Errno} (h : fs.list p = .error e) :
      Sees fs p (.directory mode) (.fault p e)

/-- Nothing lies below what is no directory. -/
lemma mem_sightings_leaf {entry : Entry} (hentry : fs.entryAt? (top ++ a) = some entry)
    (hkind : entry.kind ≠ .directory) :
    x ∈ sightings fs depth (root.descend a) entry.kind ↔
      ∃ b e, fs.Onward root a b ∧ fs.entryAt? (top ++ (a ++ b)) = some e ∧
        Sees fs (root.descend (a ++ b)) e x := by
  have hhere : x ∈ sightings fs depth (root.descend a) entry.kind ↔
      Sees fs (root.descend a) entry x := by
    cases entry with
    | file mode contents =>
      rw [Entry.kind, sightings_file, List.mem_singleton]
      constructor
      · rintro rfl
        exact .file mode contents
      · intro h
        cases h
        rfl
    | link target =>
      rw [Entry.kind, sightings_link, List.mem_singleton]
      constructor
      · rintro rfl
        exact .link target
      · intro h
        cases h
        rfl
    | pipe mode =>
      rw [Entry.kind, sightings_pipe]
      constructor
      · intro h
        cases h
      · intro h
        cases h
    | directory mode => exact absurd rfl hkind
  rw [hhere]
  constructor
  · intro h
    exact ⟨[], entry, onward_nil, by rwa [List.append_nil], by rwa [List.append_nil]⟩
  · rintro ⟨b, e, -, he, h⟩
    cases b with
    | nil =>
      rw [List.append_nil, hentry, Option.some.injEq] at he
      rwa [he, ← List.append_nil a]
    | cons name b =>
      -- something below would make it a directory
      rw [← List.append_assoc] at he
      obtain ⟨mode, hmode⟩ := hasDirectory_of_below he
      rw [hentry, Option.some.injEq] at hmode
      rw [hmode] at hkind
      exact absurd rfl hkind

/-- Nothing is come upon below a directory that cannot be opened. -/
lemma mem_sightings_closed {mode : Nat} {err : Errno}
    (hentry : fs.entryAt? (top ++ a) = some (.directory mode))
    (hlist : fs.list (root.descend a) = .error err) :
    x ∈ sightings fs (depth + 1) (root.descend a) .directory ↔
      ∃ b e, fs.Onward root a b ∧ fs.entryAt? (top ++ (a ++ b)) = some e ∧
        Sees fs (root.descend (a ++ b)) e x := by
  rw [sightings, hlist]
  simp only [List.mem_singleton]
  constructor
  · rintro rfl
    refine ⟨[], .directory mode, onward_nil, ?_, ?_⟩
    · rwa [List.append_nil]
    · rw [List.append_nil]
      exact .fault mode hlist
  · rintro ⟨b, e, honward, he, h⟩
    cases b with
    | nil =>
      rw [List.append_nil] at he h
      rw [hentry, Option.some.injEq] at he
      subst he
      cases h with
      | fault _ herr =>
        rw [hlist, Except.error.injEq] at herr
        rw [herr]
    | cons name b =>
      obtain ⟨⟨entries, hentries⟩, -⟩ := onward_cons_iff.1 honward
      rw [hlist] at hentries
      cases hentries

/-- What can be reached from a directory that can be opened is reached by way of its entries. -/
lemma exists_onward_iff {mode : Nat} {entries : List (Name × NodeKind)}
    (hentry : fs.entryAt? (top ++ a) = some (.directory mode))
    (hlist : fs.list (root.descend a) = .ok entries) :
    (∃ b e, fs.Onward root a b ∧ fs.entryAt? (top ++ (a ++ b)) = some e ∧
        Sees fs (root.descend (a ++ b)) e x) ↔
      ∃ name e, fs.entryAt? (top ++ (a ++ [name])) = some e ∧
        ∃ b e', fs.Onward root (a ++ [name]) b ∧
          fs.entryAt? (top ++ (a ++ [name] ++ b)) = some e' ∧
          Sees fs (root.descend (a ++ [name] ++ b)) e' x := by
  constructor
  · rintro ⟨b, e', honward, he', h⟩
    cases b with
    | nil =>
      rw [List.append_nil] at he' h
      rw [hentry, Option.some.injEq] at he'
      subst he'
      cases h with
      | fault _ herr =>
        rw [hlist] at herr
        cases herr
    | cons name b =>
      rw [List.append_cons] at he' h
      have hstands : ∃ e, fs.entryAt? (top ++ (a ++ [name])) = some e := by
        cases b with
        | nil => exact ⟨e', by rwa [List.append_nil] at he'⟩
        | cons next b =>
          rw [← List.append_assoc] at he'
          obtain ⟨mode, hmode⟩ := hasDirectory_of_below he'
          exact ⟨_, hmode⟩
      obtain ⟨e, he⟩ := hstands
      exact ⟨name, e, he, b, e', (onward_cons_iff.1 honward).2, he', h⟩
  · rintro ⟨name, e, -, b, e', honward, he', h⟩
    rw [← List.append_cons] at he' h
    exact ⟨name :: b, e', onward_cons_iff.2 ⟨⟨entries, hlist⟩, honward⟩, he', h⟩

/-- A walk through what lies at an address comes upon exactly what can be reached from there.  The
levels that may be entered do not run out, since a path is too long to be followed before. -/
theorem mem_sightings (hroot : fs.Opens root top []) {entry : Entry}
    (hentry : fs.entryAt? (top ++ a) = some entry)
    (hdepth : Path.tooLong < depth + (root.descend a).bytes.length) (hpos : 0 < depth) :
    x ∈ sightings fs depth (root.descend a) entry.kind ↔
      ∃ b e, fs.Onward root a b ∧ fs.entryAt? (top ++ (a ++ b)) = some e ∧
        Sees fs (root.descend (a ++ b)) e x := by
  induction depth generalizing a entry with
  | zero => exact absurd hpos (lt_irrefl 0)
  | succ depth ih =>
    by_cases hkind : entry.kind = .directory
    · obtain ⟨mode, rfl⟩ : ∃ mode, entry = .directory mode := by
        cases entry <;> simp [Entry.kind] at hkind ⊢
      rw [Entry.kind]
      cases hlist : fs.list (root.descend a) with
      | error err => exact mem_sightings_closed hentry hlist
      | ok entries =>
        rw [exists_onward_iff hentry hlist, sightings, hlist]
        -- the path of the directory could be followed, and that of an entry is longer
        have hshort := length_lt_of_list hlist
        have hchild (name : Name) (e : Entry)
            (he : fs.entryAt? (top ++ (a ++ [name])) = some e) :
            x ∈ sightings fs depth ((root.descend a).join name.bytes) e.kind ↔
              ∃ b e', fs.Onward root (a ++ [name]) b ∧
                fs.entryAt? (top ++ (a ++ [name] ++ b)) = some e' ∧
                Sees fs (root.descend (a ++ [name] ++ b)) e' x := by
          have hlonger := Path.length_descend (root.descend a) [name]
          have hdescend : root.descend (a ++ [name]) = (root.descend a).descend [name] :=
            Path.descend_concat root a name
          rw [List.length_singleton, ← hdescend] at hlonger
          rw [← Path.descend_concat]
          refine ih he ?_ ?_
          · omega
          · omega
        have hmem (name : Name) (kind : NodeKind) : (name, kind) ∈ entries ↔
            ∃ e, fs.entryAt? (top ++ (a ++ [name])) = some e ∧ e.kind = kind :=
          mem_entries_iff hroot ⟨mode, hentry⟩ hlist
        simp only [List.mem_flatMap]
        constructor
        · rintro ⟨⟨name, kind⟩, hname, hx⟩
          obtain ⟨e, he, rfl⟩ := (hmem name kind).1 hname
          exact ⟨name, e, he, (hchild name e he).1 hx⟩
        · rintro ⟨name, e, he, hbelow⟩
          exact ⟨(name, e.kind), (hmem name e.kind).2 ⟨e, he, rfl⟩, (hchild name e he).2 hbelow⟩
    · exact mem_sightings_leaf hentry hkind

/-! ## The order -/

/-- The names that lead to one thing come before those that lead to another one. -/
def Ordered (root : Path) (x y : Sight) : Prop :=
  ∃ b c, x.path = root.descend b ∧ y.path = root.descend c ∧ List.Lex Name.Before b c

/-- What a walk comes upon lies at or below where it goes through. -/
lemma exists_path_of_mem_sightings (h : x ∈ sightings fs depth (root.descend a) kind) :
    ∃ b, x.path = root.descend (a ++ b) := by
  induction depth generalizing a kind with
  | zero =>
    refine ⟨[], ?_⟩
    rw [List.append_nil]
    cases kind with
    | file => rw [List.mem_singleton.1 h]; rfl
    | link => rw [List.mem_singleton.1 h]; rfl
    | pipe => cases h
    | directory => cases h
  | succ depth ih =>
    cases kind with
    | file => exact ⟨[], by rw [List.append_nil, List.mem_singleton.1 h]; rfl⟩
    | link => exact ⟨[], by rw [List.append_nil, List.mem_singleton.1 h]; rfl⟩
    | pipe => cases h
    | directory =>
      rw [sightings] at h
      cases hlist : fs.list (root.descend a) with
      | error e =>
        simp only [hlist] at h
        exact ⟨[], by rw [List.append_nil, List.mem_singleton.1 h]; rfl⟩
      | ok entries =>
        simp only [hlist, List.mem_flatMap] at h
        obtain ⟨⟨name, kind⟩, -, hx⟩ := h
        rw [← Path.descend_concat] at hx
        obtain ⟨b, hb⟩ := ih hx
        exact ⟨name :: b, by rw [hb, ← List.append_cons]⟩

/-- A walk goes by ascending names at every level. -/
theorem sightings_pairwise :
    (sightings fs depth (root.descend a) kind).Pairwise (Ordered root) := by
  induction depth generalizing a kind with
  | zero => cases kind <;> simp [sightings]
  | succ depth ih =>
    cases kind with
    | file => exact List.pairwise_singleton _ _
    | link => exact List.pairwise_singleton _ _
    | pipe => exact List.Pairwise.nil
    | directory =>
      rw [sightings]
      cases hlist : fs.list (root.descend a) with
      | error e => exact List.pairwise_singleton _ _
      | ok entries =>
        refine List.pairwise_flatMap.2 ⟨?_, ?_⟩
        · rintro ⟨name, kind⟩ -
          rw [← Path.descend_concat]
          exact ih
        · -- what lies below different names is decided by these
          refine (entries_pairwise hlist).imp ?_
          rintro ⟨name, kind⟩ ⟨name', kind'⟩ hbefore x hx y hy
          rw [← Path.descend_concat] at hx hy
          obtain ⟨b, hb⟩ := exists_path_of_mem_sightings hx
          obtain ⟨c, hc⟩ := exists_path_of_mem_sightings hy
          refine ⟨_, _, hb, hc, ?_⟩
          rw [List.append_assoc, List.append_assoc]
          exact List.Lex.append_left _ (.rel hbefore) a

/-! ## The whole walk -/

lemma mem_items_iff {item : WalkItem} {n : Node} (hroot : fs.resolve true root = .ok (.found top n))
    (hn : n.isDirectory = true) :
    item ∈ items fs root ↔ ∃ a e x, fs.Reachable root top a ∧ fs.entryAt? (top ++ a) = some e ∧
      Sees fs (root.descend a) e x ∧ x.item? fs = some item := by
  have hopens : fs.Opens root top [] := ⟨n, by rwa [List.append_nil], hn⟩
  obtain ⟨mode, hmode⟩ := hopens.leads.directory
  have hlength : 0 < root.bytes.length := List.length_pos_iff.2 hopens.bytes_ne_nil
  have hdepth : Path.tooLong < maxDepth + (root.descend []).bytes.length := by
    show Path.tooLong < maxDepth + root.bytes.length
    unfold maxDepth
    omega
  have hsightings (x : Sight) := mem_sightings (x := x) hopens hmode hdepth (by decide)
  rw [items_eq_filterMap (isDirectory_path_iff.2 ⟨top, n, hroot, hn⟩), List.mem_filterMap]
  constructor
  · rintro ⟨x, hx, hitem⟩
    obtain ⟨a, e, honward, he, hsees⟩ := (hsightings x).1 hx
    exact ⟨a, e, x, ⟨⟨e, he⟩, honward⟩, he, hsees, hitem⟩
  · rintro ⟨a, e, x, hreachable, he, hsees, hitem⟩
    exact ⟨x, (hsightings x).2 ⟨a, e, hreachable.opened, he, hsees⟩, hitem⟩

/-- The files that a walk meets. -/
lemma file_mem_items_iff {n : Node} (hroot : fs.resolve true root = .ok (.found top n))
    (hn : n.isDirectory = true) (a : Location) :
    .file (.ofPath (root.descend a)) ∈ items fs root ↔
      fs.Reachable root top a ∧ fs.CountsAsFile root top a := by
  have hne := bytes_ne_nil_of_resolve hroot
  rw [mem_items_iff hroot hn]
  constructor
  · rintro ⟨b, e, x, hreachable, he, hsees, hitem⟩
    have hpath := Sight.path_of_item? hitem
    cases hsees with
    | file mode contents =>
      obtain rfl := Path.descend_injective hne hpath
      exact ⟨hreachable, .inl ⟨mode, contents, he⟩⟩
    | link target =>
      obtain rfl := Path.descend_injective hne hpath
      have hfile : fs.isFile (root.descend a) = true := by
        by_contra hfile
        simp [Sight.item?, hfile] at hitem
      exact ⟨hreachable, .inr ⟨⟨target, he⟩, hfile⟩⟩
    | fault mode herr => simp [Sight.item?] at hitem
  · rintro ⟨hreachable, ⟨mode, contents, he⟩ | ⟨⟨target, he⟩, hfile⟩⟩
    · exact ⟨a, _, _, hreachable, he, .file mode contents, rfl⟩
    · exact ⟨a, _, _, hreachable, he, .link target, by simp [Sight.item?, hfile]⟩

/-- The directories that a walk cannot open. -/
lemma fault_mem_items_iff {n : Node} (hroot : fs.resolve true root = .ok (.found top n))
    (hn : n.isDirectory = true) (a : Location) (e : Errno) :
    .fault (root.descend a) e ∈ items fs root ↔
      fs.Reachable root top a ∧ fs.HasDirectory (top ++ a) ∧
        fs.list (root.descend a) = .error e := by
  have hne := bytes_ne_nil_of_resolve hroot
  rw [mem_items_iff hroot hn]
  constructor
  · rintro ⟨b, entry, x, hreachable, he, hsees, hitem⟩
    have hpath := Sight.path_of_item? hitem
    cases hsees with
    | file mode contents => simp [Sight.item?] at hitem
    | link target => simp [Sight.item?] at hitem
    | @fault mode err herr =>
      obtain rfl := Path.descend_injective hne hpath
      obtain rfl : err = e := by simpa [Sight.item?] using hitem
      exact ⟨hreachable, ⟨mode, he⟩, herr⟩
  · rintro ⟨hreachable, ⟨mode, he⟩, herr⟩
    exact ⟨a, _, _, hreachable, he, .fault mode herr, rfl⟩

/-- A walk meets nothing but files and directories that cannot be opened, below its root. -/
lemma exists_descend_of_mem_items {n : Node} {item : WalkItem}
    (hroot : fs.resolve true root = .ok (.found top n)) (hn : n.isDirectory = true)
    (h : item ∈ items fs root) :
    ∃ a, item = .file (.ofPath (root.descend a)) ∨ ∃ e, item = .fault (root.descend a) e := by
  obtain ⟨a, e, x, -, -, hsees, hx⟩ := (mem_items_iff hroot hn).1 h
  refine ⟨a, ?_⟩
  cases hsees with
  | file mode contents => exact .inl (by simpa [Sight.item?] using hx.symm)
  | link target =>
    obtain ⟨-, rfl⟩ : fs.isFile (root.descend a) = true ∧ _ = item := by
      simpa [Sight.item?] using hx
    exact .inl rfl
  | @fault mode err herr => exact .inr ⟨err, by simpa [Sight.item?] using hx.symm⟩

lemma items_pairwise {n : Node} (hroot : fs.resolve true root = .ok (.found top n))
    (hn : n.isDirectory = true) :
    (items fs root).Pairwise fun item item' => item.path.Before item'.path := by
  have hsightings : (sightings fs maxDepth (root.descend []) .directory).Pairwise (Ordered root) :=
    sightings_pairwise
  rw [items_eq_filterMap (isDirectory_path_iff.2 ⟨top, n, hroot, hn⟩)]
  refine List.Pairwise.filterMap _ ?_ hsightings
  rintro x y ⟨b, c, hb, hc, hlex⟩ item hitem item' hitem'
  rw [Sight.path_of_item? hitem, Sight.path_of_item? hitem', hb, hc]
  exact Path.before_descend (bytes_ne_nil_of_resolve hroot) hlex

/-- A walk from a root that leads to a directory meets exactly what can be reached from there.  It
meets the files: regular ones, and symbolic links that lead to one.  It meets the directories that
cannot be opened, each with the reason.  It meets nothing else.  The paths of what it meets go up
strictly when they are compared component by component, so each of them is met once. -/
theorem items_enumerate (fs : FileSystem) (root : Path) (h : fs.isDirectory root = true) :
    ∃ top, (∃ n, fs.resolve true root = .ok (.found top n)) ∧
      (∀ a, .file (.ofPath (root.descend a)) ∈ items fs root ↔
        fs.Reachable root top a ∧ fs.CountsAsFile root top a) ∧
      (∀ a e, .fault (root.descend a) e ∈ items fs root ↔
        fs.Reachable root top a ∧ fs.HasDirectory (top ++ a) ∧
          fs.list (root.descend a) = .error e) ∧
      (∀ item ∈ items fs root, ∃ a, item = .file (.ofPath (root.descend a)) ∨
        ∃ e, item = .fault (root.descend a) e) ∧
      (items fs root).Pairwise (fun item item' => item.path.Before item'.path) ∧
      ((items fs root).map WalkItem.path).Nodup := by
  obtain ⟨top, n, hroot, hn⟩ := isDirectory_path_iff.1 h
  have hpairwise := items_pairwise hroot hn
  refine ⟨top, ⟨n, hroot⟩, file_mem_items_iff hroot hn, fault_mem_items_iff hroot hn,
    fun item hitem => exists_descend_of_mem_items hroot hn hitem, hpairwise, ?_⟩
  -- what comes before something else is not the same
  rw [List.nodup_iff_pairwise_ne, List.pairwise_map]
  exact hpairwise.imp Path.ne_of_before

/-! ## A gallery -/

/-- The name `gallery`. -/
def galleryName : Name where
  bytes := Binary.ascii "gallery"
  plain := by decide

/-- The name `a`. -/
def roomName : Name where
  bytes := Binary.ascii "a"
  plain := by decide

/-- The name `cellar`. -/
def cellarName : Name where
  bytes := Binary.ascii "cellar"
  plain := by decide

/-- The name `here`. -/
def hereName : Name where
  bytes := Binary.ascii "here"
  plain := by decide

/-- A file system with a directory of everything that a walk may come upon: directories, files, a
pipe, and links that lead to a file, to a directory, to themselves and nowhere. -/
def gallerySystem : FileSystem where
  root := .directory 0o755
    [(⟨Binary.ascii "way", by decide⟩, .link ⟨Binary.ascii "gallery"⟩),
      (galleryName, .directory 0o755
        [(cellarName, .directory 0o755 []),
          (⟨Binary.ascii "a.txt", by decide⟩, .file 0o644 []),
          (hereName, .link ⟨Binary.ascii "."⟩),
          (roomName, .directory 0o755 [(roomName, .file 0o644 [])]),
          (⟨Binary.ascii "l", by decide⟩, .link ⟨Binary.ascii "a.txt"⟩),
          (⟨Binary.ascii "loop", by decide⟩, .link ⟨Binary.ascii "loop"⟩),
          (⟨Binary.ascii "lost", by decide⟩, .link ⟨Binary.ascii "nothing"⟩),
          (⟨Binary.ascii "p", by decide⟩, .pipe 0o644)])]
  current := []
  umask := 0o022

/-- A path to the link to the gallery.  With `/cellar` behind it it is too long to be followed. -/
def galleryPath : Path :=
  ⟨(List.replicate 2043 (Binary.ascii "./")).flatten ++ Binary.ascii "way"⟩

/-- A walk through the gallery meets the file in a directory and the directory that cannot be
opened, but not the link that leads back to the gallery. -/
theorem items_enumerate_gallery :
    .file (.ofPath (galleryPath.descend [roomName, roomName])) ∈ items gallerySystem galleryPath ∧
      .fault (galleryPath.descend [cellarName]) .nameTooLong ∈ items gallerySystem galleryPath ∧
      .file (.ofPath (galleryPath.descend [hereName])) ∉ items gallerySystem galleryPath := by
  have hdirectory : gallerySystem.isDirectory galleryPath = true := by decide +kernel
  obtain ⟨top, ⟨n, hroot⟩, hfiles, hfaults, -⟩ :=
    items_enumerate gallerySystem galleryPath hdirectory
  have htop : (gallerySystem.resolve true galleryPath).map Spot.location = .ok [galleryName] := by
    decide +kernel
  obtain rfl : top = [galleryName] := by simpa [hroot, Except.map, Spot.location] using htop
  have hgallery : ∃ entries, gallerySystem.list (galleryPath.descend []) = .ok entries :=
    exists_list_of_isDirectory hdirectory
  have hroom := exists_list_of_isDirectory
    (show gallerySystem.isDirectory (galleryPath.descend [roomName]) = true by decide +kernel)
  refine ⟨(hfiles _).2 ⟨⟨⟨_, rfl⟩, ?_⟩, .inl ⟨_, _, rfl⟩⟩,
    (hfaults _ _).2 ⟨⟨⟨_, rfl⟩, ?_⟩, ⟨_, rfl⟩, by decide +kernel⟩, ?_⟩
  · exact onward_cons_iff.2 ⟨hgallery, onward_cons_iff.2 ⟨hroom, onward_nil⟩⟩
  · exact onward_cons_iff.2 ⟨hgallery, onward_nil⟩
  · intro hmem
    obtain ⟨-, ⟨mode, contents, hfile⟩ | ⟨-, hfile⟩⟩ := (hfiles _).1 hmem
    · cases hfile
    · exact absurd hfile (by decide +kernel)

end Walk

end Sidecars
