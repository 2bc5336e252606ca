import Mathlib.Data.List.Sort
import Mathlib.Tactic.Common
import Sidecars.FileSystem.Change

/-!
# What stands where after a change

A change concerns the entries of one directory.  Here is what it does to what can be told of every
other location: nothing, as long as the entry that is set or dropped is no directory.

* `FileSystem.entryAt?_put` and `FileSystem.entryAt?_drop` say what stands at every location after an
  entry was set or dropped;
* `Node.names_pairwise` says that the names of a directory are in order.
-/

namespace Sidecars

namespace Node

/-! ## Going down -/

@[simp] lemma get?_nil (n : Node) : n.get? [] = some n := rfl

lemma get?_cons (n : Node) (name : Name) (loc : Location) :
    n.get? (name :: loc) = (n.child? name).bind fun m => m.get? loc := rfl

lemma get?_singleton (n : Node) (name : Name) : n.get? [name] = n.child? name := by
  rw [get?_cons]
  cases n.child? name <;> rfl

lemma get?_append (n : Node) (a b : Location) :
    n.get? (a ++ b) = (n.get? a).bind fun m => m.get? b := by
  induction a generalizing n with
  | nil => rfl
  | cons name a ih =>
    rw [List.cons_append, get?_cons, get?_cons]
    cases n.child? name with
    | none => rfl
    | some m => exact ih m

lemma get?_concat {n d : Node} {loc : Location} (h : n.get? loc = some d) (name : Name) :
    n.get? (loc ++ [name]) = d.child? name := by
  rw [get?_append, h]
  exact get?_singleton d name

lemma isDirectory_iff {n : Node} : n.isDirectory = true ↔ ∃ mode es, n = .directory mode es := by
  cases n <;> simp [isDirectory, kind]

lemma isDirectory_iff_entry {n : Node} :
    n.isDirectory = true ↔ ∃ mode, n.entry = .directory mode := by
  cases n <;> simp [isDirectory, kind, entry]

lemma isDirectory_of_child? {n m : Node} {name : Name} (h : n.child? name = some m) :
    n.isDirectory = true := by
  cases n with
  | directory mode es => rfl
  | file mode contents => simp [child?, entries] at h
  | link target => simp [child?, entries] at h
  | pipe mode => simp [child?, entries] at h

lemma isDirectory_of_get?_cons {n m : Node} {name : Name} {loc : Location}
    (h : n.get? (name :: loc) = some m) : n.isDirectory = true := by
  rw [get?_cons, Option.bind_eq_some_iff] at h
  obtain ⟨child, hchild, -⟩ := h
  exact isDirectory_of_child? hchild

/-- What has a directory below it is a directory. -/
lemma isDirectory_of_get? {n d : Node} {loc : Location} (h : n.get? loc = some d)
    (hdir : d.isDirectory = true) : n.isDirectory = true := by
  cases loc with
  | nil => exact Option.some.inj h ▸ hdir
  | cons name loc => exact isDirectory_of_get?_cons h

/-- Above a directory there is a directory. -/
lemma isDirectory_of_dropLast {n m parent : Node} {loc : Location} (hm : n.get? loc = some m)
    (hdir : m.isDirectory = true) (hparent : n.get? loc.dropLast = some parent) :
    parent.isDirectory = true := by
  rcases List.eq_nil_or_concat loc with rfl | ⟨before, name, rfl⟩
  · rw [List.dropLast_nil, hm, Option.some.injEq] at hparent
    exact hparent ▸ hdir
  · rw [List.concat_eq_append, List.dropLast_concat] at hparent
    rw [List.concat_eq_append, get?_concat hparent] at hm
    exact isDirectory_of_child? hm

/-! ## Changing the entries of a directory -/

lemma get?_update {n : Node} {dir : Location} {mode : Nat} {es : List (Name × Node)}
    (change : List (Name × Node) → List (Name × Node))
    (h : n.get? dir = some (.directory mode es)) (loc : Location) :
    (n.update change dir).get? (dir ++ loc) = (Node.directory mode (change es)).get? loc := by
  induction dir generalizing n with
  | nil =>
    rw [get?_nil, Option.some.injEq] at h
    subst h
    rfl
  | cons name dir ih =>
    obtain ⟨mode', es', rfl⟩ := isDirectory_iff.1 (isDirectory_of_get?_cons h)
    rw [get?_cons, Option.bind_eq_some_iff] at h
    obtain ⟨m, hm, h⟩ := h
    have hlookup : es'.lookup name = some m := hm
    have hchild : (Node.directory mode' (put name (update change dir m) es')).child? name =
        some (update change dir m) := by
      change (put name (update change dir m) es').lookup name = _
      rw [lookup_put, if_pos rfl]
    rw [update, hlookup, List.cons_append, get?_cons, hchild]
    exact ih h

/-- Nothing changes at a location that is not below the directory whose entries change. -/
lemma entryAt?_update_of_not_below (change : List (Name × Node) → List (Name × Node)) (n : Node)
    (dir loc : Location) (h : ∀ name rest, loc ≠ dir ++ name :: rest) :
    (n.update change dir).entryAt? loc = n.entryAt? loc := by
  induction dir generalizing n loc with
  | nil =>
    cases loc with
    | nil => cases n <;> rfl
    | cons name rest => exact absurd rfl (h name rest)
  | cons d dir ih =>
    cases n with
    | file mode contents => rfl
    | link target => rfl
    | pipe mode => rfl
    | directory mode es =>
      rw [update]
      cases hlookup : es.lookup d with
      | none => rfl
      | some m =>
        cases loc with
        | nil => rfl
        | cons name loc =>
          by_cases hname : name = d
          · subst hname
            have hbelow : ∀ x rest, loc ≠ dir ++ x :: rest := by
              intro x rest hloc
              exact h x rest (by rw [hloc, List.cons_append])
            have hm := ih m loc hbelow
            simp only [entryAt?, get?_cons, child?, entries, lookup_put, ↓reduceIte,
              Option.bind_some, hlookup] at hm ⊢
            exact hm
          · simp only [entryAt?, get?_cons, child?, entries, lookup_put, if_neg hname]

/-! ## Names -/

lemma mem_names_iff {n : Node} {name : Name} : name ∈ n.names ↔ ∃ m, n.child? name = some m := by
  rw [names, Name.mem_sorted, List.mem_map]
  constructor
  · rintro ⟨⟨key, m⟩, hmem, rfl⟩
    have : (n.entries.lookup key).isSome := by
      rw [List.lookup_isSome_iff]
      exact ⟨(key, m), hmem, by simp⟩
    obtain ⟨m', hm'⟩ := Option.isSome_iff_exists.1 this
    exact ⟨m', hm'⟩
  · rintro ⟨m, hm⟩
    obtain ⟨l, r, heq, -⟩ := List.lookup_eq_some_iff.1 hm
    exact ⟨(name, m), by rw [heq]; simp, rfl⟩

end Node

/-! ## The order of a listing -/

namespace Name

/-- Whether a name stands in front of another one in a listing. -/
def Before (a b : Name) : Prop := a.bytes < b.bytes

lemma Before.trans {a b c : Name} (hab : Before a b) (hbc : Before b c) : Before a c :=
  List.lt_trans hab hbc

instance : Std.Irrefl Before := ⟨fun a => List.lt_irrefl a.bytes⟩

instance : Std.Antisymm Before :=
  ⟨fun _ _ hab hba => absurd hba (List.lt_asymm hab)⟩

lemma bytes_injective {a b : Name} (h : a.bytes = b.bytes) : a = b := by
  cases a
  cases b
  simpa using h

lemma before_of_not {a b : Name} (hne : a ≠ b) (h : ¬ Before a b) : Before b a := by
  rcases List.le_iff_lt_or_eq.1 (List.not_lt.1 h) with hlt | heq
  · exact hlt
  · exact absurd (bytes_injective heq.symm) hne

lemma pairwise_insertSorted {a : Name} {names : List Name} (h : names.Pairwise Before) :
    (insertSorted a names).Pairwise Before := by
  induction names with
  | nil => simp [insertSorted]
  | cons b names ih =>
    rw [List.pairwise_cons] at h
    unfold insertSorted
    split
    · next hab =>
      refine List.pairwise_cons.2 ⟨fun c hc => ?_, List.pairwise_cons.2 h⟩
      rcases List.mem_cons.1 hc with rfl | hc
      · exact hab
      · exact Before.trans hab (h.1 c hc)
    · next hab =>
      split
      · exact List.pairwise_cons.2 h
      · next hne =>
        refine List.pairwise_cons.2 ⟨fun c hc => ?_, ih h.2⟩
        rcases mem_insertSorted.1 hc with rfl | hc
        · exact before_of_not hne hab
        · exact h.1 c hc

lemma pairwise_sorted (names : List Name) : (sorted names).Pairwise Before := by
  induction names with
  | nil => exact List.Pairwise.nil
  | cons a names ih => exact pairwise_insertSorted ih

end Name

namespace Node

lemma names_pairwise (n : Node) : n.names.Pairwise Name.Before :=
  Name.pairwise_sorted _

end Node

/-! ## File systems -/

namespace FileSystem

lemma entryAt?_eq (fs : FileSystem) (loc : Location) :
    fs.entryAt? loc = (fs.root.get? loc).map Node.entry :=
  rfl

/-- Whether a directory stands at a location. -/
def HasDirectory (fs : FileSystem) (loc : Location) : Prop :=
  ∃ mode, fs.entryAt? loc = some (.directory mode)

lemma hasDirectory_iff {fs : FileSystem} {loc : Location} :
    fs.HasDirectory loc ↔ ∃ n, fs.root.get? loc = some n ∧ n.isDirectory = true := by
  simp only [HasDirectory, entryAt?_eq, Option.map_eq_some_iff, Node.isDirectory_iff_entry]
  constructor
  · rintro ⟨mode, n, hn, hentry⟩
    exact ⟨n, hn, mode, hentry⟩
  · rintro ⟨n, hn, mode, hentry⟩
    exact ⟨mode, n, hn, hentry⟩

/-- What stands below something is below a directory. -/
lemma hasDirectory_of_below {fs : FileSystem} {loc : Location} {name : Name} {rest : Location}
    {e : Entry} (h : fs.entryAt? (loc ++ name :: rest) = some e) : fs.HasDirectory loc := by
  rw [entryAt?_eq, Node.get?_append, Option.map_eq_some_iff] at h
  obtain ⟨n, hn, -⟩ := h
  obtain ⟨d, hd, hn⟩ := Option.bind_eq_some_iff.1 hn
  exact hasDirectory_iff.2 ⟨d, hd, Node.isDirectory_of_get?_cons hn⟩

/-- Nothing stands below something that is no directory. -/
lemma entryAt?_below_eq_none {fs : FileSystem} {loc : Location} (h : ¬ fs.HasDirectory loc)
    (name : Name) (rest : Location) : fs.entryAt? (loc ++ name :: rest) = none := by
  cases he : fs.entryAt? (loc ++ name :: rest) with
  | none => rfl
  | some e => exact absurd (hasDirectory_of_below he) h

/-- Setting entries in a directory changes, of what can be told, only what that directory tells of
its own entries. -/
lemma entryAt?_update {fs : FileSystem} {dir : Location} (hdir : fs.HasDirectory dir)
    (change : List (Name × Node) → List (Name × Node)) (name : Name) (rest : Location) :
    ∃ es, (∀ other, es.lookup other = fs.root.get? (dir ++ [other])) ∧
      (fs.root.update change dir).entryAt? (dir ++ name :: rest) =
        (((change es).lookup name).bind fun m => m.get? rest).map Node.entry := by
  obtain ⟨n, hn, hdirectory⟩ := hasDirectory_iff.1 hdir
  obtain ⟨mode, es, rfl⟩ := Node.isDirectory_iff.1 hdirectory
  refine ⟨es, fun other => ?_, ?_⟩
  · rw [Node.get?_concat hn]
    rfl
  · rw [Node.entryAt?, Node.get?_update change hn]
    rfl

/-- Changing the entry of one name, which neither was nor becomes a directory, changes that entry
and nothing else. -/
lemma entryAt?_update_of_lookup {fs : FileSystem} {place : Place} {r : Option Node}
    {change : List (Name × Node) → List (Name × Node)} (hdir : fs.HasDirectory place.directory)
    (hchange : ∀ es other, (change es).lookup other =
      if other = place.name then r else es.lookup other)
    (hr : ∀ m, r = some m → m.isDirectory = false) (hold : ¬ fs.HasDirectory place.location)
    (loc : Location) :
    (fs.root.update change place.directory).entryAt? loc =
      if loc = place.location then r.map Node.entry else fs.entryAt? loc := by
  by_cases hbelow : ∃ name rest, loc = place.directory ++ name :: rest
  · obtain ⟨name, rest, rfl⟩ := hbelow
    obtain ⟨es, hes, hupdate⟩ := entryAt?_update hdir change name rest
    rw [hupdate, hchange]
    by_cases hname : name = place.name
    · subst hname
      rw [if_pos rfl]
      cases rest with
      | nil =>
        have hloc : place.directory ++ [place.name] = place.location := rfl
        rw [if_pos hloc]
        simp only [Node.get?_nil, Option.bind_fun_some]
      | cons x rest =>
        -- below the entry there is nothing, neither before nor after the change
        have hne : place.directory ++ place.name :: x :: rest ≠ place.location := by
          simp [Place.location]
        have hnone : fs.entryAt? (place.directory ++ place.name :: x :: rest) = none := by
          simpa [Place.location] using entryAt?_below_eq_none hold x rest
        rw [if_neg hne, hnone, Option.map_eq_none_iff, Option.bind_eq_none_iff]
        intro m hrm
        cases hget : m.get? (x :: rest) with
        | none => rfl
        | some k =>
          have hdirectory := Node.isDirectory_of_get?_cons hget
          rw [hr m hrm] at hdirectory
          exact absurd hdirectory Bool.false_ne_true
    · have hne : place.directory ++ name :: rest ≠ place.location := by
        simp [Place.location, hname]
      rw [if_neg hname, if_neg hne, hes, entryAt?_eq, Node.get?_append, Node.get?_append]
      simp only [Option.bind_assoc, Node.get?_singleton]
      rfl
  · have hne : loc ≠ place.location := by
      intro heq
      exact hbelow ⟨place.name, [], heq⟩
    rw [if_neg hne]
    refine Node.entryAt?_update_of_not_below _ _ _ _ fun name rest heq => ?_
    exact hbelow ⟨name, rest, heq⟩

/-- Setting an entry to something that is no directory, where no directory was, changes that entry
and nothing else. -/
theorem entryAt?_put {fs : FileSystem} {place : Place} {m : Node}
    (hdir : fs.HasDirectory place.directory) (hm : m.isDirectory = false)
    (hold : ¬ fs.HasDirectory place.location) (loc : Location) :
    (fs.put place m).entryAt? loc =
      if loc = place.location then some m.entry else fs.entryAt? loc := by
  refine entryAt?_update_of_lookup hdir (fun es other => Node.lookup_put _ _ _ _) ?_ hold loc
  rintro _ ⟨⟩
  exact hm

/-- Dropping an entry that is no directory changes that entry and nothing else. -/
theorem entryAt?_drop {fs : FileSystem} {place : Place} (hdir : fs.HasDirectory place.directory)
    (hold : ¬ fs.HasDirectory place.location) (loc : Location) :
    (fs.drop place).entryAt? loc = if loc = place.location then none else fs.entryAt? loc := by
  refine entryAt?_update_of_lookup hdir (fun es other => Node.lookup_drop _ _ _) ?_ hold loc
  rintro _ ⟨⟩

end FileSystem

end Sidecars
