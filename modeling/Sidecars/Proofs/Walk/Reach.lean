import Sidecars.Proofs.Walk.Descent
import Sidecars.Proofs.Walk.Uniform

/-!
# What a walk gets to

Whatever stands below the root of a walk before it starts, the walk gets there, even if regular
files are added on its way: it goes down from directory to directory, unless one of them cannot be
looked into when its turn comes.  The levels that may be entered never run out, since a path is too
long to be followed before.

* `Walk.Reaches` says what the walk has to do with an entry on its way and at the end.
* `Walk.Reaches.visit` takes the walk from a directory to an entry below it, and
  `Walk.Reaches.fold` from the root.
-/

namespace Sidecars.Walk

open FileSystem

variable {σ : Type} {fs : FileSystem} {root : Path} {top a : Location} {system : σ → FileSystem}
  {meet : σ → WalkItem → σ} {P : σ → Prop}

/-- A property that a walk gets to with the entry at an address. -/
structure Reaches (fs : FileSystem) (root : Path) (top a : Location) (system : σ → FileSystem)
    (meet : σ → WalkItem → σ) (P : σ → Prop) : Prop where
  /-- While the walk goes on, regular files may be added. -/
  grown : ∀ s, ∃ S, fs.Grown S (system s)
  /-- The property stays. -/
  keep : ∀ s item, P s → P (meet s item)
  /-- The walk gets to it when it comes to the entry. -/
  arrive : ∀ S fs' e, fs.Grown S fs' → fs'.entryAt? (top ++ a) = some e → ∀ depth s,
    P (Walk.visit system meet depth s (root.descend a) e.kind)
  /-- The walk gets to it when it cannot go on to the entry. -/
  fault : ∀ s b e, b <+: a → b ≠ a → (system s).list (root.descend b) = .error e →
    P (meet s (.fault (root.descend b) e))

/-- What one element of a list leads to, a loop through the list leads to. -/
lemma foldl_reaches {α : Type} {f : σ → α → σ} {l : List α} {x : α} (hx : x ∈ l)
    (hkeep : ∀ s y, P s → P (f s y)) (hreach : ∀ s, P (f s x)) (s : σ) : P (l.foldl f s) := by
  obtain ⟨before, after, rfl⟩ := List.append_of_mem hx
  rw [List.foldl_append, List.foldl_cons]
  exact List.foldlRecOn after f (hreach _) fun s hs y _ => hkeep s y hs

namespace Reaches

/-- A walk through a directory gets to an entry below it. -/
theorem visit (h : Reaches fs root top a system meet P) (ha : (fs.entryAt? (top ++ a)).isSome)
    {b c : Location} (hc : c ≠ []) (hbc : b ++ c = a) (hb : fs.Leads root top b) {depth : Nat}
    (hdepth : Path.tooLong < depth + (root.descend b).bytes.length) (hpos : 0 < depth) (s : σ) :
    P (Walk.visit system meet depth s (root.descend b) .directory) := by
  induction c generalizing b depth s with
  | nil => exact absurd rfl hc
  | cons name c ih =>
    obtain ⟨depth, rfl⟩ : ∃ k, depth = k + 1 := ⟨depth - 1, by omega⟩
    rw [Walk.visit]
    cases hlist : (system s).list (root.descend b) with
    | error e =>
      refine h.fault s b e ⟨_, hbc⟩ ?_ hlist
      rintro rfl
      simp at hbc
    | ok entries =>
      obtain ⟨S, hgrown⟩ := h.grown s
      obtain ⟨l, n, hn, hdir, rfl⟩ := list_eq_ok_iff.1 hlist
      obtain ⟨m, hm, -⟩ := hgrown.resolve_back hn hdir
      obtain rfl := hb.leads l m hm
      have hassoc : b ++ [name] ++ c = a := by simpa using hbc
      have hmem (kind : NodeKind) : (name, kind) ∈ listing n ↔
          ∃ e, (system s).entryAt? (top ++ (b ++ [name])) = some e ∧ e.kind = kind := by
        rw [mem_listing_iff_entry (get?_of_resolve hn), List.append_assoc]
      have hkeep (depth : Nat) (s : σ) (y : Name × NodeKind) (hs : P s) :
          P (Walk.visit system meet depth s ((root.descend b).join y.1.bytes) y.2) :=
        visit_induction h.keep hs
      -- the next name on the way is the entry itself or that of a directory
      cases c with
      | nil =>
        obtain rfl : b ++ [name] = a := by simpa using hassoc
        obtain ⟨e, he⟩ := Option.isSome_iff_exists.1 (hgrown.isSome_entryAt? ha)
        refine foldl_reaches ((hmem e.kind).2 ⟨e, he, rfl⟩) (hkeep depth) (fun s' => ?_) s
        rw [← Path.descend_concat]
        exact h.arrive S _ e hgrown he depth s'
      | cons next c =>
        have hchild : fs.HasDirectory (top ++ (b ++ [name])) := by
          obtain ⟨e, he⟩ := Option.isSome_iff_exists.1 ha
          rw [← hassoc, ← List.append_assoc] at he
          exact hasDirectory_of_below he
        obtain ⟨mode, hmode⟩ := (hgrown.hasDirectory_iff _).2 hchild
        have hdirectory : (name, .directory) ∈ listing n := (hmem _).2 ⟨_, hmode, rfl⟩
        refine foldl_reaches hdirectory (hkeep depth) (fun s' => ?_) s
        -- a path with one name more is longer, and this one could be followed
        have hfollowed := (Path.refusal?_eq_none_iff.1 (refusal?_of_resolve hn)).2.2
        have hlonger := Path.length_descend (root.descend b) [name]
        have hdescend : root.descend (b ++ [name]) = (root.descend b).descend [name] :=
          Path.descend_concat root b name
        rw [List.length_singleton, ← hdescend] at hlonger
        rw [← Path.descend_concat]
        refine ih (List.cons_ne_nil _ _) hassoc (hb.child hgrown hlist hdirectory) ?_ ?_ s'
        · omega
        · omega

/-- A walk from a root that leads to a directory gets to every entry below it. -/
theorem fold (h : Reaches fs root top a system meet P) {n : Node}
    (hroot : fs.resolve true root = .ok (.found top n)) (hn : n.isDirectory = true) (hnil : a ≠ [])
    (ha : (fs.entryAt? (top ++ a)).isSome) {s : σ} (hs : system s = fs) :
    P (Walk.fold system meet root s) := by
  have hdir : (system s).isDirectory root = true := by
    rw [hs]
    exact isDirectory_path_iff.2 ⟨top, n, hroot, hn⟩
  have hopens : fs.Opens root top [] := ⟨n, by rwa [List.append_nil], hn⟩
  have hlength : 0 < root.bytes.length := List.length_pos_iff.2 hopens.bytes_ne_nil
  rw [fold_eq_visit hdir]
  refine h.visit ha hnil (List.nil_append a) hopens.leads ?_ (by decide) s
  show Path.tooLong < maxDepth + root.bytes.length
  unfold maxDepth
  omega

end Reaches

end Sidecars.Walk
