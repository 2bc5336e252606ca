import Sidecars.Proofs.Walk.Enumeration

/-!
# The order of a walk through changing files

A directory is listed once, when the walk enters it, and a listing has every name once.  So whatever
becomes of the file system on the way of a walk, the names that lead to what it meets go up, and
nothing is met twice.

* `Walk.Meets` says of what a walk has met since some point by which names it was come to.
* `Walk.visit_meets` finds these names for whatever lies at an address, and `Walk.met_pairwise`
  says what follows for the paths of a whole walk.
-/

namespace Sidecars.Walk

open FileSystem

variable {σ : Type} {root : Path} {a : Location} {items items' : List WalkItem}
  {system : List WalkItem → FileSystem}

/-- Since `items` had been met, the things at some addresses have been met, in this order: they lie
where `P` says, and the names go up. -/
def Meets (root : Path) (P : Location → Prop) (items items' : List WalkItem) : Prop :=
  ∃ locs : List Location,
    items'.map WalkItem.path = items.map WalkItem.path ++ locs.map root.descend ∧
    locs.Pairwise (List.Lex Name.Before) ∧ ∀ b ∈ locs, P b

lemma Meets.refl (root : Path) (P : Location → Prop) (items : List WalkItem) :
    Meets root P items items :=
  ⟨[], (List.append_nil _).symm, .nil, fun _ h => absurd h List.not_mem_nil⟩

lemma Meets.single {P : Location → Prop} (ha : P a) {item : WalkItem}
    (h : item.path = root.descend a) : Meets root P items (items ++ [item]) := by
  refine ⟨[a], ?_, List.pairwise_singleton _ _, ?_⟩
  · rw [List.map_append, List.map_singleton, List.map_singleton, h]
  · rintro b hb
    rwa [List.mem_singleton.1 hb]

lemma Meets.mono {P Q : Location → Prop} (h : Meets root P items items') (hPQ : ∀ b, P b → Q b) :
    Meets root Q items items' := by
  obtain ⟨locs, hpaths, hsorted, hP⟩ := h
  exact ⟨locs, hpaths, hsorted, fun b hb => hPQ b (hP b hb)⟩

/-- What is met first comes first. -/
lemma Meets.trans {P Q : Location → Prop} {items'' : List WalkItem} (h : Meets root P items items')
    (h' : Meets root Q items' items'') (hPQ : ∀ b c, P b → Q c → List.Lex Name.Before b c) :
    Meets root (fun b => P b ∨ Q b) items items'' := by
  obtain ⟨locs, hpaths, hsorted, hP⟩ := h
  obtain ⟨locs', hpaths', hsorted', hQ⟩ := h'
  refine ⟨locs ++ locs', ?_, ?_, ?_⟩
  · rw [hpaths', hpaths, List.map_append, List.append_assoc]
  · refine List.pairwise_append.2 ⟨hsorted, hsorted', ?_⟩
    intro b hb c hc
    exact hPQ b c (hP b hb) (hQ c hc)
  · intro b hb
    exact (List.mem_append.1 hb).imp (hP b) (hQ b)

/-- Below different names, these decide. -/
lemma lex_of_prefix {name other : Name} {b c : Location} (h : Name.Before name other)
    (hb : a ++ [name] <+: b) (hc : a ++ [other] <+: c) : List.Lex Name.Before b c := by
  obtain ⟨b, rfl⟩ := hb
  obtain ⟨c, rfl⟩ := hc
  rw [List.append_assoc, List.append_assoc]
  exact List.Lex.append_left _ (.rel h) a

/-- The entries of a listing are gone through by ascending names. -/
lemma foldl_meets {f : List WalkItem → Name × NodeKind → List WalkItem}
    {entries : List (Name × NodeKind)} (hsorted : entries.Pairwise fun e e' => e.1.Before e'.1)
    (hstep : ∀ items, ∀ e ∈ entries, Meets root (fun b => a ++ [e.1] <+: b) items (f items e))
    (items : List WalkItem) :
    Meets root (fun b => ∃ e ∈ entries, a ++ [e.1] <+: b) items (entries.foldl f items) := by
  induction entries generalizing items with
  | nil => exact .refl _ _ items
  | cons e entries ih =>
    obtain ⟨hbefore, hsorted⟩ := List.pairwise_cons.1 hsorted
    have hfirst := hstep items e List.mem_cons_self
    have hrest := ih hsorted (fun items e' he' => hstep items e' (List.mem_cons_of_mem _ he'))
      (f items e)
    refine (hfirst.trans hrest ?_).mono ?_
    · rintro b c hb ⟨e', he', hc⟩
      exact lex_of_prefix (hbefore e' he') hb hc
    · rintro b (hb | ⟨e', he', hb⟩)
      · exact ⟨e, List.mem_cons_self, hb⟩
      · exact ⟨e', List.mem_cons_of_mem _ he', hb⟩

/-- What is no directory is met, or passed over. -/
lemma leaf_meets (system : List WalkItem → FileSystem) (depth : Nat) (items : List WalkItem)
    {kind : NodeKind} (hkind : kind ≠ .directory) :
    Meets root (fun b => a <+: b) items
      (visit system (fun items item => items ++ [item]) depth items (root.descend a) kind) := by
  have hself : a <+: a := List.prefix_refl a
  cases kind with
  | directory => exact absurd rfl hkind
  | pipe =>
    rw [visit_pipe]
    exact .refl _ _ items
  | file =>
    rw [visit_file]
    exact .single hself rfl
  | link =>
    rw [visit_link]
    split
    · exact .single hself rfl
    · exact .refl _ _ items

/-- What lies at or below an address is met by ascending names, whatever becomes of the file system
meanwhile. -/
theorem visit_meets (system : List WalkItem → FileSystem) (depth : Nat) (items : List WalkItem)
    (kind : NodeKind) :
    Meets root (fun b => a <+: b) items
      (visit system (fun items item => items ++ [item]) depth items (root.descend a) kind) := by
  induction depth generalizing items a kind with
  | zero =>
    by_cases hkind : kind = .directory
    · subst hkind
      exact .refl _ _ items
    · exact leaf_meets system 0 items hkind
  | succ depth ih =>
    by_cases hkind : kind = .directory
    · subst hkind
      rw [visit]
      cases hlist : (system items).list (root.descend a) with
      | error e => exact .single (List.prefix_refl a) rfl
      | ok entries =>
        have hentry (items : List WalkItem) (e : Name × NodeKind) :
            Meets root (fun b => a ++ [e.1] <+: b) items
              (visit system (fun items item => items ++ [item]) depth items
                ((root.descend a).join e.1.bytes) e.2) := by
          rw [← Path.descend_concat]
          exact ih items e.2
        refine (foldl_meets (entries_pairwise hlist) (fun items e _ => hentry items e)
          items).mono ?_
        rintro b ⟨e, -, hb⟩
        exact (List.prefix_append _ _).trans hb
    · exact leaf_meets system _ items hkind

/-- The paths of what a walk meets go up strictly when they are compared component by component,
even if the file system changes on its way. -/
theorem met_pairwise {system : σ → FileSystem} {meet : σ → WalkItem → σ} {s : σ}
    (h : (system s).isDirectory root = true) :
    ((met system meet root s).map WalkItem.path).Pairwise Path.Before := by
  obtain ⟨l, n, hresolve, -⟩ := isDirectory_path_iff.1 h
  obtain ⟨locs, hpaths, hsorted, -⟩ := @visit_meets root []
    (fun items => system (items.foldl meet s)) maxDepth [] .directory
  rw [met, fold_eq_visit (s := ([] : List WalkItem)) h]
  change ((visit _ _ maxDepth [] (root.descend []) .directory).map WalkItem.path).Pairwise _
  rw [hpaths, List.map_nil, List.nil_append, List.pairwise_map]
  exact hsorted.imp (Path.before_descend (bytes_ne_nil_of_resolve hresolve))

end Sidecars.Walk
