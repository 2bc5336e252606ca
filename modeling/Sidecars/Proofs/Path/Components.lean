import Mathlib.Data.List.Lex
import Sidecars.Proofs.FileSystem.Tree
import Sidecars.Proofs.Path

/-!
# Paths, component by component

Going down from a path by a name adds the name to the components of the path, however the path is
spelled.  So all paths below one root start with the same components, and they can be compared by
the names that come after.

* `Path.components_descend` are the components of a path below a root;
* `Path.Before` compares two paths component by component, and `Path.before_descend` says that below
  one root this is the comparison of the names that lead there.
-/

namespace Sidecars.Path

open Binary

variable {p q : Path} {a b : Location}

/-! ## The components of a joined path -/

/-- A name takes the place of what stands behind the last slash of a path, if that is nothing, and
else a segment of its own. -/
lemma segments_join (hp : p.bytes ≠ []) :
    ∃ pieces, pieces ≠ [] ∧ (p.segments = pieces ∨ p.segments = pieces ++ [[]]) ∧
      ∀ name : Name, (p.join name.bytes).segments = pieces ++ [name.bytes] := by
  have hname (name : Name) : splitAt slash name.bytes = [name.bytes] :=
    splitAt_of_not_mem name.slash_notMem
  by_cases hend : p.bytes.getLast? = some slash
  · obtain ⟨before, hbefore⟩ := List.getLast?_eq_some_iff.1 hend
    refine ⟨splitAt slash before, splitAt_ne_nil _ _, .inr ?_, ?_⟩
    · rw [segments, hbefore, splitAt_append_sep]
      rfl
    · intro name
      have hjoin : p.join name.bytes = ⟨before ++ slash :: name.bytes⟩ := by
        rw [join, if_pos (.inr hend), hbefore, List.append_assoc]
        rfl
      rw [hjoin, segments, splitAt_append_sep, hname]
  · refine ⟨p.segments, splitAt_ne_nil _ _, .inl rfl, ?_⟩
    intro name
    have hjoin : p.join name.bytes = ⟨p.bytes ++ slash :: name.bytes⟩ := by
      rw [join, if_neg (not_or.2 ⟨hp, hend⟩)]
    rw [hjoin, segments, splitAt_append_sep, hname]
    rfl

/-- The component that a path starts with and that no segment stands for. -/
def opening (p : Path) : List Component :=
  if p.isAbsolute then [.root] else if p.segments.head? = some [dot] then [.current] else []

lemma components_eq (hp : p.bytes ≠ []) :
    p.components = p.opening ++ p.segments.filterMap Component.ofSegment? := by
  obtain ⟨b, rest, hb⟩ := List.exists_cons_of_ne_nil hp
  unfold components opening
  rw [hb]
  simp only
  split
  · rfl
  · split
    · rfl
    · rfl

lemma ofSegment?_name (name : Name) :
    Component.ofSegment? name.bytes = some (.normal name.bytes) := by
  obtain ⟨hnil, hdot, hdots, -⟩ := name.plain
  rw [Component.ofSegment?, if_neg (not_or.2 ⟨hnil, hdot⟩), if_neg hdots]

/-- Joining a name adds one component. -/
lemma components_join (hp : p.bytes ≠ []) (name : Name) :
    (p.join name.bytes).components = p.components ++ [.normal name.bytes] := by
  obtain ⟨pieces, hpieces, hsegments, hjoin⟩ := segments_join hp
  have hne : (p.join name.bytes).bytes ≠ [] := by
    intro hnil
    have hstart := prefix_join p name.bytes
    rw [hnil, List.prefix_nil] at hstart
    exact hp hstart
  -- the start of the path stays as it is
  have hhead : (p.join name.bytes).segments.head? = p.segments.head? := by
    obtain ⟨piece, more, rfl⟩ := List.exists_cons_of_ne_nil hpieces
    rcases hsegments with h | h
    · rw [hjoin, h]
      rfl
    · rw [hjoin, h]
      rfl
  have hopening : (p.join name.bytes).opening = p.opening := by
    rw [opening, opening, isAbsolute_join hp, hhead]
  have hsteps : p.segments.filterMap Component.ofSegment? =
      pieces.filterMap Component.ofSegment? := by
    rcases hsegments with h | h
    · rw [h]
    · rw [h, List.filterMap_append]
      exact List.append_nil _
  rw [components_eq hne, components_eq hp, hopening, hjoin, hsteps, List.filterMap_append,
    List.append_assoc]
  simp [ofSegment?_name]

/-- Below a path, the components are those of the path and the names. -/
theorem components_descend (hp : p.bytes ≠ []) (names : Location) :
    (p.descend names).components = p.components ++ names.map fun name => .normal name.bytes := by
  induction names using List.reverseRecOn with
  | nil => exact (List.append_nil _).symm
  | append_singleton names name ih =>
    rw [descend_concat, components_join (descend_ne_nil hp names), ih, List.map_append,
      List.append_assoc]
    rfl

/-! ## The order of paths -/

/-- Whether a name comes before another one by its bytes.  Components that are no names do not come
before anything. -/
inductive Component.Before : Component → Component → Prop where
  /-- Two names. -/
  | normal {a b : Bytes} (h : a < b) : Component.Before (.normal a) (.normal b)

/-- Whether a path comes before another one when they are compared component by component. -/
def Before (p q : Path) : Prop := List.Lex Component.Before p.components q.components

lemma not_before_self (p : Path) : ¬ p.Before p := by
  refine List.lex_irrefl ?_ p.components
  intro c hc
  cases hc with
  | normal h => exact List.lt_irrefl _ h

/-- A path that comes before another one is no other spelling of it. -/
lemma components_ne_of_before (h : p.Before q) : p.components ≠ q.components := by
  intro heq
  rw [Before, heq] at h
  exact not_before_self q h

lemma ne_of_before (h : p.Before q) : p ≠ q :=
  fun heq => components_ne_of_before h (congrArg components heq)

/-- Names that are compared one by one are components that are. -/
lemma lex_normal (h : List.Lex Name.Before a b) :
    List.Lex Component.Before (a.map fun name => .normal name.bytes)
      (b.map fun name => .normal name.bytes) := by
  induction h with
  | nil => exact .nil
  | cons _ ih => exact .cons ih
  | rel h => exact .rel (.normal h)

/-- Below one root, the names that lead there decide. -/
theorem before_descend (hp : p.bytes ≠ []) (h : List.Lex Name.Before a b) :
    (p.descend a).Before (p.descend b) := by
  rw [Before, components_descend hp, components_descend hp]
  exact List.Lex.append_left _ (lex_normal h) _

end Sidecars.Path
