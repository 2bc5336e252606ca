import Sidecars.Proofs.Path.Components

/-!
# The grammar of names and extensions

Which name a path ends with, and which extension the name has, can be said of the bytes of the path:
the name stands behind the last slash but for slashes and segments `.` that follow, and the
extension behind the last dot of the name, in front of which something else must stand.

* `Path.EndsWith` says so of the name, and `Path.fileName?_eq_some_iff` that it is the last step of
  the path.
* `Path.extensionOfName?_eq_some_iff` is the rule of the last dot, and
  `Path.extension?_eq_some_iff` puts the two together.
-/

namespace Sidecars

namespace Binary

variable {sep : UInt8} {bs piece : Bytes} {xs ys : List Bytes}

/-- Between two of the pieces there is a separator. -/
lemma splitAt_eq_append (h : splitAt sep bs = xs ++ ys) (hxs : xs ≠ []) (hys : ys ≠ []) :
    ∃ a b, bs = a ++ sep :: b ∧ splitAt sep a = xs ∧ splitAt sep b = ys := by
  induction bs generalizing xs with
  | nil =>
    rcases List.append_eq_singleton_iff.1 h.symm with ⟨hnil, -⟩ | ⟨-, hnil⟩
    · exact absurd hnil hxs
    · exact absurd hnil hys
  | cons c rest ih =>
    obtain ⟨x, xs, rfl⟩ := List.exists_cons_of_ne_nil hxs
    by_cases hc : c = sep
    · subst hc
      rw [splitAt, if_pos rfl, List.cons_append, List.cons.injEq] at h
      obtain ⟨rfl, h⟩ := h
      cases xs with
      | nil => exact ⟨[], rest, rfl, rfl, h⟩
      | cons x xs =>
        obtain ⟨a, b, rfl, ha, hb⟩ := ih h (List.cons_ne_nil _ _)
        exact ⟨c :: a, b, rfl, by rw [splitAt, if_pos rfl, ha], hb⟩
    · obtain ⟨piece, pieces, hrest⟩ := List.exists_cons_of_ne_nil (splitAt_ne_nil sep rest)
      rw [splitAt_cons_of_ne hc hrest, List.cons_append, List.cons.injEq] at h
      obtain ⟨rfl, rfl⟩ := h
      obtain ⟨a, b, rfl, ha, hb⟩ := @ih (piece :: xs) hrest (List.cons_ne_nil _ _)
      exact ⟨c :: a, b, rfl, splitAt_cons_of_ne hc ha, hb⟩

/-- Bytes with one piece only are this piece. -/
lemma splitAt_eq_singleton_iff : splitAt sep bs = [piece] ↔ bs = piece ∧ sep ∉ bs := by
  constructor
  · intro h
    have hsep : sep ∉ bs := by
      intro hmem
      obtain ⟨a, b, rfl⟩ := List.append_of_mem hmem
      rw [splitAt_append_sep, List.append_eq_singleton_iff] at h
      rcases h with ⟨h, -⟩ | ⟨-, h⟩
      · exact splitAt_ne_nil _ _ h
      · exact splitAt_ne_nil _ _ h
    rw [splitAt_of_not_mem hsep, List.cons.injEq] at h
    exact ⟨h.1, hsep⟩
  · rintro ⟨rfl, hsep⟩
    exact splitAt_of_not_mem hsep

end Binary

namespace Path

open Binary

variable {p : Path} {name e : Bytes}

/-! ## The name at the end -/

/-- Slashes and segments `.` at the end of a path, which do not count. -/
inductive Trailing : Bytes → Prop where
  /-- Nothing. -/
  | nil : Trailing []
  /-- A slash. -/
  | slash {rest : Bytes} (h : Trailing rest) : Trailing (slash :: rest)
  /-- A slash and a segment `.`, behind which there is nothing or another slash. -/
  | dot {rest : Bytes} (h : Trailing rest) : Trailing (slash :: dot :: rest)

/-- Whether a path ends with a name: it stands at the start of the path or behind a slash, and
nothing that counts follows. -/
def EndsWith (p : Path) (name : Name) : Prop :=
  ∃ dir trail, p.bytes = dir ++ name.bytes ++ trail ∧ (dir = [] ∨ dir.getLast? = some slash) ∧
    Trailing trail

lemma ofSegment?_eq_none_iff {segment : Bytes} :
    Component.ofSegment? segment = none ↔ segment = [] ∨ segment = [dot] := by
  unfold Component.ofSegment?
  split_ifs with h h' <;> simp [h]

lemma ofSegment?_eq_normal_iff {segment bs : Bytes} (hslash : slash ∉ segment) :
    Component.ofSegment? segment = some (.normal bs) ↔
      segment = bs ∧ ∃ name : Name, name.bytes = bs := by
  constructor
  · intro h
    unfold Component.ofSegment? at h
    split_ifs at h with hnone hparent
    · cases h
    · rw [not_or] at hnone
      obtain rfl : segment = bs := by simpa using h
      exact ⟨rfl, ⟨segment, hnone.1, hnone.2, hparent, hslash⟩, rfl⟩
  · rintro ⟨rfl, name, rfl⟩
    exact ofSegment?_name name

/-- What does not count is nothing, or a slash and segments that stand for no step. -/
lemma Trailing.segments {trail : Bytes} (h : Trailing trail) : trail = [] ∨
    ∃ bs, trail = Path.slash :: bs ∧
      ∀ segment ∈ splitAt Path.slash bs, Component.ofSegment? segment = none := by
  induction h with
  | nil => exact .inl rfl
  | @slash rest h ih =>
    refine .inr ⟨rest, rfl, ?_⟩
    rcases ih with rfl | ⟨bs, rfl, hbs⟩
    · decide
    · rw [splitAt, if_pos rfl]
      exact List.forall_mem_cons.2 ⟨rfl, hbs⟩
  | @dot rest h ih =>
    refine .inr ⟨Path.dot :: rest, rfl, ?_⟩
    rcases ih with rfl | ⟨bs, rfl, hbs⟩
    · decide
    · have hsplit : splitAt Path.slash (Path.dot :: Path.slash :: bs) =
          [Path.dot] :: splitAt Path.slash bs := splitAt_append_sep Path.slash [Path.dot] bs
      rw [hsplit]
      exact List.forall_mem_cons.2 ⟨rfl, hbs⟩

/-- Behind a segment, others that stand for no step do not count. -/
lemma exists_trailing {bs segment : Bytes} {after : List Bytes}
    (hsplit : splitAt slash bs = segment :: after)
    (hafter : ∀ segment ∈ after, Component.ofSegment? segment = none) :
    ∃ trail, bs = segment ++ trail ∧ Trailing trail := by
  induction after generalizing bs segment with
  | nil =>
    obtain ⟨rfl, -⟩ := splitAt_eq_singleton_iff.1 hsplit
    exact ⟨[], (List.append_nil _).symm, .nil⟩
  | cons next after ih =>
    obtain ⟨hnext, hafter⟩ := List.forall_mem_cons.1 hafter
    obtain ⟨a, b, rfl, ha, hb⟩ :=
      @splitAt_eq_append _ _ [segment] (next :: after) hsplit (by simp) (by simp)
    obtain ⟨rfl, -⟩ := splitAt_eq_singleton_iff.1 ha
    obtain ⟨trail, rfl, htrail⟩ := ih hb hafter
    refine ⟨_, rfl, ?_⟩
    rcases ofSegment?_eq_none_iff.1 hnext with rfl | rfl
    · exact .slash htrail
    · exact .dot htrail

lemma fileName?_eq_some_iff_getLast? {bs : Bytes} :
    p.fileName? = some bs ↔ p.components.getLast? = some (.normal bs) := by
  unfold fileName?
  split
  · next name h => simp [h]
  · next h =>
    refine ⟨fun heq => absurd heq (by simp), fun heq => absurd heq (h bs)⟩

/-- How a path starts makes no difference for the name at its end. -/
lemma getLast?_components {bs : Bytes} : p.components.getLast? = some (.normal bs) ↔
    (p.segments.filterMap Component.ofSegment?).getLast? = some (.normal bs) := by
  by_cases hp : p.bytes = []
  · have hsegments : p.segments = [[]] := by rw [segments, hp]; rfl
    have hcomponents : p.components = [] := by unfold components; rw [hp]
    rw [hsegments, hcomponents]
    simp [Component.ofSegment?]
  · rw [components_eq hp, List.getLast?_append]
    have hopening : p.opening.getLast? ≠ some (.normal bs) := by
      unfold opening
      split_ifs <;> simp
    cases (p.segments.filterMap Component.ofSegment?).getLast? with
    | none => simpa using hopening
    | some c => rfl

/-- The last step of a path is one of its segments, behind which there are none that count. -/
lemma fileName?_eq_some_iff_segments {bs : Bytes} : p.fileName? = some bs ↔
    (∃ name : Name, name.bytes = bs) ∧ ∃ before after, p.segments = before ++ bs :: after ∧
      ∀ segment ∈ after, Component.ofSegment? segment = none := by
  rw [fileName?_eq_some_iff_getLast?, getLast?_components, List.getLast?_filterMap,
    List.findSome?_eq_some_iff]
  constructor
  · rintro ⟨after, segment, before, hreverse, hsegment, hafter⟩
    have hsegments : p.segments = before.reverse ++ segment :: after.reverse := by
      have h := congrArg List.reverse hreverse
      simpa using h
    have hslash : slash ∉ segment := not_mem_of_mem_splitAt (by
      rw [← segments, hsegments]
      simp)
    obtain ⟨rfl, hname⟩ := (ofSegment?_eq_normal_iff hslash).1 hsegment
    refine ⟨hname, before.reverse, after.reverse, hsegments, fun segment hmem => ?_⟩
    exact hafter segment (List.mem_reverse.1 hmem)
  · rintro ⟨⟨name, rfl⟩, before, after, hsegments, hafter⟩
    refine ⟨after.reverse, name.bytes, before.reverse, by simp [hsegments], ofSegment?_name name,
      fun segment hmem => hafter segment (List.mem_reverse.1 hmem)⟩

/-- The name that a path ends with is the name of its last step. -/
theorem fileName?_eq_some_iff {bs : Bytes} :
    p.fileName? = some bs ↔ ∃ name : Name, name.bytes = bs ∧ p.EndsWith name := by
  rw [fileName?_eq_some_iff_segments]
  constructor
  · rintro ⟨⟨name, rfl⟩, before, after, hsegments, hafter⟩
    obtain ⟨dir, rest, hbytes, hdir, hrest⟩ : ∃ dir rest, p.bytes = dir ++ rest ∧
        (dir = [] ∨ dir.getLast? = some slash) ∧ splitAt slash rest = name.bytes :: after := by
      by_cases hbefore : before = []
      · subst hbefore
        exact ⟨[], p.bytes, rfl, .inl rfl, hsegments⟩
      · obtain ⟨a, b, hbytes, -, hb⟩ := splitAt_eq_append hsegments hbefore (List.cons_ne_nil _ _)
        exact ⟨a ++ [slash], b, by simp [hbytes], .inr (by simp), hb⟩
    obtain ⟨trail, rfl, htrail⟩ := exists_trailing hrest hafter
    exact ⟨name, rfl, dir, trail, by rw [hbytes, List.append_assoc], hdir, htrail⟩
  · rintro ⟨name, rfl, dir, trail, hbytes, hdir, htrail⟩
    refine ⟨⟨name, rfl⟩, ?_⟩
    obtain ⟨after, hrest, hafter⟩ : ∃ after, splitAt slash (name.bytes ++ trail) =
        name.bytes :: after ∧ ∀ segment ∈ after, Component.ofSegment? segment = none := by
      have hname := splitAt_of_not_mem name.slash_notMem
      rcases htrail.segments with rfl | ⟨bs, rfl, hbs⟩
      · exact ⟨[], by rw [List.append_nil, hname], by simp⟩
      · exact ⟨_, by rw [splitAt_append_sep, hname]; rfl, hbs⟩
    rw [List.append_assoc] at hbytes
    rcases hdir with rfl | hdir
    · exact ⟨[], after, by rw [segments, hbytes]; exact hrest, hafter⟩
    · obtain ⟨a, rfl⟩ := List.getLast?_eq_some_iff.1 hdir
      refine ⟨splitAt slash a, after, ?_, hafter⟩
      rw [segments, hbytes, List.append_assoc, List.singleton_append, splitAt_append_sep, hrest]

/-! ## The extension -/

/-- The rule of the last dot: something stands in front of it, and the extension behind it. -/
theorem extensionOfName?_eq_some_iff {bs : Bytes} : extensionOfName? bs = some e ↔
    ∃ stem, bs = stem ++ dot :: e ∧ stem ≠ [] ∧ dot ∉ e := by
  constructor
  · intro h
    unfold extensionOfName? at h
    split at h
    · next last before more hreverse =>
      split_ifs at h with halone
      obtain rfl : last = e := by simpa using h
      have hsplit : splitAt dot bs = (more.reverse ++ [before]) ++ [last] := by
        have hpieces := congrArg List.reverse hreverse
        simpa using hpieces
      obtain ⟨stem, b, rfl, hstem, hb⟩ := splitAt_eq_append hsplit (by simp) (by simp)
      obtain ⟨rfl, hdot⟩ := splitAt_eq_singleton_iff.1 hb
      refine ⟨stem, rfl, ?_, hdot⟩
      rintro rfl
      -- an empty stem has no pieces but one, which is empty
      rcases List.append_eq_singleton_iff.1 hstem.symm with ⟨hmore, hbefore⟩ | ⟨-, hnil⟩
      · exact halone ⟨by simpa using hbefore, by simpa using hmore⟩
      · simp at hnil
    · cases h
  · rintro ⟨stem, rfl, hstem, hdot⟩
    obtain ⟨before, more, hreverse⟩ := List.exists_cons_of_ne_nil
      (List.reverse_eq_nil_iff.not.2 (splitAt_ne_nil dot stem))
    have hsplit : (splitAt dot (stem ++ dot :: e)).reverse = e :: before :: more := by
      rw [splitAt_append_sep, splitAt_of_not_mem hdot, List.reverse_append, hreverse]
      rfl
    have halone : ¬ (before = [] ∧ more = []) := by
      rintro ⟨rfl, rfl⟩
      have hpieces : splitAt dot stem = [[]] := by
        have h := congrArg List.reverse hreverse
        simpa using h
      exact hstem (splitAt_eq_singleton_iff.1 hpieces).1
    rw [extensionOfName?, hsplit]
    exact if_neg halone

/-- The extension of a path is that of the name that it ends with. -/
theorem extension?_eq_some_iff : p.extension? = some e ↔
    ∃ name : Name, ∃ stem, p.EndsWith name ∧ name.bytes = stem ++ dot :: e ∧ stem ≠ [] ∧
      dot ∉ e := by
  rw [extension?, Option.bind_eq_some_iff]
  simp only [fileName?_eq_some_iff, extensionOfName?_eq_some_iff]
  constructor
  · rintro ⟨-, ⟨name, rfl, hends⟩, stem, hbytes, hstem, hdot⟩
    exact ⟨name, stem, hends, hbytes, hstem, hdot⟩
  · rintro ⟨name, stem, hends, hbytes, hstem, hdot⟩
    exact ⟨_, ⟨name, rfl, hends⟩, stem, hbytes, hstem, hdot⟩

end Path

end Sidecars
