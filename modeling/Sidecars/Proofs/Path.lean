import Mathlib.Data.List.Induction
import Mathlib.Tactic.Common
import Sidecars.FileSystem.Lookup
import Sidecars.MediaFile
import Sidecars.Sidecar.Writing

/-!
# The steps of joined and extended paths

How the segments of a path change when a name is joined to it, when its last name grows longer,
and when only the directory of its last segment is kept.

* `Path.steps_join`: joining a name to a path adds one step downwards;
* `Path.steps_directory`: the directory of a joined name asks for the same steps as the path, up to
  steps that stay where they are;
* `Sidecar.steps_pathFor`: the path of a sidecar ends with a step down to a name with the ending
  `.metadata.md`.
-/

namespace Sidecars

namespace Binary

lemma splitAt_ne_nil (sep : UInt8) (bs : Bytes) : splitAt sep bs ≠ [] := by
  cases bs with
  | nil => simp [splitAt]
  | cons b rest =>
    unfold splitAt
    split
    · simp
    · split <;> simp

lemma splitAt_cons_of_ne {sep b : UInt8} (h : b ≠ sep) {rest piece : Bytes} {pieces : List Bytes}
    (hrest : splitAt sep rest = piece :: pieces) :
    splitAt sep (b :: rest) = (b :: piece) :: pieces := by
  rw [splitAt, if_neg h, hrest]

lemma splitAt_of_not_mem {sep : UInt8} {bs : Bytes} (h : sep ∉ bs) : splitAt sep bs = [bs] := by
  induction bs with
  | nil => rfl
  | cons b rest ih =>
    rw [List.mem_cons, not_or] at h
    exact splitAt_cons_of_ne (Ne.symm h.1) (ih h.2)

lemma splitAt_append_sep (sep : UInt8) (a b : Bytes) :
    splitAt sep (a ++ sep :: b) = splitAt sep a ++ splitAt sep b := by
  induction a with
  | nil => simp [splitAt]
  | cons x a ih =>
    by_cases hx : x = sep
    · subst hx
      rw [List.cons_append, splitAt, if_pos rfl, ih, splitAt, if_pos rfl, List.cons_append]
    · obtain ⟨piece, pieces, ha⟩ := List.exists_cons_of_ne_nil (splitAt_ne_nil sep a)
      rw [List.cons_append, splitAt_cons_of_ne hx (by rw [ih, ha]; rfl),
        splitAt_cons_of_ne hx ha]
      rfl

/-- The last piece grows when bytes without a separator follow. -/
lemma splitAt_append {sep : UInt8} {a init : Bytes} {pieces : List Bytes}
    (ha : splitAt sep a = pieces ++ [init]) {b : Bytes} (hb : sep ∉ b) :
    splitAt sep (a ++ b) = pieces ++ [init ++ b] := by
  induction a generalizing pieces init with
  | nil =>
    have hnil : pieces = [] ∧ init = [] := by
      cases pieces with
      | nil => simpa [splitAt] using ha.symm
      | cons p ps => simp [splitAt] at ha
    obtain ⟨rfl, rfl⟩ := hnil
    simpa using splitAt_of_not_mem hb
  | cons x a ih =>
    by_cases hx : x = sep
    · subst hx
      rw [splitAt, if_pos rfl] at ha
      cases pieces with
      | nil =>
        simp only [List.nil_append, List.cons.injEq] at ha
        exact absurd ha.2 (splitAt_ne_nil _ _)
      | cons p ps =>
        simp only [List.cons_append, List.cons.injEq] at ha
        rw [List.cons_append, splitAt, if_pos rfl, ih ha.2, ← ha.1, List.cons_append]
    · obtain ⟨piece, rest, hsplit⟩ := List.exists_cons_of_ne_nil (splitAt_ne_nil sep a)
      rw [splitAt_cons_of_ne hx hsplit] at ha
      cases pieces with
      | nil =>
        simp only [List.nil_append, List.cons.injEq] at ha
        obtain ⟨rfl, rfl⟩ := ha
        have htail := @ih piece [] hsplit
        rw [List.cons_append, splitAt_cons_of_ne hx htail]
        rfl
      | cons p ps =>
        simp only [List.cons_append, List.cons.injEq] at ha
        obtain ⟨rfl, rfl⟩ := ha
        have htail := @ih init (piece :: ps) hsplit
        rw [List.cons_append, splitAt_cons_of_ne hx htail]
        rfl

lemma not_mem_of_mem_splitAt {sep : UInt8} {bs piece : Bytes} (h : piece ∈ splitAt sep bs) :
    sep ∉ piece := by
  induction bs generalizing piece with
  | nil =>
    simp only [splitAt, List.mem_singleton] at h
    simp [h]
  | cons b rest ih =>
    unfold splitAt at h
    split at h
    · rcases List.mem_cons.1 h with rfl | h
      · simp
      · exact ih h
    · next hb =>
      split at h
      · next p ps heq =>
        rcases List.mem_cons.1 h with rfl | h
        · rw [List.mem_cons, not_or]
          exact ⟨Ne.symm hb, ih (by simp [heq])⟩
        · exact ih (by simp [heq, h])
      · next heq => exact absurd heq (splitAt_ne_nil _ _)

end Binary

namespace Name

lemma ofBytes?_bytes (name : Name) : ofBytes? name.bytes = some name := by
  rw [ofBytes?, dif_pos name.plain]

lemma slash_notMem (name : Name) : Path.slash ∉ name.bytes := name.plain.2.2.2

lemma bytes_ne_nil (name : Name) : name.bytes ≠ [] := name.plain.1

end Name

namespace Path

open Binary

lemma stepOfSegment_name (name : Name) : Step.ofSegment name.bytes = .down name := by
  rw [Step.ofSegment, Name.ofBytes?_bytes]

lemma stepOfSegment_nil : Step.ofSegment [] = .stay := by decide

lemma steps_ne_nil (p : Path) : p.steps ≠ [] := by
  rw [steps, Ne, List.map_eq_nil_iff]
  exact Binary.splitAt_ne_nil slash p.bytes

lemma steps_concat_slash (bs : Bytes) : steps ⟨bs ++ [slash]⟩ = steps ⟨bs⟩ ++ [.stay] := by
  rw [steps, segments, splitAt_append_sep, List.map_append]
  rfl

lemma steps_concat_slash_dot (bs : Bytes) :
    steps ⟨bs ++ [slash, dot]⟩ = steps ⟨bs⟩ ++ [.stay] := by
  rw [steps, segments, splitAt_append_sep, List.map_append]
  rfl

/-- Joining a name adds a step down to it; a step that stays at the end of the path gives way. -/
lemma steps_join {p : Path} (hp : p.bytes ≠ []) :
    ∃ xs, (p.steps = xs ∨ p.steps = xs ++ [.stay]) ∧
      ∀ name : Name, (p.join name.bytes).steps = xs ++ [.down name] := by
  have hname (name : Name) : splitAt slash name.bytes = [name.bytes] :=
    splitAt_of_not_mem name.slash_notMem
  by_cases hend : p.bytes.getLast? = some slash
  · obtain ⟨before, hbefore⟩ := List.getLast?_eq_some_iff.1 hend
    refine ⟨(splitAt slash before).map Step.ofSegment, .inr ?_, fun name => ?_⟩
    · rw [steps, segments, hbefore, splitAt_append_sep, List.map_append]
      simp [splitAt, stepOfSegment_nil]
    · have hjoin : p.join name.bytes = ⟨before ++ slash :: name.bytes⟩ := by
        rw [join, if_pos (.inr hend), hbefore, List.append_assoc]
        rfl
      rw [hjoin, steps, segments, splitAt_append_sep, hname, List.map_append]
      simp [stepOfSegment_name]
  · refine ⟨p.steps, .inl rfl, fun name => ?_⟩
    have hjoin : p.join name.bytes = ⟨p.bytes ++ slash :: name.bytes⟩ := by
      rw [join, if_neg (not_or.2 ⟨hp, hend⟩)]
    rw [hjoin, steps, segments, splitAt_append_sep, hname, List.map_append]
    simp [stepOfSegment_name, steps, segments]

lemma isAbsolute_join {p : Path} (hp : p.bytes ≠ []) (bs : Bytes) :
    (p.join bs).isAbsolute = p.isAbsolute := by
  obtain ⟨b, rest, hb⟩ := List.exists_cons_of_ne_nil hp
  unfold join isAbsolute
  split <;> simp [hb]

lemma join_append (p : Path) (bs suffix : Bytes) :
    (p.join bs).append suffix = p.join (bs ++ suffix) := by
  unfold join append
  split <;> simp

/-- What is joined to a path is put behind the same bytes, whatever it is. -/
lemma exists_join_eq (p : Path) : ∃ start, ∀ bs, p.join bs = ⟨start ++ bs⟩ := by
  unfold join
  split
  · exact ⟨p.bytes, fun _ => rfl⟩
  · exact ⟨p.bytes ++ [slash], fun bs => by rw [List.append_assoc]; rfl⟩

lemma suffix_join (p : Path) (bs : Bytes) : bs <:+ (p.join bs).bytes := by
  obtain ⟨start, hstart⟩ := exists_join_eq p
  rw [hstart]
  exact List.suffix_append start bs

/-- The end of a joined path is the end of what has been joined. -/
lemma getLast?_join (p : Path) {bs : Bytes} (hbs : bs ≠ []) :
    (p.join bs).bytes.getLast? = bs.getLast? := by
  obtain ⟨start, hstart⟩ := exists_join_eq p
  rw [hstart, List.getLast?_append, List.getLast?_eq_some_getLast hbs, Option.some_or]

/-- A path to which a name is joined does not end with a slash. -/
lemma getLast?_join_name (p : Path) (name : Name) :
    (p.join name.bytes).bytes.getLast? ≠ some slash := by
  rw [getLast?_join p name.bytes_ne_nil]
  exact fun h => name.slash_notMem (List.mem_of_getLast? h)

lemma join_join (p : Path) {q : Path} (hq : q.bytes ≠ []) (bs : Bytes) :
    (p.join q.bytes).join bs = p.join (q.join bs).bytes := by
  have hlast := getLast?_join p hq
  obtain ⟨start, hstart⟩ := exists_join_eq p
  rw [hstart] at hlast ⊢
  rw [hstart, join, join, hlast]
  by_cases hend : q.bytes.getLast? = some slash
  · simp [hq, hend]
  · simp [hq, hend]

/-! ### Refusals -/

lemma refusal?_eq_none_iff {p : Path} :
    p.refusal? = none ↔ (0 : UInt8) ∉ p.bytes ∧ p.bytes ≠ [] ∧ p.bytes.length < tooLong := by
  unfold refusal?
  by_cases hzero : (0 : UInt8) ∈ p.bytes
  · simp [hzero]
  · by_cases hnil : p.bytes = []
    · simp [hnil]
    · simp [hzero, hnil]

/-- Nothing is wrong with the start of a path with which nothing is wrong. -/
lemma refusal?_eq_none_of_start {p q : Path} (h : p.bytes <+: q.bytes) (hp : p.bytes ≠ [])
    (hq : q.refusal? = none) : p.refusal? = none := by
  obtain ⟨hzero, -, hlength⟩ := refusal?_eq_none_iff.1 hq
  refine refusal?_eq_none_iff.2 ⟨fun hmem => hzero (h.subset hmem), hp, ?_⟩
  have hle := h.length_le
  omega

lemma prefix_join (p : Path) (bs : Bytes) : p.bytes <+: (p.join bs).bytes := by
  unfold join
  split
  · exact List.prefix_append _ _
  · exact List.prefix_append _ _

lemma join_ne_nil {p : Path} (hp : p.bytes ≠ []) (bs : Bytes) : (p.join bs).bytes ≠ [] := by
  intro hnil
  have hstart := prefix_join p bs
  rw [hnil, List.prefix_nil] at hstart
  exact hp hstart

/-! ### Going down -/

/-- The path that leads on from another one, down by some names. -/
def descend (p : Path) (names : Location) : Path :=
  names.foldl (fun q name => q.join name.bytes) p

lemma descend_concat (p : Path) (names : Location) (name : Name) :
    p.descend (names ++ [name]) = (p.descend names).join name.bytes := by
  rw [descend, List.foldl_append]
  rfl

lemma descend_ne_nil {p : Path} (hp : p.bytes ≠ []) (names : Location) :
    (p.descend names).bytes ≠ [] := by
  induction names using List.reverseRecOn with
  | nil => exact hp
  | append_singleton names name ih =>
    rw [descend_concat]
    exact join_ne_nil ih name.bytes

/-- Going down from a path adds one step for each name to the steps that all such paths have. -/
lemma steps_descend {p : Path} (hp : p.bytes ≠ []) :
    ∃ xs, ∀ names : Location, names ≠ [] →
      (p.descend names).steps = xs ++ names.map Step.down := by
  obtain ⟨xs, -, hjoin⟩ := steps_join hp
  refine ⟨xs, fun names hnames => ?_⟩
  induction names using List.reverseRecOn with
  | nil => exact absurd rfl hnames
  | append_singleton names name ih =>
    rw [descend_concat, List.map_append]
    by_cases hnil : names = []
    · subst hnil
      exact hjoin name
    · obtain ⟨ys, hys, hjoin'⟩ := steps_join (descend_ne_nil hp names)
      rw [ih hnil] at hys
      rcases hys with hys | hys
      · rw [hjoin', ← hys, List.append_assoc]
        rfl
      · -- the last step of the shorter path goes down, so it is none that stays
        have hlast := congrArg List.getLast? hys
        obtain ⟨before, last, rfl⟩ := List.eq_nil_or_concat names |>.resolve_left hnil
        simp at hlast

lemma length_descend (p : Path) (names : Location) :
    p.bytes.length + names.length ≤ (p.descend names).bytes.length := by
  induction names using List.reverseRecOn with
  | nil => exact Nat.le_refl _
  | append_singleton names name ih =>
    have hname : 0 < name.bytes.length := List.length_pos_iff.2 name.bytes_ne_nil
    have hjoin : (p.descend names).bytes.length + name.bytes.length ≤
        ((p.descend names).join name.bytes).bytes.length := by
      unfold join
      split
      · simp
      · simp
    rw [descend_concat, List.length_append, List.length_singleton]
    omega

/-- Different names lead to different paths. -/
lemma descend_injective {p : Path} (hp : p.bytes ≠ []) {a b : Location}
    (h : p.descend a = p.descend b) : a = b := by
  have hlength := length_descend p
  by_cases ha : a = []
  · have hb := hlength b
    rw [← h, ha] at hb
    have hzero : b.length = 0 := by
      change p.bytes.length + b.length ≤ p.bytes.length at hb
      omega
    rw [ha, List.length_eq_zero_iff.1 hzero]
  · by_cases hb : b = []
    · have ha' := hlength a
      rw [h, hb] at ha'
      have hzero : a.length = 0 := by
        change p.bytes.length + a.length ≤ p.bytes.length at ha'
        omega
      exact absurd (List.length_eq_zero_iff.1 hzero) ha
    · obtain ⟨xs, hxs⟩ := steps_descend hp
      have hsteps := congrArg steps h
      rw [hxs a ha, hxs b hb, List.append_cancel_left_eq] at hsteps
      exact (List.map_inj_right fun m n hmn => by simpa using hmn).1 hsteps

/-! ### The directory of the last segment -/

lemma directory_ne_nil (p : Path) : p.directory.bytes ≠ [] := by
  unfold directory
  simp only
  split
  · simp
  · split
    · simp
    · next hkept => simpa using hkept

lemma trimEnd_suffix (r : Bytes) : trimEnd r <:+ r := by
  fun_induction trimEnd r with
  | case1 => exact List.suffix_refl _
  | case2 => exact List.nil_suffix
  | case3 => exact List.suffix_refl _
  | case4 b c rest hb ih => exact ih.trans (List.suffix_cons _ _)
  | case5 => exact List.suffix_refl _

lemma trimEnd_slash_suffix (r : Bytes) : trimEnd (slash :: r) <:+ r := by
  cases r with
  | nil => simp [trimEnd]
  | cons c rest =>
    rw [trimEnd, if_pos (.inl rfl)]
    exact trimEnd_suffix _

lemma getLast?_of_trimEnd_eq_nil {r : Bytes} (hr : r ≠ []) (h : trimEnd r = []) :
    r.getLast? = some slash := by
  fun_induction trimEnd r with
  | case1 => exact absurd rfl hr
  | case2 => rfl
  | case3 => simp at h
  | case4 b c rest hb ih =>
    rw [List.getLast?_cons_cons]
    exact ih (by simp) h
  | case5 => simp at h

/-- What is trimmed from the end of a path are steps that stay. -/
lemma steps_trimEnd (r : Bytes) :
    ∃ k, steps ⟨r.reverse⟩ = steps ⟨(trimEnd r).reverse⟩ ++ List.replicate k .stay := by
  fun_induction trimEnd r with
  | case1 => exact ⟨0, by simp⟩
  | case2 => exact ⟨1, by decide⟩
  | case3 => exact ⟨0, by simp⟩
  | case4 b c rest hb ih =>
    obtain ⟨k, hk⟩ := ih
    rcases hb with rfl | ⟨rfl, rfl⟩
    · refine ⟨k + 1, ?_⟩
      rw [List.reverse_cons, steps_concat_slash, hk, List.append_assoc, ← List.replicate_succ']
    · refine ⟨k, ?_⟩
      rw [← hk, List.reverse_cons, List.reverse_cons, List.append_assoc, List.singleton_append,
        steps_concat_slash_dot, steps_concat_slash]
  | case5 => exact ⟨0, by simp⟩

lemma exists_common_of_append_replicate {a b : List Step} {j k : Nat} {x : Step}
    (h : a ++ List.replicate j x = b ++ List.replicate k x) :
    ∃ xs j' k', a = xs ++ List.replicate j' x ∧ b = xs ++ List.replicate k' x := by
  rcases Nat.le_total j k with hjk | hkj
  · refine ⟨b, k - j, 0, ?_, by simp⟩
    have hk : List.replicate k x = List.replicate (k - j) x ++ List.replicate j x := by
      rw [List.replicate_append_replicate, Nat.sub_add_cancel hjk]
    rw [hk, ← List.append_assoc] at h
    exact List.append_cancel_right h
  · refine ⟨a, 0, j - k, by simp, ?_⟩
    have hj : List.replicate j x = List.replicate (j - k) x ++ List.replicate k x := by
      rw [List.replicate_append_replicate, Nat.sub_add_cancel hkj]
    rw [hj, ← List.append_assoc] at h
    exact (List.append_cancel_right h).symm

/-- Up to its last slash, a joined path is the path with one slash at its end, read from the end
as `slash :: r`. -/
lemma reverse_join {p : Path} (hp : p.bytes ≠ []) {bs : Bytes} (hbs : slash ∉ bs) :
    ∃ r k, (p.join bs).bytes.reverse.dropWhile (· ≠ slash) = slash :: r ∧
      r.reverse <+: p.bytes ∧ p.bytes <+: (slash :: r).reverse ∧
      steps ⟨(slash :: r).reverse⟩ = p.steps ++ List.replicate k .stay := by
  have hskip (before : Bytes) : ((before ++ bs).reverse).dropWhile (fun b => decide (b ≠ slash)) =
      before.reverse.dropWhile (fun b => decide (b ≠ slash)) := by
    rw [List.reverse_append, List.dropWhile_append_of_pos]
    intro b hb
    rw [List.mem_reverse] at hb
    exact decide_eq_true fun h => hbs (h ▸ hb)
  by_cases hend : p.bytes.getLast? = some slash
  · obtain ⟨before, hbefore⟩ := List.getLast?_eq_some_iff.1 hend
    refine ⟨before.reverse, 0, ?_, ?_, ?_, ?_⟩
    · rw [join, if_pos (.inr hend), hskip, hbefore]
      simp
    · rw [List.reverse_reverse, hbefore]
      exact List.prefix_append _ _
    · simp [hbefore]
    · rw [List.reverse_cons, List.reverse_reverse, ← hbefore]
      simp
  · refine ⟨p.bytes.reverse, 1, ?_, ?_, ?_, ?_⟩
    · rw [join, if_neg (not_or.2 ⟨hp, hend⟩)]
      have hassoc : p.bytes ++ slash :: bs = (p.bytes ++ [slash]) ++ bs := by simp
      rw [hassoc, hskip]
      simp
    · simp
    · rw [List.reverse_cons, List.reverse_reverse]
      exact List.prefix_append _ _
    · rw [List.reverse_cons, List.reverse_reverse, steps_concat_slash]
      rfl

/-- The directory in which a joined name stands is the path itself, up to steps that stay. -/
theorem steps_directory {p : Path} (hp : p.bytes ≠ []) {bs : Bytes} (hbs : slash ∉ bs) :
    (p.join bs).directory.bytes <+: p.bytes ∧ (p.join bs).directory.bytes ≠ [] ∧
      ∃ xs j k, (p.join bs).directory.steps = xs ++ List.replicate j .stay ∧
        p.steps = xs ++ List.replicate k .stay := by
  obtain ⟨r, k, hr, hstart, hstart', hsteps⟩ := reverse_join hp hbs
  have hcontains : (p.join bs).bytes.contains slash = true := by
    have hmem : slash ∈ (p.join bs).bytes.reverse.dropWhile (· ≠ slash) := by
      rw [hr]
      exact List.mem_cons_self
    rw [List.contains_iff_mem, ← List.mem_reverse]
    exact (List.dropWhile_sublist _).subset hmem
  have hdirectory : (p.join bs).directory =
      if trimEnd (slash :: r) = [] then ⟨[slash]⟩ else ⟨(trimEnd (slash :: r)).reverse⟩ := by
    unfold directory
    rw [if_neg (not_not.2 hcontains), hr]
  obtain ⟨j, hj⟩ := steps_trimEnd (slash :: r)
  rw [hsteps] at hj
  by_cases hkept : trimEnd (slash :: r) = []
  · -- nothing is kept: the path is made of slashes and dots and starts with a slash
    rw [hdirectory, if_pos hkept]
    have hhead : (slash :: r).reverse.head? = some slash := by
      rw [List.head?_reverse]
      exact getLast?_of_trimEnd_eq_nil (by simp) hkept
    obtain ⟨b, rest, hb⟩ := List.exists_cons_of_ne_nil hp
    have hslash : b = slash := by
      obtain ⟨t, ht⟩ := hstart'
      rw [← ht, hb, List.cons_append, List.head?_cons, Option.some.injEq] at hhead
      exact hhead
    refine ⟨⟨rest, by rw [hb, hslash]; rfl⟩, by simp, [], 2, ?_⟩
    have hstays : p.steps ++ List.replicate k .stay = [] ++ List.replicate (j + 1) .stay := by
      rw [hj, hkept]
      rfl
    obtain ⟨xs, m, m', hp', hxs⟩ := exists_common_of_append_replicate hstays
    have hxs' : xs = [] := (List.append_eq_nil_iff.1 hxs.symm).1
    exact ⟨m, rfl, by rw [hp', hxs']⟩
  · rw [hdirectory, if_neg hkept]
    refine ⟨?_, by simpa using hkept, ?_⟩
    · exact (List.reverse_prefix.2 (trimEnd_slash_suffix r)).trans hstart
    · obtain ⟨xs, m, m', hp', hd⟩ := exists_common_of_append_replicate hj
      exact ⟨xs, m', m, hd, hp'⟩

end Path

/-! ## Sidecars -/

namespace Sidecar

open Binary

lemma suffix_eq : suffix = [0x2E, 0x6D, 0x65, 0x74, 0x61, 0x64, 0x61, 0x74, 0x61, 0x2E, 0x6D,
    0x64] := by
  decide

/-- Bytes without a slash, followed by the ending of a sidecar, as a name. -/
def nameFor (bs : Bytes) (h : Path.slash ∉ bs) : Name where
  bytes := bs ++ suffix
  plain := by
    have hlength : (bs ++ suffix).length = bs.length + 12 := by
      rw [List.length_append, suffix_eq]
      rfl
    refine ⟨?_, ?_, ?_, ?_⟩
    · intro heq
      simp [heq] at hlength
    · intro heq
      simp [heq] at hlength
    · intro heq
      simp only [heq, List.length_cons, List.length_nil] at hlength
      omega
    · rw [List.mem_append, not_or]
      exact ⟨h, by rw [suffix_eq]; decide⟩

/-- The name of the sidecar of a file. -/
abbrev nameOf (name : Name) : Name := nameFor name.bytes name.slash_notMem

lemma nameOf_injective {a b : Name} (h : nameOf a = nameOf b) : a = b := by
  have hbytes : a.bytes ++ suffix = b.bytes ++ suffix := congrArg Name.bytes h
  have := List.append_cancel_right hbytes
  cases a
  cases b
  simpa using this

lemma pathFor_join (p : Path) (name : Name) :
    pathFor (p.join name.bytes) = p.join (nameOf name).bytes :=
  Path.join_append p name.bytes suffix

lemma pathFor_descend (root : Path) (names : Location) (name : Name) :
    pathFor (root.descend (names ++ [name])) = root.descend (names ++ [nameOf name]) := by
  rw [Path.descend_concat, Path.descend_concat, pathFor_join]

/-- The path of a sidecar ends with a step down to a name with the ending of sidecars. -/
theorem steps_pathFor (media : Path) :
    ∃ xs bs h, (pathFor media).steps = xs ++ [.down (nameFor bs h)] := by
  have hne := splitAt_ne_nil Path.slash media.bytes
  have hsplit : splitAt Path.slash media.bytes = _ := (List.dropLast_concat_getLast hne).symm
  have hlast := not_mem_of_mem_splitAt (List.getLast_mem hne)
  have hsuffix : Path.slash ∉ suffix := by rw [suffix_eq]; decide
  refine ⟨(splitAt Path.slash media.bytes).dropLast.map Path.Step.ofSegment, _, hlast, ?_⟩
  have happend := splitAt_append hsplit hsuffix
  rw [pathFor, Path.append, Path.steps, Path.segments, happend, List.map_append, List.map_singleton]
  exact congrArg _ (congrArg (fun step => [step]) (Path.stepOfSegment_name (nameFor _ hlast)))

end Sidecar

end Sidecars
