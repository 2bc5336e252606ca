import Sidecars.Proofs.FileSystem.Resolve
import Sidecars.Proofs.Path

/-!
# Paths from the top of the tree

The absolute form of a relative path goes down to the current directory first and then takes the
steps of the path.  So it leads where the path leads (`FileSystem.resolve_absolute`), unless it is
too long for the system, or the way down to the current directory has too long a name; this depends
on nothing but the current directory (`FileSystem.obstacle?`).
-/

namespace Sidecars

namespace FileSystem

open Sidecars.Path (Step)

variable {fs fs' : FileSystem} {p : Path}

/-! ## The steps of the absolute form -/

lemma absolutePath_concat (loc : Location) (name : Name) :
    absolutePath (loc ++ [name]) = (absolutePath loc).join name.bytes :=
  Path.descend_concat ⟨[Path.slash]⟩ loc name

lemma absolutePath_ne_nil (loc : Location) : (absolutePath loc).bytes ≠ [] :=
  @Path.descend_ne_nil ⟨[Path.slash]⟩ (by simp) loc

lemma isAbsolute_absolutePath_join (loc : Location) (bs : Bytes) :
    ((absolutePath loc).join bs).isAbsolute = true := by
  rw [Path.isAbsolute_join (absolutePath_ne_nil loc)]
  induction loc using List.reverseRecOn with
  | nil => rfl
  | append_singleton loc name ih =>
    rwa [absolutePath_concat, Path.isAbsolute_join (absolutePath_ne_nil loc)]

lemma absolute_ne_nil (hp : p.bytes ≠ []) : (fs.absolute p).bytes ≠ [] := by
  unfold absolute
  split
  · exact hp
  · exact Path.join_ne_nil (absolutePath_ne_nil fs.current) p.bytes

/-- The pieces of a path that starts at the top: nothing, the names down to the directory, and then
those of what is joined to it. -/
lemma segments_absolutePath_join (loc : Location) (bs : Bytes) :
    ((absolutePath loc).join bs).segments =
      [] :: loc.map Name.bytes ++ Binary.splitAt Path.slash bs := by
  induction loc using List.reverseRecOn generalizing bs with
  | nil => exact Binary.splitAt_append_sep Path.slash [] bs
  | append_singleton loc name ih =>
    have hjoin : (absolutePath (loc ++ [name])).join bs =
        ⟨(absolutePath (loc ++ [name])).bytes ++ Path.slash :: bs⟩ := by
      rw [Path.join, if_neg (not_or.2 ⟨absolutePath_ne_nil _, ?_⟩)]
      rw [absolutePath_concat]
      exact Path.getLast?_join_name _ name
    have hsegments : (absolutePath (loc ++ [name])).segments = _ :=
      absolutePath_concat loc name ▸ ih name.bytes
    rw [Binary.splitAt_of_not_mem name.slash_notMem] at hsegments
    rw [hjoin, Path.segments, Binary.splitAt_append_sep]
    rw [Path.segments] at hsegments
    rw [hsegments]
    simp

/-- The way from the top stays there, goes down to the directory, and goes on as the path does. -/
lemma steps_absolutePath_join (loc : Location) (p : Path) :
    ((absolutePath loc).join p.bytes).steps = .stay :: (loc.map Step.down ++ p.steps) := by
  have hnames : (loc.map Name.bytes).map Step.ofSegment = loc.map Step.down := by
    rw [List.map_map]
    exact List.map_congr_left fun name _ => Path.stepOfSegment_name name
  rw [Path.steps, segments_absolutePath_join, List.cons_append, List.map_cons, List.map_append,
    hnames]
  rfl

lemma absolute_join (hp : p.bytes ≠ []) (bs : Bytes) :
    fs.absolute (p.join bs) = (fs.absolute p).join bs := by
  rw [absolute, absolute, Path.isAbsolute_join hp]
  split
  · rfl
  · exact (Path.join_join (absolutePath fs.current) hp bs).symm

/-! ## The way down to the current directory -/

/-- Whether a name on the way down to a location is too long. -/
def LongWay (loc : Location) : Prop := ∃ name ∈ loc, Name.maxLength < name.bytes.length

/-- The way down to a directory only goes through directories, and fails at a name that is too long
or not at all. -/
lemma advance_downs {root n d : Node} {last : Bool} {before loc : Location} {rest : List Step}
    (hn : root.get? before = some n) (hd : root.get? (before ++ loc) = some d)
    (hdir : d.isDirectory = true) :
    (LongWay loc ∧
      advance root last before n (loc.map Step.down ++ rest) = .error .nameTooLong) ∨
    (¬ LongWay loc ∧ advance root last before n (loc.map Step.down ++ rest) =
      advance root last (before ++ loc) d rest) := by
  induction loc generalizing before n with
  | nil =>
    rw [List.append_nil, hn, Option.some.injEq] at hd
    subst hd
    exact .inr ⟨by simp [LongWay], by simp⟩
  | cons name loc ih =>
    rw [List.append_cons] at hd ⊢
    obtain ⟨child, hchild, hbelow⟩ := Option.bind_eq_some_iff.1 (Node.get?_append _ _ _ ▸ hd)
    have hlook : n.child? name = some child := by rw [← Node.get?_concat hn, hchild]
    have hdirn : n.isDirectory = true := Node.isDirectory_of_child? hlook
    rw [List.map_cons, List.cons_append, advance_cons hn, takeStep]
    by_cases hlong : Name.maxLength < name.bytes.length
    · exact .inl ⟨⟨name, by simp, hlong⟩, by simp [lookIn, hdirn, hlong, Except.bind]⟩
    · have htake : lookIn n before name = .ok (.found (before ++ [name]) child) :=
        lookIn_eq_ok_iff.2 ⟨hdirn, Nat.le_of_not_lt hlong, .inr ⟨child, hlook, rfl⟩⟩
      have hway : LongWay (name :: loc) ↔ LongWay loc := by simp [LongWay, hlong]
      rw [htake, Except.bind,
        goOn_found (ne_link_of_isDirectory (Node.isDirectory_of_get? hbelow hdir)), hway]
      exact ih hchild hd

/-- The way from the top to a directory, and on from there. -/
lemma follow_downs {root d : Node} {last : Bool} {links : Nat} {loc : Location} {rest : List Step}
    (hd : root.get? loc = some d) (hdir : d.isDirectory = true) :
    (LongWay loc ∧ follow root last links [] (.stay :: (loc.map Step.down ++ rest)) =
      .error .nameTooLong) ∨
    (¬ LongWay loc ∧ follow root last links [] (.stay :: (loc.map Step.down ++ rest)) =
      follow root last links loc rest) := by
  have htop : root.get? [] = some root := rfl
  have hroot : root.isDirectory = true := Node.isDirectory_of_get? hd hdir
  have hstay (steps : List Step) :
      advance root last [] root (.stay :: steps) = advance root last [] root steps := by
    rw [advance_cons htop, takeStep, if_pos hroot, Except.bind,
      goOn_found (ne_link_of_isDirectory hroot)]
  have hway := @advance_downs root root d last [] loc rest htop hd hdir
  rcases hway with ⟨hlong, hadvance⟩ | ⟨hshort, hadvance⟩
  · refine .inl ⟨hlong, ?_⟩
    unfold follow
    simp only [htop, hstay, hadvance]
  · refine .inr ⟨hshort, ?_⟩
    unfold follow
    simp only [htop, hstay, hadvance, hd, List.nil_append]

/-- A relative path that leads somewhere starts in a directory. -/
lemma hasDirectory_current {last : Bool} {spot : Spot} (h : fs.resolve last p = .ok spot)
    (hp : p.isAbsolute = false) : fs.HasDirectory fs.current := by
  have hrefusal := refusal?_of_resolve h
  have horigin : fs.origin p = fs.current := by simp [origin, hp]
  rw [resolve_of_refusal_eq_none hrefusal, horigin] at h
  obtain ⟨n, hn, hway⟩ := follow_eq_ok_iff.1 h
  refine hasDirectory_iff.2 ⟨n, hn, ?_⟩
  by_contra hdir
  obtain ⟨step, rest, hcons⟩ := List.exists_cons_of_ne_nil p.steps_ne_nil
  rw [hcons] at hway
  simp [advance, hdir] at hway

/-! ## Where the absolute form leads -/

open Classical in
/-- Why the absolute form of a path does not lead where the path leads, if so. -/
noncomputable def obstacle? (fs : FileSystem) (p : Path) : Option Errno :=
  match (fs.absolute p).refusal? with
  | some e => some e
  | none => if p.isAbsolute = false ∧ LongWay fs.current then some .nameTooLong else none

lemma obstacle?_eq (h : fs'.current = fs.current) (p : Path) :
    fs'.obstacle? p = fs.obstacle? p := by
  rw [obstacle?, obstacle?, absolute, absolute, h]

/-- A path whose absolute form the system looks at is looked at. -/
lemma refusal?_of_absolute (hp : p.bytes ≠ []) (h : (fs.absolute p).refusal? = none) :
    p.refusal? = none := by
  unfold absolute at h
  split at h
  · exact h
  · obtain ⟨hzero, -, hlength⟩ := Path.refusal?_eq_none_iff.1 h
    have hend : p.bytes <:+ ((absolutePath fs.current).join p.bytes).bytes :=
      Path.suffix_join _ _
    have hle := hend.length_le
    exact Path.refusal?_eq_none_iff.2 ⟨fun hmem => hzero (hend.subset hmem), hp, by omega⟩

lemma refusal?_of_obstacle?_eq_none (hp : p.bytes ≠ []) (h : fs.obstacle? p = none) :
    p.refusal? = none := by
  unfold obstacle? at h
  split at h
  · cases h
  · next hrefusal => exact refusal?_of_absolute hp hrefusal

/-- The absolute form of a path leads where the path leads, unless there is an obstacle on the
way. -/
theorem resolve_absolute {last : Bool} (hp : p.bytes ≠ [])
    (hcurrent : p.isAbsolute = false → fs.HasDirectory fs.current) :
    fs.resolve last (fs.absolute p) =
      match fs.obstacle? p with
      | some e => .error e
      | none => fs.resolve last p := by
  cases hrefusal : (fs.absolute p).refusal? with
  | some e => simp [resolve, obstacle?, hrefusal]
  | none =>
    rw [resolve_of_refusal_eq_none hrefusal, obstacle?, hrefusal,
      resolve_of_refusal_eq_none (refusal?_of_absolute hp hrefusal)]
    by_cases habsolute : p.isAbsolute = true
    · simp [absolute, habsolute]
    · rw [Bool.not_eq_true] at habsolute
      have hform : fs.absolute p = (absolutePath fs.current).join p.bytes := by
        simp [absolute, habsolute]
      have horigin : fs.origin ((absolutePath fs.current).join p.bytes) = [] := by
        rw [origin, isAbsolute_absolutePath_join, if_pos rfl]
      have horigin' : fs.origin p = fs.current := by simp [origin, habsolute]
      rw [hform, horigin, horigin', steps_absolutePath_join]
      obtain ⟨d, hd, hdir⟩ := hasDirectory_iff.1 (hcurrent habsolute)
      have hway := @follow_downs fs.root d last maxLinks fs.current p.steps hd hdir
      rcases hway with ⟨hlong, hfollow⟩ | ⟨hshort, hfollow⟩
      · rw [hfollow, if_pos ⟨habsolute, hlong⟩]
      · rw [hfollow, if_neg fun h => hshort h.2]

end FileSystem
end Sidecars
