import Mathlib.Algebra.Group.Nat.Defs
import Sidecars.Proofs.FileSystem.Absolute

/-!
# The place of the temporary file

A temporary file gets the first name that is free, and chance says at which name the search begins.
How the search ends hardly depends on that: `temporaryPlace_cases` says that there are three ways,
whatever chance says.

* Every name is refused for the same reason, since they are all equally long.
* No name is free, since every search goes through all of them (`exists_temporaryName_eq`).
* A name is free in one directory, and some free name is found there.
-/

namespace Sidecars

namespace Text.Escaped

/-- Whether a character is a visible one of ASCII and neither a quote nor a backslash. -/
def Visible (c : Char) : Prop := 0x20 < c.toNat ∧ c.toNat < 0x7F ∧ c ∉ ['"', '\'', '\\']

instance (c : Char) : Decidable (Visible c) :=
  inferInstanceAs (Decidable (0x20 < c.toNat ∧ c.toNat < 0x7F ∧ c ∉ ['"', '\'', '\\']))

/-- Such a character is shown as it is. -/
lemma Visible.escapeChar_eq {c : Char} (h : Visible c) (single : Bool) :
    escapeChar single c = [c] := by
  obtain ⟨hlow, hhigh, hplain⟩ := h
  simp only [List.mem_cons, List.not_mem_nil, or_false, not_or] at hplain
  have hcontrol : ∀ d ∈ ['\u0000', '\t', '\r', '\n'], c ≠ d := by
    rintro d hd rfl
    have hcontrols : ∀ d ∈ ['\u0000', '\t', '\r', '\n'], d.toNat ≤ 0x20 := by simp
    exact absurd (hcontrols c hd) (by omega)
  -- no range of the tables reaches into the visible part of ASCII
  have hranges : ∀ r ∈ unprintableRanges ++ extendingRanges, r.2 ≤ 0x20 ∨ 0x7F ≤ r.1 := by
    decide +kernel
  have hout {ranges : List (Nat × Nat)} (hsub : ranges ⊆ unprintableRanges ++ extendingRanges) :
      LowerCase.inRanges ranges c.toNat = false := by
    refine List.any_eq_false.2 fun r hr => ?_
    rcases hranges r (hsub hr) with h | h <;> simp <;> omega
  have hhidden : isHidden c = false := by
    rw [isHidden, hout (List.subset_append_left _ _), hout (List.subset_append_right _ _)]
    simp
  unfold escapeChar
  simp [hcontrol, hplain, hhidden]

end Text.Escaped

namespace Sidecar

open FileSystem

variable {fs : FileSystem} {target : Path} {place : Place}

/-! ## Names -/

lemma length_letters (count k : Nat) : (letters count k).length = count := by
  induction count generalizing k with
  | zero => rfl
  | succ count ih => rw [letters, List.length_cons, ih]

/-- So many letters can only spell so many numbers. -/
lemma letters_mod (count k : Nat) : letters count (k % 62 ^ count) = letters count k := by
  induction count generalizing k with
  | zero => rfl
  | succ count ih =>
    have hdigit : k % 62 ^ (count + 1) % 62 = k % 62 :=
      Nat.mod_mod_of_dvd k (by rw [Nat.pow_succ']; exact Nat.dvd_mul_right 62 (62 ^ count))
    have hrest : k % 62 ^ (count + 1) / 62 = k / 62 % 62 ^ count := by
      rw [Nat.pow_succ', Nat.mod_mul_right_div_self]
    rw [letters, letters, hdigit, hrest, ih]

lemma length_temporaryName (k : Nat) : (temporaryName k).bytes.length = 10 := by
  rw [temporaryName, List.length_append, length_letters]
  rfl

/-- The bytes of a name are ASCII characters that are shown as they are. -/
lemma plain_of_mem_temporaryName {k : Nat} {b : UInt8} (h : b ∈ (temporaryName k).bytes) :
    b ≠ 0 ∧ b < 0x80 ∧
      Text.Escaped.escapeChar true (Char.ofNat b.toNat) = [Char.ofNat b.toNat] := by
  have hletter : ∀ d < 62, alphanumeric d ≠ 0 ∧ alphanumeric d < 0x80 ∧
      Text.Escaped.Visible (Char.ofNat (alphanumeric d).toNat) := by decide +kernel
  have hstart : ∀ b ∈ Binary.ascii ".tmp", b ≠ 0 ∧ b < 0x80 ∧
      Text.Escaped.Visible (Char.ofNat b.toNat) := by decide +kernel
  have hb : b ≠ 0 ∧ b < 0x80 ∧ Text.Escaped.Visible (Char.ofNat b.toNat) := by
    rcases List.mem_append.1 h with h | h
    · exact hstart b h
    · obtain ⟨d, hd, rfl⟩ := exists_of_mem_letters h
      exact hletter d hd
  exact ⟨hb.1, hb.2.1, hb.2.2.escapeChar_eq true⟩

lemma zero_notMem_temporaryName (k : Nat) : (0 : UInt8) ∉ (temporaryName k).bytes :=
  fun h => (plain_of_mem_temporaryName h).1 rfl

/-- Wherever one begins, one comes to every name. -/
lemma exists_temporaryName_eq (j k : Nat) :
    ∃ i < nameCount, temporaryName (k + i) = temporaryName j := by
  have hpos : 0 < nameCount := by decide
  refine ⟨(j + nameCount * k - k) % nameCount, Nat.mod_lt _ hpos, ?_⟩
  have hle : k ≤ nameCount * k := Nat.le_mul_of_pos_left k hpos
  have hmod : (k + (j + nameCount * k - k) % nameCount) % nameCount = j % nameCount := by
    rw [Nat.add_mod_mod, ← Nat.add_mul_mod_self_left j nameCount k]
    congr 1
    omega
  have hletters : letters 6 (k + (j + nameCount * k - k) % nameCount) = letters 6 j := by
    rw [← letters_mod, ← letters_mod 6 j]
    exact congrArg (letters 6) hmod
  exact Name.bytes_injective (congrArg (Binary.ascii ".tmp" ++ ·) hletters)

/-- A temporary file does not have the name of a sidecar, which is longer. -/
lemma temporaryName_ne_nameFor (k : Nat) (bs : Bytes) (h : Path.slash ∉ bs) :
    temporaryName k ≠ nameFor bs h := by
  intro heq
  have hlength := congrArg (fun name => name.bytes.length) heq
  simp only [length_temporaryName, nameFor, suffix_eq, List.length_append, List.length_cons,
    List.length_nil] at hlength
  omega

lemma lookIn_temporaryName {n : Node} {l : Location} {k : Nat} (hdir : n.isDirectory = true) :
    lookIn n l (temporaryName k) =
      match n.child? (temporaryName k) with
      | none => .ok (.free ⟨l, temporaryName k⟩)
      | some m => .ok (.found (l ++ [temporaryName k]) m) := by
  have hshort : ¬ Name.maxLength < (temporaryName k).bytes.length := by
    simp [length_temporaryName, Name.maxLength]
  cases hchild : n.child? (temporaryName k) <;> simp [lookIn, hdir, hshort, hchild]

/-! ## Paths -/

/-- All temporary paths are equally long. -/
lemma refusal?_temporaryPath (j k : Nat) :
    (temporaryPath fs target (temporaryName j)).refusal? =
      (temporaryPath fs target (temporaryName k)).refusal? := by
  obtain ⟨start, hstart⟩ := Path.exists_join_eq (fs.absolute target.directory)
  have hne (i : Nat) : (temporaryName i).bytes ≠ [] := (temporaryName i).bytes_ne_nil
  simp [temporaryPath, hstart, Path.refusal?, zero_notMem_temporaryName, hne, length_temporaryName]

/-- Looking for one of the names fails for the same reason as for any other, or one looks into one
directory for all of them. -/
lemma resolve_temporaryPath_cases (fs : FileSystem) (target : Path) :
    (∃ e, ∀ k, fs.resolve false (temporaryPath fs target (temporaryName k)) = .error e) ∨
    ∃ l n, fs.root.get? l = some n ∧ n.isDirectory = true ∧
      ∀ k, fs.resolve false (temporaryPath fs target (temporaryName k)) =
        lookIn n l (temporaryName k) := by
  have hne : (fs.absolute target.directory).bytes ≠ [] := absolute_ne_nil target.directory_ne_nil
  obtain ⟨xs, -, hsteps⟩ := Path.steps_join hne
  cases hrefusal : (temporaryPath fs target (temporaryName 0)).refusal? with
  | some e =>
    refine .inl ⟨e, fun k => ?_⟩
    rw [resolve, refusal?_temporaryPath k 0, hrefusal]
  | none =>
    have hresolve (k : Nat) : fs.resolve false (temporaryPath fs target (temporaryName k)) =
        thenStep fs.root (.down (temporaryName k))
          (follow fs.root true maxLinks (fs.origin (fs.absolute target.directory)) xs) := by
      rw [resolve_of_refusal_eq_none (by rw [refusal?_temporaryPath k 0, hrefusal]), temporaryPath,
        hsteps, follow_concat, origin, origin, Path.isAbsolute_join hne]
    cases hfollow : follow fs.root true maxLinks (fs.origin (fs.absolute target.directory)) xs with
    | error e => exact .inl ⟨e, fun k => by rw [hresolve, hfollow]; rfl⟩
    | ok spot =>
      cases spot with
      | free place => exact .inl ⟨.noEntry, fun k => by rw [hresolve, hfollow]; rfl⟩
      | found l n =>
        cases hdir : n.isDirectory with
        | false =>
          refine .inl ⟨.notDirectory, fun k => ?_⟩
          rw [hresolve, hfollow, thenStep, takeStep, lookIn, hdir]
          rfl
        | true =>
          exact .inr ⟨l, n, stands_of_follow hfollow, hdir, fun k => by rw [hresolve, hfollow]; rfl⟩

/-! ## The search -/

/-- What the search ends at is a free name. -/
lemma firstPlace_eq_ok {tries k : Nat} (h : firstPlace fs target tries k = .ok place) :
    ∃ j, fs.resolve false (temporaryPath fs target (temporaryName j)) = .ok (.free place) := by
  induction tries generalizing k with
  | zero => cases h
  | succ tries ih =>
    rw [firstPlace] at h
    split at h
    · cases h
    · exact ih h
    · next other hfree =>
      cases h
      exact ⟨k, hfree⟩

/-- In a directory with a free name among those that are tried the search ends there. -/
lemma firstPlace_of_free {l : Location} {n : Node} {tries k : Nat}
    (hdir : n.isDirectory = true) (hlook : ∀ k,
      fs.resolve false (temporaryPath fs target (temporaryName k)) = lookIn n l (temporaryName k))
    (hfree : ∃ i < tries, n.child? (temporaryName (k + i)) = none) :
    ∃ j, firstPlace fs target tries k = .ok ⟨l, temporaryName j⟩ ∧
      n.child? (temporaryName j) = none := by
  induction tries generalizing k with
  | zero =>
    obtain ⟨i, hi, -⟩ := hfree
    exact absurd hi (Nat.not_lt_zero i)
  | succ tries ih =>
    rw [firstPlace, hlook, lookIn_temporaryName hdir]
    cases hk : n.child? (temporaryName k) with
    | none => exact ⟨k, rfl, hk⟩
    | some m =>
      refine ih ?_
      obtain ⟨i, hi, hnone⟩ := hfree
      cases i with
      | zero => simp [hk] at hnone
      | succ i => exact ⟨i, by omega, by rwa [Nat.add_right_comm]⟩

lemma firstPlace_of_taken {l : Location} {n : Node} {tries k : Nat}
    (hdir : n.isDirectory = true) (hlook : ∀ k,
      fs.resolve false (temporaryPath fs target (temporaryName k)) = lookIn n l (temporaryName k))
    (htaken : ∀ k, n.child? (temporaryName k) ≠ none) :
    firstPlace fs target tries k = .error (.namesTaken target.directory) := by
  induction tries generalizing k with
  | zero => rfl
  | succ tries ih =>
    obtain ⟨m, hm⟩ := Option.ne_none_iff_exists'.1 (htaken k)
    rw [firstPlace, hlook, lookIn_temporaryName hdir, hm]
    exact ih

/-- How the search for a temporary file ends, whatever name it begins with. -/
theorem temporaryPlace_cases (fs : FileSystem) (target : Path) :
    (∃ e, ∀ k, firstPlace fs target nameCount k =
      .error (.temporary e (temporaryPath fs target (temporaryName k)))) ∨
    (∀ k, firstPlace fs target nameCount k = .error (.namesTaken target.directory)) ∨
    ∃ l, fs.HasDirectory l ∧ ∀ k, ∃ j, firstPlace fs target nameCount k = .ok ⟨l, temporaryName j⟩ ∧
      fs.entryAt? (l ++ [temporaryName j]) = none := by
  rcases resolve_temporaryPath_cases fs target with ⟨e, he⟩ | ⟨l, n, hn, hdir, hlook⟩
  · refine .inl ⟨e, fun k => ?_⟩
    have hpos : nameCount = (nameCount - 1) + 1 := by decide
    rw [hpos, firstPlace, he]
  · by_cases htaken : ∀ k, n.child? (temporaryName k) ≠ none
    · exact .inr (.inl fun k => firstPlace_of_taken hdir hlook htaken)
    · obtain ⟨j, hj⟩ : ∃ j, n.child? (temporaryName j) = none := by simpa using htaken
      refine .inr (.inr ⟨l, hasDirectory_iff.2 ⟨n, hn, hdir⟩, fun k => ?_⟩)
      obtain ⟨i, hi, hname⟩ := exists_temporaryName_eq j k
      obtain ⟨j', hplace, hfree⟩ := firstPlace_of_free hdir hlook ⟨i, hi, by rwa [hname]⟩
      exact ⟨j', hplace, by rw [entryAt?_eq, Node.get?_concat hn, hfree]; rfl⟩

/-- The temporary file gets a name of its own sort that is free in some directory. -/
lemma temporaryPlace_spec {temporary : Place} (h : temporaryPlace fs target = .ok temporary) :
    fs.HasDirectory temporary.directory ∧ fs.entryAt? temporary.location = none ∧
      ∃ k, temporary.name = temporaryName k := by
  unfold temporaryPlace at h
  rcases temporaryPlace_cases fs target with ⟨e, herror⟩ | htaken | ⟨l, hdir, hfree⟩
  · rw [herror] at h
    cases h
  · rw [htaken] at h
    cases h
  · obtain ⟨j, hplace, hnone⟩ := hfree (fs.chance target)
    rw [hplace] at h
    cases h
    exact ⟨hdir, hnone, j, rfl⟩

end Sidecar

end Sidecars
