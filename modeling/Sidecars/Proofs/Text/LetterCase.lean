import Mathlib.Data.List.Basic
import Mathlib.Tactic.Common
import Sidecars.Proofs.Text.Utf8
import Sidecars.Text.LowerCase

/-!
# The case of ASCII letters

Bytes are decoded and the text is put into lower case.  Which of the ASCII letters among the bytes
are capitals makes no difference for that: an ASCII byte stands for itself wherever it is, and a
letter is as good as the other one for the rule of the final sigma, which looks at the letters
around.

Conversely, most ASCII texts come about in no other way.  No broken byte and hardly any character
beyond ASCII becomes an ASCII character in lower case, the exceptions being the sign for kelvin and
the capital I with a dot, which leaves its dot behind.

* `Utf8.alike_decodeLossy`: capitals make no difference for decoding but themselves;
* `LowerCase.lower_eq_of_alike`: capitals make no difference for the lower case;
* `LowerCase.Plain`: the lower-case ASCII texts, without `k`, that come about in no other way;
* `LowerCase.lower_decodeLossy_eq_iff`: the byte sequences from which such a text comes about.
-/

namespace Sidecars.Text

/-- The small letter for an ASCII capital; any other byte is left as it is. -/
def lowerByte (b : UInt8) : UInt8 := if 0x41 ≤ b ∧ b ≤ 0x5A then b + 0x20 else b

/-- Whether two texts differ at most in the case of ASCII letters. -/
def Alike (s t : String) : Prop := s.toList.map Char.toLower = t.toList.map Char.toLower

/-- A byte is one of the capitals, or is left as it is. -/
lemma lowerByte_cases {P : UInt8 → Prop} (hcapital : ∀ n < 26, P (UInt8.ofNat (n + 0x41)))
    (hself : ∀ b, lowerByte b = b → P b) (b : UInt8) : P b := by
  by_cases hb : 0x41 ≤ b ∧ b ≤ 0x5A
  · have hlow : 0x41 ≤ b.toNat := UInt8.le_iff_toNat_le.1 hb.1
    have hhigh : b.toNat ≤ 0x5A := UInt8.le_iff_toNat_le.1 hb.2
    have hn := hcapital (b.toNat - 0x41) (by omega)
    rwa [Nat.sub_add_cancel hlow, UInt8.ofNat_toNat] at hn
  · exact hself b (if_neg hb)

/-- A character is one of the ASCII capitals, or is left as it is. -/
lemma toLower_cases {P : Char → Prop} (hcapital : ∀ n < 26, P (Char.ofNat (n + 0x41)))
    (hself : ∀ c, c.toLower = c → P c) (c : Char) : P c := by
  by_cases hc : c.val ≥ 'A'.val ∧ c.val ≤ 'Z'.val
  · have hlow : 0x41 ≤ c.toNat := UInt32.le_iff_toNat_le.1 hc.1
    have hhigh : c.toNat ≤ 0x5A := UInt32.le_iff_toNat_le.1 hc.2
    have hn := hcapital (c.toNat - 0x41) (by omega)
    rwa [Nat.sub_add_cancel hlow, Char.ofNat_toNat] at hn
  · exact hself c (dif_neg hc)

/-! ## Decoding -/

namespace Utf8

/-- A piece as it is shown, with the small letter for an ASCII capital. -/
def Piece.small (p : Piece) : Char := (p.char?.getD '\uFFFD').toLower

/-- A capital stands for itself, and so does the small letter. -/
lemma lead_capital : ∀ n < 26,
    lead (UInt8.ofNat (n + 0x41)) = .ascii (Char.ofNat (n + 0x41)) ∧
      lead (lowerByte (UInt8.ofNat (n + 0x41))) = .ascii (Char.ofNat (n + 0x41)).toLower ∧
      (Char.ofNat (n + 0x41)).toLower.toLower = (Char.ofNat (n + 0x41)).toLower := by
  decide

lemma capital_lt : ∀ n < 26,
    UInt8.ofNat (n + 0x41) < 0x80 ∧ lowerByte (UInt8.ofNat (n + 0x41)) < 0x80 := by
  decide

/-- The pieces of some bytes are those of the bytes with small letters for capitals, up to the case
of the letters. -/
lemma map_small_piecesFrom (bytes : Bytes) :
    ∀ state : Option Pending, (∀ p ∈ state, 0x80 ≤ p.lo) →
      (piecesFrom state (bytes.map lowerByte)).map Piece.small =
        (piecesFrom state bytes).map Piece.small := by
  induction bytes with
  | nil => exact fun state _ => rfl
  | cons b rest ih =>
    have hnone := ih none (by simp)
    have hsome {p : Pending} (hp : 0x80 ≤ p.lo) := ih (some p) (by simpa using hp)
    intro state hstate
    rw [List.map_cons]
    induction b using lowerByte_cases with
    | hcapital n hn =>
      -- neither letter goes on with what is pending, so both stand for themselves
      obtain ⟨hlead, hlead', htwice⟩ := lead_capital n hn
      have hfirst : (piecesFrom none (lowerByte (UInt8.ofNat (n + 0x41)) ::
          rest.map lowerByte)).map Piece.small =
            (piecesFrom none (UInt8.ofNat (n + 0x41) :: rest)).map Piece.small := by
        rw [piecesFrom, piecesFrom, hlead, hlead']
        simp only [List.map_cons, hnone, Piece.small, Piece.char?, Option.getD_some, htwice]
      cases state with
      | none => exact hfirst
      | some p =>
        obtain ⟨hlt, hlt'⟩ := capital_lt n hn
        rw [piecesFrom_of_out (not_let_through (hstate p rfl) hlt),
          piecesFrom_of_out (not_let_through (hstate p rfl) hlt'), List.map_cons, List.map_cons,
          hfirst]
    | hself b hb =>
      -- any other byte is the same in both, and so is what it opens
      rw [hb]
      have hfirst : (piecesFrom none (b :: rest.map lowerByte)).map Piece.small =
          (piecesFrom none (b :: rest)).map Piece.small := by
        rw [piecesFrom, piecesFrom]
        cases hlead : lead b with
        | ascii c => simp only [List.map_cons, hnone]
        | opens p => exact hsome (lo_of_lead hlead)
        | bad => simp only [List.map_cons, hnone]
      cases state with
      | none => exact hfirst
      | some p =>
        by_cases hin : p.lo ≤ b ∧ b ≤ p.hi
        · rw [piecesFrom, piecesFrom, if_pos hin, if_pos hin]
          dsimp only
          split
          · rw [List.map_cons, List.map_cons, hnone]
          · exact hsome (UInt8.le_refl _)
        · rw [piecesFrom_of_out hin, piecesFrom_of_out hin, List.map_cons, List.map_cons, hfirst]

lemma map_toLower_decodeLossy (bytes : Bytes) :
    (decodeLossy bytes).toList.map Char.toLower = (pieces bytes).map Piece.small := by
  rw [decodeLossy, String.toList_ofList, List.map_map]
  rfl

/-- Bytes that differ in the case of ASCII letters are decoded as texts that do. -/
theorem alike_decodeLossy {a b : Bytes} (h : a.map lowerByte = b.map lowerByte) :
    Alike (decodeLossy a) (decodeLossy b) := by
  have hsmall (bytes : Bytes) : (pieces (bytes.map lowerByte)).map Piece.small =
      (pieces bytes).map Piece.small := map_small_piecesFrom bytes none (by simp)
  rw [Alike, map_toLower_decodeLossy, map_toLower_decodeLossy, ← hsmall a, h, hsmall b]

end Utf8

/-! ## Lower case -/

namespace LowerCase

open Utf8

variable {before s t target : List Char} {c : Char}

lemma isIgnorable_toLower (c : Char) : isIgnorable c.toLower = isIgnorable c :=
  toLower_cases (P := fun c => isIgnorable c.toLower = isIgnorable c) (by decide)
    (fun c hc => by rw [hc]) c

lemma isCased_toLower (c : Char) : isCased c.toLower = isCased c :=
  toLower_cases (P := fun c => isCased c.toLower = isCased c) (by decide)
    (fun c hc => by rw [hc]) c

lemma lowerChar_toLower (c : Char) : lowerChar c.toLower = lowerChar c :=
  toLower_cases (P := fun c => lowerChar c.toLower = lowerChar c) (by decide)
    (fun c hc => by rw [hc]) c

lemma toLower_eq_sigma_iff (c : Char) : c.toLower = 'Σ' ↔ c = 'Σ' :=
  toLower_cases (P := fun c => c.toLower = 'Σ' ↔ c = 'Σ') (by decide)
    (fun c hc => by rw [hc]) c

/-- Whether a word goes on does not depend on which of its letters are capitals. -/
lemma wordGoesOn_map_toLower (cs : List Char) :
    wordGoesOn (cs.map Char.toLower) = wordGoesOn cs := by
  have hskip : isIgnorable ∘ Char.toLower = isIgnorable := funext isIgnorable_toLower
  unfold wordGoesOn
  rw [List.dropWhile_map, hskip]
  cases cs.dropWhile isIgnorable with
  | nil => rfl
  | cons c rest => exact isCased_toLower c

lemma lowerFrom_map_toLower (before s : List Char) :
    lowerFrom (before.map Char.toLower) (s.map Char.toLower) = lowerFrom before s := by
  induction s generalizing before with
  | nil => rfl
  | cons c s ih =>
    have hrest := ih (c :: before)
    rw [List.map_cons] at hrest
    rw [List.map_cons, lowerFrom, lowerFrom, hrest, wordGoesOn_map_toLower, wordGoesOn_map_toLower,
      lowerChar_toLower]
    simp only [toLower_eq_sigma_iff]

/-- Texts that differ in the case of ASCII letters are the same in lower case. -/
theorem lower_eq_of_alike {s t : String} (h : Alike s t) : lower s = lower t := by
  have hlower (s : String) : lowerFrom [] (s.toList.map Char.toLower) = lowerFrom [] s.toList :=
    lowerFrom_map_toLower [] s.toList
  rw [lower, lower, ← hlower s, h, hlower t]

/-! ## Texts that come about in no other way -/

/-- The small letters and other ASCII characters that are the lower-case form of ASCII characters
only.  The sign for kelvin, which is beyond ASCII, has the lower-case form `k`. -/
def Unshared (c : Char) : Prop := c.toNat < 0x80 ∧ c.toLower = c ∧ c ≠ 'k'

instance (c : Char) : Decidable (Unshared c) := inferInstanceAs (Decidable (_ ∧ _ ∧ _))

/-- Whether a text is in lower case and the lower case of nothing beyond ASCII. -/
def Plain (text : String) : Prop := ∀ c ∈ text.toList, Unshared c

instance : DecidablePred Plain := fun text => List.decidableBAll Unshared text.toList

/-- But for the sign for kelvin, what is shifted stays beyond ASCII. -/
lemma shifts_range : ∀ e ∈ shifts, (e.1 = 0x212A ∧ e.2.1 = 0x212A) ∨
    0x80 ≤ (e.1 : Int) + e.2.2.2 ∧ ((e.2.1 : Int) + e.2.2.2 < 0xD800 ∨
      0xDFFF < (e.1 : Int) + e.2.2.2 ∧ (e.2.1 : Int) + e.2.2.2 < 0x110000) := by
  decide +kernel

lemma shift_range {n : Nat} (hn : 0x80 ≤ n) (hvalid : n.isValidChar) (hkelvin : n ≠ 0x212A) :
    0x80 ≤ shift n ∧ (shift n).isValidChar := by
  unfold shift
  split
  · next first last step delta hfind =>
    have hrange := List.find?_some hfind
    simp only [Bool.and_eq_true, decide_eq_true_eq] at hrange
    have hmem := shifts_range _ (List.mem_of_find?_eq_some hfind)
    simp only at hmem
    rw [show Int.ofNat n = (n : Int) from rfl]
    unfold Nat.isValidChar
    omega
  · exact ⟨hn, hvalid⟩

lemma toLower_of_ge (h : 0x80 ≤ c.toNat) : c.toLower = c := by
  refine dif_neg ?_
  rintro ⟨-, hle⟩
  have hle' : c.toNat ≤ 0x5A := UInt32.le_iff_toNat_le.1 hle
  omega

lemma lowerFrom_cons_of_lt (h : c.toNat < 0x80) :
    lowerFrom before (c :: s) = c.toLower :: lowerFrom (c :: before) s := by
  have hsigma : c ≠ 'Σ' := by
    rintro rfl
    exact absurd h (by decide)
  rw [lowerFrom, if_neg hsigma, lowerChar, if_pos h]
  rfl

/-- A character beyond ASCII leaves its mark on the lower case. -/
lemma exists_shared_of_ge (h : 0x80 ≤ c.toNat) : ∃ x ∈ lowerFrom before (c :: s), ¬ Unshared x := by
  rw [lowerFrom]
  by_cases hsigma : c = 'Σ'
  · rw [if_pos hsigma]
    refine ⟨_, List.mem_append_left _ (List.mem_singleton.2 rfl), ?_⟩
    split <;> decide
  · rw [if_neg hsigma, lowerChar, if_neg (by omega)]
    by_cases hdotted : c.toNat = 0x130
    · rw [if_pos hdotted]
      exact ⟨'\u0307', by simp, by decide⟩
    · rw [if_neg hdotted]
      refine ⟨_, List.mem_append_left _ (List.mem_singleton.2 rfl), ?_⟩
      by_cases hkelvin : c.toNat = 0x212A
      · rw [hkelvin]
        decide +kernel
      · obtain ⟨hge, hvalid⟩ := shift_range h c.valid hkelvin
        rintro ⟨hlt, -⟩
        have htoNat : (Char.ofNat (shift c.toNat)).toNat = shift c.toNat :=
          toNat_ofNat_of_isValidChar hvalid
        omega

/-- A text whose characters are the lower-case forms of ASCII characters only is the lower case of
nothing but ASCII texts. -/
theorem lowerFrom_eq_iff (h : ∀ c ∈ target, Unshared c) :
    lowerFrom before s = target ↔ s.map Char.toLower = target := by
  induction s generalizing before target with
  | nil => rfl
  | cons c s ih =>
    by_cases hc : c.toNat < 0x80
    · rw [lowerFrom_cons_of_lt hc, List.map_cons]
      cases target with
      | nil => simp
      | cons t target =>
        rw [List.cons.injEq, List.cons.injEq, ih (List.forall_mem_cons.1 h).2]
    · have hge : 0x80 ≤ c.toNat := Nat.le_of_not_lt hc
      constructor
      · rintro rfl
        obtain ⟨x, hx, hshared⟩ : ∃ x ∈ lowerFrom before (c :: s), ¬ Unshared x :=
          exists_shared_of_ge hge
        exact absurd (h x hx) hshared
      · rintro rfl
        rw [List.map_cons, toLower_of_ge hge] at h
        exact absurd (h c List.mem_cons_self).1 hc

lemma map_toLower_eq_self {cs : List Char} (h : ∀ c ∈ cs, Unshared c) : cs.map Char.toLower = cs :=
  (List.map_congr_left fun c hc => (h c hc).2.1).trans (List.map_id _)

lemma lower_eq_self {text : String} (h : Plain text) : lower text = text := by
  rw [lower, (lowerFrom_eq_iff h).2 (map_toLower_eq_self h), String.ofList_toList]

/-! ## The bytes of such texts -/

lemma decodeLossy_encode (s : String) : decodeLossy (encode s) = s := by
  rw [decodeLossy, encode, pieces_encodeChars, List.map_map]
  have hshown : (fun p : Piece => p.char?.getD '\uFFFD') ∘ Piece.char = id := rfl
  rw [hshown, List.map_id, String.ofList_toList]

/-- Bytes that are shown as ASCII text are the bytes of this text. -/
lemma eq_encodeChars_of_lt {bytes : Bytes} (h : ∀ c ∈ (decodeLossy bytes).toList, c.toNat < 0x80) :
    bytes = encodeChars (decodeLossy bytes).toList := by
  rw [decodeLossy, String.toList_ofList] at h ⊢
  -- a broken piece would be shown as a character beyond ASCII
  have hpieces : (pieces bytes).flatMap Piece.bytes =
      encodeChars ((pieces bytes).map fun p => p.char?.getD '\uFFFD') := by
    rw [encodeChars, List.flatMap_map]
    refine List.flatMap_congr fun p hp => ?_
    cases p with
    | char c => rfl
    | broken bs => exact absurd (h '\uFFFD' (List.mem_map.2 ⟨_, hp, rfl⟩)) (by decide)
  rwa [flatMap_pieces] at hpieces

lemma map_lowerByte_utf8EncodeChar : ∀ n < 0x80,
    (String.utf8EncodeChar (Char.ofNat n)).map lowerByte =
      String.utf8EncodeChar (Char.ofNat n).toLower := by
  decide

lemma map_lowerByte_encodeChars {cs : List Char} (h : ∀ c ∈ cs, c.toNat < 0x80) :
    (encodeChars cs).map lowerByte = encodeChars (cs.map Char.toLower) := by
  rw [encodeChars, encodeChars, List.map_flatMap, List.flatMap_map]
  refine List.flatMap_congr fun c hc => ?_
  have hchar := map_lowerByte_utf8EncodeChar c.toNat (h c hc)
  rwa [Char.ofNat_toNat] at hchar

/-- The byte sequences that are decoded and then, in lower case, are a plain text: those that are
the bytes of this text up to the case of ASCII letters. -/
theorem lower_decodeLossy_eq_iff {bytes : Bytes} {text : String} (h : Plain text) :
    lower (decodeLossy bytes) = text ↔ bytes.map lowerByte = encode text := by
  constructor
  · intro hlower
    have hfrom : lowerFrom [] (decodeLossy bytes).toList = text.toList := by
      rw [← hlower, lower, String.toList_ofList]
    have hchars := (lowerFrom_eq_iff h).1 hfrom
    have hascii : ∀ c ∈ (decodeLossy bytes).toList, c.toNat < 0x80 := by
      intro c hc
      by_contra hge
      have hmem : c.toLower ∈ text.toList := hchars ▸ List.mem_map_of_mem hc
      rw [toLower_of_ge (Nat.le_of_not_lt hge)] at hmem
      exact hge (h c hmem).1
    rw [eq_encodeChars_of_lt hascii, map_lowerByte_encodeChars hascii, hchars]
    rfl
  · intro hbytes
    have hencode : (encode text).map lowerByte = encode text := by
      rw [encode, map_lowerByte_encodeChars fun c hc => (h c hc).1, map_toLower_eq_self h]
    rw [← hencode] at hbytes
    rw [lower_eq_of_alike (alike_decodeLossy hbytes), decodeLossy_encode, lower_eq_self h]

end LowerCase

end Sidecars.Text
