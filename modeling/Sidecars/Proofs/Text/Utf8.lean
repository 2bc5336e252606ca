import Sidecars.Text.Utf8
import Mathlib.Data.List.Basic

/-!
# Decoding and encoding

The bytes of a text are read back as the text, and no other bytes are.

* `lead_two`, `lead_three` and `lead_four` say what the first byte of a longer character opens;
* `grouped` says of a character how many bytes it has, and which;
* `piecesFrom_utf8EncodeChar` reads its bytes back;
* `decodeChars?_encodeChars` is the round trip;
* `Pending.Begun` says of the machine between two bytes that what it has read begins a character,
  and `lead_begun` that a first byte does;
* `flatMap_pieces` says that no byte is lost, and `decodeChars?_eq_some_iff` that the bytes of a
  text are its only ones;
* `pieces_append_ascii` says that an ASCII byte is a piece by itself, whatever is before it.
-/

namespace Sidecars.Text.Utf8

variable {n : Nat} {rest : Bytes} {p : Pending}

/-! ## First bytes -/

lemma lead_one : ∀ n < 0x80, lead (UInt8.ofNat n) = .ascii (Char.ofNat n) := by decide

lemma lead_two : ∀ n < 0x20, 2 ≤ n →
    lead (UInt8.ofNat (n + 0xC0)) = .opens ⟨[UInt8.ofNat (n + 0xC0)], 1, 0x80, 0xBF, n⟩ := by
  decide

/-- The byte behind the first excludes overlong forms and surrogates. -/
lemma lead_three : ∀ n < 0x10,
    lead (UInt8.ofNat (n + 0xE0)) = .opens ⟨[UInt8.ofNat (n + 0xE0)], 2,
      if n = 0 then 0xA0 else 0x80, if n = 0xD then 0x9F else 0xBF, n⟩ := by
  decide

/-- The byte behind the first excludes overlong forms and what is beyond the last character. -/
lemma lead_four : ∀ n < 5,
    lead (UInt8.ofNat (n + 0xF0)) = .opens ⟨[UInt8.ofNat (n + 0xF0)], 3,
      if n = 0 then 0x90 else 0x80, if n = 4 then 0x8F else 0xBF, n⟩ := by
  decide

/-! ## The bytes of a character -/

lemma toNat_ofNat_of_isValidChar (h : n.isValidChar) : (Char.ofNat n).val.toNat = n := by
  rw [Char.ofNat, dif_pos h]
  rfl

lemma utf8EncodeChar_one (hn : n < 0x80) :
    String.utf8EncodeChar (Char.ofNat n) = [UInt8.ofNat n] := by
  rw [String.utf8EncodeChar, toNat_ofNat_of_isValidChar (.inl (by omega))]
  exact if_pos (by omega)

lemma utf8EncodeChar_two {m : Nat} (hlow : 2 ≤ n) (hn : n < 0x20) (hm : m < 64) :
    String.utf8EncodeChar (Char.ofNat (n * 64 + m)) =
      [UInt8.ofNat (n + 0xC0), UInt8.ofNat (m + 0x80)] := by
  rw [String.utf8EncodeChar, toNat_ofNat_of_isValidChar (.inl (by omega)), if_neg (by omega),
    if_pos (by omega), show (n * 64 + m) / 64 % 32 = n by omega,
    show (n * 64 + m) % 64 = m by omega]

/-- Neither an overlong form nor a surrogate. -/
lemma utf8EncodeChar_three {m l : Nat} (hn : n < 0x10) (hm : m < 64) (hl : l < 64)
    (hlow : n = 0 → 0x20 ≤ m) (hhigh : n = 0xD → m < 0x20) :
    String.utf8EncodeChar (Char.ofNat ((n * 64 + m) * 64 + l)) =
      [UInt8.ofNat (n + 0xE0), UInt8.ofNat (m + 0x80), UInt8.ofNat (l + 0x80)] := by
  have hvalid : ((n * 64 + m) * 64 + l).isValidChar := by
    unfold Nat.isValidChar
    omega
  rw [String.utf8EncodeChar, toNat_ofNat_of_isValidChar hvalid, if_neg (by omega),
    if_neg (by omega), if_pos (by omega), show ((n * 64 + m) * 64 + l) / 4096 % 16 = n by omega,
    show ((n * 64 + m) * 64 + l) / 64 % 64 = m by omega,
    show ((n * 64 + m) * 64 + l) % 64 = l by omega]

/-- Neither an overlong form nor beyond the last character. -/
lemma utf8EncodeChar_four {m l k : Nat} (hn : n < 5) (hm : m < 64) (hl : l < 64) (hk : k < 64)
    (hlow : n = 0 → 0x10 ≤ m) (hhigh : n = 4 → m < 0x10) :
    String.utf8EncodeChar (Char.ofNat (((n * 64 + m) * 64 + l) * 64 + k)) =
      [UInt8.ofNat (n + 0xF0), UInt8.ofNat (m + 0x80), UInt8.ofNat (l + 0x80),
        UInt8.ofNat (k + 0x80)] := by
  have hvalid : (((n * 64 + m) * 64 + l) * 64 + k).isValidChar := by
    unfold Nat.isValidChar
    omega
  rw [String.utf8EncodeChar, toNat_ofNat_of_isValidChar hvalid, if_neg (by omega),
    if_neg (by omega), if_neg (by omega),
    show (((n * 64 + m) * 64 + l) * 64 + k) / 262144 % 8 = n by omega,
    show (((n * 64 + m) * 64 + l) * 64 + k) / 4096 % 64 = m by omega,
    show (((n * 64 + m) * 64 + l) * 64 + k) / 64 % 64 = l by omega,
    show (((n * 64 + m) * 64 + l) * 64 + k) % 64 = k by omega]

/-- A character by the number of its bytes.  Its code point is in groups of six bits, one for each
byte behind the first; the bounds leave out overlong forms, surrogates and what is beyond the last
character. -/
inductive Grouped : Char → Prop
  /-- Nothing but the first byte. -/
  | one {n : Nat} (hn : n < 0x80) : Grouped (Char.ofNat n)
  /-- One byte behind it. -/
  | two {n m : Nat} (hlow : 2 ≤ n) (hn : n < 0x20) (hm : m < 64) :
      Grouped (Char.ofNat (n * 64 + m))
  /-- Two bytes behind it. -/
  | three {n m l : Nat} (hn : n < 0x10) (hm : m < 64) (hl : l < 64) (hlow : n = 0 → 0x20 ≤ m)
      (hhigh : n = 0xD → m < 0x20) : Grouped (Char.ofNat ((n * 64 + m) * 64 + l))
  /-- Three bytes behind it. -/
  | four {n m l k : Nat} (hn : n < 5) (hm : m < 64) (hl : l < 64) (hk : k < 64)
      (hlow : n = 0 → 0x10 ≤ m) (hhigh : n = 4 → m < 0x10) :
      Grouped (Char.ofNat (((n * 64 + m) * 64 + l) * 64 + k))

lemma grouped (c : Char) : Grouped c := by
  have hvalid : c.val.toNat < 0xD800 ∨ 0xDFFF < c.val.toNat ∧ c.val.toNat < 0x110000 := c.valid
  rw [← Char.ofNat_toNat c]
  change Grouped (Char.ofNat c.val.toNat)
  generalize c.val.toNat = v at hvalid ⊢
  by_cases h₁ : v < 0x80
  · exact .one h₁
  by_cases h₂ : v < 0x800
  · rw [show v = v / 64 * 64 + v % 64 by omega]
    exact .two (by omega) (by omega) (by omega)
  by_cases h₃ : v < 0x10000
  · rw [show v = (v / 4096 * 64 + v / 64 % 64) * 64 + v % 64 by omega]
    exact .three (by omega) (by omega) (by omega) (by omega) (by omega)
  · rw [show v = ((v / 262144 * 64 + v / 4096 % 64) * 64 + v / 64 % 64) * 64 + v % 64 by omega]
    exact .four (by omega) (by omega) (by omega) (by omega) (by omega) (by omega)

/-! ## Characters -/

/-- A byte behind the first adds six bits. -/
lemma piecesFrom_trailing (hn : n < 64) (hlow : p.lo.toNat ≤ n + 0x80)
    (hhigh : n + 0x80 ≤ p.hi.toNat) :
    piecesFrom (some p) (UInt8.ofNat (n + 0x80) :: rest) =
      if p.need ≤ 1 then .char (Char.ofNat (p.value * 64 + n)) :: piecesFrom none rest
      else piecesFrom (some ⟨UInt8.ofNat (n + 0x80) :: p.seen, p.need - 1, 0x80, 0xBF,
        p.value * 64 + n⟩) rest := by
  have hbyte : (UInt8.ofNat (n + 0x80)).toNat = n + 0x80 := by
    rw [UInt8.toNat_ofNat', Nat.mod_eq_of_lt (by omega)]
  have hbounds : p.lo ≤ UInt8.ofNat (n + 0x80) ∧ UInt8.ofNat (n + 0x80) ≤ p.hi := by
    rw [UInt8.le_iff_toNat_le, UInt8.le_iff_toNat_le, hbyte]
    exact ⟨hlow, hhigh⟩
  rw [piecesFrom, if_pos hbounds, hbyte, Nat.add_sub_cancel]

lemma piecesFrom_two {m : Nat} (hlow : 2 ≤ n) (hn : n < 0x20) (hm : m < 64) :
    piecesFrom none (UInt8.ofNat (n + 0xC0) :: UInt8.ofNat (m + 0x80) :: rest) =
      .char (Char.ofNat (n * 64 + m)) :: piecesFrom none rest := by
  rw [piecesFrom, lead_two n hn hlow]
  exact (piecesFrom_trailing hm (by simp) (by simp; omega)).trans (if_pos (by simp))

lemma piecesFrom_three {m l : Nat} (hn : n < 0x10) (hm : m < 64) (hl : l < 64)
    (hlow : n = 0 → 0x20 ≤ m) (hhigh : n = 0xD → m < 0x20) :
    piecesFrom none
        (UInt8.ofNat (n + 0xE0) :: UInt8.ofNat (m + 0x80) :: UInt8.ofNat (l + 0x80) :: rest) =
      .char (Char.ofNat ((n * 64 + m) * 64 + l)) :: piecesFrom none rest := by
  have hlow' : (if n = 0 then (0xA0 : UInt8) else 0x80).toNat ≤ m + 0x80 := by
    split
    · simpa using hlow ‹_›
    · simp
  have hhigh' : m + 0x80 ≤ (if n = 0xD then (0x9F : UInt8) else 0xBF).toNat := by
    split
    · have := hhigh ‹_›
      simp
      omega
    · simp
      omega
  rw [piecesFrom, lead_three n hn]
  simp only
  rw [piecesFrom_trailing hm hlow' hhigh', if_neg (by simp),
    piecesFrom_trailing hl (by simp) (by simp; omega), if_pos (by simp)]

lemma piecesFrom_four {m l k : Nat} (hn : n < 5) (hm : m < 64) (hl : l < 64) (hk : k < 64)
    (hlow : n = 0 → 0x10 ≤ m) (hhigh : n = 4 → m < 0x10) :
    piecesFrom none (UInt8.ofNat (n + 0xF0) :: UInt8.ofNat (m + 0x80) :: UInt8.ofNat (l + 0x80) ::
        UInt8.ofNat (k + 0x80) :: rest) =
      .char (Char.ofNat (((n * 64 + m) * 64 + l) * 64 + k)) :: piecesFrom none rest := by
  have hlow' : (if n = 0 then (0x90 : UInt8) else 0x80).toNat ≤ m + 0x80 := by
    split
    · simpa using hlow ‹_›
    · simp
  have hhigh' : m + 0x80 ≤ (if n = 4 then (0x8F : UInt8) else 0xBF).toNat := by
    split
    · have := hhigh ‹_›
      simp
      omega
    · simp
      omega
  rw [piecesFrom, lead_four n hn]
  simp only
  rw [piecesFrom_trailing hm hlow' hhigh', if_neg (by simp),
    piecesFrom_trailing hl (by simp) (by simp; omega), if_neg (by simp),
    piecesFrom_trailing hk (by simp) (by simp; omega), if_pos (by simp)]

/-- The bytes of a character are read back as the character. -/
lemma piecesFrom_utf8EncodeChar (c : Char) (rest : Bytes) :
    piecesFrom none (String.utf8EncodeChar c ++ rest) = .char c :: piecesFrom none rest := by
  cases grouped c with
  | one hn =>
    rw [utf8EncodeChar_one hn, List.singleton_append, piecesFrom, lead_one _ hn]
  | two hlow hn hm =>
    rw [utf8EncodeChar_two hlow hn hm]
    exact piecesFrom_two hlow hn hm
  | three hn hm hl hlow hhigh =>
    rw [utf8EncodeChar_three hn hm hl hlow hhigh]
    exact piecesFrom_three hn hm hl hlow hhigh
  | four hn hm hl hk hlow hhigh =>
    rw [utf8EncodeChar_four hn hm hl hk hlow hhigh]
    exact piecesFrom_four hn hm hl hk hlow hhigh

/-! ## Texts -/

lemma pieces_encodeChars (s : List Char) : pieces (encodeChars s) = s.map .char := by
  have hfrom : piecesFrom none (encodeChars s) = s.map .char := by
    induction s with
    | nil => rfl
    | cons c s ih =>
      rw [encodeChars, List.flatMap_cons, piecesFrom_utf8EncodeChar, List.map_cons]
      exact congrArg _ ih
  exact hfrom

/-- The bytes of a text are read back as the text. -/
theorem decodeChars?_encodeChars (s : List Char) : decodeChars? (encodeChars s) = some s := by
  rw [decodeChars?, pieces_encodeChars]
  induction s with
  | nil => rfl
  | cons c s ih => rw [List.map_cons, List.mapM_cons, ih]; rfl

/-! ## What is begun -/

/-- The bytes read so far begin the bytes of a character, whichever of the bytes that are let
through come next. -/
inductive Pending.Begun : Pending → Prop
  /-- One byte is missing. -/
  | last {seen : Bytes} {lo hi : UInt8} {value : Nat}
      (h : ∀ b, lo ≤ b → b ≤ hi →
        String.utf8EncodeChar (Char.ofNat (value * 64 + (b.toNat - 0x80))) = (b :: seen).reverse) :
      Begun ⟨seen, 1, lo, hi, value⟩
  /-- More bytes are missing. -/
  | more {seen : Bytes} {need : Nat} {lo hi : UInt8} {value : Nat}
      (h : ∀ b, lo ≤ b → b ≤ hi →
        Begun ⟨b :: seen, need + 1, 0x80, 0xBF, value * 64 + (b.toNat - 0x80)⟩) :
      Begun ⟨seen, need + 2, lo, hi, value⟩

/-- A byte behind the first, by the six bits it adds. -/
lemma exists_trailing {b lo hi : UInt8} (hlo : lo ≤ b) (hhi : b ≤ hi) (h₁ : 0x80 ≤ lo.toNat)
    (h₂ : hi.toNat ≤ 0xBF) :
    ∃ m < 64, b = UInt8.ofNat (m + 0x80) ∧ b.toNat - 0x80 = m ∧ lo.toNat ≤ m + 0x80 ∧
      m + 0x80 ≤ hi.toNat := by
  rw [UInt8.le_iff_toNat_le] at hlo hhi
  refine ⟨b.toNat - 0x80, by omega, ?_, rfl, by omega, by omega⟩
  rw [Nat.sub_add_cancel (by omega), UInt8.ofNat_toNat]

lemma begun_two (hlow : 2 ≤ n) (hn : n < 0x20) :
    Pending.Begun ⟨[UInt8.ofNat (n + 0xC0)], 1, 0x80, 0xBF, n⟩ := by
  refine .last fun b hlo hhi => ?_
  obtain ⟨m, hm, rfl, heq, -⟩ := exists_trailing hlo hhi (by decide) (by decide)
  rw [heq, utf8EncodeChar_two hlow hn hm]
  rfl

lemma begun_three (hn : n < 0x10) :
    Pending.Begun ⟨[UInt8.ofNat (n + 0xE0)], 2, if n = 0 then 0xA0 else 0x80,
      if n = 0xD then 0x9F else 0xBF, n⟩ := by
  refine .more fun b hlo hhi => .last fun b' hlo' hhi' => ?_
  obtain ⟨m, hm, rfl, heq, hlow, hhigh⟩ :=
    exists_trailing hlo hhi (by split <;> decide) (by split <;> decide)
  obtain ⟨l, hl, rfl, heq', -⟩ := exists_trailing hlo' hhi' (by decide) (by decide)
  have hlow' : n = 0 → 0x20 ≤ m := by
    rintro rfl
    simp at hlow
    omega
  have hhigh' : n = 0xD → m < 0x20 := by
    rintro rfl
    simp at hhigh
    omega
  rw [heq, heq', utf8EncodeChar_three hn hm hl hlow' hhigh']
  rfl

lemma begun_four (hn : n < 5) :
    Pending.Begun ⟨[UInt8.ofNat (n + 0xF0)], 3, if n = 0 then 0x90 else 0x80,
      if n = 4 then 0x8F else 0xBF, n⟩ := by
  refine .more fun b hlo hhi => .more fun b' hlo' hhi' => .last fun b'' hlo'' hhi'' => ?_
  obtain ⟨m, hm, rfl, heq, hlow, hhigh⟩ :=
    exists_trailing hlo hhi (by split <;> decide) (by split <;> decide)
  obtain ⟨l, hl, rfl, heq', -⟩ := exists_trailing hlo' hhi' (by decide) (by decide)
  obtain ⟨k, hk, rfl, heq'', -⟩ := exists_trailing hlo'' hhi'' (by decide) (by decide)
  have hlow' : n = 0 → 0x10 ≤ m := by
    rintro rfl
    simp at hlow
    omega
  have hhigh' : n = 4 → m < 0x10 := by
    rintro rfl
    simp at hhigh
    omega
  rw [heq, heq', heq'', utf8EncodeChar_four hn hm hl hk hlow' hhigh']
  rfl

lemma lead_low : ∀ n < 0x42, lead (UInt8.ofNat (n + 0x80)) = .bad := by decide

lemma lead_high : ∀ n < 0xB, lead (UInt8.ofNat (n + 0xF5)) = .bad := by decide

/-- What is begun by a first byte. -/
inductive Lead.Begun (b : UInt8) : Lead → Prop
  /-- A character by itself. -/
  | ascii {c : Char} (h : String.utf8EncodeChar c = [b]) : Begun b (.ascii c)
  /-- A longer sequence. -/
  | opens {p : Pending} (hseen : p.seen = [b]) (h : p.Begun) : Begun b (.opens p)
  /-- Nothing. -/
  | bad : Begun b .bad

/-- A first byte begins the bytes of a character, or nothing. -/
lemma lead_begun (b : UInt8) : (lead b).Begun b := by
  have hb : b.toNat < 0x100 := b.toNat_lt
  obtain ⟨n, hn, rfl⟩ : ∃ n < 0x100, b = UInt8.ofNat n := ⟨b.toNat, hb, (UInt8.ofNat_toNat).symm⟩
  by_cases h₁ : n < 0x80
  · rw [lead_one n h₁]
    exact .ascii (utf8EncodeChar_one h₁)
  by_cases hlow : n < 0xC2
  · obtain ⟨m, rfl⟩ : ∃ m, n = m + 0x80 := ⟨n - 0x80, by omega⟩
    rw [lead_low m (by omega)]
    exact .bad
  by_cases hhigh : 0xF5 ≤ n
  · obtain ⟨m, rfl⟩ : ∃ m, n = m + 0xF5 := ⟨n - 0xF5, by omega⟩
    rw [lead_high m (by omega)]
    exact .bad
  by_cases h₂ : n < 0xE0
  · obtain ⟨m, rfl⟩ : ∃ m, n = m + 0xC0 := ⟨n - 0xC0, by omega⟩
    rw [lead_two m (by omega) (by omega)]
    exact .opens rfl (begun_two (by omega) (by omega))
  by_cases h₃ : n < 0xF0
  · obtain ⟨m, rfl⟩ : ∃ m, n = m + 0xE0 := ⟨n - 0xE0, by omega⟩
    rw [lead_three m (by omega)]
    exact .opens rfl (begun_three (by omega))
  · obtain ⟨m, rfl⟩ : ∃ m, n = m + 0xF0 := ⟨n - 0xF0, by omega⟩
    rw [lead_four m (by omega)]
    exact .opens rfl (begun_four (by omega))

/-! ## No byte is lost -/

/-- The bytes of a piece. -/
def Piece.bytes : Piece → Bytes
  | .char c => String.utf8EncodeChar c
  | .broken bytes => bytes

/-- What a machine has read and not given out yet. -/
def held : Option Pending → Bytes
  | none => []
  | some p => p.seen.reverse

/-- No byte is lost: the pieces make the bytes again. -/
lemma flatMap_piecesFrom (bytes : Bytes) :
    ∀ state : Option Pending, (∀ p ∈ state, p.Begun) →
      (piecesFrom state bytes).flatMap Piece.bytes = held state ++ bytes := by
  induction bytes with
  | nil =>
    intro state h
    cases state <;> simp [piecesFrom, held, Piece.bytes]
  | cons b rest ih =>
    have hnone := ih none (by simp)
    have hsome {p : Pending} (hp : p.Begun) := ih (some p) (by simpa using hp)
    have hlead : (piecesFrom none (b :: rest)).flatMap Piece.bytes = b :: rest := by
      have hbegun := lead_begun b
      rw [piecesFrom]
      generalize lead b = first at hbegun ⊢
      cases hbegun with
      | ascii h => simp [hnone, h, Piece.bytes, held]
      | opens hseen h => simp [hsome h, held, hseen]
      | bad => simp [hnone, Piece.bytes, held]
    intro state h
    cases state with
    | none => simpa [held] using hlead
    | some p =>
      rw [piecesFrom]
      split
      · rename_i hin
        cases h p rfl with
        | last hlast => simp [hnone, hlast b hin.1 hin.2, Piece.bytes, held]
        | more hmore => simp [hsome (hmore b hin.1 hin.2), held]
      · -- the piece ends before this byte, which is read as a first byte
        rw [List.flatMap_cons]
        exact congrArg _ hlead

/-- The pieces make the bytes again. -/
theorem flatMap_pieces (bytes : Bytes) : (pieces bytes).flatMap Piece.bytes = bytes :=
  flatMap_piecesFrom bytes none (by simp)

lemma mapM_char?_eq_some {ps : List Piece} {s : List Char} (h : ps.mapM Piece.char? = some s) :
    ps = s.map .char := by
  induction ps generalizing s with
  | nil =>
    obtain rfl : [] = s := by simpa using h
    rfl
  | cons p ps ih =>
    cases p with
    | broken => simp [Piece.char?] at h
    | char c =>
      obtain ⟨s', hs', rfl⟩ : ∃ s', ps.mapM Piece.char? = some s' ∧ c :: s' = s := by
        simpa [Piece.char?, Option.bind_eq_some_iff] using h
      rw [ih hs', List.map_cons]

/-- The byte sequences that are the text `s`: only its own bytes. -/
theorem decodeChars?_eq_some_iff {bytes : Bytes} {s : List Char} :
    decodeChars? bytes = some s ↔ bytes = encodeChars s := by
  constructor
  · intro h
    rw [← flatMap_pieces bytes, mapM_char?_eq_some h, List.flatMap_map]
    rfl
  · rintro rfl
    exact decodeChars?_encodeChars s

/-! ## ASCII behind anything -/

lemma lo_of_lead {b : UInt8} (h : lead b = .opens p) : 0x80 ≤ p.lo := by
  unfold lead at h
  split_ifs at h <;> cases h <;> dsimp only <;> decide

/-- A byte that is not let through ends what has been begun, and is read as a first byte. -/
lemma piecesFrom_of_out {b : UInt8} (h : ¬ (p.lo ≤ b ∧ b ≤ p.hi)) (rest : Bytes) :
    piecesFrom (some p) (b :: rest) =
      .broken p.seen.reverse :: piecesFrom none (b :: rest) := by
  conv_lhs => rw [piecesFrom, if_neg h]
  rfl

/-- No ASCII byte goes on with what has been begun. -/
lemma not_let_through (hlo : 0x80 ≤ p.lo) {b : UInt8} (hb : b < 0x80) :
    ¬ (p.lo ≤ b ∧ b ≤ p.hi) := by
  rintro ⟨hle, -⟩
  exact UInt8.lt_irrefl _ (UInt8.lt_of_le_of_lt (UInt8.le_trans hlo hle) hb)

/-- ASCII bytes are pieces by themselves. -/
lemma piecesFrom_ascii {ys : Bytes} (h : ∀ b ∈ ys, b < 0x80) :
    piecesFrom none ys = ys.map fun b => .char (Char.ofNat b.toNat) := by
  induction ys with
  | nil => rfl
  | cons b ys ih =>
    have hb : b < 0x80 := h b (by simp)
    rw [piecesFrom, lead, if_pos hb, List.map_cons, ih fun b' hb' => h b' (by simp [hb'])]

/-- So they are behind anything, a character that is begun included. -/
lemma piecesFrom_append_ascii {ys : Bytes} (h : ∀ b ∈ ys, b < 0x80) (xs : Bytes)
    (state : Option Pending) (hstate : ∀ p ∈ state, 0x80 ≤ p.lo) :
    piecesFrom state (xs ++ ys) =
      piecesFrom state xs ++ ys.map fun b => .char (Char.ofNat b.toNat) := by
  induction xs generalizing state with
  | nil =>
    cases state with
    | none => exact piecesFrom_ascii h
    | some p =>
      cases ys with
      | nil => simp
      | cons b ys =>
        have hout := @not_let_through p (hstate p rfl) b (h b (by simp))
        rw [List.nil_append, piecesFrom_of_out hout, piecesFrom_ascii h]
        rfl
  | cons b xs ih =>
    have hnone := ih none (by simp)
    have hsome {p : Pending} (hp : 0x80 ≤ p.lo) := ih (some p) (by simpa using hp)
    have hfirst : piecesFrom none (b :: xs ++ ys) = piecesFrom none (b :: xs) ++
        ys.map fun b => .char (Char.ofNat b.toNat) := by
      rw [List.cons_append, piecesFrom, piecesFrom]
      cases hlead : lead b with
      | ascii c => simp [hnone]
      | opens p => simp [hsome (lo_of_lead hlead)]
      | bad => simp [hnone]
    cases state with
    | none => exact hfirst
    | some p =>
      rw [List.cons_append, piecesFrom, piecesFrom]
      split
      · split
        · simp [hnone]
        · exact hsome (UInt8.le_refl _)
      · rw [List.cons_append]
        exact congrArg _ hfirst

theorem pieces_append_ascii {ys : Bytes} (h : ∀ b ∈ ys, b < 0x80) (xs : Bytes) :
    pieces (xs ++ ys) = pieces xs ++ ys.map fun b => .char (Char.ofNat b.toNat) :=
  piecesFrom_append_ascii h xs none (by simp)

end Sidecars.Text.Utf8
