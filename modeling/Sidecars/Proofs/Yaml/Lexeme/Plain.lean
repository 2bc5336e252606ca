import Sidecars.Proofs.Yaml.Style

/-!
# Reading a plain scalar back

A plain text is read to its end, and no further than the gap behind it.  In a key the colon ends
it; in a value the end of the line does, and the reader goes on over the margin of the next line
until it sees that the next token is no continuation.

* `plain_before_colon` is the key, `plain_before_line` the value.
-/

namespace Sidecars.Yaml.Lexeme

variable {least : Nat} {since m : Mark} {fresh : Bool} {s tail : List Char}

/-! ## Along a line -/

lemma plainFrom_cons {c : Char} (hc : c ≠ '\r') (f : Folding) (rest : List Char) :
    plainFrom false least since fresh f m (c :: rest) =
      if isBreak c then plainFrom false least since true (f.newLine c) (m.newLine 1) rest
      else if isBlank c then
        if f.onNewLine ∧ m.column < least ∧ c = '\t' then
          .error (.during .plainScalar since .tabBelowIndentation m)
        else plainFrom false least since true (f.blank c) m.next rest
      else if fresh && ((m.column < least && f.text ≠ [])
          || (m.column = 0 && isDocumentIndicator (c :: rest)) || c = '#') then
        .ok (f, ⟨c :: rest, m⟩)
      else if c = ':' && atWhite rest then .ok (f, ⟨c :: rest, m⟩)
      else plainFrom false least since false (f.push c) m.next rest := by
  rw [plainFrom]
  · simp
  · rintro rest' rfl
    exact absurd rfl hc

/-- A blank waits for the character behind it. -/
lemma plainFrom_space {f : Folding} (hline : f.onNewLine = false) (rest : List Char) :
    plainFrom false least since fresh f m (' ' :: rest) =
      plainFrom false least since true (f.blank ' ') m.next rest := by
  rw [plainFrom_cons (by decide), if_neg (by decide), if_pos (by decide), if_neg (by simp [hline])]

/-- A character belongs to the text unless it starts a comment or an indicator, stands in the
margin, or is the colon behind a key. -/
lemma plainFrom_push {c : Char} (hc : isPrintable c = true) (hbreak : isBreak c = false)
    (hblank : isBlank c = false) {f : Folding} {rest : List Char}
    (hfresh : fresh = true → c ≠ '#' ∧ (m.column < least → f.text = []) ∧
      (m.column = 0 → isDocumentIndicator (c :: rest) = false))
    (hvalue : c = ':' → atWhite rest = false) :
    plainFrom false least since fresh f m (c :: rest) =
      plainFrom false least since false (f.push c) m.next rest := by
  have hstop : (fresh && ((m.column < least && f.text ≠ [])
      || (m.column = 0 && isDocumentIndicator (c :: rest)) || c = '#')) = false := by
    cases fresh with
    | false => rfl
    | true =>
      obtain ⟨hne, hmargin, hdocument⟩ := hfresh rfl
      simpa [hne] using And.intro hmargin hdocument
  have hcolon : (c = ':' && atWhite rest) = false := by simpa using hvalue
  rw [plainFrom_cons (ne_return_of_isPrintable hc), hbreak, if_neg (by simp),
    if_neg (by simp [hblank]), hstop, if_neg (by simp), hcolon, if_neg (by simp)]

/-- A colon of the text has no white space behind it. -/
lemma atWhite_of_whiteFollows (h : Traits.whiteFollows s = false) (tail : List Char) :
    atWhite (s ++ tail) = false := by
  cases s with
  | nil => simp [Traits.whiteFollows] at h
  | cons d s =>
    simp only [Traits.whiteFollows, Bool.or_eq_false_iff] at h
    simp [atWhite, h.1]

/-- A text without an indicator is pushed as it is.  The white space in it is kept back until the
next character shows that it belongs to the text, so a text that ends with none leaves none. -/
lemma plainFrom_text (hprint : ∀ c ∈ s, isPrintable c = true)
    (hbreak : ∀ c ∈ s, isBreak c = false) {before : Char}
    (hinterrupts : Traits.interrupts before s = false)
    (hfresh : fresh = true → isWhite before = true) (hlast : s.getLast? ≠ some ' ')
    {text blanks : List Char} (hend : s = [] → fresh = false ∧ blanks = [])
    (hcolumn : least ≤ m.column ∨ (text = [] ∧ least ≤ m.column + 1))
    (hdocument : m.column = 0 → isDocumentIndicator (s ++ tail) = false) :
    plainFrom false least since fresh ⟨text, blanks, none, [], false⟩ m (s ++ tail) =
      plainFrom false least since false ⟨s.reverse ++ (blanks ++ text), [], none, [], false⟩
        (m.advance s.length) tail := by
  induction s generalizing before fresh text blanks m with
  | nil =>
    obtain ⟨rfl, rfl⟩ := hend rfl
    rfl
  | cons c s ih =>
    have hc := hprint c (by simp)
    have hprint' : ∀ d ∈ s, isPrintable d = true := fun d hd => hprint d (by simp [hd])
    have hbreak' : ∀ d ∈ s, isBreak d = false := fun d hd => hbreak d (by simp [hd])
    have hlast' : s.getLast? ≠ some ' ' := by
      intro h
      exact hlast (by simp [List.getLast?_cons, h])
    have hnext : m.advance (s.length + 1) = m.next.advance s.length := by
      simp [Mark.advance, Mark.next, Nat.add_assoc, Nat.add_comm 1]
    have hcolumn' : m.next.column = 0 → isDocumentIndicator (s ++ tail) = false := by
      simp [Mark.next]
    simp only [Traits.interrupts, Bool.or_eq_false_iff, Bool.and_eq_false_iff,
      decide_eq_false_iff_not] at hinterrupts
    obtain ⟨⟨hcolon, hhash⟩, hinterrupts⟩ := hinterrupts
    rw [List.cons_append, List.length_cons, hnext]
    by_cases hblank : isBlank c = true
    · obtain rfl := (isBlank_iff_of_isPrintable hc).mp hblank
      -- the text does not end with this blank, so the next character may be fresh
      have hs : s ≠ [] := by
        rintro rfl
        exact hlast rfl
      rw [plainFrom_space rfl, Folding.blank, if_neg (by simp),
        ih hprint' hbreak' hinterrupts (fun _ => by decide) hlast' (fun h => absurd h hs)
          (by simp only [Mark.next]; omega) hcolumn']
      simp
    · have hfresh' : fresh = true → c ≠ '#' ∧ (m.column < least → text = []) ∧
          (m.column = 0 → isDocumentIndicator (c :: (s ++ tail)) = false) := by
        intro h
        have := hfresh h
        exact ⟨by simp_all, fun hless => (hcolumn.resolve_left (by omega)).1, hdocument⟩
      have hvalue : c = ':' → atWhite (s ++ tail) = false := fun h =>
        atWhite_of_whiteFollows (hcolon.resolve_left (absurd h)) tail
      rw [plainFrom_push hc (hbreak c (by simp)) (by simpa using hblank) hfresh' hvalue,
        Folding.push, Folding.joined, if_neg (by simp),
        ih hprint' hbreak' hinterrupts (by simp) hlast' (by simp)
          (.inl (by simp only [Mark.next]; omega)) hcolumn']
      simp

/-! ## To the end -/

/-- A colon in front of white space ends the text. -/
lemma plainFrom_colon (h : atWhite tail = true) (f : Folding) :
    plainFrom false least since false f m (':' :: tail) = .ok (f, ⟨':' :: tail, m⟩) := by
  rw [plainFrom_cons (by decide), if_neg (by decide), if_neg (by decide)]
  simp [h]

/-- After the end of its line, the text goes on until it is seen that the next token is no part
of it. -/
lemma plainFrom_margin {rest : List Char} (hrest : opensToken rest = true) {n : Nat}
    (f : Folding) (htext : f.text ≠ []) (hline : f.onNewLine = true) (hn : m.column + n < least) :
    plainFrom false least since true f m (spaces n ++ rest) =
      .ok (f, ⟨rest, m.after (spaces n)⟩) := by
  induction n generalizing m with
  | zero =>
    cases rest with
    | nil => simp [spaces, plainFrom]
    | cons c rest =>
      obtain ⟨hspace, htab, hbreak, -⟩ := Scan.opensToken_cons hrest
      have hc : c ≠ '\r' := by
        rintro rfl
        exact absurd hbreak (by decide)
      have hblank : isBlank c = false := by simp [isBlank, hspace, htab]
      have hless : m.column < least := by omega
      rw [show spaces 0 ++ c :: rest = c :: rest from rfl, plainFrom_cons hc]
      simp [hbreak, hblank, hless, htext, spaces]
  | succ n ih =>
    rw [spaces_succ, List.cons_append, plainFrom_cons (by decide), if_neg (by decide),
      if_pos (by decide), if_neg (by simp), Folding.blank, if_pos hline,
      ih (by simp only [Mark.next]; omega), Mark.after_cons_of_not_break _ (by decide)]

/-- The end of the line ends the text if the next token stands further to the left. -/
lemma plainFrom_line {rest : List Char} (hrest : opensToken rest = true) {n : Nat}
    (f : Folding) (htext : f.text ≠ []) (hn : n < least) :
    plainFrom false least since false f m ('\n' :: (spaces n ++ rest)) =
      .ok (f.newLine '\n', ⟨rest, m.after ('\n' :: spaces n)⟩) := by
  rw [plainFrom_cons (by decide), if_pos isBreak_lineFeed,
    Mark.after_cons_break _ isBreak_lineFeed]
  refine plainFrom_margin hrest _ ?_ ?_ (by simpa [Mark.newLine] using hn)
  · simp only [Folding.newLine]
    split <;> exact htext
  · simp only [Folding.newLine]
    split
    · assumption
    · rfl

/-! ## Keys and values -/

lemma take_of_isDocumentIndicator (h : isDocumentIndicator s = true) :
    s.take 3 = ['-', '-', '-'] ∨ s.take 3 = ['.', '.', '.'] := by
  unfold isDocumentIndicator at h
  split at h
  · simp
  · simp
  · exact absurd h (by simp)

/-- A plain text is no document indicator, and what ends it makes it none. -/
lemma isDocumentIndicator_plain (h : PlainText s) (htail : ∀ c ∈ tail.head?, c ≠ '-' ∧ c ≠ '.') :
    isDocumentIndicator (s ++ tail) = false := by
  rw [Bool.eq_false_iff]
  intro hindicator
  have htake := take_of_isDocumentIndicator hindicator
  by_cases hlong : 3 ≤ s.length
  · rw [List.take_append_of_le_length hlong] at htake
    exact htake.elim h.undivided.1 h.undivided.2
  · -- the character behind the text would be a part of the indicator
    have hhead : ((s ++ tail).take 3)[s.length]? = tail.head? := by
      rw [List.getElem?_take, if_pos (by omega), List.getElem?_append_right (by omega), Nat.sub_self,
        List.head?_eq_getElem?]
    have hlength : s.length = 0 ∨ s.length = 1 ∨ s.length = 2 := by omega
    rcases htake with htake | htake <;> rw [htake] at hhead <;>
      rcases hlength with hlength | hlength | hlength <;> rw [hlength] at hhead <;>
      exact absurd hhead.symm (fun hc => by simpa using htail _ hc)

variable {n : Nat} {rest : List Char}

lemma plainFrom_plain (h : PlainText s) (hcolumn : least ≤ m.column + 1)
    (htail : ∀ c ∈ tail.head?, c ≠ '-' ∧ c ≠ '.') :
    plainFrom false least since true .empty m (s ++ tail) =
      plainFrom false least since false ⟨s.reverse, [], none, [], false⟩ (m.advance s.length)
        tail := by
  have htext : plainFrom false least since true .empty m (s ++ tail) =
      plainFrom false least since false ⟨s.reverse ++ ([] ++ []), [], none, [], false⟩
        (m.advance s.length) tail :=
    plainFrom_text h.printable h.unbroken h.uninterrupted (fun _ => by decide) h.last
      (fun hs => absurd hs h.ne_nil) (.inr ⟨rfl, hcolumn⟩)
      (fun _ => isDocumentIndicator_plain h htail)
  simpa using htext

/-- A plain key ends at its colon. -/
theorem plain_before_colon (h : PlainText s) (hcolumn : least ≤ m.column + 1)
    (htail : atWhite tail = true) :
    plain false least ⟨s ++ ':' :: tail, m⟩ =
      .ok (.scalar s .plain, false, ⟨':' :: tail, m.after s⟩) := by
  have hread : plainFrom false least m true .empty m (s ++ ':' :: tail) = _ :=
    plainFrom_plain h hcolumn (by simp)
  rw [plainFrom_colon htail] at hread
  simp only [plain, hread, Mark.after_of_no_break m h.unbroken]
  simp

/-- A plain value ends with its line, in front of a token that stands further to the left. -/
theorem plain_before_line (h : PlainText s) (hcolumn : least ≤ m.column + 1) (hn : n < least)
    (hrest : opensToken rest = true) :
    plain false least ⟨s ++ '\n' :: (spaces n ++ rest), m⟩ =
      .ok (.scalar s .plain, true, ⟨rest, m.after (s ++ '\n' :: spaces n)⟩) := by
  have hread : plainFrom false least m true .empty m (s ++ '\n' :: (spaces n ++ rest)) = _ :=
    plainFrom_plain h hcolumn (by simp)
  rw [plainFrom_line hrest _ (by simpa using h.ne_nil) hn] at hread
  simp only [plain, hread, Mark.after_append, Mark.after_of_no_break m h.unbroken]
  simp [Folding.newLine]

end Sidecars.Yaml.Lexeme
