import Sidecars.Proofs.Except
import Sidecars.Proofs.Yaml.Cursor
import Mathlib.Logic.Relation
import Mathlib.Tactic.SplitIfs

/-!
# Taking tokens and fetching them

Tokens are taken from the queue while others are still to be fetched, as soon as no key can begin
at them any more.  The result does not depend on when they are taken: it is what the queue holds
when all tokens have been fetched first and none has been taken.

* `Scan.ahead gone s` is the state `s` with the tokens that were taken put back;
* `Oblivious f` says that `f` does the same with and without the tokens that were taken;
* `fetch_oblivious` says so of fetching a token;
* `run_of_fetches` is the result of a run from the fetches alone.
-/

namespace Sidecars.Yaml.Scan

variable {s s' : Scan} {gone : List Token}

/-! ## Tokens put back -/

/-- The state with tokens put back in front of the queue, as if none had been taken. -/
def ahead (gone : List Token) (s : Scan) : Scan :=
  { s with queue := gone ++ s.queue, taken := 0 }

/-- No key can begin at a token that has been taken. -/
def Waiting (s : Scan) : Prop := ∀ k, some k ∈ s.candidate :: s.outer → s.taken ≤ k.number

/-- A step that does the same whether or not the tokens that were taken are still in the queue. -/
def Oblivious (f : Scan → Except Fault Scan) : Prop :=
  ∀ ⦃s : Scan⦄ ⦃gone : List Token⦄, s.taken = gone.length → s.Waiting →
    f (s.ahead gone) = (f s).map (ahead gone) ∧
      ∀ s', f s = .ok s' → s'.taken = s.taken ∧ s'.Waiting

namespace Oblivious

/-- A step that cannot fail. -/
lemma pure {f : Scan → Scan}
    (h : ∀ ⦃s : Scan⦄ ⦃gone : List Token⦄, s.taken = gone.length → s.Waiting →
      f (s.ahead gone) = (f s).ahead gone ∧ (f s).taken = s.taken ∧ (f s).Waiting) :
    Oblivious fun s => .ok (f s) := by
  intro s gone htaken hwaiting
  obtain ⟨hahead, hrest⟩ := h htaken hwaiting
  refine ⟨by simp [Except.map, hahead], ?_⟩
  rintro _ ⟨⟩
  exact hrest

lemma error {e : Scan → Fault} (h : ∀ s gone, e (ahead gone s) = e s) :
    Oblivious fun s => .error (e s) := by
  intro s gone _ _
  exact ⟨by simp [Except.map, h], fun _ hs => by simp at hs⟩

/-- One step after another. -/
lemma bind {f g : Scan → Except Fault Scan} (hf : Oblivious f) (hg : Oblivious g) :
    Oblivious fun s => f s >>= g := by
  intro s gone htaken hwaiting
  obtain ⟨hahead, hkeep⟩ := hf htaken hwaiting
  cases hs : f s with
  | error e => simp [hahead, hs, Except.map, Bind.bind, Except.bind]
  | ok s₁ =>
    obtain ⟨htaken₁, hwaiting₁⟩ := hkeep s₁ hs
    obtain ⟨hahead₁, hkeep₁⟩ := @hg s₁ gone (htaken₁.trans htaken) hwaiting₁
    refine ⟨?_, fun s' hs' => ?_⟩
    · simpa [hahead, hs, Except.map, Bind.bind, Except.bind] using hahead₁
    · have hg' : g s₁ = .ok s' := by simpa only [hs, Bind.bind, Except.bind] using hs'
      obtain ⟨h₁, h₂⟩ := hkeep₁ s' hg'
      exact ⟨h₁.trans htaken₁, h₂⟩

/-- A choice by what both states have in common. -/
lemma ite {p : Scan → Prop} [DecidablePred p] {f g : Scan → Except Fault Scan}
    (hp : ∀ s gone, p (ahead gone s) ↔ p s) (hf : Oblivious f) (hg : Oblivious g) :
    Oblivious fun s => if p s then f s else g s := by
  intro s gone htaken hwaiting
  simp only [hp s gone]
  by_cases h : p s
  · simpa only [if_pos h] using hf htaken hwaiting
  · simpa only [if_neg h] using hg htaken hwaiting

end Oblivious

/-! ## The parts of a fetch -/

/-- A change that leaves alone how many tokens were taken, and notes no new candidate. -/
structure Harmless (f : Scan → Scan) : Prop where
  ahead : ∀ s gone, f (ahead gone s) = Scan.ahead gone (f s)
  taken : ∀ s, (f s).taken = s.taken
  candidates : ∀ s k, some k ∈ (f s).candidate :: (f s).outer → some k ∈ s.candidate :: s.outer

lemma Harmless.oblivious {f : Scan → Scan} (h : Harmless f) : Oblivious fun s => .ok (f s) :=
  .pure fun s gone _ hwaiting => ⟨h.ahead s gone, h.taken s, fun k hk => by
    rw [h.taken s]
    exact hwaiting k (h.candidates s k hk)⟩

lemma Harmless.comp {f g : Scan → Scan} (hf : Harmless f) (hg : Harmless g) :
    Harmless fun s => f (g s) where
  ahead s gone := by rw [hg.ahead, hf.ahead]
  taken s := (hf.taken _).trans (hg.taken s)
  candidates s k hk := hg.candidates s k (hf.candidates _ k hk)

lemma harmless_id : Harmless fun s => s := ⟨fun _ _ => rfl, fun _ => rfl, fun _ _ hk => hk⟩

lemma ahead_emit (s : Scan) (gone : List Token) (kind : TokenKind) (mark : Mark) :
    (s.ahead gone).emit kind mark = (s.emit kind mark).ahead gone := by
  simp [ahead, emit]

lemma harmless_emit (kind : TokenKind) : Harmless fun s => s.emit kind s.mark :=
  ⟨fun s gone => ahead_emit s gone kind s.mark, fun _ => rfl, fun _ _ hk => hk⟩

lemma harmless_move (f : Cursor → Cursor) (keyAllowed : Scan → Bool)
    (h : ∀ s gone, keyAllowed (ahead gone s) = keyAllowed s) :
    Harmless fun s => { s with cursor := f s.cursor, keyAllowed := keyAllowed s } :=
  ⟨fun s gone => by simp only [h]; rfl, fun _ => rfl, fun _ _ hk => hk⟩

lemma harmless_closeBlocks (column : Scan → Option Nat)
    (h : ∀ s gone, column (ahead gone s) = column s) :
    Harmless fun s => s.closeBlocks (column s) := by
  refine ⟨fun s gone => ?_, fun s => ?_, fun s k hk => ?_⟩
  · rw [h]
    unfold closeBlocks
    simp only [show (s.ahead gone).inFlow = s.inFlow from rfl]
    split
    · rfl
    · simp [ahead, mark]
  · unfold closeBlocks
    split <;> rfl
  · unfold closeBlocks at hk
    split at hk <;> exact hk

lemma harmless_openBlock (kind : TokenKind) :
    Harmless fun s => s.openBlock s.mark.column kind s.mark := by
  refine ⟨fun s gone => ?_, fun s => ?_, fun s k hk => ?_⟩
  · unfold openBlock
    simp only [show (s.ahead gone).inFlow = s.inFlow from rfl,
      show ∀ n, (s.ahead gone).isDeeper n = s.isDeeper n from fun _ => rfl,
      show (s.ahead gone).mark = s.mark from rfl, ahead_emit]
    split <;> rfl
  · unfold openBlock
    split <;> rfl
  · unfold openBlock at hk
    split at hk <;> exact hk

lemma dropCandidate_eq (s : Scan) :
    s.dropCandidate =
      match s.candidate with
      | some k =>
        if k.required then .error (missingColon k s.mark) else .ok { s with candidate := none }
      | none => .ok { s with candidate := none } := by
  obtain ⟨_, _, _, _, _ | _, _, _⟩ := s <;> rfl

lemma harmless_dropped : Harmless fun s => { s with candidate := none } :=
  ⟨fun _ _ => rfl, fun _ => rfl, fun s k hk => by simpa using .inr (by simpa using hk)⟩

lemma oblivious_dropCandidate : Oblivious dropCandidate := by
  have hcases : dropCandidate = fun s =>
      if s.candidate.any (·.required) then
        .error (missingColon (s.candidate.getD ⟨false, 0, .start⟩) s.mark)
      else .ok { s with candidate := none } := by
    funext s
    rw [dropCandidate_eq]
    cases hc : s.candidate with
    | none => rfl
    | some k => simp
  rw [hcases]
  exact .ite (fun _ _ => Iff.rfl) (.error fun _ _ => rfl) harmless_dropped.oblivious

/-- The candidate for a key at the next token. -/
def nextCandidate (s : Scan) : KeyCandidate :=
  ⟨!s.inFlow && s.columns.head? = some s.mark.column, s.taken + s.queue.length, s.mark⟩

lemma noteCandidate_eq (s : Scan) :
    s.noteCandidate =
      if s.keyAllowed then
        s.dropCandidate >>= fun s => .ok { s with candidate := some s.nextCandidate }
      else .ok s := by
  unfold noteCandidate
  split
  · rw [dropCandidate_eq]
    split
    · split <;> rfl
    · rfl
  · rfl

/-- The number of the next token is the same with and without the tokens that were taken. -/
lemma oblivious_noteCandidate : Oblivious noteCandidate := by
  rw [funext noteCandidate_eq]
  refine .ite (fun _ _ => Iff.rfl) (.bind oblivious_dropCandidate (.pure ?_)) harmless_id.oblivious
  intro s gone htaken hwaiting
  refine ⟨?_, rfl, fun k hk => ?_⟩
  · have hnumber : 0 + (gone ++ s.queue).length = s.taken + s.queue.length := by
      rw [List.length_append, htaken, Nat.zero_add]
    simp only [ahead, nextCandidate, hnumber]
    rfl
  · rcases List.mem_cons.mp hk with hk | hk
    · obtain rfl := Option.some.inj hk
      exact Nat.le_add_right _ _
    · exact hwaiting k (List.mem_cons_of_mem _ hk)

/-- A step that reads on in the text and then cannot fail. -/
lemma Oblivious.read {α : Type} {read : Scan → Except Fault α} {f : α → Scan → Scan}
    (hread : ∀ s gone, read (ahead gone s) = read s) (h : ∀ a, Harmless (f a)) :
    Oblivious fun s => read s >>= fun a => .ok (f a s) := by
  intro s gone htaken hwaiting
  simp only [hread]
  cases hr : read s with
  | error e => exact ⟨rfl, fun s' hs' => by simp [Bind.bind, Except.bind] at hs'⟩
  | ok a => exact (h a).oblivious htaken hwaiting

/-! ## One token -/

lemma harmless_indicator (kind : TokenKind) (keyAllowed : Scan → Bool)
    (h : ∀ s gone, keyAllowed (ahead gone s) = keyAllowed s) :
    Harmless fun s => { s.indicator kind with keyAllowed := keyAllowed s } :=
  ⟨fun s gone => by
      simp only [h, indicator, show (s.ahead gone).mark = s.mark from rfl, ahead_emit]
      rfl,
    fun _ => rfl, fun _ _ hk => hk⟩

lemma oblivious_leaveDocument : Oblivious leaveDocument := by
  show Oblivious fun s => ((.ok (s.closeBlocks none) : Except Fault Scan) >>= dropCandidate) >>=
    fun s => .ok { s with keyAllowed := false }
  exact .bind (.bind (harmless_closeBlocks (fun _ => none) fun _ _ => rfl).oblivious
    oblivious_dropCandidate) (harmless_move id (fun _ => false) fun _ _ => rfl).oblivious

lemma oblivious_finish : Oblivious finish := by
  show Oblivious fun s =>
    (((.ok { s with cursor := ⟨s.cursor.rest, if s.cursor.mark.column = 0 then s.cursor.mark
        else ⟨s.cursor.mark.index, s.cursor.mark.line + 1, 0⟩⟩ } : Except Fault Scan) >>=
      fun s => (.ok (s.closeBlocks none) : Except Fault Scan)) >>= dropCandidate) >>=
    fun s => .ok { s.emit .streamEnd s.mark with keyAllowed := false }
  refine .bind (.bind (.bind ?_ ?_) oblivious_dropCandidate) ?_
  · exact Harmless.oblivious ⟨fun _ _ => rfl, fun _ => rfl, fun _ _ hk => hk⟩
  · exact (harmless_closeBlocks (fun _ => none) fun _ _ => rfl).oblivious
  · exact ((harmless_move id (fun _ => false) fun _ _ => rfl).comp
      (harmless_emit .streamEnd)).oblivious

lemma oblivious_fetchDirective : Oblivious fetchDirective := by
  show Oblivious fun s => s.leaveDocument >>= fun s => Lexeme.directive s.cursor >>=
    fun a => .ok { s.emit a.1 s.mark with cursor := a.2 }
  refine .bind oblivious_leaveDocument (.read (fun _ _ => rfl) fun a => ?_)
  exact (harmless_move (fun _ => a.2) keyAllowed fun _ _ => rfl).comp (harmless_emit a.1)

lemma oblivious_fetchDocumentIndicator (kind : TokenKind) :
    Oblivious fun s => s.fetchDocumentIndicator kind := by
  show Oblivious fun s => s.leaveDocument >>=
    fun s => .ok { s.emit kind s.mark with cursor := s.cursor.skip 3 }
  exact .bind oblivious_leaveDocument ((harmless_move (·.skip 3) keyAllowed fun _ _ => rfl).comp
    (harmless_emit kind)).oblivious

lemma oblivious_fetchFlowStart (kind : TokenKind) : Oblivious fun s => s.fetchFlowStart kind := by
  show Oblivious fun s => s.noteCandidate >>= fun s =>
    .ok { s.indicator kind with
      outer := s.candidate :: s.outer, candidate := none, keyAllowed := true }
  refine .bind oblivious_noteCandidate (Harmless.oblivious ⟨fun s gone => ?_, fun _ => rfl, ?_⟩)
  · simp only [indicator, show (s.ahead gone).mark = s.mark from rfl, ahead_emit]
    rfl
  · exact fun s k hk => by simpa using hk

/-- Behind a closing bracket, the candidate is the one outside of the brackets. -/
def leaveFlow (s : Scan) : Scan :=
  match s.outer with
  | [] => s
  | candidate :: outer => { s with candidate := candidate, outer := outer }

lemma oblivious_fetchFlowEnd (kind : TokenKind) : Oblivious fun s => s.fetchFlowEnd kind := by
  show Oblivious fun s => s.dropCandidate >>= fun s =>
    .ok ((fun s => { s.indicator kind with keyAllowed := false }) s.leaveFlow)
  refine .bind oblivious_dropCandidate (Harmless.oblivious (.comp
    (harmless_indicator kind (fun _ => false) fun _ _ => rfl) ?_))
  refine ⟨fun s gone => ?_, fun s => ?_, fun s k hk => ?_⟩
  · obtain ⟨_, _, _, _, _, _ | _, _⟩ := s <;> rfl
  · obtain ⟨_, _, _, _, _, _ | _, _⟩ := s <;> rfl
  · obtain ⟨_, _, _, _, _, _ | _, _⟩ := s
    · exact hk
    · exact List.mem_cons_of_mem _ hk

lemma oblivious_fetchFlowEntry : Oblivious fetchFlowEntry := by
  show Oblivious fun s => s.dropCandidate >>= fun s =>
    .ok { s.indicator .flowEntry with keyAllowed := true }
  exact .bind oblivious_dropCandidate
    (harmless_indicator .flowEntry (fun _ => true) fun _ _ => rfl).oblivious

lemma oblivious_openAtIndicator (kind : TokenKind) (problem : Problem) :
    Oblivious fun s => s.openAtIndicator kind problem := by
  unfold openAtIndicator
  refine .ite (fun _ _ => Iff.rfl) harmless_id.oblivious (.ite (fun _ _ => Iff.rfl) ?_ ?_)
  · exact (harmless_openBlock kind).oblivious
  · exact .error fun _ _ => rfl

lemma oblivious_fetchBlockEntry : Oblivious fetchBlockEntry := by
  show Oblivious fun s => s.openAtIndicator .blockSequenceStart .entryNotAllowed >>= fun s =>
    s.dropCandidate >>= fun s => .ok { s.indicator .blockEntry with keyAllowed := true }
  exact .bind (oblivious_openAtIndicator _ _) (.bind oblivious_dropCandidate
    (harmless_indicator .blockEntry (fun _ => true) fun _ _ => rfl).oblivious)

lemma oblivious_fetchKey : Oblivious fetchKey := by
  show Oblivious fun s => s.openAtIndicator .blockMappingStart .keyNotAllowed >>= fun s =>
    s.dropCandidate >>= fun s => .ok { s.indicator .key with keyAllowed := !s.inFlow }
  exact .bind (oblivious_openAtIndicator _ _) (.bind oblivious_dropCandidate
    (harmless_indicator .key (fun s => !s.inFlow) fun _ _ => rfl).oblivious)

/-- A key that turns out to begin at a candidate is put in front of it, wherever the queue
starts. -/
lemma oblivious_fetchValue : Oblivious fetchValue := by
  intro s gone htaken hwaiting
  cases hc : s.candidate with
  | none =>
    have hopen : Oblivious fun s => s.openAtIndicator .blockMappingStart .valueNotAllowed >>=
        fun s => .ok { s.indicator .value with keyAllowed := !s.inFlow } :=
      .bind (oblivious_openAtIndicator _ _)
        (harmless_indicator .value (fun s => !s.inFlow) fun _ _ => rfl).oblivious
    have hnone (t : Scan) (ht : t.candidate = none) :
        t.fetchValue = t.openAtIndicator .blockMappingStart .valueNotAllowed >>=
          fun s => .ok { s.indicator .value with keyAllowed := !s.inFlow } := by
      simp only [fetchValue, ht]
      rfl
    rw [hnone s hc, hnone (s.ahead gone) hc]
    exact hopen htaken hwaiting
  | some k =>
    have hk : gone.length ≤ k.number := htaken ▸ hwaiting k (by simp [hc])
    have hinsert (tokens : List Token) :
        (s.ahead gone).insert k.number tokens = (s.insert k.number tokens).ahead gone := by
      have htake : (gone ++ s.queue).take k.number =
          gone ++ s.queue.take (k.number - gone.length) := by
        rw [List.take_append, List.take_of_length_le hk]
      have hdrop : (gone ++ s.queue).drop k.number = s.queue.drop (k.number - gone.length) := by
        rw [List.drop_append, List.drop_of_length_le hk, List.nil_append]
      simp [ahead, insert, htake, hdrop, htaken]
    unfold fetchValue
    simp only [show (s.ahead gone).candidate = s.candidate from rfl, hc]
    refine ⟨?_, ?_⟩
    · rw [hinsert]
      simp only [indicator, show ∀ t : Scan, (t.ahead gone).mark = t.mark from fun _ => rfl,
        ahead_emit]
      rfl
    · rintro _ ⟨⟩
      refine ⟨rfl, fun k' hk' => hwaiting k' (List.mem_cons_of_mem _ ?_)⟩
      exact (List.mem_cons.mp hk').resolve_left (by simp)

lemma oblivious_fetchContent (read : Cursor → Except Fault (TokenKind × Cursor)) :
    Oblivious fun s => s.fetchContent read := by
  show Oblivious fun s => s.noteCandidate >>= fun s => read s.cursor >>= fun a =>
    .ok { s.emit a.1 s.mark with cursor := a.2, keyAllowed := false }
  exact .bind oblivious_noteCandidate (.read (fun _ _ => rfl) fun a =>
    (harmless_move (fun _ => a.2) (fun _ => false) fun _ _ => rfl).comp (harmless_emit a.1))

/-- The column that the further lines of a plain scalar have to reach. -/
def leastColumn (s : Scan) : Nat :=
  match s.columns with
  | [] => 0
  | n :: _ => n + 1

lemma oblivious_fetchPlain : Oblivious fetchPlain := by
  show Oblivious fun s => s.noteCandidate >>= fun s =>
    Lexeme.plain s.inFlow s.leastColumn s.cursor >>= fun a =>
    .ok { s.emit a.1 s.mark with cursor := a.2.2, keyAllowed := a.2.1 }
  exact .bind oblivious_noteCandidate (.read (fun _ _ => rfl) fun a =>
    (harmless_move (fun _ => a.2.2) (fun _ => a.2.1) fun _ _ => rfl).comp (harmless_emit a.1))

lemma oblivious_fetchBlock (folded : Bool) : Oblivious fun s => s.fetchBlock folded := by
  show Oblivious fun s => s.dropCandidate >>= fun s =>
    Lexeme.block folded s.columns.head? s.cursor >>= fun a =>
    .ok { s.emit a.1 s.mark with cursor := a.2, keyAllowed := true }
  exact .bind oblivious_dropCandidate (.read (fun _ _ => rfl) fun a =>
    (harmless_move (fun _ => a.2) (fun _ => true) fun _ _ => rfl).comp (harmless_emit a.1))

/-- Reading a tag depends on whether the text is inside brackets. -/
lemma oblivious_fetchTag : Oblivious fun s => s.fetchContent (Lexeme.tag s.inFlow) := by
  have hcases : (fun s : Scan => s.fetchContent (Lexeme.tag s.inFlow)) = fun s =>
      if s.inFlow then s.fetchContent (Lexeme.tag true) else s.fetchContent (Lexeme.tag false) := by
    funext s
    cases s.inFlow <;> rfl
  rw [hcases]
  exact .ite (fun _ _ => Iff.rfl) (oblivious_fetchContent _) (oblivious_fetchContent _)

lemma oblivious_fetchFrom (x : Char) (rest : List Char) : Oblivious fun s => s.fetchFrom x rest := by
  unfold fetchFrom
  refine .ite (fun _ _ => Iff.rfl) oblivious_fetchDirective ?_
  refine .ite (fun _ _ => Iff.rfl) (oblivious_fetchDocumentIndicator _) ?_
  refine .ite (fun _ _ => Iff.rfl) (oblivious_fetchFlowStart _) ?_
  refine .ite (fun _ _ => Iff.rfl) (oblivious_fetchFlowStart _) ?_
  refine .ite (fun _ _ => Iff.rfl) (oblivious_fetchFlowEnd _) ?_
  refine .ite (fun _ _ => Iff.rfl) (oblivious_fetchFlowEnd _) ?_
  refine .ite (fun _ _ => Iff.rfl) oblivious_fetchFlowEntry ?_
  refine .ite (fun _ _ => Iff.rfl) oblivious_fetchBlockEntry ?_
  refine .ite (fun _ _ => Iff.rfl) oblivious_fetchKey ?_
  refine .ite (fun _ _ => Iff.rfl) oblivious_fetchValue ?_
  refine .ite (fun _ _ => Iff.rfl) (oblivious_fetchContent _) ?_
  refine .ite (fun _ _ => Iff.rfl) (oblivious_fetchContent _) ?_
  refine .ite (fun _ _ => Iff.rfl) oblivious_fetchTag ?_
  refine .ite (fun _ _ => Iff.rfl) (oblivious_fetchBlock _) ?_
  refine .ite (fun _ _ => Iff.rfl) (oblivious_fetchBlock _) ?_
  refine .ite (fun _ _ => Iff.rfl) (oblivious_fetchContent _) ?_
  refine .ite (fun _ _ => Iff.rfl) (oblivious_fetchContent _) ?_
  exact .ite (fun _ _ => Iff.rfl) oblivious_fetchPlain (.error fun _ _ => rfl)

lemma oblivious_dispatch : Oblivious dispatch := by
  intro s gone htaken hwaiting
  have hrest : (s.ahead gone).cursor.rest = s.cursor.rest := rfl
  unfold dispatch
  rw [hrest]
  cases s.cursor.rest with
  | nil => exact oblivious_finish htaken hwaiting
  | cons x rest => exact oblivious_fetchFrom x rest htaken hwaiting

/-! ## All of a fetch -/

/-- A candidate, if it is not stale. -/
def fresh (m : Mark) (k : Option KeyCandidate) : Option KeyCandidate :=
  k.filter fun k => !KeyCandidate.isStale k m

/-- Whether no key is missing: a stale candidate is not required. -/
def Spared (m : Mark) (k : Option KeyCandidate) : Prop :=
  ∀ k' ∈ k, KeyCandidate.isStale k' m = true → k'.required = false

lemma freshen_eq_ok_iff {m : Mark} {k k' : Option KeyCandidate} :
    freshen m k = .ok k' ↔ Spared m k ∧ fresh m k = k' := by
  cases k with
  | none => simp [freshen, Spared, fresh]
  | some k =>
    cases hstale : KeyCandidate.isStale k m <;> cases hrequired : k.required <;>
      simp [freshen, Spared, fresh, Option.filter_some, hstale, hrequired]

lemma mapM_freshen_eq_ok_iff {m : Mark} {ks ks' : List (Option KeyCandidate)} :
    ks.mapM (freshen m) = .ok ks' ↔ (∀ k ∈ ks, Spared m k) ∧ ks.map (fresh m) = ks' := by
  induction ks generalizing ks' with
  | nil => simp [pure, Except.pure]
  | cons k ks ih =>
    rw [List.mapM_cons, List.forall_mem_cons, List.map_cons]
    simp only [Except.bind_eq_ok_iff, freshen_eq_ok_iff, ih]
    constructor
    · rintro ⟨k₁, ⟨hspared, rfl⟩, ks₁, ⟨hall, rfl⟩, heq⟩
      cases heq
      exact ⟨⟨hspared, hall⟩, rfl⟩
    · rintro ⟨⟨hspared, hall⟩, rfl⟩
      exact ⟨_, ⟨hspared, rfl⟩, _, ⟨hall, rfl⟩, rfl⟩

lemma dropStale_eq_ok_iff :
    s.dropStale = .ok s' ↔
      (∀ k ∈ s.candidate :: s.outer, Spared s.mark k) ∧
        { s with
          outer := s.outer.map (fresh s.mark), candidate := fresh s.mark s.candidate } = s' := by
  rw [List.forall_mem_cons, dropStale]
  simp only [Except.bind_eq_ok_iff, freshen_eq_ok_iff, mapM_freshen_eq_ok_iff, List.mem_reverse]
  constructor
  · rintro ⟨outer, ⟨hall, rfl⟩, candidate, ⟨hspared, rfl⟩, heq⟩
    refine ⟨⟨hspared, hall⟩, ?_⟩
    simpa [pure, Except.pure] using heq
  · rintro ⟨⟨hspared, hall⟩, rfl⟩
    refine ⟨_, ⟨hall, rfl⟩, _, ⟨hspared, rfl⟩, ?_⟩
    simp [pure, Except.pure]

lemma mem_of_fresh {m : Mark} {k : KeyCandidate} {ks : List (Option KeyCandidate)}
    (h : some k ∈ ks.map (fresh m)) : some k ∈ ks := by
  obtain ⟨k', hk', hfresh⟩ := List.mem_map.mp h
  obtain ⟨rfl, -⟩ := Option.filter_eq_some_iff.mp hfresh
  exact hk'

lemma oblivious_dropStale : Oblivious dropStale := by
  intro s gone htaken hwaiting
  refine ⟨?_, fun s' hs' => ?_⟩
  · unfold dropStale
    simp only [show (s.ahead gone).outer = s.outer from rfl,
      show (s.ahead gone).mark = s.mark from rfl,
      show (s.ahead gone).candidate = s.candidate from rfl]
    cases s.outer.reverse.mapM (freshen s.mark) with
    | error e => rfl
    | ok outer => cases freshen s.mark s.candidate <;> rfl
  · obtain ⟨-, rfl⟩ := dropStale_eq_ok_iff.mp hs'
    refine ⟨rfl, fun k hk => hwaiting k ?_⟩
    exact mem_of_fresh (m := s.mark) (by simpa using hk)

lemma oblivious_approach : Oblivious approach := by
  show Oblivious fun s => (.ok { s with
      keyAllowed := (toNextToken s.inFlow (s.cursor.rest.length + 1) s.keyAllowed s.cursor).1
      cursor := (toNextToken s.inFlow (s.cursor.rest.length + 1) s.keyAllowed s.cursor).2 } :
      Except Fault Scan) >>= dropStale
  exact .bind (Harmless.oblivious ⟨fun _ _ => rfl, fun _ => rfl, fun _ _ hk => hk⟩)
    oblivious_dropStale

/-- Fetching a token does not look at the tokens that were taken. -/
theorem oblivious_fetch : Oblivious fetch := by
  show Oblivious fun s => s.approach >>= fun s =>
    (.ok (s.closeBlocks (some s.mark.column)) : Except Fault Scan) >>= dispatch
  exact .bind oblivious_approach (.bind (harmless_closeBlocks (fun s => some s.mark.column)
    fun _ _ => rfl).oblivious oblivious_dispatch)

/-! ## Stale candidates -/

lemma isStale_of_notAfter {k : KeyCandidate} {m m' : Mark} (hm : m.NotAfter m')
    (h : KeyCandidate.isStale k m = true) : KeyCandidate.isStale k m' = true := by
  simp only [KeyCandidate.isStale, Bool.or_eq_true, decide_eq_true_eq] at h ⊢
  have := hm.1
  have := hm.2
  omega

lemma fresh_fresh {m m' : Mark} (hm : m.NotAfter m') (k : Option KeyCandidate) :
    fresh m' (fresh m k) = fresh m' k := by
  unfold fresh
  rw [Option.filter_filter]
  congr 1
  funext k
  cases h : KeyCandidate.isStale k m with
  | false => simp
  | true => simp [isStale_of_notAfter hm h]

lemma Spared.of_notAfter {m m' : Mark} (hm : m.NotAfter m') {k : Option KeyCandidate}
    (h : Spared m' k) : Spared m k := fun k' hk' hstale =>
  h k' hk' (isStale_of_notAfter hm hstale)

lemma Spared.fresh {m m' : Mark} {k : Option KeyCandidate} (h : Spared m' k) :
    Spared m' (fresh m k) := fun k' hk' =>
  h k' (Option.filter_eq_some_iff.mp hk').1

/-- The state without its stale candidates. -/
def freshened (s : Scan) : Scan :=
  { s with outer := s.outer.map (fresh s.mark), candidate := fresh s.mark s.candidate }

lemma Waiting.freshened (h : s.Waiting) : s.freshened.Waiting := fun k hk =>
  h k (mem_of_fresh (m := s.mark) (by simpa [Scan.freshened] using hk))

/-- What is stale at a place may as well be dropped before. -/
lemma dropStale_of_notAfter {c : Cursor} {allowed : Bool} (hm : s.mark.NotAfter c.mark)
    (h : dropStale { s with keyAllowed := allowed, cursor := c } = .ok s') :
    s.dropStale = .ok s.freshened ∧
      dropStale { s.freshened with keyAllowed := allowed, cursor := c } = .ok s' := by
  obtain ⟨hspared, hs'⟩ := dropStale_eq_ok_iff.mp h
  refine ⟨dropStale_eq_ok_iff.mpr ⟨fun k hk => (hspared k hk).of_notAfter hm, rfl⟩,
    dropStale_eq_ok_iff.mpr ⟨fun k hk => ?_, ?_⟩⟩
  · obtain ⟨k', hk', rfl⟩ : ∃ k' ∈ s.candidate :: s.outer, fresh s.mark k' = k :=
      List.mem_map.mp (by simpa [freshened] using hk)
    exact (hspared k' hk').fresh
  · have hagain (k : Option KeyCandidate) :
        fresh c.mark (fresh s.cursor.mark k) = fresh c.mark k := fresh_fresh hm k
    rw [← hs']
    simp [freshened, mark, hagain]

/-- Where the next token is depends on the text and on the brackets around it only. -/
lemma approach_eq (s : Scan) :
    ∃ (allowed : Bool) (c : Cursor), s.mark.NotAfter c.mark ∧ ∀ t : Scan, t.cursor = s.cursor →
      t.keyAllowed = s.keyAllowed → t.inFlow = s.inFlow →
        t.approach = dropStale { t with keyAllowed := allowed, cursor := c } := by
  have hm := toNextToken_notAfter s.inFlow (s.cursor.rest.length + 1) s.keyAllowed s.cursor
  generalize hnext : toNextToken s.inFlow (s.cursor.rest.length + 1) s.keyAllowed s.cursor = next
    at hm
  refine ⟨next.1, next.2, hm, fun t hcursor hallowed hflow => ?_⟩
  unfold approach
  rw [hcursor, hallowed, hflow, hnext]

lemma fetch_of_dropStale (h : s.fetch = .ok s') :
    s.dropStale = .ok s.freshened ∧ s.freshened.fetch = .ok s' := by
  unfold fetch at h
  cases happroach : s.approach with
  | error e => simp [happroach, Except.bind] at h
  | ok s₁ =>
    obtain ⟨allowed, c, hm, heq⟩ := approach_eq s
    obtain ⟨hdrop, hfreshened⟩ := dropStale_of_notAfter hm
      ((heq s rfl rfl rfl).symm.trans happroach)
    have hflow : s.freshened.inFlow = s.inFlow := by simp [freshened, inFlow]
    have hagain : s.freshened.approach = .ok s₁ :=
      (heq s.freshened rfl rfl hflow).trans hfreshened
    refine ⟨hdrop, ?_⟩
    rw [fetch, hagain]
    simpa [happroach] using h

/-! ## Runs -/

/-- One token or more is fetched into the queue. -/
def Fetches (s s' : Scan) : Prop := s.fetch = .ok s' ∧ s.queue.length < s'.queue.length

/-- Nothing is left to be fetched: the end of the text is the last token, and the only such. -/
structure Complete (s : Scan) : Prop where
  candidate : s.candidate = none
  outer : s.outer = []
  queue : ∃ ts t, s.queue = ts ++ [t] ∧ t.kind = .streamEnd ∧ ∀ t' ∈ ts, t'.kind ≠ .streamEnd

/-- A fetch with the tokens that were taken put back is a fetch without them. -/
lemma fetch_of_fetch_ahead (htaken : s.taken = gone.length) (hwaiting : s.Waiting) {t : Scan}
    (h : (s.ahead gone).fetch = .ok t) :
    ∃ s', s.fetch = .ok s' ∧ t = s'.ahead gone ∧ s'.taken = gone.length ∧ s'.Waiting := by
  obtain ⟨hahead, hkeep⟩ := oblivious_fetch htaken hwaiting
  rw [hahead] at h
  cases hs : s.fetch with
  | error e => simp [hs, Except.map] at h
  | ok s' =>
    obtain ⟨htaken', hwaiting'⟩ := hkeep s' hs
    exact ⟨s', rfl, by simpa [hs, Except.map] using h.symm, htaken'.trans htaken, hwaiting'⟩

/-- The tokens that were taken stay what they were. -/
lemma prefix_of_fetches {e : Scan} (htaken : s.taken = gone.length) (hwaiting : s.Waiting)
    (h : Relation.ReflTransGen Fetches (s.ahead gone) e) : gone <+: e.queue := by
  generalize hstart : s.ahead gone = t at h
  induction h using Relation.ReflTransGen.head_induction_on generalizing s with
  | refl => exact hstart ▸ List.prefix_append gone s.queue
  | head hstep _ ih =>
    obtain ⟨s', -, hahead, htaken', hwaiting'⟩ :=
      fetch_of_fetch_ahead htaken hwaiting (hstart ▸ hstep.1)
    exact ih htaken' hwaiting' hahead.symm

lemma length_queue_le {t e : Scan} (h : Relation.ReflTransGen Fetches t e) :
    t.queue.length ≤ e.queue.length := by
  induction h with
  | refl => exact Nat.le_refl _
  | tail _ hstep ih => exact Nat.le_trans ih (Nat.le_of_lt hstep.2)

/-- The end of the text is the last token. -/
lemma Complete.eq_of_streamEnd {e : Scan} (he : e.Complete) {t : Token} {rest : List Token}
    (h : e.queue = gone ++ t :: rest) : t.kind = .streamEnd ↔ rest = [] := by
  obtain ⟨ts, last, hqueue, hlast, hts⟩ := he.queue
  rw [h] at hqueue
  rcases List.eq_nil_or_concat rest with rfl | ⟨rest, t', rfl⟩
  · obtain ⟨-, rfl⟩ := List.append_inj' hqueue rfl |>.imp id (fun h => List.cons.inj h |>.1)
    simp [hlast]
  · have hmem : t ∈ ts := by
      have hinit : gone ++ t :: rest = ts := by
        rw [List.concat_eq_append, ← List.cons_append, ← List.append_assoc] at hqueue
        exact (List.append_inj' hqueue rfl).1
      simp [← hinit]
    simp [hts t hmem]

/-! ## One step of a run -/

/-- The state behind the token at the head of the queue. -/
def takeHead (s : Scan) (queue : List Token) : Scan :=
  { s with queue := queue, taken := s.taken + 1 }

section

variable {t : Token} {queue : List Token} {s₁ : Scan} {fuel : Nat}

lemma ahead_takeHead (h : s.queue = t :: queue) (gone : List Token) :
    (s.takeHead queue).ahead (gone ++ [t]) = s.ahead gone := by
  simp [takeHead, ahead, h]

lemma taken_takeHead (htaken : s.taken = gone.length) (t : Token) (queue : List Token) :
    (s.takeHead queue).taken = (gone ++ [t]).length := by
  rw [List.length_append, ← htaken]
  rfl

/-- A token at which no key begins may be taken. -/
lemma Waiting.takeHead (hwaiting : s.Waiting) (hhead : s.headIsCandidate = false)
    (queue : List Token) : (s.takeHead queue).Waiting := by
  intro k hk
  have hle : s.taken ≤ k.number := hwaiting k hk
  have hne : k.number ≠ s.taken := by
    intro hnumber
    rw [headIsCandidate, List.any_eq_false] at hhead
    exact hhead (some k) hk (by simp [hnumber])
  change s.taken + 1 ≤ k.number
  omega

lemma run_of_nil (hqueue : s.queue = []) (hfetch : s.fetch = .ok s') :
    s.run (fuel + 1) = s'.run fuel := by
  simp only [run, hqueue, hfetch]

lemma run_of_candidate (hqueue : s.queue = t :: queue) (hdrop : s.dropStale = .ok s₁)
    (hhead : s₁.headIsCandidate = true) (hfetch : s₁.fetch = .ok s') :
    s.run (fuel + 1) = s'.run fuel := by
  simp only [run, hqueue, hdrop, hhead, if_true, hfetch]

lemma run_of_take (hqueue : s.queue = t :: queue) (hdrop : s.dropStale = .ok s₁)
    (hhead : s₁.headIsCandidate = false) :
    s.run (fuel + 1) = if t.kind = .streamEnd then ([t], none)
      else (t :: ((s₁.takeHead queue).run fuel).1, ((s₁.takeHead queue).run fuel).2) := by
  simp only [run, hqueue, hdrop, hhead, Bool.false_eq_true, if_false]
  rfl

end

/-! ## A whole run -/

section

variable {e : Scan}

/-- What is stale may be dropped before the fetches that are still to come. -/
lemma dropStale_of_fetches (he : e.Complete) (htaken : s.taken = gone.length)
    (hwaiting : s.Waiting) (hfetches : Relation.ReflTransGen Fetches (s.ahead gone) e) :
    s.dropStale = .ok s.freshened ∧ Relation.ReflTransGen Fetches (s.freshened.ahead gone) e := by
  rcases hfetches.cases_head with rfl | ⟨t, hstep, hrest⟩
  · -- when nothing is left to be fetched there are no candidates
    have hcandidate : s.candidate = none := he.candidate
    have houter : s.outer = [] := he.outer
    have hsame : s.freshened = s := by
      rw [freshened, hcandidate, houter, fresh, Option.filter_none, List.map_nil, ← hcandidate,
        ← houter]
    refine ⟨dropStale_eq_ok_iff.mpr ⟨?_, rfl⟩, by rw [hsame]⟩
    simp [hcandidate, houter, Spared]
  · obtain ⟨s', hs', rfl, -⟩ := fetch_of_fetch_ahead htaken hwaiting hstep.1
    obtain ⟨hdrop, hagain⟩ := fetch_of_dropStale hs'
    refine ⟨hdrop, .head ⟨?_, hstep.2⟩ hrest⟩
    rw [(oblivious_fetch (s := s.freshened) htaken hwaiting.freshened).1, hagain]
    rfl

/-- There is more to fetch as long as a key may begin at the head of the queue. -/
lemma exists_fetches_of_candidate (he : e.Complete) (hhead : s.headIsCandidate = true)
    (hfetches : Relation.ReflTransGen Fetches (s.ahead gone) e) :
    ∃ t, Fetches (s.ahead gone) t ∧ Relation.ReflTransGen Fetches t e := by
  refine hfetches.cases_head.resolve_left ?_
  rintro rfl
  have hcandidate : s.candidate = none := he.candidate
  have houter : s.outer = [] := he.outer
  simp [headIsCandidate, hcandidate, houter] at hhead

/-- There is more to fetch as long as the queue is empty before the end. -/
lemma exists_fetches_of_nil (hqueue : s.queue = []) (hlength : gone.length < e.queue.length)
    (hfetches : Relation.ReflTransGen Fetches (s.ahead gone) e) :
    ∃ t, Fetches (s.ahead gone) t ∧ Relation.ReflTransGen Fetches t e := by
  refine hfetches.cases_head.resolve_left ?_
  rintro rfl
  simp [ahead, hqueue] at hlength

/-- A run takes the tokens that are there when all have been fetched. -/
theorem run_of_fetches (he : e.Complete) {fuel : Nat}
    (htaken : s.taken = gone.length) (hwaiting : s.Waiting)
    (hfetches : Relation.ReflTransGen Fetches (s.ahead gone) e)
    (hlength : gone.length < e.queue.length)
    (hfuel : 2 * e.queue.length ≤ fuel + gone.length + (gone.length + s.queue.length)) :
    s.run fuel = (e.queue.drop gone.length, none) := by
  induction fuel generalizing s gone with
  | zero =>
    have hle := length_queue_le hfetches
    simp only [ahead, List.length_append] at hle
    omega
  | succ fuel ih =>
    -- a fetch makes the queue longer, and so brings the run nearer to the end
    have hfetch (s₀ : Scan) (htaken₀ : s₀.taken = gone.length) (hwaiting₀ : s₀.Waiting)
        (hqueue : s₀.queue = s.queue)
        (h : ∃ t, Fetches (s₀.ahead gone) t ∧ Relation.ReflTransGen Fetches t e) :
        ∃ s', s₀.fetch = .ok s' ∧ s'.run fuel = (e.queue.drop gone.length, none) := by
      obtain ⟨t, hstep, hrest⟩ := h
      obtain ⟨s', hs', rfl, htaken', hwaiting'⟩ :=
        fetch_of_fetch_ahead htaken₀ hwaiting₀ hstep.1
      have hgrows := hstep.2
      simp only [ahead, List.length_append, hqueue] at hgrows
      exact ⟨s', hs', ih htaken' hwaiting' hrest hlength (by omega)⟩
    cases hqueue : s.queue with
    | nil =>
      obtain ⟨s', hs', hrun⟩ :=
        hfetch s htaken hwaiting rfl (exists_fetches_of_nil hqueue hlength hfetches)
      rw [run_of_nil hqueue hs', hrun]
    | cons t queue =>
      obtain ⟨hdrop, hfetches'⟩ := dropStale_of_fetches he htaken hwaiting hfetches
      have hfresh : s.freshened.Waiting := hwaiting.freshened
      cases hhead : s.freshened.headIsCandidate with
      | true =>
        obtain ⟨s', hs', hrun⟩ :=
          hfetch s.freshened htaken hfresh rfl (exists_fetches_of_candidate he hhead hfetches')
        rw [run_of_candidate hqueue hdrop hhead hs', hrun]
      | false =>
        -- no key begins at the head of the queue, so it is taken
        have htaken' := taken_takeHead (s := s.freshened) htaken t queue
        have hwaiting' := hfresh.takeHead hhead queue
        rw [← ahead_takeHead (s := s.freshened) hqueue gone] at hfetches'
        obtain ⟨rest, hrest⟩ := prefix_of_fetches htaken' hwaiting' hfetches'
        have hsplit : e.queue = gone ++ t :: rest := by simpa using hrest.symm
        have hend := he.eq_of_streamEnd hsplit
        have hdropped : e.queue.drop gone.length = t :: rest := by
          rw [hsplit, List.drop_left]
        rw [run_of_take hqueue hdrop hhead, hdropped]
        by_cases hkind : t.kind = .streamEnd
        · rw [if_pos hkind, hend.mp hkind]
        · have hmore : (gone ++ [t]).length < e.queue.length := by
            have hpos := List.length_pos_of_ne_nil (mt hend.mpr hkind)
            simp only [hsplit, List.length_append, List.length_cons, List.length_nil]
            omega
          have hrun := ih htaken' hwaiting' hfetches' hmore (by
            simp only [takeHead, List.length_append, List.length_cons, List.length_nil]
            simp only [hqueue, List.length_cons] at hfuel
            omega)
          have hbehind : e.queue.drop (gone ++ [t]).length = rest := by
            rw [← hrest, List.drop_left]
          rw [if_neg hkind, hrun, hbehind]

end

end Sidecars.Yaml.Scan
