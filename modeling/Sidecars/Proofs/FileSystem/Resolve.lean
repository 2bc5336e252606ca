import Sidecars.Proofs.Except
import Sidecars.Proofs.FileSystem.Tree

/-!
# Following paths, step by step

What `FileSystem.follow` does is taken apart along the steps of a path.

* `takeStep` is one step, and `takeStep_eq_found_iff` says where it leads; `advance_cons` says of
  steps that they are taken one after the other, up to a link.
* `follow_concat` follows a path whose last step goes down to a name: first comes the way to the
  directory, through all links, and then one look into it (`lookIn`).
* `follow_last` says that following a link at the very end makes no difference if there is none.
* `follow_embeds` compares two trees: where the directories and links of the first are also in the
  second, a way to a directory in the first is the same way in the second.
-/

namespace Sidecars.FileSystem

open Sidecars.Path (Step)

variable {root : Node}

/-! ## One step -/

/-- What is found at a name in a directory, or instead of it. -/
def lookIn (n : Node) (loc : Location) (name : Name) : Except Errno Spot :=
  if ¬ n.isDirectory then .error .notDirectory
  else if Name.maxLength < name.bytes.length then .error .nameTooLong
  else
    match n.child? name with
    | none => .ok (.free ⟨loc, name⟩)
    | some m => .ok (.found (loc ++ [name]) m)

lemma lookIn_eq_ok_iff {n : Node} {loc : Location} {name : Name} {spot : Spot} :
    lookIn n loc name = .ok spot ↔ n.isDirectory = true ∧ name.bytes.length ≤ Name.maxLength ∧
      ((n.child? name = none ∧ spot = .free ⟨loc, name⟩) ∨
        ∃ m, n.child? name = some m ∧ spot = .found (loc ++ [name]) m) := by
  unfold lookIn
  by_cases hdir : n.isDirectory = true
  · by_cases hlong : Name.maxLength < name.bytes.length
    · simp [hdir, hlong]
    · simp only [hdir, not_true_eq_false, if_false, hlong, true_and, not_lt.1 hlong]
      cases n.child? name with
      | none => simp [eq_comm]
      | some m => simp [eq_comm]
  · simp [hdir]

/-- What one step from a node leads to; a link at its end is not followed. -/
def takeStep (root : Node) (loc : Location) (n : Node) : Step → Except Errno Spot
  | .stay => if n.isDirectory then .ok (.found loc n) else .error .notDirectory
  | .up =>
    if ¬ n.isDirectory then .error .notDirectory
    else
      match root.get? loc.dropLast with
      | some parent => .ok (.found loc.dropLast parent)
      | none => .error .noEntry
  | .down name => lookIn n loc name

/-- Where a step leads from a location. -/
def reach (loc : Location) : Step → Location
  | .stay => loc
  | .up => loc.dropLast
  | .down name => loc ++ [name]

/-- A step leads from a directory to the node at one location, unless it has too long a name. -/
lemma takeStep_eq_found_iff {loc l : Location} {n m : Node} {step : Step}
    (hn : root.get? loc = some n) :
    takeStep root loc n step = .ok (.found l m) ↔ n.isDirectory = true ∧
      (∀ name, step = .down name → name.bytes.length ≤ Name.maxLength) ∧ l = reach loc step ∧
        root.get? l = some m := by
  by_cases hdir : n.isDirectory = true
  · cases step with
    | stay =>
      simp only [takeStep, hdir, if_true, Except.ok.injEq, Spot.found.injEq, reach, true_and,
        reduceCtorEq, false_implies, implies_true]
      constructor
      · rintro ⟨rfl, rfl⟩
        exact ⟨rfl, hn⟩
      · rintro ⟨rfl, hm⟩
        exact ⟨rfl, Option.some.inj (hn.symm.trans hm)⟩
    | up =>
      simp only [takeStep, hdir, not_true_eq_false, if_false, reach, true_and, reduceCtorEq,
        false_implies, implies_true]
      constructor
      · intro h
        split at h
        · next parent hparent =>
          obtain ⟨rfl, rfl⟩ : loc.dropLast = l ∧ parent = m := by simpa using h
          exact ⟨rfl, hparent⟩
        · cases h
      · rintro ⟨rfl, hm⟩
        rw [hm]
    | down name =>
      rw [takeStep, lookIn_eq_ok_iff, ← Node.get?_concat hn name]
      simp only [reduceCtorEq, and_false, false_or, Spot.found.injEq, reach, Step.down.injEq]
      constructor
      · rintro ⟨-, hshort, m', hm', rfl, rfl⟩
        exact ⟨hdir, fun _ h => h ▸ hshort, rfl, hm'⟩
      · rintro ⟨-, hshort, rfl, hm⟩
        exact ⟨hdir, hshort _ rfl, m, hm, rfl, rfl⟩
  · cases step <;> simp [takeStep, lookIn, hdir]

/-- Whether a spot is one of a tree. -/
def Stands (root : Node) : Spot → Prop
  | .found loc n => root.get? loc = some n
  | .free place => ∃ n, root.get? place.directory = some n ∧ n.isDirectory = true ∧
      n.child? place.name = none

lemma stands_of_takeStep {loc : Location} {n : Node} {step : Step} {spot : Spot}
    (hn : root.get? loc = some n) (h : takeStep root loc n step = .ok spot) : Stands root spot := by
  cases spot with
  | found l m => exact ((takeStep_eq_found_iff hn).1 h).2.2.2
  | free place =>
    cases step with
    | stay =>
      simp only [takeStep] at h
      split at h <;> cases h
    | up =>
      simp only [takeStep] at h
      split at h
      · cases h
      · split at h <;> cases h
    | down name =>
      obtain ⟨hdir, -, ⟨hnone, hspot⟩ | ⟨m, -, hspot⟩⟩ := lookIn_eq_ok_iff.1 h
      · cases hspot
        exact ⟨n, hn, hdir, hnone⟩
      · cases hspot

/-- A last step that does not go down ends in a directory. -/
lemma isDirectory_of_takeStep {loc l : Location} {n m : Node} {step : Step}
    (hn : root.get? loc = some n) (hstep : ∀ name, step ≠ .down name)
    (h : takeStep root loc n step = .ok (.found l m)) : m.isDirectory = true := by
  obtain ⟨hdir, -, rfl, hm⟩ := (takeStep_eq_found_iff hn).1 h
  cases step with
  | stay => rwa [← Option.some.inj (hn.symm.trans hm)]
  | up => exact Node.isDirectory_of_dropLast hn hdir hm
  | down name => exact absurd rfl (hstep name)

/-! ## Step by step -/

/-- What comes of the rest of some steps, taken from the spot to which the first of them has led
from a directory. -/
def goOn (root : Node) (last : Bool) (directory : Location) (rest : List Step) :
    Spot → Except Errno Halt
  | .free place => if rest = [] then .ok (.arrived (.free place)) else .error .noEntry
  | .found l (.link target) =>
    if rest = [] ∧ ¬ last then .ok (.arrived (.found l (.link target)))
    else .ok (.atLink directory target rest)
  | .found l m => advance root last l m rest

lemma goOn_found {last : Bool} {directory l : Location} {rest : List Step} {m : Node}
    (hm : ∀ target, m ≠ .link target) :
    goOn root last directory rest (.found l m) = advance root last l m rest := by
  cases m with
  | link target => exact absurd rfl (hm target)
  | file mode contents => rfl
  | directory mode es => rfl
  | pipe mode => rfl

lemma ne_link_of_isDirectory {n : Node} (h : n.isDirectory = true) (target : Path) :
    n ≠ .link target := by
  rintro rfl
  simp [Node.isDirectory, Node.kind] at h

/-- Steps are taken one after the other. -/
lemma advance_cons {last : Bool} {loc : Location} {n : Node} (hn : root.get? loc = some n)
    (step : Step) (rest : List Step) :
    advance root last loc n (step :: rest) =
      (takeStep root loc n step).bind (goOn root last loc rest) := by
  unfold advance
  by_cases hdir : n.isDirectory = true
  · rw [if_neg (not_not.2 hdir)]
    cases step with
    | stay =>
      rw [takeStep, if_pos hdir]
      exact (goOn_found (ne_link_of_isDirectory hdir)).symm
    | up =>
      rw [takeStep, if_neg (not_not.2 hdir)]
      cases hparent : root.get? loc.dropLast with
      | none => rfl
      | some parent =>
        have hup := Node.isDirectory_of_dropLast hn hdir hparent
        exact (goOn_found (ne_link_of_isDirectory hup)).symm
    | down name =>
      rw [takeStep, lookIn, if_neg (not_not.2 hdir)]
      simp only
      split
      · rfl
      · cases n.child? name with
        | none => rfl
        | some m => cases m <;> rfl
  · rw [if_pos hdir]
    cases step <;> simp [takeStep, lookIn, hdir, Except.bind]

lemma stands_of_advance {last : Bool} {loc : Location} {n : Node} {steps : List Step}
    {spot : Spot} (hn : root.get? loc = some n)
    (h : advance root last loc n steps = .ok (.arrived spot)) : Stands root spot := by
  induction steps generalizing loc n with
  | nil =>
    simp only [advance, Except.ok.injEq, Halt.arrived.injEq] at h
    subst h
    exact hn
  | cons step rest ih =>
    rw [advance_cons hn] at h
    obtain ⟨spot₁, htake, h⟩ := Except.bind_eq_ok_iff.1 h
    have hstands := stands_of_takeStep hn htake
    unfold goOn at h
    split at h
    · split at h
      · obtain rfl : _ = spot := by simpa using h
        exact hstands
      · cases h
    · split at h
      · obtain rfl : _ = spot := by simpa using h
        exact hstands
      · cases h
    · exact ih hstands h

/-! ## Where a path can end -/

lemma follow_of_atLink {last : Bool} {k : Nat} {loc directory : Location} {n : Node}
    {target : Path} {steps rest : List Step} (hn : root.get? loc = some n)
    (h : advance root last loc n steps = .ok (.atLink directory target rest)) :
    follow root last (k + 1) loc steps =
      follow root last k (if target.isAbsolute then [] else directory) (target.steps ++ rest) := by
  conv_lhs => unfold follow
  simp only [hn, h]

/-- A path leads somewhere either without a link on the way, or through a first one. -/
lemma follow_eq_ok_iff {last : Bool} {links : Nat} {loc : Location} {steps : List Step}
    {spot : Spot} :
    follow root last links loc steps = .ok spot ↔ ∃ n, root.get? loc = some n ∧
      (advance root last loc n steps = .ok (.arrived spot) ∨
        ∃ k < links, ∃ directory target rest,
          advance root last loc n steps = .ok (.atLink directory target rest) ∧
          follow root last k (if target.isAbsolute then [] else directory) (target.steps ++ rest) =
            .ok spot ∧ links = k + 1) := by
  cases hn : root.get? loc with
  | none =>
    conv_lhs => unfold follow
    simp [hn]
  | some n =>
    simp only [Option.some.injEq, exists_eq_left']
    cases hadvance : advance root last loc n steps with
    | error e =>
      conv_lhs => unfold follow
      simp [hn, hadvance]
    | ok halt =>
      cases halt with
      | arrived spot' =>
        conv_lhs => unfold follow
        simp [hn, hadvance]
      | atLink directory target rest =>
        cases links with
        | zero =>
          conv_lhs => unfold follow
          simp [hn, hadvance]
        | succ k =>
          rw [follow_of_atLink hn hadvance]
          constructor
          · intro h
            exact .inr ⟨k, by omega, directory, target, rest, rfl, h, rfl⟩
          · rintro (h | ⟨k', -, d, t, r, heq, h, hk⟩)
            · simp at h
            · obtain rfl : k = k' := by omega
              simp only [Except.ok.injEq, Halt.atLink.injEq] at heq
              obtain ⟨rfl, rfl, rfl⟩ := heq
              exact h

theorem stands_of_follow {last : Bool} {links : Nat} {loc : Location} {steps : List Step}
    {spot : Spot} (h : follow root last links loc steps = .ok spot) : Stands root spot := by
  induction links using Nat.strong_induction_on generalizing loc steps with
  | _ links ih =>
    obtain ⟨n, hn, hspot | ⟨k, hk, directory, target, rest, -, h, -⟩⟩ := follow_eq_ok_iff.1 h
    · exact stands_of_advance hn hspot
    · exact ih k hk h

/-! ## The last step -/

/-- What comes of a path when one more step follows it. -/
def thenStep (root : Node) (step : Step) : Except Errno Spot → Except Errno Spot
  | .error e => .error e
  | .ok (.free _) => .error .noEntry
  | .ok (.found l m) => takeStep root l m step

/-- What comes of a part of a path when one more step follows it. -/
def thenStepHalt (root : Node) (step : Step) : Except Errno Halt → Except Errno Halt
  | .error e => .error e
  | .ok (.arrived spot) => (thenStep root step (.ok spot)).map Halt.arrived
  | .ok (.atLink directory target rest) => .ok (.atLink directory target (rest ++ [step]))

lemma advance_singleton {loc : Location} {n : Node} (hn : root.get? loc = some n) (step : Step) :
    advance root false loc n [step] = (takeStep root loc n step).map Halt.arrived := by
  rw [advance_cons hn]
  cases takeStep root loc n step with
  | error e => rfl
  | ok spot =>
    cases spot with
    | free place => rfl
    | found l m => cases m <;> rfl

lemma advance_concat {loc : Location} {n : Node} (hn : root.get? loc = some n) (xs : List Step)
    (last : Step) :
    advance root false loc n (xs ++ [last]) =
      thenStepHalt root last (advance root true loc n xs) := by
  induction xs generalizing loc n with
  | nil => exact advance_singleton hn last
  | cons step rest ih =>
    rw [List.cons_append, advance_cons hn, advance_cons hn]
    cases htake : takeStep root loc n step with
    | error e => rfl
    | ok spot =>
      have hstands := stands_of_takeStep hn htake
      cases spot with
      | free place => cases rest <;> rfl
      | found l m =>
        by_cases hm : ∀ target, m ≠ .link target
        · simp only [Except.bind, goOn_found hm]
          exact ih hstands
        · -- the link is left for later, with all the steps behind it
          obtain ⟨target, rfl⟩ : ∃ target, m = .link target := by simpa using hm
          simp [Except.bind, goOn, thenStepHalt]

/-- The way along a path leads first to where its last step is taken, through all links, and then
takes that step. -/
theorem follow_concat (links : Nat) (loc : Location) (xs : List Step) (last : Step) :
    follow root false links loc (xs ++ [last]) =
      thenStep root last (follow root true links loc xs) := by
  induction links using Nat.strong_induction_on generalizing loc xs with
  | _ links ih =>
    unfold follow
    cases hn : root.get? loc with
    | none => rfl
    | some n =>
      simp only [advance_concat hn]
      cases advance root true loc n xs with
      | error e => rfl
      | ok halt =>
        cases halt with
        | arrived spot =>
          simp only [thenStepHalt]
          cases thenStep root last (.ok spot) <;> rfl
        | atLink directory target rest =>
          cases links with
          | zero => rfl
          | succ links =>
            simp only [thenStepHalt, ← List.append_assoc]
            exact ih links (Nat.lt_succ_self links) _ _

/-- The location from which a path is followed. -/
def origin (fs : FileSystem) (p : Path) : Location := if p.isAbsolute then [] else fs.current

lemma resolve_of_refusal_eq_none {fs : FileSystem} {last : Bool} {p : Path}
    (h : p.refusal? = none) :
    fs.resolve last p = follow fs.root last maxLinks (fs.origin p) p.steps := by
  unfold resolve
  rw [h]
  rfl

lemma refusal?_of_resolve {fs : FileSystem} {last : Bool} {p : Path} {spot : Spot}
    (h : fs.resolve last p = .ok spot) : p.refusal? = none := by
  unfold resolve at h
  split at h
  · simp at h
  · next hnone => exact hnone

lemma get?_of_resolve {fs : FileSystem} {last : Bool} {p : Path} {l : Location} {n : Node}
    (h : fs.resolve last p = .ok (.found l n)) : fs.root.get? l = some n := by
  rw [resolve_of_refusal_eq_none (refusal?_of_resolve h)] at h
  exact stands_of_follow h

/-- Where a path that ends with a name leads: its directory is reached, and there the name is
looked for. -/
theorem resolve_eq_ok_iff {fs : FileSystem} {p : Path} {xs : List Step} {name : Name}
    {spot : Spot} (hp : p.steps = xs ++ [.down name]) :
    fs.resolve false p = .ok spot ↔ p.refusal? = none ∧
      ∃ l n, follow fs.root true maxLinks (fs.origin p) xs = .ok (.found l n) ∧
        lookIn n l name = .ok spot := by
  cases hrefusal : p.refusal? with
  | some e => simp [resolve, hrefusal]
  | none =>
    rw [resolve_of_refusal_eq_none hrefusal, hp, follow_concat]
    cases follow fs.root true maxLinks (fs.origin p) xs with
    | error e => simp [thenStep]
    | ok reached =>
      cases reached with
      | free place => simp [thenStep]
      | found l n => simp [thenStep, takeStep]

/-- The last step of a path that leads to something other than a directory goes down. -/
lemma exists_down_of_resolve {fs : FileSystem} {p : Path} {xs : List Step} {step : Step}
    {l : Location} {n : Node} (hp : p.steps = xs ++ [step])
    (h : fs.resolve false p = .ok (.found l n)) (hn : n.isDirectory = false) :
    ∃ name, step = .down name := by
  by_contra hstep
  rw [resolve_of_refusal_eq_none (refusal?_of_resolve h), hp, follow_concat] at h
  cases hfollow : follow fs.root true maxLinks (fs.origin p) xs with
  | error e => simp [hfollow, thenStep] at h
  | ok spot =>
    cases spot with
    | free place => simp [hfollow, thenStep] at h
    | found loc m =>
      rw [hfollow] at h
      have hdir := isDirectory_of_takeStep (stands_of_follow hfollow)
        (fun name hname => hstep ⟨name, hname⟩) h
      rw [hn] at hdir
      exact Bool.false_ne_true hdir

/-! ## Links at the very end -/

lemma advance_last {loc : Location} {n : Node} (hn : root.get? loc = some n) (steps : List Step) :
    advance root true loc n steps = advance root false loc n steps ∨
      ∃ l target, advance root false loc n steps = .ok (.arrived (.found l (.link target))) := by
  induction steps generalizing loc n with
  | nil => exact .inl rfl
  | cons step rest ih =>
    rw [advance_cons hn, advance_cons hn]
    cases htake : takeStep root loc n step with
    | error e => exact .inl rfl
    | ok spot =>
      have hstands := stands_of_takeStep hn htake
      cases spot with
      | free place => exact .inl rfl
      | found l m =>
        by_cases hm : ∀ target, m ≠ .link target
        · simp only [Except.bind, goOn_found hm]
          exact ih hstands
        · obtain ⟨target, rfl⟩ : ∃ target, m = .link target := by simpa using hm
          by_cases hrest : rest = []
          · exact .inr ⟨l, target, by simp [Except.bind, goOn, hrest]⟩
          · exact .inl (by simp [Except.bind, goOn, hrest])

/-- Whether a link at the very end is to be followed does not matter if there is none. -/
theorem follow_last {links : Nat} {loc : Location} {steps : List Step}
    (h : ∀ l target, follow root false links loc steps ≠ .ok (.found l (.link target))) :
    follow root true links loc steps = follow root false links loc steps := by
  induction links using Nat.strong_induction_on generalizing loc steps with
  | _ links ih =>
    unfold follow at h ⊢
    cases hn : root.get? loc with
    | none => rfl
    | some n =>
      simp only [hn] at h ⊢
      rcases advance_last hn steps with heq | ⟨l, target, heq⟩
      · rw [heq]
        cases hhalt : advance root false loc n steps with
        | error e => rfl
        | ok halt =>
          cases halt with
          | arrived spot => rfl
          | atLink directory target rest =>
            cases links with
            | zero => rfl
            | succ links =>
              refine ih links (Nat.lt_succ_self links) fun l t => ?_
              have := h l t
              rw [hhalt] at this
              exact this
      · exact absurd (by rw [heq]) (h l target)

/-- A path to a directory may go on with steps that stay there. -/
lemma follow_concat_stay {links : Nat} {loc l : Location} {n : Node} {xs : List Step} :
    follow root true links loc (xs ++ [.stay]) = .ok (.found l n) ↔
      follow root true links loc xs = .ok (.found l n) ∧ n.isDirectory = true := by
  have hconcat := @follow_concat root links loc xs .stay
  have hlast : follow root true links loc (xs ++ [.stay]) =
      follow root false links loc (xs ++ [.stay]) := by
    refine follow_last fun l target h => ?_
    rw [hconcat] at h
    cases hfollow : follow root true links loc xs with
    | error e => simp [hfollow, thenStep] at h
    | ok spot =>
      cases spot with
      | free place => simp [hfollow, thenStep] at h
      | found l' n' =>
        rw [hfollow] at h
        simp only [thenStep, takeStep] at h
        split at h
        · next hdir =>
          simp only [Except.ok.injEq, Spot.found.injEq] at h
          rw [h.2] at hdir
          exact Bool.false_ne_true hdir
        · simp at h
  rw [hlast, hconcat]
  cases follow root true links loc xs with
  | error e => simp [thenStep]
  | ok spot =>
    cases spot with
    | free place => simp [thenStep]
    | found l' n' =>
      cases hdir : n'.isDirectory with
      | true =>
        simp only [thenStep, takeStep, hdir, if_true, Except.ok.injEq, Spot.found.injEq]
        constructor
        · rintro ⟨rfl, rfl⟩
          exact ⟨⟨rfl, rfl⟩, hdir⟩
        · exact fun h => h.1
      | false =>
        simp only [thenStep, takeStep, hdir, Bool.false_eq_true, if_false, reduceCtorEq,
          Except.ok.injEq, Spot.found.injEq, false_iff]
        rintro ⟨⟨rfl, rfl⟩, hn⟩
        rw [hdir] at hn
        exact Bool.false_ne_true hn

lemma follow_append_stays {links : Nat} {loc l : Location} {n : Node} {xs : List Step}
    (hn : n.isDirectory = true) (k : Nat) :
    follow root true links loc (xs ++ List.replicate k .stay) = .ok (.found l n) ↔
      follow root true links loc xs = .ok (.found l n) := by
  induction k with
  | zero => simp
  | succ k ih =>
    rw [List.replicate_succ', ← List.append_assoc, follow_concat_stay, ih]
    exact and_iff_left hn

/-! ## Two trees with the same ways -/

/-- Whether every directory and every link of one tree is in another. -/
structure Embeds (a b : Node) : Prop where
  directory : ∀ loc n, a.get? loc = some n → n.isDirectory = true →
    ∃ m, b.get? loc = some m ∧ m.isDirectory = true
  link : ∀ loc target, a.get? loc = some (.link target) → b.get? loc = some (.link target)

variable {a b : Node}

lemma advance_of_not_directory {last : Bool} {loc : Location} {n : Node} {steps : List Step}
    (hn : n.isDirectory = false) {halt : Halt} (h : advance root last loc n steps = .ok halt) :
    halt = .arrived (.found loc n) := by
  cases steps with
  | nil => simpa [advance] using h.symm
  | cons step rest => simp [advance, hn] at h

lemma takeStep_embeds (hab : Embeds a b) {loc l : Location} {n m c : Node} {step : Step}
    (hn : a.get? loc = some n) (hm : b.get? loc = some m)
    (hdir : n.isDirectory = true → m.isDirectory = true)
    (h : takeStep a loc n step = .ok (.found l c)) :
    (c.isDirectory = true → ∃ d, takeStep b loc m step = .ok (.found l d) ∧ d.isDirectory = true) ∧
      ∀ target, c = .link target → takeStep b loc m step = .ok (.found l (.link target)) := by
  obtain ⟨hdn, hshort, hl, hc⟩ := (takeStep_eq_found_iff hn).1 h
  refine ⟨fun hdc => ?_, fun target htarget => ?_⟩
  · obtain ⟨d, hd, hdd⟩ := hab.directory l c hc hdc
    exact ⟨d, (takeStep_eq_found_iff hm).2 ⟨hdir hdn, hshort, hl, hd⟩, hdd⟩
  · rw [htarget] at hc
    exact (takeStep_eq_found_iff hm).2 ⟨hdir hdn, hshort, hl, hab.link l target hc⟩

/-- A part of a way that leads to a directory or to a link is the same in a tree that has all the
directories and links. -/
lemma advance_embeds (hab : Embeds a b) {loc : Location} {n m : Node} {steps : List Step}
    (hn : a.get? loc = some n) (hm : b.get? loc = some m)
    (hdir : n.isDirectory = true → m.isDirectory = true) :
    (∀ l d, advance a true loc n steps = .ok (.arrived (.found l d)) → d.isDirectory = true →
      ∃ e, advance b true loc m steps = .ok (.arrived (.found l e)) ∧ e.isDirectory = true) ∧
    (∀ l target rest, advance a true loc n steps = .ok (.atLink l target rest) →
      advance b true loc m steps = .ok (.atLink l target rest)) := by
  induction steps generalizing loc n m with
  | nil =>
    refine ⟨fun l d h hd => ?_, fun l target rest h => ?_⟩
    · simp only [advance, Except.ok.injEq, Halt.arrived.injEq, Spot.found.injEq] at h
      obtain ⟨rfl, rfl⟩ := h
      exact ⟨m, rfl, hdir hd⟩
    · simp [advance] at h
  | cons step rest ih =>
    rw [advance_cons hn, advance_cons hm]
    cases htake : takeStep a loc n step with
    | error e => simp [Except.bind]
    | ok spot =>
      cases spot with
      | free place => cases rest <;> simp [Except.bind, goOn]
      | found l c =>
        obtain ⟨hdirectory, hlink⟩ := takeStep_embeds hab hn hm hdir htake
        by_cases hc : ∀ target, c ≠ .link target
        · simp only [Except.bind, goOn_found hc]
          by_cases hdc : c.isDirectory = true
          · obtain ⟨d, htake', hdd⟩ := hdirectory hdc
            simp only [htake', goOn_found (ne_link_of_isDirectory hdd)]
            exact ih (stands_of_takeStep hn htake) (stands_of_takeStep hm htake') fun _ => hdd
          · -- a way that comes to a file ends there, or nowhere
            rw [Bool.not_eq_true] at hdc
            refine ⟨fun l' d h hd => ?_, fun l' target rest' h => ?_⟩
            · obtain ⟨-, rfl⟩ : l' = l ∧ d = c := by simpa using advance_of_not_directory hdc h
              rw [hdc] at hd
              exact absurd hd Bool.false_ne_true
            · exact absurd (advance_of_not_directory hdc h) (by simp)
        · obtain ⟨target, rfl⟩ : ∃ target, c = .link target := by simpa using hc
          simp [hlink target rfl, Except.bind, goOn]

/-- A way to a directory is the same in a tree that has all the directories and links. -/
theorem follow_embeds (hab : Embeds a b) {links : Nat} {loc l : Location} {d : Node}
    {steps : List Step} (h : follow a true links loc steps = .ok (.found l d))
    (hd : d.isDirectory = true) :
    ∃ e, follow b true links loc steps = .ok (.found l e) ∧ e.isDirectory = true := by
  induction links using Nat.strong_induction_on generalizing loc steps with
  | _ links ih =>
    obtain ⟨n, hn, hway⟩ := follow_eq_ok_iff.1 h
    have hdn : n.isDirectory = true := by
      by_contra hdn
      rw [Bool.not_eq_true] at hdn
      rcases hway with hspot | ⟨k, -, directory, target, rest, hlink, -, -⟩
      · have hhalt := advance_of_not_directory hdn hspot
        simp only [Halt.arrived.injEq, Spot.found.injEq] at hhalt
        rw [hhalt.2, hdn] at hd
        exact Bool.false_ne_true hd
      · have hhalt := advance_of_not_directory hdn hlink
        simp at hhalt
    obtain ⟨m, hm, hdm⟩ := hab.directory _ _ hn hdn
    have hadvance := @advance_embeds a b hab loc n m steps hn hm fun _ => hdm
    rcases hway with hspot | ⟨k, hk, directory, target, rest, hlink, hfollow, hlinks⟩
    · obtain ⟨e, he, hde⟩ := hadvance.1 l d hspot hd
      exact ⟨e, follow_eq_ok_iff.2 ⟨m, hm, .inl he⟩, hde⟩
    · obtain ⟨e, he, hde⟩ := ih k hk hfollow
      have hlink' := hadvance.2 _ _ _ hlink
      exact ⟨e, follow_eq_ok_iff.2
        ⟨m, hm, .inr ⟨k, hk, directory, target, rest, hlink', he, hlinks⟩⟩, hde⟩

end Sidecars.FileSystem
