import Sidecars.Proofs.Path
import Sidecars.Settings.EnvFile

/-!
# What a file of variables assigns

A file of variables is read line by line until one is not of the right form.  Of what form a line is
and to which variable it assigns does not depend on the environment (`form_eq`), only the value
may: it may refer to variables.

* `Assigns` says that the first assignment to a variable before any line that is not of the right
  form gives it a value.
* `value?_readLines` says that after the lines a variable has the value that it had before, or else
  the one that is assigned to it.
-/

namespace Sidecars.Settings

variable {env env' : Environment} {name other value : String}

/-! ## Environments -/

lemma Environment.value?_concat_of_ne (h : other ≠ name) :
    (env ++ [(other, value)]).value? name = env.value? name := by
  unfold Environment.value?
  split
  · rfl
  · rw [List.lookup_append, List.lookup_cons]
    have hne : (name == other) = false := beq_false_of_ne h.symm
    rw [hne]
    cases env.lookup name <;> rfl

lemma Environment.value?_concat_self (hname : name ≠ "") (h : env.value? name = none) :
    (env ++ [(name, value)]).value? name = some value := by
  unfold Environment.value? at h ⊢
  rw [if_neg hname] at h ⊢
  rw [List.lookup_append, h, List.lookup_cons_self]
  rfl

namespace EnvFile

open Text.Alphanumeric (isSpace)

/-- A variable that is set keeps its value. -/
lemma value?_define_of_isSome (h : (env.value? name).isSome) :
    (define env other value).value? name = env.value? name := by
  unfold define
  split
  · rfl
  · next hother =>
    refine Environment.value?_concat_of_ne ?_
    rintro rfl
    exact hother h

/-- The other variables keep what they have. -/
lemma value?_define_of_ne (h : other ≠ name) :
    (define env other value).value? name = env.value? name := by
  unfold define
  split
  · rfl
  · exact Environment.value?_concat_of_ne h

/-- A variable that is not set gets the value. -/
lemma value?_define_self (hname : name ≠ "") (h : env.value? name = none) :
    (define env name value).value? name = some value := by
  rw [define, h]
  exact Environment.value?_concat_self hname h

/-! ## The form of a line -/

/-- Whether a value is of the right form does not depend on the environment. -/
lemma isSome_readValue (env env' : Environment) (inside : Bool) (mode : Mode) (cs : List Char) :
    (readValue env inside mode cs).isSome = (readValue env' inside mode cs).isSome := by
  induction cs generalizing inside mode with
  | nil => cases mode <;> cases inside <;> rfl
  | cons c rest ih =>
    cases mode with
    | text =>
      simp only [readValue]
      split_ifs <;> simp [ih]
    | escaped =>
      simp only [readValue]
      cases unescape? c with
      | none => rfl
      | some c' =>
        have hrest := ih inside .text
        cases hvalue : readValue env inside .text rest <;>
          cases hvalue' : readValue env' inside .text rest <;> simp_all
    | quoted =>
      simp only [readValue]
      split_ifs <;> simp [ih]
    | name soFar =>
      simp only [readValue]
      split_ifs <;> simp [ih]
    | braced soFar =>
      simp only [readValue]
      split_ifs <;> simp [ih]
    | behind =>
      simp only [readValue]
      split_ifs
      · exact ih inside .behind
      · rfl
      · rfl

/-- What a line of bytes says in an environment, if it is of the right form. -/
def read? (env : Environment) (bytes : Bytes) : Option Line :=
  (Text.Utf8.decodeChars? bytes).bind (readLine? env)

/-- The variable to which a line assigns. -/
def Line.assigned? : Line → Option String
  | .blank => none
  | .assignment name _ => some name

/-- The form of a line: whether it is right, and to which variable it assigns. -/
def form? (bytes : Bytes) : Option (Option String) := (read? [] bytes).map Line.assigned?

lemma map_assigned?_readLine? (env env' : Environment) (line : List Char) :
    (readLine? env line).map Line.assigned? = (readLine? env' line).map Line.assigned? := by
  simp only [readLine?]
  split_ifs
  · rfl
  · cases readTarget? (((line.reverse.dropWhile isSpace).reverse).dropWhile isSpace) with
    | none => rfl
    | some target =>
      obtain ⟨name, value⟩ := target
      simp only [Option.bind_eq_bind, Option.bind_some]
      split_ifs
      · rfl
      · have hsome := isSome_readValue env env' false .text value
        cases hvalue : readValue env false .text value <;>
          cases hvalue' : readValue env' false .text value <;> simp_all [Line.assigned?]

/-- The environment makes no difference for the form of a line. -/
theorem form_eq (env : Environment) (bytes : Bytes) :
    (read? env bytes).map Line.assigned? = form? bytes := by
  unfold form? read?
  cases Text.Utf8.decodeChars? bytes with
  | none => rfl
  | some line => exact map_assigned?_readLine? env [] line

/-! ## Lines -/

/-- Whether some lines assign a value to a variable: the first line that assigns to it, before any
that is not of the right form, gives it this value. -/
def Assigns (env : Environment) (lines : List Bytes) (name value : String) : Prop :=
  ∃ before line after, lines = before ++ line :: after ∧
    (∀ earlier ∈ before, form? earlier ≠ none ∧ form? earlier ≠ some (some name)) ∧
    read? (readLines env before) line = some (.assignment name value)

/-- Whether a variable has a value in an environment or else gets it from some lines. -/
def LookedUp (env : Environment) (lines : List Bytes) (name value : String) : Prop :=
  env.value? name = some value ∨ env.value? name = none ∧ Assigns env lines name value

lemma not_assigns_nil : ¬ Assigns env [] name value := by
  rintro ⟨before, line, after, hlines, -⟩
  simp at hlines

lemma readLines_cons (env : Environment) (bytes : Bytes) (rest : List Bytes) :
    readLines env (bytes :: rest) =
      match read? env bytes with
      | none => env
      | some .blank => readLines env rest
      | some (.assignment name value) => readLines (define env name value) rest := rfl

/-- Nothing is assigned behind a line that is not of the right form. -/
lemma not_assigns_cons_of_none {bytes : Bytes} {rest : List Bytes} (h : read? env bytes = none) :
    ¬ Assigns env (bytes :: rest) name value := by
  have hform : form? bytes = none := by rw [← form_eq env, h]; rfl
  rintro ⟨before, line, after, hlines, hbefore, hline⟩
  cases before with
  | nil =>
    obtain ⟨rfl, -⟩ := List.cons.inj hlines
    rw [readLines, h] at hline
    simp at hline
  | cons first before =>
    obtain ⟨rfl, -⟩ := List.cons.inj hlines
    exact (hbefore bytes List.mem_cons_self).1 hform

/-- The first line that assigns to a variable gives it its value. -/
lemma assigns_cons_self {bytes : Bytes} {rest : List Bytes} {first : String}
    (h : read? env bytes = some (.assignment name first)) :
    Assigns env (bytes :: rest) name value ↔ value = first := by
  have hform : form? bytes = some (some name) := by rw [← form_eq env, h]; rfl
  constructor
  · rintro ⟨before, line, after, hlines, hbefore, hline⟩
    cases before with
    | nil =>
      obtain ⟨rfl, -⟩ := List.cons.inj hlines
      rw [readLines, h] at hline
      simpa using hline.symm
    | cons first before =>
      obtain ⟨rfl, -⟩ := List.cons.inj hlines
      exact absurd hform (hbefore bytes List.mem_cons_self).2
  · rintro rfl
    exact ⟨[], bytes, rest, rfl, by simp, h⟩

/-- A line of the right form that does not assign to a variable is passed over. -/
lemma assigns_cons_of_ne {bytes : Bytes} {rest : List Bytes}
    (hform : form? bytes ≠ none) (hne : form? bytes ≠ some (some name))
    (hnext : ∀ before, readLines env (bytes :: before) = readLines env' before) :
    Assigns env (bytes :: rest) name value ↔ Assigns env' rest name value := by
  constructor
  · rintro ⟨before, line, after, hlines, hbefore, hline⟩
    cases before with
    | nil =>
      obtain ⟨rfl, -⟩ := List.cons.inj hlines
      rw [readLines] at hline
      refine absurd ?_ hne
      rw [← form_eq env, hline]
      rfl
    | cons first before =>
      obtain ⟨rfl, hrest⟩ := List.cons.inj hlines
      rw [hnext] at hline
      exact ⟨before, line, after, hrest,
        fun earlier hearlier => hbefore earlier (List.mem_cons_of_mem _ hearlier), hline⟩
  · rintro ⟨before, line, after, rfl, hbefore, hline⟩
    refine ⟨bytes :: before, line, after, rfl, ?_, by rwa [hnext]⟩
    intro earlier hearlier
    rcases List.mem_cons.1 hearlier with rfl | hearlier
    · exact ⟨hform, hne⟩
    · exact hbefore earlier hearlier

/-- After some lines a variable has the value that it had before, or else the one that the lines
assign to it. -/
theorem value?_readLines (hname : name ≠ "") (env : Environment) (lines : List Bytes) :
    (readLines env lines).value? name = some value ↔ LookedUp env lines name value := by
  unfold LookedUp
  induction lines generalizing env with
  | nil => simp [readLines, not_assigns_nil]
  | cons bytes rest ih =>
    rw [readLines_cons]
    cases hline : read? env bytes with
    | none => simp [not_assigns_cons_of_none hline]
    | some line =>
      have hform : form? bytes = some line.assigned? := by rw [← form_eq env, hline]; rfl
      cases line with
      | blank =>
        -- a line that assigns nothing leaves the environment as it is
        have hnext (before : List Bytes) : readLines env (bytes :: before) = readLines env before := by
          rw [readLines_cons, hline]
        rw [assigns_cons_of_ne (by simp [hform]) (by simp [hform, Line.assigned?]) hnext]
        exact ih env
      | assignment other first =>
        have hnext (before : List Bytes) :
            readLines env (bytes :: before) = readLines (define env other first) before := by
          rw [readLines_cons, hline]
        by_cases hother : other = name
        · -- the variable is set from here on, if it was not before
          subst hother
          rw [assigns_cons_self hline]
          simp only
          rw [ih]
          cases hvalue : env.value? other with
          | none => simp [value?_define_self hname hvalue, eq_comm]
          | some old =>
            have hkept : (define env other first).value? other = env.value? other :=
              value?_define_of_isSome (Option.isSome_iff_exists.2 ⟨old, hvalue⟩)
            simp [hkept, hvalue]
        · rw [assigns_cons_of_ne (by simp [hform]) (by simpa [hform, Line.assigned?]) hnext]
          simp only
          rw [ih, value?_define_of_ne hother]

/-- A variable gets one value only. -/
lemma LookedUp.unique {lines : List Bytes} {value' : String} (h : LookedUp env lines name value)
    (hname : name ≠ "") (h' : LookedUp env lines name value') : value = value' := by
  have hvalue := (value?_readLines hname env lines).2 h
  rw [(value?_readLines hname env lines).2 h', Option.some.injEq] at hvalue
  exact hvalue.symm

-- the first value of a variable counts, and what stands behind the bad line is not read
example : extend [("B", "0")] (Binary.ascii "A=1\nB=2\nA=3\n=\nC=4\n") = [("B", "0"), ("A", "1")] := by
  decide

end EnvFile

end Sidecars.Settings
