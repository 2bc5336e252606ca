import Mathlib.Data.List.Forall2
import Mathlib.Data.List.Induction
import Mathlib.Data.Option.Basic
import Sidecars.Dispatch
import Sidecars.Proofs.Text.LetterCase

/-!
# Which registration routes a file

A dispatcher is made by one registration after another.  A file goes by the first registration that
lists its extension, as far as lower case goes; neither the later ones nor the way in which the
first one lists the extension make a difference.

* `Registration.IsFirst` says that a registration is the first one to list an extension.
* `Dispatcher.answer?_of_extension` is the search for it.
* `Registration.Alike` compares two registrations up to order, repetition and the case of ASCII
  letters, and `Dispatcher.answer?_eq_of_alike` says that such changes make no difference.
* `Dispatcher.earliest_registration_answers` puts this together.
-/

namespace Sidecars

open Text (lowerByte)
open Text.LowerCase (lower)
open Text.Utf8 (decodeLossy)

/-- What is given to a dispatcher: the extensions of some files, and what is done with these. -/
structure Registration where
  /-- The kind of media. -/
  kind : MediaKind
  /-- The extensions, in any case. -/
  extensions : List String
  /-- How the metadata is found. -/
  extractor : Extractor

namespace Registration

variable {r r' : Registration} {rs rs' : List Registration} {extension : String}

/-- Whether a registration lists an extension, in whatever case. -/
def Lists (r : Registration) (extension : String) : Prop :=
  ∃ x ∈ r.extensions, lower x = lower extension

instance (r : Registration) : DecidablePred r.Lists :=
  fun extension => inferInstanceAs (Decidable (∃ x ∈ r.extensions, lower x = lower extension))

/-- Whether a registration is the first of some that lists an extension. -/
def IsFirst (rs : List Registration) (extension : String) (r : Registration) : Prop :=
  ∃ before after, rs = before ++ r :: after ∧ r.Lists extension ∧
    ∀ r' ∈ before, ¬ r'.Lists extension

/-- Whether two registrations are for the same, and list the same extensions up to the case of ASCII
letters, in any order and as often as they like. -/
structure Alike (r r' : Registration) : Prop where
  /-- The kind of media is the same. -/
  kind : r.kind = r'.kind
  /-- The metadata is found in the same way. -/
  extractor : r.extractor = r'.extractor
  /-- What the first one lists, the second one lists. -/
  listed : ∀ x ∈ r.extensions, ∃ y ∈ r'.extensions, Text.Alike x y
  /-- What the second one lists, the first one lists. -/
  listed' : ∀ y ∈ r'.extensions, ∃ x ∈ r.extensions, Text.Alike x y

lemma Alike.lists_iff (h : r.Alike r') : r.Lists extension ↔ r'.Lists extension := by
  constructor
  · rintro ⟨x, hx, hlower⟩
    obtain ⟨y, hy, halike⟩ := h.listed x hx
    exact ⟨y, hy, by rw [← Text.LowerCase.lower_eq_of_alike halike, hlower]⟩
  · rintro ⟨y, hy, hlower⟩
    obtain ⟨x, hx, halike⟩ := h.listed' y hy
    exact ⟨x, hx, by rw [Text.LowerCase.lower_eq_of_alike halike, hlower]⟩

/-- What is done with a file by the first registration that lists its extension. -/
def first? (rs : List Registration) (extension : String) : Option (MediaKind × Extractor) :=
  (rs.find? fun r => r.Lists extension).map fun r => (r.kind, r.extractor)

lemma first?_eq_some_iff {kind : MediaKind} {extractor : Extractor} :
    first? rs extension = some (kind, extractor) ↔
      ∃ r, IsFirst rs extension r ∧ r.kind = kind ∧ r.extractor = extractor := by
  rw [first?, Option.map_eq_some_iff]
  simp only [List.find?_eq_some_iff_append, decide_eq_true_eq, Bool.not_eq_true',
    decide_eq_false_iff_not, Prod.mk.injEq]
  constructor
  · rintro ⟨r, ⟨hlists, before, after, hrs, hbefore⟩, hr⟩
    exact ⟨r, ⟨before, after, hrs, hlists, hbefore⟩, hr⟩
  · rintro ⟨r, ⟨before, after, hrs, hlists, hbefore⟩, hr⟩
    exact ⟨r, ⟨hlists, before, after, hrs, hbefore⟩, hr⟩

lemma first?_eq_none_iff : first? rs extension = none ↔ ∀ r ∈ rs, ¬ r.Lists extension := by
  simp only [first?, Option.map_eq_none_iff, List.find?_eq_none, decide_eq_true_eq]

lemma first?_append (h : first? rs extension ≠ none) (more : List Registration) :
    first? (rs ++ more) extension = first? rs extension := by
  obtain ⟨r, hr⟩ : ∃ r, rs.find? (fun r => r.Lists extension) = some r :=
    Option.ne_none_iff_exists'.1 fun hnone => h (by rw [first?, hnone]; rfl)
  rw [first?, first?, List.find?_append, hr]
  rfl

lemma first?_eq_of_lower_eq {extension' : String} (h : lower extension = lower extension') :
    first? rs extension = first? rs extension' := by
  have hlists : (fun r : Registration => decide (r.Lists extension)) =
      fun r => decide (r.Lists extension') :=
    funext fun r => decide_eq_decide.2 (by rw [Lists, Lists, h])
  rw [first?, first?, hlists]

lemma first?_cons (r : Registration) (rs : List Registration) (extension : String) :
    first? (r :: rs) extension =
      if r.Lists extension then some (r.kind, r.extractor) else first? rs extension := by
  unfold first?
  split
  · next h => rw [List.find?_cons_of_pos (by simpa using h), Option.map_some]
  · next h => rw [List.find?_cons_of_neg (by simpa using h)]

lemma first?_eq_of_alike (h : List.Forall₂ Alike rs rs') :
    first? rs' extension = first? rs extension := by
  induction h with
  | nil => rfl
  | cons hr _ ih =>
    rw [first?_cons, first?_cons, ih, hr.kind, hr.extractor, if_congr hr.lists_iff rfl rfl]

end Registration

namespace Dispatcher

open Registration (first?)

variable {rs rs' : List Registration} {p q : Path} {e : Bytes}

/-- The dispatcher that some registrations make, one after the other. -/
def ofRegistrations (rs : List Registration) : Dispatcher :=
  rs.foldl (fun d r => d.register r.kind r.extensions r.extractor) []

/-- What a dispatcher answers for the file at a path: the kind of media, and how the metadata is
found. -/
def answer? (d : Dispatcher) (p : Path) : Option (MediaKind × Extractor) :=
  (d.route? (.ofPath p)).map fun route => (route.kind, route.extractor)

/-- The route that a registration makes. -/
def routeOf (r : Registration) : Route := ⟨r.kind, r.extensions.map lower, r.extractor⟩

lemma ofRegistrations_eq (rs : List Registration) : ofRegistrations rs = rs.map routeOf := by
  induction rs using List.reverseRecOn with
  | nil => rfl
  | append_singleton rs r ih =>
    rw [ofRegistrations, List.foldl_append, ← ofRegistrations, ih, List.map_append]
    rfl

lemma contains_routeOf (r : Registration) (extension : String) :
    (routeOf r).extensions.contains (lower extension) = decide (r.Lists extension) := by
  rw [Bool.eq_iff_iff, List.contains_iff_mem, decide_eq_true_eq, routeOf, List.mem_map]
  rfl

/-- A file has an empty extension only if its path has none or an empty one. -/
lemma extension_eq_empty_iff :
    (MediaFile.ofPath p).extension = "" ↔ ∀ e, p.extension? = some e → e = [] := by
  rw [MediaFile.ofPath]
  cases p.extension? with
  | none => simp
  | some e =>
    have hempty : lower (decodeLossy e) = "" ↔ e.map lowerByte = [] :=
      Text.LowerCase.lower_decodeLossy_eq_iff (by decide)
    simp only [hempty, List.map_eq_nil_iff, Option.some.injEq, forall_eq']

/-- Without an extension, nothing is the answer, even if an extension without characters is
listed. -/
lemma answer?_of_no_extension (h : ∀ e, p.extension? = some e → e = []) (d : Dispatcher) :
    answer? d p = none := by
  rw [answer?, route?, if_pos (extension_eq_empty_iff.2 h)]
  rfl

/-- With an extension, the first registration that lists it gives the answer. -/
lemma answer?_of_extension (h : p.extension? = some e) (he : e ≠ []) :
    answer? (ofRegistrations rs) p = first? rs (decodeLossy e) := by
  have hne : (MediaFile.ofPath p).extension ≠ "" := fun hempty =>
    he (extension_eq_empty_iff.1 hempty e h)
  have hextension : (MediaFile.ofPath p).extension = lower (decodeLossy e) := by
    simp only [MediaFile.ofPath, h]
  rw [answer?, route?, if_neg hne, hextension, ofRegistrations_eq, List.find?_map, Option.map_map,
    first?]
  have hlists : (fun route : Route => route.extensions.contains (lower (decodeLossy e))) ∘ routeOf =
      fun r => decide (r.Lists (decodeLossy e)) := funext fun r => contains_routeOf r _
  rw [hlists]
  rfl

lemma answer?_eq_bind (rs : List Registration) (p : Path) : answer? (ofRegistrations rs) p =
    p.extension?.bind fun e => if e = [] then none else first? rs (decodeLossy e) := by
  cases h : p.extension? with
  | none => exact answer?_of_no_extension (by rw [h]; simp) _
  | some e =>
    rw [Option.bind_some]
    split
    · next he => exact answer?_of_no_extension (by rw [h]; simpa using he) _
    · next he => exact answer?_of_extension h he

/-- Registrations for the same, and paths of the same extension, up to order, repetition and the
case of ASCII letters, lead to the same answer. -/
lemma answer?_eq_of_alike (hrs : List.Forall₂ Registration.Alike rs rs')
    (hpq : Option.Rel (fun a b => a.map lowerByte = b.map lowerByte) p.extension? q.extension?) :
    answer? (ofRegistrations rs') q = answer? (ofRegistrations rs) p := by
  rw [answer?_eq_bind, answer?_eq_bind]
  generalize p.extension? = extension, q.extension? = extension' at hpq ⊢
  cases hpq with
  | none => rfl
  | @some e e' halike =>
    have hempty : e = [] ↔ e' = [] := by
      rw [← @List.map_eq_nil_iff _ _ lowerByte e, halike, List.map_eq_nil_iff]
    have hlower : lower (decodeLossy e) = lower (decodeLossy e') :=
      Text.LowerCase.lower_eq_of_alike (Text.Utf8.alike_decodeLossy halike)
    rw [Option.bind_some, Option.bind_some, if_congr hempty rfl rfl,
      Registration.first?_eq_of_alike hrs, Registration.first?_eq_of_lower_eq hlower]

/-- The answer for a path depends only on the first registration that lists its extension.  Without
an extension, or with one without characters, nothing is the answer.  What else is registered later
makes no difference, and neither does the way in which the extensions are listed or the letters of
the extension at the path are written. -/
theorem earliest_registration_answers (rs : List Registration) (p : Path) :
    ((∀ e, p.extension? = some e → e = []) → answer? (ofRegistrations rs) p = none) ∧
    (∀ e, p.extension? = some e → e ≠ [] →
      (∀ kind extractor, answer? (ofRegistrations rs) p = some (kind, extractor) ↔
        ∃ r, Registration.IsFirst rs (decodeLossy e) r ∧ r.kind = kind ∧ r.extractor = extractor) ∧
      (answer? (ofRegistrations rs) p = none ↔ ∀ r ∈ rs, ¬ r.Lists (decodeLossy e))) ∧
    (answer? (ofRegistrations rs) p ≠ none →
      ∀ more, answer? (ofRegistrations (rs ++ more)) p = answer? (ofRegistrations rs) p) ∧
    ∀ rs' q, List.Forall₂ Registration.Alike rs rs' →
      Option.Rel (fun a b => a.map lowerByte = b.map lowerByte) p.extension? q.extension? →
        answer? (ofRegistrations rs') q = answer? (ofRegistrations rs) p := by
  refine ⟨fun h => answer?_of_no_extension h _, fun e h he => ?_, fun hsome more => ?_,
    fun rs' q => answer?_eq_of_alike⟩
  · rw [answer?_of_extension h he]
    exact ⟨fun kind extractor => Registration.first?_eq_some_iff, Registration.first?_eq_none_iff⟩
  · by_cases h : ∀ e, p.extension? = some e → e = []
    · exact absurd (answer?_of_no_extension h _) hsome
    · obtain ⟨e, h, he⟩ : ∃ e, p.extension? = some e ∧ e ≠ [] := by simpa using h
      rw [answer?_of_extension h he] at hsome ⊢
      rw [answer?_of_extension h he, Registration.first?_append hsome]

example : (answer? (ofRegistrations [⟨.audio, ["OGG"], audioExtractor⟩,
    ⟨.image, ["ogg", "jpg"], imageExtractor⟩]) (.ofString "clip.oGg")).map Prod.fst =
      some .audio := by decide

end Dispatcher

end Sidecars
