import Sidecars.Proofs.Dispatch.Registration
import Sidecars.Proofs.Path.Extension

/-!
# Which files the standard dispatcher routes

The ten extensions of the standard dispatcher are ASCII texts that are the lower case of nothing
beyond ASCII.  So whether a file is routed can be said of the bytes of its path: the name at its end
must have one of the extensions up to the case of letters, and neither broken bytes nor letters
beyond ASCII come close to one.

* `Path.HasExtension` is the grammar of such paths.
* `Registration.Plain.lists_iff` says that a registration of such extensions lists the extensions
  that are spelled like one of them, and no others; `Dispatcher.answer?_cons_of_plain` is what it
  answers.
* `Dispatcher.standard_grammar` says so of the standard dispatcher.
-/

namespace Sidecars

open Text (lowerByte)
open Text.LowerCase (lower)
open Text.Utf8 (decodeLossy)

namespace Path

variable {p : Path} {exts : List String}

/-- Whether the name at the end of a path has one of some extensions, up to the case of ASCII
letters. -/
def HasExtension (p : Path) (exts : List String) : Prop :=
  ∃ name : Name, ∃ stem e, p.EndsWith name ∧ name.bytes = stem ++ dot :: e ∧ stem ≠ [] ∧
    dot ∉ e ∧ ∃ x ∈ exts, e.map lowerByte = Binary.ascii x

lemma hasExtension_iff : p.HasExtension exts ↔
    ∃ e, p.extension? = some e ∧ ∃ x ∈ exts, e.map lowerByte = Binary.ascii x := by
  simp only [extension?_eq_some_iff]
  constructor
  · rintro ⟨name, stem, e, hends, hbytes, hstem, hdot, hlisted⟩
    exact ⟨e, ⟨name, stem, hends, hbytes, hstem, hdot⟩, hlisted⟩
  · rintro ⟨e, ⟨name, stem, hends, hbytes, hstem, hdot⟩, hlisted⟩
    exact ⟨name, stem, e, hends, hbytes, hstem, hdot, hlisted⟩

instance (p : Path) (exts : List String) : Decidable (p.HasExtension exts) :=
  decidable_of_iff (∃ e ∈ p.extension?, ∃ x ∈ exts, e.map lowerByte = Binary.ascii x)
    hasExtension_iff.symm

example : HasExtension (.ofString "/photos/Trip.2019/IMG.Jpeg/./") ["jpg", "jpeg"] := by decide

lemma HasExtension.exists_eq {exts' : List String} (h : p.HasExtension exts)
    (h' : p.HasExtension exts') : ∃ x ∈ exts, ∃ y ∈ exts', Binary.ascii x = Binary.ascii y := by
  obtain ⟨e, he, x, hx, hxe⟩ := hasExtension_iff.1 h
  obtain ⟨e', he', y, hy, hye⟩ := hasExtension_iff.1 h'
  obtain rfl : e = e' := Option.some.inj (he.symm.trans he')
  exact ⟨x, hx, y, hy, hxe.symm.trans hye⟩

end Path

namespace Registration

variable {r : Registration} {p : Path} {e : Bytes}

/-- Whether the extensions of a registration are ASCII texts that are the lower case of nothing
beyond ASCII. -/
def Plain (r : Registration) : Prop := ∀ x ∈ r.extensions, x ≠ "" ∧ Text.LowerCase.Plain x

instance (r : Registration) : Decidable r.Plain :=
  inferInstanceAs (Decidable (∀ x ∈ r.extensions, x ≠ "" ∧ Text.LowerCase.Plain x))

/-- Plain extensions are listed by the bytes that spell them, up to the case of ASCII letters. -/
lemma Plain.lists_iff (h : r.Plain) :
    r.Lists (decodeLossy e) ↔ ∃ x ∈ r.extensions, e.map lowerByte = Binary.ascii x := by
  refine exists_congr fun x => and_congr_right fun hx => ?_
  rw [Text.LowerCase.lower_eq_self (h x hx).2, eq_comm,
    Text.LowerCase.lower_decodeLossy_eq_iff (h x hx).2]
  rfl

lemma Plain.hasExtension_iff (h : r.Plain) : p.HasExtension r.extensions ↔
    ∃ e, p.extension? = some e ∧ e ≠ [] ∧ r.Lists (decodeLossy e) := by
  rw [Path.hasExtension_iff]
  refine exists_congr fun e => and_congr_right fun _ => ?_
  rw [h.lists_iff, iff_and_self]
  -- without bytes, an extension would spell the empty text
  rintro ⟨x, hx, hxe⟩ rfl
  have hlower : lower (decodeLossy []) = x :=
    (Text.LowerCase.lower_decodeLossy_eq_iff (h x hx).2).2 hxe
  exact (h x hx).1 hlower.symm

end Registration

namespace Dispatcher

variable {rs : List Registration} {r : Registration} {p : Path}

/-- A plain registration answers for the paths that have one of its extensions, and leaves the
others to those behind. -/
lemma answer?_cons_of_plain (h : r.Plain) : answer? (ofRegistrations (r :: rs)) p =
    if p.HasExtension r.extensions then some (r.kind, r.extractor)
    else answer? (ofRegistrations rs) p := by
  have hlisted : p.HasExtension r.extensions ↔
      ∃ e, p.extension? = some e ∧ e ≠ [] ∧ r.Lists (decodeLossy e) := h.hasExtension_iff
  rw [answer?_eq_bind, answer?_eq_bind]
  cases hp : p.extension? with
  | none =>
    rw [if_neg (by simp [hlisted, hp])]
    rfl
  | some e =>
    rw [Option.bind_some, Option.bind_some]
    by_cases he : e = []
    · rw [if_pos he, if_pos he, if_neg (by simp [hlisted, hp, he])]
    · rw [if_neg he, if_neg he, Registration.first?_cons]
      exact if_congr (by simp [hlisted, hp, he]) rfl rfl

lemma answer?_nil (p : Path) : answer? (ofRegistrations []) p = none := by
  rw [answer?, ofRegistrations, List.foldl_nil, route?, List.find?_nil, ite_self]
  rfl

lemma answer?_standard (p : Path) : answer? standard p =
    if p.HasExtension imageExtensions then some (.image, imageExtractor)
    else if p.HasExtension audioExtensions then some (.audio, audioExtractor)
    else none := by
  have hstandard : standard = ofRegistrations [⟨.image, imageExtensions, imageExtractor⟩,
      ⟨.audio, audioExtensions, audioExtractor⟩] := rfl
  rw [hstandard, answer?_cons_of_plain (by decide), answer?_cons_of_plain (by decide),
    answer?_nil]

lemma not_hasExtension_both (p : Path) :
    ¬ (p.HasExtension imageExtensions ∧ p.HasExtension audioExtensions) := by
  rintro ⟨himage, haudio⟩
  exact absurd (himage.exists_eq haudio) (by decide)

/-- The grammar of the paths that the standard dispatcher routes, whatever bytes they are made of:
those that end with a name that has one of the six extensions of images, and those that end with one
that has one of the four extensions of recordings.  All others go no route. -/
theorem standard_grammar (p : Path) :
    (answer? standard p = some (.image, imageExtractor) ↔
      p.HasExtension ["jpg", "jpeg", "png", "gif", "bmp", "heic"]) ∧
    (answer? standard p = some (.audio, audioExtractor) ↔
      p.HasExtension ["mp3", "wav", "flac", "m4a"]) ∧
    (answer? standard p = none ↔
      ¬ p.HasExtension ["jpg", "jpeg", "png", "gif", "bmp", "heic"] ∧
        ¬ p.HasExtension ["mp3", "wav", "flac", "m4a"]) := by
  change (_ ↔ p.HasExtension imageExtensions) ∧ (_ ↔ p.HasExtension audioExtensions) ∧
    (_ ↔ ¬ p.HasExtension imageExtensions ∧ ¬ p.HasExtension audioExtensions)
  have hboth := not_hasExtension_both p
  rw [answer?_standard]
  by_cases himage : p.HasExtension imageExtensions
  · have haudio : ¬ p.HasExtension audioExtensions := fun haudio => hboth ⟨himage, haudio⟩
    simp [himage, haudio]
  · by_cases haudio : p.HasExtension audioExtensions
    · simp [himage, haudio]
    · simp [himage, haudio]

end Dispatcher

end Sidecars
