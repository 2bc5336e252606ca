import Mathlib.Data.Nat.Bitwise
import Sidecars.Proofs.Sidecar.Crash
import Sidecars.Proofs.Sidecar.RoundTrip

/-!
# All or nothing

A sidecar is written as a whole or not at all.

* `Complete` collects what is true after a write that succeeds: what the sidecar is, which mode it
  has, and that nothing else is different.
* `Refused` are the reasons for which a write fails, and `writeOn_eq_error_iff` says that there are
  no others.
* `write_all_or_nothing` puts this together with the fact that a write that fails leaves the very
  file system that was there before it.
-/

namespace Sidecars

namespace FileSystem

variable {fs : FileSystem}

/-! ## The end of a path -/

/-- Steps that are followed to their end do not end at a link. -/
lemma not_link_of_advance {root : Node} {loc l : Location} {n m : Node} {steps : List Path.Step}
    (hn : root.get? loc = some n) (hsteps : steps ≠ [])
    (h : advance root true loc n steps = .ok (.arrived (.found l m))) (target : Path) :
    m ≠ .link target := by
  induction steps generalizing loc n with
  | nil => exact absurd rfl hsteps
  | cons step rest ih =>
    rw [advance_cons hn] at h
    obtain ⟨spot, htake, h⟩ := Except.bind_eq_ok_iff.1 h
    cases spot with
    | free place => cases rest <;> simp [goOn] at h
    | found l' m' =>
      by_cases hm' : ∀ target, m' ≠ .link target
      · rw [goOn_found hm'] at h
        cases rest with
        | nil =>
          obtain ⟨-, rfl⟩ : l' = l ∧ m' = m := by simpa [advance] using h
          exact hm' target
        | cons step rest => exact ih (stands_of_takeStep hn htake) (by simp) h
      · -- a link is not arrived at
        obtain ⟨target', rfl⟩ : ∃ target', m' = .link target' := by simpa using hm'
        simp [goOn] at h

lemma not_link_of_follow {root : Node} {links : Nat} {loc l : Location} {m : Node}
    {steps : List Path.Step} (hsteps : steps ≠ [])
    (h : follow root true links loc steps = .ok (.found l m)) (target : Path) :
    m ≠ .link target := by
  induction links using Nat.strong_induction_on generalizing loc steps with
  | _ links ih =>
    obtain ⟨n, hn, harrived | ⟨k, hk, directory, p, rest, -, hrest, -⟩⟩ := follow_eq_ok_iff.1 h
    · exact not_link_of_advance hn hsteps harrived target
    · exact ih k hk (by simp [p.steps_ne_nil]) hrest

/-- What a path leads to through all links is no link. -/
lemma not_link_of_resolve {p : Path} {l : Location} {n : Node}
    (h : fs.resolve true p = .ok (.found l n)) (target : Path) :
    fs.entryAt? l ≠ some (.link target) := by
  have hn := get?_of_resolve h
  rw [resolve_of_refusal_eq_none (refusal?_of_resolve h)] at h
  rw [Ne, ← get?_link_iff, hn, Option.some.injEq]
  exact not_link_of_follow p.steps_ne_nil h target

end FileSystem

namespace Sidecar

open FileSystem

variable {fs : FileSystem} {media : Path} {m : Metadata}

/-! ## Failures -/

/-- The reasons for which a write fails on a device: the metadata cannot be rendered, the temporary
file cannot be made in the directory, a call fails while it is made, or it cannot be put in the
place of the sidecar. -/
inductive Refused (device : Device) (fs : FileSystem) (media : Path) (m : Metadata) :
    Error → Prop where
  /-- The metadata cannot be rendered. -/
  | unwritable {e : Yaml.WriteError} (render : Frontmatter.render m = .error e) :
      Refused device fs media m (.unwritable e)
  /-- The directory is missing or is none, or a name is too long. -/
  | io {e : IoError} (rendered : ∃ text, Frontmatter.render m = .ok text)
      (temporary : temporaryPlace fs (pathFor media) = .error e) :
      Refused device fs media m (.io e)
  /-- A call fails on the device before the temporary file is complete. -/
  | broken {text : String} {temporary : Place} {call : Call} {e : Errno}
      (render : Frontmatter.render m = .ok text)
      (place : temporaryPlace fs (pathFor media) = .ok temporary)
      (failure : device.failure? (draft fs (pathFor media) temporary (Text.Utf8.encode text)) =
        some (call, e)) :
      Refused device fs media m
        (.io (callError call e (temporaryPath fs (pathFor media) temporary.name)))
  /-- A directory is in the way, the name of the sidecar is too long, or the device does not let the
  temporary file be renamed. -/
  | persist {text : String} {temporary : Place} {e : Errno}
      (render : Frontmatter.render m = .ok text)
      (place : temporaryPlace fs (pathFor media) = .ok temporary)
      (sound : device.failure? (draft fs (pathFor media) temporary (Text.Utf8.encode text)) = none)
      (target : placing device fs (pathFor media) = .error e) :
      Refused device fs media m (.persist (pathFor media) e)

variable {device : Device}

/-- A write fails for one of the reasons, and with the error for it. -/
theorem writeOn_eq_error_iff {e : Error} :
    (writeOn device fs media m).2 = .error e ↔ Refused device fs media m e := by
  rw [writeOn_result]
  constructor
  · intro h
    have hplanned := planned device fs media m
    generalize Plan.make device fs media m = plan at hplanned h
    cases hplanned with
    | unwritable render =>
      cases h
      exact .unwritable (Frontmatter.render_eq_error_iff.2 render)
    | @homeless text e render temporary =>
      cases h
      exact .io ⟨String.ofList text, Frontmatter.render_ofList render⟩ temporary
    | @broken text temporary call e render place failure =>
      cases h
      refine .broken (Frontmatter.render_ofList render) place ?_
      rwa [Text.Utf8.encode_ofList]
    | @displaced text temporary e render place sound target =>
      cases h
      refine .persist (Frontmatter.render_ofList render) place ?_ target
      rwa [Text.Utf8.encode_ofList]
    | written render temporary sound target => cases h
  · unfold Plan.make
    rintro (render | ⟨⟨text, render⟩, temporary⟩ | ⟨render, place, failure⟩ |
      ⟨render, place, sound, target⟩)
    · simp only [Frontmatter.render_eq_error_iff.1 render]
    · simp only [Frontmatter.render_eq_ok_iff.1 render, temporary]
    · rw [Text.Utf8.encode] at failure
      simp only [Frontmatter.render_eq_ok_iff.1 render, place, failure]
    · rw [Text.Utf8.encode] at sound
      simp only [Frontmatter.render_eq_ok_iff.1 render, place, sound, target]

/-! ## Writes that succeed -/

/-- The mode of a new sidecar is 0666 without the bits of the mask. -/
lemma masked_newMode (fs : FileSystem) : fs.masked newMode = Nat.ldiff newMode fs.umask := by
  refine Nat.eq_of_testBit_eq fun i => ?_
  rw [masked, Nat.testBit_and, Nat.testBit_xor, Nat.testBit_and, Nat.testBit_ldiff]
  rcases Nat.lt_or_ge i 9 with hi | hi
  · have hall : ∀ j < 9, Nat.testBit 0o7777 j = true ∧ Nat.testBit 0o777 j = true := by decide
    obtain ⟨hmost, hleast⟩ := hall i hi
    rw [hmost, hleast, Bool.and_true, Bool.true_xor]
  · have hlow : Nat.testBit newMode i = false := by
      have hsmall : newMode < 2 ^ 9 := by decide
      exact Nat.testBit_lt_two_pow (hsmall.trans_le (Nat.pow_le_pow_right (by decide) hi))
    rw [hlow, Bool.false_and, Bool.false_and]

lemma sidecarMode_of_not_isFile {s : Path} (h : fs.isFile s = false) :
    sidecarMode fs s = fs.masked newMode := by
  unfold FileSystem.isFile at h
  unfold sidecarMode
  split
  · next mode contents hstatus => simp [hstatus, Node.isFile, Node.kind] at h
  · rfl

/-- What is true after the sidecar at a path has been written with a mode and some contents.  The
place is the one to which the path led, a link at its end not being followed. -/
structure Complete (fs : FileSystem) (s : Path) (place : Place) (mode : Nat) (contents : Bytes)
    (fs' : FileSystem) : Prop where
  /-- The sidecar is a regular file with the whole contents. -/
  entry : fs'.entryAt? place.location = some (.file mode contents)
  /-- It keeps the mode of the regular file to which its path led. -/
  kept : ∀ old bytes, fs.status s = .ok (.file old bytes) → mode = old
  /-- If there was none, it has the mode 0666 without the bits of the mask. -/
  fresh : fs.isFile s = false → mode = Nat.ldiff 0o666 fs.umask
  /-- Every other entry is what it was. -/
  elsewhere : ∀ loc, loc ≠ place.location → fs'.entryAt? loc = fs.entryAt? loc
  /-- In particular, so is what a link that stood there led to. -/
  behind : ∀ target l n, fs.entryAt? place.location = some (.link target) →
    fs.resolve true s = .ok (.found l n) → fs'.entryAt? l = fs.entryAt? l
  /-- The path leads to the sidecar, unless it led through the link of which this took the place. -/
  read : leadsThroughItself fs s = false → fs'.read s = .ok contents
  /-- Relative paths start where they started. -/
  current : fs'.current = fs.current
  /-- New files get the modes that they got. -/
  umask : fs'.umask = fs.umask
  /-- Chance says what it said. -/
  chance : fs'.chance = fs.chance

/-- A write that succeeds is complete. -/
theorem complete_of_writeOn {s : Path} (h : (writeOn device fs media m).2 = .ok s) :
    ∃ place text, targetPlace fs s = .ok place ∧ Frontmatter.render m = .ok text ∧
      Complete fs s place (sidecarMode fs s) (Text.Utf8.encode text)
        (writeOn device fs media m).1 := by
  obtain ⟨rfl, text, place, hrender, hplace, hbecomes⟩ := writeOn_ok h
  obtain ⟨xs, bs, hbs, hsteps⟩ := steps_pathFor media
  refine ⟨place, String.ofList text, hplace, Frontmatter.render_ofList hrender, ?_⟩
  rw [Text.Utf8.encode_ofList]
  exact {
    entry := hbecomes.entry_self
    kept := fun old bytes hstatus => by rw [sidecarMode, hstatus]
    fresh := fun hfile => (sidecarMode_of_not_isFile hfile).trans (masked_newMode fs)
    elsewhere := fun loc hne => hbecomes.entry_of_ne hne
    behind := fun target l n hlink hresolve => hbecomes.entry_of_ne fun heq =>
      not_link_of_resolve hresolve target (heq ▸ hlink)
    read := fun hway => read_of_becomes hsteps hplace hbecomes hway
    current := hbecomes.current
    umask := hbecomes.umask
    chance := hbecomes.chance }

/-- Writing a sidecar answers its path or an error, whatever calls fail on the device.

If it answers the path, this is the path of the media file with the ending of sidecars.  The entry
to which it led is a regular file with the rendered metadata and the right mode, and every other
entry is what it was, also what a link that stood there led to.

If it answers an error, the file system is what it was, and it answers one exactly if the metadata
cannot be rendered, the temporary file cannot be made in the directory, a call fails while it is
made, or the sidecar has no place there.  As far as the temporary file may have come when it is
given up, nothing is left of it. -/
theorem write_all_or_nothing (device : Device) (fs : FileSystem) (media : Path) (m : Metadata) :
    (∀ s, (writeOn device fs media m).2 = .ok s →
      s.bytes = media.bytes ++ Binary.ascii ".metadata.md" ∧
      ∃ place text mode, targetPlace fs s = .ok place ∧ Frontmatter.render m = .ok text ∧
        Complete fs s place mode (Text.Utf8.encode text) (writeOn device fs media m).1) ∧
    (∀ e, (writeOn device fs media m).2 = .error e → (writeOn device fs media m).1 = fs) ∧
    (∀ e, (writeOn device fs media m).2 = .error e ↔ Refused device fs media m e) ∧
    ∀ temporary, temporaryPlace fs (pathFor media) = .ok temporary → ∀ contents k,
      fs.applyAll ((draft fs (pathFor media) temporary contents).take k ++ [.remove temporary]) =
        fs := by
  refine ⟨fun s hs => ?_, fun e he => writeOn_error he, fun e => writeOn_eq_error_iff,
    fun temporary htemporary => given_up htemporary⟩
  obtain ⟨place, text, hplace, htext, hcomplete⟩ := complete_of_writeOn hs
  obtain ⟨rfl, -⟩ := writeOn_ok hs
  exact ⟨rfl, place, text, _, hplace, htext, hcomplete⟩

end Sidecar

end Sidecars
