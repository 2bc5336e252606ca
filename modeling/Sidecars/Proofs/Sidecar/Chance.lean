import Sidecars.Log
import Sidecars.Proofs.Sidecar.Writing
import Sidecars.Proofs.Text.Utf8

/-!
# What chance decides

Chance gives a temporary file its name.  The file is gone when the sidecar has been written, or has
not, so all that is left of its name is what an error tells.

* `temporaryWord` is such a name as it is shown, and `exists_quoted_join` says where it stands in
  the message of an error.
* `SameButName` is said of texts, records and errors that differ at most in such a name.
* `write_withChance` says that a write leaves the same and answers the same, up to the name,
  whatever chance says.
-/

namespace Sidecars

namespace Sidecar

/-- The name of a temporary file as it is shown. -/
def temporaryWord (k : Nat) : String := (⟨(temporaryName k).bytes⟩ : Path).display

lemma pieces_append_temporaryName (start : Bytes) (k : Nat) :
    Text.Utf8.pieces (start ++ (temporaryName k).bytes) = Text.Utf8.pieces start ++
      (temporaryName k).bytes.map fun b => .char (Char.ofNat b.toNat) :=
  Text.Utf8.pieces_append_ascii (fun _ hb => (plain_of_mem_temporaryName hb).2.1) start

lemma temporaryWord_eq (k : Nat) :
    temporaryWord k = String.ofList ((temporaryName k).bytes.map fun b => Char.ofNat b.toNat) := by
  have hpieces := pieces_append_temporaryName [] k
  rw [List.nil_append] at hpieces
  rw [temporaryWord, Path.display, Text.Utf8.decodeLossy, hpieces, List.map_append, List.map_map]
  rfl

/-- A path to a temporary file ends with its name when it is shown. -/
lemma exists_quoted_join (p : Path) :
    ∃ before, ∀ k, (p.join (temporaryName k).bytes).quoted = before ++ temporaryWord k ++ "\"" := by
  obtain ⟨start, hstart⟩ := Path.exists_join_eq p
  refine ⟨"\"" ++ String.ofList ((Text.Utf8.pieces start).flatMap Text.Escaped.escapePiece),
    fun k => ?_⟩
  have hname :
      ((temporaryName k).bytes.map fun b => Text.Utf8.Piece.char (Char.ofNat b.toNat)).flatMap
        Text.Escaped.escapePiece = (temporaryName k).bytes.map fun b => Char.ofNat b.toNat := by
    rw [List.flatMap_map, List.map_eq_flatMap]
    exact List.flatMap_congr fun b hb => (plain_of_mem_temporaryName hb).2.2
  rw [hstart, Path.quoted, Text.Escaped.quoteBytes, pieces_append_temporaryName,
    List.flatMap_append, hname, temporaryWord_eq, String.ofList_append, ← String.append_assoc]

end Sidecar

/-! ## Texts, records and errors -/

open Sidecar (temporaryName temporaryWord)

/-- Two texts that differ at most in the name of a temporary file. -/
def SameButName (text text' : String) : Prop :=
  text = text' ∨ ∃ before j k after,
    text = before ++ temporaryWord j ++ after ∧ text' = before ++ temporaryWord k ++ after

lemma SameButName.prepend {text text' : String} (h : SameButName text text') (start : String) :
    SameButName (start ++ text) (start ++ text') := by
  rcases h with rfl | ⟨before, j, k, after, rfl, rfl⟩
  · exact .inl rfl
  · exact .inr ⟨start ++ before, j, k, after, by simp only [String.append_assoc],
      by simp only [String.append_assoc]⟩

/-- Two records of the same level whose texts differ at most in the name of a temporary file. -/
structure LogRecord.SameButName (r r' : LogRecord) : Prop where
  level : r.level = r'.level
  text : Sidecars.SameButName r.text r'.text

lemma LogRecord.SameButName.refl (r : LogRecord) : r.SameButName r := ⟨rfl, .inl rfl⟩

/-- Two errors that differ at most in the name of a temporary file. -/
inductive Error.SameButName : Error → Error → Prop where
  /-- They are the same. -/
  | refl (e : Error) : SameButName e e
  /-- They are about temporary files in one directory. -/
  | temporary (e : Errno) (directory : Path) (j k : Nat) :
      SameButName (.io (.temporary e (directory.join (temporaryName j).bytes)))
        (.io (.temporary e (directory.join (temporaryName k).bytes)))

lemma Error.SameButName.message {e e' : Error} (h : e.SameButName e') :
    Sidecars.SameButName e.message e'.message := by
  cases h with
  | refl => exact .inl rfl
  | temporary e directory j k =>
    obtain ⟨before, hbefore⟩ := Sidecar.exists_quoted_join directory
    have hmessage (p : Path) : Error.message (.io (.temporary e p)) =
        "I/O error: " ++ (e.message ++ (" at path " ++ p.quoted)) := by
      unfold Error.message IoError.message
      simp only [toString, String.append_assoc]
    have hquoted : Sidecars.SameButName (before ++ temporaryWord j ++ "\"")
        (before ++ temporaryWord k ++ "\"") := .inr ⟨before, j, k, "\"", rfl, rfl⟩
    rw [hmessage, hmessage, hbefore, hbefore]
    exact ((hquoted.prepend _).prepend _).prepend _

/-! ## Writing -/

/-- Two answers that differ at most in the name of a temporary file. -/
inductive Sidecar.SameAnswer : Except Error Path → Except Error Path → Prop where
  /-- The sidecar is written. -/
  | ok (s : Path) : SameAnswer (.ok s) (.ok s)
  /-- It is not. -/
  | error {e e' : Error} (h : e.SameButName e') : SameAnswer (.error e) (.error e')

namespace Sidecar

open FileSystem

variable (fs : FileSystem) (media : Path) (m : Metadata) (chance : Path → Nat)

lemma firstPlace_withChance (target : Path) (tries k : Nat) :
    firstPlace (fs.withChance chance) target tries k = firstPlace fs target tries k := by
  induction tries generalizing k with
  | zero => rfl
  | succ tries ih =>
    have hpath (name : Name) : temporaryPath (fs.withChance chance) target name =
        temporaryPath fs target name := rfl
    simp only [firstPlace, hpath, resolve_withChance, ih]

/-- What a write answers depends on chance only in the name of a temporary file. -/
lemma sameAnswer_withChance :
    SameAnswer (write fs media m).2 (write (fs.withChance chance) media m).2 := by
  have htarget : targetPlace (fs.withChance chance) (pathFor media) =
      targetPlace fs (pathFor media) := rfl
  rw [write_result, write_result, htarget, temporaryPlace, temporaryPlace, firstPlace_withChance]
  cases Frontmatter.renderChars m with
  | error e => exact .error (.refl _)
  | ok text =>
    rcases temporaryPlace_cases fs (pathFor media) with ⟨e, herror⟩ | htaken | ⟨l, hdir, hfree⟩
    · simp only [herror]
      exact .error (.temporary _ _ _ _)
    · simp only [htaken]
      exact .error (.refl _)
    · obtain ⟨j, hj, -⟩ := hfree (fs.chance (pathFor media))
      obtain ⟨k, hk, -⟩ := hfree ((fs.withChance chance).chance (pathFor media))
      simp only [hj, hk]
      cases targetPlace fs (pathFor media) with
      | error e => exact .error (.refl _)
      | ok place => exact .ok _

/-- A write leaves the same file system, and answers the same up to the name of the temporary file,
whatever chance says. -/
theorem write_withChance :
    (write (fs.withChance chance) media m).1 = (write fs media m).1.withChance chance ∧
      SameAnswer (write fs media m).2 (write (fs.withChance chance) media m).2 := by
  have hanswer := sameAnswer_withChance fs media m chance
  refine ⟨?_, hanswer⟩
  have hcases := writeOn_cases .sound fs media m
  have hcases' := writeOn_cases .sound (fs.withChance chance) media m
  rw [write, write] at hanswer ⊢
  rcases hcases with ⟨e, he⟩ | ⟨text, place, htext, hplace, hwrite⟩
  · rcases hcases' with ⟨e', he'⟩ | ⟨text', place', -, -, hwrite'⟩
    · rw [he, he']
    · rw [he, hwrite'] at hanswer
      cases hanswer
  · rcases hcases' with ⟨e', he'⟩ | ⟨text', place', htext', hplace', hwrite'⟩
    · rw [hwrite, he'] at hanswer
      cases hanswer
    · obtain rfl : text = text' := Except.ok.inj (htext.symm.trans htext')
      obtain rfl : place = place' := Except.ok.inj (hplace.symm.trans hplace')
      rw [hwrite, hwrite']
      rfl

end Sidecar

end Sidecars
