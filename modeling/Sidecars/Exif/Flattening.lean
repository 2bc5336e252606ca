import Sidecars.Exif.Shown
import Sidecars.Exif.Tiff
import Sidecars.Exif.Container
import Sidecars.Metadata

/-!
# From fields to metadata

The fields about the image itself become metadata: a mapping by the names of their tags.  The
position and the data on interoperability have mappings of their own, which come last.  A name
that occurs again keeps its place and takes the later value.  Fields about other images of the
file, such as its thumbnail, are left out.
-/

namespace Sidecars.Exif

open Yaml (Value Entries)

/-- A list of values: the value itself when there is exactly one. -/
def collapse : List Value → Value
  | [v] => v
  | vs => .sequence vs

/-- A fraction as two numbers with a slash between them. -/
def fraction (num den : Int) : Value :=
  .string (toString num ++ "/" ++ toString den)

/-- A text without the zeros at its end. -/
def withoutEndingZeros (s : String) : String :=
  String.ofList (s.toList.reverse.dropWhile (· = '\x00')).reverse

/-- The value of a field in metadata. -/
def Field.metadataValue (f : Field) : Value :=
  match f.value with
  | .texts lines =>
    collapse (lines.map fun l => .string (withoutEndingZeros (Text.Utf8.decodeLossy l)))
  | .bytes xs => collapse (xs.map fun n => .int n.toNat)
  | .shorts xs => collapse (xs.map fun n => .int n.toNat)
  | .longs xs => collapse (xs.map fun n => .int n.toNat)
  | .signedBytes xs => collapse (xs.map fun n => .int n.toInt)
  | .signedShorts xs => collapse (xs.map fun n => .int n.toInt)
  | .signedLongs xs => collapse (xs.map fun n => .int n.toInt)
  | .ratios xs => collapse (xs.map fun r => fraction r.1.toNat r.2.toNat)
  | .signedRatios xs => collapse (xs.map fun r => fraction r.1.toInt r.2.toInt)
  | .singles xs => collapse (xs.map fun bits => .float (Binary64.ofSingle bits.toNat))
  | .doubles xs => collapse (xs.map fun bits => .float ⟨bits⟩)
  | .undefined _ | .unknown _ _ _ => .string (shownText f.tag f.value)

/-- The key under which the position stands. -/
def gpsKey : String := "GPSInfo"

/-- The key under which the data on interoperability stands. -/
def interopKey : String := "InteropInfo"

/-- The mapping of some fields. -/
def gather (fields : List Field) : Entries :=
  Entries.ofPairs (fields.map fun f => (.string f.tag.name, f.metadataValue))

/-- A mapping with another one under a key, unless that is empty. -/
def nest (es : Entries) (key : String) (inner : Entries) : Entries :=
  if inner = [] then es else Entries.insert es (.string key) (.mapping inner)

/-- Metadata from fields. -/
def flatten (fields : List Field) : Metadata :=
  let own := fields.filter (·.image = 0)
  let gps := own.filter (·.tag.context = .gps)
  let interop := own.filter (·.tag.context = .interop)
  let top := own.filter fun f => f.tag.context ≠ .gps && f.tag.context ≠ .interop
  nest (nest (gather top) gpsKey (gather gps)) interopKey (gather interop)

/-- The metadata of an image file; none if the file holds no block or an empty one. -/
def metadata? (file : Bytes) : Except Error (Option Metadata) := do
  match ← block? file with
  | none => return none
  | some block =>
    let metadata := flatten (← Tiff.readFields block)
    return if metadata = [] then none else some metadata

end Sidecars.Exif
