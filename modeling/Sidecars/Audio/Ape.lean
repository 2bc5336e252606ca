import Sidecars.Audio.Tag
import Sidecars.Audio.Text

/-!
# APE tags

An APE tag is a list of items, each a size, flags, a key that ends with a zero, and a value.  A
footer of 32 bytes stands behind the items, and in later versions a header like it before them.  An
item takes the place of an earlier one with the same key.
-/

namespace Sidecars.Audio.Ape

open Binary

/-- The letters at the start of a header and of a footer. -/
def signature : Bytes := ascii "APETAGEX"

/-- The size of a header and of a footer. -/
def footerSize : Nat := 32

/-- What a header or a footer says. -/
structure Header where
  /-- The size of the items with everything around them. -/
  size : Nat
  /-- The number of items. -/
  count : Nat
deriving DecidableEq, Repr

/-- The version from which on a tag has a header. -/
def versionWithHeader : Nat := 2000

/-- The header that the numbers behind the signature make: the version, the size of the items and
the footer, and the number of items. -/
def readNumbers (fileSize : Nat) (bs : Bytes) : Except Error Header :=
  let version := littleNat (slice bs 0 4)
  let size := littleNat (slice bs 4 4)
  let count := littleNat (slice bs 8 4)
  if size < footerSize then .error (.ape .size)
  else
    let size := if version = versionWithHeader then min (size + footerSize) 0xFFFFFFFF else size
    if fileSize < size then .error .sizeMismatch else .ok ⟨size, count⟩

/-! ## Items -/

/-- The keys that no item may have. -/
def illegalKeys : List String := ["ID3", "TAG", "OGGS", "MP+"]

/-- The keys of the items about the subjects. -/
def subjectKeys : List (String × Subject) :=
  [("ARTIST", .artist), ("ALBUM", .album), ("TITLE", .title)]

/-- A text in capital letters. -/
def capitals (s : List Char) : String := String.ofList (s.map Char.toUpper)

/-- An item with its key in capital letters. -/
structure KeyedItem where
  /-- The key in capital letters. -/
  key : String
  /-- The value, if it is text. -/
  text : Option String
deriving DecidableEq, Repr

/-- The value of an item of a type: text, bytes, or the place of something. -/
def readItemValue (kind : Nat) (bs : Bytes) : Except Error (Option String) :=
  match kind with
  | 0 =>
    match utf8? bs with
    | some s => .ok (some (String.ofList s))
    | none => .error (.ape .textNotUtf8)
  | 1 => .ok none
  | 2 => if (utf8? bs).isSome then .ok none else .error (.ape .locatorNotUtf8)
  | _ => .error (.ape .itemType)

/-- Takes a key with the zero behind it. -/
def readKey : Reading Bytes := do
  let bs ← Reading.left
  let key := bs.takeWhile (· ≠ 0)
  Reading.take (key.length + 1)

/-- Takes `count` items, after those gathered so far.  `room` is how much the items that are left
may take. -/
def readItems : (count : Nat) → (room : Nat) → List KeyedItem → Reading (List KeyedItem)
  | 0, _, items => return items
  | count + 1, room, items => do
    if room < 11 then return items
    let size ← Reading.littleNumber 4
    if room < size then throw .sizeMismatch
    let room := room - 4
    let flags ← Reading.littleNumber 4
    let some key := utf8? (← readKey).dropLast | throw (.ape .keyNotUtf8)
    if illegalKeys.contains (capitals key) then throw (.ape .illegalKey)
    let length := (Text.Utf8.encodeChars key).length
    if size = 0 ∨ length < 2 ∨ 255 < length then readItems count room items
    else
      let value ← Reading.take size
      let text ← Reading.ofExcept (readItemValue (flags / 2 % 4) value)
      if key.any fun c => c < ' ' || '~' < c then throw (.ape .keyCharacters)
      let item : KeyedItem := ⟨capitals key, text⟩
      readItems count (room - size) (items.filter (·.key ≠ item.key) ++ [item])

/-- The tag that items make. -/
def tagOf (items : List KeyedItem) : Tag :=
  ⟨.ape, items.filterMap fun i => (subjectKeys.lookup i.key).map fun s => ⟨s, i.text⟩⟩

/-- Takes a tag behind the signature of its header. -/
def readLeading (fileSize : Nat) : Reading Tag := do
  let numbers ← Reading.take 12
  let h ← Reading.ofExcept (readNumbers fileSize numbers)
  Reading.skip 12
  let items ← readItems h.count h.size []
  Reading.skip footerSize
  return tagOf items

/-- The tag whose footer ends at a position of a file. -/
def ofFooter? (file : Bytes) (stop : Nat) : Except Error (Option Tag) := do
  let footer := slice file (stop - footerSize) footerSize
  if !startsWith signature footer then return none
  let numbers := footer.drop signature.length
  let declared := littleNat (slice numbers 4 4)
  if footerSize ≤ declared ∧ stop < declared then throw (.io (.os .invalidArgument))
  let h ← readNumbers file.length numbers
  let (items, left) := (readItems h.count h.size []).on (.ofBytes (file.drop (stop - declared)))
  let items ← items
  if file.length - left.bytes.length + footerSize < h.size then
    throw (.io (.os .invalidArgument))
  return some (tagOf items)

end Sidecars.Audio.Ape
