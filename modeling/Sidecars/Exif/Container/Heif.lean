import Sidecars.Binary
import Sidecars.Exif.Error

/-!
# The EXIF block of a HEIF file

A HEIF file is a sequence of boxes, each with its size and type in front.  The file type box says
that it is HEIF, and the metadata box, itself a sequence of boxes, lists items and where each of
them is: at a position of the file or in the item data box.  The block is in the item of type
`Exif`, behind a number that says how many bytes to leave out before it.
-/

namespace Sidecars.Exif.Heif

open Binary

/-! ## Boxes -/

/-- A box without its size. -/
structure Box where
  /-- The four letters that say what the box is for. -/
  kind : Bytes
  /-- The contents. -/
  body : Bytes
deriving DecidableEq, Repr

/-- The first `n` bytes of a box and what follows them. -/
def takeBytes (n : Nat) (bs : Bytes) : Except Error (Bytes × Bytes) :=
  match cut? n bs with
  | some r => .ok r
  | none => .error .boxTooSmall

/-- A number of `n` bytes and what follows it. -/
def takeNat (n : Nat) (bs : Bytes) : Except Error (Nat × Bytes) := do
  let (xs, rest) ← takeBytes n bs
  return (bigNat xs, rest)

/-- The version of a box, which stands with three bytes of flags at its start. -/
def takeVersion (bs : Bytes) : Except Error (Nat × Bytes) := do
  let (n, rest) ← takeNat 4 bs
  return (n >>> 24, rest)

/-- The first box of a sequence and what follows it.  Size 0 means the rest of the sequence, and
size 1 a size of eight bytes behind the type. -/
def takeBox (bs : Bytes) : Except Error (Box × Bytes) := do
  let (size, rest) ← takeNat 4 bs
  let (kind, rest) ← takeBytes 4 rest
  if size = 0 then return (⟨kind, rest⟩, [])
  let (size, header, rest) ←
    if size = 1 then do
      let (large, rest) ← takeNat 8 rest
      pure (large, 16, rest)
    else pure (size, 8, rest)
  if size < header then throw .boxSize
  let (body, rest) ← takeBytes (size - header) rest
  return (⟨kind, body⟩, rest)

/-- Takes the boxes of a sequence one after the other; `fuel` is more than their number. -/
def foldBoxes {σ : Type} (step : σ → Box → Except Error σ) : Nat → σ → Bytes → Except Error σ
  | 0, s, _ => .ok s
  | fuel + 1, s, bs => do
    if bs = [] then return s
    let (box, rest) ← takeBox bs
    foldBoxes step fuel (← step s box) rest

/-! ## The file type -/

/-- The kinds of HEIF file that may hold a block. -/
def brands : List Bytes := [ascii "mif1", ascii "msf1"]

/-- The words of four bytes at the start of a sequence. -/
def words (bs : Bytes) : List Bytes :=
  match bs with
  | a :: b :: c :: d :: rest => [a, b, c, d] :: words rest
  | _ => []

/-- Whether a file type box names one of the brands behind its first eight bytes. -/
def namesBrand (body : Bytes) : Bool :=
  (words (body.drop 8)).any (brands.contains ·)

/-- Whether the first file type box in a sequence names one of the brands. -/
def isHeifFrom : Nat → Bytes → Bool
  | 0, _ => false
  | fuel + 1, bs =>
    match takeBox bs with
    | .error _ => false
    | .ok (box, rest) =>
      if box.kind = ascii "ftyp" then 8 ≤ box.body.length && namesBrand box.body
      else isHeifFrom fuel rest

/-- Whether a file that starts with these bytes is HEIF. -/
def isHeif (bs : Bytes) : Bool := isHeifFrom (bs.length + 1) bs

/-- Checks a file type box. -/
def checkFileType (body : Bytes) : Except Error Unit := do
  let _ ← takeBytes 8 body
  if namesBrand body then return else throw .noBrand

/-! ## Items -/

/-- What is known of the items while a metadata box is read. -/
structure Items where
  /-- The number of the item that holds the block. -/
  number : Option Nat
  /-- The box of item locations. -/
  locations : Option Bytes
  /-- The contents of the item data box. -/
  itemData : Option Bytes
deriving DecidableEq, Repr

/-- The number of the item that an item description is about, if its type is `Exif`. -/
def describedItem? (body : Bytes) : Except Error (Option Nat) := do
  let (version, rest) ← takeVersion body
  let (number, rest) ←
    if version = 2 then takeNat 2 rest
    else if version = 3 then takeNat 4 rest
    else throw .itemInfoVersion
  let (_, rest) ← takeBytes 2 rest
  let (kind, _) ← takeBytes 4 rest
  return if kind = ascii "Exif" then some number else none

/-- Reads `count` item descriptions, with the number of the last item of the block so far. -/
def readDescriptions : Nat → Option Nat → Bytes → Except Error (Option Nat)
  | 0, found, _ => .ok found
  | count + 1, found, bs => do
    let (box, rest) ← takeBox bs
    let found ←
      if box.kind = ascii "infe" then do pure ((← describedItem? box.body).or found)
      else pure found
    readDescriptions count found rest

/-- Reads a box of item descriptions. -/
def readItemInfo (found : Option Nat) (body : Bytes) : Except Error (Option Nat) := do
  let (version, rest) ← takeVersion body
  let (count, rest) ← takeNat (if version = 0 then 2 else 4) rest
  readDescriptions count found rest

/-- Reads one box of a metadata box. -/
def Items.read (items : Items) (box : Box) : Except Error Items := do
  if box.kind = ascii "idat" then return { items with itemData := some box.body }
  else if box.kind = ascii "iinf" then
    return { items with number := ← readItemInfo items.number box.body }
  else if box.kind = ascii "iloc" then return { items with locations := some box.body }
  else return items

/-! ## Locations -/

/-- A piece of an item. -/
structure Extent where
  /-- Where the piece starts, counted from the base of the item. -/
  offset : Nat
  /-- How long the piece is; zero for all that follows. -/
  length : Nat
deriving DecidableEq, Repr

/-- Where an item is. -/
structure Location where
  /-- What positions are counted in. -/
  method : Nat
  /-- What is added to every position. -/
  base : Nat
  /-- The pieces of the item. -/
  extents : List Extent
deriving DecidableEq, Repr

/-- The widths of the numbers in a box of item locations. -/
structure Widths where
  /-- The width of a position. -/
  offset : Nat
  /-- The width of a length. -/
  length : Nat
  /-- The width of a base. -/
  base : Nat
  /-- The width of an index. -/
  index : Nat
deriving DecidableEq, Repr

/-- A number of 0, 4 or 8 bytes; `name` is what a wrong width is called. -/
def takeSized (name : String) (width : Nat) (bs : Bytes) : Except Error (Nat × Bytes) :=
  if width = 0 then .ok (0, bs)
  else if width = 4 ∨ width = 8 then takeNat width bs
  else .error (.numberWidth name)

/-- Reads `count` pieces. -/
def readExtents (version : Nat) (w : Widths) : Nat → Bytes → Except Error (List Extent × Bytes)
  | 0, bs => .ok ([], bs)
  | count + 1, bs => do
    let (_, bs) ← if version = 0 then pure (0, bs) else takeSized "index_size" w.index bs
    let (offset, bs) ← takeSized "offset_size" w.offset bs
    let (length, bs) ← takeSized "length_size" w.length bs
    let (extents, bs) ← readExtents version w count bs
    return (⟨offset, length⟩ :: extents, bs)

/-- Reads `count` locations and finds that of an item. -/
def readLocations (version item : Nat) (w : Widths) :
    Nat → Option Location → Bytes → Except Error (Option Location)
  | 0, found, _ => .ok found
  | count + 1, found, bs => do
    let (number, bs) ← takeNat (if version = 2 then 4 else 2) bs
    let (method, bs) ← if version = 0 then pure (0, bs) else takeNat 2 bs
    let method := method % 16
    let (reference, bs) ← takeNat 2 bs
    if method = 0 ∧ reference ≠ 0 then throw .externalData
    let (base, bs) ← takeSized "base_offset_size" w.base bs
    let (pieces, bs) ← takeNat 2 bs
    if number = item then do
      let (extents, bs) ← readExtents version w pieces bs
      readLocations version item w count (some ⟨method, base, extents⟩) bs
    else do
      let (_, bs) ← takeBytes ((w.index + w.offset + w.length) * pieces) bs
      readLocations version item w count found bs

/-- The location of an item. -/
def locate (item : Nat) (body : Bytes) : Except Error Location := do
  let (version, bs) ← takeVersion body
  let (sizes, bs) ← takeNat 2 bs
  let w : Widths := ⟨sizes / 4096, sizes / 256 % 16, sizes / 16 % 16, sizes % 16⟩
  if 2 < version then throw .locationVersion
  let (count, bs) ← takeNat (if version = 2 then 4 else 2) bs
  match ← readLocations version item w count none bs with
  | some location => return location
  | none => throw .itemNotLocated

/-! ## Contents -/

/-- The largest number of eight bytes. -/
def maxNat : Nat := 0xFFFFFFFFFFFFFFFF

/-- The last position of any file. -/
def maxPosition : Nat := 0x7FFFFFFFFFFFFFFF

/-- The size of the largest block. -/
def maxSize : Nat := 65535

/-- The pieces of an item that stands in the file itself, after those gathered so far. -/
def fromFile (file : Bytes) (base : Nat) : List Extent → Bytes → Except Error Bytes
  | [], gathered => .ok gathered
  | e :: es, gathered => do
    let start := base + e.offset
    if maxNat < start then throw .offsetOverflow
    if maxPosition < start then throw (.io (.os .invalidArgument))
    let piece := if e.length = 0 then file.drop start else slice file start e.length
    if piece.length < e.length then throw .brokenHeif
    let gathered := gathered ++ piece
    if maxSize < gathered.length then throw .tooLarge
    fromFile file base es gathered

/-- The pieces of an item that stands in the item data box, after those gathered so far. -/
def fromItemData (itemData : Bytes) (base : Nat) : List Extent → Bytes → Except Error Bytes
  | [], gathered => .ok gathered
  | e :: es, gathered => do
    let start := base + e.offset
    if maxNat < start then throw .offsetOverflow
    if maxNat < start + e.length then throw .lengthOverflow
    if itemData.length < start + e.length then throw .outOfItemData
    let piece := if e.length = 0 then itemData.drop start else slice itemData start e.length
    let gathered := gathered ++ piece
    if maxSize < gathered.length then throw .tooLarge
    fromItemData itemData base es gathered

/-- The item of the block, as a metadata box of the file places it; none if there is no such
item. -/
def item? (file body : Bytes) : Except Error (Option Bytes) := do
  let (version, rest) ← takeVersion body
  if version ≠ 0 then throw .metaVersion
  let items ← foldBoxes Items.read (rest.length + 1) ⟨none, none, none⟩ rest
  match items.number with
  | none => return none
  | some number =>
    let some locations := items.locations | throw .noLocations
    let location ← locate number locations
    match location.method with
    | 0 => return some (← fromFile file location.base location.extents [])
    | 1 =>
      let some itemData := items.itemData | throw .noItemData
      return some (← fromItemData itemData location.base location.extents [])
    | 2 => throw .itemInItem
    | _ => throw .constructionMethod

/-- The block in an item: what follows the number at its start and as many bytes as it says. -/
def blockOfItem (item : Bytes) : Except Error Bytes :=
  match cut? 4 item with
  | none => .error .dataBlockTooSmall
  | some (offset, rest) =>
    if rest.length < bigNat offset then .error .headerOffset
    else .ok (rest.drop (bigNat offset))

/-! ## The file -/

/-- The header of a box of the file: its type, the size of its contents unless they are all that
follows, and what follows the header. -/
def takeHeader (bs : Bytes) : Except Error (Bytes × Option Nat × Bytes) := do
  let some (header, rest) := cut? 8 bs | throw .brokenHeif
  let kind := header.drop 4
  match bigNat (header.take 4) with
  | 0 => return (kind, none, rest)
  | 1 =>
    let some (large, rest) := cut? 8 rest | throw .brokenHeif
    if bigNat large < 16 then throw .boxSize
    return (kind, some (bigNat large - 16), rest)
  | size =>
    if size < 8 then throw .boxSize
    return (kind, some (size - 8), rest)

/-- The contents of a box of the file, of the given size, and what follows them. -/
def takeContents (size : Option Nat) (bs : Bytes) : Except Error (Bytes × Bytes) :=
  match size with
  | none => .ok (bs, [])
  | some n =>
    match cut? n bs with
    | some r => .ok r
    | none => .error .brokenHeif

/-- Reads the boxes of a file up to the metadata box; `checked` says that the file type has been
seen, and `fuel` is more than the number of boxes. -/
def blockFrom? (file : Bytes) : Nat → (checked : Bool) → Bytes → Except Error (Option Bytes)
  | 0, _, _ => .ok none
  | fuel + 1, checked, bs => do
    if bs = [] then return none
    let (kind, size, rest) ← takeHeader bs
    if kind = ascii "ftyp" then
      let (body, rest) ← takeContents size rest
      checkFileType body
      blockFrom? file fuel true rest
    else if kind = ascii "meta" then
      if !checked then throw .earlyMeta
      let (body, _) ← takeContents size rest
      match ← item? file body with
      | none => return none
      | some item => return some (← blockOfItem item)
    else
      match size with
      | none => return none
      | some n =>
        if maxPosition < n then throw .boxTooLarge
        if maxPosition < file.length - rest.length + n then throw (.io (.os .invalidArgument))
        blockFrom? file fuel checked (rest.drop n)

/-- The block of a HEIF file. -/
def block? (file : Bytes) : Except Error (Option Bytes) :=
  blockFrom? file (file.length + 1) false file

end Sidecars.Exif.Heif
