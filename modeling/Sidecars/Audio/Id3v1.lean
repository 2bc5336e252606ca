import Sidecars.Audio.Tag
import Sidecars.Audio.Text

/-!
# ID3v1 tags

The last 128 bytes of a file, when they start with `TAG`.  The title, the artist and the album have
thirty bytes each.
-/

namespace Sidecars.Audio.Id3v1

open Binary

/-- The size of a tag. -/
def size : Nat := 128

/-- The letters at the start of a tag. -/
def signature : Bytes := ascii "TAG"

/-- The text of a field: its bytes other than zero, none if there are no others. -/
def field (bs : Bytes) : Option String :=
  let cs := (bs.filter (· ≠ 0)).map fun b => Char.ofNat b.toNat
  if cs = [] then none else some (String.ofList cs)

/-- The tag at the end of a file. -/
def ofFile? (file : Bytes) : Option Tag :=
  let bs := file.drop (file.length - size)
  if file.length < size || !startsWith signature bs then none
  else
    let item (subject : Subject) (start : Nat) : List Item :=
      ((field (slice bs start 30)).map fun s => [⟨subject, some s⟩]).getD []
    some ⟨.id3v1, item .title 3 ++ item .artist 33 ++ item .album 63⟩

end Sidecars.Audio.Id3v1
