import Sidecars.Path
import Sidecars.Text.LowerCase

/-!
# Media files

A path together with the extension by which it is routed: decoded, in lower case and without the
dot.
-/

namespace Sidecars

/-- The two kinds of media. -/
inductive MediaKind where
  /-- A picture, whose metadata is its EXIF block. -/
  | image
  /-- A recording, whose metadata is its tag. -/
  | audio
deriving DecidableEq, Repr

/-- The word for a kind of media in messages. -/
def MediaKind.word : MediaKind → String
  | .image => "image"
  | .audio => "audio"

/-- A file as the dispatcher sees it. -/
structure MediaFile where
  /-- Where the file is. -/
  path : Path
  /-- The extension in lower case, without the dot; empty when there is none. -/
  extension : String
deriving DecidableEq, Repr

namespace MediaFile

/-- The media file at a path. -/
def ofPath (path : Path) : MediaFile where
  path := path
  extension :=
    match path.extension? with
    | some bytes => Text.LowerCase.lower (Text.Utf8.decodeLossy bytes)
    | none => ""

/-- The extension with its dot; empty when there is none. -/
def dotted (file : MediaFile) : String :=
  if file.extension = "" then "" else "." ++ file.extension

end MediaFile
end Sidecars
