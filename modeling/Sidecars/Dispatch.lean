import Sidecars.Audio
import Sidecars.Error
import Sidecars.Exif.Flattening
import Sidecars.FileSystem.Lookup
import Sidecars.MediaFile

/-!
# Routing files to extractors

A dispatcher is a list of routes in the order of their registration.  A file goes the first route
that lists its extension; a file without an extension goes none.

* An `Extractor` looks into the file at a path and tells what it found there.
* `Dispatcher.standard` has the routes for images and recordings.
-/

namespace Sidecars

/-- What an extractor finds in a file that it can read. -/
inductive Finding where
  /-- Metadata. -/
  | metadata (m : Metadata)
  /-- No metadata. -/
  | nothing
  /-- No metadata, the file being of a kind that never has any. -/
  | never
deriving Repr

/-- The metadata that was found. -/
def Finding.metadata? : Finding → Option Metadata
  | .metadata m => some m
  | .nothing | .never => none

/-- A way to find the metadata of the file at a path. -/
abbrev Extractor := FileSystem → Path → Except Error Finding

/-- Finds the EXIF block of an image, whatever the image is called. -/
def imageExtractor : Extractor := fun fs p =>
  match fs.read p with
  | .error e => .error (.io (.os e))
  | .ok file =>
    if Exif.Container.isBlockless file then .ok .never
    else
      match Exif.metadata? file with
      | .error e => .error (.exif e)
      | .ok none => .ok .nothing
      | .ok (some m) => .ok (.metadata m)

/-- Finds the artist, the album and the title of a recording.  A directory can be opened like a
file, and then fails in the way of the format for which its name stands. -/
def audioExtractor : Extractor := fun fs p =>
  match fs.read p with
  | .error .isDirectory => .error (.tags (Audio.directoryError p))
  | .error e => .error (.tags (.io (.os e)))
  | .ok file =>
    match Audio.metadata p file with
    | .error e => .error (.tags e)
    | .ok m => .ok (.metadata m)

/-- The files of some extensions, and what is done with them. -/
structure Route where
  /-- The kind of media. -/
  kind : MediaKind
  /-- The extensions, in lower case and without their dots. -/
  extensions : List String
  /-- How the metadata is found. -/
  extractor : Extractor

/-- Routes in the order of their registration. -/
abbrev Dispatcher := List Route

namespace Dispatcher

/-- A dispatcher with one more route.  The extensions may be given in any case. -/
def register (d : Dispatcher) (kind : MediaKind) (extensions : List String)
    (extractor : Extractor) : Dispatcher :=
  d ++ [⟨kind, extensions.map Text.LowerCase.lower, extractor⟩]

/-- The route of a file. -/
def route? (d : Dispatcher) (file : MediaFile) : Option Route :=
  if file.extension = "" then none
  else d.find? fun route => route.extensions.contains file.extension

/-- The extensions of images. -/
def imageExtensions : List String := ["jpg", "jpeg", "png", "gif", "bmp", "heic"]

/-- The extensions of recordings. -/
def audioExtensions : List String := ["mp3", "wav", "flac", "m4a"]

/-- The dispatcher for images and recordings. -/
def standard : Dispatcher :=
  register (register [] .image imageExtensions imageExtractor) .audio audioExtensions audioExtractor

end Dispatcher
end Sidecars
