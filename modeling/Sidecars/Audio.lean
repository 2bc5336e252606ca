import Sidecars.Audio.Flac
import Sidecars.Audio.Mp4
import Sidecars.Audio.Mpeg
import Sidecars.Audio.Wav

/-!
# Recordings

The metadata of a recording is its artist, its album and its title, as the tag that counts names
them; all three are there, and what the tag does not name is null.
-/

namespace Sidecars.Audio

/-- The tags of a file of a format. -/
def Format.tags : Format → Bytes → Except Error (List Tag)
  | .mpeg => Mpeg.tags
  | .wav => Wav.tags
  | .flac => Flac.tags
  | .mp4 => Mp4.tags

/-- The metadata of the file at a path with the given contents.  The path tells the format. -/
def metadata (path : Path) (file : Bytes) : Except Error Metadata :=
  match Format.ofPath? path with
  | none => .error .unknownFormat
  | some format => do return describe (countedTag? format (← format.tags file))

/-- The error for a directory at a path, which can be opened but not read.  The reader of FLAC files
first steps back to where it looked for another tag, which fails differently. -/
def directoryError (path : Path) : Error :=
  match Format.ofPath? path with
  | none => .unknownFormat
  | some .flac => .io (.os .invalidArgument)
  | some _ => .io (.os .isDirectory)

end Sidecars.Audio
