import Sidecars.Audio
import Sidecars.Audio.Ape
import Sidecars.Audio.Error
import Sidecars.Audio.Flac
import Sidecars.Audio.Id3v1
import Sidecars.Audio.Id3v2
import Sidecars.Audio.Id3v2.Frame
import Sidecars.Audio.Id3v2.Header
import Sidecars.Audio.Mp4
import Sidecars.Audio.Mp4.Atom
import Sidecars.Audio.Mp4.ItemList
import Sidecars.Audio.Mpeg
import Sidecars.Audio.Mpeg.FrameHeader
import Sidecars.Audio.Reading
import Sidecars.Audio.Tag
import Sidecars.Audio.Text
import Sidecars.Audio.Vorbis
import Sidecars.Audio.Wav
import Sidecars.Binary
import Sidecars.Deflate
import Sidecars.Dispatch
import Sidecars.Error
import Sidecars.Exif.Container
import Sidecars.Exif.Container.Heif
import Sidecars.Exif.Container.Jpeg
import Sidecars.Exif.Container.Png
import Sidecars.Exif.Container.Webp
import Sidecars.Exif.Error
import Sidecars.Exif.Field
import Sidecars.Exif.Flattening
import Sidecars.Exif.Shown
import Sidecars.Exif.Tag
import Sidecars.Exif.Tiff
import Sidecars.FileSystem.Change
import Sidecars.FileSystem.Errno
import Sidecars.FileSystem.Lookup
import Sidecars.FileSystem.Name
import Sidecars.FileSystem.Tree
import Sidecars.Log
import Sidecars.Main
import Sidecars.MediaFile
import Sidecars.Metadata
import Sidecars.Number.Binary64
import Sidecars.Number.Shortest
import Sidecars.Path
import Sidecars.Program
import Sidecars.Scan
import Sidecars.Settings
import Sidecars.Settings.Argument
import Sidecars.Settings.CommandLine
import Sidecars.Settings.EnvFile
import Sidecars.Settings.Stop
import Sidecars.Sidecar.Frontmatter
import Sidecars.Sidecar.Reading
import Sidecars.Sidecar.Writing
import Sidecars.Text.Alphanumeric
import Sidecars.Text.Alphanumeric.Table
import Sidecars.Text.Escaped
import Sidecars.Text.Escaped.Table
import Sidecars.Text.LowerCase
import Sidecars.Text.LowerCase.Table
import Sidecars.Text.Similarity
import Sidecars.Text.Utf8
import Sidecars.Walk
import Sidecars.Yaml.Char
import Sidecars.Yaml.Document
import Sidecars.Yaml.Event
import Sidecars.Yaml.Fault
import Sidecars.Yaml.Quoting
import Sidecars.Yaml.Scalar
import Sidecars.Yaml.Style
import Sidecars.Yaml.Token
import Sidecars.Yaml.Token.Lexeme
import Sidecars.Yaml.Token.Stream
import Sidecars.Yaml.Value
import Sidecars.Yaml.Written
import Sidecars.Proofs.FileSystem.Undoing
import Sidecars.Proofs.Walk.Reach
import Sidecars.Proofs.Walk.Rooted
import Sidecars.Proofs.Walk.Uniform
import Sidecars.Proofs.Sidecar.Atomicity
import Sidecars.Proofs.Sidecar.Beside
import Sidecars.Proofs.Sidecar.Confined
import Sidecars.Proofs.Sidecar.Congruence
import Sidecars.Proofs.Sidecar.Crash
import Sidecars.Proofs.Sidecar.Frontmatter
import Sidecars.Proofs.Sidecar.Reading
import Sidecars.Proofs.Sidecar.RoundTrip
import Sidecars.Proofs.Scan.Count
import Sidecars.Proofs.Scan.Coverage
import Sidecars.Proofs.Scan.Frame
import Sidecars.Proofs.Scan.Isolation
import Sidecars.Proofs.Scan.Rerun
import Sidecars.Proofs.Settings.EnvFile
import Sidecars.Proofs.Settings.Precedence
import Sidecars.Proofs.Program.Presentation
import Sidecars.Proofs.Program.Status
import Sidecars.Proofs.Path.Components
import Sidecars.Proofs.Walk.Enumeration
import Sidecars.Proofs.Sidecar.Closing
import Sidecars.Proofs.Exif.Container
import Sidecars.Proofs.Exif.Flattening
import Sidecars.Proofs.Exif.Numbers
import Sidecars.Proofs.Scan.Recording
import Sidecars.Proofs.Scan.Log
import Sidecars.Proofs.Scan.Lookup
import Sidecars.Proofs.Dispatch.Registration
import Sidecars.Proofs.Path.Extension
import Sidecars.Proofs.Dispatch.Standard
