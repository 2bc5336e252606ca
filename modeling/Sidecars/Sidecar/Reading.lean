import Sidecars.Error
import Sidecars.FileSystem.Lookup
import Sidecars.Sidecar.Frontmatter

/-!
# Reading a sidecar

The metadata in a file that is a sidecar, whoever wrote it.
-/

namespace Sidecars.Sidecar

/-- The metadata in the contents of the sidecar at a path. -/
def ofContents (p : Path) (contents : Bytes) : Except Error Metadata :=
  match Text.Utf8.decodeChars? contents with
  | none => .error (.io .notText)
  | some text =>
    match Frontmatter.parseChars text with
    | .ok metadata => .ok metadata
    | .error .malformed => .error (.malformedSidecar p)
    | .error (.yaml e) => .error (.unreadable e)

/-- The metadata in the sidecar at a path. -/
def read (fs : FileSystem) (p : Path) : Except Error Metadata :=
  match fs.read p with
  | .error e => .error (.io (.os e))
  | .ok contents => ofContents p contents

end Sidecars.Sidecar
