import Sidecars.Program

/-!
# The command line

Runs the program on the disk.  The directory to scan is loaded as a tree, the run is computed on
the tree, and the files that are new or other afterwards are written to the disk with their modes,
each by way of a temporary file that is renamed into place.

Not all of the disk can be seen from here.  A mode cannot be read, so a file that is loaded counts
as one with the mode 0644, and a sidecar that takes its place gets that mode.  A symbolic link below
the directory is loaded as the file to which it leads.  The environment and the permission bits that
new files do not get are read where Linux shows them.
-/

namespace Sidecars.Main

/-- The contents of a file. -/
def readFile (path : String) : IO Bytes := do
  return (← IO.FS.readBinFile path).toList

/-- A variable and its value, unless they are not Unicode. -/
def assignment? (bytes : Bytes) : Option (String × String) := do
  let chars ← Text.Utf8.decodeChars? bytes
  match chars.dropWhile (· ≠ '=') with
  | _ :: value => return (String.ofList (chars.takeWhile (· ≠ '=')), String.ofList value)
  | [] => none

/-- The variables of the environment. -/
def readEnvironment : IO Settings.Environment := do
  return (Binary.splitAt 0 (← readFile "/proc/self/environ")).filterMap assignment?

/-- The number that some octal digits write. -/
def ofOctal (digits : List Char) : Nat := digits.foldl (fun n c => 8 * n + (c.toNat - 0x30)) 0

/-- The permission bits that new files do not get. -/
def readUmask : IO Nat := do
  let lines := Binary.splitAt 0x0A (← readFile "/proc/self/status")
  let start := "Umask:".toList
  let line? := (lines.filterMap Text.Utf8.decodeChars?).find? start.isPrefixOf
  return (line?.map fun line => ofOctal (line.filter Char.isDigit)).getD 0o022

/-- The contents of the nearest file of variables, from a directory upwards. -/
def readEnvFile : (depth : Nat) → (directory : String) → IO (Option Bytes)
  | 0, _ => return none
  | depth + 1, directory => do
    let candidate := directory ++ "/.env"
    try
      return some (← readFile candidate)
    catch _ =>
      if directory = "" then return none
      else
        let above := String.ofList ((directory.toList.reverse.dropWhile (· ≠ '/')).drop 1).reverse
        readEnvFile depth above

/-- A file of the disk. -/
def loadFile (path : String) : IO Node := do
  return .file 0o644 (← readFile path)

/-- What is at a path of the disk.  A symbolic link in a directory is taken for the file to which it
leads, and for a pipe if it leads to none. -/
def load : (depth : Nat) → (path : String) → IO Node
  | 0, _ => return .pipe 0o644
  | depth + 1, path => do
    let place ← IO.FS.realPath path
    match (← place.metadata).type with
    | .dir => do
      let entries ← (← place.readDir).toList.filterMapM fun e => do
        match Name.ofBytes? (Text.Utf8.encode e.fileName) with
        | none => return none
        | some name =>
          match (← e.path.symlinkMetadata).type with
          | .symlink =>
            try return some (name, ← loadFile e.path.toString)
            catch _ => return some (name, .pipe 0o644)
          | _ => return some (name, ← load depth e.path.toString)
      return .directory 0o755 entries
    | .file => loadFile path
    | _ => return .pipe 0o644

/-- The file system in which the disk's directory stands at a path, if there is one. -/
def loadAt (p : Path) : IO FileSystem := do
  let empty := { FileSystem.fresh ⟨[0x77], by decide⟩ with umask := ← readUmask }
  try
    let n ← load Path.tooLong p.display
    let made := empty.makeDirectories p |>.toOption.getD empty
    match made.resolve true p with
    | .ok (.found loc _) =>
      match Place.ofLocation? loc with
      | some place => return made.put place n
      | none => return { made with root := n }
    | _ => return made
  catch _ => return empty

/-- A file that is to be written to the disk. -/
structure Written where
  /-- Where it goes. -/
  path : Path
  /-- Its mode. -/
  mode : Nat
  /-- Its contents. -/
  contents : Bytes

/-- The files of a tree that another tree does not have like that, with the paths below `path`. -/
def changedFiles : (depth : Nat) → (path : Path) → (before after : Node) → List Written
  | 0, _, _, _ => []
  | depth + 1, path, before, after =>
    after.entries.flatMap fun (name, n) =>
      let below := path.join name.bytes
      match n, before.child? name with
      | .file mode contents, some (.file _ old) =>
        if contents = old then [] else [⟨below, mode, contents⟩]
      | .file mode contents, _ => [⟨below, mode, contents⟩]
      | .directory mode es, some old => changedFiles depth below old (.directory mode es)
      | _, _ => []

/-- Makes a file of the first of some temporary names that is free in a directory. -/
def makeTemporary (directory : Path) : (tries : Nat) → (k : Nat) → IO (Path × IO.FS.Handle)
  | 0, _ => throw (IO.userError "no name is free")
  | tries + 1, k => do
    let path := directory.join (Sidecar.temporaryName k).bytes
    try
      return (path, ← IO.FS.Handle.mk path.display .writeNew)
    catch
      | .alreadyExists _ _ _ => makeTemporary directory tries (k + 1)
      | e => throw e

/-- Writes a file by way of a temporary one, which goes away again if that fails. -/
def writeFile (file : Written) : IO Unit := do
  let start ← IO.rand 0 (Sidecar.nameCount - 1)
  let (temporary, handle) ← makeTemporary file.path.directory Sidecar.nameCount start
  try
    IO.Prim.setAccessRights temporary.display file.mode.toUInt32
    handle.write ⟨file.contents.toArray⟩
    handle.flush
    IO.FS.rename temporary.display file.path.display
  catch e =>
    IO.FS.removeFile temporary.display
    throw e

/-- Runs the program with the assignments of files of variables in its environment. -/
def runIn (args : List Bytes) (env : Settings.Environment) : IO Nat := do
  let path := match Settings.parse args env with
    | .ok s => s.mediaPath
    | .error _ => Settings.standard.mediaPath
  let before ← loadAt path
  let result := Program.runIn args env before
  match before.status path, result.system.status path with
  | .ok old, .ok new => (changedFiles Path.tooLong path old new).forM writeFile
  | _, _ => pure ()
  IO.print result.stdout
  IO.eprint result.stderr
  return result.code

/-- Runs the program and gives its status. -/
def run (args : List String) : IO Nat := do
  let directory ← IO.FS.realPath "."
  let env ← readEnvironment
  let file? ← readEnvFile Path.tooLong directory.toString
  match file?.bind (Settings.EnvFile.unsettable? env) with
  | some (name, value) =>
    IO.eprint (Program.breakdown name value)
    return 101
  | none => runIn (args.map Text.Utf8.encode) (file?.elim env (Settings.EnvFile.extend env))

end Sidecars.Main

/-- Runs the program. -/
def main (args : List String) : IO UInt32 := do
  return (← Sidecars.Main.run args).toUInt32
