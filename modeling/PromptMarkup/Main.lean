import PromptMarkup.CommandLine.Run

/-!
# The program

The outer layer: the directories that a command can reach are read into a file system, the command is run on it, and
the files that it wrote are stored.
-/

namespace PromptMarkup.Program

open CommandLine

/-- The names of an absolute path. -/
def locationOf (path : String) : Location := (Path.ofString path).parts

/-- The location and all on the way to it as directories. -/
def withDirectories (fs : FileSystem) (l : Location) : FileSystem :=
  (fs.makeDirectories (Path.absolute l)).1

/-- Reads what lies below a directory.  A link is kept as a link to what it leads to. -/
partial def readBelow (fs : FileSystem) (path : String) : IO FileSystem := do
  let mut fs := withDirectories fs (locationOf path)
  for entry in ← (← IO.FS.realPath path).readDir do
    let name := path ++ "/" ++ entry.fileName
    try
      let target ← IO.FS.realPath name
      if target.toString ≠ name then
        fs := fs.put (locationOf name) (.link target.toString)
      else if ← target.isDir then
        fs ← readBelow fs name
      else
        fs := fs.put (locationOf name) (.file (← IO.FS.readBinFile target).toList)
    catch _ => continue
  return fs

/-- Reads what lies below a directory, if it is there. -/
def readIfPresent (fs : FileSystem) (path : String) : IO FileSystem := do
  try readBelow fs path catch _ => return fs

/-- The directories outside the current one that arguments may refer to. -/
def mentioned (arguments : List String) : List String :=
  (arguments.map Path.ofString).flatMap fun p =>
    if p.isAbsolute then
      ([p, p.parent].filter fun q => !q.parts.isEmpty).map Path.text
    else []

/-- Stores the files that are new or changed. -/
def store (before after : FileSystem) : IO Unit := do
  for (l, n) in after.nodes do
    match n with
    | .file bytes =>
      if before.node? l ≠ some n then
        IO.FS.createDirAll (Path.absolute l).parent.text
        IO.FS.writeBinFile (Path.absolute l).text ⟨bytes.toArray⟩
    | .directory => if before.node? l ≠ some n then IO.FS.createDirAll (Path.absolute l).text
    | .link _ => continue

/-- Runs the program on its arguments; the code that it exits with. -/
def main (arguments : List String) : IO UInt32 := do
  let current := (← IO.FS.realPath ".").toString
  let home := (← IO.getEnv "HOME").getD current
  let empty : FileSystem := { nodes := [], current := locationOf current }
  let mut fs ← readBelow empty current
  for path in (home ++ "/.pml") :: mentioned arguments do
    fs ← readIfPresent fs path
  let (after, output) := run fs (Path.ofString home) arguments
  store fs after
  (← IO.getStdout).putStr output.stdout
  (← IO.getStderr).putStr output.stderr
  return output.exitCode.toUInt32

end PromptMarkup.Program

/-- The entry point of the program. -/
def main (arguments : List String) : IO UInt32 := PromptMarkup.Program.main arguments
