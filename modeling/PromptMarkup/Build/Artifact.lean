import PromptMarkup.Fault
import PromptMarkup.Files.System

/-!
# Artifacts

The files that a build leaves behind.  An artifact lies directly in the output directory: a name that could lead
elsewhere is refused.
-/

namespace PromptMarkup

/-- Whether two dots follow each other somewhere. -/
def hasDoubleDot : List Char → Bool
  | '.' :: '.' :: _ => true
  | _ :: r => hasDoubleDot r
  | [] => false

/-- A name that stays inside its directory: it is not empty and has no slash, no backslash and no two dots in a
row. -/
def isSafeName (name : String) : Bool :=
  let cs := name.toList
  !cs.isEmpty && !cs.contains '/' && !cs.contains '\\' && !hasDoubleDot cs

/-- The bytes that a file gets for a text, and whether that is all of the text: one that cannot be encoded gives none. -/
def payload (content : List CodePoint) : List UInt8 × Except Failure Unit :=
  match Encoding.Utf8.encodePoints content with
  | .ok bs => (bs, .ok ())
  | .error u => ([], .error (.encoding u.fault))

/-- Writes a text as a file of a directory, which is made if it is missing; the path of the file.  The file is opened, and
with that made or emptied, before the text is encoded. -/
def writeArtifact (fs : FileSystem) (directory : Path) (name : String) (content : List CodePoint) :
    FileSystem × Except Failure Path :=
  if isSafeName name then
    match fs.makeDirectories directory with
    | (fs, .error f) => (fs, .error (.files f))
    | (fs, .ok ()) =>
      let path := directory.child name
      match fs.write path (payload content).1 with
      | .ok written => (written, (payload content).2.map fun _ => path)
      | .error f => (fs, .error (.files f))
  else (fs, .error (.unsafeName name))

end PromptMarkup
