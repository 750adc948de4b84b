import PromptMarkup.Encoding.Codec
import PromptMarkup.Files.Fault
import PromptMarkup.Files.Path

/-!
# File systems

A file system is a finite collection of directories, files and symbolic links, each at a location: the list of names
that leads to it from the top, none of which is a link.  A path is walked name by name from the current
directory or from the top; links on the way are followed, `maxLinks` of them at most.
-/

namespace PromptMarkup

/-- The names that lead from the top to a directory, a file or a link. -/
abbrev Location := List String

/-- What stands at a location. -/
inductive Node where
  | directory
  | file (bytes : List UInt8)
  | link (target : String)
  deriving DecidableEq, Repr

/-- A file system with a current directory, on a system that has decoders for further encodings. -/
structure FileSystem where
  nodes : List (Location × Node)
  current : Location
  decoders : Encoding.Decoders := Encoding.asciiDecoders
  deriving Inhabited

namespace FileSystem

open Files

/-- How many links a walk follows at most. -/
def maxLinks : Nat := 40

/-- The longest name that a directory can hold, in bytes. -/
def maxNameSize : Nat := 255

/-- What stands at a location; the top is a directory. -/
def node? (fs : FileSystem) (l : Location) : Option Node :=
  if l = [] then some .directory else (fs.nodes.find? fun e => e.1 == l).map (·.2)

/-- The file system with a node at a location, in place of what was there. -/
def put (fs : FileSystem) (l : Location) (n : Node) : FileSystem :=
  { fs with nodes := fs.nodes.filter (fun e => e.1 != l) ++ [(l, n)] }

/-- The file system without a location and all below it. -/
def erase (fs : FileSystem) (l : Location) : FileSystem :=
  { fs with nodes := fs.nodes.filter fun e => !l.isPrefixOf e.1 }

/-- The locations of the links. -/
def links (fs : FileSystem) : List Location :=
  fs.nodes.filterMap fun e =>
    match e.2 with
    | .link _ => some e.1
    | _ => none

/-- Where a walk ends: at something, or at a place in a directory where nothing is. -/
inductive Walk where
  | found (l : Location) (n : Node)
  | absent (l : Location)
  deriving DecidableEq, Repr

/-- Whether a link's target starts at the top. -/
def startsAtTop (target : String) : Bool := target.toList.head? == some '/'

/-- Walks from a location along names.  A link at the end is followed only if `follow` says so. -/
def walk (fs : FileSystem) (follow : Bool) (budget : Nat) (here : Location) (names : List String) :
    Except Refusal Walk :=
  match names with
  | [] =>
    match fs.node? here with
    | some n => .ok (.found here n)
    | none => .error .notFound
  | name :: rest =>
    match fs.node? here with
    | none => .error .notFound
    | some (.file _) => .error .notDirectory
    | some (.link _) => .error .notDirectory
    | some .directory =>
      if name = "" ∨ name = "." then walk fs follow budget here rest
      else if name = ".." then walk fs follow budget here.dropLast rest
      else if maxNameSize < name.utf8ByteSize then .error .nameTooLong
      else
        match fs.node? (here ++ [name]) with
        | none => if rest = [] then .ok (.absent (here ++ [name])) else .error .notFound
        | some (.link target) =>
          if rest = [] ∧ follow = false then .ok (.found (here ++ [name]) (.link target))
          else
            match budget with
            | 0 => .error .linkLoop
            | b + 1 =>
              walk fs follow b (if startsAtTop target then [] else here)
                (Text.parts '/' target ++ rest)
        | some _ => walk fs follow budget (here ++ [name]) rest
  termination_by (budget, names.length)

/-- Where the walk along a path starts. -/
def start (fs : FileSystem) (p : Path) : Location := if p.isAbsolute then [] else fs.current

/-- Whether a path holds a null character, which no file operation takes. -/
def hasNull (p : Path) : Bool := p.parts.any fun s => s.toList.contains (Char.ofNat 0)

/-- Walks along a path and follows all links. -/
def follow (fs : FileSystem) (p : Path) : Except Refusal Walk :=
  fs.walk true maxLinks (fs.start p) p.parts

/-- What a path leads to. -/
def status (fs : FileSystem) (p : Path) : Except Refusal Node :=
  match fs.follow p with
  | .ok (.found _ n) => .ok n
  | .ok (.absent _) => .error .notFound
  | .error e => .error e

/-- A yes-or-no question about what a path leads to.  A name that is too long is an error; any other path that leads
nowhere is a no. -/
def ask (fs : FileSystem) (p : Path) (question : Node → Bool) : Except Files.Fault Bool :=
  if hasNull p then .ok false
  else
    match fs.status p with
    | .ok n => .ok (question n)
    | .error .nameTooLong => .error (.refused .nameTooLong p.text)
    | .error _ => .ok false

def isFile (fs : FileSystem) (p : Path) : Except Files.Fault Bool :=
  fs.ask p fun
    | .file _ => true
    | _ => false

def isDirectory (fs : FileSystem) (p : Path) : Except Files.Fault Bool :=
  fs.ask p fun
    | .directory => true
    | _ => false

/-- The bytes of the file that a path leads to. -/
def read (fs : FileSystem) (p : Path) : Except Files.Fault (List UInt8) :=
  if hasNull p then .error (.nullCharacter none)
  else
    match fs.status p with
    | .ok (.file bs) => .ok bs
    | .ok .directory => .error (.refused .isDirectory p.text)
    | .ok (.link _) => .error (.refused .linkLoop p.text)
    | .error e => .error (.refused e p.text)

/-- Stores bytes in the file that a path leads to, or in a new file. -/
def write (fs : FileSystem) (p : Path) (bs : List UInt8) : Except Files.Fault FileSystem :=
  if hasNull p then .error (.nullCharacter none)
  else
    match fs.follow p with
    | .ok (.found l (.file _)) => .ok (fs.put l (.file bs))
    | .ok (.absent l) => .ok (fs.put l (.file bs))
    | .ok (.found _ .directory) => .error (.refused .isDirectory p.text)
    | .ok (.found _ (.link _)) => .error (.refused .linkLoop p.text)
    | .error e => .error (.refused e p.text)

/-- Makes a directory in one that is there. -/
def makeDirectory (fs : FileSystem) (p : Path) : Except Files.Fault FileSystem :=
  if hasNull p then .error (.nullCharacter (some "mkdir"))
  else
    match fs.walk false maxLinks (fs.start p) p.parts with
    | .ok (.absent l) => .ok (fs.put l .directory)
    | .ok (.found _ _) => .error (.refused .alreadyExists p.text)
    | .error e => .error (.refused e p.text)

/-- Makes a directory; one that is there already is left as it is. -/
def ensureDirectory (fs : FileSystem) (p : Path) : Except Files.Fault FileSystem :=
  match fs.makeDirectory p with
  | .ok fs => .ok fs
  | .error e => do
    if ← fs.isDirectory p then .ok fs else .error e

/-- Makes a directory given by its anchor and its parts, and those on the way to it that are missing.  What was made
before a failure stays. -/
def makeAll (fs : FileSystem) (anchor : Anchor) (parts : List String) :
    FileSystem × Except Files.Fault Unit :=
  match fs.makeDirectory ⟨anchor, parts⟩ with
  | .ok made => (made, .ok ())
  | .error (.refused .notFound path) =>
    if parts = [] then (fs, .error (.refused .notFound path))
    else
      match makeAll fs anchor parts.dropLast with
      | (fs, .error e) => (fs, .error e)
      | (fs, .ok ()) =>
        match fs.ensureDirectory ⟨anchor, parts⟩ with
        | .ok made => (made, .ok ())
        | .error e => (fs, .error e)
  | .error e =>
    match fs.isDirectory ⟨anchor, parts⟩ with
    | .ok true => (fs, .ok ())
    | .ok false => (fs, .error e)
    | .error e => (fs, .error e)
  termination_by parts.length
  decreasing_by
    have := List.length_pos_iff.2 ‹¬parts = []›
    simp only [List.length_dropLast]
    omega

/-- Makes a directory and those on the way to it. -/
def makeDirectories (fs : FileSystem) (p : Path) : FileSystem × Except Files.Fault Unit :=
  fs.makeAll p.anchor p.parts

/-- Makes a symbolic link where nothing is. -/
def makeLink (fs : FileSystem) (p : Path) (target : String) : Except Files.Fault FileSystem :=
  match fs.walk false maxLinks (fs.start p) p.parts with
  | .ok (.absent l) => .ok (fs.put l (.link target))
  | .ok (.found _ _) => .error (.refused .alreadyExists p.text)
  | .error e => .error (.refused e p.text)

/-- Removes a file, a link or a directory with all it holds; says whether it was there. -/
def remove (fs : FileSystem) (p : Path) : FileSystem × Bool :=
  match fs.walk false maxLinks (fs.start p) p.parts with
  | .ok (.found l _) => (fs.erase l, true)
  | _ => (fs, false)

/-- The names in a directory. -/
def namesIn (fs : FileSystem) (l : Location) : List String :=
  fs.nodes.filterMap fun e => if e.1.dropLast = l ∧ e.1 ≠ [] then e.1.getLast? else none

/-- All that stands below a location, links not being followed, as lists of names from there. -/
def below (fs : FileSystem) (l : Location) : List (List String) :=
  fs.nodes.filterMap fun e =>
    if l.isPrefixOf e.1 ∧ e.1 ≠ l then some (e.1.drop l.length) else none

/-- The location of the directory that a path leads to. -/
def directory? (fs : FileSystem) (p : Path) : Option Location :=
  match fs.follow p with
  | .ok (.found l .directory) => some l
  | _ => none

end FileSystem

end PromptMarkup
