import PromptMarkup.Encoding.Codec
import PromptMarkup.Except
import PromptMarkup.Files.Resolve
import PromptMarkup.Inclusion.Directive
import PromptMarkup.Tree.Name
import PromptMarkup.Xml.Parse

/-!
# What a loader sees of the files

A loader asks where a path leads, whether a file stands there, and what the file holds as a document or as a
text.  The answers make up a `View`; a file system gives one (`FileSystem.view`).
-/

namespace PromptMarkup

/-- The documents that lead from the root document to the current one, both included. -/
abbrev Chain := List Location

/-- The paths of a chain. -/
def Chain.paths (c : Chain) : List Path := c.map Path.absolute

/-- Why a file could not be read: a fault of the file, or something outside the taxonomy. -/
inductive Unread where
  | cause (c : Cause)
  | encoding (f : Encoding.Fault)
  deriving DecidableEq, Repr

/-- The failure of a load that could not read the file at the end of a chain. -/
def Unread.failure (l : Location) (chain : Chain) : Unread → Failure
  | cause c => .fault { cause := c, source := some (Path.absolute l), chain := chain.paths }
  | encoding f => .encoding f

/-- What a loader sees of the files: where paths lead, where files stand, and what these are as documents and
as texts in an encoding. -/
structure View where
  files : List Location
  resolve : Path → Except Files.Fault Location
  hasFile : Location → Except Files.Fault Bool
  mem_files : ∀ {l}, hasFile l = .ok true → l ∈ files
  document : Location → Except Unread Element
  text : Location → String → Except Unread String

namespace FileSystem

/-- The root element of the document at a location. -/
def document (fs : FileSystem) (l : Location) : Except Unread Element :=
  match fs.read (Path.absolute l) with
  | .error f => .error (.cause (.unreadableDocument f.message))
  | .ok bs =>
    match Xml.parse bs with
    | .error (.malformed problem position) => .error (.cause (.malformedXml (problem.text position)))
    | .error (.encoding f) => .error (.encoding f)
    | .ok root => .ok root

/-- The text at a location in an encoding, with line feeds for all line ends. -/
def text (fs : FileSystem) (l : Location) (encoding : String) : Except Unread String :=
  match fs.read (Path.absolute l) with
  | .error f => .error (.cause (.unreadableText f.message))
  | .ok bs =>
    match Encoding.decode fs.decoders encoding bs with
    | .error f =>
      match f with
      | .unknown _ | .notText _ _ | .undecodable _ => .error (.cause (.unreadableText f.message))
      | f => .error (.encoding f)
    | .ok s => .ok (Text.withLineFeeds s)

/-- The view of the files as they are. -/
def view (fs : FileSystem) : View where
  files := fs.files
  resolve := fs.resolve
  hasFile := fs.hasFile
  mem_files := mem_files_of_hasFile
  document := fs.document
  text := fs.text

instance : Coe FileSystem View := ⟨view⟩

end FileSystem

namespace View

/-- The document at the end of a chain. -/
def readDocument (v : View) (l : Location) (chain : Chain) : Except Failure Element :=
  (v.document l).mapError (·.failure l chain)

/-- The text at the end of a chain. -/
def readText (v : View) (l : Location) (encoding : String) (chain : Chain) : Except Failure String :=
  (v.text l encoding).mapError (·.failure l chain)

/-- The location that a directive in a document refers to.  A relative path starts at the directory of the
document. -/
def target (v : View) (href : String) (document : Location) : Except Files.Fault Location :=
  v.resolve (Path.absolute document.dropLast |>.child href)

/-- The location of the file that a directive refers to, which must be there. -/
def locate (v : View) (href : String) (document : Location) (chain : Chain) :
    Except Failure { l : Location // l ∈ v.files } :=
  match v.target href document with
  | .error f => .error (.files f)
  | .ok l =>
    match h : v.hasFile l with
    | .error f => .error (.files f)
    | .ok true => .ok ⟨l, v.mem_files h⟩
    | .ok false => .error (.fault (.unresolved (Path.absolute l) (Path.absolute document) chain.paths))

section

variable {v : View} {href : String} {document t : Location} {chain : Chain}

theorem locate_of_hasFile (ht : v.target href document = .ok t) (hf : v.hasFile t = .ok true) :
    v.locate href document chain = .ok ⟨t, v.mem_files hf⟩ := by
  rw [locate, ht]
  simp only
  split <;> simp_all

theorem locate_of_not_hasFile (ht : v.target href document = .ok t) (hf : v.hasFile t = .ok false) :
    v.locate href document chain =
      .error (.fault (.unresolved (Path.absolute t) (Path.absolute document) chain.paths)) := by
  rw [locate, ht]
  simp only
  split <;> simp_all

theorem locate_of_hasFile_error {f : Files.Fault} (ht : v.target href document = .ok t)
    (hf : v.hasFile t = .error f) : v.locate href document chain = .error (.files f) := by
  rw [locate, ht]
  simp only
  split <;> simp_all

theorem locate_of_target_error {f : Files.Fault} (ht : v.target href document = .error f) :
    v.locate href document chain = .error (.files f) := by
  rw [locate, ht]

end

/-- The files that are not on a chain. -/
def offChain (v : View) (chain : Chain) : List Location := v.files.filter fun l => !chain.contains l

theorem offChain_append_lt {v : View} {chain : Chain} {l : Location} (hl : l ∈ v.files)
    (hc : ¬ chain.contains l = true) :
    (v.offChain (chain ++ [l])).length < (v.offChain chain).length := by
  have hsub : v.offChain (chain ++ [l]) = (v.offChain chain).filter (fun m => m != l) := by
    unfold offChain
    rw [List.filter_filter]
    apply List.filter_congr
    intro m _
    by_cases hm : m = l <;> simp [hm, bne]
  have hmem : l ∈ v.offChain chain := by
    unfold offChain
    exact List.mem_filter.2 ⟨hl, by simpa using hc⟩
  rw [hsub]
  exact List.length_filter_lt_length_iff_exists.2 ⟨l, hmem, by simp⟩

end View

/-- The directive with the given attributes in a document. -/
def Directive.read (attributes : List (String × String)) (document : Location) (chain : Chain) :
    Except Failure Directive :=
  (ofAttributes attributes).mapError fun cause =>
    .fault { cause, source := some (Path.absolute document), chain := chain.paths }

end PromptMarkup
