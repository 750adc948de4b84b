import PromptMarkup.Text.Quoted

/-!
# Failed file operations
-/

namespace PromptMarkup.Files

/-- Why a file operation was refused. -/
inductive Refusal where
  | notFound
  | alreadyExists
  | notDirectory
  | isDirectory
  | nameTooLong
  | linkLoop
  deriving DecidableEq, Repr

namespace Refusal

/-- The number of the system error. -/
def number : Refusal → Nat
  | notFound => 2
  | alreadyExists => 17
  | notDirectory => 20
  | isDirectory => 21
  | nameTooLong => 36
  | linkLoop => 40

def reason : Refusal → String
  | notFound => "No such file or directory"
  | alreadyExists => "File exists"
  | notDirectory => "Not a directory"
  | isDirectory => "Is a directory"
  | nameTooLong => "File name too long"
  | linkLoop => "Too many levels of symbolic links"

/-- The class that a report gives the refusal. -/
def className : Refusal → String
  | notFound => "FileNotFoundError"
  | alreadyExists => "FileExistsError"
  | notDirectory => "NotADirectoryError"
  | isDirectory => "IsADirectoryError"
  | nameTooLong => "OSError"
  | linkLoop => "OSError"

end Refusal

/-- A failed file operation: the system refused it, or the path holds a null character. -/
inductive Fault where
  | refused (why : Refusal) (path : String)
  | nullCharacter (operation : Option String)
  deriving DecidableEq, Repr

namespace Fault

def className : Fault → String
  | refused why _ => why.className
  | nullCharacter _ => "ValueError"

def message : Fault → String
  | refused why path =>
    "[Errno " ++ toString why.number ++ "] " ++ why.reason ++ ": " ++ Text.quote path
  | nullCharacter none => "embedded null byte"
  | nullCharacter (some operation) => operation ++ ": embedded null character in path"

end Fault

end PromptMarkup.Files
