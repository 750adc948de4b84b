/-!
# Blank characters

The blank characters of a text and the removal of blanks at its two ends.  The key fact: once the blanks before it are
taken away, a text does not start with one (`head?_trimStart`).
-/

namespace PromptMarkup.Text

/-- The blank characters: the white space of Unicode and the four information separators. -/
def isBlank (c : Char) : Bool :=
  let n := c.toNat
  (9 ≤ n && n ≤ 13) || (28 ≤ n && n ≤ 32) || n == 0x85 || n == 0xA0 || n == 0x1680 ||
    (0x2000 ≤ n && n ≤ 0x200A) || n == 0x2028 || n == 0x2029 || n == 0x202F || n == 0x205F ||
    n == 0x3000

/-- The characters from the first one that is not blank. -/
def trimStart : List Char → List Char
  | [] => []
  | c :: r => if isBlank c then trimStart r else c :: r

/-- The characters up to the last one that is not blank. -/
def trimEnd : List Char → List Char
  | [] => []
  | c :: r =>
    match trimEnd r with
    | [] => if isBlank c then [] else [c]
    | t => c :: t

/-- A text without the blanks at its two ends. -/
def trim (s : String) : String :=
  String.ofList (trimEnd (trimStart s.toList))

theorem head?_trimStart {s : List Char} {c : Char} (h : (trimStart s).head? = some c) :
    isBlank c = false := by
  induction s with
  | nil => simp [trimStart] at h
  | cons d r ih =>
    unfold trimStart at h
    split at h
    · exact ih h
    · next hd => simp at h; subst h; simpa using hd

end PromptMarkup.Text
