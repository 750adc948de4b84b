/-!
# Similar words

How much two words have in common: the longest run of characters that both hold, and then, on each side of it, the same
again.  A misspelt word is similar to the one that was meant.
-/

namespace PromptMarkup.Text

/-- How many characters two texts have in common at their starts. -/
def commonStart : List Char → List Char → Nat
  | c :: r, d :: s => if c = d then commonStart r s + 1 else 0
  | _, _ => 0

/-- The better of two common runs, the first one if they are as long as each other. -/
def longer (x y : Nat × Nat × Nat) : Nat × Nat × Nat := if x.2.2 < y.2.2 then y else x

/-- The first of the longest runs of characters that both texts hold: where it starts in each, and its length. -/
def longestRun (a b : List Char) : Nat × Nat × Nat :=
  (List.range a.length).foldl
    (fun best i =>
      (List.range b.length).foldl
        (fun best j => longer best (i, j, commonStart (a.drop i) (b.drop j))) best)
    (0, 0, 0)

/-- How many characters of two texts are matched by common runs. -/
def matched (a b : List Char) : Nat :=
  let (i, j, n) := longestRun a b
  if _h : 0 < n ∧ i + n ≤ a.length then
    n + matched (a.take i) (b.take j) + matched (a.drop (i + n)) (b.drop (j + n))
  else 0
  termination_by a.length
  decreasing_by
    · simp only [List.length_take]; omega
    · simp only [List.length_drop]; omega

/-- Whether three fifths of two words are matched. -/
def isSimilar (word candidate : String) : Bool :=
  let a := candidate.toList
  let b := word.toList
  10 * matched a b ≥ 3 * (a.length + b.length)

/-- The candidates that are similar to a word, in order. -/
def similar (word : String) (candidates : List String) : List String :=
  (candidates.filter (isSimilar word)).mergeSort (· ≤ ·)

end PromptMarkup.Text
