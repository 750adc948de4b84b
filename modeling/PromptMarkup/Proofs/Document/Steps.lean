import Mathlib.Data.List.Basic
import PromptMarkup.Proofs.Document.Edits
import PromptMarkup.Proofs.Files.Paths

/-!
# Element paths

The path of an element names one child after the other: `name[k]` is the `k`-th child with that local name, and a bare
name the first one.  `Element.at?` goes such a path.  The key fact: a path is gone step by step (`Element.at?_slash`).
-/

namespace PromptMarkup

/-- A step of a path as a name and a number. -/
def readStep (s : String) : String × Nat :=
  match Text.splitOn '[' s.toList with
  | [name, number] => (String.ofList name, Nat.ofDigitChars 10 number.dropLast 0)
  | _ => (s, 1)

/-- The step to a child, numbered among the children of its name. -/
def numberedStep (name : String) (k : Nat) : String := name ++ "[" ++ toString k ++ "]"

/-- A name that can be a step of a path: it holds neither a slash nor a bracket, and is not marked as an attribute. -/
structure IsBare (name : String) : Prop where
  slash : '/' ∉ name.toList
  bracket : '[' ∉ name.toList
  mark : name.toList.head? ≠ some '@'

instance (name : String) : Decidable (IsBare name) :=
  decidable_of_iff ('/' ∉ name.toList ∧ '[' ∉ name.toList ∧ name.toList.head? ≠ some '@')
    ⟨fun h => ⟨h.1, h.2.1, h.2.2⟩, fun h => ⟨h.1, h.2, h.3⟩⟩

section

variable {name : String}

theorem readStep_of_notMem (h : '[' ∉ name.toList) : readStep name = (name, 1) := by
  rw [readStep, Text.splitOn_of_notMem h]

theorem notMem_toDigits {c : Char} (hc : c.isDigit = false) (k : Nat) : c ∉ Nat.toDigits 10 k := fun h => by
  have hdigit := Nat.isDigit_of_mem_toDigits (by decide) (by decide) h
  rw [hc] at hdigit
  cases hdigit

theorem readStep_numberedStep (h : '[' ∉ name.toList) (k : Nat) : readStep (numberedStep name k) = (name, k) := by
  have hlist : (numberedStep name k).toList = name.toList ++ '[' :: (Nat.toDigits 10 k ++ [']']) := by
    simp [numberedStep]
  have hnumber : '[' ∉ Nat.toDigits 10 k ++ [']'] := by
    rw [List.mem_append, not_or]
    exact ⟨notMem_toDigits rfl k, by decide⟩
  rw [readStep, hlist, Text.splitOn_append_cons, Text.splitOn_of_notMem h, Text.splitOn_of_notMem hnumber]
  simp

/-- A path says which step is its last one. -/
theorem slash_inj {a b s t : String} (hs : '/' ∉ s.toList) (ht : '/' ∉ t.toList) (h : a ++ "/" ++ s = b ++ "/" ++ t) :
    a = b ∧ s = t := by
  have hparts := congrArg (Text.parts '/') h
  rw [Path.parts_slash_append, Path.parts_slash_append, Text.parts_of_notMem hs, Text.parts_of_notMem ht] at hparts
  obtain rfl : s = t := List.head_eq_of_cons_eq (List.append_inj' hparts rfl).2
  exact ⟨(String.append_left_inj _).1 ((String.append_left_inj _).1 h), rfl⟩

theorem slash_notMem_numberedStep (h : '/' ∉ name.toList) (k : Nat) : '/' ∉ (numberedStep name k).toList := by
  simp only [numberedStep, String.toList_append, Nat.toString_eq_repr, Nat.toList_repr, List.mem_append, not_or]
  exact ⟨⟨⟨h, by decide⟩, notMem_toDigits rfl k⟩, by decide⟩

end

namespace Element

/-- The child that a step leads to. -/
def step? (e : Element) (s : String) : Option Element :=
  match readStep s with
  | (_, 0) => none
  | (name, k + 1) => (named e.content.elements name)[k]?

/-- The element that a path leads to, which starts with the local name of the root. -/
def at? (root : Element) (path : String) : Option Element :=
  match Text.parts '/' path with
  | [] => none
  | first :: steps => if localName? root.name = some first then steps.foldlM step? root else none

variable {root e c : Element} {name path s : String}

theorem step?_name (h : '[' ∉ name.toList) : e.step? name = (named e.content.elements name).head? := by
  rw [step?, readStep_of_notMem h, List.head?_eq_getElem?]

theorem step?_numberedStep (h : '[' ∉ name.toList) (k : Nat) :
    e.step? (numberedStep name (k + 1)) = (named e.content.elements name)[k]? := by
  rw [step?, readStep_numberedStep h]

/-- A child is found by its number among the children of its name. -/
theorem step?_of_elements_eq {ds es : List Element} (hes : e.content.elements = ds ++ c :: es)
    (hc : localName? c.name = some name) (h : '[' ∉ name.toList) :
    e.step? (numberedStep name ((named ds name).length + 1)) = some c := by
  have hnamed : named e.content.elements name = named ds name ++ c :: named es name := by
    rw [hes]
    simp [named, hc]
  rw [step?_numberedStep h, hnamed, List.getElem?_append_right (Nat.le_refl _), Nat.sub_self]
  rfl

/-- The path of the root is its local name. -/
theorem at?_root (hroot : localName? root.name = some name) (h : '/' ∉ name.toList) : root.at? name = some root := by
  rw [at?, Text.parts_of_notMem h]
  exact if_pos hroot

theorem eq_root_of_at? (hat : root.at? name = some e) (h : '/' ∉ name.toList) :
    e = root ∧ localName? root.name = some name := by
  rw [at?, Text.parts_of_notMem h] at hat
  dsimp only at hat
  split at hat
  · next hroot =>
    cases hat
    exact ⟨rfl, hroot⟩
  · cases hat

/-- A path is gone step by step. -/
theorem at?_slash (hat : root.at? path = some e) (hs : '/' ∉ s.toList) :
    root.at? (path ++ "/" ++ s) = e.step? s := by
  rw [at?, Path.parts_slash_append, Text.parts_of_notMem hs]
  rw [at?] at hat
  cases hpath : Text.parts '/' path with
  | nil =>
    rw [hpath] at hat
    cases hat
  | cons first steps =>
    simp only [hpath] at hat
    simp only [List.cons_append]
    split at hat
    · next hroot =>
      rw [if_pos hroot, List.foldlM_append, hat]
      simp
    · cases hat

end Element

end PromptMarkup
