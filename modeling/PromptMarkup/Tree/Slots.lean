import PromptMarkup.Tree.Content

/-!
# Content in slots

Content laid out for editing: the children stand in a list, and every text has its slot, one before the first
child and one behind each child.  The key facts: the two layouts hold the same (`content_slots`,
`slots_content`), a position cuts content into the front and the back of it (`front_append_back`), and each
edit at a position leaves the back alone and changes the front as text and children put at its end
(`front_addText`, `front_insert`, `front_setContent`).
-/

namespace PromptMarkup

/-- A child of an element. -/
inductive Child where
  | element (e : Element)
  | comment (inside : String)
  deriving DecidableEq, Repr

/-- A child with the text behind it. -/
structure Branch where
  child : Child
  tail : String := ""
  deriving DecidableEq, Repr

/-- The text before the first child, and the children with the texts behind them. -/
structure Slots where
  text : String
  children : List Branch
  deriving DecidableEq, Repr

namespace Branch

/-- The content that starts with a text and goes on with children. -/
def content (text : String) : List Branch → Content
  | [] => .text text
  | ⟨.element e, tail⟩ :: r => .element text e.name e.attributes e.content (content tail r)
  | ⟨.comment inside, tail⟩ :: r => .comment text inside (content tail r)

/-- The child with more text behind it. -/
def addTail (b : Branch) (s : String) : Branch := { b with tail := b.tail ++ s }

/-- The child with other content, if it is an element. -/
def setContent (b : Branch) (c : Content) : Branch :=
  match b.child with
  | .element e => { b with child := .element { e with content := c } }
  | .comment _ => b

theorem content_prepend (s t : String) (bs : List Branch) :
    (content t bs).prepend s = content (s ++ t) bs := by
  rcases bs with _ | ⟨⟨_ | _, _⟩, _⟩ <;> rfl

theorem content_append (s : String) (bs cs : List Branch) :
    content s (bs ++ cs) = content s bs ++ content "" cs := by
  induction bs generalizing s with
  | nil => simp [content, content_prepend]
  | cons b bs ih => rcases b with ⟨_ | _, t⟩ <;> simp [content, ih]

/-- Text behind the last child ends the content. -/
theorem content_concat_addTail (s t : String) (bs : List Branch) (b : Branch) :
    content s (bs ++ [b.addTail t]) = content s (bs ++ [b]) ++ .text t := by
  rw [content_append, content_append, Content.append_assoc]
  congr 1
  rcases b with ⟨_ | _, u⟩ <;> simp [content, addTail, Content.prepend]

end Branch

/-- The content as slots. -/
def Content.slots : Content → Slots
  | .text s => ⟨s, []⟩
  | .element before name attributes content rest =>
    ⟨before, ⟨.element ⟨name, attributes, content⟩, rest.slots.text⟩ :: rest.slots.children⟩
  | .comment before inside rest => ⟨before, ⟨.comment inside, rest.slots.text⟩ :: rest.slots.children⟩

namespace Slots

/-- The slots as content. -/
def content (s : Slots) : Content := Branch.content s.text s.children

@[simp] theorem content_slots (c : Content) : c.slots.content = c := by
  induction c with
  | text s => rfl
  | element b n a c r _ ih => simp only [Content.slots, content, Branch.content] at ih ⊢; rw [ih]
  | comment b i r ih => simp only [Content.slots, content, Branch.content] at ih ⊢; rw [ih]

theorem slots_branches (t : String) (bs : List Branch) : (Branch.content t bs).slots = ⟨t, bs⟩ := by
  induction bs generalizing t with
  | nil => rfl
  | cons b bs ih => rcases b with ⟨_ | _, u⟩ <;> simp [Branch.content, Content.slots, ih]

@[simp] theorem slots_content (s : Slots) : s.content.slots = s := slots_branches s.text s.children

theorem content_children_slots (c : Content) : Branch.content "" c.slots.children = c.dropLeading := by
  cases c with
  | text s => rfl
  | element b n a c r =>
    have := content_slots r
    rw [content] at this
    simp only [Content.slots, Branch.content, this, Content.dropLeading]
  | comment b i r =>
    have := content_slots r
    rw [content] at this
    simp only [Content.slots, Branch.content, this, Content.dropLeading]

/-! ### Edits at a position -/

/-- Takes away the child at a position, with the text behind it. -/
def erase (s : Slots) (i : Nat) : Slots := { s with children := s.children.eraseIdx i }

/-- Gives the child at a position other content. -/
def setContent (s : Slots) (i : Nat) (c : Content) : Slots :=
  { s with children := s.children.modify i (·.setContent c) }

/-- Puts text before the child at a position: behind the child before it, or before all children. -/
def addText (s : Slots) (i : Nat) (t : String) : Slots :=
  match i with
  | 0 => { s with text := s.text ++ t }
  | i + 1 => { s with children := s.children.modify i (·.addTail t) }

/-- Puts children before the child at a position. -/
def insert (s : Slots) (i : Nat) (bs : List Branch) : Slots :=
  { s with children := s.children.take i ++ bs ++ s.children.drop i }

/-- The content before the child at a position. -/
def front (s : Slots) (i : Nat) : Content := Branch.content s.text (s.children.take i)

/-- The content from the child at a position on. -/
def back (s : Slots) (i : Nat) : Content := Branch.content "" (s.children.drop i)

theorem front_append_back (s : Slots) (i : Nat) : s.front i ++ s.back i = s.content := by
  rw [front, back, ← Branch.content_append, List.take_append_drop, content]

theorem front_of_length_le {s : Slots} {i : Nat} (h : s.children.length ≤ i) : s.front i = s.content := by
  rw [front, List.take_of_length_le h, content]

theorem back_of_length_le {s : Slots} {i : Nat} (h : s.children.length ≤ i) : s.back i = .text "" := by
  rw [back, List.drop_of_length_le h, Branch.content]

@[simp] theorem front_zero (s : Slots) : s.front 0 = .text s.text := rfl

/-- The back starts with the child at the position. -/
theorem back_of_getElem? {s : Slots} {i : Nat} {b : Branch} (h : s.children[i]? = some b) :
    s.back i = Branch.content "" [b] ++ s.back (i + 1) := by
  obtain ⟨hi, rfl⟩ := List.getElem?_eq_some_iff.1 h
  rw [back, back, ← Branch.content_append, List.drop_eq_getElem_cons hi, List.singleton_append]

theorem front_succ_of_getElem? {s : Slots} {i : Nat} {b : Branch} (h : s.children[i]? = some b) :
    s.front (i + 1) = s.front i ++ Branch.content "" [b] := by
  rw [front, front, ← Branch.content_append, List.take_add_one, h, Option.toList_some]

theorem front_erase {s : Slots} {i : Nat} (h : i < s.children.length) : (s.erase i).front i = s.front i := by
  have hl : (s.children.take i).length = i := List.length_take_of_le (Nat.le_of_lt h)
  simp only [front, erase, List.eraseIdx_eq_take_drop_succ]
  rw [List.take_append_of_le_length (Nat.le_of_eq hl.symm), List.take_take, Nat.min_self]

theorem back_erase {s : Slots} {i : Nat} (h : i < s.children.length) : (s.erase i).back i = s.back (i + 1) := by
  have hl : (s.children.take i).length = i := List.length_take_of_le (Nat.le_of_lt h)
  simp only [back, erase, List.eraseIdx_eq_take_drop_succ]
  rw [List.drop_left' hl]

theorem length_erase {s : Slots} {i : Nat} (h : i < s.children.length) :
    (s.erase i).children.length + 1 = s.children.length := by
  simp only [erase, List.length_eraseIdx, h, if_true]
  omega

theorem front_addText {s : Slots} {i : Nat} (h : i ≤ s.children.length) (t : String) :
    (s.addText i t).front i = s.front i ++ .text t := by
  cases i with
  | zero => rfl
  | succ i =>
    have hi : i < s.children.length := h
    have hl : (s.children.take i).length = i := List.length_take_of_le (Nat.le_of_lt hi)
    have hm : (s.children.modify i (·.addTail t)).take (i + 1) =
        s.children.take i ++ [s.children[i].addTail t] := by
      rw [List.modify_eq_take_cons_drop hi, List.take_append, hl, List.take_take]
      simp
    simp only [front, addText]
    rw [hm, Branch.content_concat_addTail, List.take_append_getElem hi]

@[simp] theorem back_addText (s : Slots) (i : Nat) (t : String) : (s.addText i t).back i = s.back i := by
  cases i with
  | zero => rfl
  | succ i => rw [back, addText, List.drop_modify_of_lt _ _ _ _ (Nat.lt_succ_self i), back]

@[simp] theorem length_addText (s : Slots) (i : Nat) (t : String) :
    (s.addText i t).children.length = s.children.length := by
  cases i <;> simp [addText]

theorem front_insert {s : Slots} {i : Nat} (h : i ≤ s.children.length) (bs : List Branch) :
    (s.insert i bs).front (i + bs.length) = s.front i ++ Branch.content "" bs := by
  have hl : (s.children.take i ++ bs).length = i + bs.length := by simp; omega
  simp only [front, insert]
  rw [List.take_left' hl, Branch.content_append]

theorem back_insert {s : Slots} {i : Nat} (h : i ≤ s.children.length) (bs : List Branch) :
    (s.insert i bs).back (i + bs.length) = s.back i := by
  have hl : (s.children.take i ++ bs).length = i + bs.length := by simp; omega
  simp only [back, insert]
  rw [List.drop_left' hl]

theorem length_insert {s : Slots} {i : Nat} (h : i ≤ s.children.length) (bs : List Branch) :
    (s.insert i bs).children.length = s.children.length + bs.length := by
  simp only [insert, List.length_append, List.length_take, List.length_drop]
  omega

theorem front_setContent {s : Slots} {i : Nat} {b : Branch} (h : s.children[i]? = some b) (c : Content) :
    (s.setContent i c).front (i + 1) = s.front i ++ Branch.content "" [b.setContent c] := by
  obtain ⟨hi, rfl⟩ := List.getElem?_eq_some_iff.1 h
  have hl : (s.children.take i).length = i := List.length_take_of_le (Nat.le_of_lt hi)
  simp only [front, setContent]
  rw [List.modify_eq_take_cons_drop hi, List.take_append, hl, List.take_take, ← Branch.content_append]
  simp

@[simp] theorem length_setContent (s : Slots) (i : Nat) (c : Content) :
    (s.setContent i c).children.length = s.children.length := by
  simp [setContent]

@[simp] theorem back_setContent (s : Slots) (i : Nat) (c : Content) :
    (s.setContent i c).back (i + 1) = s.back (i + 1) := by
  rw [back, setContent, List.drop_modify_of_lt _ _ _ _ (Nat.lt_succ_self i), back]

end Slots

end PromptMarkup
