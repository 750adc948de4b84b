/-!
# Mixed content

What stands between the tags of an element: text, elements and comments in turn.  A value holds no two adjacent
texts, so equal content is equal data.  The key facts: putting contents together is associative
(`append_assoc`) with the empty text as neutral element, and character data adds up (`chars_append`).
-/

namespace PromptMarkup

/-- Mixed content: a text, or a text before an element or a comment that more content follows. -/
inductive Content where
  | text (s : String)
  | element (before : String) (name : String) (attributes : List (String × String))
      (content : Content) (rest : Content)
  | comment (before : String) (inside : String) (rest : Content)
  deriving DecidableEq, Repr, Inhabited

/-- An element with its attributes and its content. -/
structure Element where
  name : String
  attributes : List (String × String) := []
  content : Content := .text ""
  deriving DecidableEq, Repr, Inhabited

namespace Content

/-- Content with a text put before it. -/
def prepend (s : String) : Content → Content
  | text t => text (s ++ t)
  | element b n a c r => element (s ++ b) n a c r
  | comment b i r => comment (s ++ b) i r

/-- One content after the other; texts that meet become one. -/
def append : Content → Content → Content
  | text s, d => d.prepend s
  | element b n a c r, d => element b n a c (r.append d)
  | comment b i r, d => comment b i (r.append d)

instance : Append Content := ⟨append⟩

/-- The text before the first child. -/
def leading : Content → String
  | text s => s
  | element b _ _ _ _ => b
  | comment b _ _ => b

/-- The content from the first child on. -/
def dropLeading : Content → Content
  | text _ => text ""
  | element _ n a c r => element "" n a c r
  | comment _ i r => comment "" i r

/-- One element as content. -/
def ofElement (e : Element) : Content := element "" e.name e.attributes e.content (text "")

/-- The elements among the children, in order. -/
def elements : Content → List Element
  | text _ => []
  | element _ n a c r => ⟨n, a, c⟩ :: r.elements
  | comment _ _ r => r.elements

/-- The character data in document order. -/
def chars : Content → String
  | text s => s
  | element b _ _ c r => b ++ c.chars ++ r.chars
  | comment b i r => b ++ i ++ r.chars

/-- The number of children at all depths. -/
def size : Content → Nat
  | text _ => 0
  | element _ _ _ c r => 1 + c.size + r.size
  | comment _ _ r => 1 + r.size

@[simp] theorem text_append (s : String) (d : Content) : text s ++ d = d.prepend s := rfl

@[simp] theorem element_append (b n : String) (a : List (String × String)) (c r d : Content) :
    element b n a c r ++ d = element b n a c (r ++ d) := rfl

@[simp] theorem comment_append (b i : String) (r d : Content) :
    comment b i r ++ d = comment b i (r ++ d) := rfl

@[simp] theorem prepend_empty (c : Content) : c.prepend "" = c := by
  cases c <;> simp [prepend]

theorem prepend_prepend (s t : String) (c : Content) :
    (c.prepend t).prepend s = c.prepend (s ++ t) := by
  cases c <;> simp [prepend, String.append_assoc]

theorem prepend_append (s : String) (c d : Content) : c.prepend s ++ d = (c ++ d).prepend s := by
  cases c with
  | text t => exact (prepend_prepend s t d).symm
  | element b n a c r => simp [prepend]
  | comment b i r => simp [prepend]

@[simp] theorem append_empty (c : Content) : c ++ text "" = c := by
  induction c with
  | text s => simp [prepend]
  | element b n a c r _ ih => simp [ih]
  | comment b i r ih => simp [ih]

theorem append_assoc (c d e : Content) : c ++ d ++ e = c ++ (d ++ e) := by
  induction c with
  | text s => simp [prepend_append]
  | element b n a c r _ ih => simp [ih]
  | comment b i r ih => simp [ih]

@[simp] theorem chars_prepend (s : String) (c : Content) : (c.prepend s).chars = s ++ c.chars := by
  cases c <;> simp [prepend, chars, String.append_assoc]

theorem chars_append (c d : Content) : (c ++ d).chars = c.chars ++ d.chars := by
  induction c with
  | text s => simp [chars]
  | element b n a c r _ ih => simp [chars, ih, String.append_assoc]
  | comment b i r ih => simp [chars, ih, String.append_assoc]

@[simp] theorem elements_prepend (s : String) (c : Content) : (c.prepend s).elements = c.elements := by
  cases c <;> rfl

@[simp] theorem elements_append (c d : Content) : (c ++ d).elements = c.elements ++ d.elements := by
  induction c with
  | text s => simp [elements]
  | element b n a c r _ ih => simp [elements, ih]
  | comment b i r ih => simp [elements, ih]

@[simp] theorem elements_dropLeading (c : Content) : c.dropLeading.elements = c.elements := by
  cases c <;> rfl

@[simp] theorem elements_ofElement (e : Element) : (ofElement e).elements = [e] := rfl

@[simp] theorem size_prepend (s : String) (c : Content) : (c.prepend s).size = c.size := by
  cases c <;> rfl

@[simp] theorem size_append (c d : Content) : (c ++ d).size = c.size + d.size := by
  induction c with
  | text s => simp [size]
  | element b n a c r _ ih => simp [size, ih, Nat.add_assoc]
  | comment b i r ih => simp [size, ih, Nat.add_assoc]

end Content

namespace Element

/-- The value of an attribute. -/
def attribute? (e : Element) (name : String) : Option String :=
  (e.attributes.find? fun a => a.1 == name).map (·.2)

/-- The character data of an element. -/
def chars (e : Element) : String := e.content.chars

end Element

end PromptMarkup
