import PromptMarkup.Proofs.Inclusion.Graph

/-!
# The composition that a document stands for

Inclusion as a recursion over mixed content: text is kept, an element is kept with its own content composed,
and a directive gives way to what it includes, the texts that meet becoming one.  Nothing is remembered between
two readings of one file.  The key facts: a text in front of content stays in front of its composition
(`compose_prepend`), and composing contents one after the other composes them both (`compose_append`).
-/

namespace PromptMarkup

/-- What a composed root stands for where it is included: its content from the first child on if it is a
fragment, and itself otherwise. -/
def Element.spliced (root : Element) : Except Failure Content := do
  if (← localName root.name) = fragmentName then return root.content.dropLeading
  else return .ofElement root

namespace View

/-- The content of a document with its directives replaced.  `chain` ends with the document. -/
def compose (v : View) (document : Location) (chain : Chain) (c : Content) :
    Except Failure Content :=
  match c with
  | .text s => return .text s
  | .comment before inside rest => do
    return .comment before inside (← compose v document chain rest)
  | .element before name attributes content rest => do
    if name = includeName then
      let d ← Directive.read attributes document chain
      let ⟨l, _⟩ ← v.locate d.href document chain
      let included ←
        match d.mode with
        | .text encoding => Content.text <$> v.readText l encoding (chain ++ [l])
        | .elements =>
          if chain.contains l then
            throw (.fault (.circular (Chain.paths (chain ++ [l]))))
          else
            let root ← v.readDocument l (chain ++ [l])
            let content ← compose v l (chain ++ [l]) root.content
            Element.spliced { root with content }
      let rest ← compose v document chain rest
      return .text before ++ included ++ rest
    else
      let content ← compose v document chain content
      let rest ← compose v document chain rest
      return .element before name attributes content rest
  termination_by ((v.offChain chain).length, c)
  decreasing_by
    -- An included document leaves fewer files off the chain; within a document, content gets smaller.
    all_goals first
      | exact Prod.Lex.left _ _ (View.offChain_append_lt ‹_ ∈ v.files› ‹¬_›)
      | exact Prod.Lex.right _ (by simp only [Content.comment.sizeOf_spec]; omega)
      | exact Prod.Lex.right _ (by simp only [Content.element.sizeOf_spec]; omega)

/-- The root element of a document, composed. -/
def composition (v : View) (root : Path) : Except Failure Element := do
  let l ← (v.resolve root).mapError Failure.files
  if ← (v.hasFile l).mapError Failure.files then
    let e ← v.readDocument l [l]
    return { e with content := ← v.compose l [l] e.content }
  else throw (.fault { cause := .sourceNotFound, source := some (Path.absolute l) })

/-- What a directive in a document stands for. -/
def inclusion (v : View) (document : Location) (chain : Chain) (attributes : List (String × String)) :
    Except Failure Content := do
  let d ← Directive.read attributes document chain
  let l ← v.locate d.href document chain
  match d.mode with
  | .text encoding => Content.text <$> v.readText l encoding (chain ++ [l.1])
  | .elements =>
    if chain.contains l.1 then
      throw (.fault (.circular (Chain.paths (chain ++ [l.1]))))
    else
      let root ← v.readDocument l (chain ++ [l.1])
      let content ← v.compose l (chain ++ [l.1]) root.content
      Element.spliced { root with content }

section

variable {v : View} {document t : Location} {chain : Chain} {attributes : List (String × String)}

/-- A directive that includes elements, at a file. -/
theorem inclusion_elements (h : v.Leads document attributes .elements t) (hf : v.hasFile t = .ok true) :
    v.inclusion document chain attributes =
      if chain.contains t then throw (.fault (.circular (Chain.paths (chain ++ [t]))))
      else (do
        let root ← v.readDocument t (chain ++ [t])
        let content ← v.compose t (chain ++ [t]) root.content
        Element.spliced { root with content }) := by
  obtain ⟨d, hd, hm, ht⟩ := h
  rw [inclusion, Directive.read_eq_ok.2 hd]
  show v.locate d.href document chain >>= _ = _
  rw [locate_of_hasFile ht hf, hm]
  rfl

/-- A directive that includes a text, at a file. -/
theorem inclusion_text {encoding : String} (h : v.Leads document attributes (.text encoding) t)
    (hf : v.hasFile t = .ok true) :
    v.inclusion document chain attributes = Content.text <$> v.readText t encoding (chain ++ [t]) := by
  obtain ⟨d, hd, hm, ht⟩ := h
  rw [inclusion, Directive.read_eq_ok.2 hd]
  show v.locate d.href document chain >>= _ = _
  rw [locate_of_hasFile ht hf, hm]
  rfl

/-- A directive that stands for something leads to a file. -/
theorem exists_leads_of_inclusion {included : Content} (h : v.inclusion document chain attributes = .ok included) :
    ∃ mode t, v.Leads document attributes mode t ∧ v.hasFile t = .ok true := by
  obtain ⟨d, hd, h⟩ := Except.bind_eq_ok.1 h
  obtain ⟨l, hl, -⟩ := Except.bind_eq_ok.1 h
  exact ⟨d.mode, l, .of_locate hd hl, (locate_eq_ok hl).2⟩

end

section

variable {v : View}

/-- The composition of a root document that is a file. -/
theorem composition_of_hasFile {source : Path} {l : Location} (hr : v.resolve source = .ok l)
    (hf : v.hasFile l = .ok true) :
    v.composition source =
      (do
        let e ← v.readDocument l [l]
        return { e with content := ← v.compose l [l] e.content }) := by
  rw [composition, Except.bind_ok (Except.mapError_eq_ok.2 hr), Except.bind_ok (Except.mapError_eq_ok.2 hf), if_pos rfl]

end

/-- The composition at a file is that of its content. -/
theorem composition_of_document {fs : FileSystem} {root : Path} {l : Location} {e : Element} (h : fs.Holds root l e) :
    fs.view.composition root = ({ e with content := · }) <$> fs.view.compose l [l] e.content := by
  have hread : fs.view.readDocument l [l] = .ok e := by
    rw [readDocument, show fs.view.document l = .ok e from h.document]
    rfl
  rw [composition_of_hasFile h.resolve h.hasFile, Except.bind_ok hread, map_eq_pure_bind]

variable (v : View) (document : Location) (chain : Chain)

theorem compose_text (s : String) : v.compose document chain (.text s) = return .text s := by
  rw [compose]

theorem compose_comment (before inside : String) (rest : Content) :
    v.compose document chain (.comment before inside rest) =
      (do return .comment before inside (← v.compose document chain rest)) := by
  rw [compose]

theorem compose_include (before : String) (attributes : List (String × String)) (content rest : Content) :
    v.compose document chain (.element before includeName attributes content rest) =
      (do
        let included ← v.inclusion document chain attributes
        let rest ← v.compose document chain rest
        return .text before ++ included ++ rest) := by
  rw [compose, if_pos rfl, inclusion]
  simp only [bind_assoc]
  refine bind_congr fun d => bind_congr fun l => ?_
  cases d.mode with
  | text encoding => rfl
  | elements =>
    by_cases hc : chain.contains l.1 = true
    · simp only [hc, if_true]
    · simp only [hc, Bool.false_eq_true, if_false, bind_assoc]

theorem compose_element {name : String} (hn : name ≠ includeName) (before : String)
    (attributes : List (String × String)) (content rest : Content) :
    v.compose document chain (.element before name attributes content rest) =
      (do
        let content ← v.compose document chain content
        let rest ← v.compose document chain rest
        return .element before name attributes content rest) := by
  rw [compose, if_neg hn]

/-- Text in front of content stays in front of its composition. -/
theorem compose_prepend (s : String) (c : Content) :
    v.compose document chain (c.prepend s) = (·.prepend s) <$> v.compose document chain c := by
  cases c with
  | text t => rw [Content.prepend, compose_text, compose_text]; rfl
  | comment b i r =>
    rw [Content.prepend, compose_comment, compose_comment]
    simp only [map_bind, map_pure, Content.prepend]
  | element b n a c r =>
    rw [Content.prepend]
    by_cases hn : n = includeName
    · subst hn
      rw [compose_include, compose_include]
      simp only [map_bind, map_pure, Content.text_append, ← Content.prepend_append, Content.prepend_prepend]
    · rw [compose_element v document chain hn, compose_element v document chain hn]
      simp only [map_bind, map_pure, Content.prepend]

/-- Contents one after the other are composed one after the other. -/
theorem compose_append (c d : Content) :
    v.compose document chain (c ++ d) =
      (do
        let c ← v.compose document chain c
        let d ← v.compose document chain d
        return c ++ d) := by
  induction c with
  | text s => simp only [Content.text_append, compose_prepend, compose_text]; rfl
  | comment b i r ih => simp only [Content.comment_append, compose_comment, ih, bind_assoc, pure_bind]
  | element b n a c r _ ih =>
    by_cases hn : n = includeName
    · subst hn
      simp only [Content.element_append, compose_include, ih, bind_assoc, pure_bind, Content.append_assoc]
    · simp only [Content.element_append, compose_element v document chain hn, ih, bind_assoc, pure_bind]

end View

end PromptMarkup
