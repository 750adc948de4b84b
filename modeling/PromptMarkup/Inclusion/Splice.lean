import PromptMarkup.Inclusion.Loading
import PromptMarkup.Tree.Slots

/-!
# Splicing

The children of an element are visited from left to right.  An include directive is taken away, what it
includes is put in its place, and the visit goes on behind that.  What comes from another document is resolved
in that document's own right, and a document is not included on its own chain; since the files are finitely
many, this ends.
-/

namespace PromptMarkup

namespace Slots

/-- A visited child is left behind. -/
theorem size_back_succ_lt {s : Slots} {i : Nat} {b : Branch} (h : s.children[i]? = some b) :
    (s.back (i + 1)).size < (s.back i).size := by
  rw [back_of_getElem? h]
  obtain ⟨_ | _, t⟩ := b <;>
    simp only [Branch.content, Content.element_append, Content.comment_append, Content.text_append, Content.size,
      Content.size_prepend] <;>
    omega

/-- The content of a child is smaller than what is left to visit. -/
theorem size_back_slots_lt {s : Slots} {i : Nat} {e : Element} {t : String}
    (h : s.children[i]? = some ⟨.element e, t⟩) : (e.content.slots.back 0).size < (s.back i).size := by
  have hc : (e.content.slots.back 0).size = e.content.size := by
    have := congrArg Content.size (front_append_back e.content.slots 0)
    simpa [Content.size] using this
  rw [back_of_getElem? h, hc]
  simp [Branch.content, Content.size]
  omega

/-- The position of a directive is where the visit goes on once text stands in its place. -/
theorem back_erase_addText {s : Slots} {i : Nat} {b : Branch} (h : s.children[i]? = some b) (t : String) :
    ((s.erase i).addText i t).back i = s.back (i + 1) := by
  rw [back_addText, back_erase (List.getElem?_eq_some_iff.1 h).1]

/-- The visit goes on behind the children that stand in a directive's place. -/
theorem back_erase_insert {s : Slots} {i : Nat} {b : Branch} (h : s.children[i]? = some b) (bs : List Branch)
    (t : String) :
    (((s.erase i).insert i bs).addText (i + bs.length) t).back (i + bs.length) = s.back (i + 1) := by
  have hi := (List.getElem?_eq_some_iff.1 h).1
  have hl := length_erase hi
  rw [back_addText, back_insert (by omega), back_erase hi]

end Slots

/-- What a resolved root contributes where it is included: its children if it is a fragment, and itself
otherwise. -/
def contribution (root : Element) : Except Failure (List Branch) := do
  if (← localName root.name) = fragmentName then return root.content.slots.children
  else return [⟨.element root, ""⟩]

/-- The content of an element with the directives from a position on replaced.  `chain` ends with the document
that the element stands in. -/
def resolve (v : View) (document : Location) (chain : Chain) (index : Nat) (parent : Slots) :
    Loading Slots :=
  match h : parent.children[index]? with
  | none => return parent
  | some ⟨.comment _, _⟩ => resolve v document chain (index + 1) parent
  | some ⟨.element e, tail⟩ => do
    if e.name = includeName then
      let d ← liftM (Directive.read e.attributes document chain)
      let ⟨l, _⟩ ← liftM (v.locate d.href document chain)
      let rest := parent.erase index
      match d.mode with
      | .text encoding =>
        let s ← Loading.text v l encoding (chain ++ [l])
        resolve v document chain index (rest.addText index (s ++ tail))
      | .elements =>
        if chain.contains l then
          throw (.fault (.circular (Chain.paths (chain ++ [l]))))
        else
          let root ← Loading.document v l (chain ++ [l])
          let resolved ← resolve v l (chain ++ [l]) 0 root.content.slots
          let branches ← liftM (contribution { root with content := resolved.content })
          let next := index + branches.length
          resolve v document chain next ((rest.insert index branches).addText next tail)
    else
      let resolved ← resolve v document chain 0 e.content.slots
      resolve v document chain (index + 1) (parent.setContent index resolved.content)
  termination_by ((v.offChain chain).length, (parent.back index).size)
  decreasing_by
    -- An included document leaves fewer files off the chain.  Within an element the part behind the index
    -- shrinks, also where a text or an empty fragment takes a directive's place and the index stays.
    · exact Prod.Lex.right _ (Slots.size_back_succ_lt h)
    · rw [Slots.back_erase_addText h]
      exact Prod.Lex.right _ (Slots.size_back_succ_lt h)
    · exact Prod.Lex.left _ _ (View.offChain_append_lt ‹_ ∈ v.files› ‹¬_›)
    · rw [Slots.back_erase_insert h]
      exact Prod.Lex.right _ (Slots.size_back_succ_lt h)
    · exact Prod.Lex.right _ (Slots.size_back_slots_lt h)
    · rw [Slots.back_setContent]
      exact Prod.Lex.right _ (Slots.size_back_succ_lt h)

section

variable {v : View} {document : Location} {chain : Chain} {index : Nat} {parent : Slots}

theorem resolve_none (h : parent.children[index]? = none) :
    resolve v document chain index parent = pure parent := by
  rw [resolve]
  split <;> simp_all

theorem resolve_comment {inside tail : String} (h : parent.children[index]? = some ⟨.comment inside, tail⟩) :
    resolve v document chain index parent = resolve v document chain (index + 1) parent := by
  rw [resolve]
  split <;> simp_all

theorem resolve_element {e : Element} {tail : String} (h : parent.children[index]? = some ⟨.element e, tail⟩)
    (hn : e.name ≠ includeName) :
    resolve v document chain index parent =
      (do
        let resolved ← resolve v document chain 0 e.content.slots
        resolve v document chain (index + 1) (parent.setContent index resolved.content)) := by
  rw [resolve]
  split <;> simp_all

theorem resolve_include {e : Element} {tail : String} (h : parent.children[index]? = some ⟨.element e, tail⟩)
    (hn : e.name = includeName) :
    resolve v document chain index parent =
      (do
        let d ← liftM (Directive.read e.attributes document chain)
        let l ← liftM (v.locate d.href document chain)
        match d.mode with
        | .text encoding =>
          let s ← Loading.text v l encoding (chain ++ [l.1])
          resolve v document chain index ((parent.erase index).addText index (s ++ tail))
        | .elements =>
          if chain.contains l.1 then
            throw (.fault (.circular (Chain.paths (chain ++ [l.1]))))
          else
            let root ← Loading.document v l (chain ++ [l.1])
            let resolved ← resolve v l (chain ++ [l.1]) 0 root.content.slots
            let branches ← liftM (contribution { root with content := resolved.content })
            let next := index + branches.length
            resolve v document chain next (((parent.erase index).insert index branches).addText next tail)) := by
  rw [resolve]
  split
  · simp_all
  · simp_all
  · rename_i e' tail' h'
    obtain ⟨rfl, rfl⟩ : e' = e ∧ tail' = tail := by simp_all
    rw [if_pos hn]

end

/-- The composed tree of a root document. -/
def load (v : View) (root : Path) : Loading Element := do
  let l ← liftM ((v.resolve root).mapError Failure.files)
  if ← liftM ((v.hasFile l).mapError Failure.files) then
    let e ← Loading.document v l [l]
    let resolved ← resolve v l [l] 0 e.content.slots
    return { e with content := resolved.content }
  else throw (.fault { cause := .sourceNotFound, source := some (Path.absolute l) })

/-- The composed tree of a root document, everything being read anew. -/
def loadFresh (v : View) (root : Path) : Except Failure Element := ((load v root).outcome {}).1

end PromptMarkup
