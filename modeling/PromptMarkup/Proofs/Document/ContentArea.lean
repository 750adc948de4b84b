import PromptMarkup.Document.OfTree

/-!
# The content area of a tree

A document is read from the children of its root.  Of the content area only the elements count: the texts between them,
and the comments, may be any (`ofTree_fill_congr`).
-/

namespace PromptMarkup

/-- A root element around a content area: what stands before the area and behind it. -/
structure Shell where
  name : String
  attributes : List (String × String) := []
  front : Content
  area : String
  areaAttributes : List (String × String) := []
  back : Content

namespace Shell

/-- The root element with something in its content area. -/
def fill (f : Shell) (c : Content) : Element :=
  ⟨f.name, f.attributes, f.front ++ .element "" f.area f.areaAttributes c f.back⟩

/-- What stands in the root element outside the content area. -/
def outside (f : Shell) : Content := f.front ++ f.back

variable {f : Shell} (hf : localName? f.area = some "content") {c d : Content}
include hf

/-- The children with their names, the content area among them. -/
theorem namedChildren_fill (c : Content) :
    (f.fill c).namedChildren =
      (do
        let front ← (Element.mk "" [] f.front).namedChildren
        let back ← (Element.mk "" [] f.back).namedChildren
        return front ++ ("content", ⟨f.area, f.areaAttributes, c⟩) :: back) := by
  have hname : localName f.area = .ok "content" := by rw [localName, hf]
  simp only [Element.namedChildren, fill, Content.elements_append, Content.elements, List.mapM_append, List.mapM_cons,
    hname, bind_assoc, pure_bind]
  rfl

theorem child?_fill_of_ne {name : String} (hn : name ≠ "content") :
    (f.fill c).child? name = (f.fill d).child? name := by
  have hne : ("content" == name) = false := by simpa using hn.symm
  simp only [Element.child?, Element.children, namedChildren_fill hf, bind_assoc, pure_bind, List.filter_append,
    List.filter_cons, hne, Bool.false_eq_true, if_false]

/-- The area that is read has the same elements, whether it is the one that is filled or one before it. -/
theorem elements_child?_fill (h : c.elements = d.elements) :
    (Option.map fun e => e.content.elements) <$> (f.fill c).child? "content" =
      (Option.map fun e => e.content.elements) <$> (f.fill d).child? "content" := by
  simp only [Element.child?, Element.children, namedChildren_fill hf, bind_assoc, pure_bind, map_bind, map_pure]
  refine bind_congr fun front => bind_congr fun back => congrArg pure ?_
  rw [List.filter_append, List.filter_append]
  cases hl : front.filter (fun c => c.1 == "content") with
  | nil => simp [h]
  | cons x xs => simp

theorem content_fill_congr (source : Reading.Source) (h : c.elements = d.elements) :
    Reading.content source (f.fill c) = Reading.content source (f.fill d) := by
  have hread (e : Element) : Reading.content source e =
      (Option.map fun e => e.content.elements) <$> e.child? "content" >>= fun
        | none => pure []
        | some es => Reading.sections source (rootName ++ "/content") [] [] es := by
    rw [Reading.content, bind_map_left]
    refine bind_congr fun a => ?_
    cases a <;> rfl
  rw [hread, hread, elements_child?_fill hf h]

end Shell

/-- A document depends on the elements of its content area alone, and on what stands outside it. -/
theorem Document.ofTree_fill_congr {f : Shell} (hf : localName? f.area = some "content") {c d : Content}
    (h : c.elements = d.elements) (source : Option Path) :
    Document.ofTree source (f.fill c) = Document.ofTree source (f.fill d) := by
  have hchild {name : String} (hn : name ≠ "content") : (f.fill c).child? name = (f.fill d).child? name :=
    Shell.child?_fill_of_ne hf hn
  have hname : (f.fill c).name = (f.fill d).name := rfl
  simp only [Document.ofTree, hname, Reading.require, hchild (show "metadata" ≠ "content" by decide),
    hchild (show "header" ≠ "content" by decide), hchild (show "table-of-contents" ≠ "content" by decide),
    Shell.content_fill_congr hf source h]

end PromptMarkup
