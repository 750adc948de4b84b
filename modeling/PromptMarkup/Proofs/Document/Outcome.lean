import Mathlib.Data.List.TakeWhile
import PromptMarkup.Proofs.Document.Reading

/-!
# How a reading ends

A tree whose names are well formed is read as a document, or there is a schema fault with the source of the document
(`ofTree_outcome`).  The document has no layout left in its texts, none of them is empty that is printed as a
heading or at the head of an item, and no two of its rules have one number.
-/

namespace PromptMarkup

/-- A name has no local part when it opens a namespace that it does not close. -/
theorem localName?_eq_none {name : String} :
    localName? name = none ↔ name.toList.head? = some '\x7b' ∧ '\x7d' ∉ name.toList := by
  have hclosed (r : List Char) : r.dropWhile (· != '\x7d') = [] ↔ '\x7d' ∉ r := by
    rw [List.dropWhile_eq_nil_iff]
    simp only [bne_iff_ne, ne_eq]
    exact ⟨fun h hm => h _ hm rfl, fun h c hc => fun he => h (he ▸ hc)⟩
  unfold localName?
  split
  · next r hr =>
    rw [hr, List.head?_cons, List.mem_cons, not_or, ← hclosed]
    cases r.dropWhile (· != '\x7d') <;> simp
  · next hr =>
    simp only [reduceCtorEq, false_iff, not_and]
    intro hhead
    obtain ⟨r, hname⟩ := List.head?_eq_some_iff.1 hhead
    exact absurd hname (hr r)

/-- A tree in which every name that opens a namespace closes it. -/
def Element.WellNamed (e : Element) : Prop := ∀ n ∈ e.names, n.toList.head? = some '\x7b' → '\x7d' ∈ n.toList

instance (e : Element) : Decidable e.WellNamed := inferInstanceAs (Decidable (∀ n ∈ e.names, _ → _))

/-- A tree whose names are well formed is read as a document with tidy texts and different rule numbers, or there is a
schema fault with the source of the document. -/
theorem Document.ofTree_outcome (source : Option Path) (root : Element) (h : root.WellNamed) :
    (∃ f : Fault, Document.ofTree source root = .error (.fault f) ∧ .schema ∈ f.category.families ∧
      f.source = source) ∨
    ∃ d : Document, Document.ofTree source root = .ok d ∧ (d.rules.map Rule.number).Nodup ∧ d.repeatedNumber? = none ∧
      ∀ t ∈ d.leafTexts, t.IsRead ∧ Text.IsTidy t.text.toList := by
  have hreads := reads_ofTree source root
  cases hd : Document.ofTree source root with
  | error e =>
    obtain ⟨-, n, hn, hnone⟩ | ⟨f, rfl, hf⟩ := hreads.error hd
    · obtain ⟨hopen, hclose⟩ := localName?_eq_none.1 hnone
      exact absurd (h n hn hopen) hclose
    · exact .inl ⟨f, rfl, hf⟩
  | ok d =>
    have hw := hreads.ok hd
    refine .inr ⟨d, rfl, hw.numbers, hw.repeatedNumber?_eq_none, fun t ht => ?_⟩
    have hread := hw.leafTexts t ht
    exact ⟨hread, Text.leaf_eq_self_iff.1 hread.leaf_text⟩

/-- A prompt in a namespace, laid out on several lines, with a rule. -/
def namespacedPrompt : Element :=
  ⟨"\x7burn:p\x7dprompt", [],
    .element "\n  " "\x7burn:p\x7dmetadata" [("description", " about \n this ")] (.text "")
      (.element "\n  " "\x7burn:p\x7dheader" []
        (.element "" "\x7burn:p\x7dtitle" [] (.text "\n  A   title\n") (.text ""))
        (.element "\n  " "content" []
          (.element "" "rule" [("id", " +07 ")]
            (.element "" "title" [] (.text "One") (.element "" "subtitle" [] (.text " two")
              (.element "" "description" [] (.text "three\tfour") (.text "")))) (.text ""))
          (.text "\n")))⟩

/-- The prompt is read as a document. -/
theorem exists_ofTree_namespacedPrompt :
    ∃ d : Document, Document.ofTree none namespacedPrompt = .ok d ∧ (d.rules.map Rule.number).Nodup ∧
      d.repeatedNumber? = none ∧ ∀ t ∈ d.leafTexts, t.IsRead ∧ Text.IsTidy t.text.toList := by
  refine (Document.ofTree_outcome none namespacedPrompt (by decide)).resolve_left ?_
  rintro ⟨f, hf, -⟩
  have hsome : (Document.ofTree none namespacedPrompt).toOption.isSome = true := by decide
  rw [hf] at hsome
  cases hsome

end PromptMarkup
