import Mathlib.Logic.Relation
import PromptMarkup.Proofs.Files.Top

/-!
# Which document includes which

The directives of a document that count are those in its root element and not inside another directive.  They
make the documents the nodes of a graph: `View.Includes` for the elements of a document, `View.IncludesText`
for the text of a file, `View.Reaches` for what a root document leads to.
-/

namespace PromptMarkup

/-- The attributes of the directives in content, in order.  What stands inside a directive gives way with it. -/
def Content.directives : Content → List (List (String × String))
  | .text _ => []
  | .comment _ _ r => r.directives
  | .element _ name attributes content r =>
    (if name = includeName then [attributes] else content.directives) ++ r.directives

namespace Content

/-- The encodings in which the directives in content ask for texts. -/
def textEncodings (c : Content) : List String :=
  c.directives.filterMap fun a =>
    match Directive.ofAttributes a with
    | .ok ⟨_, .text encoding⟩ => some encoding
    | _ => none

@[simp] theorem directives_prepend (s : String) (c : Content) : (c.prepend s).directives = c.directives := by
  cases c <;> rfl

@[simp] theorem directives_append (c d : Content) : (c ++ d).directives = c.directives ++ d.directives := by
  induction c with
  | text s => simp [directives]
  | element b n a c r _ ih => simp [directives, ih]
  | comment b i r ih => simp [directives, ih]

end Content

theorem Directive.read_eq_ok {attributes : List (String × String)} {document : Location} {chain : Chain}
    {d : Directive} : Directive.read attributes document chain = .ok d ↔ ofAttributes attributes = .ok d := by
  rw [Directive.read, Except.mapError_eq_ok]

namespace View

theorem locate_eq_ok {v : View} {href : String} {document : Location} {chain : Chain}
    {l : { l : Location // l ∈ v.files }} (h : v.locate href document chain = .ok l) :
    v.target href document = .ok l.1 ∧ v.hasFile l.1 = .ok true := by
  unfold locate at h
  split at h
  · cases h
  · rename_i t ht
    split at h
    · cases h
    · cases h
      exact ⟨ht, ‹_›⟩
    · cases h

/-- A directive with these attributes in a document leads to a location. -/
def Leads (v : View) (l : Location) (attributes : List (String × String)) (mode : InclusionMode)
    (t : Location) : Prop :=
  ∃ d, Directive.ofAttributes attributes = .ok d ∧ d.mode = mode ∧ v.target d.href l = .ok t

theorem Leads.of_locate {v : View} {document : Location} {chain : Chain} {attributes : List (String × String)}
    {d : Directive} {l : { l : Location // l ∈ v.files }} (hd : Directive.read attributes document chain = .ok d)
    (hl : v.locate d.href document chain = .ok l) : v.Leads document attributes d.mode l.1 :=
  ⟨d, Directive.read_eq_ok.1 hd, rfl, (locate_eq_ok hl).1⟩

theorem Leads.unique {v : View} {l t u : Location} {attributes : List (String × String)}
    {mode mode' : InclusionMode}
    (h : v.Leads l attributes mode t) (h' : v.Leads l attributes mode' u) : mode = mode' ∧ t = u := by
  obtain ⟨d, hd, rfl, ht⟩ := h
  obtain ⟨d', hd', rfl, hu⟩ := h'
  obtain rfl : d = d' := by simpa [hd] using hd'
  exact ⟨rfl, by simpa [ht] using hu⟩

/-- A document includes the elements of another. -/
def Includes (v : View) (l t : Location) : Prop :=
  ∃ e, v.document l = .ok e ∧ ∃ a ∈ e.content.directives, v.Leads l a .elements t

/-- A document includes the text of a file in an encoding. -/
def IncludesText (v : View) (l t : Location) (encoding : String) : Prop :=
  ∃ e, v.document l = .ok e ∧ ∃ a ∈ e.content.directives, v.Leads l a (.text encoding) t

/-- A text is included in an encoding that the document names. -/
theorem IncludesText.exists_document {v : View} {l t : Location} {encoding : String}
    (h : v.IncludesText l t encoding) : ∃ e, v.document l = .ok e ∧ encoding ∈ e.content.textEncodings := by
  obtain ⟨e, he, a, ha, ⟨href, mode⟩, hd, rfl, -⟩ := h
  exact ⟨e, he, List.mem_filterMap.2 ⟨a, ha, by simp [hd]⟩⟩

/-- A document is the root document at a path, or is included by one that the path reaches. -/
def Reaches (v : View) (root : Path) (t : Location) : Prop :=
  ∃ l, v.resolve root = .ok l ∧ Relation.ReflTransGen v.Includes l t

theorem Reaches.root {v : View} {root : Path} {l : Location} (h : v.resolve root = .ok l) : v.Reaches root l :=
  ⟨l, h, .refl⟩

theorem Reaches.includes {v : View} {root : Path} {l t : Location} (h : v.Reaches root l) (ht : v.Includes l t) :
    v.Reaches root t := by
  obtain ⟨r, hr, hl⟩ := h
  exact ⟨r, hr, hl.tail ht⟩

/-- A document that includes no other one leads to itself only. -/
theorem Reaches.eq_of_alone {v : View} {root : Path} {l t : Location} (h : v.Reaches root t)
    (hr : v.resolve root = .ok l) (halone : ∀ u, ¬ v.Includes l u) : t = l := by
  obtain ⟨r, hr', hreach⟩ := h
  cases hr.symm.trans hr'
  obtain rfl | ⟨u, hu, -⟩ := hreach.cases_head
  · rfl
  · exact absurd hu (halone u)

section

variable {v w : View} (hr : v.resolve = w.resolve) (hd : v.document = w.document)
include hr hd

theorem includes_congr : v.Includes = w.Includes := by
  funext l t
  simp only [Includes, Leads, target, hr, hd]

theorem includesText_congr : v.IncludesText = w.IncludesText := by
  funext l t encoding
  simp only [IncludesText, Leads, target, hr, hd]

theorem reaches_congr : v.Reaches = w.Reaches := by
  funext root t
  simp only [Reaches, hr, includes_congr hr hd]

end

/-- Documents that include only documents of theirs, and texts only in allowed encodings. -/
structure Closed (v : View) (documents : Location → Prop) (reads : Location → String → Prop) : Prop where
  includes : ∀ {l t}, documents l → v.Includes l t → documents t
  includesText : ∀ {l t encoding}, documents l → v.IncludesText l t encoding → reads t encoding

/-- Content that stands in a document: it has no directives but the document's. -/
def Holds (v : View) (l : Location) (c : Content) : Prop :=
  ∃ e, v.document l = .ok e ∧ c.directives ⊆ e.content.directives

variable {v : View} {l : Location}

theorem Holds.document {e : Element} (h : v.document l = .ok e) : v.Holds l e.content :=
  ⟨e, h, List.Subset.refl _⟩

theorem Holds.mono {c d : Content} (h : v.Holds l c) (hd : d.directives ⊆ c.directives) : v.Holds l d := by
  obtain ⟨e, he, hc⟩ := h
  exact ⟨e, he, List.Subset.trans hd hc⟩

theorem Holds.includes {c : Content} (h : v.Holds l c) {a : List (String × String)} (ha : a ∈ c.directives)
    {t : Location} (ht : v.Leads l a .elements t) : v.Includes l t := by
  obtain ⟨e, he, hc⟩ := h
  exact ⟨e, he, a, hc ha, ht⟩

theorem Holds.includesText {c : Content} (h : v.Holds l c) {a : List (String × String)} (ha : a ∈ c.directives)
    {t : Location} {encoding : String} (ht : v.Leads l a (.text encoding) t) : v.IncludesText l t encoding := by
  obtain ⟨e, he, hc⟩ := h
  exact ⟨e, he, a, hc ha, ht⟩

end View

end PromptMarkup
