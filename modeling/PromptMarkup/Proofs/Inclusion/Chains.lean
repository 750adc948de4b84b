import Mathlib.Data.List.Chain
import PromptMarkup.Proofs.Files.Unread
import PromptMarkup.Proofs.Inclusion.Graph

/-!
# The chain of a fault

A fault of a load names the documents that lead to the place where it arose.  Up to a document these make up a route
(`View.Route`): each includes the next one, and none is there twice.  A text that cannot be read stands behind the
route of the document that includes it.  The key fact: whatever stops a load in one of the ways that `View.Traced` lists
is truthful about its chain, its source, its cycle and its missing file (`Traced.exists_isTruthful`).
-/

namespace PromptMarkup

namespace View

/-- The documents that lead from the root document to one of them: each includes the next one, and none is there
twice. -/
structure Route (v : View) (root : Location) (chain : Chain) (document : Location) : Prop where
  first : chain.head? = some root
  last : chain.getLast? = some document
  includes : chain.IsChain v.Includes
  nodup : chain.Nodup

namespace Route

variable {v : View} {root document t : Location} {chain : Chain}

theorem root_document (v : View) (root : Location) : v.Route root [root] root where
  first := rfl
  last := rfl
  includes := List.isChain_singleton root
  nodup := List.pairwise_singleton _ root

/-- A document that is included goes on the route if it is not there yet. -/
theorem append (h : v.Route root chain document) (ht : v.Includes document t) (hc : t ∉ chain) :
    v.Route root (chain ++ [t]) t where
  first := by rw [List.head?_append, h.first, Option.some_or]
  last := List.getLast?_concat
  includes := by
    refine List.isChain_append.2 ⟨h.includes, List.isChain_singleton t, ?_⟩
    intro l hl m hm
    rw [h.last] at hl
    cases hl
    cases hm
    exact ht
  nodup := by
    refine List.nodup_append.2 ⟨h.nodup, List.pairwise_singleton _ t, ?_⟩
    rintro l hl m hm rfl
    exact hc (List.mem_singleton.1 hm ▸ hl)

end Route

/-- The faults of a load and where they arise: a document of a route cannot be read, a directive there is none, or
refers to no file, or to a document of the route, or the text that it refers to cannot be read. -/
inductive Traced (v : View) (root : Location) : Fault → Prop where
  | document {chain : Chain} {l cause} (hr : v.Route root chain l) (h : v.document l = .error (.cause cause)) :
      Traced v root { cause, source := some (Path.absolute l), chain := chain.paths }
  | directive {chain : Chain} {l e a cause} (hr : v.Route root chain l) (he : v.document l = .ok e)
      (ha : a ∈ e.content.directives) (h : Directive.ofAttributes a = .error cause) :
      Traced v root { cause, source := some (Path.absolute l), chain := chain.paths }
  | unresolved {chain : Chain} {l e a mode t} (hr : v.Route root chain l) (he : v.document l = .ok e)
      (ha : a ∈ e.content.directives) (ht : v.Leads l a mode t) (hf : v.hasFile t = .ok false) :
      Traced v root (.unresolved (Path.absolute t) (Path.absolute l) chain.paths)
  | circular {chain : Chain} {l t} (hr : v.Route root chain l) (ht : v.Includes l t) (hc : t ∈ chain) :
      Traced v root (.circular (Chain.paths (chain ++ [t])))
  | text {chain : Chain} {l t encoding cause} (hr : v.Route root chain l) (ht : v.IncludesText l t encoding)
      (h : v.text t encoding = .error (.cause cause)) :
      Traced v root { cause, source := some (Path.absolute t), chain := Chain.paths (chain ++ [t]) }

end View

theorem Directive.category_of_ofAttributes {attributes : List (String × String)} {cause : Cause}
    (h : ofAttributes attributes = .error cause) : cause.category = .malformedDocument := by
  unfold ofAttributes at h
  dsimp only at h
  split at h
  · cases h
    rfl
  · split at h <;> cases h
    rfl

namespace Fault

/-- A text could not be read. -/
def IsOfText (f : Fault) : Prop := ∃ detail, f.cause = .unreadableText detail

/-- What a fault says of the documents that led to it is so.  They are those of `chain`, and `last` is the last of
them. -/
structure IsTruthful (fs : FileSystem) (root : Location) (f : Fault) (chain : Chain) (last : Location) : Prop where
  paths : f.chain = chain.paths
  head : chain.head? = some root
  getLast : chain.getLast? = some last
  route : fs.view.Route root chain last ∨
    f.IsOfText ∧ ∃ before document encoding, chain = before ++ [last] ∧ fs.view.Route root before document ∧
      fs.view.IncludesText document last encoding
  source : f.category ≠ .circularInclude → f.source = some (Path.absolute last)
  circular : f.category = .circularInclude → f.source = some (Path.absolute root) ∧
    ∃ t ∈ chain, f.cause = .circularInclude (Chain.paths (chain ++ [t])) ∧ fs.view.Includes last t
  unresolved : f.category = .unresolvedInclude → ∃ t, fs.hasFile t = .ok false ∧
    f.cause = .unresolvedInclude (Path.absolute t) (Path.absolute last) ∧
    ∃ e, fs.document last = .ok e ∧ ∃ a ∈ e.content.directives, ∃ mode, fs.view.Leads last a mode t

section

variable {fs : FileSystem} {root last : Location} {chain : Chain}

/-- A fault at the last document of a route, which is neither a cycle nor a missing file. -/
theorem isTruthful_of_route {cause : Cause} (hr : fs.view.Route root chain last)
    (hc : cause.category ≠ .circularInclude) (hu : cause.category ≠ .unresolvedInclude) :
    IsTruthful fs root { cause, source := some (Path.absolute last), chain := chain.paths } chain last where
  paths := rfl
  head := hr.first
  getLast := hr.last
  route := .inl hr
  source _ := rfl
  circular h := absurd h hc
  unresolved h := absurd h hu

theorem isTruthful_unresolved {e : Element} {a : List (String × String)} {mode : InclusionMode} {t : Location}
    (hr : fs.view.Route root chain last) (he : fs.document last = .ok e) (ha : a ∈ e.content.directives)
    (ht : fs.view.Leads last a mode t) (hf : fs.hasFile t = .ok false) :
    IsTruthful fs root (.unresolved (Path.absolute t) (Path.absolute last) chain.paths) chain last where
  paths := rfl
  head := hr.first
  getLast := hr.last
  route := .inl hr
  source _ := rfl
  circular h := nomatch h
  unresolved _ := ⟨t, hf, rfl, e, he, a, ha, mode, ht⟩

theorem isTruthful_circular {t : Location} (hr : fs.view.Route root chain last) (ht : fs.view.Includes last t)
    (hc : t ∈ chain) : IsTruthful fs root (.circular (Chain.paths (chain ++ [t]))) chain last where
  paths := by simp [Fault.circular, Chain.paths]
  head := hr.first
  getLast := hr.last
  route := .inl hr
  source h := absurd rfl h
  circular _ := by
    refine ⟨?_, t, hc, rfl, ht⟩
    have hfirst := hr.first
    simp [Fault.circular, Chain.paths, hfirst]
  unresolved h := nomatch h

theorem isTruthful_text {document : Location} {encoding detail : String} (hr : fs.view.Route root chain document)
    (ht : fs.view.IncludesText document last encoding) :
    IsTruthful fs root { cause := .unreadableText detail, source := some (Path.absolute last),
                         chain := Chain.paths (chain ++ [last]) } (chain ++ [last]) last where
  paths := rfl
  head := by rw [List.head?_append, hr.first, Option.some_or]
  getLast := List.getLast?_concat
  route := .inr ⟨⟨detail, rfl⟩, chain, document, encoding, rfl, hr, ht⟩
  source _ := rfl
  circular h := nomatch h
  unresolved h := nomatch h

end

end Fault

/-- A fault of a load is truthful. -/
theorem View.Traced.exists_isTruthful {fs : FileSystem} {root : Location} {f : Fault} (h : fs.view.Traced root f) :
    ∃ chain last, f.IsTruthful fs root chain last := by
  cases h with
  | document hr h =>
    refine ⟨_, _, Fault.isTruthful_of_route hr ?_ ?_⟩ <;>
      obtain ⟨_, h⟩ | ⟨_, h⟩ | ⟨_, _, _, _, h⟩ := FileSystem.document_error h <;> cases h <;> simp [Cause.category]
  | directive hr he ha h =>
    have hcategory := Directive.category_of_ofAttributes h
    exact ⟨_, _, Fault.isTruthful_of_route hr (by simp [hcategory]) (by simp [hcategory])⟩
  | unresolved hr he ha ht hf => exact ⟨_, _, Fault.isTruthful_unresolved hr he ha ht hf⟩
  | circular hr ht hc => exact ⟨_, _, Fault.isTruthful_circular hr ht hc⟩
  | text hr ht h =>
    obtain ⟨detail, h⟩ | ⟨_, _, _, _, _, h⟩ := FileSystem.text_error h <;> cases h
    exact ⟨_, _, Fault.isTruthful_text hr ht⟩

end PromptMarkup
