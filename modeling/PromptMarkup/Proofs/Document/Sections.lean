import Mathlib.Data.List.Forall2
import PromptMarkup.Proofs.Document.Faults
import PromptMarkup.Proofs.Document.Outcome
import PromptMarkup.Proofs.Document.Whereabouts

/-!
# The sections of a document

The content area is read child by child: each child is a section of the kind that its name says, and the first child
with a fault stops the reading.  `Passed` is what is known of the children that are behind; from it the outcome of the
whole area follows by induction on the children that are ahead (`ends_sections`).  The result for documents is
`Document.ofTree_content`.
-/

namespace PromptMarkup

/-- The kind of a section, as its element is named. -/
def Section.kind : Section → String
  | rule _ => "rule"
  | template _ => "template"
  | questions _ => "questions"
  | workflow _ => "workflow"
  | instructions _ => "instructions"
  | outputRequirements _ => "output-requirements"

namespace Reading

open Element

/-! ### The section of one child -/

/-- An element on its own is read as a section of the kind that its local name says. -/
def IsReadAs (c : Element) (s : Section) : Prop :=
  localName? c.name = some s.kind ∧ ∀ source path, section? source s.kind c path = .ok s

section

variable {source : Option Path} {e c : Element} {path name : String} {s : Section} {r : Rule}

theorem kind_eq_of_section? (h : section? source name e path = .ok s) : s.kind = name := by
  unfold section? at h
  split at h
  all_goals first
    | obtain ⟨_, -, rfl⟩ := Except.map_eq_ok.1 h
      rfl
    | cases h

theorem isReadAs_of_section? (hname : localName? e.name = some name) (h : section? source name e path = .ok s) :
    IsReadAs e s := by
  obtain rfl := kind_eq_of_section? h
  refine ⟨hname, fun source' path' => ?_⟩
  have hsame : (section? source s.kind e path).toOption = (section? source' s.kind e path').toOption :=
    paired_section?.toOption_eq
  rw [h] at hsame
  exact Except.toOption_eq_some.1 hsame.symm

theorem mem_kinds_of_section? (h : section? source name e path = .ok s) : name ∈ Section.kinds := by
  rw [← kind_eq_of_section? h]
  cases s <;> simp [Section.kinds, Section.kind]

theorem section?_of_notMem (h : name ∉ Section.kinds) : section? source name e path =
    .error (.fault { cause := .unknownSectionKind name, source, elementPath := some path }) := by
  unfold section?
  split
  all_goals first
    | rfl
    | exact absurd (by decide) h

theorem number?_of_rule (h : rule source e path = .ok r) : e.number? = some r.number := by
  obtain ⟨o, ho, h⟩ := Except.bind_eq_ok.1 h
  cases o with
  | none => cases h
  | some n =>
    have hnumber : e.number? = some n := by
      unfold integer? at ho
      split at ho
      · cases ho
      · next raw hraw =>
        split at ho
        · next hint =>
          cases ho
          rw [number?, hraw, Option.bind_some, hint]
        · cases ho
    simp only [Except.bind_eq_ok] at h
    obtain ⟨m, hm, _, -, _, -, _, -, _, -, _, -, hr⟩ := h
    cases hm
    cases hr
    exact hnumber

/-- The number of a section that is a rule is the one of its element. -/
theorem number?_of_section? (h : section? source name e path = .ok s) (hr : s.rule? = some r) :
    name = "rule" ∧ e.number? = some r.number := by
  cases s with
  | rule r' =>
    cases hr
    obtain rfl : "rule" = name := kind_eq_of_section? h
    obtain ⟨_, hrule, hr⟩ := Except.map_eq_ok.1 h
    cases hr
    exact ⟨rfl, number?_of_rule hrule⟩
  | _ => cases hr

end

/-! ### The first fault -/

/-- The path of a child of an area that follows the given ones. -/
def sectionPath (path : String) (before : List Element) (name : String) : String :=
  path ++ "/" ++ numberedStep name ((named before name).length + 1)

/-- What is wrong with a child of an area that follows the given ones. -/
inductive FaultOf (source : Option Path) (path : String) (before : List Element) (c : Element) : Failure → Prop where
  /-- Its kind is not known. -/
  | unknownKind {name} (hname : localName? c.name = some name) (h : name ∉ Section.kinds) :
      FaultOf source path before c (.fault
        { cause := .unknownSectionKind name, source, elementPath := some (sectionPath path before name) })
  /-- It cannot be read on its own. -/
  | invalid {name err} (hname : localName? c.name = some name) (hkind : name ∈ Section.kinds)
      (h : section? source name c (sectionPath path before name) = .error err) : FaultOf source path before c err
  /-- It is a rule with the number of an earlier one. -/
  | repeatedNumber {s b n} (hname : localName? c.name = some "rule")
      (h : section? source "rule" c (sectionPath path before "rule") = .ok s) (hn : c.number? = some n)
      (hb : b ∈ before) (hbname : localName? b.name = some "rule") (hbn : b.number? = some n) :
      FaultOf source path before c (.fault
        { cause := .repeatedRuleNumber n, source, elementPath := some (sectionPath path before "rule") })

/-- None of the children has a fault. -/
def Faultless (source : Option Path) (path : String) (es : List Element) : Prop :=
  ∀ before c, before ++ [c] <+: es → ∀ err, ¬ FaultOf source path before c err

/-- The failure is the fault of one of the children, and those before it have none. -/
def FirstFault (source : Option Path) (path : String) (es : List Element) (err : Failure) : Prop :=
  ∃ before c, before ++ [c] <+: es ∧ Faultless source path before ∧ FaultOf source path before c err

/-- What is known of the children that have been read: their names and the numbers of the rules among them. -/
structure Passed (before : List Element) (names : List String) (seen : List Int) : Prop where
  names : ∀ name, names.count name = (named before name).length
  seen : ∀ n, n ∈ seen ↔ ∃ b ∈ before, localName? b.name = some "rule" ∧ b.number? = some n

section

variable {source : Option Path} {path name : String} {before es : List Element} {c : Element} {names : List String}
  {seen seen' : List Int} {s : Section}

theorem passed_nil : Passed [] [] [] := ⟨fun _ => rfl, fun n => by simp⟩

theorem faultless_nil : Faultless source path [] := fun before c h => by simp at h

theorem Faultless.concat (h : Faultless source path before) (hc : ∀ err, ¬ FaultOf source path before c err) :
    Faultless source path (before ++ [c]) := by
  intro ds d hd
  obtain hd | hd := List.prefix_concat_iff.1 hd
  · obtain ⟨rfl, hcd⟩ := List.append_inj' hd rfl
    cases hcd
    exact hc
  · exact h ds d hd

/-- A child whose reading fails has that fault. -/
theorem faultOf_of_section? {err : Failure} (hname : localName? c.name = some name)
    (h : section? source name c (sectionPath path before name) = .error err) : FaultOf source path before c err := by
  by_cases hkind : name ∈ Section.kinds
  · exact .invalid hname hkind h
  · rw [section?_of_notMem hkind] at h
    cases h
    exact .unknownKind hname hkind

/-- A child that is read, with a new number if it is a rule, has no fault. -/
theorem not_faultOf (hname : localName? c.name = some name)
    (h : section? source name c (sectionPath path before name) = .ok s)
    (hnew : name = "rule" → ∀ b ∈ before, localName? b.name = some "rule" → ∀ n, c.number? = some n →
      b.number? ≠ some n) (err : Failure) : ¬ FaultOf source path before c err := by
  intro hfault
  cases hfault with
  | unknownKind hname' hkind =>
    cases hname.symm.trans hname'
    exact hkind (mem_kinds_of_section? h)
  | invalid hname' _ herr =>
    cases hname.symm.trans hname'
    rw [h] at herr
    cases herr
  | repeatedNumber hname' _ hn hb hbname hbn =>
    cases hname.symm.trans hname'
    exact hnew rfl _ hb hbname _ hn hbn

/-- After a child its name is known, and its number if it is a rule. -/
theorem Passed.concat (hp : Passed before names seen) (hname : localName? c.name = some name)
    (hseen : ∀ n, n ∈ seen' ↔ n ∈ seen ∨ name = "rule" ∧ c.number? = some n) :
    Passed (before ++ [c]) (name :: names) seen' where
  names l := by
    by_cases hl : name = l
    · simpa [named, hname, hl] using hp.names l
    · simpa [named, hname, hl] using hp.names l
  seen n := by
    simp [hseen, hp.seen, hname, or_and_right, exists_or]

/-- A rule's number is one that was seen before, or it is kept. -/
theorem ends_checkNumber (hp : Passed before names seen) (hname : localName? c.name = some name)
    (h : section? source name c (sectionPath path before name) = .ok s) :
    Except.Ends
      (fun seen' => (∀ err, ¬ FaultOf source path before c err) ∧ Passed (before ++ [c]) (name :: names) seen')
      (FaultOf source path before c) (checkNumber source seen s (sectionPath path before name)) := by
  unfold checkNumber
  split
  · next hnone =>
    have hne : name ≠ "rule" := by
      rintro rfl
      have hkind := kind_eq_of_section? h
      cases s <;> simp_all [Section.kind, Section.rule?]
    refine Except.ends_ok ⟨not_faultOf hname h fun hrule => absurd hrule hne, hp.concat hname fun n => ?_⟩
    simp [hne]
  · next r hr =>
    obtain ⟨rfl, hnumber⟩ := number?_of_section? h hr
    split
    · next hmem =>
      obtain ⟨b, hb, hbname, hbn⟩ := (hp.seen _).1 hmem
      exact Except.ends_error (.repeatedNumber hname h hnumber hb hbname hbn)
    · next hmem =>
      refine Except.ends_ok ⟨not_faultOf hname h fun _ b hb hbname n hn hbn => hmem ?_, hp.concat hname fun n => ?_⟩
      · cases hnumber.symm.trans hn
        exact (hp.seen _).2 ⟨b, hb, hbname, hbn⟩
      · simp [hnumber, eq_comm, or_comm]

/-- The children that are ahead are read one by one, up to the first fault. -/
theorem ends_sections (hp : Passed before names seen) (hf : Faultless source path before) :
    Except.Ends (fun ss => List.Forall₂ IsReadAs es ss ∧ Faultless source path (before ++ es))
      (fun err => err = .malformedName ∨ FirstFault source path (before ++ es) err)
      (sections source path names seen es) := by
  induction es generalizing before names seen with
  | nil => exact Except.ends_ok ⟨.nil, by rwa [List.append_nil]⟩
  | cons c es ih =>
    have hprefix : before ++ [c] <+: before ++ c :: es := ⟨es, by simp⟩
    cases hname : localName? c.name with
    | none =>
      rw [sections, localName, hname]
      exact Except.ends_error (.inl rfl)
    | some name =>
      have hlocal : localName c.name = .ok name := by rw [localName, hname]
      rw [sections, Except.bind_ok hlocal]
      have hplace : path ++ "/" ++ name ++ "[" ++ toString (names.count name + 1) ++ "]" =
          sectionPath path before name := by
        rw [hp.names, sectionPath, numberedStep]
        simp only [String.append_assoc]
      simp only [hplace]
      cases h : section? source name c (sectionPath path before name) with
      | error err => exact Except.ends_error (.inr ⟨before, c, hprefix, hf, faultOf_of_section? hname h⟩)
      | ok s =>
        rw [Except.bind_ok rfl]
        have hcheck := (ends_checkNumber hp hname h).imp_error (r := fun err => err = .malformedName ∨
          FirstFault source path (before ++ c :: es) err) fun err herr => .inr ⟨before, c, hprefix, hf, herr⟩
        refine hcheck.bind fun seen' hseen => ?_
        obtain ⟨hnone, hp'⟩ := hseen
        have hrest := ih hp' (hf.concat hnone)
        rw [List.append_assoc, List.singleton_append] at hrest
        exact hrest.bind fun ss hss => Except.ends_ok ⟨.cons (isReadAs_of_section? hname h) hss.1, hss.2⟩

end

end Reading

/-! ### Documents -/

section

open Reading Element

variable {source : Option Path} {root header title : Element}

/-- The children of the content area, none if there is no area. -/
def Element.sectionElements (root : Element) : List Element :=
  ((root.step? "content").map (·.content.elements)).getD []

theorem Reading.quiet_require {e c : Element} {name path : String} (hname : IsBare name) (h : e.step? name = some c) :
    Quiet (· = c) (require source e name path) := by
  refine (quiet_child? e hname).bind fun o ho => ?_
  rw [ho, h]
  exact Except.ends_ok rfl

theorem Reading.quiet_requireLeaf {e c : Element} {name path : String} (hname : IsBare name) (h : e.step? name = some c)
    (hleaf : c.leaf ≠ "") : Quiet (fun _ => True) (requireLeaf source e name path) := by
  refine (quiet_require hname h).bind fun d hd => ?_
  rw [hd, if_neg hleaf]
  exact Except.ends_ok trivial

/-- The content area is read child by child. -/
theorem Reading.ends_content :
    Except.Ends
      (fun ss => List.Forall₂ IsReadAs root.sectionElements ss ∧ Faultless source contentPath root.sectionElements)
      (fun err => err = .malformedName ∨ FirstFault source contentPath root.sectionElements err)
      (content source root) := by
  refine ((quiet_child? root (by decide)).imp_error fun _ h => .inl h).bind fun o ho => ?_
  rw [sectionElements, ← ho]
  cases o with
  | none => exact Except.ends_ok ⟨.nil, faultless_nil⟩
  | some area => exact ends_sections passed_nil faultless_nil

/-- A tree with the right root, metadata and a title is read as its content area is. -/
theorem Reading.ends_ofTree (source : Option Path) (hroot : localName? root.name = some rootName)
    (hmetadata : root.step? "metadata" ≠ none) (hheader : root.step? "header" = some header)
    (htitle : header.step? "title" = some title) (hleaf : title.leaf ≠ "") :
    Except.Ends
      (fun d => List.Forall₂ IsReadAs root.sectionElements d.sections ∧
        Faultless source contentPath root.sectionElements)
      (fun err => err = .malformedName ∨ FirstFault source contentPath root.sectionElements err)
      (Document.ofTree source root) := by
  have hquiet {α : Type} {p : α → Prop} {x : Except Failure α} (hx : Quiet p x) :
      Except.Ends p (fun err => err = .malformedName ∨ FirstFault source contentPath root.sectionElements err) x :=
    hx.imp_error fun _ h => .inl h
  obtain ⟨m, hm⟩ := Option.ne_none_iff_exists'.1 hmetadata
  have hlocal : localName root.name = .ok rootName := by rw [localName, hroot]
  refine Except.Ends.bind (p := (· = rootName)) (by rw [hlocal]; exact Except.ends_ok rfl) fun name hname => ?_
  rw [if_neg (not_not.2 hname)]
  refine (hquiet (quiet_require (by decide) hm)).bind fun _ _ => (hquiet (quiet_metadata _)).bind fun _ _ =>
    (hquiet (quiet_require (by decide) hheader)).bind fun h hh => ?_
  subst hh
  refine (hquiet (quiet_requireLeaf (by decide) htitle hleaf)).bind fun _ _ => ends_content.bind fun ss hss =>
    (hquiet (quiet_optionalLeaf h (by decide))).bind fun _ _ =>
      (hquiet (quiet_optionalLeaf h (by decide))).bind fun _ _ =>
        (hquiet (quiet_child? root (by decide))).bind fun o _ => ?_
  cases o with
  | none => exact Except.ends_ok hss
  | some t =>
    have htoc : Quiet (fun _ => True) (some <$> toc t) := (quiet_toc t).map fun _ _ => trivial
    exact (hquiet htoc).bind fun _ _ => Except.ends_ok hss

theorem isBare_of_mem_kinds {name : String} (h : name ∈ Section.kinds) : IsBare name :=
  (by decide : ∀ name ∈ Section.kinds, IsBare name) name h

section

variable {area c : Element} {before rest : List Element} {name : String} {f : Fault}

/-- The path of a child of the content area leads to it. -/
theorem Reading.at?_sectionPath (harea : root.at? contentPath = some area)
    (hes : area.content.elements = before ++ c :: rest) (hname : localName? c.name = some name) (hbare : IsBare name) :
    root.at? (sectionPath contentPath before name) = some c := by
  rw [sectionPath, at?_slash harea (slash_notMem_numberedStep hbare.slash _),
    step?_of_elements_eq hes hname hbare.bracket]

/-- A child of a known kind that cannot be read on its own has the fault at its path or below. -/
theorem Reading.blames_of_section? (harea : root.at? contentPath = some area)
    (hes : area.content.elements = before ++ c :: rest) (hname : localName? c.name = some name)
    (hkind : name ∈ Section.kinds)
    (h : section? source name c (sectionPath contentPath before name) = .error (.fault f)) :
    Blames root source (sectionPath contentPath before name) f := by
  have hmem : c ∈ area.content.elements := by simp [hes]
  have hat := at?_sectionPath harea hes hname (isBare_of_mem_kinds hkind)
  exact (locates_section? hat ⟨area, harea, hmem⟩ hname).error h f rfl

/-- A fault of a child names its path, or one that is below it. -/
theorem Reading.FaultOf.exists_elementPath (harea : root.at? contentPath = some area)
    (hes : area.content.elements = before ++ c :: rest) (h : FaultOf source contentPath before c (.fault f)) :
    ∃ name below, localName? c.name = some name ∧
      f.elementPath = some (sectionPath contentPath before name ++ below) := by
  generalize hfault : Failure.fault f = err at h
  cases h with
  | unknownKind hname =>
    cases hfault
    exact ⟨_, "", hname, by simp⟩
  | repeatedNumber hname =>
    cases hfault
    exact ⟨_, "", hname, by simp⟩
  | invalid hname hkind herr =>
    cases hfault
    obtain ⟨-, below, hpath, -⟩ := blames_of_section? harea hes hname hkind herr
    exact ⟨_, below, hname, hpath⟩

end

theorem Element.at?_contentPath (hroot : localName? root.name = some rootName) :
    root.at? contentPath = root.step? "content" := by
  have hpath : contentPath = rootName ++ "/" ++ "content" := by decide
  rw [hpath, at?_slash (at?_root hroot (by decide)) (by decide)]

/-- A child of the content area is one of its element. -/
theorem Element.exists_area_of_prefix {before : List Element} {c : Element}
    (h : before ++ [c] <+: root.sectionElements) :
    ∃ area rest, root.step? "content" = some area ∧ area.content.elements = before ++ c :: rest := by
  obtain ⟨rest, hes⟩ := h
  rw [List.append_assoc, List.singleton_append, sectionElements] at hes
  cases harea : root.step? "content" with
  | none => simp [harea] at hes
  | some area =>
    simp only [harea, Option.map_some, Option.getD_some] at hes
    exact ⟨area, rest, rfl, hes.symm⟩

theorem Element.not_wellNamed {n : String} (hn : n ∈ root.names) (h : localName? n = none) : ¬ root.WellNamed :=
  fun hroot => (localName?_eq_none.1 h).2 (hroot n hn (localName?_eq_none.1 h).1)

open Reading in
/-- A tree with the right root, metadata and a title has one section for each child of its content area, each of them
the one that the child is read as on its own.  Otherwise the first child with a fault is reported, at its path or below,
or a name in the tree opens a namespace that it does not close. -/
theorem Document.ofTree_content (source : Option Path) (root header title : Element)
    (hroot : localName? root.name = some rootName) (hmetadata : root.step? "metadata" ≠ none)
    (hheader : root.step? "header" = some header) (htitle : header.step? "title" = some title)
    (hleaf : title.leaf ≠ "") :
    (∃ d, Document.ofTree source root = .ok d ∧ List.Forall₂ IsReadAs root.sectionElements d.sections ∧
      Faultless source contentPath root.sectionElements) ∨
    (∃ f before c name below, Document.ofTree source root = .error (.fault f) ∧
      before ++ [c] <+: root.sectionElements ∧ Faultless source contentPath before ∧
      FaultOf source contentPath before c (.fault f) ∧ localName? c.name = some name ∧
      f.elementPath = some (sectionPath contentPath before name ++ below)) ∨
    (Document.ofTree source root = .error .malformedName ∧ ¬ root.WellNamed) := by
  have hends := ends_ofTree source hroot hmetadata hheader htitle hleaf
  cases hd : Document.ofTree source root with
  | ok d => exact .inl ⟨d, rfl, hends.ok hd⟩
  | error err =>
    obtain ⟨rfl, n, hn, hnone⟩ | ⟨f, rfl, -⟩ := (reads_ofTree source root).error hd
    · exact .inr (.inr ⟨rfl, not_wellNamed hn hnone⟩)
    obtain h | ⟨before, c, hprefix, hbefore, hfault⟩ := hends.error hd
    · cases h
    obtain ⟨area, rest, harea, hes⟩ := exists_area_of_prefix hprefix
    obtain ⟨name, below, hname, hpath⟩ := hfault.exists_elementPath ((at?_contentPath hroot).trans harea) hes
    exact .inr (.inl ⟨f, before, c, name, below, rfl, hprefix, hbefore, hfault, hname, hpath⟩)

/-- A prompt with two rules of one number and a section of no known kind. -/
def repeatingPrompt : Element :=
  ⟨"prompt", [],
    .element "" "metadata" [] (.text "")
      (.element "" "header" [] (.element "" "title" [] (.text "A") (.text ""))
        (.element "" "content" []
          (.element "" "rule" [("id", "7")]
            (.element "" "title" [] (.text "One") (.element "" "subtitle" [] (.text "two")
              (.element "" "description" [] (.text "three") (.text ""))))
            (.comment "" "between" (.element "" "\x7burn:p\x7drule" [("id", " +07 ")]
              (.element "" "title" [] (.text "One") (.element "" "subtitle" [] (.text "two")
                (.element "" "description" [] (.text "three") (.text ""))))
              (.element "" "other" [] (.text "") (.text "")))))
          (.text "")))⟩

/-- The second rule is the first child with a fault, although the next one is of no known kind. -/
theorem ofTree_repeatingPrompt :
    ∃ f before c name below, Document.ofTree none repeatingPrompt = .error (.fault f) ∧
      before ++ [c] <+: repeatingPrompt.sectionElements ∧ Faultless none contentPath before ∧
      FaultOf none contentPath before c (.fault f) ∧ localName? c.name = some name ∧
      f.elementPath = some (sectionPath contentPath before name ++ below) := by
  obtain ⟨d, hd, -⟩ | h | ⟨-, h⟩ := Document.ofTree_content none repeatingPrompt
    ⟨"header", [], .element "" "title" [] (.text "A") (.text "")⟩ ⟨"title", [], .text "A"⟩ (by decide) (by decide)
    (by decide) (by decide) (by decide)
  · have hnone : (Document.ofTree none repeatingPrompt).toOption = none := by decide
    rw [hd] at hnone
    cases hnone
  · exact h
  · exact absurd (by decide) h

example : Document.ofTree none repeatingPrompt = .error (.fault
    { cause := .repeatedRuleNumber 7, source := none, elementPath := some "prompt/content/rule[2]" }) := by decide

end

end PromptMarkup
