import PromptMarkup.Document.OfValue
import PromptMarkup.Proofs.Document.Reading
import PromptMarkup.Proofs.Document.Steps

/-!
# Where the faults of a document are

A schema fault names the path of an element, and `Element.Shows` says what is found in the tree when that path is gone:
what the fault says is missing is absent or blank there, and what it says is wrong is wrong there.  The functions that
read a section are gone through one by one.  Each of them is given the path of its element, and its faults extend that
path by the steps to the place where something is wrong (`locates_section?`).
-/

namespace PromptMarkup

/-- A text without other characters than blanks. -/
abbrev Text.IsBlankText (s : String) : Prop := ∀ c ∈ s.toList, Text.isBlank c = true

/-- The path of the content area. -/
def contentPath : String := rootName ++ "/content"

/-- The path of the `k`-th rule. -/
def rulePath (k : Nat) : String := contentPath ++ "/" ++ numberedStep "rule" k

namespace Element

/-- What the last step of a path names is absent or blank: an attribute if the step is marked as one, and otherwise the
first child of the name. -/
def Lacks (e : Element) (last : String) : Prop :=
  match last.toList with
  | '@' :: key => ∀ v, e.attribute? (String.ofList key) = some v → Text.IsBlankText v
  | _ => ∀ c, e.step? last = some c → Text.IsBlankText c.chars

/-- An element stands in the content area of a tree. -/
def HasSection (root e : Element) : Prop := ∃ area, root.at? contentPath = some area ∧ e ∈ area.content.elements

/-- The element of instructions or of output requirements: its title may stand in a header or on its own. -/
def IsGuidance (e : Element) : Prop :=
  localName? e.name = some "instructions" ∨ localName? e.name = some "output-requirements"

/-- The path of the title in the header of instructions or of output requirements. -/
def IsGuidanceTitle (root : Element) (path : String) : Prop :=
  ∃ place e, path = place ++ "/header/title" ∧ root.at? place = some e ∧ e.IsGuidance

/-- The number of a rule, if it has an attribute that is read as an integer. -/
def number? (e : Element) : Option Int := (e.attribute? "id").bind Text.intOf?

/-- The attributes that hold integers, with the local names of their elements. -/
def integerKeys : List (String × String) := [("rule", "id"), ("step", "number")]

/-- If the element at a path is a header, it is the one of the prompt. -/
def OwnHeader (e : Element) (path : String) : Prop := localName? e.name = some "header" → path = rootName ++ "/header"

theorem ownHeader_of_name {e : Element} {path name : String} (hname : localName? e.name = some name)
    (h : name ≠ "header") : e.OwnHeader path :=
  fun hheader => absurd (Option.some.inj (hname.symm.trans hheader)) h

/-- What the path of a fault shows in the tree. -/
inductive Shows (root : Element) : Cause → String → Prop where
  /-- The root has another name. -/
  | wrongRoot {found} (hroot : localName? root.name = some found) (h : found ≠ rootName) :
      Shows root (.wrongRoot rootName found) found
  /-- All steps but the last one lead to an element, and what the last one names is absent or blank there. -/
  | missing {place last e} (hat : root.at? place = some e) (hlast : '/' ∉ last.toList) (h : e.Lacks last)
      (hplain : ¬ root.IsGuidanceTitle (place ++ "/" ++ last)) :
      Shows root (.missingElement (place ++ "/" ++ last)) (place ++ "/" ++ last)
  /-- Instructions or output requirements have a title neither in a header nor on their own, or a blank one. -/
  | untitled {place e} (hat : root.at? place = some e) (hs : root.HasSection e) (hguidance : e.IsGuidance)
      (hheader : ∀ h, e.step? "header" = some h → h.Lacks "title") (htitle : e.Lacks "title") :
      Shows root (.missingElement (place ++ "/header/title")) (place ++ "/header/title")
  /-- The path leads to a rule or a step with a number that is not read as an integer. -/
  | notInteger {path e name key raw} (hat : root.at? path = some e) (hname : localName? e.name = some name)
      (hkey : (name, key) ∈ integerKeys) (hraw : e.attribute? key = some raw) (h : Text.intOf? raw = none) :
      Shows root (.notAnInteger key raw) path
  /-- The path leads to a rule without a number. -/
  | noNumber {path e} (hat : root.at? path = some e) (hname : localName? e.name = some "rule")
      (h : e.attribute? "id" = none) : Shows root .missingRuleNumber path
  /-- The path leads to a rule that has the number of an earlier one. -/
  | repeated {j k e d n} (hj : 0 < j) (hjk : j < k) (hearlier : root.at? (rulePath j) = some d)
      (hat : root.at? (rulePath k) = some e) (hd : d.number? = some n) (he : e.number? = some n) :
      Shows root (.repeatedRuleNumber n) (rulePath k)
  /-- The path leads to a child of the content area that is not of a known kind. -/
  | unknownKind {path e kind} (hat : root.at? path = some e) (hs : root.HasSection e)
      (hname : localName? e.name = some kind) (h : kind ∉ Section.kinds) : Shows root (.unknownSectionKind kind) path

end Element

/-- A fault has the given source, and extends the given path to one that shows it. -/
def Blames (root : Element) (source : Option Path) (path : String) (f : Fault) : Prop :=
  f.source = source ∧ ∃ rest, f.elementPath = some (path ++ rest) ∧ root.Shows f.cause (path ++ rest)

/-- The faults of a reading extend the given path. -/
abbrev Locates {α : Type} (root : Element) (source : Option Path) (path : String) (p : α → Prop)
    (x : Except Failure α) : Prop :=
  Except.Ends p (fun err => ∀ f, err = .fault f → Blames root source path f) x

/-- A reading has no faults. -/
abbrev Quiet {α : Type} (p : α → Prop) (x : Except Failure α) : Prop := Except.Ends p (· = .malformedName) x

section

variable {α β γ : Type} {root e : Element} {source : Option Path} {path : String} {p : α → Prop} {q : β → Prop}
  {r : γ → Prop}

theorem Quiet.locates {x : Except Failure α} (hx : Quiet p x) : Locates root source path p x :=
  hx.imp_error fun _ h f hf => by
    rw [h] at hf
    cases hf

theorem locates_ok {a : α} (h : p a) : Locates root source path p (.ok a) := Except.ends_ok h

theorem locates_fault {f : Fault} (h : Blames root source path f) : Locates root source path p (.error (.fault f)) :=
  Except.ends_error fun _ hf => by
    cases hf
    exact h

theorem Blames.within {s : String} {f : Fault} (h : Blames root source (path ++ s) f) : Blames root source path f := by
  obtain ⟨hsource, rest, hpath, hshows⟩ := h
  rw [String.append_assoc] at hpath hshows
  exact ⟨hsource, s ++ rest, hpath, hshows⟩

/-- The faults of a part are faults of the whole. -/
theorem Locates.within {s : String} {x : Except Failure α} (hx : Locates root source (path ++ s) p x) :
    Locates root source path p x :=
  hx.imp_error fun _ h f hf => (h f hf).within

/-- The path itself shows the fault. -/
theorem blames_self {cause : Cause} (h : root.Shows cause path) :
    Blames root source path { cause, source, elementPath := some path } :=
  ⟨rfl, "", by rw [String.append_empty], by rwa [String.append_empty]⟩

theorem blames_missing (h : root.Shows (.missingElement path) path) : Blames root source path (.missing path source) :=
  blames_self h

/-- What is read in one of two ways, and used after that. -/
theorem Locates.bind_match {o : Option Element} {f : Element → Except Failure β} {g : Except Failure β}
    {k : β → Except Failure γ} :
    (∀ a, o = some a → Locates root source path q (f a)) → (o = none → Locates root source path q g) →
      (∀ b, q b → Locates root source path r (k b)) →
      Locates root source path r (match o with
        | some a => f a >>= k
        | none => g >>= k) := by
  intro hf hg hk
  cases o with
  | some a => exact (hf a rfl).bind hk
  | none => exact (hg rfl).bind hk

end

namespace Element

variable {root e c : Element} {name path last : String}

/-- The children are read, or the name of one of them is not closed. -/
theorem quiet_children (e : Element) (name : String) : Quiet (· = named e.content.elements name) (e.children name) := by
  by_cases h : ∃ c ∈ e.content.elements, localName? c.name = none
  · rw [children_of_exists h]
    exact Except.ends_error rfl
  · rw [children_of_forall fun c hc hnone => h ⟨c, hc, hnone⟩]
    exact Except.ends_ok rfl

theorem quiet_child? (e : Element) (hname : IsBare name) : Quiet (· = e.step? name) (e.child? name) :=
  (quiet_children e name).bind fun cs hcs => Except.ends_ok (by rw [hcs, step?_name hname.bracket])

theorem localName?_of_step? (hname : IsBare name) (h : e.step? name = some c) : localName? c.name = some name := by
  rw [step?_name hname.bracket] at h
  exact localName?_of_mem_named (List.mem_of_head? h)

/-- The only header that is reported to lack something is the one of the prompt. -/
theorem not_isGuidanceTitle (hat : root.at? path = some e) (hlast : '/' ∉ last.toList)
    (hown : e.OwnHeader path) : ¬ root.IsGuidanceTitle (path ++ "/" ++ last) := by
  rintro ⟨place, g, heq, hg, hguidance⟩
  have hsplit : place ++ "/header/title" = place ++ "/" ++ "header" ++ "/" ++ "title" := by simp [String.append_assoc]
  rw [hsplit] at heq
  obtain ⟨rfl, -⟩ := slash_inj hlast (by decide) heq
  rw [at?_slash hg (by decide)] at hat
  have hroot : place ++ "/" ++ "header" = rootName ++ "/" ++ "header" := hown (localName?_of_step? (by decide) hat)
  obtain ⟨rfl, -⟩ := slash_inj (by decide) (by decide) hroot
  obtain ⟨rfl, hname⟩ := eq_root_of_at? hg (by decide)
  rw [Element.IsGuidance, hname] at hguidance
  exact absurd hguidance (by decide)

/-- A member of the children of a name is reached by its number. -/
theorem step?_of_mem_numbered {p : Nat × Element} (hname : IsBare name)
    (h : p ∈ numbered (named e.content.elements name)) : e.step? (numberedStep name p.1) = some p.2 := by
  obtain ⟨⟨c, i⟩, hi, rfl⟩ := List.mem_map.1 h
  obtain ⟨hle, hc⟩ := List.mk_mem_zipIdx_iff_le_and_getElem?_sub.1 hi
  obtain ⟨k, rfl⟩ := Nat.exists_eq_add_of_le' hle
  rw [step?_numberedStep hname.bracket]
  exact hc

theorem lacks_of_step? (hname : IsBare name) (h : ∀ c, e.step? name = some c → c.leaf = "") : e.Lacks name := by
  unfold Lacks
  split
  · next key hkey => exact absurd (by rw [hkey]; rfl) hname.mark
  · exact fun c hc => Text.leaf_eq_empty_iff.1 (h c hc)

theorem lacks_attribute {key : String} (h : e.leafAttribute key = "") : e.Lacks ("@" ++ key) := by
  have hlist : ("@" ++ key).toList = '@' :: key.toList := by simp
  rw [Lacks, hlist]
  simp only [String.ofList_toList]
  intro v hv
  rw [leafAttribute, hv] at h
  exact Text.leaf_eq_empty_iff.1 h

theorem leafOf_eq_empty_iff {o : Option Element} : leafOf o = "" ↔ ∀ c, o = some c → c.leaf = "" := by
  cases o with
  | none => simp [leafOf]
  | some c => simp [leafOf]

theorem lacks_of_leafOf (hname : IsBare name) (h : leafOf (e.step? name) = "") : e.Lacks name :=
  lacks_of_step? hname (leafOf_eq_empty_iff.1 h)

end Element

namespace Reading

open Element

variable {root e : Element} {source : Option Path} {path name : String}

/-! ### Readings without faults -/

theorem quiet_optionalLeaf (e : Element) (hname : IsBare name) :
    Quiet (· = leafOf (e.step? name)) (optionalLeaf e name) :=
  (quiet_child? e hname).bind fun o ho => Except.ends_ok (by rw [ho])

theorem quiet_metadata (e : Element) : Quiet (fun _ => True) (metadata e) := by
  have hvalue (child key : String) (hchild : IsBare child) : Quiet (fun _ => True) (metadataValue e child key) := by
    refine (quiet_child? e hchild).bind fun o _ => ?_
    cases o <;> exact Except.ends_ok trivial
  exact (hvalue _ _ (by decide)).bind fun _ _ => (hvalue _ _ (by decide)).bind fun _ _ =>
    (hvalue _ _ (by decide)).bind fun _ _ => Except.ends_ok trivial

theorem quiet_toc (e : Element) : Quiet (fun _ => True) (toc e) :=
  (quiet_children e "entry").bind fun _ _ => Except.ends_ok trivial

theorem quiet_examples (e : Element) : Quiet (fun _ => True) (examples e) := by
  refine (quiet_child? e (by decide)).bind fun o _ => ?_
  cases o with
  | none => exact Except.ends_ok trivial
  | some x =>
    exact (quiet_child? x (by decide)).bind fun _ _ => (quiet_child? x (by decide)).bind fun _ _ =>
      Except.ends_ok trivial

theorem quiet_restrictions (e : Element) : Quiet (fun _ => True) (restrictions e) :=
  (quiet_optionalLeaf e (by decide)).bind fun _ _ => (quiet_children e "restriction").bind fun _ _ =>
    Except.ends_ok trivial

/-! ### Required children -/

theorem locates_missing {α : Type} {p : α → Prop} {last : String} (hat : root.at? path = some e)
    (hown : e.OwnHeader path) (hlast : '/' ∉ last.toList) (h : e.Lacks last) :
    Locates root source path p (.error (.fault (.missing (path ++ "/" ++ last) source))) :=
  locates_fault (blames_missing (.missing hat hlast h (not_isGuidanceTitle hat hlast hown))).within.within

theorem locates_require (hat : root.at? path = some e) (hown : e.OwnHeader path) (hname : IsBare name) :
    Locates root source path (fun c => e.step? name = some c) (require source e name path) := by
  refine (quiet_child? e hname).locates.bind fun o ho => ?_
  cases o with
  | some c => exact locates_ok ho.symm
  | none =>
    refine locates_missing hat hown hname.slash (lacks_of_step? hname fun c hc => ?_)
    rw [hc] at ho
    cases ho

theorem locates_requireLeaf (hat : root.at? path = some e) (hown : e.OwnHeader path) (hname : IsBare name) :
    Locates root source path (fun _ => True) (requireLeaf source e name path) := by
  refine (locates_require hat hown hname).bind fun c hc => ?_
  by_cases hleaf : c.leaf = ""
  · rw [if_pos hleaf]
    refine locates_missing hat hown hname.slash (lacks_of_step? hname fun d hd => ?_)
    rw [hc] at hd
    cases hd
    exact hleaf
  · rw [if_neg hleaf]
    exact locates_ok trivial

theorem locates_integer? {key : String} (hat : root.at? path = some e) (hname : localName? e.name = some name)
    (hkey : (name, key) ∈ integerKeys) :
    Locates root source path (fun o => o = none → e.attribute? key = none) (integer? source e key path) := by
  unfold integer?
  split
  · next hraw => exact locates_ok fun _ => hraw
  · next raw hraw =>
    split
    · exact locates_ok fun h => by cases h
    · next hint => exact locates_fault (blames_self (.notInteger hat hname hkey hraw hint))

/-! ### The parts of a section -/

/-- The children of a name that are read one by one have their faults at their numbers. -/
theorem locates_mapM_numbered {α : Type} (opening : String) {f : Nat × Element → Except Failure α}
    (hat : root.at? path = some e) (hname : IsBare name) (hopening : opening = "/" ++ name ++ "[")
    (hf : ∀ i c, localName? c.name = some name → root.at? (path ++ opening ++ toString i ++ "]") = some c →
      Locates root source (path ++ opening ++ toString i ++ "]") (fun _ => True) (f (i, c))) :
    Locates root source path (fun _ => True) ((numbered (named e.content.elements name)).mapM f) := by
  suffices heach : ∀ x ∈ numbered (named e.content.elements name), Locates root source path (fun _ => True) (f x) from
    (Except.ends_mapM heach).imp fun _ _ => trivial
  rintro ⟨i, c⟩ hc
  have hpath : path ++ opening ++ toString i ++ "]" = path ++ "/" ++ numberedStep name i := by
    rw [hopening]
    simp [numberedStep, String.append_assoc]
  refine (hf i c (localName?_of_mem_named (mem_of_mem_numbered hc)) ?_).within.within.within
  rw [hpath, at?_slash hat (slash_notMem_numberedStep hname.slash i), step?_of_mem_numbered hname hc]

theorem locates_notes (hat : root.at? path = some e) :
    Locates root source path (fun _ => True) (notes source e path) := by
  refine (quiet_child? e (by decide)).locates.bind fun o ho => ?_
  cases o with
  | none => exact locates_ok trivial
  | some ns =>
    have hnotes : root.at? (path ++ "/" ++ "notes") = some ns := by rw [at?_slash hat (by decide), ← ho]
    refine Locates.within (s := "/") (Locates.within (s := "notes") ?_)
    refine (quiet_children ns "note").locates.bind fun cs hcs => ?_
    subst hcs
    refine locates_mapM_numbered "/note[" hnotes (by decide) (by decide) fun i n hname hn => ?_
    by_cases hterm : n.leafAttribute "term" = ""
    · simp only [hterm, if_true]
      have hpath : path ++ "/notes/note[" ++ toString i ++ "]/@term" =
          path ++ "/" ++ "notes" ++ "/note[" ++ toString i ++ "]" ++ "/" ++ "@term" := by
        simp [String.append_assoc]
      rw [hpath]
      exact locates_missing hn (ownHeader_of_name hname (by decide)) (by decide) (lacks_attribute hterm)
    · simp only [hterm, if_false]
      exact locates_ok trivial

theorem locates_rule (hat : root.at? path = some e) (hname : localName? e.name = some "rule") :
    Locates root source path (fun _ => True) (rule source e path) := by
  have hown : e.OwnHeader path := ownHeader_of_name hname (by decide)
  refine (locates_integer? hat hname (by decide)).bind fun o ho => ?_
  cases o with
  | none => exact locates_fault (blames_self (.noNumber hat hname (ho rfl)))
  | some number =>
    exact (locates_notes hat).bind fun _ _ => (quiet_examples e).locates.bind fun _ _ =>
      (locates_requireLeaf hat hown (by decide)).bind fun _ _ =>
        (locates_requireLeaf hat hown (by decide)).bind fun _ _ =>
          (locates_requireLeaf hat hown (by decide)).bind fun _ _ => locates_ok trivial

theorem locates_template (hat : root.at? path = some e) (hown : e.OwnHeader path) :
    Locates root source path (fun _ => True) (template source e path) :=
  (locates_requireLeaf hat hown (by decide)).bind fun _ _ => (locates_requireLeaf hat hown (by decide)).bind fun _ _ =>
    (locates_require hat hown (by decide)).bind fun _ _ => locates_ok trivial

theorem locates_choice (hat : root.at? path = some e) (hown : e.OwnHeader path) :
    Locates root source path (fun _ => True) (choice source e path) := by
  have hrest (c : Choice) (hc : c.text = "" → e.Lacks "text") :
      Locates root source path (fun _ => True) (do
        if c.text = "" then throw (.fault (.missing (path ++ "/text") source))
        return c) := by
    dsimp only
    split
    · next ht =>
      have hpath : path ++ "/text" = path ++ "/" ++ "text" := by simp [String.append_assoc]
      rw [hpath]
      exact locates_missing hat hown (by decide) (hc ht)
    · exact locates_ok trivial
  refine (quiet_child? e (by decide)).locates.bind fun o ho => ?_
  cases o with
  | some t =>
    refine (quiet_optionalLeaf e (by decide)).locates.bind fun d _ => ?_
    refine Except.Ends.bind (p := fun c : Choice => c.text = "" → e.Lacks "text") (locates_ok fun ht => ?_) hrest
    exact lacks_of_leafOf (by decide) (by rw [← ho]; exact ht)
  | none =>
    refine Except.Ends.bind (p := fun c : Choice => c.text = "" → e.Lacks "text") (locates_ok fun _ => ?_) hrest
    exact lacks_of_leafOf (by decide) (by rw [← ho]; rfl)

theorem locates_questions (hat : root.at? path = some e) (hown : e.OwnHeader path) :
    Locates root source path (fun _ => True) (questions source e path) := by
  refine (quiet_children e "option").locates.bind fun os hos => ?_
  subst hos
  refine Except.Ends.bind (p := fun _ => True)
    (locates_mapM_numbered "/option[" hat (by decide) (by decide) fun i o hname ho =>
      locates_choice ho (ownHeader_of_name hname (by decide))) fun _ _ => ?_
  exact (locates_requireLeaf hat hown (by decide)).bind fun _ _ =>
    (quiet_optionalLeaf e (by decide)).locates.bind fun _ _ =>
      (quiet_optionalLeaf e (by decide)).locates.bind fun _ _ => locates_ok trivial

theorem locates_step (place : Nat) (hat : root.at? path = some e) (hname : localName? e.name = some "step") :
    Locates root source path (fun _ => True) (step source e place path) :=
  (locates_integer? hat hname (by decide)).bind fun _ _ => (quiet_child? e (by decide)).locates.bind fun _ _ =>
    (locates_requireLeaf hat (ownHeader_of_name hname (by decide)) (by decide)).bind fun _ _ =>
      (quiet_optionalLeaf e (by decide)).locates.bind fun _ _ => locates_ok trivial

theorem locates_workflow (hat : root.at? path = some e) (hown : e.OwnHeader path) :
    Locates root source path (fun _ => True) (workflow source e path) := by
  refine (quiet_children e "step").locates.bind fun cs hcs => ?_
  subst hcs
  refine Except.Ends.bind (p := fun _ => True)
    (locates_mapM_numbered "/step[" hat (by decide) (by decide) fun i c hname hc =>
      locates_step i hc hname) fun _ _ => ?_
  exact (locates_requireLeaf hat hown (by decide)).bind fun _ _ =>
    (quiet_optionalLeaf e (by decide)).locates.bind fun _ _ =>
      (quiet_optionalLeaf e (by decide)).locates.bind fun _ _ => locates_ok trivial

theorem locates_guidanceTitle (hat : root.at? path = some e) (hs : root.HasSection e) (hguidance : e.IsGuidance) :
    Locates root source path (fun _ => True) (guidanceTitle source e path) := by
  have hrest (title : String) (ht : title = "" → e.Lacks "title" ∧ ∀ h, e.step? "header" = some h → h.Lacks "title") :
      Locates root source path (fun _ => True)
        (if title = "" then throw (.fault (.missing (path ++ "/header/title") source)) else pure title) := by
    split
    · next htitle =>
      obtain ⟨htitle, hheader⟩ := ht htitle
      exact locates_fault (blames_missing (.untitled hat hs hguidance hheader htitle)).within
    · exact locates_ok trivial
  refine (quiet_child? e (by decide)).locates.bind fun o ho => ?_
  refine Locates.bind_match (q := fun s : String => s = "" → ∀ h, e.step? "header" = some h → h.Lacks "title")
    (fun h hh => ?_) (fun hnone => ?_) fun inHeader hin => ?_
  · refine Quiet.locates ((quiet_optionalLeaf h (by decide)).imp fun s hleaf hempty h' hh' => ?_)
    rw [← ho, hh] at hh'
    cases hh'
    exact lacks_of_leafOf (by decide) (hleaf ▸ hempty)
  · refine locates_ok fun _ h hh => ?_
    rw [← ho, hnone] at hh
    cases hh
  dsimp only
  split
  · next hempty =>
    refine (quiet_optionalLeaf e (by decide)).locates.bind fun title htitle => hrest title fun ht => ?_
    exact ⟨lacks_of_leafOf (by decide) (htitle ▸ ht), hin hempty⟩
  · next hne => exact hrest inHeader fun h => absurd h hne

theorem locates_guidance (hat : root.at? path = some e) (hs : root.HasSection e) (hguidance : e.IsGuidance) :
    Locates root source path (fun _ => True) (guidance source e path) := by
  refine (locates_guidanceTitle hat hs hguidance).bind fun _ _ => ?_
  refine (quiet_child? e (by decide)).locates.bind fun o _ => ?_
  refine Locates.bind_match (q := fun _ => True) (fun r _ => ?_) (fun _ => locates_ok trivial) fun _ _ => ?_
  · exact Quiet.locates ((quiet_restrictions r).map fun _ _ => trivial)
  refine (quiet_child? e (by decide)).locates.bind fun o _ => ?_
  refine Locates.bind_match (q := fun _ => True) (fun r _ => ?_) (fun _ => locates_ok trivial) fun _ _ => ?_
  · exact Quiet.locates ((quiet_children r "rule").map fun _ _ => trivial)
  exact (quiet_optionalLeaf e (by decide)).locates.bind fun _ _ => locates_ok trivial

/-- The faults of a section extend its path to one that shows them. -/
theorem locates_section? (hat : root.at? path = some e) (hs : root.HasSection e)
    (hname : localName? e.name = some name) :
    Locates root source path (fun _ => name ∈ Section.kinds) (section? source name e path) := by
  unfold section?
  split
  · exact (locates_rule hat hname).map fun _ _ => by decide
  · exact (locates_template hat (ownHeader_of_name hname (by decide))).map fun _ _ => by decide
  · exact (locates_questions hat (ownHeader_of_name hname (by decide))).map fun _ _ => by decide
  · exact (locates_workflow hat (ownHeader_of_name hname (by decide))).map fun _ _ => by decide
  · exact (locates_guidance hat hs (.inl hname)).map fun _ _ => by decide
  · exact (locates_guidance hat hs (.inr hname)).map fun _ _ => by decide
  · exact locates_fault (blames_self (.unknownKind hat hs hname (by simp_all [Section.kinds])))

end Reading

end PromptMarkup
