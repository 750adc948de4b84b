import PromptMarkup.Except
import PromptMarkup.Tree.Name
import PromptMarkup.Xml.Parse

/-!
# The names of a document that has been read

A name in braces is closed: the reader takes names that hold no brace and puts a namespace in braces before
their local part.  So every name in a document that has been read has a local part (`names_of_parse`).
-/

namespace PromptMarkup.Xml

/-- The elements have local names. -/
def Named (names : List String) : Prop := ∀ n ∈ names, (localName? n).isSome

namespace Scan

variable {α β : Type}

theorem bind_eq_found {s : Scan α} {f : α → List Char → Scan β} {b : β} {r : List Char} :
    s.bind f = .found b r ↔ ∃ a t, s = .found a t ∧ f a t = .found b r := by
  cases s <;> simp [Scan.bind, and_assoc]

theorem map_eq_found {s : Scan α} {f : α → β} {b : β} {r : List Char} :
    s.map f = .found b r ↔ ∃ a, s = .found a r ∧ f a = b := by
  cases s <;> simp [Scan.map, and_left_comm, and_comm]

end Scan

theorem scanName_no_brace {s r : List Char} {name : String} (h : scanName s = .found name r) :
    '\x7b' ∉ name.toList := by
  unfold scanName at h
  split at h
  · cases h
  · rename_i c t
    split at h
    · rename_i hc
      cases h
      have hs : c ≠ '\x7b' := by rintro rfl; exact absurd hc (by decide)
      have ht : '\x7b' ∉ t.takeWhile isNameChar := fun hm =>
        absurd (List.all_eq_true.1 List.all_takeWhile _ hm) (by decide)
      simp [hs.symm, ht]
    · cases h

theorem scanQualified_no_brace {s r : List Char} {name : String} (h : scanQualified s = .found name r) :
    '\x7b' ∉ name.toList := by
  obtain ⟨first, t, hf, h⟩ := Scan.bind_eq_found.1 h
  have h₁ := scanName_no_brace hf
  split at h
  · obtain ⟨second, u, hs, h⟩ := Scan.bind_eq_found.1 h
    have h₂ := scanName_no_brace hs
    split at h
    · cases h
    · cases h
      simp [h₁, h₂]
  · cases h
    exact h₁

theorem scanStartTag_no_brace {s r : List Char} {t : RawTag} (h : scanStartTag s = .found t r) :
    '\x7b' ∉ t.name.toList := by
  obtain ⟨name, u, hn, h⟩ := Scan.bind_eq_found.1 h
  suffices t.name = name by
    rw [this]
    exact scanQualified_no_brace hn
  split at h
  · cases h
  · split at h
    · split at h
      · cases h
      · split at h <;> obtain ⟨_, -, rfl⟩ := Scan.map_eq_found.1 h <;> rfl
    · obtain ⟨_, -, rfl⟩ := Scan.map_eq_found.1 h
      rfl

theorem cutName_no_brace {name : String} (h : '\x7b' ∉ name.toList) : '\x7b' ∉ (cutName name).2.toList := by
  unfold cutName
  simp only
  split
  · exact h
  · rename_i c r hd
    -- The local part ends the name, so its characters are among the name's.
    intro hm
    exact h ((List.dropWhile_suffix _).subset (hd ▸ List.mem_cons_of_mem c (by simpa using hm)))

theorem isSome_localName?_universalName (uri : String) {n : String} (h : '\x7b' ∉ n.toList) :
    (localName? (universalName uri n)).isSome := by
  unfold universalName
  split
  · unfold localName?
    split
    · simp_all
    · rfl
  · have hl : ("\x7b" ++ uri ++ "\x7d" ++ n).toList = '\x7b' :: (uri.toList ++ '\x7d' :: n.toList) := by simp
    have hd : (uri.toList ++ '\x7d' :: n.toList).dropWhile (· != '\x7d') ≠ [] := by
      rw [List.dropWhile_append]
      split <;> simp_all
    unfold localName?
    rw [hl]
    simp only
    split
    · contradiction
    · rfl

theorem isSome_localName?_elementName {b : Bindings} {raw name : String} (hr : '\x7b' ∉ raw.toList)
    (h : b.elementName raw = .ok name) : (localName? name).isSome := by
  have hc := cutName_no_brace hr
  unfold Bindings.elementName at h
  split at h
  · rename_i n hn
    cases h
    exact isSome_localName?_universalName _ (by simpa [hn] using hc)
  · rename_i p n hn
    split at h
    · cases h
      exact isSome_localName?_universalName _ (by simpa [hn] using hc)
    · cases h

theorem isSome_localName?_ofRaw {d : Dtd} {opened : OpenEntities} {b : Bindings} {raw : RawTag} {t : Tag}
    (hr : '\x7b' ∉ raw.name.toList) (h : Tag.ofRaw d opened b raw = .ok t) : (localName? t.name).isSome := by
  obtain ⟨r, -, h⟩ := Except.bind_eq_ok.1 h
  obtain ⟨r', -, h⟩ := Except.bind_eq_ok.1 h
  obtain ⟨attributes, -, h⟩ := Except.bind_eq_ok.1 h
  split at h
  · cases h
  · rename_i name hn
    cases h
    exact isSome_localName?_elementName hr hn

/-! ### Open elements -/

/-- An open element has a local name, and so have the elements in it. -/
structure Frame.Sound (f : Frame) : Prop where
  name : (localName? f.name).isSome
  children : ∀ c ∈ f.children, Named c.2.names

/-- The open elements and the elements in them have local names. -/
def AllSound (stack : List Frame) : Prop := ∀ f ∈ stack, f.Sound

/-- What has been read has local names. -/
def Outcome.Sound : Outcome → Prop
  | closed root _ => Named root.names
  | ended stack => AllSound stack
  | failed _ => True

/-- What is read on has local names. -/
def ReadOn.Sound (go : ReadOn) : Prop := ∀ stack s, AllSound stack → (go stack s).Sound

theorem Frame.Sound.names_close {f : Frame} (h : f.Sound) : Named f.close.names := by
  -- The children are kept backwards, so the content grows at its front as they are folded.
  have hc : ∀ (children : List (List Char × Element)) (rest : Content), (∀ c ∈ children, Named c.2.names) →
      Named rest.names → Named (children.foldl (fun rest c =>
        .element (String.ofList c.1.reverse) c.2.name c.2.attributes c.2.content rest) rest).names := by
    intro children
    induction children with
    | nil => exact fun _ _ h => h
    | cons c children ih =>
      intro rest hc hrest
      rw [List.forall_mem_cons] at hc
      refine ih _ hc.2 fun n hn => ?_
      obtain hn | hn := List.mem_append.1 (show n ∈ c.2.names ++ rest.names from hn)
      · exact hc.1 n hn
      · exact hrest n hn
  exact List.forall_mem_cons.2 ⟨h.name, hc f.children _ h.children (by simp [Named, Content.names])⟩

theorem Frame.Sound.addChild {f : Frame} (h : f.Sound) {e : Element} (he : Named e.names) :
    (f.addChild e).Sound where
  name := h.name
  children := List.forall_mem_cons.2 ⟨he, h.children⟩

theorem AllSound.pushChar {stack : List Frame} (h : AllSound stack) (c : Char) : AllSound (pushChar c stack) := by
  cases stack with
  | nil => exact h
  | cons f r =>
    obtain ⟨hf, hr⟩ := List.forall_mem_cons.1 h
    exact List.forall_mem_cons.2 ⟨⟨hf.name, hf.children⟩, hr⟩

theorem AllSound.readCdata {ending : Ending} {stack stack' : List Frame} {s rest : List Char} (h : AllSound stack)
    (hr : readCdata ending stack s = .ok (stack', rest)) : AllSound stack' := by
  fun_induction Xml.readCdata ending stack s with
  | case5 stack r => 
    cases hr
    exact h
  | case6 stack r ih => exact ih (h.pushChar _) hr
  | case7 stack r _ _ ih => exact ih (h.pushChar _) hr
  | case8 stack c r _ _ _ _ _ _ ih => exact ih (h.pushChar _) hr
  | _ => cases hr

namespace Scope

variable {scope : Scope} {go : ReadOn} {stack : List Frame} {s r : List Char}

theorem sound_scanFailed {α : Type} (scan : Scan α) : (scope.scanFailed s scan).Sound := by
  cases scan <;> trivial

theorem sound_finish (h : AllSound stack) : (scope.finish stack).Sound := by
  unfold finish
  split
  · trivial
  · split
    · trivial
    · exact h

section

variable (hgo : go.Sound) (h : AllSound stack)
include hgo h

theorem sound_complete {e : Element} (he : Named e.names) : (complete go e r stack).Sound := by
  cases stack with
  | nil => exact he
  | cons f below =>
    obtain ⟨hf, hb⟩ := List.forall_mem_cons.1 h
    exact hgo _ _ (List.forall_mem_cons.2 ⟨hf.addChild he, hb⟩)

theorem sound_readEndTag : (scope.readEndTag go stack s r).Sound := by
  unfold readEndTag
  split
  · split
    · trivial
    · split
      · trivial
      · split
        · trivial
        · obtain ⟨hf, hb⟩ := List.forall_mem_cons.1 h
          exact sound_complete hgo hb hf.names_close
  · exact sound_scanFailed _

theorem sound_readStartTag : (scope.readStartTag go stack s r).Sound := by
  unfold readStartTag
  split
  · rename_i raw rest hs
    simp only
    split
    · trivial
    · trivial
    · rename_i t ht
      have hn := isSome_localName?_ofRaw (scanStartTag_no_brace hs) ht
      split
      · exact sound_complete hgo h (by simpa [Named, Element.names, Content.names] using hn)
      · exact hgo _ _ (List.forall_mem_cons.2 ⟨⟨hn, by simp⟩, h⟩)
  · exact sound_scanFailed _

theorem sound_expandEntity {expand : OpenEntities → ReadOn} (he : ∀ opened, (expand opened).Sound)
    (name : String) :
    (scope.expandEntity expand go stack s name r).Sound := by
  unfold expandEntity
  split
  · split <;> trivial
  · split
    · trivial
    · split
      · trivial
      · trivial
      · rename_i text _
        have ht := he (name :: scope.opened) stack text h
        split
        · rename_i hs
          rw [hs] at ht
          exact hgo _ _ ht
        · trivial
        · rename_i hs
          rw [hs] at ht
          exact ht

theorem sound_readReference {expand : OpenEntities → ReadOn} (he : ∀ opened, (expand opened).Sound) :
    (scope.readReference expand go stack s r).Sound := by
  unfold readReference
  split
  · split
    · exact hgo _ _ (h.pushChar _)
    · trivial
  · split
    · exact hgo _ _ (h.pushChar _)
    · exact sound_expandEntity hgo h he _
  · exact sound_scanFailed _

theorem sound_readInstruction : (scope.readInstruction go stack s r).Sound := by
  unfold readInstruction
  split
  · trivial
  · exact hgo _ _ h
  · exact sound_scanFailed _

theorem sound_readComment : (scope.readComment go stack s r).Sound := by
  unfold readComment
  split
  · exact hgo _ _ h
  · exact sound_scanFailed _

theorem sound_readSection : (scope.readSection go stack s r).Sound := by
  unfold readSection
  split
  · split
    · exact hgo _ _ (h.readCdata ‹_›)
    · trivial
  · exact sound_scanFailed _

end

end Scope

/-- Reading content keeps to local names, if reading the texts of entities does. -/
theorem sound_readContent (scope : Scope) {expand : OpenEntities → ReadOn} (he : ∀ opened, (expand opened).Sound)
    (fuel : Nat) : (readContent scope expand fuel).Sound := by
  induction fuel with
  | zero => exact fun _ _ _ => trivial
  | succ fuel ih =>
    intro stack s h
    unfold readContent
    split
    · exact Scope.sound_finish h
    · exact Scope.sound_readEndTag ih h
    · exact Scope.sound_readInstruction ih h
    · exact Scope.sound_scanFailed _
    · exact Scope.sound_scanFailed _
    · exact Scope.sound_readComment ih h
    · trivial
    · exact Scope.sound_readSection ih h
    · trivial
    · exact Scope.sound_readStartTag ih h
    · exact Scope.sound_readReference ih h he
    · trivial
    · split
      · trivial
      · exact ih _ _ (h.pushChar _)
    · exact ih _ _ (h.pushChar _)
    · exact ih _ _ (h.pushChar _)
    · exact ih _ _ (h.pushChar _)

theorem sound_readEntity (dtd : Dtd) (depth : Nat) (opened : OpenEntities) :
    (readEntity dtd depth opened).Sound := by
  induction depth generalizing opened with
  | zero => exact fun _ _ h => h
  | succ depth ih => exact fun stack text h => sound_readContent _ ih _ stack text h

theorem names_of_readFrom {l : Located} {state : PrologState} {e : Element} (h : readFrom l state = .ok e) :
    Named e.names := by
  unfold readFrom at h
  simp only at h
  split at h
  · cases h
  · rename_i dtd r hp
    have hs : (readRoot dtd l.chars.ending r).Sound :=
      sound_readContent _ (sound_readEntity dtd _) _ _ _ (by simp [AllSound])
    split at h
    · cases h
    · cases h
    · rename_i hr
      rw [hr] at hs
      split at h
      · cases h
      · cases h
        exact hs

/-- The elements of a document that has been read have local names. -/
theorem names_of_parse {bs : List UInt8} {e : Element} (h : parse bs = .ok e) : Named e.names := by
  unfold parse at h
  split at h
  · cases h
  · simp only at h
    split at h
    · split at h
      · unfold readDeclared at h
        simp only at h
        split at h
        · cases h
        · split at h
          · exact names_of_readFrom h
          · split at h
            · cases h
            · cases h
            · cases h
            · exact names_of_readFrom h
      · exact names_of_readFrom h
    · exact names_of_readFrom h

end PromptMarkup.Xml
