import PromptMarkup.Proofs.Document.Sections
import PromptMarkup.Xml.Characters

/-!
# The places that faults name

Every schema fault of a tree names a path, and going that path from the root shows in the tree what the fault says
(`Document.ofTree_shows`).  The names of the tree must be such that a path of them can be read, as those of XML are.
-/

namespace PromptMarkup

open Reading Element

/-- A tree in which no local name holds a slash or a bracket, or is marked as an attribute. -/
def Element.BareNames (root : Element) : Prop := ∀ n ∈ root.names, ∀ l ∈ localName? n, IsBare l

instance (root : Element) : Decidable root.BareNames :=
  inferInstanceAs (Decidable (∀ n ∈ root.names, ∀ l ∈ localName? n, IsBare l))

/-- The names of XML are such names, with or without a namespace. -/
theorem Element.bareNames_of_isNameChar {root : Element}
    (h : ∀ n ∈ root.names, ∀ l ∈ localName? n, l.toList.all Xml.isNameChar = true) : root.BareNames := by
  intro n hn l hl
  have hnot (d : Char) (hd : Xml.isNameChar d = false) : d ∉ l.toList := fun hm => by
    rw [List.all_eq_true.1 (h n hn l hl) d hm] at hd
    cases hd
  exact ⟨hnot '/' rfl, hnot '[' rfl, fun hhead => hnot '@' rfl (List.mem_of_head? hhead)⟩

section

variable {source : Option Path} {root area b c : Element} {before rest : List Element} {f : Fault} {name : String}

theorem Element.name_mem_names (h : c ∈ root.content.elements) : c.name ∈ root.names :=
  List.mem_cons_of_mem _ (Content.names_subset_of_mem_elements h List.mem_cons_self)

/-- The children of a child have names of the tree. -/
theorem Element.names_subset_of_step? {s : String} (h : root.step? s = some area) : area.names ⊆ root.names := by
  have hmem : area ∈ root.content.elements := by
    rw [step?] at h
    split at h
    · cases h
    · exact (List.mem_filter.1 (List.mem_of_getElem? h)).1
  exact List.subset_cons_of_subset _ (Content.names_subset_of_mem_elements hmem)

/-- An earlier rule has a smaller number among the rules. -/
theorem Element.exists_at?_rulePath (harea : root.at? contentPath = some area)
    (hes : area.content.elements = before ++ rest) (hb : b ∈ before) (hname : localName? b.name = some "rule") :
    ∃ j, 0 < j ∧ j < (named before "rule").length + 1 ∧ root.at? (rulePath j) = some b := by
  have hmem : b ∈ named before "rule" := List.mem_filter.2 ⟨hb, by simp [hname]⟩
  obtain ⟨i, hi, hget⟩ := List.mem_iff_getElem.1 hmem
  refine ⟨i + 1, i.succ_pos, Nat.succ_lt_succ hi, ?_⟩
  have hnamed : named area.content.elements "rule" = named before "rule" ++ named rest "rule" := by
    rw [hes, named, List.filter_append]
    rfl
  rw [rulePath, at?_slash harea (slash_notMem_numberedStep (by decide) _), step?_numberedStep (by decide), hnamed,
    List.getElem?_append_left hi, List.getElem?_eq_getElem hi, hget]

/-- The fault of a child of the content area shows at its path or below. -/
theorem Reading.FaultOf.blames (harea : root.at? contentPath = some area)
    (hes : area.content.elements = before ++ c :: rest) (hbare : ∀ l, localName? c.name = some l → IsBare l)
    (h : FaultOf source contentPath before c (.fault f)) : Blames root source contentPath f := by
  have hmem : c ∈ area.content.elements := by simp [hes]
  generalize hfault : Failure.fault f = err at h
  cases h with
  | unknownKind hname hkind =>
    cases hfault
    have hat := at?_sectionPath harea hes hname (hbare _ hname)
    exact (blames_self (.unknownKind hat ⟨area, harea, hmem⟩ hname hkind)).within.within
  | invalid hname hkind herr =>
    cases hfault
    exact (blames_of_section? harea hes hname hkind herr).within.within
  | repeatedNumber hname _ hn hb hbname hbn =>
    cases hfault
    have hat : root.at? (rulePath ((named before "rule").length + 1)) = some c :=
      at?_sectionPath harea hes hname (hbare _ hname)
    obtain ⟨j, hj, hjk, hearlier⟩ := exists_at?_rulePath harea hes hb hbname
    exact (blames_self (.repeated hj hjk hearlier hat hbn hn)).within.within

theorem Reading.locates_content (hroot : localName? root.name = some rootName) (hnames : root.BareNames) :
    Locates root source contentPath (fun _ => True) (content source root) := by
  refine (ends_content.imp fun _ _ => trivial).imp_error fun err h f hf => ?_
  subst hf
  obtain h | ⟨before, c, hprefix, -, hfault⟩ := h
  · cases h
  obtain ⟨area, rest, harea, hes⟩ := exists_area_of_prefix hprefix
  have hc : c ∈ area.content.elements := by simp [hes]
  exact hfault.blames ((at?_contentPath hroot).trans harea) hes fun l hl =>
    hnames _ (names_subset_of_step? harea (name_mem_names hc)) l hl

/-- The faults of a tree with the right root show at their paths. -/
theorem Reading.locates_ofTree (hroot : localName? root.name = some rootName) (hnames : root.BareNames) :
    Locates root source rootName (fun _ => True) (Document.ofTree source root) := by
  have hat : root.at? rootName = some root := at?_root hroot (by decide)
  have hlocal : localName root.name = .ok rootName := by rw [localName, hroot]
  refine Except.Ends.bind (p := (· = rootName)) (by rw [hlocal]; exact Except.ends_ok rfl) fun name hname => ?_
  rw [if_neg (not_not.2 hname)]
  have hown : root.OwnHeader rootName := ownHeader_of_name hroot (by decide)
  refine (locates_require hat hown (by decide)).bind fun _ _ => (quiet_metadata _).locates.bind fun _ _ =>
    (locates_require hat hown (by decide)).bind fun header hheader => ?_
  have hheader : root.at? (rootName ++ "/header") = some header := (at?_slash hat (by decide)).trans hheader
  refine (locates_requireLeaf hheader (fun _ => rfl) (by decide)).within.bind fun _ _ => ?_
  refine (locates_content hroot hnames).within.bind fun _ _ => ?_
  refine (quiet_optionalLeaf header (by decide)).locates.bind fun _ _ =>
    (quiet_optionalLeaf header (by decide)).locates.bind fun _ _ =>
      (quiet_child? root (by decide)).locates.bind fun o _ => ?_
  refine Locates.bind_match (q := fun _ => True) (fun t _ => ?_) (fun _ => locates_ok trivial) fun _ _ =>
    locates_ok trivial
  exact Quiet.locates ((quiet_toc t).map fun _ _ => trivial)

end

/-- Every schema fault names a path that shows it in the tree. -/
theorem Document.ofTree_shows (source : Option Path) (root : Element) (hnames : root.BareNames) (f : Fault)
    (h : Document.ofTree source root = .error (.fault f)) :
    ∃ path, f.elementPath = some path ∧ root.Shows f.cause path := by
  cases hroot : localName? root.name with
  | none =>
    rw [Document.ofTree, localName, hroot] at h
    cases h
  | some name =>
    by_cases hname : name = rootName
    · subst hname
      obtain ⟨-, rest, hpath, hshows⟩ := (locates_ofTree hroot hnames).error h f rfl
      exact ⟨_, hpath, hshows⟩
    · have hlocal : localName root.name = .ok name := by rw [localName, hroot]
      rw [Document.ofTree, Except.bind_ok hlocal, if_pos hname] at h
      cases h
      exact ⟨name, rfl, .wrongRoot hroot hname⟩

/-- A prompt whose second instructions hold a comment and have a blank title. -/
def untitledPrompt : Element :=
  ⟨"prompt", [],
    .element "" "metadata" [] (.text "")
      (.element "" "header" [] (.element "" "title" [] (.text "A") (.text ""))
        (.element "" "content" []
          (.element "" "instructions" [] (.element "" "title" [] (.text "First") (.text ""))
            (.element "" "instructions" []
              (.element "" "header" [] (.comment "" "none" (.text ""))
                (.element "" "title" [] (.text " \n") (.text "")))
              (.text "")))
          (.text "")))⟩

/-- The path of the fault leads to the second instructions. -/
theorem shows_untitledPrompt :
    untitledPrompt.Shows (.missingElement "prompt/content/instructions[2]/header/title")
      "prompt/content/instructions[2]/header/title" := by
  have hnames : untitledPrompt.BareNames := Element.bareNames_of_isNameChar (by decide)
  obtain ⟨path, hpath, h⟩ := Document.ofTree_shows none untitledPrompt hnames
    (.missing "prompt/content/instructions[2]/header/title" none) (by decide)
  cases hpath
  exact h

end PromptMarkup
