import PromptMarkup.Proofs.Inclusion.Cycles

/-!
# Character data of a composition

The text that a document and the documents that it includes hold, piece by piece in the order in which it stands there
(`View.Passages`).  A fragment is included from its first child on, so what stands before that child is lost with its
root.  The main result: nothing else is lost, and nothing is added or moved (`chars_loadFresh`).
-/

namespace PromptMarkup

/-! ### Passages -/

/-- A piece of character data: a text, the place where a child starts, or a text that is lost with the root of a
fragment. -/
inductive Passage where
  | text (s : String)
  | child
  | lost (s : String)
  deriving DecidableEq, Repr

namespace Passage

/-- All character data of some passages, whether or not it is lost. -/
def whole : List Passage → String
  | [] => ""
  | text s :: r => s ++ whole r
  | child :: r => whole r
  | lost s :: r => s ++ whole r

/-- The character data of some passages that is not lost. -/
def kept : List Passage → String
  | [] => ""
  | text s :: r => s ++ kept r
  | child :: r => kept r
  | lost _ :: r => kept r

/-- What is not lost before the first child. -/
def opening : List Passage → String
  | text s :: r => s ++ opening r
  | lost _ :: r => opening r
  | _ => ""

/-- The passages of a fragment where it is included: those before its first child are lost. -/
def spliced : List Passage → List Passage
  | text s :: r => lost s :: spliced r
  | lost s :: r => lost s :: spliced r
  | ps => ps

variable (ps qs : List Passage)

theorem kept_append : kept (ps ++ qs) = kept ps ++ kept qs := by
  induction ps with
  | nil => simp [kept]
  | cons p ps ih => cases p <;> simp [kept, ih, String.append_assoc]

theorem opening_append :
    opening (ps ++ qs) = if child ∈ ps then opening ps else opening ps ++ opening qs := by
  induction ps with
  | nil => simp [opening]
  | cons p ps ih =>
    cases p with
    | child => simp [opening]
    | lost s => simp [opening, ih]
    | text s =>
      simp only [List.cons_append, opening, ih, List.mem_cons, reduceCtorEq, false_or]
      split
      · rfl
      · rw [String.append_assoc]

theorem opening_spliced : opening (spliced ps) = "" := by
  induction ps with
  | nil => rfl
  | cons p ps ih => cases p <;> simp [opening, spliced, ih]

theorem child_mem_spliced : child ∈ spliced ps ↔ child ∈ ps := by
  induction ps with
  | nil => rfl
  | cons p ps ih => cases p <;> simp [spliced, ih]

/-- Splicing loses what stands before the first child. -/
theorem opening_append_kept_spliced : opening ps ++ kept (spliced ps) = kept ps := by
  induction ps with
  | nil => rfl
  | cons p ps ih => cases p <;> simp [opening, kept, spliced, String.append_assoc, ih]

theorem length_kept_le : (kept ps).length ≤ (whole ps).length := by
  induction ps with
  | nil => exact Nat.le_refl _
  | cons p ps ih =>
    cases p <;> simp only [kept, whole, String.length_append] <;> omega

/-- Nothing is lost but what is marked so. -/
theorem kept_eq_whole : kept ps = whole ps ↔ ∀ s, lost s ∈ ps → s = "" := by
  induction ps with
  | nil => simp [kept, whole]
  | cons p ps ih =>
    cases p with
    | text s => simpa [kept, whole] using ih
    | child => simpa [kept, whole] using ih
    | lost s =>
      simp only [kept, whole, List.mem_cons, lost.injEq, forall_eq_or_imp]
      constructor
      · intro h
        have hlength := congrArg String.length h
        have hle := length_kept_le ps
        rw [String.length_append] at hlength
        obtain rfl : s = "" := String.length_eq_zero_iff.1 (by omega)
        exact ⟨rfl, ih.1 (by simpa using h)⟩
      · rintro ⟨rfl, h⟩
        simpa using ih.2 h

end Passage

/-! ### Contents and their passages -/

namespace Content

/-- Whether content has no children. -/
def isText : Content → Bool
  | text _ => true
  | _ => false

@[simp] theorem isText_prepend (s : String) (c : Content) : (c.prepend s).isText = c.isText := by
  cases c <;> rfl

theorem isText_append (c d : Content) : (c ++ d).isText = (c.isText && d.isText) := by
  cases c with
  | text s => exact isText_prepend s d
  | element b n a c r => rfl
  | comment b i r => rfl

@[simp] theorem isText_dropLeading (c : Content) : c.dropLeading.isText = c.isText := by
  cases c <;> rfl

@[simp] theorem leading_prepend (s : String) (c : Content) : (c.prepend s).leading = s ++ c.leading := by
  cases c <;> rfl

@[simp] theorem leading_dropLeading (c : Content) : c.dropLeading.leading = "" := by
  cases c <;> rfl

theorem leading_append (c d : Content) :
    (c ++ d).leading = if c.isText then c.leading ++ d.leading else c.leading := by
  cases c with
  | text s => exact leading_prepend s d
  | element b n a c r => rfl
  | comment b i r => rfl

theorem leading_append_chars_dropLeading (c : Content) : c.leading ++ c.dropLeading.chars = c.chars := by
  cases c <;> simp [leading, dropLeading, chars, String.append_assoc]

theorem element_eq (before name : String) (attributes : List (String × String)) (content rest : Content) :
    element before name attributes content rest = text before ++ ofElement ⟨name, attributes, content⟩ ++ rest := by
  show _ = element (before ++ "") name attributes content (rest.prepend "")
  rw [String.append_empty, prepend_empty]

theorem comment_eq (before inside : String) (rest : Content) :
    comment before inside rest = text before ++ comment "" inside (text "") ++ rest := by
  show _ = comment (before ++ "") inside (rest.prepend "")
  rw [String.append_empty, prepend_empty]

end Content

open Passage

/-- Content that holds what is kept of some passages, with its children where they start. -/
structure Content.Carries (c : Content) (ps : List Passage) : Prop where
  chars : c.chars = kept ps
  leading : c.leading = opening ps
  isText : c.isText = true ↔ child ∉ ps

namespace Content

variable {c d : Content} {ps qs : List Passage}

theorem carries_text (s : String) : (Content.text s).Carries [.text s] where
  chars := by simp [Content.chars, kept]
  leading := by simp [Content.leading, opening]
  isText := by simp [Content.isText]

theorem carries_ofElement {e : Element} (h : e.content.Carries ps) : (ofElement e).Carries (.child :: ps) where
  chars := by simp [ofElement, Content.chars, kept, h.chars]
  leading := rfl
  isText := by simp [ofElement, Content.isText]

theorem carries_comment (s : String) : (Content.comment "" s (.text "")).Carries [.child, .text s] where
  chars := by simp [Content.chars, kept]
  leading := rfl
  isText := by simp [Content.isText]

theorem Carries.append (hc : c.Carries ps) (hd : d.Carries qs) : (c ++ d).Carries (ps ++ qs) where
  chars := by rw [chars_append, kept_append, hc.chars, hd.chars]
  leading := by
    rw [leading_append, opening_append, hc.leading, hd.leading]
    by_cases hp : child ∈ ps
    · rw [if_pos hp, if_neg (fun h => hc.isText.1 h hp)]
    · rw [if_neg hp, if_pos (hc.isText.2 hp)]
  isText := by rw [isText_append, Bool.and_eq_true, hc.isText, hd.isText, List.mem_append, not_or]

theorem Carries.dropLeading (h : c.Carries ps) : c.dropLeading.Carries (spliced ps) where
  chars := by
    have hparts := leading_append_chars_dropLeading c
    rw [h.chars, h.leading, ← opening_append_kept_spliced ps] at hparts
    exact (String.append_right_inj _).1 hparts
  leading := by rw [leading_dropLeading, opening_spliced]
  isText := by rw [isText_dropLeading, h.isText, child_mem_spliced]

end Content

theorem localName_eq_ok {name n : String} : localName name = .ok n ↔ localName? name = some n := by
  unfold localName
  cases localName? name <;> simp

/-! ### Passages of documents -/

/-- The passages of content of a document: the document's own, and in the place of each directive the text that it
includes, or all passages of the document that it includes. -/
inductive View.Passages (v : View) : Location → Content → List Passage → Prop where
  | text (l : Location) (s : String) : Passages v l (.text s) [.text s]
  | comment {l : Location} {rest : Content} {ps : List Passage} (before inside : String) (hr : Passages v l rest ps) :
      Passages v l (.comment before inside rest) ([.text before] ++ [.child, .text inside] ++ ps)
  | element {l : Location} {name : String} {content rest : Content} {ps qs : List Passage} (before : String)
      (attributes : List (String × String)) (hn : name ≠ includeName) (hc : Passages v l content qs)
      (hr : Passages v l rest ps) :
      Passages v l (.element before name attributes content rest) ([.text before] ++ .child :: qs ++ ps)
  | includeText {l t : Location} {attributes : List (String × String)} {encoding s : String} {rest : Content}
      {ps : List Passage} (before : String) (content : Content) (hl : v.Leads l attributes (.text encoding) t)
      (hs : v.text t encoding = .ok s) (hr : Passages v l rest ps) :
      Passages v l (.element before includeName attributes content rest) ([.text before] ++ [.text s] ++ ps)
  | includeFragment {l t : Location} {attributes : List (String × String)} {root : Element} {rest : Content}
      {ps qs : List Passage} (before : String) (content : Content) (hl : v.Leads l attributes .elements t)
      (hd : v.document t = .ok root) (hn : localName? root.name = some fragmentName)
      (hc : Passages v t root.content qs) (hr : Passages v l rest ps) :
      Passages v l (.element before includeName attributes content rest) ([.text before] ++ spliced qs ++ ps)
  | includeElement {l t : Location} {attributes : List (String × String)} {root : Element} {rest : Content}
      {ps qs : List Passage} (before : String) (content : Content) (hl : v.Leads l attributes .elements t)
      (hd : v.document t = .ok root) (hn : localName? root.name ≠ some fragmentName)
      (hc : Passages v t root.content qs) (hr : Passages v l rest ps) :
      Passages v l (.element before includeName attributes content rest) ([.text before] ++ .child :: qs ++ ps)

namespace View

variable {v : View} {l document : Location} {c : Content} {ps qs : List Passage} {chain : Chain}

/-- Documents decide their passages. -/
theorem Passages.unique (hp : v.Passages l c ps) (hq : v.Passages l c qs) : ps = qs := by
  induction hp generalizing qs with
  | text l s => cases hq; rfl
  | comment before inside _ ih =>
    cases hq with
    | comment _ _ hr => rw [ih hr]
  | element before attributes hn _ _ ihContent ihRest =>
    cases hq with
    | element _ _ _ hc hr => rw [ihContent hc, ihRest hr]
    | includeText | includeFragment | includeElement => exact absurd rfl hn
  | includeText before content hl hs _ ih =>
    cases hq with
    | element _ _ hn => exact absurd rfl hn
    | includeText _ _ hl' hs' hr =>
      obtain ⟨hm, rfl⟩ := hl.unique hl'
      cases hm
      rw [Except.ok.inj (hs.symm.trans hs'), ih hr]
    | includeFragment _ _ hl' | includeElement _ _ hl' => exact nomatch (hl.unique hl').1
  | includeFragment before content hl hd hn _ _ ihContent ihRest =>
    cases hq with
    | element _ _ hn => exact absurd rfl hn
    | includeText _ _ hl' => exact nomatch (hl.unique hl').1
    | includeFragment _ _ hl' hd' _ hc hr =>
      obtain ⟨-, rfl⟩ := hl.unique hl'
      obtain rfl := Except.ok.inj (hd.symm.trans hd')
      rw [ihContent hc, ihRest hr]
    | includeElement _ _ hl' hd' hn' =>
      obtain ⟨-, rfl⟩ := hl.unique hl'
      obtain rfl := Except.ok.inj (hd.symm.trans hd')
      exact absurd hn hn'
  | includeElement before content hl hd hn _ _ ihContent ihRest =>
    cases hq with
    | element _ _ hn => exact absurd rfl hn
    | includeText _ _ hl' => exact nomatch (hl.unique hl').1
    | includeFragment _ _ hl' hd' hn' =>
      obtain ⟨-, rfl⟩ := hl.unique hl'
      obtain rfl := Except.ok.inj (hd.symm.trans hd')
      exact absurd hn' hn
    | includeElement _ _ hl' hd' _ hc hr =>
      obtain ⟨-, rfl⟩ := hl.unique hl'
      obtain rfl := Except.ok.inj (hd.symm.trans hd')
      rw [ihContent hc, ihRest hr]

/-- What a directive stands for carries what its passages are, given that this is so of the documents that it leads
to. -/
theorem exists_passages_inclusion {attributes : List (String × String)} {included : Content} (before : String)
    (content : Content)
    (ih : ∀ t ∈ v.files, ¬ chain.contains t → ∀ (root : Element) {content : Content},
      v.compose t (chain ++ [t]) root.content = .ok content →
        ∃ ps, v.Passages t root.content ps ∧ content.Carries ps)
    (h : v.inclusion document chain attributes = .ok included) :
    ∃ qs, included.Carries qs ∧ ∀ {rest ps}, v.Passages document rest ps →
      v.Passages document (.element before includeName attributes content rest) ([.text before] ++ qs ++ ps) := by
  obtain ⟨mode, t, hl, hf⟩ := exists_leads_of_inclusion h
  cases mode with
  | text encoding =>
    rw [inclusion_text hl hf] at h
    obtain ⟨s, hs, rfl⟩ := Except.map_eq_ok.1 h
    exact ⟨[.text s], Content.carries_text s, fun hr => .includeText before content hl (readText_eq_ok.1 hs) hr⟩
  | elements =>
    rw [inclusion_elements hl hf] at h
    split at h
    · cases h
    · next hc =>
      obtain ⟨root, hr, h⟩ := Except.bind_eq_ok.1 h
      obtain ⟨composed, hcomposed, h⟩ := Except.bind_eq_ok.1 h
      obtain ⟨qs, hqs, hcarries⟩ := ih t (v.mem_files hf) hc root hcomposed
      have hd : v.document t = .ok root := readDocument_eq_ok.1 hr
      obtain ⟨n, hn, h⟩ := Except.bind_eq_ok.1 h
      have hname : localName? root.name = some n := localName_eq_ok.1 hn
      split at h
      · next hfragment =>
        cases h
        subst hfragment
        exact ⟨spliced qs, hcarries.dropLeading, fun hr => .includeFragment before content hl hd hname hqs hr⟩
      · next hother =>
        cases h
        have hother : localName? root.name ≠ some fragmentName := by simpa [hname] using hother
        exact ⟨.child :: qs, Content.carries_ofElement hcarries,
          fun hr => .includeElement before content hl hd hother hqs hr⟩

/-- Composed content carries the passages of the content. -/
theorem exists_passages_compose {content r : Content} (h : v.compose document chain content = .ok r) :
    ∃ ps, v.Passages document content ps ∧ r.Carries ps := by
  -- An included document is composed on a longer chain, where the induction gives its passages.
  induction document, chain, content using compose.induct (v := v) generalizing r with
  | case1 document chain s =>
    rw [compose_text] at h
    cases h
    exact ⟨_, .text document s, Content.carries_text s⟩
  | case2 document chain before inside rest ih =>
    rw [compose_comment] at h
    obtain ⟨rest', hr, h⟩ := Except.bind_eq_ok.1 h
    cases h
    obtain ⟨ps, hps, hcarries⟩ := ih hr
    have hall := ((Content.carries_text before).append (Content.carries_comment inside)).append hcarries
    exact ⟨_, .comment before inside hps, (Content.comment_eq before inside rest').symm ▸ hall⟩
  | case3 document chain before attributes content rest ihRest ihRoot =>
    rw [compose_include] at h
    obtain ⟨included, hi, h⟩ := Except.bind_eq_ok.1 h
    obtain ⟨rest', hr, h⟩ := Except.bind_eq_ok.1 h
    cases h
    obtain ⟨ps, hps, hcarries⟩ := ihRest hr
    obtain ⟨qs, hqs, hall⟩ := exists_passages_inclusion before content ihRoot hi
    exact ⟨_, hall hps, ((Content.carries_text before).append hqs).append hcarries⟩
  | case4 document chain before name attributes content rest hn ihContent ihRest =>
    rw [compose_element v document chain hn] at h
    obtain ⟨content', hc, h⟩ := Except.bind_eq_ok.1 h
    obtain ⟨rest', hr, h⟩ := Except.bind_eq_ok.1 h
    cases h
    obtain ⟨qs, hqs, hcontent⟩ := ihContent hc
    obtain ⟨ps, hps, hcarries⟩ := ihRest hr
    have hown := Content.carries_ofElement (e := ⟨name, attributes, content'⟩) hcontent
    have hall := ((Content.carries_text before).append hown).append hcarries
    exact ⟨_, .element before attributes hn hqs hps,
      (Content.element_eq before name attributes content' rest').symm ▸ hall⟩

theorem exists_passages_composition {root : Path} {e : Element} (h : v.composition root = .ok e) :
    ∃ l d ps, v.resolve root = .ok l ∧ v.document l = .ok d ∧ v.Passages l d.content ps ∧ e.content.Carries ps := by
  obtain ⟨l, hl, h⟩ := Except.bind_eq_ok.1 h
  obtain ⟨b, -, h⟩ := Except.bind_eq_ok.1 h
  split at h
  · obtain ⟨d, hd, h⟩ := Except.bind_eq_ok.1 h
    obtain ⟨content, hc, h⟩ := Except.bind_eq_ok.1 h
    cases h
    obtain ⟨ps, hps, hcarries⟩ := exists_passages_compose hc
    exact ⟨l, d, ps, Except.mapError_eq_ok.1 hl, readDocument_eq_ok.1 hd, hps, hcarries⟩
  · cases h

end View

/-- The files as a fresh loader sees them: a text may be read in another encoding than a directive names, if some
directive asks for that one. -/
theorem exists_composition_eq_ok {v : View} {root : Path} {e : Element} (h : loadFresh v root = .ok e) :
    ∃ w : View, w.composition root = .ok e ∧ w.resolve = v.resolve ∧ w.document = v.document ∧
      (∀ t encoding s, w.text t encoding = .ok s → v.text t encoding = .ok s ∨
        ∃ m encoding', v.Reaches root m ∧ v.IncludesText m t encoding' ∧ v.text t encoding' = .ok s) ∧
      (v.OneEncoding root → w = v) := by
  by_cases hone : v.OneEncoding root
  · exact ⟨v, (loadFresh_eq_composition v root hone).symm.trans h, rfl, rfl, fun t encoding s hs => .inl hs, fun _ => rfl⟩
  have hcl : (v.recalling {}).Closed (v.Reaches root) (fun t encoding =>
      ∃ m, v.Reaches root m ∧ v.IncludesText m t encoding) :=
    ⟨fun hm ht => hm.includes ht, fun hm ht => ⟨_, hm, ht⟩⟩
  have ho := Loading.follows_load hcl root (fun hr => .root hr) {} rfl
  refine ⟨v.recalling ((load v root).outcome {}).2, ho.eq.symm.trans h, rfl, ho.grows.document, fun t encoding s hs => ?_,
    fun h => absurd @h hone⟩
  -- A text that the loader holds was read when some directive asked for it.
  cases ht : ((load v root).outcome {}).2.texts.lookup t with
  | none => exact .inl (by simpa [View.recalling, ht] using hs)
  | some s' =>
    obtain rfl : s' = s := by simpa [View.recalling, ht] using hs
    obtain ht | ⟨encoding', ⟨m, hm, hasks⟩, hread⟩ := ho.grows.read ht
    · cases ht
    · exact .inr ⟨m, encoding', hm, hasks, hread⟩

/-- The character data of a composed tree is that of its root document, with the text or the character data of the
document that it includes in the place of each directive, except for what an included fragment holds before its first
child, wherever that comes from.  If this is nothing, then nothing is lost.  As long as no two directives ask for one
file in two encodings, each text is read in the encoding that its directive names. -/
theorem chars_loadFresh {v : View} {root : Path} {e : Element} (h : loadFresh v root = .ok e) :
    ∃ w : View, w.resolve = v.resolve ∧ w.document = v.document ∧
      (∀ t encoding s, w.text t encoding = .ok s → v.text t encoding = .ok s ∨
        ∃ m encoding', v.Reaches root m ∧ v.IncludesText m t encoding' ∧ v.text t encoding' = .ok s) ∧
      (v.OneEncoding root → w = v) ∧
      ∃ l d ps, v.resolve root = .ok l ∧ v.document l = .ok d ∧ w.Passages l d.content ps ∧
        (∀ qs, w.Passages l d.content qs → qs = ps) ∧ e.chars = kept ps ∧
        (e.chars = whole ps ↔ ∀ s, .lost s ∈ ps → s = "") := by
  obtain ⟨w, hw, hr, hd, htext, hone⟩ := exists_composition_eq_ok h
  obtain ⟨l, d, ps, hl, hdocument, hps, hcarries⟩ := View.exists_passages_composition hw
  have hchars : e.chars = kept ps := hcarries.chars
  refine ⟨w, hr, hd, htext, hone, l, d, ps, hr ▸ hl, hd ▸ hdocument, hps, fun qs hqs => hqs.unique hps, hchars, ?_⟩
  rw [hchars, kept_eq_whole]

namespace sharedFragment

/-- The composed prompt, in which the text before the rule is missing twice. -/
def composed : Element :=
  ⟨"prompt", [], .element "1" "rule" [] (.text "") (.element "yz2" "rule" [] (.text "") (.text "yz3"))⟩

theorem compose_fragment :
    sharedFragment.view.compose ["f.xml"] [["a.xml"], ["f.xml"]] (.element "x" "rule" [] (.text "")
        (.element "y" includeName [("parse", "text"), ("href", "t.txt")] (.text "") (.text ""))) =
      .ok (.element "x" "rule" [] (.text "") (.text "yz")) := by
  have hread : sharedFragment.view.readText ["t.txt"] "utf-8" [["a.xml"], ["f.xml"], ["t.txt"]] = .ok "z" :=
    View.readText_eq_ok.2 text
  rw [View.compose_element _ _ _ (by decide), View.compose_include, View.inclusion_text leads_fragment hasFile_text]
  simp only [View.compose_text, List.cons_append, List.nil_append, hread]
  rfl

theorem inclusion_fragment : sharedFragment.view.inclusion ["a.xml"] [["a.xml"]] [("href", "f.xml")] =
    .ok (.element "" "rule" [] (.text "") (.text "yz")) := by
  have hread : sharedFragment.view.readDocument ["f.xml"] ([["a.xml"]] ++ [["f.xml"]]) = .ok _ :=
    View.readDocument_eq_ok.2 document_fragment
  rw [View.inclusion_elements leads_prompt hasFile_fragment, if_neg (by decide), Except.bind_ok hread,
    List.singleton_append, Except.bind_ok compose_fragment]
  exact Except.toOption_eq_some.1 (by decide)

theorem loadFresh : loadFresh sharedFragment (Path.absolute ["a.xml"]) = .ok composed := by
  have hholds : sharedFragment.Holds (Path.absolute ["a.xml"]) ["a.xml"] _ :=
    ⟨resolve_prompt, hasFile_prompt, document_prompt⟩
  rw [loadFresh_eq_composition _ _ (oneEncoding _),
    View.composition_of_document hholds]
  simp only [View.compose_include, inclusion_fragment, View.compose_text]
  exact Except.toOption_eq_some.1 (by decide)

/-- The passages of the fragment, of which the first one is lost where it is included. -/
theorem passages_fragment :
    sharedFragment.view.Passages ["f.xml"] (.element "x" "rule" [] (.text "")
        (.element "y" includeName [("parse", "text"), ("href", "t.txt")] (.text "") (.text "")))
      [.text "x", .child, .text "", .text "y", .text "z", .text ""] :=
  .element "x" [] (by decide) (.text _ "") (.includeText "y" (.text "") leads_fragment text (.text _ ""))

end sharedFragment

open sharedFragment in
/-- The prompt keeps what follows the first child of its fragment. -/
theorem exists_passages_sharedFragment :
    loadFresh sharedFragment (Path.absolute ["a.xml"]) = .ok composed ∧
      ∃ l d ps, sharedFragment.resolve (Path.absolute ["a.xml"]) = .ok l ∧ sharedFragment.document l = .ok d ∧
        sharedFragment.view.Passages l d.content ps ∧ composed.chars = kept ps ∧
        (composed.chars = whole ps ↔ ∀ s, .lost s ∈ ps → s = "") := by
  obtain ⟨w, -, -, -, hone, l, d, ps, hl, hd, hps, -, hkept, hwhole⟩ := chars_loadFresh sharedFragment.loadFresh
  obtain rfl : w = sharedFragment.view := hone (oneEncoding _)
  exact ⟨sharedFragment.loadFresh, l, d, ps, hl, hd, hps, hkept, hwhole⟩

open sharedFragment in
/-- The text before the first child of the fragment is lost both times. -/
theorem chars_ne_whole_sharedFragment :
    ∃ d ps, sharedFragment.document ["a.xml"] = .ok d ∧ sharedFragment.view.Passages ["a.xml"] d.content ps ∧
      loadFresh sharedFragment (Path.absolute ["a.xml"]) = .ok composed ∧ composed.chars = "1yz2yz3" ∧
      whole ps = "1xyz2xyz3" := by
  have hname : localName? "fragment" = some fragmentName := by decide
  refine ⟨_, _, document_prompt, .includeFragment "1" (.text "") leads_prompt document_fragment hname passages_fragment
    (.includeFragment "2" (.text "") leads_prompt document_fragment hname passages_fragment (.text _ "3")),
    sharedFragment.loadFresh, by decide, by decide⟩

end PromptMarkup
