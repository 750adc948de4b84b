import PromptMarkup.Proofs.Inclusion.Twins

/-!
# What a load parses

The documents that a load parses, told from the files alone (`View.parsedFrom`): the root document, and what the
composition comes to before it fails, if it does.  The key fact: these are the documents that a fresh loader keeps
(`cache_load`), as long as it comes upon no text includes.
-/

namespace PromptMarkup

namespace View

/-- The documents that the composition of content parses, with what they hold.  Behind a directive or an element that
fails nothing is parsed any more. -/
def parsed (v : View) (document : Location) (chain : Chain) (c : Content) : List (Location × Element) :=
  match c with
  | .text _ => []
  | .comment _ _ rest => parsed v document chain rest
  | .element _ name attributes content rest =>
    if name = includeName then
      let included :=
        match Directive.read attributes document chain with
        | .error _ => []
        | .ok d =>
          match v.locate d.href document chain with
          | .error _ => []
          | .ok ⟨l, _⟩ =>
            match d.mode with
            | .text _ => []
            | .elements =>
              if chain.contains l then []
              else
                match v.document l with
                | .error _ => []
                | .ok root => (l, root) :: parsed v l (chain ++ [l]) root.content
      included ++ if (v.inclusion document chain attributes).isOk then parsed v document chain rest else []
    else
      parsed v document chain content ++
        if (v.compose document chain content).isOk then parsed v document chain rest else []
  termination_by ((v.offChain chain).length, c)
  decreasing_by
    all_goals first
      | exact Prod.Lex.left _ _ (View.offChain_append_lt ‹_ ∈ v.files› ‹¬_›)
      | exact Prod.Lex.right _ (by simp only [Content.comment.sizeOf_spec]; omega)
      | exact Prod.Lex.right _ (by simp only [Content.element.sizeOf_spec]; omega)

/-- The documents that a load of a root document parses. -/
def parsedFrom (v : View) (root : Path) : List (Location × Element) :=
  match v.resolve root with
  | .error _ => []
  | .ok l =>
    match v.hasFile l with
    | .ok true =>
      match v.document l with
      | .error _ => []
      | .ok e => (l, e) :: v.parsed l [l] e.content
    | _ => []

/-- What the composition parses at a directive in a document. -/
def parsedAt (v : View) (document : Location) (chain : Chain) (attributes : List (String × String)) :
    List (Location × Element) :=
  match Directive.read attributes document chain with
  | .error _ => []
  | .ok d =>
    match v.locate d.href document chain with
    | .error _ => []
    | .ok l =>
      match d.mode with
      | .text _ => []
      | .elements =>
        if chain.contains l.1 then []
        else
          match v.document l with
          | .error _ => []
          | .ok root => (l.1, root) :: v.parsed l (chain ++ [l.1]) root.content

variable (v : View) (document : Location) (chain : Chain)

theorem parsed_text (s : String) : v.parsed document chain (.text s) = [] := by
  rw [parsed]

theorem parsed_comment (before inside : String) (rest : Content) :
    v.parsed document chain (.comment before inside rest) = v.parsed document chain rest := by
  rw [parsed]

theorem parsed_include (before : String) (attributes : List (String × String)) (content rest : Content) :
    v.parsed document chain (.element before includeName attributes content rest) =
      v.parsedAt document chain attributes ++
        if (v.inclusion document chain attributes).isOk then v.parsed document chain rest else [] := by
  rw [parsed, if_pos rfl, parsedAt]
  dsimp only
  congr 1
  cases Directive.read attributes document chain with
  | error f => rfl
  | ok d => cases hl : v.locate d.href document chain <;> simp only [hl]

theorem parsed_element {name : String} (hn : name ≠ includeName) (before : String)
    (attributes : List (String × String)) (content rest : Content) :
    v.parsed document chain (.element before name attributes content rest) =
      v.parsed document chain content ++
        if (v.compose document chain content).isOk then v.parsed document chain rest else [] := by
  rw [parsed, if_neg hn]

/-- What is parsed at a directive is the document that it leads to, which is not on the chain, and what that one comes
to. -/
theorem parsedAt_cases (attributes : List (String × String)) :
    v.parsedAt document chain attributes = [] ∨ ∃ l root, l ∈ v.files ∧ ¬ chain.contains l = true ∧
      v.document l = .ok root ∧
      v.parsedAt document chain attributes = (l, root) :: v.parsed l (chain ++ [l]) root.content := by
  unfold parsedAt
  split
  · exact .inl rfl
  split
  · exact .inl rfl
  rename_i l hl
  split
  · exact .inl rfl
  split
  · exact .inl rfl
  rename_i hc
  split
  · exact .inl rfl
  · rename_i root hroot
    exact .inr ⟨l.1, root, l.2, hc, hroot, rfl⟩

/-- What is parsed are documents as they are. -/
theorem document_of_mem_parsed {l : Location} {e : Element} (c : Content) (h : (l, e) ∈ v.parsed document chain c) :
    v.document l = .ok e := by
  induction document, chain, c using compose.induct (v := v) with
  | case1 document chain s =>
    rw [parsed_text] at h
    cases h
  | case2 document chain before inside rest ih =>
    rw [parsed_comment] at h
    exact ih h
  | case3 document chain before attributes content rest ihRest ihRoot =>
    rw [parsed_include, List.mem_append] at h
    obtain h | h := h
    · obtain hnone | ⟨t, root, ht, hc, hroot, hat⟩ := v.parsedAt_cases document chain attributes
      · rw [hnone] at h
        cases h
      · rw [hat] at h
        cases h with
        | head => exact hroot
        | tail _ h => exact ihRoot t ht hc root h
    · split at h
      · exact ihRest h
      · cases h
  | case4 document chain before name attributes content rest hn ihContent ihRest =>
    rw [parsed_element _ _ _ hn, List.mem_append] at h
    obtain h | h := h
    · exact ihContent h
    · split at h
      · exact ihRest h
      · cases h

theorem document_of_mem_parsedFrom {root : Path} {l : Location} {e : Element} (h : (l, e) ∈ v.parsedFrom root) :
    v.document l = .ok e := by
  unfold parsedFrom at h
  split at h
  · cases h
  split at h
  · split at h
    · cases h
    · rename_i r _ e' he'
      cases h with
      | head => exact he'
      | tail _ h => exact v.document_of_mem_parsed _ _ _ h
  · cases h

theorem document_of_lookup_parsedFrom {root : Path} {l : Location} {e : Element}
    (h : (v.parsedFrom root).lookup l = some e) : v.document l = .ok e := by
  obtain ⟨before, after, hsplit, -⟩ := List.lookup_eq_some_iff.1 h
  exact v.document_of_mem_parsedFrom (by rw [hsplit]; exact List.mem_append_right before List.mem_cons_self)

section

variable {v document chain} {l t : Location} {e : Element} {attributes : List (String × String)}

/-- Content without directives parses nothing. -/
theorem parsed_of_directives_eq_nil {c : Content} (h : c.directives = []) : v.parsed document chain c = [] := by
  induction c with
  | text s => exact v.parsed_text document chain s
  | comment b i r ih => rw [parsed_comment, ih h]
  | element b n a c r ihc ihr =>
    by_cases hn : n = includeName
    · simp [Content.directives, hn] at h
    · have hcr : c.directives = [] ∧ r.directives = [] := by simpa [Content.directives, hn] using h
      rw [parsed_element _ _ _ hn, ihc hcr.1, ihr hcr.2, ite_self, List.append_nil]

theorem parsedAt_elements (h : v.Leads document attributes .elements t) (hf : v.hasFile t = .ok true)
    (hc : t ∉ chain) (he : v.document t = .ok e) :
    v.parsedAt document chain attributes = (t, e) :: v.parsed t (chain ++ [t]) e.content := by
  obtain ⟨d, hd, hm, ht⟩ := h
  have hcontains : chain.contains t = false := by simpa using hc
  simp only [parsedAt, Directive.read_eq_ok.2 hd, locate_of_hasFile ht hf, hm, hcontains, he, Bool.false_eq_true, if_false]

theorem parsedFrom_of_document {root : Path} (hr : v.resolve root = .ok l) (hf : v.hasFile l = .ok true)
    (he : v.document l = .ok e) : v.parsedFrom root = (l, e) :: v.parsed l [l] e.content := by
  simp only [parsedFrom, hr, hf, he]

end

/-- No document that a root document leads to includes a text. -/
def TextFree (v : View) (root : Path) : Prop :=
  ∀ {l t encoding}, v.Reaches root l → ¬ v.IncludesText l t encoding

end View

namespace Loading

variable {α β : Type} {v : View}

/-- A computation parses documents: from a truthful cache it has the plain outcome, and the documents are added to those
that the cache holds. -/
structure ParsesFrom (v : View) (c : Cache) (x : Loading α) (o : Except Failure α)
    (new : List (Location × Element)) : Prop where
  outcome : (x.outcome c).1 = o
  truthful : (x.outcome c).2.Truthful v
  texts : (x.outcome c).2.texts = c.texts
  documents : ∀ l, (x.outcome c).2.documents.lookup l = (c.documents.lookup l).or (new.lookup l)

/-- From whichever truthful cache it starts, a computation parses the same documents. -/
def Parses (v : View) (x : Loading α) (o : Except Failure α) (new : List (Location × Element)) : Prop :=
  ∀ c, c.Truthful v → ParsesFrom v c x o new

theorem parses_lift (x : Except Failure α) : Parses v (liftM x) x [] := by
  intro c hc
  refine ⟨?_, ?_, ?_, fun l => ?_⟩ <;> rw [outcome_lift]
  · exact hc
  · rw [List.lookup_nil, Option.or_none]

theorem parses_pure (a : α) : Parses v (pure a) (.ok a) [] := parses_lift (.ok a)

/-- Behind a failure nothing more is parsed. -/
theorem Parses.bind {x : Loading α} {o : Except Failure α} {f : α → Loading β} {g : α → Except Failure β}
    {new rest : List (Location × Element)} (hx : Parses v x o new)
    (hok : ∀ a, o = .ok a → Parses v (f a) (g a) rest) (herror : ∀ e, o = .error e → rest = []) :
    Parses v (x >>= f) (o >>= g) (new ++ rest) := by
  intro c hc
  obtain ⟨ho, htruthful, htexts, hdocuments⟩ := hx c hc
  have hb := outcome_bind x f c
  rcases hxc : x.outcome c with ⟨o', c'⟩
  rw [hxc] at ho htruthful htexts hdocuments hb
  obtain rfl : o' = o := ho
  cases o' with
  | error e =>
    refine ⟨?_, ?_, ?_, fun l => ?_⟩ <;> rw [hb]
    · rfl
    · exact htruthful
    · exact htexts
    · rw [hdocuments, herror e rfl, List.append_nil]
  | ok a =>
    obtain ⟨ho, htruthful', htexts', hdocuments'⟩ := hok a rfl c' htruthful
    refine ⟨?_, ?_, ?_, fun l => ?_⟩ <;> rw [hb]
    · exact ho
    · exact htruthful'
    · exact htexts'.trans htexts
    · rw [hdocuments', hdocuments, List.lookup_append, Option.or_assoc]

/-- What is parsed behind a computation depends only on whether that fails. -/
theorem Parses.bind_if {x : Loading α} {o : Except Failure α} {f : α → Loading β} {g : α → Except Failure β}
    {new rest : List (Location × Element)} (hx : Parses v x o new) (hf : ∀ a, Parses v (f a) (g a) rest) :
    Parses v (x >>= f) (o >>= g) (new ++ if o.isOk then rest else []) := by
  cases o with
  | error e => exact hx.bind (fun a h => nomatch h) fun _ _ => rfl
  | ok a => exact hx.bind (fun a _ => hf a) fun e h => nomatch h

/-- What is done with a result in the end parses nothing. -/
theorem Parses.bind_lift {x : Loading α} {o : Except Failure α} {new : List (Location × Element)}
    (hx : Parses v x o new) (f : α → Except Failure β) : Parses v (x >>= fun a => liftM (f a)) (o >>= f) new := by
  have h := hx.bind (fun a _ => parses_lift (f a)) fun _ _ => rfl
  rwa [List.append_nil] at h

theorem parses_document {l : Location} {e : Element} (h : v.document l = .ok e) (chain : Chain) :
    Parses v (document v l chain) (.ok e) [(l, e)] := by
  intro c hc
  obtain ⟨ho, htruthful, htexts⟩ := outcome_document_of_truthful hc l chain
  have hread : v.readDocument l chain = .ok e := View.readDocument_eq_ok.2 h
  refine ⟨ho.trans hread, htruthful, htexts, fun m => ?_⟩
  rw [outcome_document, hread]
  unfold fetch
  cases hl : c.documents.lookup l with
  | some e' =>
    -- What the cache holds is the document as it is.
    have he' : v.document l = .ok e' := by rw [← hc, View.recalling_document_of_lookup hl]
    obtain rfl : e = e' := Except.ok.inj (h.symm.trans he')
    by_cases hm : m = l
    · subst hm
      simp [hl]
    · simp [List.lookup_cons, beq_false_of_ne hm]
  | none =>
    by_cases hm : m = l
    · subst hm
      simp [hl]
    · simp [List.lookup_cons, beq_false_of_ne hm]

theorem parses_document_error {l : Location} {u : Unread} (h : v.document l = .error u) (chain : Chain) :
    Parses v (document v l chain) (v.readDocument l chain) [] := by
  intro c hc
  obtain ⟨ho, htruthful, htexts⟩ := outcome_document_of_truthful hc l chain
  refine ⟨ho, htruthful, htexts, fun m => ?_⟩
  have hread : v.readDocument l chain = .error (u.failure l chain) := by rw [View.readDocument, h]; rfl
  have hl : c.documents.lookup l = none := by
    rw [Option.eq_none_iff_forall_ne_some]
    intro e he
    rw [← hc, View.recalling_document_of_lookup he] at h
    cases h
  rw [outcome_document, hread]
  simp [fetch, hl]

theorem parses_lift_bind {x : Except Failure α} {f : α → Loading β} {g : α → Except Failure β}
    {new : List (Location × Element)} (hok : ∀ a, x = .ok a → Parses v (f a) (g a) new)
    (herror : ∀ e, x = .error e → new = []) : Parses v (liftM x >>= f) (x >>= g) new :=
  (parses_lift x).bind hok herror

variable {documents : Location → Prop} (hcl : v.Closed documents fun _ _ => False)
include hcl

/-- A directive parses the document that it leads to, and what that one comes to. -/
theorem parses_inclusion {document : Location} {chain : Chain} {attributes : List (String × String)} {c : Content}
    (hd : documents document) (hh : v.Holds document c) (ha : attributes ∈ c.directives)
    (ih : ∀ l ∈ v.files, ¬ chain.contains l = true → ∀ root, documents l → v.document l = .ok root →
      Parses v (compose v l (chain ++ [l]) root.content) (v.compose l (chain ++ [l]) root.content)
        (v.parsed l (chain ++ [l]) root.content)) :
    Parses v (inclusion v document chain attributes) (v.inclusion document chain attributes)
      (v.parsedAt document chain attributes) := by
  unfold inclusion View.inclusion View.parsedAt
  refine parses_lift_bind (fun d hr => ?_) fun f hf => by simp only [hf]
  simp only [hr]
  refine parses_lift_bind (fun l hl => ?_) fun f hf => by simp only [hf]
  simp only [hl]
  have hlead : v.Leads document attributes d.mode l.1 := .of_locate hr hl
  cases hm : d.mode with
  | text encoding => exact (hcl.includesText hd (hh.includesText ha (hm ▸ hlead))).elim
  | elements =>
    have ht : documents l.1 := hcl.includes hd (hh.includes ha (hm ▸ hlead))
    by_cases hc : chain.contains l.1 = true
    · simp only [hc, if_true]
      exact parses_lift (.error _)
    simp only [hc, Bool.false_eq_true, if_false]
    cases hroot : v.document l.1 with
    | error u =>
      refine (parses_document_error hroot _).bind (fun root h => ?_) fun _ _ => rfl
      rw [View.readDocument_eq_ok, hroot] at h
      cases h
    | ok root =>
      have hread : v.readDocument l.1 (chain ++ [l.1]) = .ok root := View.readDocument_eq_ok.2 hroot
      rw [hread]
      change Parses v _ _ ([(l.1, root)] ++ _)
      refine (parses_document hroot _).bind (fun root' h => ?_) fun f h => by cases h
      cases h
      exact (ih l l.2 hc root ht hroot).bind_lift _

/-- Visiting content parses what its composition comes to. -/
theorem parses_compose (document : Location) (chain : Chain) (content : Content) (hd : documents document)
    (hh : v.Holds document content) :
    Parses v (compose v document chain content) (v.compose document chain content)
      (v.parsed document chain content) := by
  induction document, chain, content using View.compose.induct (v := v) with
  | case1 document chain s =>
    rw [compose_text, View.compose_text, View.parsed_text]
    exact parses_pure _
  | case2 document chain before inside rest ih =>
    rw [compose_comment, View.compose_comment, View.parsed_comment, map_eq_pure_bind]
    exact (ih hd hh).bind_lift fun r => .ok _
  | case3 document chain before attributes content rest ihRest ihRoot =>
    have hrest : v.Holds document rest := hh.mono (by simp [Content.directives])
    have ha : attributes ∈ (Content.element before includeName attributes content rest).directives := by
      simp [Content.directives]
    have hincluded := parses_inclusion hcl hd hh ha fun l hl hc root ht hroot => ihRoot l hl hc root ht (.document hroot)
    rw [compose_include, View.compose_include, View.parsed_include]
    exact hincluded.bind_if fun i => (ihRest hd hrest).bind_lift fun r => .ok _
  | case4 document chain before name attributes content rest hn ihContent ihRest =>
    have hcontent : v.Holds document content := hh.mono (by simp [Content.directives, hn])
    have hrest : v.Holds document rest := hh.mono (by simp [Content.directives, hn])
    rw [compose_element _ _ _ hn, View.compose_element _ _ _ hn, View.parsed_element _ _ _ hn]
    exact (ihContent hd hcontent).bind_if fun c => (ihRest hd hrest).bind_lift fun r => .ok _

/-- A load parses its root document and what the composition of that one comes to. -/
theorem parses_load {root : Path} (hroot : ∀ {l}, v.resolve root = .ok l → documents l) :
    Parses v (load v root) (v.composition root) (v.parsedFrom root) := by
  rw [load_eq]
  unfold View.composition View.parsedFrom
  refine parses_lift_bind (fun l hl => ?_) fun f hf => by
    obtain ⟨g, hg⟩ := Except.exists_error_of_mapError hf
    simp only [hg]
  rw [Except.mapError_eq_ok] at hl
  simp only [hl]
  refine parses_lift_bind (fun b hb => ?_) fun f hf => by
    obtain ⟨g, hg⟩ := Except.exists_error_of_mapError hf
    simp only [hg]
  rw [Except.mapError_eq_ok] at hb
  simp only [hb]
  cases b with
  | false => exact parses_lift (.error _)
  | true =>
    simp only [if_true]
    cases he : v.document l with
    | error u =>
      refine (parses_document_error he _).bind (fun e h => ?_) fun _ _ => rfl
      rw [View.readDocument_eq_ok, he] at h
      cases h
    | ok e =>
      rw [View.readDocument_eq_ok.2 he]
      change Parses v _ _ ([(l, e)] ++ _)
      refine (parses_document he _).bind (fun e' h => ?_) fun f h => nomatch h
      cases h
      exact (parses_compose hcl l [l] e.content (hroot hl) (.document he)).bind_lift fun content => .ok _

omit hcl in
/-- A fresh loader that comes upon no text includes keeps the documents that the load parses, and no texts. -/
theorem cache_load {root : Path} (h : v.TextFree root) :
    ((load v root).outcome {}).2.texts = [] ∧
      ∀ l, ((load v root).outcome {}).2.documents.lookup l = (v.parsedFrom root).lookup l := by
  have hcl : v.Closed (v.Reaches root) fun _ _ => False := ⟨fun hl ht => hl.includes ht, fun hl ht => h hl ht⟩
  have hload := parses_load hcl (fun hr => .root hr) {} rfl
  exact ⟨hload.texts, hload.documents⟩

end Loading

end PromptMarkup
