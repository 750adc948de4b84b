import PromptMarkup.Proofs.Inclusion.Fresh
import PromptMarkup.Proofs.Inclusion.Parsed

/-!
# One loader while the files change

A session is a run of loads by one loader, between which files are written, removed and linked.  What its loads give is
said by a run of fresh loaders (`Reference`): each of them finds the files as they are, but for the documents that the
loads before it have parsed (`View.parsedFrom`), which are still what they were.  The main result is
`outcomes_eq_reference`.
-/

namespace PromptMarkup

/-- A change of the files.  One that is refused leaves them as they are. -/
inductive FileSystem.Edit where
  | write (path : Path) (bytes : List UInt8)
  | makeDirectories (path : Path)
  | remove (path : Path)
  | makeLink (path : Path) (target : String)

/-- The files after a change. -/
def FileSystem.edit (fs : FileSystem) : Edit → FileSystem
  | .write path bytes => (fs.write path bytes).toOption.getD fs
  | .makeDirectories path => (fs.makeDirectories path).1
  | .remove path => (fs.remove path).1
  | .makeLink path target => (fs.makeLink path target).toOption.getD fs

namespace Session

/-- What happens in a session. -/
inductive Step where
  | edit (e : FileSystem.Edit)
  | load (root : Path)

end Session

/-- The files and the cache of the one loader. -/
structure Session where
  files : FileSystem
  cache : Cache := {}

namespace Session

/-- The session after a step. -/
def next (s : Session) : Step → Session
  | .edit e => { s with files := s.files.edit e }
  | .load root => { s with cache := ((PromptMarkup.load s.files root).outcome s.cache).2 }

/-- The session after some steps. -/
def after (s : Session) (steps : List Step) : Session := steps.foldl next s

theorem after_concat (s : Session) (steps : List Step) (step : Step) :
    s.after (steps ++ [step]) = (s.after steps).next step := by
  simp [after]

/-- The outcomes of the loads. -/
def outcomes (s : Session) : List Step → List (Except Failure Element)
  | [] => []
  | .edit e :: steps => (s.next (.edit e)).outcomes steps
  | .load root :: steps =>
    ((PromptMarkup.load s.files root).outcome s.cache).1 :: (s.next (.load root)).outcomes steps

/-- The files, and the documents that have been parsed, as they were then. -/
structure Reference where
  files : FileSystem
  parsed : List (Location × Element) := []

namespace Reference

/-- The files as they are but for the documents that have been parsed. -/
def view (r : Reference) : View := r.files.view.recalling { documents := r.parsed }

/-- After a load, the documents that it parses are kept too, also if it fails later on. -/
def next (r : Reference) : Step → Reference
  | .edit e => { r with files := r.files.edit e }
  | .load root => { r with parsed := r.parsed ++ r.view.parsedFrom root }

/-- The outcomes of fresh loads. -/
def outcomes (r : Reference) : List Step → List (Except Failure Element)
  | [] => []
  | .edit e :: steps => (r.next (.edit e)).outcomes steps
  | .load root :: steps => loadFresh r.view root :: (r.next (.load root)).outcomes steps

end Reference

end Session

/-- No load of a session comes upon a document that includes a text. -/
def Session.Reference.TextFree (r : Reference) : List Step → Prop
  | [] => True
  | .edit e :: steps => (r.next (.edit e)).TextFree steps
  | .load root :: steps => r.view.TextFree root ∧ (r.next (.load root)).TextFree steps

namespace Loading

variable {v : View} {root : Path}

/-- A document that cannot be read is not kept, whatever comes of the load. -/
theorem lookup_load_eq_none {c : Cache} {l : Location} (hc : c.documents.lookup l = none)
    (hv : ∀ e, v.document l ≠ .ok e) : ((load v root).outcome c).2.documents.lookup l = none := by
  have hd := (explained_load v c root).grows.document
  rw [Option.eq_none_iff_forall_ne_some]
  intro e he
  have := View.recalling_document_of_lookup (v := v) he
  rw [hd] at this
  exact hv e (by simpa [View.recalling, hc] using this)

end Loading

/-- The cache of a session holds the documents that the reference has kept, and no texts. -/
structure Session.Agrees (s : Session) (r : Reference) : Prop where
  files : s.files = r.files
  documents : ∀ l, s.cache.documents.lookup l = r.parsed.lookup l
  texts : ∀ l, s.cache.texts.lookup l = none

namespace Session.Agrees

variable {s : Session} {r : Reference}

/-- The loader of the session sees what the reference shows. -/
theorem view (h : s.Agrees r) : s.files.view.recalling s.cache = r.view := by
  simp only [Reference.view, View.recalling, h.files, h.documents, h.texts]
  rfl

theorem outcome (h : s.Agrees r) (root : Path) :
    ((load s.files root).outcome s.cache).1 = loadFresh r.view root := by
  rw [(Loading.outcome_load s.files s.cache root).1, h.view]

theorem edit (h : s.Agrees r) (e : FileSystem.Edit) : (s.next (.edit e)).Agrees (r.next (.edit e)) where
  files := congrArg (·.edit e) h.files
  documents := h.documents
  texts := h.texts

theorem load {root : Path} (h : s.Agrees r) (ht : r.view.TextFree root) :
    (s.next (.load root)).Agrees (r.next (.load root)) := by
  -- What a fresh loader on the reference's view would keep is what the session's loader adds to its cache.
  have hc := (Loading.outcome_load s.files s.cache root).2
  rw [h.view] at hc
  obtain ⟨htexts, hdocuments⟩ := Loading.cache_load ht
  refine ⟨h.files, fun l => ?_, fun l => ?_⟩
  · rw [Session.next, (hc.documents l).1, h.documents, hdocuments, Reference.next, List.lookup_append]
  · rw [Session.next, (hc.texts l).1, h.texts, htexts, List.lookup_nil, Option.none_or]

theorem outcomes {steps : List Step} (h : s.Agrees r) (ht : r.TextFree steps) :
    s.outcomes steps = r.outcomes steps := by
  induction steps generalizing s r with
  | nil => rfl
  | cons step steps ih =>
    cases step with
    | edit e => exact ih (h.edit e) ht
    | load root => rw [Session.outcomes, Reference.outcomes, h.outcome root, ih (h.load ht.1) ht.2]

end Session.Agrees

/-! ### Where the documents of the reference come from -/

namespace Session.Reference

variable {r : Reference} {l : Location} {e : Element}

theorem document_of_view (h : r.view.document l = .ok e) :
    r.parsed.lookup l = some e ∨ r.files.document l = .ok e := by
  cases hl : r.parsed.lookup l with
  | some e' => exact .inl (by simpa [view, View.recalling, hl] using h)
  | none =>
    have hd : r.files.view.document l = .ok e := by simpa [view, View.recalling, hl] using h
    exact .inr hd

/-- What is kept from a load was kept before or is a document as the load found it. -/
theorem lookup_next {root : Path} (h : (r.next (.load root)).parsed.lookup l = some e) :
    r.parsed.lookup l = some e ∨ r.view.document l = .ok e := by
  rw [next, List.lookup_append] at h
  cases hl : r.parsed.lookup l with
  | some e' => exact .inl (by simpa [hl] using h)
  | none =>
    rw [hl, Option.none_or] at h
    exact .inr (View.document_of_lookup_parsedFrom _ h)

/-- Documents that have been kept and are still the same make no difference. -/
theorem view_eq_of_unchanged (h : ∀ {l e}, r.parsed.lookup l = some e → r.files.document l = .ok e) :
    r.view = r.files.view := by
  have hd : r.view.document = r.files.document := by
    funext l
    cases hl : r.parsed.lookup l with
    | none => simp [view, View.recalling, hl, FileSystem.view]
    | some e => rw [h hl, view, View.recalling_document_of_lookup hl]
  calc r.view = { r.files.view with document := r.view.document } := rfl
    _ = r.files.view := by rw [hd]; rfl

/-- Without changes every load is a fresh load of the files. -/
theorem outcomes_loads (h : ∀ {l e}, r.parsed.lookup l = some e → r.files.document l = .ok e) (roots : List Path) :
    r.outcomes (roots.map .load) = roots.map (loadFresh r.files) := by
  induction roots generalizing r with
  | nil => rfl
  | cons root roots ih =>
    have hv := view_eq_of_unchanged h
    have hnext {l : Location} {e : Element} (hl : (r.next (.load root)).parsed.lookup l = some e) :
        r.files.document l = .ok e := by
      obtain hl | hl := lookup_next hl
      · exact h hl
      · rwa [hv] at hl
    rw [List.map_cons, List.map_cons, outcomes, hv, ih hnext]
    rfl

end Session.Reference

/-- One loader that serves a whole session gives what fresh loaders give that find the documents as they were
when they were first parsed, and otherwise the files as they are.  While no file changes these are fresh loads of
the files, and a document that cannot be read is not kept. -/
theorem Session.outcomes_eq_reference (fs : FileSystem) (steps : List Step)
    (h : Reference.TextFree ⟨fs, []⟩ steps) :
    Session.outcomes ⟨fs, {}⟩ steps = Reference.outcomes ⟨fs, []⟩ steps ∧
      (∀ roots : List Path, steps = roots.map .load → Session.outcomes ⟨fs, {}⟩ steps = roots.map (loadFresh fs)) ∧
      ∀ before root rest, steps = before ++ .load root :: rest → ∀ l,
        (Session.after ⟨fs, {}⟩ before).cache.documents.lookup l = none →
        (∀ e, (Session.after ⟨fs, {}⟩ before).files.document l ≠ .ok e) →
        (Session.after ⟨fs, {}⟩ (before ++ [.load root])).cache.documents.lookup l = none := by
  have hs : Session.outcomes ⟨fs, {}⟩ steps = Reference.outcomes ⟨fs, []⟩ steps :=
    Session.Agrees.outcomes ⟨rfl, fun _ => rfl, fun _ => rfl⟩ h
  refine ⟨hs, fun roots hr => ?_, fun before root rest _ l hc hd => ?_⟩
  · rw [hs, hr, Reference.outcomes_loads (r := ⟨fs, []⟩) (by simp)]
  · rw [Session.after_concat]
    exact Loading.lookup_load_eq_none hc hd

/-! ### Sessions without text includes -/

/-- The files at each moment of a session. -/
def FileSystem.states (fs : FileSystem) : List Session.Step → List FileSystem
  | [] => [fs]
  | .edit e :: steps => fs :: (fs.edit e).states steps
  | .load _ :: steps => fs.states steps

theorem FileSystem.mem_states (fs : FileSystem) (steps : List Session.Step) : fs ∈ fs.states steps := by
  induction steps with
  | nil => exact List.mem_singleton_self fs
  | cons step steps ih =>
    cases step with
    | edit e => exact List.mem_cons_self
    | load root => exact ih

/-- If no file ever holds a document that includes a text, then no load comes upon one. -/
theorem Session.Reference.textFree_of_states {r : Reference} {steps : List Step}
    (hp : ∀ {l e}, r.parsed.lookup l = some e → e.content.textEncodings = [])
    (h : ∀ fs ∈ r.files.states steps, ∀ e ∈ fs.documents, e.content.textEncodings = []) :
    r.TextFree steps := by
  induction steps generalizing r with
  | nil => trivial
  | cons step steps ih =>
    cases step with
    | edit e => exact ih hp fun fs hfs => h fs (List.mem_cons_of_mem r.files hfs)
    | load root =>
      have hview {l : Location} {e : Element} (he : r.view.document l = .ok e) : e.content.textEncodings = [] := by
        obtain hl | hd := document_of_view he
        · exact hp hl
        · exact h r.files (r.files.mem_states _) e (FileSystem.mem_documents hd)
      refine ⟨fun {l t encoding} _ ht => ?_, ih (fun {l e} hl => ?_) h⟩
      · obtain ⟨e, he, hmem⟩ := ht.exists_document
        rw [hview he] at hmem
        cases hmem
      · obtain hl | hl := lookup_next hl
        · exact hp hl
        · exact hview hl

/-- A prompt that includes a document. -/
def includingPrompt : FileSystem where
  current := []
  nodes := [
    (["a.xml"], .file (Encoding.Utf8.encode
      "<prompt xmlns:xi='http://www.w3.org/2001/XInclude'><xi:include href='b.xml'/></prompt>")),
    (["b.xml"], .file (Encoding.Utf8.encode "<rule/>"))]

/-- The prompt is loaded, the document that it includes is changed, and it is loaded again. -/
def reloadSteps : List Session.Step :=
  [.load (Path.absolute ["a.xml"]), .edit (.write (Path.absolute ["b.xml"]) (Encoding.Utf8.encode "<notes/>")),
    .load (Path.absolute ["a.xml"])]

namespace includingPrompt

/-- The prompt with another document in place of the one that it included. -/
def changed : FileSystem := includingPrompt.put ["b.xml"] (.file (Encoding.Utf8.encode "<notes/>"))

/-- The root element of the prompt. -/
def prompt : Element := ⟨"prompt", [], .element "" includeName [("href", "b.xml")] (.text "") (.text "")⟩

theorem holds_prompt : includingPrompt.Holds (Path.absolute ["a.xml"]) ["a.xml"] prompt :=
  FileSystem.holds_top (by decide) rfl (by rw [Encoding.Utf8.encode_eq_bytes]; decide)

theorem holds_rule : includingPrompt.Holds (Path.absolute ["b.xml"]) ["b.xml"] ⟨"rule", [], .text ""⟩ :=
  FileSystem.holds_top (by decide) rfl (by rw [Encoding.Utf8.encode_eq_bytes]; decide)

theorem leads_rule : includingPrompt.view.Leads ["a.xml"] [("href", "b.xml")] .elements ["b.xml"] :=
  ⟨⟨"b.xml", .elements⟩, Except.toOption_eq_some.1 (by decide), rfl, FileSystem.target_top (by decide) rfl (by decide)⟩

theorem changed_holds_prompt : changed.Holds (Path.absolute ["a.xml"]) ["a.xml"] prompt :=
  FileSystem.holds_top (by decide) rfl (by rw [Encoding.Utf8.encode_eq_bytes]; decide)

theorem changed_holds_notes : changed.Holds (Path.absolute ["b.xml"]) ["b.xml"] ⟨"notes", [], .text ""⟩ :=
  FileSystem.holds_top (by decide) rfl (by rw [Encoding.Utf8.encode_eq_bytes]; decide)

theorem changed_leads : changed.view.Leads ["a.xml"] [("href", "b.xml")] .elements ["b.xml"] :=
  ⟨⟨"b.xml", .elements⟩, Except.toOption_eq_some.1 (by decide), rfl, FileSystem.target_top (by decide) rfl (by decide)⟩

theorem edit : includingPrompt.edit (.write (Path.absolute ["b.xml"]) (Encoding.Utf8.encode "<notes/>")) = changed := by
  rw [FileSystem.edit, FileSystem.write_top (by decide) rfl]
  rfl

theorem load_prompt :
    loadFresh includingPrompt (Path.absolute ["a.xml"]) = .ok ⟨"prompt", [], .ofElement ⟨"rule", [], .text ""⟩⟩ := by
  rw [loadFresh_of_only_directive holds_prompt.resolve holds_prompt.hasFile holds_prompt.document leads_rule (by decide)
    holds_rule.hasFile holds_rule.document rfl]
  exact Except.toOption_eq_some.1 (by decide)

/-- The documents that the first load parses. -/
def parsed : Cache where
  documents := [(["a.xml"], prompt), (["b.xml"], ⟨"rule", [], .text ""⟩)]

theorem parsedFrom : includingPrompt.view.parsedFrom (Path.absolute ["a.xml"]) = parsed.documents := by
  have hat : includingPrompt.view.parsedAt ["a.xml"] [["a.xml"]] [("href", "b.xml")] = _ :=
    View.parsedAt_elements leads_rule holds_rule.hasFile (by decide) holds_rule.document
  rw [View.parsedFrom_of_document holds_prompt.resolve holds_prompt.hasFile holds_prompt.document, prompt,
    View.parsed_include, hat, View.parsed_of_directives_eq_nil rfl, View.parsed_text, ite_self]
  rfl

theorem load_recalling :
    loadFresh (changed.view.recalling parsed) (Path.absolute ["a.xml"]) =
      .ok ⟨"prompt", [], .ofElement ⟨"rule", [], .text ""⟩⟩ := by
  have hresolve : (changed.view.recalling parsed).resolve (Path.absolute ["a.xml"]) = .ok ["a.xml"] :=
    changed_holds_prompt.resolve
  have hfile : (changed.view.recalling parsed).hasFile ["a.xml"] = .ok true := changed_holds_prompt.hasFile
  have hlead : (changed.view.recalling parsed).Leads ["a.xml"] [("href", "b.xml")] .elements ["b.xml"] := changed_leads
  have hincluded : (changed.view.recalling parsed).hasFile ["b.xml"] = .ok true := changed_holds_notes.hasFile
  rw [loadFresh_of_only_directive hresolve hfile (View.recalling_document_of_lookup rfl) hlead (by decide) hincluded
    (View.recalling_document_of_lookup rfl) rfl]
  exact Except.toOption_eq_some.1 (by decide)

theorem load_changed :
    loadFresh changed (Path.absolute ["a.xml"]) =
      .ok ⟨"prompt", [], .ofElement ⟨"notes", [], .text ""⟩⟩ := by
  rw [loadFresh_of_only_directive changed_holds_prompt.resolve changed_holds_prompt.hasFile
    changed_holds_prompt.document changed_leads (by decide) changed_holds_notes.hasFile changed_holds_notes.document rfl]
  exact Except.toOption_eq_some.1 (by decide)

end includingPrompt

open includingPrompt in
/-- The second load still gives what the included document held when it was first read, though it holds something else
by then. -/
theorem Session.outcomes_includingPrompt :
    Reference.TextFree ⟨includingPrompt, []⟩ reloadSteps ∧
      Session.outcomes ⟨includingPrompt, {}⟩ reloadSteps =
        [.ok ⟨"prompt", [], .ofElement ⟨"rule", [], .text ""⟩⟩, .ok ⟨"prompt", [], .ofElement ⟨"rule", [], .text ""⟩⟩] ∧
      loadFresh (Session.after ⟨includingPrompt, {}⟩ reloadSteps).files (Path.absolute ["a.xml"]) =
        .ok ⟨"prompt", [], .ofElement ⟨"notes", [], .text ""⟩⟩ := by
  have hfree : Reference.TextFree ⟨includingPrompt, []⟩ reloadSteps := by
    refine Reference.textFree_of_states (by simp) ?_
    simp only [reloadSteps, FileSystem.states, edit]
    simp only [changed, includingPrompt, Encoding.Utf8.encode_eq_bytes]
    decide
  have hchanged : (Session.after ⟨includingPrompt, {}⟩ reloadSteps).files = changed := edit
  refine ⟨hfree, ?_, by rw [hchanged]; exact load_changed⟩
  rw [(outcomes_eq_reference includingPrompt reloadSteps hfree).1]
  have hfirst : Reference.view ⟨includingPrompt, []⟩ = includingPrompt.view := rfl
  have hsecond : Reference.view ⟨changed, parsed.documents⟩ = changed.view.recalling parsed := rfl
  simp only [reloadSteps, Reference.outcomes, Reference.next, hfirst, edit, List.nil_append, parsedFrom]
  rw [load_prompt, hsecond, load_recalling]

end PromptMarkup
