import Mathlib.Control.Monad.Basic
import PromptMarkup.Proofs.Files.Unread
import PromptMarkup.Proofs.Inclusion.Session
import PromptMarkup.Proofs.Inclusion.Twins

/-!
# Texts in several encodings

A loader keeps a text under the location of its file, and not under the encoding that it was read in.  While no file
changes, its loads therefore give the composition of the first reading of each text (`outcome_load_after`).  The main
result: as long as a file reads the same in all encodings that it is asked for in, this is each directive's own reading
(`outcomes_loads_eq_composition`).  Otherwise what comes first decides (`load_twoEncodings`).
-/

namespace PromptMarkup

namespace View

variable {v w : View} {roots : List Path}

/-- Some document that the roots lead to includes the text of a file in an encoding. -/
def AsksFor (v : View) (roots : List Path) (t : Location) (encoding : String) : Prop :=
  ∃ root ∈ roots, ∃ l, v.Reaches root l ∧ v.IncludesText l t encoding

/-- A file that can be read in one of the encodings that it is asked for in reads the same in all of them. -/
def ReadsAlike (v : View) (roots : List Path) : Prop :=
  ∀ {t encoding encoding' s}, v.AsksFor roots t encoding → v.AsksFor roots t encoding' →
    v.text t encoding = .ok s → v.text t encoding' = .ok s

/-- What the roots lead to includes no more than that, whatever has been read of it before. -/
theorem closed_recalling {c : Cache} (hc : c.Truthful v) (roots : List Path) :
    (v.recalling c).Closed (fun l => ∃ root ∈ roots, v.Reaches root l) (v.AsksFor roots) where
  includes := by
    rintro l t ⟨root, hroot, hl⟩ ht
    rw [includes_congr (v := v.recalling c) (w := v) rfl hc] at ht
    exact ⟨root, hroot, hl.includes ht⟩
  includesText := by
    rintro l t encoding ⟨root, hroot, hl⟩ ht
    rw [includesText_congr (v := v.recalling c) (w := v) rfl hc] at ht
    exact ⟨root, hroot, l, hl, ht⟩

end View

namespace Session

variable {s : Session} {roots : List Path} {root : Path}

theorem files_after_loads (s : Session) (roots : List Path) : (s.after (roots.map .load)).files = s.files := by
  induction roots generalizing s with
  | nil => rfl
  | cons root roots ih => exact ih (s.next (.load root))

/-- A load gives the composition of what the loader holds when it is done, and adds texts only as they are asked for. -/
theorem explained_load (h : s.cache.Truthful s.files) (hroot : root ∈ roots) :
    Loading.Explained s.files (s.files.view.AsksFor roots) s.cache ((PromptMarkup.load s.files root).outcome s.cache)
      (fun c => (s.files.view.recalling c).composition root) :=
  Loading.follows_load (View.closed_recalling h roots) root (fun hl => ⟨root, hroot, .root hl⟩) s.cache rfl

/-- A run of loads adds texts only as they are asked for. -/
theorem grows_after_loads {all : List Path} (h : s.cache.Truthful s.files) (hsub : roots ⊆ all) :
    Cache.Grows s.files (s.files.view.AsksFor all) s.cache (s.after (roots.map .load)).cache := by
  induction roots generalizing s with
  | nil => exact .refl _
  | cons root roots ih =>
    obtain ⟨hroot, hroots⟩ := List.cons_subset.1 hsub
    have hg := (explained_load h hroot).grows
    exact hg.trans (ih (s := s.next (.load root)) (hg.document.trans h) hroots)

/-- While no file changes, a load gives the composition of the documents as they are and, of each text, of the reading
that the loader holds when it is done.  That reading is never replaced, and was made in an encoding asked for. -/
theorem outcome_load_after (fs : FileSystem) (before : List Path) (root : Path) :
    let s := Session.after ⟨fs, {}⟩ (before.map .load)
    let c := (s.next (.load root)).cache
    ((PromptMarkup.load fs root).outcome s.cache).1 = (fs.view.recalling c).composition root ∧
      (fs.view.recalling c).document = fs.document ∧
      (∀ t text, s.cache.texts.lookup t = some text → c.texts.lookup t = some text) ∧
      ∀ t text, c.texts.lookup t = some text →
        ∃ encoding, fs.view.AsksFor (before ++ [root]) t encoding ∧ fs.text t encoding = .ok text := by
  intro s c
  have hfiles : s.files = fs := files_after_loads ⟨fs, {}⟩ before
  have hbefore : Cache.Grows fs (fs.view.AsksFor (before ++ [root])) {} s.cache :=
    grows_after_loads (s := ⟨fs, {}⟩) rfl (List.subset_append_left _ _)
  have htruthful : s.cache.Truthful s.files := by
    rw [hfiles]
    exact hbefore.document
  have hload := explained_load htruthful (List.mem_append_right before (List.mem_singleton_self root))
  rw [hfiles] at hload
  have hc : c = ((PromptMarkup.load fs root).outcome s.cache).2 := by rw [← hfiles]; rfl
  rw [hc]
  have hall := hbefore.trans hload.grows
  exact ⟨hload.eq, hall.document, fun t text ht => hload.grows.kept ht,
    fun t text ht => (hall.read ht).resolve_left (by simp)⟩

/-- With files that read the same in all encodings asked for, it makes no difference which reading is kept. -/
theorem outcomes_loads {fs : FileSystem} {all : List Path} (h : fs.view.ReadsAlike all) (before rest : List Path)
    (hsub : before ++ rest ⊆ all) :
    (Session.after ⟨fs, {}⟩ (before.map .load)).outcomes (rest.map .load) = rest.map fs.view.composition := by
  induction rest generalizing before with
  | nil => rfl
  | cons root rest ih =>
    have hsub' : before ++ [root] ++ rest ⊆ all := by simpa using hsub
    have hbefore : before ++ [root] ⊆ all := List.Subset.trans (List.subset_append_left _ _) hsub'
    have hasks {t : Location} {encoding : String} (ha : fs.view.AsksFor (before ++ [root]) t encoding) :
        fs.view.AsksFor all t encoding := by
      obtain ⟨r, hr, hl⟩ := ha
      exact ⟨r, hbefore hr, hl⟩
    obtain ⟨hload, hdocument, -, hread⟩ := outcome_load_after fs before root
    have hcomposition := View.composition_congr (v := fs.view) (d := {}) hdocument
      (View.closed_recalling (c := {}) rfl all) (fun {t encoding} ha => ?_)
      (fun hl => ⟨root, hbefore (List.mem_append_right before List.mem_cons_self), .root hl⟩)
    · have hnext : (Session.after ⟨fs, {}⟩ (before.map .load)).next (.load root) =
          Session.after ⟨fs, {}⟩ ((before ++ [root]).map .load) := by
        rw [List.map_append, List.map_singleton, after_concat]
      rw [List.map_cons, List.map_cons, outcomes, files_after_loads, hload, hcomposition, hnext,
        ih (before ++ [root]) hsub']
      rfl
    · -- The reading that is kept was made in an encoding asked for, and so would be this one.
      rw [View.recalling_empty]
      cases ht : ((Session.after ⟨fs, {}⟩ (before.map .load)).next (.load root)).cache.texts.lookup t with
      | none => simp [View.recalling, ht]
      | some text =>
        obtain ⟨encoding', ha', hread'⟩ := hread t text ht
        rw [h (hasks ha') ha hread']
        exact View.recalling_text_of_lookup ht encoding

end Session

/-- What a directive for a text stands for: the bytes of its file in its own encoding, with line feeds for all line
ends.  If they cannot be read so, there is a structural fault, provided that the fault is one that is reported. -/
theorem FileSystem.inclusion_text {fs : FileSystem} {document t : Location} (chain : Chain)
    {attributes : List (String × String)} {bs : List UInt8} {encoding : String}
    (hl : fs.view.Leads document attributes (.text encoding) t) (hf : fs.hasFile t = .ok true)
    (hr : fs.read (Path.absolute t) = .ok bs) :
    (∀ s, Encoding.decode fs.decoders encoding bs = .ok s →
      fs.view.inclusion document chain attributes = .ok (.text (Text.withLineFeeds s))) ∧
      ∀ f, Encoding.decode fs.decoders encoding bs = .error f → f.IsReported →
        fs.view.inclusion document chain attributes =
          .error (.fault { cause := .unreadableText f.message, source := some (Path.absolute t),
                           chain := Chain.paths (chain ++ [t]) }) := by
  rw [View.inclusion_text hl hf, View.readText]
  refine ⟨fun s hs => ?_, fun f hd hf => ?_⟩
  · rw [show fs.view.text t encoding = _ from (fs.text_of_read hr).1 s hs]
    rfl
  · rw [show fs.view.text t encoding = _ from (fs.text_of_read hr).2 f hd hf]
    rfl

/-- A directive that asks for a text, in UTF-8 unless it names another encoding. -/
theorem Directive.ofAttributes_text {attributes : List (String × String)}
    (hp : attributes.lookup "parse" = some "text") (hh : Text.trim ((attributes.lookup "href").getD "") ≠ "") :
    ofAttributes attributes = .ok ⟨Text.trim ((attributes.lookup "href").getD ""),
      .text ((attributes.lookup "encoding").getD "utf-8")⟩ := by
  simp only [ofAttributes, hp, if_neg hh]
  rfl

/-- Loads by one loader, of files that do not change and read the same in all encodings asked for, give compositions,
in which each directive for a text stands for the bytes of its file in its own encoding.  If the encoding is unknown,
gives no text, or cannot decode the bytes, there is a structural fault. -/
theorem Session.outcomes_loads_eq_composition (fs : FileSystem) (roots : List Path) (h : fs.view.ReadsAlike roots) :
    Session.outcomes ⟨fs, {}⟩ (roots.map .load) = roots.map fs.view.composition ∧
      ∀ (document t : Location) (chain : Chain) (attributes : List (String × String)) (bs : List UInt8),
        let href := Text.trim ((attributes.lookup "href").getD "")
        let encoding := (attributes.lookup "encoding").getD "utf-8"
        attributes.lookup "parse" = some "text" → href ≠ "" → fs.view.target href document = .ok t →
        fs.hasFile t = .ok true → fs.read (Path.absolute t) = .ok bs →
          (∀ s, Encoding.decode fs.decoders encoding bs = .ok s →
            fs.view.inclusion document chain attributes = .ok (.text (Text.withLineFeeds s))) ∧
          ∀ f, Encoding.decode fs.decoders encoding bs = .error f → f.IsReported →
            ∃ fault : Fault, fs.view.inclusion document chain attributes = .error (.fault fault) ∧
              fault.category = .structural ∧ fault.source = some (Path.absolute t) := by
  refine ⟨outcomes_loads h [] roots (List.Subset.refl _), ?_⟩
  intro document t chain attributes bs href encoding hp hh ht hf hr
  have hl : fs.view.Leads document attributes (.text encoding) t := ⟨_, Directive.ofAttributes_text hp hh, rfl, ht⟩
  obtain ⟨hok, herror⟩ := fs.inclusion_text chain hl hf hr
  exact ⟨hok, fun f hd hf => ⟨_, herror f hd hf, rfl, rfl⟩⟩

/-- A prompt that includes a fragment twice, loaded twice by one loader. -/
theorem Session.outcomes_sharedFragment :
    Session.outcomes ⟨sharedFragment, {}⟩ [.load (Path.absolute ["a.xml"]), .load (Path.absolute ["a.xml"])] =
        [sharedFragment.view.composition (Path.absolute ["a.xml"]),
          sharedFragment.view.composition (Path.absolute ["a.xml"])] ∧
      sharedFragment.view.inclusion ["f.xml"] [["a.xml"], ["f.xml"]] [("parse", "text"), ("href", "t.txt")] =
        .ok (.text "z") ∧
      ∃ fault : Fault, sharedFragment.view.inclusion ["f.xml"] [["a.xml"], ["f.xml"]]
          [("parse", "text"), ("href", "t.txt"), ("encoding", "none")] = .error (.fault fault) ∧
        fault.category = .structural ∧ fault.source = some (Path.absolute ["t.txt"]) := by
  have h : sharedFragment.view.ReadsAlike [Path.absolute ["a.xml"], Path.absolute ["a.xml"]] := by
    have hone : sharedFragment.view.OneEncoding (Path.absolute ["a.xml"]) := sharedFragment.oneEncoding _
    rintro t encoding encoding' s ⟨root, hr, l, hl, ht⟩ ⟨root', hr', m, hm, ht'⟩ hs
    obtain rfl : root = Path.absolute ["a.xml"] := by simpa using hr
    obtain rfl : root' = Path.absolute ["a.xml"] := by simpa using hr'
    rwa [← hone hl hm ht ht']
  obtain ⟨hloads, htexts⟩ := outcomes_loads_eq_composition sharedFragment _ h
  have htext := htexts ["f.xml"] ["t.txt"] [["a.xml"], ["f.xml"]] [("parse", "text"), ("href", "t.txt")]
    (Encoding.Utf8.encode "z") rfl (by decide)
    (FileSystem.target_top (by decide) rfl (by decide)) (FileSystem.hasFile_top (by decide) rfl)
    (FileSystem.read_top (by decide) rfl)
  have hnone := htexts ["f.xml"] ["t.txt"] [["a.xml"], ["f.xml"]]
    [("parse", "text"), ("href", "t.txt"), ("encoding", "none")] (Encoding.Utf8.encode "z") rfl (by decide)
    (FileSystem.target_top (by decide) rfl (by decide)) (FileSystem.hasFile_top (by decide) rfl)
    (FileSystem.read_top (by decide) rfl)
  refine ⟨hloads, htext.1 "z" (Except.toOption_eq_some.1 (by decide +kernel)), ?_⟩
  exact hnone.2 (.unknown "none") (by decide +kernel) trivial

/-! ### A text that is asked for in two encodings -/

/-- A prompt that includes one text in two encodings. -/
def twoEncodings : FileSystem where
  current := []
  nodes := [
    (["a.xml"], .file (Encoding.Utf8.encode ("<prompt xmlns:xi='http://www.w3.org/2001/XInclude'>"
      ++ "<xi:include parse='text' href='t.txt'/> "
      ++ "<xi:include parse='text' href='t.txt' encoding='utf-16-le'/></prompt>"))),
    (["t.txt"], .file (Encoding.Utf8.encode "ab"))]

namespace twoEncodings

/-- The root element of the prompt. -/
def prompt : Element :=
  ⟨"prompt", [], .element "" includeName [("parse", "text"), ("href", "t.txt")] (.text "")
    (.element " " includeName [("parse", "text"), ("href", "t.txt"), ("encoding", "utf-16-le")] (.text "") (.text ""))⟩

theorem holds_prompt : twoEncodings.Holds (Path.absolute ["a.xml"]) ["a.xml"] prompt :=
  FileSystem.holds_top (by decide) rfl (by rw [Encoding.Utf8.encode_eq_bytes]; decide +kernel)

theorem hasFile_text : twoEncodings.hasFile ["t.txt"] = .ok true := FileSystem.hasFile_top (by decide) rfl

theorem leads_utf8 :
    twoEncodings.view.Leads ["a.xml"] [("parse", "text"), ("href", "t.txt")] (.text "utf-8") ["t.txt"] :=
  ⟨⟨"t.txt", .text "utf-8"⟩, by decide, rfl, FileSystem.target_top (by decide) rfl (by decide)⟩

theorem leads_utf16 : twoEncodings.view.Leads ["a.xml"]
    [("parse", "text"), ("href", "t.txt"), ("encoding", "utf-16-le")] (.text "utf-16-le") ["t.txt"] :=
  ⟨⟨"t.txt", .text "utf-16-le"⟩, by decide, rfl, FileSystem.target_top (by decide) rfl (by decide)⟩

theorem text_utf8 : twoEncodings.text ["t.txt"] "utf-8" = .ok "ab" :=
  (FileSystem.text_of_read (FileSystem.read_top (by decide) rfl)).1 "ab" (by decide +kernel)

theorem text_utf16 : twoEncodings.text ["t.txt"] "utf-16-le" = .ok "扡" :=
  (FileSystem.text_of_read (FileSystem.read_top (by decide) rfl)).1 "扡" (by decide +kernel)

/-- The loader keeps the reading in the one encoding, and takes it for the reading in the other one. -/
theorem outcome_compose :
    ((Loading.compose twoEncodings ["a.xml"] [["a.xml"]] prompt.content).outcome ⟨[(["a.xml"], prompt)], []⟩).1 =
      .ok (.text "ab ab") := by
  have htext : twoEncodings.view.readText ["t.txt"] "utf-8" [["a.xml"], ["t.txt"]] = .ok "ab" :=
    View.readText_eq_ok.2 text_utf8
  simp only [prompt, Loading.compose_include, Loading.inclusion_text leads_utf8 hasFile_text,
    Loading.inclusion_text leads_utf16 hasFile_text, Loading.compose_text, map_eq_pure_bind, List.cons_append,
    List.nil_append, Loading.outcome_bind, Loading.outcome_text, Loading.fetch, List.lookup_nil, List.lookup_cons,
    htext, Loading.outcome_pure, beq_self_eq_true]
  decide

/-- By themselves the two directives stand for different texts. -/
theorem compose : twoEncodings.view.compose ["a.xml"] [["a.xml"]] prompt.content = .ok (.text "ab 扡") := by
  have hutf8 : twoEncodings.view.readText ["t.txt"] "utf-8" [["a.xml"], ["t.txt"]] = .ok "ab" :=
    View.readText_eq_ok.2 text_utf8
  have hutf16 : twoEncodings.view.readText ["t.txt"] "utf-16-le" [["a.xml"], ["t.txt"]] = .ok "扡" :=
    View.readText_eq_ok.2 text_utf16
  simp only [prompt, View.compose_include, View.inclusion_text leads_utf8 hasFile_text,
    View.inclusion_text leads_utf16 hasFile_text, View.compose_text, List.cons_append, List.nil_append, hutf8, hutf16]
  decide

end twoEncodings

open twoEncodings in
/-- The reading in the one encoding stands for the other one too. -/
theorem load_twoEncodings :
    Session.outcomes ⟨twoEncodings, {}⟩ [.load (Path.absolute ["a.xml"])] = [.ok ⟨"prompt", [], .text "ab ab"⟩] ∧
      twoEncodings.view.composition (Path.absolute ["a.xml"]) = .ok ⟨"prompt", [], .text "ab 扡"⟩ := by
  rw [Session.outcomes, Loading.outcome_load_of_document holds_prompt, outcome_compose,
    View.composition_of_document holds_prompt, compose]
  exact ⟨rfl, rfl⟩

end PromptMarkup
