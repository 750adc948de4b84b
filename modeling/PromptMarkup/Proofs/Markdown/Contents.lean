import PromptMarkup.Proofs.Markdown.Artifact
import PromptMarkup.Proofs.Markdown.Layout

/-!
# The table of contents

An artifact is printed block by block, each with an empty line below it (`Document.lines_render`).  One of the blocks
may be a table of contents.  A table that is made from the rules has one line for each of them, which says what the
heading of the rule says (`Rule.isEntryOf_entry`), and as no two rules have one number, no two lines are the same
(`Rule.nodup_entries`).  The main result: an artifact has its table of contents below the blocks of the header and above
the sections, with these lines or with those that the prompt lists (`Document.contents_of_ofTree`).
-/

namespace PromptMarkup

/-! ### Blocks line by line -/

/-- The lines of a block and the empty line below it. -/
def spaced (b : String) : List String := Text.lines b ++ [""]

theorem lines_blocks_append_newline {bs : List String} (hne : bs ≠ []) :
    Text.lines (blocks bs ++ "\n") = bs.flatMap spaced := by
  induction bs with
  | nil => exact absurd rfl hne
  | cons b bs ih =>
    cases bs with
    | nil => rw [blocks, Text.join, lines_append_final, List.flatMap_singleton, spaced]
    | cons c cs =>
      have hcut : blocks (b :: c :: cs) ++ "\n" = b ++ "\n\n" ++ (blocks (c :: cs) ++ "\n") := String.append_assoc ..
      have hfirst : (b :: c :: cs).flatMap spaced = Text.lines b ++ "" :: (c :: cs).flatMap spaced := by
        rw [List.flatMap_cons, spaced, List.append_assoc, List.singleton_append]
      rw [hcut, lines_append_blank, ih (List.cons_ne_nil c cs), hfirst]

/-! ### Entries of rules -/

/-- Different numbers are written differently. -/
theorem toString_injective {m n : Int} (h : toString m = toString n) : m = n := by
  have hnat {a b : Nat} (h : a.repr = b.repr) : a = b := by
    have hdigits := congrArg (fun s => Nat.ofDigitChars 10 s.toList 0) h
    simpa using hdigits
  have hminus (a b : Nat) : a.repr ≠ "-" ++ b.repr := by
    intro heq
    have hmem : '-' ∈ Nat.toDigits 10 a := by simp [← Nat.toList_repr, heq]
    exact absurd (Nat.isDigit_of_mem_toDigits (by decide) (by decide) hmem) (by decide)
  simp only [Int.toString_eq_repr, Int.repr_eq_if] at h
  split at h <;> split at h
  · have hsame := hnat h
    omega
  · exact absurd h (hminus _ _)
  · exact absurd h.symm (hminus _ _)
  · rw [← String.toList_inj, String.toList_append, String.toList_append, List.append_cancel_left_eq,
      String.toList_inj] at h
    have hsame := hnat h
    omega

/-- A line with a bullet that says what the heading of a rule says. -/
structure IsEntryOf (entry : String) (r : Rule) : Prop where
  bullet : ∃ s, entry = "- " ++ s
  heading : ∀ s, entry = "- " ++ s ↔ (Text.lines (Section.rule r).render).head? = some ("## " ++ s)

namespace Rule

/-- The heading is a line of its own. -/
theorem head?_lines_render {r : Rule} (ht : OneLine r.title) :
    (Text.lines r.render).head? = some ("## " ++ r.label) := by
  have hheading : OneLine ("## " ++ r.label) := OneLine.append (by decide) (oneLine_label ht)
  have hcut : ∃ below, r.render = ("## " ++ r.label) ++ "\n\n" ++ below := ⟨_, rfl⟩
  obtain ⟨below, hbelow⟩ := hcut
  rw [hbelow, lines_append_blank, Text.lines_of_notMem hheading]
  rfl

theorem isEntryOf_entry {r : Rule} (ht : OneLine r.title) : IsEntryOf r.entry r where
  bullet := ⟨r.label, r.entry_eq⟩
  heading s := by
    have hrender : (Section.rule r).render = r.render := rfl
    rw [hrender, head?_lines_render ht, r.entry_eq]
    simp [← String.toList_inj]

/-- The number of a rule stands in its entry above the first colon. -/
theorem number_eq_of_entry_eq {r r' : Rule} (h : r.entry = r'.entry) : r.number = r'.number := by
  have hcut (r : Rule) :
      r.entry.toList = "- Rule ".toList ++ ((toString r.number).toList ++ ':' :: ' ' :: r.title.toList) := by
    simp [entry]
  have hcolon (n : Int) : ':' ∉ (toString n).toList := notMem_toString (by decide) (by decide) n
  rw [← String.toList_inj, hcut, hcut] at h
  have hnumber := congrArg (List.takeWhile (· != ':')) (List.append_cancel_left h)
  rw [takeWhile_bne_append_cons (hcolon _), takeWhile_bne_append_cons (hcolon _), String.toList_inj] at hnumber
  exact toString_injective hnumber

theorem nodup_entries {rs : List Rule} (h : (rs.map number).Nodup) : (rs.map entry).Nodup := by
  rw [List.Nodup, List.pairwise_map] at h ⊢
  exact h.imp fun hne heq => hne (number_eq_of_entry_eq heq)

end Rule

/-! ### The table of an artifact -/

namespace Document

/-- The blocks of the header: the frontmatter with the title, the role and the description. -/
def upperBlocks (d : Document) : List String :=
  d.head :: (if d.role = "" then [] else ["## Role\n\n" ++ d.role]) ++ optionalBlock d.description

/-- The lines that the table of contents takes up, with the empty line below it. -/
inductive IsContents (d : Document) : List String → Prop where
  /-- There is none if the prompt asks for none. -/
  | absent (h : d.toc = none) : IsContents d []
  /-- It is made from the rules, and the prompt has no rule. -/
  | heading {t : TableOfContents} (h : d.toc = some t) (hauto : t.auto = true) (hrules : d.rules = []) :
      IsContents d [tocHeading, ""]
  /-- It is made from the rules, and has a line for each, in order. -/
  | rules {t : TableOfContents} {entries : List String} (h : d.toc = some t) (hauto : t.auto = true)
      (hrules : d.rules ≠ []) (hentries : List.Forall₂ IsEntryOf entries d.rules) (hnodup : entries.Nodup) :
      IsContents d (tocHeading :: "" :: (entries ++ [""]))
  /-- There is none if it is not made from the rules and the prompt lists no entry. -/
  | unlisted {t : TableOfContents} (h : d.toc = some t) (hauto : t.auto = false) (hentries : t.entries = []) :
      IsContents d []
  /-- It has a line for each entry that the prompt lists, in order. -/
  | listed {t : TableOfContents} (h : d.toc = some t) (hauto : t.auto = false) (hentries : t.entries ≠ []) :
      IsContents d (tocHeading :: "" :: (t.entries.map ("- " ++ ·) ++ [""]))

variable {d : Document}

theorem lines_render (d : Document) : Text.lines d.render =
    d.upperBlocks.flatMap spaced ++ (optionalBlock d.renderToc).flatMap spaced ++
      (d.sections.map Section.render).flatMap spaced := by
  have hblocks : d.artifactBlocks = d.upperBlocks ++ optionalBlock d.renderToc ++ d.sections.map Section.render := by
    rw [artifactBlocks_eq, lowerBlocks, upperBlocks]
    simp only [List.append_assoc, List.cons_append]
  have hne : d.artifactBlocks ≠ [] := by
    rw [artifactBlocks_eq]
    exact List.cons_ne_nil _ _
  rw [render, lines_blocks_append_newline hne, hblocks, List.flatMap_append, List.flatMap_append]

theorem spaced_table {items : List String} (hne : items ≠ []) (h : ∀ i ∈ items, OneLine i) :
    (optionalBlock (tocHeading ++ "\n\n" ++ bullets items)).flatMap spaced =
      tocHeading :: "" :: (items.map ("- " ++ ·) ++ [""]) := by
  have hfull : tocHeading ++ "\n\n" ++ bullets items ≠ "" := by simp [tocHeading]
  have hheading : OneLine tocHeading := by decide
  rw [optionalBlock, if_neg hfull, List.flatMap_singleton, spaced, lines_append_blank, lines_bullets hne h,
    Text.lines_of_notMem hheading, List.singleton_append, List.cons_append, List.cons_append]

theorem isContents_of_wellRead (h : d.WellRead) : d.IsContents ((optionalBlock d.renderToc).flatMap spaced) := by
  have hempty : (optionalBlock "").flatMap spaced = [] := rfl
  rw [renderToc]
  split
  · next ht =>
    rw [hempty]
    exact .absent ht
  · next t ht =>
    split
    · next hauto =>
      split
      · next hrules => exact .heading ht hauto (by simpa using hrules)
      · next hrules =>
        have hne : d.rules ≠ [] := by simpa using hrules
        have htitle := oneLine_title_of_mem_rules h.leafTexts
        have hlabels : (d.rules.map Rule.label).map ("- " ++ ·) = d.rules.map Rule.entry := by
          simp only [List.map_map, Function.comp_def, ← Rule.entry_eq]
        rw [Rule.join_entries, spaced_table (by simpa using hne)
          (List.forall_mem_map.2 (oneLine_label_of_mem_rules h.leafTexts)), hlabels]
        refine .rules ht hauto hne ?_ (Rule.nodup_entries h.numbers)
        rw [List.forall₂_map_left_iff, List.forall₂_same]
        exact fun r hr => Rule.isEntryOf_entry (htitle r hr)
    · next hauto =>
      have hlisted : t.auto = false := by simpa using hauto
      split
      · next hentries =>
        rw [hempty]
        exact .unlisted ht hlisted (by simpa using hentries)
      · next hentries =>
        have hne : t.entries ≠ [] := by simpa using hentries
        rw [spaced_table hne (oneLine_of_mem_entries h.leafTexts ht)]
        exact .listed ht hlisted hne

/-- An artifact has its table of contents between the blocks of the header and the sections. -/
theorem contents_of_ofTree {source : Option Path} {root : Element} (hd : Document.ofTree source root = .ok d) :
    ∃ contents, d.IsContents contents ∧ Text.lines d.render =
      d.upperBlocks.flatMap spaced ++ contents ++ (d.sections.map Section.render).flatMap spaced :=
  ⟨_, isContents_of_wellRead ((reads_ofTree source root).ok hd), d.lines_render⟩

end Document

namespace listedPrompt

open checkedPrompt (leaf)

/-- A prompt with two rules and a template between them.  Its table of contents is made from the rules, although it
lists an entry of its own. -/
def tree : Element :=
  ⟨"prompt", [],
    leaf "metadata" ""
      ++ .ofElement ⟨"header", [], leaf "title" "A prompt"⟩
      ++ .ofElement ⟨"table-of-contents", [("auto", "yes")], leaf "entry" "Old"⟩
      ++ .ofElement ⟨"content", [],
        .ofElement ⟨"rule", [("id", "7")],
            leaf "title" "Short\n names" ++ leaf "subtitle" "Names" ++ leaf "description" "Be brief."⟩
          ++ .ofElement ⟨"template", [],
            leaf "title" "Note" ++ leaf "description" "Use this" ++ leaf "body" "Dear reader"⟩
          ++ .ofElement ⟨"rule", [("id", "-2")],
            leaf "title" "Short names" ++ leaf "subtitle" "Types" ++ leaf "description" "Be brief."⟩⟩⟩

/-- The document that the tree stands for. -/
def document : Document where
  metadata := {}
  title := "A prompt"
  toc := some { auto := true, entries := ["Old"] }
  sections := [
    .rule { number := 7, title := "Short names", subtitle := "Names", description := "Be brief." },
    .template { title := "Note", description := "Use this", body := ⟨"", "Dear reader"⟩ },
    .rule { number := -2, title := "Short names", subtitle := "Types", description := "Be brief." }]

theorem ofTree_tree : Document.ofTree none tree = .ok document :=
  Except.toOption_eq_some.1 (by decide +kernel)

end listedPrompt

open listedPrompt in
/-- The two rules are listed under their numbers. -/
theorem contents_listedPrompt :
    Document.ofTree none tree = .ok document ∧
      Text.lines document.renderToc = [tocHeading, "", "- Rule 7: Short names", "- Rule -2: Short names"] ∧
      ∃ contents, document.IsContents contents ∧ Text.lines document.render =
        document.upperBlocks.flatMap spaced ++ contents ++ (document.sections.map Section.render).flatMap spaced :=
  ⟨ofTree_tree, by decide, Document.contents_of_ofTree ofTree_tree⟩

end PromptMarkup
