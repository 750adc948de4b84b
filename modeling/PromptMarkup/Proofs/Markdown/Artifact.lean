import PromptMarkup.Except
import PromptMarkup.Proofs.Document.Reading
import PromptMarkup.Proofs.Markdown.Blocks

/-!
# The printer and the check agree

The Markdown of a document that was read from a tree passes the check (`checkText_render`), unless the document holds
text that Markdown would take for something else: a fence in front of a description or inside code, a heading inside a
template, or a template that ends with a line feed.  Every section is a block, and so is what stands below the title.
-/

namespace PromptMarkup

/-! ### What a document may hold -/

def Rule.Fits (r : Rule) : Prop := (∀ b ∈ r.goodExample, b.Fits) ∧ ∀ b ∈ r.badExample, b.Fits

/-- The body of a template is printed without fences, so none of its lines may be a fence or a heading. -/
structure Template.Fits (t : Template) : Prop where
  description : isFence t.description = false
  ending : (Text.verbatim t.body.content).toList.getLast? ≠ some '\n'
  lines : ∀ line ∈ Text.lines (Text.verbatim t.body.content), IsQuiet line

def Questions.Fits (q : Questions) : Prop := isFence q.description = false

def Step.Fits (s : Step) : Prop := isFence s.description = false ∧ ∀ b ∈ s.code, b.Fits

def Workflow.Fits (w : Workflow) : Prop := isFence w.description = false ∧ ∀ s ∈ w.steps, s.Fits

def Guidance.Fits (g : Guidance) : Prop :=
  isFence g.description = false ∧ ∀ r ∈ g.restrictions, isFence r.description = false

def Section.Fits : Section → Prop
  | .rule r => r.Fits
  | .template t => t.Fits
  | .questions q => q.Fits
  | .workflow w => w.Fits
  | .instructions g => g.Fits
  | .outputRequirements g => g.Fits

/-- A document that holds nothing that the check would take for something else. -/
structure Document.Fits (d : Document) : Prop where
  role : isFence d.role = false
  description : isFence d.description = false
  sections : ∀ s ∈ d.sections, s.Fits

/-! ### Lines of a document -/

theorem oneLine_of_leaf {s : String} (h : Text.leaf s = s) : OneLine s := by
  intro hs
  rw [← h] at hs
  exact absurd (Text.eq_space_of_mem_leaf hs (by decide)) (by decide)

/-- A number is written with digits and a minus sign. -/
theorem notMem_toString {c : Char} (hd : c.isDigit = false) (hc : c ≠ '-') (n : Int) : c ∉ (toString n).toList := by
  have hnat (n : Nat) : c ∉ n.repr.toList := by
    rw [Nat.toList_repr]
    intro h
    rw [Nat.isDigit_of_mem_toDigits (by decide) (by decide) h] at hd
    cases hd
  rw [Int.toString_eq_repr, Int.repr_eq_if]
  split
  · exact hnat _
  · rw [String.toList_append, List.mem_append]
    exact fun h => h.elim (fun hminus => hc (List.mem_singleton.1 hminus)) (hnat _)

theorem oneLine_toString (n : Int) : OneLine (toString n) := notMem_toString (by decide) (by decide) n

theorem isBlock_heading {title subtitle : String} (ht : OneLine title) (hs : OneLine subtitle) :
    IsBlock (heading title subtitle) := by
  have htitle : OneLine ("## " ++ title) := OneLine.append (by decide) ht
  unfold heading
  split
  · exact isBlock_of_oneLine htitle (by simp) (by simp [isFence, beginsWith, List.isPrefixOf])
  · exact isBlock_of_oneLine ((htitle.append (by decide)).append hs) (by simp)
      (by simp [isFence, beginsWith, List.isPrefixOf])

/-- A block with a line of its own above it. -/
theorem IsBlock.captioned {b : String} (hb : IsBlock b) (caption : String) (hc : OneLine caption)
    (hf : isFence caption = false) : IsBlock (caption ++ "\n\n" ++ b) := by
  refine .append ?_ hb
  rw [Text.lines_of_notMem hc]
  exact .cons hf (List.forall_mem_nil _)

theorem isBlock_of_mem_optionalBlock {s : String} (h : s ≠ "" → IsBlock s) : ∀ b ∈ optionalBlock s, IsBlock b := by
  intro b hb
  unfold optionalBlock at hb
  split at hb
  · cases hb
  · next hne =>
    obtain rfl := List.mem_singleton.1 hb
    exact h hne

/-- A description, if there is one. -/
theorem isBlock_of_mem_description {s : String} (hs : Text.leaf s = s) (hf : isFence s = false) :
    ∀ b ∈ optionalBlock s, IsBlock b :=
  isBlock_of_mem_optionalBlock fun hne => isBlock_of_oneLine (oneLine_of_leaf hs) hne hf

/-- A list, if it has items. -/
theorem isBlock_of_mem_list {α : Type} {xs : List α} {f : α → String} (h : ∀ x ∈ xs, OneLine (f x)) :
    ∀ b ∈ if xs.isEmpty then [] else [bullets (xs.map f)], IsBlock b := by
  split
  · exact List.forall_mem_nil _
  · next hne => exact List.forall_mem_singleton.2 (isBlock_bullets (by simpa using hne) (List.forall_mem_map.2 h))

theorem Note.oneLine {n : Note} (h : AllRead n.leafTexts) : OneLine ("**" ++ n.term ++ "**: " ++ n.description) := by
  simp only [leafTexts, allRead_cons, allRead_nil, and_true] at h
  obtain ⟨⟨hterm, -⟩, htext⟩ := h
  exact ((OneLine.append (by decide) (oneLine_of_leaf hterm)).append (by decide)).append (oneLine_of_leaf htext)

namespace Rule

theorem oneLine_label {r : Rule} (ht : OneLine r.title) : OneLine r.label :=
  (((OneLine.append (by decide) (oneLine_toString _)).append (by decide)).append ht)

/-- The table of contents and the heading show a rule alike. -/
theorem entry_eq (r : Rule) : r.entry = "- " ++ r.label := by simp [entry, label, ← String.toList_inj]

theorem join_entries (rs : List Rule) : Text.join "\n" (rs.map entry) = bullets (rs.map label) := by
  simp only [bullets, List.map_map, Function.comp_def, ← entry_eq]

theorem isBlock_render {r : Rule} (h : AllRead r.leafTexts) (hf : r.Fits) : IsBlock r.render := by
  simp only [leafTexts, allRead_append, allRead_cons, allRead_nil, and_true, allRead_flatMap] at h
  obtain ⟨⟨⟨ht, -⟩, ⟨hs, -⟩, hd, hdescription⟩, hnotes⟩ := h
  have hheading : IsBlock ("## " ++ r.label) :=
    isBlock_of_oneLine (OneLine.append (by decide) (oneLine_label (oneLine_of_leaf ht))) (by simp)
      (by simp [isFence, beginsWith, List.isPrefixOf])
  have htexts : IsBlock ("Title: " ++ r.subtitle ++ "\nDescription: " ++ r.description) := by
    have hcut : "Title: " ++ r.subtitle ++ "\nDescription: " ++ r.description =
        "Title: " ++ r.subtitle ++ "\n" ++ ("Description: " ++ r.description) := by simp [← String.toList_inj]
    rw [hcut]
    exact isBlock_of_isQuiet (OneLine.append (by decide) (oneLine_of_leaf hs))
      (OneLine.append (by decide) (oneLine_of_leaf hd))
      (by simp [IsQuiet, isFence, isHeading, beginsWith, List.isPrefixOf])
      (by simp [IsQuiet, isFence, isHeading, beginsWith, List.isPrefixOf]) (by simp)
  have hnote : ∀ i ∈ r.notes.map fun n => "**" ++ n.term ++ "**: " ++ n.description, OneLine i :=
    List.forall_mem_map.2 fun n hn => n.oneLine (hnotes n hn)
  refine isBlock_blocks (by simp) ?_
  simp only [List.forall_mem_append, List.forall_mem_cons]
  refine ⟨⟨⟨⟨hheading, htexts, List.forall_mem_nil _⟩, ?_⟩, ?_⟩, ?_⟩
  · split
    · exact List.forall_mem_nil _
    · next hne =>
      have hne : r.notes.map (fun n => "**" ++ n.term ++ "**: " ++ n.description) ≠ [] := by simpa using hne
      exact List.forall_mem_singleton.2 ((isBlock_bullets hne hnote).captioned "**Notes:**" (by decide) (by decide))
  · intro b hb
    obtain ⟨c, hc, rfl⟩ : ∃ c ∈ r.goodExample, "**Good example:**\n\n" ++ c.fenced = b := by simpa using hb
    exact (hf.1 c hc).isBlock.captioned "**Good example:**" (by decide) (by decide)
  · intro b hb
    obtain ⟨c, hc, rfl⟩ : ∃ c ∈ r.badExample, "**Bad example:**\n\n" ++ c.fenced = b := by simpa using hb
    exact (hf.2 c hc).isBlock.captioned "**Bad example:**" (by decide) (by decide)

end Rule

theorem Template.isBlock_render {t : Template} (h : AllRead t.leafTexts) (hf : t.Fits) : IsBlock t.render := by
  simp only [leafTexts, allRead_cons, allRead_nil, and_true] at h
  obtain ⟨⟨ht, -⟩, hd, hdne⟩ := h
  refine isBlock_blocks (by simp) ?_
  simp only [List.forall_mem_append, List.forall_mem_cons]
  refine ⟨⟨isBlock_heading (oneLine_of_leaf ht) (by decide),
    isBlock_of_oneLine (oneLine_of_leaf hd) hdne hf.description, List.forall_mem_nil _⟩, ?_⟩
  refine isBlock_of_mem_optionalBlock fun hne => ⟨.of_isQuiet hf.lines, ?_⟩
  have hchars : (Text.verbatim t.body.content).toList ≠ [] := by simpa using hne
  have hlast := List.getLast?_eq_some_getLast hchars
  exact ⟨_, hlast, fun hc => hf.ending (hc ▸ hlast)⟩

theorem Choice.oneLine_line {c : Choice} (h : AllRead c.leafTexts) : OneLine c.line := by
  simp only [leafTexts, allRead_cons, allRead_nil, and_true] at h
  obtain ⟨⟨htext, -⟩, hdescription⟩ := h
  unfold Choice.line
  split
  · exact oneLine_of_leaf htext
  · exact ((oneLine_of_leaf htext).append (by decide)).append (oneLine_of_leaf hdescription)

theorem Questions.isBlock_render {q : Questions} (h : AllRead q.leafTexts) (hf : q.Fits) : IsBlock q.render := by
  simp only [leafTexts, allRead_append, allRead_cons, allRead_nil, and_true, allRead_flatMap] at h
  obtain ⟨⟨⟨ht, -⟩, hs, hd⟩, hoptions⟩ := h
  refine isBlock_blocks (by simp) ?_
  simp only [List.forall_mem_append, List.forall_mem_singleton]
  exact ⟨⟨isBlock_heading (oneLine_of_leaf ht) (oneLine_of_leaf hs), isBlock_of_mem_description hd hf⟩,
    isBlock_of_mem_list fun c hc => c.oneLine_line (hoptions c hc)⟩

theorem Step.oneLine_heading {s : Step} (h : OneLine s.title) :
    OneLine ("### Step " ++ toString s.number ++ ": " ++ s.title) :=
  ((OneLine.append (by decide) (oneLine_toString _)).append (by decide)).append h

theorem Step.isBlock_of_mem_blocks {s : Step} (h : AllRead s.leafTexts) (hf : s.Fits) : ∀ b ∈ s.blocks, IsBlock b := by
  simp only [leafTexts, allRead_cons, allRead_nil, and_true] at h
  obtain ⟨⟨ht, -⟩, hd⟩ := h
  simp only [Step.blocks, List.forall_mem_append, List.forall_mem_singleton]
  refine ⟨⟨isBlock_of_oneLine (Step.oneLine_heading (oneLine_of_leaf ht)) (by simp)
    (by simp [isFence, beginsWith, List.isPrefixOf]), isBlock_of_mem_description hd hf.1⟩, ?_⟩
  intro b hb
  obtain ⟨c, hc, rfl⟩ : ∃ c ∈ s.code, c.fenced = b := by simpa using hb
  exact (hf.2 c hc).isBlock

theorem Workflow.isBlock_render {w : Workflow} (h : AllRead w.leafTexts) (hf : w.Fits) : IsBlock w.render := by
  simp only [leafTexts, allRead_append, allRead_cons, allRead_nil, and_true, allRead_flatMap] at h
  obtain ⟨⟨⟨ht, -⟩, hs, hd⟩, hsteps⟩ := h
  refine isBlock_blocks (by simp) ?_
  simp only [List.forall_mem_append, List.forall_mem_singleton]
  refine ⟨⟨isBlock_heading (oneLine_of_leaf ht) (oneLine_of_leaf hs),
    isBlock_of_mem_description hd hf.1⟩, fun b hb => ?_⟩
  obtain ⟨s, hs, hb⟩ := List.mem_flatMap.1 hb
  exact s.isBlock_of_mem_blocks (hsteps s hs) (hf.2 s hs) b hb

theorem Restrictions.isBlock_render {r : Restrictions} (h : AllRead r.leafTexts) (hf : isFence r.description = false) :
    IsBlock r.render := by
  simp only [leafTexts, allRead_cons, allRead_map] at h
  unfold render
  dsimp only
  split
  · exact isBlock_of_oneLine (by decide) (by decide) (by decide)
  · next hne =>
    have hlist := isBlock_listBlock (oneLine_of_leaf h.1) hf (fun i hi => oneLine_of_leaf (h.2 i hi)) hne
    exact hlist.captioned restrictionsHeading (by decide) (by decide)

theorem Guidance.isBlock_render {g : Guidance} (h : AllRead g.leafTexts) (hf : g.Fits) : IsBlock g.render := by
  simp only [leafTexts, allRead_append, allRead_cons, allRead_nil, and_true, allRead_flatMap, allRead_map] at h
  obtain ⟨⟨⟨⟨ht, -⟩, hd⟩, hrestrictions⟩, hrules⟩ := h
  have hrule : ∀ i ∈ g.rules, OneLine i := fun i hi => oneLine_of_leaf (hrules i hi)
  refine isBlock_blocks (by simp) ?_
  rw [List.forall_mem_append, List.forall_mem_singleton]
  refine ⟨isBlock_heading (oneLine_of_leaf ht) (by decide), ?_⟩
  cases hr : g.restrictions with
  | some r =>
    simp only [List.forall_mem_append, List.forall_mem_singleton]
    have hlist := isBlock_of_mem_list (f := id) hrule
    rw [List.map_id] at hlist
    exact ⟨⟨isBlock_of_mem_description hd hf.1, r.isBlock_render (hrestrictions r (by simp [hr])) (hf.2 r hr)⟩, hlist⟩
  | none => exact isBlock_of_mem_optionalBlock fun hne => isBlock_listBlock (oneLine_of_leaf hd) hf.1 hrule hne

/-- Every section is printed as a block. -/
theorem Section.isBlock_render {s : Section} (h : AllRead s.leafTexts) (hf : s.Fits) : IsBlock s.render := by
  cases s with
  | rule r => exact r.isBlock_render h hf
  | template t => exact t.isBlock_render h hf
  | questions q => exact q.isBlock_render h hf
  | workflow w => exact w.isBlock_render h hf
  | instructions g => exact g.isBlock_render h hf
  | outputRequirements g => exact g.isBlock_render h hf

/-! ### The artifact -/

/-- What stands in front of a character is read back. -/
theorem takeWhile_bne_append_cons {c : Char} {cs : List Char} (h : c ∉ cs) (rest : List Char) :
    (cs ++ c :: rest).takeWhile (· != c) = cs := by
  have hall : ∀ d ∈ cs, (d != c) = true := fun d hd => bne_iff_ne.2 fun heq => h (heq ▸ hd)
  rw [List.takeWhile_append_of_pos hall, List.takeWhile_cons_of_neg (by simp), List.append_nil]

theorem frontmatterKey_frontmatterLine (key : String) (hk : ':' ∉ key.toList) (value : String) :
    frontmatterKey (frontmatterLine key value) = key := by
  unfold frontmatterKey frontmatterLine
  split
  · simp [takeWhile_bne_append_cons hk]
  · simp [takeWhile_bne_append_cons hk]

theorem oneLine_frontmatterLine {key value : String} (hk : OneLine key) (hv : OneLine value) :
    OneLine (frontmatterLine key value) := by
  unfold frontmatterLine
  split
  · exact hk.append (by decide)
  · exact (hk.append (by decide)).append hv

/-- The lines of the frontmatter between its delimiters. -/
def Metadata.fields (m : Metadata) : List String :=
  [frontmatterLine "description" m.description, frontmatterLine "globs" m.globs,
    frontmatterLine "alwaysApply" m.alwaysApply]

/-- The lines of the frontmatter. -/
def Metadata.lines (m : Metadata) : List String := frontmatterDelimiter :: (m.fields ++ [frontmatterDelimiter])

theorem Metadata.lines_render {m : Metadata} (h : AllRead m.leafTexts) : Text.lines m.render = m.lines := by
  simp only [leafTexts, allRead_cons, allRead_nil, and_true] at h
  obtain ⟨hd, hg, ha⟩ := h
  have hline {key value : String} (hk : OneLine key) (hv : Text.leaf value = value) :
      Text.lines (frontmatterLine key value) = [frontmatterLine key value] :=
    Text.lines_of_notMem (oneLine_frontmatterLine hk (oneLine_of_leaf hv))
  have hdelimiter : Text.lines frontmatterDelimiter = [frontmatterDelimiter] := Text.lines_of_notMem (by decide)
  simp only [render, Text.join, Text.lines_append_newline, hdelimiter, hline (show OneLine "description" by decide) hd,
    hline (show OneLine "globs" by decide) hg, hline (show OneLine "alwaysApply" by decide) ha]
  rfl

/-- Lines with the three keys between delimiters are a frontmatter: none of them closes it, as the delimiter is a key of
its own. -/
theorem checkFrontmatter_of_keys {fields : List String} (h : fields.map frontmatterKey = frontmatterKeys)
    (rest : List String) :
    checkFrontmatter (frontmatterDelimiter :: (fields ++ frontmatterDelimiter :: rest)) = ([], 5) := by
  have hlength : fields.length = 3 := by
    have hkeys := congrArg List.length h
    rwa [List.length_map] at hkeys
  have hopen : ∀ line ∈ fields, (line != frontmatterDelimiter) = true := by
    intro line hline
    rw [bne_iff_ne]
    rintro rfl
    have hkey : frontmatterKey frontmatterDelimiter ∈ frontmatterKeys := h ▸ List.mem_map_of_mem hline
    exact absurd hkey (by decide)
  have hinner : (fields ++ frontmatterDelimiter :: rest).takeWhile (· != frontmatterDelimiter) = fields := by
    rw [List.takeWhile_append_of_pos hopen, List.takeWhile_cons_of_neg (by simp), List.append_nil]
  unfold checkFrontmatter
  simp only [if_true, hinner]
  rw [if_neg (by simp), if_pos h, hlength]

/-- The check takes the frontmatter for what it is. -/
theorem checkFrontmatter_lines (m : Metadata) (rest : List String) : checkFrontmatter (m.lines ++ rest) = ([], 5) := by
  have hkeys : m.fields.map frontmatterKey = frontmatterKeys := by
    simp only [Metadata.fields, List.map_cons, List.map_nil, frontmatterKey_frontmatterLine "description" (by decide),
      frontmatterKey_frontmatterLine "globs" (by decide),
      frontmatterKey_frontmatterLine "alwaysApply" (by decide)]
    rfl
  rw [Metadata.lines, List.cons_append, List.append_assoc]
  exact checkFrontmatter_of_keys hkeys rest

theorem endIssues_append_newline {s : String} (h : Closed s) : endIssues (s ++ "\n").toList = [] := by
  obtain ⟨c, hc, hn⟩ := h
  obtain ⟨r, hr⟩ : ∃ r, s.toList.reverse = c :: r := by
    obtain ⟨t, ht⟩ := List.getLast?_eq_some_iff.1 hc
    exact ⟨t.reverse, by rw [ht]; simp⟩
  have hreverse : (s ++ "\n").toList.reverse = '\n' :: c :: r := by simp [hr]
  rw [endIssues, hreverse]
  split
  · next heq =>
    cases heq
    exact absurd rfl hn
  · rfl
  · next hno => exact absurd rfl (hno _)

/-- An artifact has no issue if it starts with the frontmatter and the title, and goes on with tidy lines. -/
theorem checkText_of_lines {s : String} {m : Metadata} {t : String} {ls : List String} (hs : Closed s)
    (hlines : Text.lines (s ++ "\n") = m.lines ++ ("# " ++ t) :: "" :: ls) (hls : Tidy ls) :
    checkText (s ++ "\n") = [] := by
  have htitle : isTitle ("# " ++ t) = true := by simp [isTitle, beginsWith]
  have hfence : isFence ("# " ++ t) = false := by simp [isFence, beginsWith, List.isPrefixOf]
  have hheading : isHeading ("# " ++ t) = false := by simp [isHeading, beginsWith, List.isPrefixOf]
  have hrun (previous : Option String) (number : Nat) :
      (({} : BodyScan).run previous number (("# " ++ t) :: "" :: ls)).report = [] := by
    obtain ⟨u, hu⟩ := hls (({} : BodyScan).titled true) (some "") (number + 1 + 1) rfl rfl
    have hblank : isTitle "" = false := by decide
    rw [BodyScan.run, BodyScan.step_of_not_isFence rfl hfence (.inl hheading), htitle, BodyScan.run,
      BodyScan.step_of_not_isFence rfl (by decide) (.inl (by decide)), hblank, BodyScan.titled_false, hu]
    rfl
  rw [checkText]
  simp only [hlines, checkFrontmatter_lines, endIssues_append_newline hs]
  exact hrun _ _

namespace Document

/-- What stands below the title. -/
def lowerBlocks (d : Document) : List String :=
  (if d.role = "" then [] else ["## Role\n\n" ++ d.role]) ++ optionalBlock d.description ++ optionalBlock d.renderToc
    ++ d.sections.map Section.render

theorem allRead_of_mem_sections {d : Document} (h : AllRead d.leafTexts) : ∀ s ∈ d.sections, AllRead s.leafTexts := by
  simp only [leafTexts, allRead_append, allRead_flatMap] at h
  exact h.2

theorem oneLine_title_of_mem_rules {d : Document} (h : AllRead d.leafTexts) : ∀ r ∈ d.rules, OneLine r.title := by
  intro r hr
  obtain ⟨s, hs, hsr⟩ := List.mem_filterMap.1 hr
  have hsection := allRead_of_mem_sections h s hs
  cases s with
  | rule r' =>
    obtain rfl := Option.some.inj hsr
    simp only [Section.leafTexts, Rule.leafTexts, allRead_append, allRead_cons] at hsection
    exact oneLine_of_leaf hsection.1.1.1
  | _ => cases hsr

theorem oneLine_label_of_mem_rules {d : Document} (h : AllRead d.leafTexts) : ∀ r ∈ d.rules, OneLine r.label :=
  fun r hr => Rule.oneLine_label (oneLine_title_of_mem_rules h r hr)

theorem oneLine_of_mem_entries {d : Document} {t : TableOfContents} (h : AllRead d.leafTexts) (ht : d.toc = some t) :
    ∀ i ∈ t.entries, OneLine i := by
  simp only [leafTexts, allRead_append, allRead_flatMap, TableOfContents.leafTexts, allRead_map] at h
  exact fun i hi => oneLine_of_leaf (h.1.2 t (by simp [ht]) i hi)

theorem isBlock_renderToc {d : Document} (h : AllRead d.leafTexts) (hne : d.renderToc ≠ "") : IsBlock d.renderToc := by
  have hheading : IsBlock tocHeading := isBlock_of_oneLine (by decide) (by decide) (by decide)
  have hlist {items : List String} (hi : items ≠ []) (ho : ∀ i ∈ items, OneLine i) :
      IsBlock (tocHeading ++ "\n\n" ++ bullets items) :=
    (isBlock_bullets hi ho).captioned tocHeading (by decide) (by decide)
  revert hne
  unfold renderToc
  split
  · exact fun hne => absurd rfl hne
  · next t ht =>
    split
    · split
      · exact fun _ => hheading
      · next hr =>
        rw [Rule.join_entries]
        exact fun _ => hlist (by simpa using hr) (List.forall_mem_map.2 (oneLine_label_of_mem_rules h))
    · split
      · exact fun hne => absurd rfl hne
      · next hr => exact fun _ => hlist (by simpa using hr) (oneLine_of_mem_entries h ht)

theorem isBlock_of_mem_lowerBlocks {d : Document} (h : AllRead d.leafTexts) (hf : d.Fits) :
    ∀ b ∈ d.lowerBlocks, IsBlock b := by
  have htoc := isBlock_renderToc h
  simp only [leafTexts, allRead_append, allRead_cons, allRead_nil, and_true, allRead_flatMap] at h
  obtain ⟨⟨⟨-, -, hr, hd⟩, -⟩, hsections⟩ := h
  simp only [lowerBlocks, List.forall_mem_append]
  refine ⟨⟨⟨?_, isBlock_of_mem_description hd hf.description⟩, isBlock_of_mem_optionalBlock htoc⟩, ?_⟩
  · split
    · exact List.forall_mem_nil _
    · next hne =>
      have hrole := isBlock_of_oneLine (oneLine_of_leaf hr) hne hf.role
      exact List.forall_mem_singleton.2 (hrole.captioned "## Role" (by decide) (by decide))
  · exact List.forall_mem_map.2 fun s hs => s.isBlock_render (hsections s hs) (hf.sections s hs)

/-- The block that the artifact starts with: the frontmatter and the title. -/
def head (d : Document) : String := d.metadata.render ++ "\n" ++ ("# " ++ d.title)

theorem artifactBlocks_eq (d : Document) : d.artifactBlocks = d.head :: d.lowerBlocks := by
  have hhead : d.metadata.render ++ "\n# " ++ d.title = d.head := by simp [head, ← String.toList_inj]
  rw [artifactBlocks, lowerBlocks, hhead]
  simp only [List.append_assoc, List.cons_append, List.nil_append]

theorem oneLine_title {d : Document} (hd : AllRead d.leafTexts) : OneLine ("# " ++ d.title) := by
  simp only [leafTexts, allRead_append, allRead_cons] at hd
  exact OneLine.append (by decide) (oneLine_of_leaf hd.1.1.2.1.1)

theorem lines_head {d : Document} (hd : AllRead d.leafTexts) :
    Text.lines d.head = d.metadata.lines ++ ["# " ++ d.title] := by
  have hm : AllRead d.metadata.leafTexts := by
    simp only [leafTexts, allRead_append] at hd
    exact hd.1.1.1
  rw [head, Text.lines_append_newline, Metadata.lines_render hm, Text.lines_of_notMem (oneLine_title hd)]

/-- The artifact starts with the frontmatter and the title, and what stands below them is tidy. -/
theorem checkText_render {d : Document} (hd : AllRead d.leafTexts) (hf : d.Fits) : checkText d.render = [] := by
  have hlower := isBlock_of_mem_lowerBlocks hd hf
  have hnone : Tidy [] := .of_isQuiet (List.forall_mem_nil _)
  rw [render, artifactBlocks_eq]
  cases hl : d.lowerBlocks with
  | nil =>
    have hclosed : Closed d.head := ((oneLine_title hd).closed (by simp)).append_left _
    refine checkText_of_lines hclosed (m := d.metadata) (t := d.title) ?_ hnone
    rw [blocks, Text.join, lines_append_final, lines_head hd, List.append_assoc]
    rfl
  | cons b bs =>
    have hblock : IsBlock (blocks (b :: bs)) := isBlock_blocks (by simp) (hl ▸ hlower)
    refine checkText_of_lines (hblock.closed.append_left _) (m := d.metadata) (t := d.title) ?_
      (hblock.tidy.append hnone)
    have hblocks : blocks (d.head :: b :: bs) = d.head ++ "\n\n" ++ blocks (b :: bs) := rfl
    rw [hblocks, lines_append_final, lines_append_blank, lines_head hd]
    simp only [List.append_assoc, List.cons_append, List.nil_append]

end Document

/-- The Markdown of a document that was read from a tree passes the check, if the document holds nothing that the check
would take for something else. -/
theorem checkText_render_of_ofTree {source : Option Path} {root : Element} {d : Document}
    (hd : Document.ofTree source root = .ok d) (hf : d.Fits) : checkText d.render = [] :=
  d.checkText_render ((reads_ofTree source root).ok hd).leafTexts hf

namespace checkedPrompt

/-- An element with a text. -/
def leaf (name text : String) : Content := .ofElement ⟨name, [], .text text⟩

/-- A prompt with a rule, which has a good example, and a template. -/
def tree : Element :=
  ⟨"prompt", [],
    leaf "metadata" ""
      ++ .ofElement ⟨"header", [], leaf "title" " A  prompt "⟩
      ++ .ofElement ⟨"content", [],
        .ofElement ⟨"rule", [("id", "1")],
            leaf "title" "Names" ++ leaf "subtitle" "Short" ++ leaf "description" "Be brief."
              ++ .ofElement ⟨"examples", [], .ofElement ⟨"good", [("language", "c")], .text "\nf();\n"⟩⟩⟩
          ++ .ofElement ⟨"template", [],
            leaf "title" "Note" ++ leaf "description" "## Use this" ++ leaf "body" "Dear reader"⟩⟩⟩

/-- The document that the tree stands for. -/
def document : Document where
  metadata := {}
  title := "A prompt"
  sections := [
    .rule { number := 1, title := "Names", subtitle := "Short", description := "Be brief."
            goodExample := some ⟨"c", "\nf();\n"⟩ },
    .template { title := "Note", description := "## Use this", body := ⟨"", "Dear reader"⟩ }]

theorem ofTree_tree : Document.ofTree none tree = .ok document :=
  Except.toOption_eq_some.1 (by decide)

theorem fits : document.Fits where
  role := by decide
  description := by decide
  sections := by
    have hgood : CodeBlock.Fits ⟨"c", "\nf();\n"⟩ := ⟨by decide, by decide⟩
    have hlines : Text.lines (Text.verbatim "Dear reader") = ["Dear reader"] := by decide
    refine List.forall_mem_cons.2 ⟨⟨fun b hb => Option.some.inj hb ▸ hgood, by simp⟩, List.forall_mem_singleton.2 ?_⟩
    refine ⟨by decide, by decide, fun line hl => ?_⟩
    obtain rfl : line = "Dear reader" := List.mem_singleton.1 (hlines ▸ hl)
    exact ⟨by decide, by decide⟩

end checkedPrompt

theorem checkText_render_checkedPrompt :
    Document.ofTree none checkedPrompt.tree = .ok checkedPrompt.document ∧
      checkText checkedPrompt.document.render = [] :=
  ⟨checkedPrompt.ofTree_tree, checkText_render_of_ofTree checkedPrompt.ofTree_tree checkedPrompt.fits⟩

end PromptMarkup
