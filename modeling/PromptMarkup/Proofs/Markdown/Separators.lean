import PromptMarkup.Proofs.Markdown.Artifact
import PromptMarkup.Proofs.Markdown.Layout
import PromptMarkup.Proofs.Text.Verbatim

/-!
# Blank lines between blocks

Blocks are apart if exactly one blank line stands between neighbours, wherever their text is cut between two of them
(`Apart`).  A block that neither starts nor ends with a line feed is solid (`IsSolid`), and of the blocks of a document
that was read from a tree only the body of a template may be otherwise.  The main result: the blocks of the artifact are
apart, and it ends with one line feed, unless the body of a template closes with a run of blank lines
(`separators_of_ofTree`).
-/

namespace PromptMarkup

/-- A text that does not start with a line feed. -/
def Opened (s : String) : Prop := ∃ c, s.toList.head? = some c ∧ c ≠ '\n'

/-- Blocks with exactly one blank line between neighbours: two line feeds stand between a text that does not end and one
that does not start with a line feed. -/
def Apart (bs : List String) : Prop :=
  ∀ xs ys, bs = xs ++ ys → xs ≠ [] → ys ≠ [] →
    blocks bs = blocks xs ++ "\n\n" ++ blocks ys ∧ Closed (blocks xs) ∧ Opened (blocks ys)

/-- A text that neither starts nor ends with a line feed. -/
structure IsSolid (s : String) : Prop where
  opened : Opened s
  closed : Closed s

section

variable {a b s : String} {bs : List String}

theorem Opened.append_right (ha : Opened a) (b : String) : Opened (a ++ b) := by
  obtain ⟨c, hc, hn⟩ := ha
  exact ⟨c, by simp [hc], hn⟩

theorem OneLine.isSolid (h : OneLine s) (hne : s ≠ "") : IsSolid s where
  opened := by
    obtain ⟨c, r, hs⟩ := List.exists_cons_of_ne_nil (l := s.toList) (by simpa using hne)
    exact ⟨c, by simp [hs], fun hc => h (by simp [hs, hc])⟩
  closed := h.closed hne

theorem Opened.isSolid (ha : Opened a) (hb : Closed b) : IsSolid (a ++ b) := ⟨ha.append_right b, hb.append_left a⟩

theorem opened_iff : Opened s ↔ s ≠ "" ∧ s.toList.head? ≠ some '\n' := by
  rw [Opened, ← String.toList_inj.ne]
  cases s.toList <;> simp

theorem closed_iff : Closed s ↔ s ≠ "" ∧ s.toList.getLast? ≠ some '\n' := by
  rw [Closed, ← String.toList_inj.ne, String.toList_empty, ← List.getLast?_isSome]
  cases s.toList.getLast? <;> simp

theorem opened_blocks_cons : Opened (blocks (b :: bs)) ↔ Opened b := by
  cases bs with
  | nil => rfl
  | cons c cs =>
    have hcons : blocks (b :: c :: cs) = b ++ ("\n\n" ++ blocks (c :: cs)) := String.append_assoc ..
    rw [hcons]
    refine ⟨fun h => ?_, fun h => h.append_right _⟩
    obtain rfl | hne := eq_or_ne b ""
    · exact absurd (by simp) (opened_iff.1 h).2
    · obtain ⟨x, r, hb⟩ := List.exists_cons_of_ne_nil (l := b.toList) (by simpa using hne)
      simpa [Opened, hb] using h

theorem closed_blocks_concat : Closed (blocks (bs ++ [b])) ↔ Closed b := by
  obtain rfl | hne := eq_or_ne bs []
  · rfl
  · rw [blocks_append hne (List.cons_ne_nil b [])]
    show Closed (blocks bs ++ "\n\n" ++ b) ↔ Closed b
    refine ⟨fun h => ?_, fun h => h.append_left _⟩
    obtain rfl | hb := eq_or_ne b ""
    · exact absurd (by simp) (closed_iff.1 h).2
    · have hlast := (closed_iff.1 h).2
      rw [String.toList_append, List.getLast?_append_of_ne_nil _ (by simpa using hb)] at hlast
      exact closed_iff.2 ⟨hb, hlast⟩

/-- Blocks are apart if only the first may start and only the last may end with a line feed. -/
theorem apart_iff : Apart bs ↔ (∀ b ∈ bs.dropLast, Closed b) ∧ ∀ b ∈ bs.tail, Opened b := by
  constructor
  · intro h
    constructor
    · intro b hb
      have hne : bs ≠ [] := by rintro rfl; cases hb
      obtain ⟨xs, ys, hcut⟩ := List.append_of_mem hb
      have hbs : bs = (xs ++ [b]) ++ (ys ++ [bs.getLast hne]) := by
        rw [← List.append_assoc, List.append_assoc xs, List.singleton_append, ← hcut, List.dropLast_append_getLast]
      exact closed_blocks_concat.1 (h _ _ hbs (by simp) (by simp)).2.1
    · intro b hb
      cases bs with
      | nil => cases hb
      | cons c cs =>
        obtain ⟨xs, ys, rfl⟩ := List.append_of_mem (show b ∈ cs from hb)
        exact opened_blocks_cons.1 (h (c :: xs) (b :: ys) rfl (by simp) (by simp)).2.2
  · rintro ⟨hclosed, hopened⟩ xs ys rfl hx hy
    refine ⟨blocks_append hx hy, ?_, ?_⟩
    · obtain ⟨zs, b, rfl⟩ := List.eq_nil_or_concat xs |>.resolve_left hx
      rw [List.concat_eq_append] at hclosed ⊢
      refine closed_blocks_concat.2 (hclosed b ?_)
      rw [List.dropLast_append_of_ne_nil hy]
      simp
    · obtain ⟨b, zs, rfl⟩ := List.exists_cons_of_ne_nil hy
      obtain ⟨c, ws, rfl⟩ := List.exists_cons_of_ne_nil hx
      exact opened_blocks_cons.2 (hopened b (by simp))

theorem apart_and_closed_iff (hne : bs ≠ []) (h : ∀ b ∈ bs, Opened b) :
    Apart bs ∧ Closed (blocks bs) ↔ ∀ b ∈ bs, Closed b := by
  obtain ⟨xs, b, rfl⟩ := (List.eq_nil_or_concat bs).resolve_left hne
  rw [List.concat_eq_append] at h ⊢
  have hopened : ∀ b' ∈ (xs ++ [b]).tail, Opened b' := fun b' hb => h b' (List.tail_sublist _ |>.subset hb)
  rw [apart_iff, closed_blocks_concat, List.dropLast_concat, List.forall_mem_append, List.forall_mem_singleton]
  exact and_congr_left fun _ => and_iff_left hopened

theorem apart_of_isSolid (h : ∀ b ∈ bs, IsSolid b) : Apart bs :=
  apart_iff.2 ⟨fun b hb => (h b (List.dropLast_sublist _ |>.subset hb)).closed,
    fun b hb => (h b (List.tail_sublist _ |>.subset hb)).opened⟩

end

/-! ### Solid blocks -/

section

variable {a b s : String} {items : List String}

theorem isSolid_of_mem_optionalBlock (h : s ≠ "" → IsSolid s) : ∀ b ∈ optionalBlock s, IsSolid b := by
  intro b hb
  unfold optionalBlock at hb
  split at hb
  · cases hb
  · next hne =>
    obtain rfl := List.mem_singleton.1 hb
    exact h hne

theorem isSolid_of_mem_description (h : Text.leaf s = s) : ∀ b ∈ optionalBlock s, IsSolid b :=
  isSolid_of_mem_optionalBlock (oneLine_of_leaf h).isSolid

theorem opened_heading (title subtitle : String) : Opened (heading title subtitle) := by
  unfold heading
  split <;> exact ⟨'#', by simp, by decide⟩

theorem isSolid_heading {title subtitle : String} (ht : OneLine title) (hs : OneLine subtitle) :
    IsSolid (heading title subtitle) := ⟨opened_heading _ _, (isBlock_heading ht hs).closed⟩

theorem isSolid_bullets (hne : items ≠ []) (h : ∀ i ∈ items, OneLine i) : IsSolid (bullets items) where
  opened := by
    obtain ⟨i, is, rfl⟩ := List.exists_cons_of_ne_nil hne
    have hi : Opened ("- " ++ i) := ⟨'-', by simp, by decide⟩
    cases is with
    | nil => exact hi
    | cons j js => exact (hi.append_right "\n").append_right (bullets (j :: js))
  closed := closed_bullets hne h

theorem isSolid_listBlock (hs : OneLine s) (h : ∀ i ∈ items, OneLine i) (hne : listBlock s items ≠ "") :
    IsSolid (listBlock s items) := by
  have hempty : bullets [] = "" := rfl
  unfold listBlock at hne ⊢
  by_cases hi : items = []
  · subst hi
    simp only [hempty, if_true] at hne ⊢
    split at hne
    · exact absurd rfl hne
    · next hd => rw [if_neg hd]; exact hs.isSolid hd
  · have hlist := isSolid_bullets hi h
    simp only [bullets_ne_empty hi, if_false]
    split
    · exact hlist
    · next hd => split <;> exact ((hs.isSolid hd).opened.append_right _).isSolid hlist.closed

end

theorem CodeBlock.isSolid_fenced (b : CodeBlock) : IsSolid b.fenced where
  opened := ⟨'`', by simp [CodeBlock.fenced], by decide⟩
  closed := Closed.append_left (b := "\n```") ⟨'`', rfl, by decide⟩ _

/-! ### Sections -/

theorem Rule.isSolid_of_mem_blocks {r : Rule} (h : AllRead r.leafTexts) : ∀ b ∈ r.blocks, IsSolid b := by
  have hcaption (caption : String) {s : String} (hc : Opened caption) (hs : IsSolid s) : IsSolid (caption ++ "\n\n" ++ s) :=
    (hc.append_right _).isSolid hs.closed
  simp only [leafTexts, allRead_append, allRead_cons, allRead_nil, and_true, allRead_flatMap] at h
  obtain ⟨⟨⟨ht, -⟩, -, hd, -⟩, hnotes⟩ := h
  have hdescription : Closed ("\nDescription: " ++ r.description) :=
    ((OneLine.append (a := "Description: ") (by decide) (oneLine_of_leaf hd)).closed (by simp)).append_left "\n"
  simp only [Rule.blocks, List.forall_mem_append, List.forall_mem_cons]
  refine ⟨⟨⟨⟨?_, ?_, List.forall_mem_nil _⟩, ?_⟩, ?_⟩, ?_⟩
  · exact (OneLine.append (by decide) (oneLine_label (oneLine_of_leaf ht))).isSolid (by simp)
  · rw [String.append_assoc]
    exact Opened.isSolid ⟨'T', by simp, by decide⟩ hdescription
  · split
    · exact List.forall_mem_nil _
    · next hne =>
      have hlist := isSolid_bullets (by simpa using hne) (List.forall_mem_map.2 fun n hn => Note.oneLine (hnotes n hn))
      exact List.forall_mem_singleton.2 (hcaption "**Notes:**" ⟨'*', rfl, by decide⟩ hlist)
  · intro b hb
    obtain ⟨c, -, rfl⟩ : ∃ c ∈ r.goodExample, "**Good example:**\n\n" ++ c.fenced = b := by simpa using hb
    exact hcaption "**Good example:**" ⟨'*', rfl, by decide⟩ c.isSolid_fenced
  · intro b hb
    obtain ⟨c, -, rfl⟩ : ∃ c ∈ r.badExample, "**Bad example:**\n\n" ++ c.fenced = b := by simpa using hb
    exact hcaption "**Bad example:**" ⟨'*', rfl, by decide⟩ c.isSolid_fenced

theorem Questions.isSolid_of_mem_blocks {q : Questions} (h : AllRead q.leafTexts) : ∀ b ∈ q.blocks, IsSolid b := by
  simp only [leafTexts, allRead_append, allRead_cons, allRead_nil, and_true, allRead_flatMap] at h
  obtain ⟨⟨⟨ht, -⟩, hs, hd⟩, hoptions⟩ := h
  simp only [Questions.blocks, List.forall_mem_append, List.forall_mem_singleton]
  refine ⟨⟨isSolid_heading (oneLine_of_leaf ht) (oneLine_of_leaf hs), isSolid_of_mem_description hd⟩, ?_⟩
  split
  · exact List.forall_mem_nil _
  · next hne =>
    have hlines := List.forall_mem_map.2 fun c hc => Choice.oneLine_line (hoptions c hc)
    exact List.forall_mem_singleton.2 (isSolid_bullets (by simpa using hne) hlines)

theorem Step.isSolid_of_mem_blocks {s : Step} (h : AllRead s.leafTexts) : ∀ b ∈ s.blocks, IsSolid b := by
  simp only [leafTexts, allRead_cons, allRead_nil, and_true] at h
  obtain ⟨⟨ht, -⟩, hd⟩ := h
  simp only [Step.blocks, List.forall_mem_append, List.forall_mem_singleton]
  refine ⟨⟨(Step.oneLine_heading (oneLine_of_leaf ht)).isSolid (by simp), isSolid_of_mem_description hd⟩, fun b hb => ?_⟩
  obtain ⟨c, -, rfl⟩ : ∃ c ∈ s.code, c.fenced = b := by simpa using hb
  exact c.isSolid_fenced

theorem Workflow.isSolid_of_mem_blocks {w : Workflow} (h : AllRead w.leafTexts) : ∀ b ∈ w.blocks, IsSolid b := by
  simp only [leafTexts, allRead_append, allRead_cons, allRead_nil, and_true, allRead_flatMap] at h
  obtain ⟨⟨⟨ht, -⟩, hs, hd⟩, hsteps⟩ := h
  simp only [Workflow.blocks, List.forall_mem_append, List.forall_mem_singleton]
  refine ⟨⟨isSolid_heading (oneLine_of_leaf ht) (oneLine_of_leaf hs), isSolid_of_mem_description hd⟩, fun b hb => ?_⟩
  obtain ⟨s, hs, hb⟩ := List.mem_flatMap.1 hb
  exact s.isSolid_of_mem_blocks (hsteps s hs) b hb

theorem Restrictions.isSolid_render {r : Restrictions} (h : AllRead r.leafTexts) : IsSolid r.render := by
  have hheading : IsSolid restrictionsHeading := OneLine.isSolid (by decide) (by decide)
  simp only [leafTexts, allRead_cons, allRead_map] at h
  unfold render
  dsimp only
  split
  · exact hheading
  · next hne =>
    have hlist := isSolid_listBlock (oneLine_of_leaf h.1) (fun i hi => oneLine_of_leaf (h.2 i hi)) hne
    exact (hheading.opened.append_right _).isSolid hlist.closed

theorem Guidance.isSolid_of_mem_blocks {g : Guidance} (h : AllRead g.leafTexts) : ∀ b ∈ g.blocks, IsSolid b := by
  simp only [leafTexts, allRead_append, allRead_cons, allRead_nil, and_true, allRead_flatMap, allRead_map] at h
  obtain ⟨⟨⟨⟨ht, -⟩, hd⟩, hrestrictions⟩, hrules⟩ := h
  have hrule : ∀ i ∈ g.rules, OneLine i := fun i hi => oneLine_of_leaf (hrules i hi)
  rw [Guidance.blocks, List.forall_mem_append, List.forall_mem_singleton]
  refine ⟨isSolid_heading (oneLine_of_leaf ht) (by decide), ?_⟩
  cases hr : g.restrictions with
  | some r =>
    simp only [List.forall_mem_append, List.forall_mem_singleton]
    refine ⟨⟨isSolid_of_mem_description hd, r.isSolid_render (hrestrictions r (by simp [hr]))⟩, ?_⟩
    split
    · exact List.forall_mem_nil _
    · next hne => exact List.forall_mem_singleton.2 (isSolid_bullets (by simpa using hne) hrule)
  | none => exact isSolid_of_mem_optionalBlock (isSolid_listBlock (oneLine_of_leaf hd) hrule)

namespace Section

/-- A template whose body opens with a run of blank lines. -/
def OpensBlank : Section → Prop
  | template t => Text.OpensBlank t.body.content
  | _ => False

/-- A template whose body closes with a run of blank lines. -/
def ClosesBlank : Section → Prop
  | template t => Text.ClosesBlank t.body.content
  | _ => False

variable {s : Section}

/-- Only the body of a template may start or end with a line feed. -/
theorem isSolid_of_mem_blocks (h : AllRead s.leafTexts) (hs : ∀ t, s ≠ template t) : ∀ b ∈ s.blocks, IsSolid b := by
  cases s with
  | rule r => exact r.isSolid_of_mem_blocks h
  | template t => exact absurd rfl (hs t)
  | questions q => exact q.isSolid_of_mem_blocks h
  | workflow w => exact w.isSolid_of_mem_blocks h
  | instructions g => exact g.isSolid_of_mem_blocks h
  | outputRequirements g => exact g.isSolid_of_mem_blocks h

theorem opened_render (s : Section) : Opened s.render := by
  rw [s.render_eq]
  cases s with
  | rule r => exact opened_blocks_cons.2 ⟨'#', by simp, by decide⟩
  | template | questions | workflow | instructions | outputRequirements =>
    exact opened_blocks_cons.2 (opened_heading _ _)

end Section

namespace Template

variable {t : Template}

theorem isSolid_description (h : AllRead t.leafTexts) : IsSolid (heading t.title "") ∧ IsSolid t.description := by
  simp only [leafTexts, allRead_cons, allRead_nil, and_true] at h
  obtain ⟨⟨ht, -⟩, hd, hne⟩ := h
  exact ⟨isSolid_heading (oneLine_of_leaf ht) (by decide), (oneLine_of_leaf hd).isSolid hne⟩

theorem closed_render_iff (h : AllRead t.leafTexts) : Closed t.render ↔ ¬ Text.ClosesBlank t.body.content := by
  rw [← Text.getLast?_verbatim]
  unfold render optionalBlock
  split
  · next hempty =>
    have hlast : Closed (PromptMarkup.blocks ([heading t.title ""] ++ [t.description])) :=
      closed_blocks_concat.2 (isSolid_description h).2.closed
    exact iff_of_true hlast (by simp [hempty])
  · next hne =>
    rw [closed_blocks_concat, closed_iff]
    exact and_iff_right hne

theorem apart_blocks_iff (h : AllRead t.leafTexts) : Apart t.blocks ↔ ¬ Text.OpensBlank t.body.content := by
  obtain ⟨hheading, hdescription⟩ := isSolid_description h
  rw [← Text.head?_verbatim, apart_iff]
  unfold blocks optionalBlock
  split
  · next hempty =>
    exact iff_of_true ⟨by simpa using hheading.closed, by simpa using hdescription.opened⟩ (by simp [hempty])
  · next hne =>
    have hbody : Opened (Text.verbatim t.body.content) ↔ (Text.verbatim t.body.content).toList.head? ≠ some '\n' :=
      opened_iff.trans (and_iff_right hne)
    simp [hheading.closed, hdescription.closed, hdescription.opened, hbody]

end Template

namespace Section

variable {s : Section}

theorem closed_render_iff (h : AllRead s.leafTexts) : Closed s.render ↔ ¬ s.ClosesBlank := by
  by_cases hs : ∃ t, s = template t
  · obtain ⟨t, rfl⟩ := hs
    exact t.closed_render_iff h
  · have hsolid := isSolid_of_mem_blocks h fun t ht => hs ⟨t, ht⟩
    obtain ⟨bs, b, hblocks⟩ := (List.eq_nil_or_concat s.blocks).resolve_left s.blocks_ne_nil
    rw [List.concat_eq_append] at hblocks
    refine iff_of_true ?_ fun hc => ?_
    · rw [s.render_eq, hblocks]
      exact closed_blocks_concat.2 (hsolid b (by simp [hblocks])).closed
    · cases s with
      | template t => exact hs ⟨t, rfl⟩
      | _ => exact hc

theorem apart_blocks_iff (h : AllRead s.leafTexts) : Apart s.blocks ↔ ¬ s.OpensBlank := by
  by_cases hs : ∃ t, s = template t
  · obtain ⟨t, rfl⟩ := hs
    exact t.apart_blocks_iff h
  · refine iff_of_true (apart_of_isSolid (isSolid_of_mem_blocks h fun t ht => hs ⟨t, ht⟩)) fun ho => ?_
    cases s with
    | template t => exact hs ⟨t, rfl⟩
    | _ => exact ho

end Section

/-! ### The artifact -/

namespace Document

variable {d : Document}

theorem isSolid_renderToc (h : AllRead d.leafTexts) (hne : d.renderToc ≠ "") : IsSolid d.renderToc where
  opened := by
    have hheading : Opened tocHeading := ⟨'#', rfl, by decide⟩
    revert hne
    unfold renderToc
    split
    · exact fun hne => absurd rfl hne
    · next t ht =>
      split
      · split
        · exact fun _ => hheading
        · exact fun _ => (hheading.append_right _).append_right _
      · split
        · exact fun hne => absurd rfl hne
        · exact fun _ => (hheading.append_right _).append_right _
  closed := (isBlock_renderToc h hne).closed

theorem isSolid_head (h : AllRead d.leafTexts) : IsSolid d.head :=
  Opened.isSolid ⟨'-', by simp [Metadata.render, Text.join, frontmatterDelimiter], by decide⟩
    ((oneLine_title h).closed (by simp))

/-- Only a section may be printed as a block that starts or ends with a line feed. -/
theorem isSolid_of_mem_artifactBlocks (h : AllRead d.leafTexts) :
    ∀ b ∈ d.artifactBlocks, IsSolid b ∨ ∃ s ∈ d.sections, s.render = b := by
  have hhead := isSolid_head h
  have htoc := isSolid_renderToc h
  simp only [leafTexts, allRead_append, allRead_cons, allRead_nil, and_true] at h
  obtain ⟨⟨⟨-, -, hr, hd⟩, -⟩, -⟩ := h
  rw [artifactBlocks_eq, lowerBlocks, List.forall_mem_cons]
  simp only [List.forall_mem_append]
  refine ⟨.inl hhead, ⟨⟨?_, fun b hb => .inl (isSolid_of_mem_description hd b hb)⟩,
    fun b hb => .inl (isSolid_of_mem_optionalBlock htoc b hb)⟩, fun b hb => .inr (List.mem_map.1 hb)⟩
  split
  · exact List.forall_mem_nil _
  · next hne =>
    have hrole : Closed d.role := (oneLine_of_leaf hr).closed hne
    exact List.forall_mem_singleton.2 (.inl (Opened.isSolid (a := "## Role\n\n") ⟨'#', rfl, by decide⟩ hrole))

theorem opened_of_mem_artifactBlocks (h : AllRead d.leafTexts) : ∀ b ∈ d.artifactBlocks, Opened b := by
  intro b hb
  obtain hsolid | ⟨s, -, rfl⟩ := isSolid_of_mem_artifactBlocks h b hb
  · exact hsolid.opened
  · exact s.opened_render

theorem forall_closed_artifactBlocks_iff (h : AllRead d.leafTexts) :
    (∀ b ∈ d.artifactBlocks, Closed b) ↔ ∀ s ∈ d.sections, ¬ s.ClosesBlank := by
  have hsection := allRead_of_mem_sections h
  constructor
  · intro hclosed s hs
    exact (Section.closed_render_iff (hsection s hs)).1 (hclosed _ (render_mem_artifactBlocks hs))
  · intro hc b hb
    obtain hsolid | ⟨s, hs, rfl⟩ := isSolid_of_mem_artifactBlocks h b hb
    · exact hsolid.closed
    · exact (Section.closed_render_iff (hsection s hs)).2 (hc s hs)

end Document

/-- The separators in the Markdown of a document that was read from a tree.  The fragment of a section ends without a
line feed, unless it is a template whose body closes with a run of blank lines.  The blocks that it is printed as are
apart, unless it is a template whose body opens with such a run.  The artifact is its blocks, the fragments among them,
with a line feed at the end.  The blocks are apart, and no other line feed stands at the end, if and only if no template
has a body that closes with a run of blank lines. -/
theorem separators_of_ofTree {source : Option Path} {root : Element} {d : Document}
    (hd : Document.ofTree source root = .ok d) :
    (∀ s ∈ d.sections,
      (Closed s.render ↔ ¬ s.ClosesBlank) ∧ s.render = blocks s.blocks ∧ (Apart s.blocks ↔ ¬ s.OpensBlank)) ∧
    d.render = blocks d.artifactBlocks ++ "\n" ∧ (∀ s ∈ d.sections, s.render ∈ d.artifactBlocks) ∧
    (Apart d.artifactBlocks ∧ Closed (blocks d.artifactBlocks) ↔ ∀ s ∈ d.sections, ¬ s.ClosesBlank) := by
  have hread : AllRead d.leafTexts := ((reads_ofTree source root).ok hd).leafTexts
  have hsection := Document.allRead_of_mem_sections hread
  refine ⟨fun s hs => ⟨Section.closed_render_iff (hsection s hs), s.render_eq, Section.apart_blocks_iff (hsection s hs)⟩,
    rfl, fun s hs => Document.render_mem_artifactBlocks hs, ?_⟩
  rw [← Document.forall_closed_artifactBlocks_iff hread, Document.artifactBlocks_eq]
  exact apart_and_closed_iff (List.cons_ne_nil _ _)
    (Document.artifactBlocks_eq d ▸ Document.opened_of_mem_artifactBlocks hread)

open checkedPrompt in
/-- No body of the prompt opens or closes with blank lines, so all of its blocks are apart. -/
theorem separators_checkedPrompt :
    Document.ofTree none tree = .ok document ∧ (∀ s ∈ document.sections, Closed s.render ∧ Apart s.blocks) ∧
      Apart document.artifactBlocks ∧ Closed (blocks document.artifactBlocks) := by
  have hblank : ∀ s ∈ document.sections, ¬ s.OpensBlank ∧ ¬ s.ClosesBlank := by
    refine List.forall_mem_cons.2 ⟨⟨id, id⟩, List.forall_mem_singleton.2 ?_⟩
    have hbody : ¬ Text.OpensBlank "Dear reader" ∧ ¬ Text.ClosesBlank "Dear reader" := by decide
    exact hbody
  obtain ⟨hsections, -, -, hartifact⟩ := separators_of_ofTree ofTree_tree
  refine ⟨ofTree_tree, fun s hs => ?_, hartifact.2 fun s hs => (hblank s hs).2⟩
  obtain ⟨hclosed, -, hapart⟩ := hsections s hs
  exact ⟨hclosed.2 (hblank s hs).2, hapart.2 (hblank s hs).1⟩

namespace blankPrompt

open checkedPrompt (leaf)

/-- A prompt with two templates.  The body of the first closes with a blank line, and that of the second has no other
lines. -/
def tree : Element :=
  ⟨"prompt", [],
    leaf "metadata" ""
      ++ .ofElement ⟨"header", [], leaf "title" "A prompt"⟩
      ++ .ofElement ⟨"content", [],
        .ofElement ⟨"template", [],
            leaf "title" "Note" ++ leaf "description" "Use this" ++ leaf "body" "Dear reader\n\n"⟩
          ++ .ofElement ⟨"template", [],
            leaf "title" "Blank" ++ leaf "description" "Use that" ++ leaf "body" "\n \n"⟩⟩⟩

/-- The document that the tree stands for. -/
def document : Document where
  metadata := {}
  title := "A prompt"
  sections := [
    .template { title := "Note", description := "Use this", body := ⟨"", "Dear reader\n\n"⟩ },
    .template { title := "Blank", description := "Use that", body := ⟨"", "\n \n"⟩ }]

end blankPrompt

open blankPrompt in
/-- Both fragments end with a line feed, three blank lines stand between them, and the artifact ends with four more. -/
theorem render_blankPrompt :
    Document.ofTree none tree = .ok document ∧
      (∀ s ∈ document.sections, s.render.toList.getLast? = some '\n') ∧
      document.render = "---\ndescription:\nglobs:\nalwaysApply:\n---\n# A prompt\n\n"
        ++ "## Note\n\nUse this\n\nDear reader\n\n\n\n## Blank\n\nUse that\n\n\n\n\n" :=
  ⟨Except.toOption_eq_some.1 (by decide), by decide, by decide⟩

end PromptMarkup
