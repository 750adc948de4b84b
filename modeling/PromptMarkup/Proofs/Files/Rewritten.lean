import PromptMarkup.Proofs.Files.Storing

/-!
# Files with other contents

Two file systems that differ in the contents of files only have the same links and the same files.  A path leads to
the same place in both (`Rewritten.follow`), and what it leads to is read the same unless it is one of the files that
differ (`Rewritten.read`).
-/

namespace PromptMarkup.FileSystem

variable {fs fs' : FileSystem} {l t : Location} {p : Path} {ls : List Location}

/-- The file systems are the same, but for the contents of files at the given locations. -/
structure Rewritten (fs fs' : FileSystem) (ls : List Location) : Prop where
  current : fs'.current = fs.current
  node? : ∀ l, fs'.node? l = fs.node? l ∨
    l ∈ ls ∧ (∃ bs, fs.node? l = some (.file bs)) ∧ ∃ bs, fs'.node? l = some (.file bs)
  files : ∀ l, l ∈ fs'.files ↔ l ∈ fs.files
  decoders : fs'.decoders = fs.decoders

/-- A file gets other contents. -/
theorem rewritten_put {old : List UInt8} (hl : fs.node? l = some (.file old)) (bs : List UInt8) :
    Rewritten fs (fs.put l (.file bs)) [l] := by
  have hne : l ≠ [] := by
    rintro rfl
    cases hl
  refine ⟨rfl, fun m => ?_, fun m => ?_, rfl⟩
  · rw [node?_put hne]
    by_cases hm : m = l
    · rw [if_pos hm, hm]
      exact .inr ⟨List.mem_singleton_self l, ⟨old, hl⟩, bs, rfl⟩
    · rw [if_neg hm]
      exact .inl rfl
  · by_cases hm : m = l
    · subst hm
      exact iff_of_true (mem_files_iff.2 ⟨bs, by simp [put]⟩) (mem_files_iff.2 ⟨old, mem_of_node? hne hl⟩)
    · exact mem_files_put hm

/-- A path leads to the file at a location. -/
def LeadsTo (fs : FileSystem) (p : Path) (l : Location) : Prop := ∃ bs, fs.follow p = .ok (.found l (.file bs))

namespace Rewritten

variable (h : Rewritten fs fs' ls)
include h

theorem symm : Rewritten fs' fs ls where
  current := h.current.symm
  node? l := (h.node? l).imp Eq.symm fun ⟨hl, hfile, hfile'⟩ => ⟨hl, hfile', hfile⟩
  files l := (h.files l).symm
  decoders := h.decoders.symm

theorem stored : Stored fs fs' ls where
  current := h.current
  node? l := (h.node? l).imp_right fun ⟨hl, hfile, hfile'⟩ => ⟨hl, .inr hfile, hfile'⟩
  files l _ := h.files l
  decoders := h.decoders

/-- A path leads to the same as before, or to one of the files with other contents. -/
theorem follow (p : Path) : fs'.follow p = fs.follow p ∨ ∃ l ∈ ls, fs.LeadsTo p l ∧ fs'.LeadsTo p l := by
  obtain hsame | ⟨l, hl, -, hshift⟩ := h.stored.follow p
  · exact .inl hsame
  obtain hsame | ⟨m, -, -, hback⟩ := h.symm.stored.follow p
  · exact .inl hsame.symm
  -- Seen from either side the walk ends at a file afterwards, so it did so before.
  obtain hx | hx | hx := hshift.before
  · obtain ⟨_, hx'⟩ | hx' := hback.after <;> cases hx.symm.trans hx'
  · obtain hy | hy := hshift.after
    · exact .inr ⟨l, hl, hx, hy⟩
    · obtain hy' | ⟨_, hy'⟩ | hy' := hback.before <;> cases hy.symm.trans hy'
  · obtain ⟨_, hx'⟩ | hx' := hback.after <;> cases hx.symm.trans hx'

theorem resolve (p : Path) : fs'.resolve p = fs.resolve p := (resolve_congr h.stored.link_iff h.current p).symm

theorem hasFile (t : Location) : fs'.hasFile t = fs.hasFile t := by
  have hfile : fs'.isFile (Path.absolute t) = fs.isFile (Path.absolute t) := by
    rw [isFile, isFile, ask, ask, status, status]
    obtain hsame | ⟨l, -, ⟨bs, hbs⟩, ⟨bs', hbs'⟩⟩ := h.follow (Path.absolute t)
    · rw [hsame]
    · rw [hbs, hbs']
  rw [FileSystem.hasFile, FileSystem.hasFile, hfile]
  refine bind_congr fun b => ?_
  simp [h.files t]

/-- Whatever is not one of the files with other contents is read as before. -/
theorem read (hp : ∀ l, fs.LeadsTo p l → l ∉ ls) : fs'.read p = fs.read p := by
  obtain hsame | ⟨l, hl, hlead, -⟩ := h.follow p
  · exact read_congr hsame
  · exact absurd hl (hp l hlead)

end Rewritten

end PromptMarkup.FileSystem
