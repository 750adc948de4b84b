import PromptMarkup.Proofs.Files.Top

/-!
# Walks in files that change

Where a walk stops (`stop?`) is all that decides whether files stored somewhere change it (`Stored.walk`).  Directories
that are made do not change where a walk ends at something (`Grown.walk_found`).
-/

namespace PromptMarkup.FileSystem

variable {fs fs' : FileSystem} {follow : Bool} {budget : Nat} {here l : Location} {names : List String}

/-! ### The steps of a walk -/

/-- A name that is looked up in a directory. -/
structure IsEntry (name : String) : Prop where
  named : ¬ (name = "" ∨ name = ".")
  below : ¬ name = ".."
  short : ¬ maxNameSize < name.utf8ByteSize

theorem Plain.isEntry {name : String} (h : Plain name) : IsEntry name :=
  ⟨not_or.2 ⟨h.1, h.2.1⟩, h.2.2.1, Nat.not_lt.2 h.2.2.2.2⟩

section

variable {name : String} {rest : List String}

theorem walk_below_file {bs : List UInt8} (h : fs.node? here = some (.file bs)) :
    fs.walk follow budget here (name :: rest) = .error .notDirectory := by
  rw [walk, h]

variable (h : fs.node? here = some .directory)
include h

theorem walk_same (hname : name = "" ∨ name = ".") :
    fs.walk follow budget here (name :: rest) = fs.walk follow budget here rest := by
  rw [walk, h]
  simp only [if_pos hname]

theorem walk_up : fs.walk follow budget here (".." :: rest) = fs.walk follow budget here.dropLast rest := by
  rw [walk, h]
  simp

variable (hname : IsEntry name)
include hname

theorem walk_nothing (hnext : fs.node? (here ++ [name]) = none) :
    fs.walk follow budget here (name :: rest) =
      if rest = [] then .ok (.absent (here ++ [name])) else .error .notFound := by
  rw [walk, h]
  simp only [if_neg hname.named, if_neg hname.below, if_neg hname.short, hnext]

theorem walk_entry {n : Node} (hnext : fs.node? (here ++ [name]) = some n) (hlink : ∀ target, n ≠ .link target) :
    fs.walk follow budget here (name :: rest) = fs.walk follow budget (here ++ [name]) rest := by
  rw [walk, h]
  simp only [if_neg hname.named, if_neg hname.below, if_neg hname.short, hnext]

theorem walk_last_link {target : String} (hnext : fs.node? (here ++ [name]) = some (.link target))
    (hend : rest = [] ∧ follow = false) :
    fs.walk follow budget here (name :: rest) = .ok (.found (here ++ [name]) (.link target)) := by
  rw [walk, h]
  simp only [if_neg hname.named, if_neg hname.below, if_neg hname.short, hnext, if_pos hend]

theorem walk_link {target : String} (hnext : fs.node? (here ++ [name]) = some (.link target))
    (hend : ¬ (rest = [] ∧ follow = false)) :
    fs.walk follow (budget + 1) here (name :: rest) =
      fs.walk follow budget (if startsAtTop target then [] else here) (Text.parts '/' target ++ rest) := by
  rw [walk, h]
  simp only [if_neg hname.named, if_neg hname.below, if_neg hname.short, hnext, if_neg hend]

theorem walk_link_loop {target : String} (hnext : fs.node? (here ++ [name]) = some (.link target))
    (hend : ¬ (rest = [] ∧ follow = false)) :
    fs.walk follow 0 here (name :: rest) = .error .linkLoop := by
  rw [walk, h]
  simp only [if_neg hname.named, if_neg hname.below, if_neg hname.short, hnext, if_neg hend]

end

/-! ### Where a walk stops -/

/-- Where a walk stops: at its end, or at the first location where it cannot go on.  A walk that is refused for a name
or for its links stops nowhere. -/
def stop? (fs : FileSystem) (follow : Bool) (budget : Nat) (here : Location) (names : List String) : Option Location :=
  match names with
  | [] => some here
  | name :: rest =>
    match fs.node? here with
    | none => some here
    | some (.file _) => some here
    | some (.link _) => some here
    | some .directory =>
      if name = "" ∨ name = "." then stop? fs follow budget here rest
      else if name = ".." then stop? fs follow budget here.dropLast rest
      else if maxNameSize < name.utf8ByteSize then none
      else
        match fs.node? (here ++ [name]) with
        | none => some (here ++ [name])
        | some (.link target) =>
          if rest = [] ∧ follow = false then some (here ++ [name])
          else
            match budget with
            | 0 => none
            | b + 1 =>
              stop? fs follow b (if startsAtTop target then [] else here) (Text.parts '/' target ++ rest)
        | some _ => stop? fs follow budget (here ++ [name]) rest
  termination_by (budget, names.length)

/-! ### Files that are stored -/

/-- Files have been stored at some of the given locations, where files were before or nothing. -/
structure Stored (fs fs' : FileSystem) (ls : List Location) : Prop where
  current : fs'.current = fs.current
  node? : ∀ l, fs'.node? l = fs.node? l ∨
    l ∈ ls ∧ (fs.node? l = none ∨ ∃ bs, fs.node? l = some (.file bs)) ∧ ∃ bs, fs'.node? l = some (.file bs)
  files : ∀ l, l ∉ ls → (l ∈ fs'.files ↔ l ∈ fs.files)
  decoders : fs'.decoders = fs.decoders

/-- What becomes of a walk when a file is stored where it stops: it ended there or found nothing, and now it ends there
or cannot go on. -/
structure Shifted (l : Location) (x y : Except Files.Refusal Walk) : Prop where
  before : x = .ok (.absent l) ∨ (∃ bs, x = .ok (.found l (.file bs))) ∨ x = .error .notFound
  after : (∃ bs, y = .ok (.found l (.file bs))) ∨ y = .error .notDirectory

namespace Stored

variable {ls : List Location} (h : Stored fs fs' ls)
include h

theorem node?_directory (hl : fs.node? l = some .directory) : fs'.node? l = some .directory := by
  obtain hsame | ⟨-, hfree, -⟩ := h.node? l
  · rw [hsame, hl]
  · simp [hl] at hfree

theorem node?_link {target : String} (hl : fs.node? l = some (.link target)) :
    fs'.node? l = some (.link target) := by
  obtain hsame | ⟨-, hfree, -⟩ := h.node? l
  · rw [hsame, hl]
  · simp [hl] at hfree

theorem node?_file {bs : List UInt8} (hl : fs.node? l = some (.file bs)) : ∃ bs', fs'.node? l = some (.file bs') := by
  obtain hsame | ⟨-, -, hfile⟩ := h.node? l
  · exact ⟨bs, by rw [hsame, hl]⟩
  · exact hfile

theorem exists_entry {n : Node} (hl : fs.node? l = some n) (hlink : ∀ target, n ≠ .link target) :
    ∃ n', fs'.node? l = some n' ∧ ∀ target, n' ≠ .link target := by
  cases n with
  | link target => exact absurd rfl (hlink target)
  | directory => exact ⟨.directory, h.node?_directory hl, by simp⟩
  | file bs =>
    obtain ⟨bs', hbs'⟩ := h.node?_file hl
    exact ⟨.file bs', hbs', by simp⟩

/-- A walk goes as before, unless a file has been stored where it stops. -/
theorem walk (follow : Bool) (budget : Nat) (here : Location) (names : List String) :
    fs'.walk follow budget here names = fs.walk follow budget here names ∨
      ∃ l ∈ ls, fs.stop? follow budget here names = some l ∧
        Shifted l (fs.walk follow budget here names) (fs'.walk follow budget here names) := by
  fun_induction FileSystem.walk fs follow budget here names with
  | case1 budget here n hn =>
    obtain hsame | ⟨hl, hfree, bs, hbs⟩ := h.node? here
    · left
      rw [FileSystem.walk, hsame, hn]
    · refine .inr ⟨here, hl, by rw [stop?], ?_, .inl ⟨bs, by rw [FileSystem.walk, hbs]⟩⟩
      obtain hfree | ⟨old, hold⟩ := hfree
      · rw [hfree] at hn
        cases hn
      · rw [hold] at hn
        cases hn
        exact .inr (.inl ⟨old, rfl⟩)
  | case2 budget here hn =>
    obtain hsame | ⟨hl, -, bs, hbs⟩ := h.node? here
    · left
      rw [FileSystem.walk, hsame, hn]
    · exact .inr ⟨here, hl, by rw [stop?], .inr (.inr rfl), .inl ⟨bs, by rw [FileSystem.walk, hbs]⟩⟩
  | case3 budget here name rest hn =>
    obtain hsame | ⟨hl, -, bs, hbs⟩ := h.node? here
    · left
      rw [FileSystem.walk, hsame, hn]
    · exact .inr ⟨here, hl, by rw [stop?, hn], .inr (.inr rfl), .inr (by rw [FileSystem.walk, hbs])⟩
  | case4 budget here name rest bs hn =>
    obtain ⟨bs', hn'⟩ := h.node?_file hn
    left
    rw [FileSystem.walk, hn']
  | case5 budget here name rest target hn =>
    left
    rw [FileSystem.walk, h.node?_link hn]
  | case6 budget here name rest hn hname ih =>
    rw [walk_same (h.node?_directory hn) hname, stop?, hn]
    simpa only [if_pos hname] using ih
  | case7 budget here rest hn hname ih =>
    rw [walk_up (h.node?_directory hn), stop?, hn]
    simpa only [if_neg hname, if_true] using ih
  | case8 budget here name rest hn hname hup hlong =>
    left
    rw [FileSystem.walk, h.node?_directory hn]
    simp only [if_neg hname, if_neg hup, if_pos hlong]
  | case9 budget here name hn hname hup hlong hnext =>
    rw [stop?, hn]
    simp only [if_neg hname, if_neg hup, if_neg hlong, hnext]
    obtain hsame | ⟨hl, -, bs, hbs⟩ := h.node? (here ++ [name])
    · left
      rw [walk_nothing (h.node?_directory hn) ⟨hname, hup, hlong⟩ (hsame.trans hnext), if_pos rfl]
    · refine .inr ⟨_, hl, rfl, .inl rfl, .inl ⟨bs, ?_⟩⟩
      rw [walk_entry (h.node?_directory hn) ⟨hname, hup, hlong⟩ hbs (by simp), FileSystem.walk, hbs]
  | case10 budget here name rest hn hname hup hlong hnext hrest =>
    rw [stop?, hn]
    simp only [if_neg hname, if_neg hup, if_neg hlong, hnext]
    obtain hsame | ⟨hl, -, bs, hbs⟩ := h.node? (here ++ [name])
    · left
      rw [walk_nothing (h.node?_directory hn) ⟨hname, hup, hlong⟩ (hsame.trans hnext), if_neg hrest]
    · refine .inr ⟨_, hl, rfl, .inr (.inr rfl), .inr ?_⟩
      obtain ⟨next, rest, rfl⟩ := List.exists_cons_of_ne_nil hrest
      rw [walk_entry (h.node?_directory hn) ⟨hname, hup, hlong⟩ hbs (by simp), walk_below_file hbs]
  | case11 budget here name rest hn hname hup hlong target hlink hend =>
    exact .inl (walk_last_link (h.node?_directory hn) ⟨hname, hup, hlong⟩ (h.node?_link hlink) hend)
  | case12 here name rest hn hname hup hlong target hlink hend =>
    exact .inl (walk_link_loop (h.node?_directory hn) ⟨hname, hup, hlong⟩ (h.node?_link hlink) hend)
  | case13 here name rest hn hname hup hlong target hlink hend b ih =>
    rw [walk_link (h.node?_directory hn) ⟨hname, hup, hlong⟩ (h.node?_link hlink) hend, stop?, hn]
    simpa only [if_neg hname, if_neg hup, if_neg hlong, hlink, if_neg hend, dite_eq_ite] using ih
  | case14 budget here name rest hn hname hup hlong n hlink hnext ih =>
    obtain ⟨n', hn', hlink'⟩ := h.exists_entry hnext hlink
    rw [walk_entry (h.node?_directory hn) ⟨hname, hup, hlong⟩ hn' hlink', stop?, hn]
    simp only [if_neg hname, if_neg hup, if_neg hlong, hnext]
    cases n with
    | link target => exact absurd rfl (hlink target)
    | directory => exact ih
    | file bs => exact ih

end Stored

/-! ### Directories that are made -/

/-- Directories have been made where nothing was. -/
structure Grown (fs fs' : FileSystem) : Prop where
  current : fs'.current = fs.current
  node? : ∀ l, fs'.node? l = fs.node? l ∨ fs.node? l = none ∧ fs'.node? l = some .directory
  files : ∀ l, l ∈ fs'.files ↔ l ∈ fs.files
  decoders : fs'.decoders = fs.decoders

namespace Grown

variable (h : Grown fs fs')
include h

theorem node?_of_some {n : Node} (hl : fs.node? l = some n) : fs'.node? l = some n := by
  obtain hsame | ⟨hnone, -⟩ := h.node? l
  · rw [hsame, hl]
  · rw [hnone] at hl
    cases hl

/-- A walk that ends at something ends there still. -/
theorem walk_found {n : Node} (hw : fs.walk follow budget here names = .ok (.found l n)) :
    fs'.walk follow budget here names = .ok (.found l n) := by
  fun_induction FileSystem.walk fs follow budget here names with
  | case1 budget here m hm =>
    cases hw
    rw [walk, h.node?_of_some hm]
  | case2 | case3 | case4 | case5 | case8 | case9 | case10 | case12 => cases hw
  | case6 budget here name rest hn hname ih => exact (walk_same (h.node?_of_some hn) hname).trans (ih hw)
  | case7 budget here rest hn hname ih => exact (walk_up (h.node?_of_some hn)).trans (ih hw)
  | case11 budget here name rest hn hname hup hlong target hlink hend =>
    exact (walk_last_link (h.node?_of_some hn) ⟨hname, hup, hlong⟩ (h.node?_of_some hlink) hend).trans hw
  | case13 here name rest hn hname hup hlong target hlink hend b ih =>
    exact (walk_link (h.node?_of_some hn) ⟨hname, hup, hlong⟩ (h.node?_of_some hlink) hend).trans (ih hw)
  | case14 budget here name rest hn hname hup hlong m hlink hnext ih =>
    exact (walk_entry (h.node?_of_some hn) ⟨hname, hup, hlong⟩ (h.node?_of_some hnext) hlink).trans (ih hw)

/-- A walk that ends where a directory is made ends at the directory from then on. -/
theorem walk_absent (hw : fs.walk false budget here names = .ok (.absent l)) (hl : fs'.node? l = some .directory) :
    fs'.walk true budget here names = .ok (.found l .directory) := by
  fun_induction FileSystem.walk fs false budget here names with
  | case1 | case2 | case3 | case4 | case5 | case8 | case10 | case11 | case12 => cases hw
  | case6 budget here name rest hn hname ih => exact (walk_same (h.node?_of_some hn) hname).trans (ih hw)
  | case7 budget here rest hn hname ih => exact (walk_up (h.node?_of_some hn)).trans (ih hw)
  | case9 budget here name hn hname hup hlong hnext =>
    cases hw
    rw [walk_entry (h.node?_of_some hn) ⟨hname, hup, hlong⟩ hl (by simp), walk, hl]
  | case13 here name rest hn hname hup hlong target hlink hend b ih =>
    exact (walk_link (h.node?_of_some hn) ⟨hname, hup, hlong⟩ (h.node?_of_some hlink) (by simp)).trans (ih hw)
  | case14 budget here name rest hn hname hup hlong m hlink hnext ih =>
    exact (walk_entry (h.node?_of_some hn) ⟨hname, hup, hlong⟩ (h.node?_of_some hnext) hlink).trans (ih hw)

end Grown

/-- Where a walk that follows all links ends at something, one that does not follow the last ends at something too. -/
theorem exists_walk_found {n : Node} (hw : fs.walk true budget here names = .ok (.found l n)) :
    ∃ m k, fs.walk false budget here names = .ok (.found m k) := by
  fun_induction FileSystem.walk fs true budget here names with
  | case1 budget here m hm => exact ⟨here, m, by rw [walk, hm]⟩
  | case2 | case3 | case4 | case5 | case8 | case9 | case10 | case12 => cases hw
  | case11 budget here name rest hn hname hup hlong target hlink hend => cases hend.2
  | case6 budget here name rest hn hname ih =>
    rw [walk_same hn hname]
    exact ih hw
  | case7 budget here rest hn hname ih =>
    rw [walk_up hn]
    exact ih hw
  | case13 here name rest hn hname hup hlong target hlink hend b ih =>
    by_cases hrest : rest = []
    · exact ⟨_, _, walk_last_link hn ⟨hname, hup, hlong⟩ hlink ⟨hrest, rfl⟩⟩
    · rw [walk_link hn ⟨hname, hup, hlong⟩ hlink fun h => hrest h.1]
      exact ih hw
  | case14 budget here name rest hn hname hup hlong m hlink hnext ih =>
    rw [walk_entry hn ⟨hname, hup, hlong⟩ hnext hlink]
    exact ih hw

/-- Nothing stands where a walk ends at nothing. -/
theorem node?_of_walk_absent (hw : fs.walk follow budget here names = .ok (.absent l)) :
    l ≠ [] ∧ fs.node? l = none := by
  fun_induction FileSystem.walk fs follow budget here names with
  | case6 | case7 | case13 | case14 => exact ‹_ → _› hw
  | case9 budget here name hn hname hup hlong hnext =>
    cases hw
    exact ⟨by simp, hnext⟩
  | _ => cases hw

end PromptMarkup.FileSystem
