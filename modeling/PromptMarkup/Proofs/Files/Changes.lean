import Mathlib.Data.List.Induction
import Mathlib.Data.List.Nodup
import PromptMarkup.Proofs.Files.Walk

/-!
# What changes of the files leave as it was

Storing files and making directories changes no link, so that paths resolve as before (`resolve_congr`).  In a
well-formed file system a file is found where it was and is read as before, unless it is one of those stored
(`Stored.hasFile`, `Stored.read`, `Grown.read`).
-/

namespace PromptMarkup.FileSystem

variable {fs fs' : FileSystem} {l t : Location} {p : Path} {ls : List Location}

/-! ### Links -/

section

variable {s : String} {here : Location} (hs : ¬ (s = "" ∨ s = ".")) (hup : s ≠ "..") (seen : Seen) (rest : List Pending)
include hs hup

theorem resolveFrom_link {target : String} (h : fs.node? (here ++ [s]) = some (.link target)) :
    fs.resolveFrom seen here (.name s :: rest) =
      if (seen.map (·.1)).contains (here ++ [s]) then
        fs.resolveFrom seen (((seen.lookup (here ++ [s])).join).getD (here ++ [s])) rest
      else
        fs.resolveFrom ((here ++ [s], none) :: seen) (if startsAtTop target then [] else here)
          ((Text.parts '/' target).map .name ++ .reached (here ++ [s]) :: rest) := by
  rw [resolveFrom, if_neg hs, if_neg hup]
  dsimp only
  split
  · next target' h' =>
    obtain rfl : target = target' := by simpa using h.symm.trans h'
    rw [dite_eq_ite]
  · next hother => exact absurd h (hother target)

theorem resolveFrom_name (h : ∀ target, fs.node? (here ++ [s]) ≠ some (.link target)) :
    fs.resolveFrom seen here (.name s :: rest) = fs.resolveFrom seen (here ++ [s]) rest := by
  rw [resolveFrom, if_neg hs, if_neg hup]
  dsimp only
  split
  · next target h' => exact absurd h' (h target)
  · rfl

end

section

variable (hlink : ∀ l target, fs.node? l = some (.link target) ↔ fs'.node? l = some (.link target))
include hlink

theorem resolveFrom_congr (seen : Seen) (here : Location) (pending : List Pending) :
    fs.resolveFrom seen here pending = fs'.resolveFrom seen here pending := by
  fun_induction resolveFrom fs seen here pending with
  | case1 => rw [resolveFrom]
  | case2 seen here link rest ih => rw [resolveFrom, ih]
  | case3 seen here s rest hs ih => rw [resolveFrom, if_pos hs, ih]
  | case4 seen here rest hs ih => rw [resolveFrom, if_neg hs, if_pos rfl, ih]
  | case5 seen here s rest hs hup next target hnext hmet ih =>
    rw [resolveFrom_link hs hup seen rest ((hlink _ _).1 hnext), if_pos hmet, ih]
  | case6 seen here s rest hs hup next target hnext hmet ih =>
    rw [dite_eq_ite] at ih
    rw [resolveFrom_link hs hup seen rest ((hlink _ _).1 hnext), if_neg hmet, ← ih]
  | case7 seen here s rest hs hup next hother ih =>
    rw [resolveFrom_name hs hup seen rest fun target hnext => hother target ((hlink _ _).2 hnext), ih]

theorem resolve_congr (hcurrent : fs'.current = fs.current) (p : Path) : fs.resolve p = fs'.resolve p := by
  have hstart : fs'.start p = fs.start p := by rw [start, hcurrent, start]
  rw [resolve, resolveFrom_congr hlink, resolve, hstart]

end

theorem Stored.link_iff (h : Stored fs fs' ls) (l : Location) (target : String) :
    fs.node? l = some (.link target) ↔ fs'.node? l = some (.link target) := by
  refine ⟨h.node?_link, fun hl => ?_⟩
  obtain hsame | ⟨-, -, bs, hbs⟩ := h.node? l
  · rw [← hsame, hl]
  · rw [hbs] at hl
    cases hl

theorem Grown.link_iff (h : Grown fs fs') (l : Location) (target : String) :
    fs.node? l = some (.link target) ↔ fs'.node? l = some (.link target) := by
  refine ⟨h.node?_of_some, fun hl => ?_⟩
  obtain hsame | ⟨-, hdirectory⟩ := h.node? l
  · rw [← hsame, hl]
  · rw [hdirectory] at hl
    cases hl

/-! ### Files -/

theorem mem_files_iff : l ∈ fs.files ↔ ∃ bs, (l, .file bs) ∈ fs.nodes := by
  rw [files, List.mem_filterMap]
  constructor
  · rintro ⟨⟨m, n⟩, hm, hn⟩
    cases n with
    | directory => cases hn
    | link target => cases hn
    | file bs =>
      cases hn
      exact ⟨bs, hm⟩
  · rintro ⟨bs, hm⟩
    exact ⟨_, hm, rfl⟩

/-- A file system in which every location is there once, in a directory, and has a name that a directory can hold. -/
structure WellFormed (fs : FileSystem) : Prop where
  distinct : (fs.nodes.map (·.1)).Nodup
  parent : ∀ e ∈ fs.nodes, e.1 ≠ [] ∧ fs.node? e.1.dropLast = some .directory
  plain : ∀ e ∈ fs.nodes, ∀ n ∈ e.1, Plain n ∧ '/' ∉ n.toList

instance (fs : FileSystem) : Decidable fs.WellFormed :=
  decidable_of_iff ((fs.nodes.map (·.1)).Nodup ∧
      (∀ e ∈ fs.nodes, e.1 ≠ [] ∧ fs.node? e.1.dropLast = some .directory) ∧
      ∀ e ∈ fs.nodes, ∀ n ∈ e.1, Plain n ∧ '/' ∉ n.toList)
    ⟨fun h => ⟨h.1, h.2.1, h.2.2⟩, fun h => ⟨h.distinct, h.parent, h.plain⟩⟩

namespace WellFormed

variable (h : fs.WellFormed)
include h

theorem node?_of_mem {n : Node} (hl : (l, n) ∈ fs.nodes) : fs.node? l = some n := by
  have hne : l ≠ [] := (h.parent _ hl).1
  rw [FileSystem.node?, if_neg hne]
  cases hfind : fs.nodes.find? fun e => e.1 == l with
  | none => exact absurd (List.find?_eq_none.1 hfind _ hl) (by simp)
  | some e =>
    have he : e.1 = l := by simpa using List.find?_some hfind
    have heq : e = (l, n) := List.inj_on_of_nodup_map h.distinct (List.mem_of_find?_eq_some hfind) hl he
    rw [heq]
    rfl

/-- Above something there are directories. -/
theorem node?_of_prefix {n : Node} (hl : (l, n) ∈ fs.nodes) {p : Location} (hp : p <+: l) (hne : p ≠ l) :
    fs.node? p = some .directory := by
  induction l using List.reverseRecOn generalizing n with
  | nil => exact absurd (List.prefix_nil.1 hp) hne
  | append_singleton q name ih =>
    have hparent : fs.node? q = some .directory := by simpa using (h.parent _ hl).2
    obtain rfl | hq := List.prefix_concat_iff.1 hp
    · exact absurd rfl hne
    by_cases hpq : p = q
    · rw [hpq, hparent]
    · have hqne : q ≠ [] := by
        rintro rfl
        exact hpq (List.prefix_nil.1 hq)
      exact ih (mem_of_node? hqne hparent) hq hpq

/-- On the way to a file there are no links. -/
theorem exists_entry_of_mem {bs : List UInt8} {here rest : List String} {name : String}
    (hl : (here ++ name :: rest, .file bs) ∈ fs.nodes) :
    ∃ n, fs.node? (here ++ [name]) = some n ∧ ∀ target, n ≠ .link target := by
  by_cases hrest : rest = []
  · refine ⟨.file bs, ?_, by simp⟩
    rw [← h.node?_of_mem hl, hrest]
  · exact ⟨.directory, h.node?_of_prefix hl ⟨rest, by simp⟩ (by simp [hrest]), by simp⟩

theorem walk_of_mem {bs : List UInt8} (hl : (l, .file bs) ∈ fs.nodes) (budget : Nat) (here rest : List String)
    (hsplit : l = here ++ rest) : fs.walk true budget here rest = .ok (.found l (.file bs)) := by
  induction rest generalizing here with
  | nil =>
    rw [List.append_nil] at hsplit
    rw [walk, ← hsplit, h.node?_of_mem hl]
  | cons name rest ih =>
    have hname := (h.plain _ hl name (by simp [hsplit])).1
    have hhere : fs.node? here = some .directory :=
      h.node?_of_prefix hl ⟨name :: rest, hsplit.symm⟩ (by simp [hsplit])
    obtain ⟨n, hn, hlink⟩ := h.exists_entry_of_mem (hsplit ▸ hl)
    rw [walk_entry hhere hname.isEntry hn hlink]
    exact ih (here ++ [name]) (by simp [hsplit])

theorem resolveFrom_of_mem {bs : List UInt8} (hl : (l, .file bs) ∈ fs.nodes) (seen : Seen) (here rest : List String)
    (hsplit : l = here ++ rest) : fs.resolveFrom seen here (rest.map .name) = l := by
  induction rest generalizing here with
  | nil => rw [List.map_nil, resolveFrom, hsplit, List.append_nil]
  | cons name rest ih =>
    obtain ⟨hempty, hdot, hup, -⟩ := (h.plain _ hl name (by simp [hsplit])).1
    obtain ⟨n, hn, hlink⟩ := h.exists_entry_of_mem (hsplit ▸ hl)
    rw [List.map_cons, resolveFrom_name (not_or.2 ⟨hempty, hdot⟩) hup seen _ fun target ht => ?_]
    · exact ih (here ++ [name]) (by simp [hsplit])
    · cases hn.symm.trans ht
      exact hlink target rfl

/-- A file is where its location leads. -/
theorem follow_of_mem_files (hl : l ∈ fs.files) :
    ∃ bs, fs.follow (Path.absolute l) = .ok (.found l (.file bs)) := by
  obtain ⟨bs, hm⟩ := mem_files_iff.1 hl
  exact ⟨bs, h.walk_of_mem hm maxLinks [] _ rfl⟩

theorem hasNull_of_mem {n : Node} (hl : (l, n) ∈ fs.nodes) : hasNull (Path.absolute l) = false := by
  rw [hasNull, List.any_eq_false]
  intro name hname
  simpa using (h.plain _ hl name hname).1.2.2.2.1

theorem read_of_mem {bs : List UInt8} (hl : (l, .file bs) ∈ fs.nodes) : fs.read (Path.absolute l) = .ok bs := by
  have hfollow : fs.follow (Path.absolute l) = .ok (.found l (.file bs)) := h.walk_of_mem hl maxLinks [] l rfl
  rw [FileSystem.read, h.hasNull_of_mem hl, status, hfollow]
  rfl

/-- A file that reads as a document, wherever it stands. -/
theorem holds {bs : List UInt8} {e : Element} (hl : (l, .file bs) ∈ fs.nodes)
    (hparse : (Xml.parse bs).toOption = some e) : fs.Holds (Path.absolute l) l e := by
  have hfollow : fs.follow (Path.absolute l) = .ok (.found l (.file bs)) := h.walk_of_mem hl maxLinks [] l rfl
  refine ⟨?_, ?_, ?_⟩
  · rw [resolve, h.hasNull_of_mem hl, start]
    exact congrArg Except.ok (h.resolveFrom_of_mem hl [] [] l rfl)
  · have hfile : fs.isFile (Path.absolute l) = .ok true := by
      rw [isFile, ask, h.hasNull_of_mem hl, status, hfollow]
      rfl
    have hmem : l ∈ fs.files := mem_files_iff.2 ⟨bs, hl⟩
    simp [FileSystem.hasFile, hfile, hmem, bind, Except.bind, pure, Except.pure]
  · simp only [document, h.read_of_mem hl, Except.toOption_eq_some.1 hparse]

end WellFormed

/-! ### Reading files -/

/-- A location that is taken for a file leads to one. -/
theorem exists_follow_of_hasFile (h : fs.hasFile t = .ok true) :
    t ∈ fs.files ∧ ∃ l bs, fs.follow (Path.absolute t) = .ok (.found l (.file bs)) := by
  refine ⟨mem_files_of_hasFile h, ?_⟩
  obtain ⟨b, hb, h⟩ := Except.bind_eq_ok.1 h
  have hfile : b = true := by
    simp only [pure, Except.pure, Except.ok.injEq, Bool.and_eq_true] at h
    exact h.1
  rw [isFile, ask, status] at hb
  split at hb
  · simp [hfile] at hb
  cases hf : fs.follow (Path.absolute t) with
  | error e => cases e <;> simp [hf, hfile] at hb
  | ok w =>
    cases w with
    | absent m => simp [hf, hfile] at hb
    | found m n => cases n <;> simp_all

theorem hasFile_of_notMem {b : Bool} (h : fs.isFile (Path.absolute t) = .ok b) (ht : t ∉ fs.files) :
    fs.hasFile t = .ok false := by
  rw [hasFile, h]
  simp [bind, Except.bind, pure, Except.pure, ht]

theorem read_congr (h : fs'.follow p = fs.follow p) : fs'.read p = fs.read p := by
  rw [read, read, status, status, h]

theorem document_congr (h : fs'.read (Path.absolute l) = fs.read (Path.absolute l)) :
    fs'.document l = fs.document l := by
  rw [document, document, h]

theorem text_congr (hd : fs'.decoders = fs.decoders) (h : fs'.read (Path.absolute l) = fs.read (Path.absolute l))
    (encoding : String) : fs'.text l encoding = fs.text l encoding := by
  rw [text, text, h, hd]

theorem Grown.follow_found (h : Grown fs fs') {n : Node} (hf : fs.follow p = .ok (.found l n)) :
    fs'.follow p = .ok (.found l n) := by
  rw [follow, start, h.current]
  exact h.walk_found hf

theorem Grown.read (h : Grown fs fs') (ht : fs.hasFile t = .ok true) :
    fs'.read (Path.absolute t) = fs.read (Path.absolute t) := by
  obtain ⟨-, l, bs, hf⟩ := exists_follow_of_hasFile ht
  exact read_congr ((h.follow_found hf).trans hf.symm)

namespace Stored

variable (h : Stored fs fs' ls)
include h

/-- What a path leads to is as before, unless a file has been stored where the walk along the path stops. -/
theorem follow (p : Path) : fs'.follow p = fs.follow p ∨
    ∃ l ∈ ls, fs.stop? true maxLinks (fs.start p) p.parts = some l ∧ Shifted l (fs.follow p) (fs'.follow p) := by
  have hstart : fs'.start p = fs.start p := by rw [start, h.current, start]
  rw [FileSystem.follow, hstart]
  exact h.walk true maxLinks (fs.start p) p.parts

/-- A path that leads to a file leads to it still, unless the file is one of those that have been stored. -/
theorem follow_found {bs : List UInt8} (hp : fs.follow p = .ok (.found l (.file bs))) (hl : l ∉ ls) :
    fs'.follow p = .ok (.found l (.file bs)) := by
  obtain hsame | ⟨m, hm, -, hshift⟩ := h.follow p
  · exact hsame.trans hp
  · obtain hbefore | ⟨old, hbefore⟩ | hbefore := hshift.before <;> cases hp.symm.trans hbefore
    exact absurd hm hl

variable (hfound : ∀ l ∈ fs.files, ∃ bs, fs.follow (Path.absolute l) = .ok (.found l (.file bs))) (ht : t ∉ ls)
include hfound ht

theorem follow_of_mem_files (hmem : t ∈ fs.files) :
    fs'.follow (Path.absolute t) = fs.follow (Path.absolute t) := by
  obtain ⟨bs, hbs⟩ := hfound t hmem
  exact (h.follow_found hbs ht).trans hbs.symm

/-- Files stored elsewhere do not matter for whether a file stands somewhere. -/
theorem hasFile : fs'.hasFile t = fs.hasFile t := by
  have hfollow : fs'.follow (Path.absolute t) = fs.follow (Path.absolute t) → fs'.hasFile t = fs.hasFile t := by
    intro hsame
    rw [FileSystem.hasFile, FileSystem.hasFile, isFile, isFile, ask, ask, status, status, hsame]
    refine bind_congr fun b => ?_
    simp [h.files t ht]
  by_cases hmem : t ∈ fs.files
  · exact hfollow (h.follow_of_mem_files hfound ht hmem)
  obtain hsame | ⟨l, -, -, hshift⟩ := h.follow (Path.absolute t)
  · exact hfollow hsame
  -- The walk now ends at a file or cannot go on, but the location is none of a file.
  have hbefore : ∃ b, fs.isFile (Path.absolute t) = .ok b := by
    rw [isFile, ask, status]
    split
    · exact ⟨_, rfl⟩
    · obtain hx | ⟨bs, hx⟩ | hx := hshift.before <;> rw [hx] <;> exact ⟨_, rfl⟩
  have hafter : ∃ b, fs'.isFile (Path.absolute t) = .ok b := by
    rw [isFile, ask, status]
    split
    · exact ⟨_, rfl⟩
    · obtain ⟨bs, hx⟩ | hx := hshift.after <;> rw [hx] <;> exact ⟨_, rfl⟩
  obtain ⟨b, hb⟩ := hbefore
  obtain ⟨b', hb'⟩ := hafter
  rw [hasFile_of_notMem hb hmem, hasFile_of_notMem hb' fun hmem' => hmem ((h.files t ht).1 hmem')]

theorem read (hfile : fs.hasFile t = .ok true) : fs'.read (Path.absolute t) = fs.read (Path.absolute t) :=
  read_congr (h.follow_of_mem_files hfound ht (mem_files_of_hasFile hfile))

end Stored

end PromptMarkup.FileSystem
