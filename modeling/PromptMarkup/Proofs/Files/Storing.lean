import PromptMarkup.Proofs.Files.Changes

/-!
# Storing files and making directories

What the operations change.  A file is stored at one place (`write_eq`), and the order does not matter in which files
are stored at places of their own (`node?_store_perm`).  Making a directory only adds directories
(`grown_makeDirectories`), and once it is made, making it again changes nothing (`isDirectory_of_makeDirectories`,
`makeDirectories_of_isDirectory`).
-/

namespace PromptMarkup.FileSystem

variable {fs fs' : FileSystem} {l : Location} {p : Path} {ls : List Location}

/-! ### Places -/

theorem node?_put (hl : l ≠ []) (n : Node) (m : Location) :
    (fs.put l n).node? m = if m = l then some n else fs.node? m := by
  by_cases hm : m = []
  · rw [hm, node?_nil, node?_nil, if_neg (Ne.symm hl)]
  rw [node?, node?, if_neg hm, if_neg hm, put, List.find?_append]
  by_cases hml : m = l
  · have hnone : (fs.nodes.filter fun e => e.1 != l).find? (fun e => e.1 == m) = none := by
      rw [List.find?_eq_none]
      intro e he
      have hne := (List.mem_filter.1 he).2
      rw [hml]
      simpa using hne
    rw [hnone, if_pos hml, hml]
    simp
  · have hfilter : (fs.nodes.filter fun e => e.1 != l).find? (fun e => e.1 == m) =
        fs.nodes.find? fun e => e.1 == m := by
      rw [List.find?_filter]
      congr 1
      funext e
      by_cases he : e.1 = m <;> simp [he, hml]
    rw [hfilter, if_neg hml]
    simp [Ne.symm hml]

theorem put_put (fs : FileSystem) (l : Location) (n m : Node) : (fs.put l n).put l m = fs.put l m := by
  simp [put, List.filter_append]

theorem mem_files_put {n : Node} {m : Location} (hm : m ≠ l) : m ∈ (fs.put l n).files ↔ m ∈ fs.files := by
  simp [mem_files_iff, put, hm]

/-- A location where a file can be stored: nothing stands there, or a file does. -/
def IsFree (fs : FileSystem) (l : Location) : Prop := fs.node? l = none ∨ ∃ bs, fs.node? l = some (.file bs)

theorem IsFree.ne_nil (h : fs.IsFree l) : l ≠ [] := by
  rintro rfl
  simp [IsFree] at h

theorem stored_refl (fs : FileSystem) (ls : List Location) : Stored fs fs ls :=
  ⟨rfl, fun _ => .inl rfl, fun _ _ => .rfl, rfl⟩

theorem Stored.isFree (h : Stored fs fs' ls) (hl : fs.IsFree l) : fs'.IsFree l := by
  obtain hsame | ⟨-, -, hfile⟩ := h.node? l
  · rwa [IsFree, hsame]
  · exact .inr hfile

theorem Stored.trans {fs'' : FileSystem} {ms : List Location} (h : Stored fs fs' ls) (h' : Stored fs' fs'' ms) :
    Stored fs fs'' (ls ++ ms) where
  current := h'.current.trans h.current
  node? l := by
    obtain hsame' | ⟨hl', hfree', hfile'⟩ := h'.node? l
    · obtain hsame | ⟨hl, hfree, hfile⟩ := h.node? l
      · exact .inl (hsame'.trans hsame)
      · exact .inr ⟨by simp [hl], hfree, by rwa [hsame']⟩
    · obtain hsame | ⟨-, hfree, -⟩ := h.node? l
      · exact .inr ⟨by simp [hl'], by rwa [← hsame], hfile'⟩
      · exact .inr ⟨by simp [hl'], hfree, hfile'⟩
  files l hl := by
    rw [List.mem_append, not_or] at hl
    exact (h'.files l hl.2).trans (h.files l hl.1)
  decoders := h'.decoders.trans h.decoders

theorem stored_put (hl : fs.IsFree l) (bs : List UInt8) : Stored fs (fs.put l (.file bs)) [l] where
  current := rfl
  node? m := by
    rw [node?_put hl.ne_nil]
    by_cases hm : m = l
    · rw [if_pos hm]
      exact .inr ⟨by simp [hm], hm ▸ hl, bs, rfl⟩
    · rw [if_neg hm]
      exact .inl rfl
  files m hm := mem_files_put (by simpa using hm)
  decoders := rfl

/-! ### Files stored one after another -/

/-- The file system with files stored in it, one after another. -/
def store (fs : FileSystem) (stored : List (Location × List UInt8)) : FileSystem :=
  stored.foldl (fun fs a => fs.put a.1 (.file a.2)) fs

theorem stored_store {stored : List (Location × List UInt8)} (h : ∀ a ∈ stored, fs.IsFree a.1) :
    Stored fs (fs.store stored) (stored.map (·.1)) := by
  induction stored generalizing fs with
  | nil => exact stored_refl fs []
  | cons a stored ih =>
    obtain ⟨ha, hstored⟩ := List.forall_mem_cons.1 h
    have hput := stored_put ha a.2
    exact hput.trans (ih fun b hb => hput.isFree (hstored b hb))

section

variable {stored : List (Location × List UInt8)} (hfree : ∀ a ∈ stored, fs.IsFree a.1)
include hfree

theorem node?_store_of_notMem (hl : l ∉ stored.map (·.1)) : (fs.store stored).node? l = fs.node? l := by
  obtain hsame | ⟨hmem, -⟩ := (stored_store hfree).node? l
  · exact hsame
  · exact absurd hmem hl

theorem node?_store_of_mem (hdistinct : (stored.map (·.1)).Nodup) {bs : List UInt8} (hl : (l, bs) ∈ stored) :
    (fs.store stored).node? l = some (.file bs) := by
  induction stored generalizing fs with
  | nil => cases hl
  | cons a stored ih =>
    obtain ⟨ha, hstored⟩ := List.forall_mem_cons.1 hfree
    obtain ⟨hnew, hdistinct⟩ := List.nodup_cons.1 hdistinct
    have hput := stored_put ha a.2
    have hfree' : ∀ b ∈ stored, (fs.put a.1 (.file a.2)).IsFree b.1 := fun b hb => hput.isFree (hstored b hb)
    obtain rfl | hl := List.mem_cons.1 hl
    · exact (node?_store_of_notMem hfree' hnew).trans (by rw [node?_put ha.ne_nil, if_pos rfl])
    · exact ih hfree' hdistinct hl

/-- The order does not matter in which files are stored at places of their own. -/
theorem node?_store_perm {stored' : List (Location × List UInt8)} (hp : stored'.Perm stored)
    (hdistinct : (stored.map (·.1)).Nodup) (l : Location) : (fs.store stored').node? l = (fs.store stored).node? l := by
  have hfree' : ∀ a ∈ stored', fs.IsFree a.1 := fun a ha => hfree a (hp.mem_iff.1 ha)
  by_cases hl : l ∈ stored.map (·.1)
  · obtain ⟨⟨m, bs⟩, hmem, rfl⟩ := List.mem_map.1 hl
    rw [node?_store_of_mem hfree hdistinct hmem,
      node?_store_of_mem hfree' ((hp.map _).nodup_iff.2 hdistinct) (hp.mem_iff.2 hmem)]
  · rw [node?_store_of_notMem hfree hl, node?_store_of_notMem hfree' fun hl' => hl ((hp.map _).mem_iff.1 hl')]

end

/-! ### Where a path stores its file -/

/-- The place where bytes are stored that are written to a path, or why there is none. -/
def place (fs : FileSystem) (p : Path) : Except Files.Fault Location :=
  if hasNull p then .error (.nullCharacter none)
  else
    match fs.follow p with
    | .ok (.found l (.file _)) => .ok l
    | .ok (.absent l) => .ok l
    | .ok (.found _ .directory) => .error (.refused .isDirectory p.text)
    | .ok (.found _ (.link _)) => .error (.refused .linkLoop p.text)
    | .error e => .error (.refused e p.text)

theorem write_eq (fs : FileSystem) (p : Path) (bs : List UInt8) :
    fs.write p bs = (fun l => fs.put l (.file bs)) <$> fs.place p := by
  rw [write, place]
  split
  · rfl
  · cases fs.follow p with
    | error e => rfl
    | ok w =>
      cases w with
      | absent l => rfl
      | found l n => cases n <;> rfl

theorem hasNull_of_place (h : fs.place p = .ok l) : hasNull p = false := by
  rw [place] at h
  split at h
  · cases h
  · rename_i hnull
    simpa using hnull

theorem place_of_follow {bs : List UInt8} (hnull : hasNull p = false) (h : fs.follow p = .ok (.found l (.file bs))) :
    fs.place p = .ok l := by
  rw [place, hnull, h]
  rfl

theorem read_of_follow {bs : List UInt8} (hnull : hasNull p = false) (h : fs.follow p = .ok (.found l (.file bs))) :
    fs.read p = .ok bs := by
  rw [read, hnull, status, h]
  rfl

theorem place_congr (h : fs'.follow p = fs.follow p) : fs'.place p = fs.place p := by
  rw [place, place, h]

/-- Where a walk stops that ends at something or at nothing. -/
theorem stop?_of_walk {follow : Bool} {budget : Nat} {here : Location} {names : List String}
    (h : (∃ n, fs.walk follow budget here names = .ok (.found l n)) ∨
      fs.walk follow budget here names = .ok (.absent l)) : fs.stop? follow budget here names = some l := by
  fun_induction walk fs follow budget here names <;> rw [stop?] <;> simp_all

theorem isFree_of_place (h : fs.place p = .ok l) :
    fs.IsFree l ∧ fs.stop? true maxLinks (fs.start p) p.parts = some l := by
  rw [place] at h
  split at h
  · cases h
  cases hf : fs.follow p with
  | error e => simp [hf] at h
  | ok w =>
    rw [hf] at h
    cases w with
    | absent m =>
      cases h
      exact ⟨.inl (node?_of_walk_absent hf).2, stop?_of_walk (.inr hf)⟩
    | found m n =>
      cases n with
      | directory => cases h
      | link target => cases h
      | file bs =>
        cases h
        exact ⟨.inr ⟨bs, node?_of_walk hf⟩, stop?_of_walk (.inl ⟨_, hf⟩)⟩

/-- A path stores its file at the same place, unless a file has been stored where the walk along the path stops. -/
theorem Stored.place (h : Stored fs fs' ls)
    (hp : ∀ l, fs.stop? true maxLinks (fs.start p) p.parts = some l → l ∉ ls) : fs'.place p = fs.place p := by
  obtain hsame | ⟨l, hl, hstop, -⟩ := h.follow p
  · exact place_congr hsame
  · exact absurd hl (hp l hstop)

/-- A path stores its file at the same place, or it led nowhere and leads to a file that has been stored. -/
theorem Stored.place_cases (h : Stored fs fs' ls) (hl : fs'.place p = .ok l) :
    fs.place p = .ok l ∨
      l ∈ ls ∧ fs.follow p = .error .notFound ∧ ∃ bs, fs'.follow p = .ok (.found l (.file bs)) := by
  obtain hsame | ⟨m, hm, -, hshift⟩ := h.follow p
  · exact .inl (by rwa [← place_congr hsame])
  rw [FileSystem.place] at hl
  split at hl
  · cases hl
  rename_i hnull
  obtain ⟨bs, hbs⟩ | hfailed := hshift.after
  · rw [hbs] at hl
    cases hl
    obtain hbefore | ⟨old, hbefore⟩ | hbefore := hshift.before
    · exact .inl (by rw [FileSystem.place, if_neg hnull, hbefore])
    · exact .inl (by rw [FileSystem.place, if_neg hnull, hbefore])
    · exact .inr ⟨hm, hbefore, bs, hbs⟩
  · rw [hfailed] at hl
    cases hl

/-- Where a walk ended at a file or at nothing it ends at the file that has been stored there. -/
theorem Stored.walk_stored (h : Stored fs fs' ls) {bs : List UInt8} (hl : fs'.node? l = some (.file bs)) {budget : Nat}
    {here : Location} {names : List String} {w : Walk} (hw : fs.walk true budget here names = .ok w)
    (hend : w = .absent l ∨ ∃ old, w = .found l (.file old)) :
    fs'.walk true budget here names = .ok (.found l (.file bs)) := by
  fun_induction FileSystem.walk fs true budget here names with
  | case2 | case3 | case4 | case5 | case8 | case10 | case12 => cases hw
  | case1 budget here n hn =>
    cases hw
    obtain hend | ⟨old, hend⟩ := hend <;> cases hend
    rw [FileSystem.walk, hl]
  | case6 budget here name rest hn hname ih => exact (walk_same (h.node?_directory hn) hname).trans (ih hw)
  | case7 budget here rest hn hname ih => exact (walk_up (h.node?_directory hn)).trans (ih hw)
  | case9 budget here name hn hname hup hlong hnext =>
    cases hw
    obtain hend | ⟨old, hend⟩ := hend <;> cases hend
    rw [walk_entry (h.node?_directory hn) ⟨hname, hup, hlong⟩ hl (by simp), FileSystem.walk, hl]
  | case11 budget here name rest hn hname hup hlong target hlink hend => cases hend.2
  | case13 here name rest hn hname hup hlong target hlink hend b ih =>
    exact (walk_link (h.node?_directory hn) ⟨hname, hup, hlong⟩ (h.node?_link hlink) (by simp)).trans (ih hw)
  | case14 budget here name rest hn hname hup hlong n hlink hnext ih =>
    obtain ⟨n', hn', hlink'⟩ := h.exists_entry hnext hlink
    exact (walk_entry (h.node?_directory hn) ⟨hname, hup, hlong⟩ hn' hlink').trans (ih hw)

/-- A path leads to the file that has been stored at its place. -/
theorem Stored.follow_place (h : Stored fs fs' ls) {bs : List UInt8} (hl : fs'.node? l = some (.file bs))
    (hp : fs.place p = .ok l) : fs'.follow p = .ok (.found l (.file bs)) := by
  have hstart : fs'.start p = fs.start p := by rw [start, h.current, start]
  rw [FileSystem.follow, hstart]
  rw [FileSystem.place] at hp
  split at hp
  · cases hp
  split at hp
  · rename_i old hf
    cases hp
    exact h.walk_stored hl hf (.inr ⟨old, rfl⟩)
  · rename_i hf
    cases hp
    exact h.walk_stored hl hf (.inl rfl)
  · cases hp
  · cases hp
  · cases hp

/-! ### Directories -/

theorem grown_refl (fs : FileSystem) : Grown fs fs := ⟨rfl, fun _ => .inl rfl, fun _ => .rfl, rfl⟩

theorem Grown.trans {fs'' : FileSystem} (h : Grown fs fs') (h' : Grown fs' fs'') : Grown fs fs'' where
  current := h'.current.trans h.current
  node? l := by
    obtain hsame' | ⟨hnone', hmade'⟩ := h'.node? l
    · rw [hsame']
      exact h.node? l
    · obtain hsame | ⟨hnone, -⟩ := h.node? l
      · exact .inr ⟨by rw [← hsame, hnone'], hmade'⟩
      · exact .inr ⟨hnone, hmade'⟩
  files l := (h'.files l).trans (h.files l)
  decoders := h'.decoders.trans h.decoders

theorem grown_put (hl : fs.node? l = none) : Grown fs (fs.put l .directory) where
  current := rfl
  node? m := by
    rw [node?_put (IsFree.ne_nil (.inl hl))]
    by_cases hm : m = l
    · rw [if_pos hm]
      exact .inr ⟨hm ▸ hl, rfl⟩
    · rw [if_neg hm]
      exact .inl rfl
  files m := by
    by_cases hm : m = l
    · have hbefore : m ∉ fs.files := by
        intro hmem
        obtain ⟨bs, hbs⟩ := mem_files_iff.1 hmem
        rw [node?, if_neg (IsFree.ne_nil (.inl hl)), Option.map_eq_none_iff, List.find?_eq_none] at hl
        exact absurd (by simp [hm]) (hl _ hbs)
      exact iff_of_false (by simp [mem_files_iff, put, hm]) hbefore
    · exact mem_files_put hm
  decoders := rfl

theorem isDirectory_eq_ok : fs.isDirectory p = .ok true ↔
    hasNull p = false ∧ ∃ l, fs.follow p = .ok (.found l .directory) := by
  rw [isDirectory, ask, status]
  cases hasNull p with
  | true => simp
  | false =>
    cases fs.follow p with
    | error e => cases e <;> simp
    | ok w =>
      cases w with
      | absent l => simp
      | found l n => cases n <;> simp

/-- A directory that is made is put where nothing was. -/
theorem grown_makeDirectory (h : fs.makeDirectory p = .ok fs') : Grown fs fs' ∧ fs'.isDirectory p = .ok true := by
  rw [makeDirectory] at h
  split at h
  · cases h
  rename_i hnull
  split at h
  · rename_i l hw
    cases h
    have hnone := node?_of_walk_absent hw
    have hgrown := grown_put hnone.2
    refine ⟨hgrown, isDirectory_eq_ok.2 ⟨by simpa using hnull, l, ?_⟩⟩
    exact hgrown.walk_absent hw (by rw [node?_put hnone.1, if_pos rfl])
  · cases h
  · cases h

theorem grown_ensureDirectory (h : fs.ensureDirectory p = .ok fs') : Grown fs fs' ∧ fs'.isDirectory p = .ok true := by
  rw [ensureDirectory] at h
  split at h
  · rename_i hmade
    cases h
    exact grown_makeDirectory hmade
  · obtain ⟨b, hb, h⟩ := Except.bind_eq_ok.1 h
    cases b with
    | false => cases h
    | true =>
      cases h
      exact ⟨grown_refl fs, hb⟩

/-- Making directories adds some, also where it fails in the end. -/
theorem grown_makeAll (fs : FileSystem) (anchor : Anchor) (parts : List String) :
    Grown fs (fs.makeAll anchor parts).1 ∧
      ((fs.makeAll anchor parts).2 = .ok () → (fs.makeAll anchor parts).1.isDirectory ⟨anchor, parts⟩ = .ok true) := by
  fun_induction makeAll fs anchor parts with
  | case1 parts made h =>
    obtain ⟨hgrown, hmade⟩ := grown_makeDirectory h
    exact ⟨hgrown, fun _ => hmade⟩
  | case2 path h => exact ⟨grown_refl fs, fun he => by cases he⟩
  | case3 parts path h hparts above e habove ih =>
    rw [habove] at ih
    exact ⟨ih.1, fun he => by cases he⟩
  | case4 parts path h hparts above habove made hmade ih =>
    rw [habove] at ih
    obtain ⟨hgrown, hmade⟩ := grown_ensureDirectory hmade
    exact ⟨ih.1.trans hgrown, fun _ => hmade⟩
  | case5 parts path h hparts above habove e he ih =>
    rw [habove] at ih
    exact ⟨ih.1, fun he => by cases he⟩
  | case6 parts e hother h hdirectory => exact ⟨grown_refl fs, fun _ => hdirectory⟩
  | case7 parts e hother h hdirectory => exact ⟨grown_refl fs, fun he => by cases he⟩
  | case8 parts e hother h e' hdirectory => exact ⟨grown_refl fs, fun he => by cases he⟩

theorem grown_makeDirectories (fs : FileSystem) (p : Path) : Grown fs (fs.makeDirectories p).1 :=
  (grown_makeAll fs p.anchor p.parts).1

/-- A directory that has been made is there. -/
theorem isDirectory_of_makeDirectories (h : fs.makeDirectories p = (fs', .ok ())) : fs'.isDirectory p = .ok true := by
  have hmade := (grown_makeAll fs p.anchor p.parts).2
  rw [makeDirectories] at h
  rw [h] at hmade
  exact hmade rfl

/-- A directory that is there cannot be made. -/
theorem makeDirectory_of_isDirectory (h : fs.isDirectory p = .ok true) :
    fs.makeDirectory p = .error (.refused .alreadyExists p.text) := by
  obtain ⟨hnull, l, hl⟩ := isDirectory_eq_ok.1 h
  obtain ⟨m, n, hm⟩ := exists_walk_found hl
  rw [makeDirectory, hnull, hm]
  rfl

/-- Making a directory that is there changes nothing. -/
theorem makeDirectories_of_isDirectory (h : fs.isDirectory p = .ok true) : fs.makeDirectories p = (fs, .ok ()) := by
  rw [makeDirectories, makeAll, makeDirectory_of_isDirectory h]
  simp only [h]

theorem Stored.follow_directory (h : Stored fs fs' ls) (hp : fs.follow p = .ok (.found l .directory)) :
    fs'.follow p = .ok (.found l .directory) := by
  obtain hsame | ⟨m, -, -, hshift⟩ := h.follow p
  · exact hsame.trans hp
  · obtain hbefore | ⟨bs, hbefore⟩ | hbefore := hshift.before <;> cases hp.symm.trans hbefore

theorem Stored.isDirectory (h : Stored fs fs' ls) (hp : fs.isDirectory p = .ok true) :
    fs'.isDirectory p = .ok true := by
  obtain ⟨hnull, l, hl⟩ := isDirectory_eq_ok.1 hp
  exact isDirectory_eq_ok.2 ⟨hnull, l, h.follow_directory hl⟩

end PromptMarkup.FileSystem
