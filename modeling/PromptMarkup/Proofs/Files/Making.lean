import PromptMarkup.Proofs.Files.Storing

/-!
# Attempts to make a directory

Making a directory with those on the way to it may fail after some of them have been made.  What an attempt has made
are directories that a part of the path leads to (`made_makeDirectories`), and another attempt succeeds or fails as the
first one did and leaves the files alone (`makeDirectories_again`).
-/

namespace PromptMarkup.FileSystem

variable {fs fs' : FileSystem} {follow : Bool} {budget : Nat} {here l : Location} {names parts : List String}
  {anchor : Anchor} {p : Path}

/-! ### Above the end of a walk -/

/-- A walk that ends somewhere comes through a directory before its last name. -/
theorem exists_walk_dropLast {w : Walk} (hw : fs.walk follow budget here names = .ok w) (hne : names ≠ []) :
    ∃ d, fs.walk true budget here names.dropLast = .ok (.found d .directory) := by
  have hlast {here : Location} {budget : Nat} (h : fs.node? here = some .directory) :
      ∃ d, fs.walk true budget here [] = .ok (.found d .directory) := ⟨here, by rw [walk, h]⟩
  fun_induction walk fs follow budget here names with
  | case1 | case2 => exact absurd rfl hne
  | case3 | case4 | case5 | case8 | case10 | case12 => cases hw
  | case6 budget here name rest hn hname ih =>
    by_cases hrest : rest = []
    · rw [hrest]
      exact hlast hn
    · rw [List.dropLast_cons_of_ne_nil hrest, walk_same hn hname]
      exact ih hw hrest
  | case7 budget here rest hn hname ih =>
    by_cases hrest : rest = []
    · rw [hrest]
      exact hlast hn
    · rw [List.dropLast_cons_of_ne_nil hrest, walk_up hn]
      exact ih hw hrest
  | case9 budget here name hn hname hup hlong hnext => exact hlast hn
  | case11 budget here name rest hn hname hup hlong target hlink hend =>
    rw [hend.1]
    exact hlast hn
  | case13 here name rest hn hname hup hlong target hlink hend b ih =>
    by_cases hrest : rest = []
    · rw [hrest]
      exact hlast hn
    · rw [List.dropLast_cons_of_ne_nil hrest, walk_link hn ⟨hname, hup, hlong⟩ hlink (by simp),
        ← List.dropLast_append_of_ne_nil hrest]
      exact ih hw (by simp [hrest])
  | case14 budget here name rest hn hname hup hlong m hlink hnext ih =>
    by_cases hrest : rest = []
    · rw [hrest]
      exact hlast hn
    · rw [List.dropLast_cons_of_ne_nil hrest, walk_entry hn ⟨hname, hup, hlong⟩ hnext hlink]
      exact ih hw hrest

theorem isDirectory_dropLast {w : Walk} (hne : parts ≠ []) (hnull : hasNull ⟨anchor, parts⟩ = false)
    (hw : fs.walk follow maxLinks (fs.start ⟨anchor, parts⟩) parts = .ok w) :
    fs.isDirectory ⟨anchor, parts.dropLast⟩ = .ok true := by
  obtain ⟨d, hd⟩ := exists_walk_dropLast hw hne
  refine isDirectory_eq_ok.2 ⟨?_, d, hd⟩
  simp only [hasNull, List.any_eq_false] at hnull ⊢
  exact fun s hs => hnull s ((List.dropLast_sublist parts).subset hs)

/-- A directory is made in one that is there. -/
theorem isDirectory_above_of_makeDirectory (h : fs.makeDirectory ⟨anchor, parts⟩ = .ok fs') :
    parts ≠ [] ∧ fs.isDirectory ⟨anchor, parts.dropLast⟩ = .ok true := by
  rw [makeDirectory] at h
  split at h
  · cases h
  rename_i hnull
  split at h
  · rename_i l hw
    have hne : parts ≠ [] := by
      rintro rfl
      rw [walk] at hw
      split at hw <;> cases hw
    exact ⟨hne, isDirectory_dropLast hne (by simpa using hnull) hw⟩
  · cases h
  · cases h

/-- A directory stands in another one. -/
theorem isDirectory_above (hne : parts ≠ []) (h : fs.isDirectory ⟨anchor, parts⟩ = .ok true) :
    fs.isDirectory ⟨anchor, parts.dropLast⟩ = .ok true := by
  obtain ⟨hnull, l, hl⟩ := isDirectory_eq_ok.1 h
  exact isDirectory_dropLast hne hnull hl

/-- All parts of a way to a directory lead to directories. -/
theorem isDirectory_of_prefix {part : List String} (h : fs.isDirectory ⟨anchor, parts⟩ = .ok true)
    (hpart : part <+: parts) : fs.isDirectory ⟨anchor, part⟩ = .ok true := by
  induction parts using List.reverseRecOn with
  | nil => rwa [List.prefix_nil.1 hpart]
  | append_singleton parts name ih =>
    obtain rfl | hpart := List.prefix_concat_iff.1 hpart
    · exact h
    · have habove := isDirectory_above (by simp) h
      rw [List.dropLast_concat] at habove
      exact ih habove hpart

/-- Above the place where a walk ends at nothing there is a directory. -/
theorem node?_above_of_walk_absent (hw : fs.walk follow budget here names = .ok (.absent l)) :
    fs.node? l.dropLast = some .directory := by
  fun_induction walk fs follow budget here names with
  | case6 | case7 | case13 | case14 => exact ‹_ → _› hw
  | case9 budget here name hn hname hup hlong hnext =>
    cases hw
    rwa [List.dropLast_concat]
  | _ => cases hw

/-! ### Another attempt -/

/-- Where the directory above cannot be made, the one below it cannot be made either. -/
theorem makeAll_of_above_failed {e : Files.Fault} (hne : parts ≠ [])
    (h : fs.makeAll anchor parts.dropLast = (fs, .error e)) : ∃ e', fs.makeAll anchor parts = (fs, .error e') := by
  have habove : fs.isDirectory ⟨anchor, parts.dropLast⟩ ≠ .ok true := by
    intro hd
    have hmade : fs.makeAll anchor parts.dropLast = (fs, .ok ()) := makeDirectories_of_isDirectory hd
    cases h.symm.trans hmade
  rw [makeAll]
  split
  · rename_i made hmade
    exact absurd (isDirectory_above_of_makeDirectory hmade).2 habove
  · rw [if_neg hne, h]
    exact ⟨e, rfl⟩
  · rename_i f _ _
    split
    · rename_i hd
      exact absurd (isDirectory_above hne hd) habove
    · exact ⟨f, rfl⟩
    · rename_i e' _
      exact ⟨e', rfl⟩

/-- A directory that cannot be made in one that is there. -/
theorem makeAll_of_ensureDirectory_failed {e : Files.Fault}
    (habove : fs.isDirectory ⟨anchor, parts.dropLast⟩ = .ok true)
    (h : fs.ensureDirectory ⟨anchor, parts⟩ = .error e) : ∃ e', fs.makeAll anchor parts = (fs, .error e') := by
  have hmade : fs.makeAll anchor parts.dropLast = (fs, .ok ()) := makeDirectories_of_isDirectory habove
  have hnot : fs.isDirectory ⟨anchor, parts⟩ ≠ .ok true := by
    intro hd
    rw [ensureDirectory, makeDirectory_of_isDirectory hd] at h
    simp [hd, bind, Except.bind] at h
  rw [makeAll]
  split
  · rename_i made hmade'
    rw [ensureDirectory, hmade'] at h
    cases h
  · rename_i path _
    split
    · exact ⟨_, rfl⟩
    · rw [hmade]
      simp only [h]
      exact ⟨e, rfl⟩
  · rename_i f _ _
    split
    · rename_i hd
      exact absurd hd hnot
    · exact ⟨f, rfl⟩
    · rename_i e' _
      exact ⟨e', rfl⟩

theorem makeAll_again (fs : FileSystem) (anchor : Anchor) (parts : List String) :
    ((fs.makeAll anchor parts).2 = .ok () →
        (fs.makeAll anchor parts).1.makeAll anchor parts = ((fs.makeAll anchor parts).1, .ok ())) ∧
      ∀ e, (fs.makeAll anchor parts).2 = .error e →
        ∃ e', (fs.makeAll anchor parts).1.makeAll anchor parts = ((fs.makeAll anchor parts).1, .error e') := by
  refine ⟨fun h => makeDirectories_of_isDirectory ((grown_makeAll fs anchor parts).2 h), ?_⟩
  fun_induction makeAll fs anchor parts with
  | case1 | case4 | case6 => exact fun e he => by cases he
  | case2 path h =>
    intro e _
    exact ⟨.refused .notFound path, by rw [makeAll, h]; rfl⟩
  | case3 parts path h hparts above e habove ih =>
    rw [habove] at ih
    intro _ _
    obtain ⟨e', he'⟩ := ih e rfl
    exact makeAll_of_above_failed hparts he'
  | case5 parts path h hparts above habove e he ih =>
    intro _ _
    have hthere := (grown_makeAll fs anchor parts.dropLast).2
    rw [habove] at hthere
    exact makeAll_of_ensureDirectory_failed (hthere rfl) he
  | case7 parts e hother h hdirectory =>
    intro _ _
    refine ⟨e, ?_⟩
    rw [makeAll, h]
    simp only [hdirectory]
  | case8 parts e hother h e' hdirectory =>
    intro _ _
    refine ⟨e', ?_⟩
    rw [makeAll, h]
    simp only [hdirectory]

/-- A second attempt to make a directory succeeds or fails as the first one did, and leaves the files alone. -/
theorem makeDirectories_again (fs : FileSystem) (p : Path) :
    ((fs.makeDirectories p).1.makeDirectories p).1 = (fs.makeDirectories p).1 ∧
      (((fs.makeDirectories p).1.makeDirectories p).2 = .ok () ↔ (fs.makeDirectories p).2 = .ok ()) := by
  obtain ⟨hok, herror⟩ := makeAll_again fs p.anchor p.parts
  simp only [makeDirectories]
  cases hr : (fs.makeAll p.anchor p.parts).2 with
  | ok u => simp [hok hr]
  | error e =>
    obtain ⟨e', he'⟩ := herror e hr
    simp [he']

/-! ### What an attempt makes -/

theorem ensureDirectory_cases (h : fs.ensureDirectory p = .ok fs') : fs.makeDirectory p = .ok fs' ∨ fs' = fs := by
  rw [ensureDirectory] at h
  split at h
  · rename_i hmade
    cases h
    exact .inl hmade
  · obtain ⟨b, -, h⟩ := Except.bind_eq_ok.1 h
    cases b with
    | false => cases h
    | true =>
      cases h
      exact .inr rfl

/-- What is kept whenever a single directory on the way is made is kept by the whole attempt. -/
theorem makeAll_induction {motive : FileSystem → Prop}
    (hmake : ∀ {part fs fs'}, part <+: parts → motive fs → fs.makeDirectory ⟨anchor, part⟩ = .ok fs' → motive fs')
    (h : motive fs) : motive (fs.makeAll anchor parts).1 := by
  fun_induction makeAll fs anchor parts with
  | case1 parts made hmade => exact hmake List.prefix_rfl h hmade
  | case2 | case6 | case7 | case8 => exact h
  | case3 parts path hpath hparts above e habove ih =>
    rw [habove] at ih
    exact ih fun hpart => hmake (hpart.trans (List.dropLast_prefix parts))
  | case4 parts path hpath hparts above habove made hmade ih =>
    rw [habove] at ih
    have hthere : motive above := ih fun hpart => hmake (hpart.trans (List.dropLast_prefix parts))
    obtain hmade | rfl := ensureDirectory_cases hmade
    · exact hmake List.prefix_rfl hthere hmade
    · exact hthere
  | case5 parts path hpath hparts above habove e he ih =>
    rw [habove] at ih
    exact ih fun hpart => hmake (hpart.trans (List.dropLast_prefix parts))

theorem Grown.isFree (h : Grown fs fs') (hl : fs'.IsFree l) : fs.IsFree l := by
  obtain hsame | ⟨hnone, -⟩ := h.node? l
  · rwa [IsFree, ← hsame]
  · exact .inl hnone

/-- A directory that a path or a part of it leads to. -/
def IsOnWay (fs : FileSystem) (p : Path) (l : Location) : Prop :=
  ∃ part, part <+: p.parts ∧ fs.follow ⟨p.anchor, part⟩ = .ok (.found l .directory)

/-- Directories on the way to a path have been made where nothing was. -/
structure Made (fs fs' : FileSystem) (p : Path) : Prop extends Grown fs fs' where
  onWay : ∀ l, fs.node? l = none → fs'.node? l = some .directory → fs'.IsOnWay p l

theorem made_refl (fs : FileSystem) (p : Path) : Made fs fs p where
  toGrown := grown_refl fs
  onWay l hnone hl := by
    rw [hnone] at hl
    cases hl

/-- A directory is made where its path leads. -/
theorem exists_put_of_makeDirectory (h : fs.makeDirectory p = .ok fs') :
    ∃ l, fs' = fs.put l .directory ∧ (l ≠ [] ∧ fs.node? l = none ∧ fs.node? l.dropLast = some .directory) ∧
      fs'.follow p = .ok (.found l .directory) := by
  have hgrown := (grown_makeDirectory h).1
  rw [makeDirectory] at h
  split at h
  · cases h
  split at h
  · rename_i l hw
    cases h
    obtain ⟨hne, hnone⟩ := node?_of_walk_absent hw
    exact ⟨l, rfl, ⟨hne, hnone, node?_above_of_walk_absent hw⟩,
      hgrown.walk_absent hw (by rw [node?_put hne, if_pos rfl])⟩
  · cases h
  · cases h

theorem Made.makeDirectory {part : List String} (h : Made fs fs' p) (hpart : part <+: p.parts) {made : FileSystem}
    (hmade : fs'.makeDirectory ⟨p.anchor, part⟩ = .ok made) : Made fs made p where
  toGrown := h.toGrown.trans (grown_makeDirectory hmade).1
  onWay l hnone hl := by
    have hgrown := (grown_makeDirectory hmade).1
    obtain ⟨m, rfl, ⟨hne, -⟩, hfollow⟩ := exists_put_of_makeDirectory hmade
    rw [node?_put hne] at hl
    by_cases hlm : l = m
    · rw [hlm]
      exact ⟨part, hpart, hfollow⟩
    · rw [if_neg hlm] at hl
      obtain ⟨part', hpart', hfollow'⟩ := h.onWay l hnone hl
      exact ⟨part', hpart', hgrown.follow_found hfollow'⟩

/-- What an attempt to make a directory has made is on the way to it. -/
theorem made_makeDirectories (fs : FileSystem) (p : Path) : Made fs (fs.makeDirectories p).1 p :=
  makeAll_induction (motive := fun made => Made fs made p) (fun hpart h hmade => h.makeDirectory hpart hmade)
    (made_refl fs p)

/-- A path leads to a file with the given bytes, which is new or was a file before.  Besides, nothing but directories on the
way to a directory have been made. -/
structure Puts (fs after : FileSystem) (directory p : Path) (bs : List UInt8) (l : Location) : Prop where
  isFree : fs.IsFree l
  follow : after.follow p = .ok (.found l (.file bs))
  others : ∀ m ≠ l, after.node? m = fs.node? m ∨
    fs.node? m = none ∧ after.node? m = some .directory ∧ after.IsOnWay directory m

/-- A file that is stored where a path leads once the directories on the way have been made. -/
theorem Made.put {made : FileSystem} {q : Path} (h : Made fs made q) (hl : made.place p = .ok l) (bs : List UInt8) :
    Puts fs (made.put l (.file bs)) q p bs l := by
  have hfree := (isFree_of_place hl).1
  have hstored := stored_put hfree bs
  refine ⟨h.toGrown.isFree hfree, hstored.follow_place (by rw [node?_put hfree.ne_nil, if_pos rfl]) hl, ?_⟩
  intro m hm
  rw [node?_put hfree.ne_nil, if_neg hm]
  obtain hsame | ⟨hnone, hdirectory⟩ := h.node? m
  · exact .inl hsame
  · obtain ⟨part, hpart, hfollow⟩ := h.onWay m hnone hdirectory
    exact .inr ⟨hnone, hdirectory, part, hpart, hstored.follow_directory hfollow⟩

/-! ### Directories stand in directories -/

/-- Whatever stands somewhere stands in a directory. -/
def Rooted (fs : FileSystem) : Prop := ∀ l n, fs.node? l = some n → fs.node? l.dropLast = some .directory

theorem WellFormed.rooted (h : fs.WellFormed) : fs.Rooted := by
  intro l n hl
  by_cases hne : l = []
  · rw [hne]
    rfl
  · exact (h.parent _ (mem_of_node? hne hl)).2

theorem Rooted.makeDirectory (hr : fs.Rooted) (h : fs.makeDirectory p = .ok fs') : fs'.Rooted := by
  have hgrown := (grown_makeDirectory h).1
  obtain ⟨m, rfl, ⟨hne, -, habove⟩, -⟩ := exists_put_of_makeDirectory h
  intro l n hl
  rw [node?_put hne] at hl
  by_cases hlm : l = m
  · rw [hlm]
    exact hgrown.node?_of_some habove
  · rw [if_neg hlm] at hl
    exact hgrown.node?_of_some (hr l n hl)

theorem Rooted.makeDirectories (hr : fs.Rooted) (p : Path) : (fs.makeDirectories p).1.Rooted :=
  makeAll_induction (motive := Rooted) (fun _ h hmade => h.makeDirectory hmade) hr

/-- A walk that ends somewhere starts somewhere. -/
theorem exists_node?_of_walk {w : Walk} (hw : fs.walk follow budget here names = .ok w) :
    ∃ n, fs.node? here = some n := by
  cases hn : fs.node? here with
  | some n => exact ⟨n, rfl⟩
  | none => cases names <;> rw [walk, hn] at hw <;> cases hw

/-- Where a walk finds nothing on its way, files that are stored do not make it end anywhere. -/
theorem Stored.walk_ne_ok {ls : List Location} (h : Stored fs fs' ls) (hr : fs.Rooted)
    (hhere : ∃ n, fs.node? here = some n) (hw : fs.walk follow budget here names = .error .notFound) (w : Walk) :
    fs'.walk follow budget here names ≠ .ok w := by
  fun_induction FileSystem.walk fs follow budget here names with
  | case2 _ _ hn | case3 _ _ _ _ hn =>
    obtain ⟨n, hhere⟩ := hhere
    cases hn.symm.trans hhere
  | case6 budget here name rest hn hname ih =>
    rw [walk_same (h.node?_directory hn) hname]
    exact ih hhere hw
  | case7 budget here rest hn hname ih =>
    rw [walk_up (h.node?_directory hn)]
    exact ih ⟨_, hr here _ hn⟩ hw
  | case10 budget here name rest hn hname hup hlong hnext hrest =>
    obtain ⟨next, rest, rfl⟩ := List.exists_cons_of_ne_nil hrest
    obtain hsame | ⟨-, -, bs, hbs⟩ := h.node? (here ++ [name])
    · rw [walk_nothing (h.node?_directory hn) ⟨hname, hup, hlong⟩ (hsame.trans hnext), if_neg hrest]
      simp
    · rw [walk_entry (h.node?_directory hn) ⟨hname, hup, hlong⟩ hbs (by simp), walk_below_file hbs]
      simp
  | case13 here name rest hn hname hup hlong target hlink hend b ih =>
    rw [walk_link (h.node?_directory hn) ⟨hname, hup, hlong⟩ (h.node?_link hlink) hend]
    refine ih ?_ hw
    split
    · exact ⟨_, node?_nil⟩
    · exact hhere
  | case14 budget here name rest hn hname hup hlong n hlink hnext ih =>
    obtain ⟨n', hn', hlink'⟩ := h.exists_entry hnext hlink
    rw [walk_entry (h.node?_directory hn) ⟨hname, hup, hlong⟩ hn' hlink']
    exact ih ⟨n, hnext⟩ hw
  | _ => cases hw

end PromptMarkup.FileSystem
