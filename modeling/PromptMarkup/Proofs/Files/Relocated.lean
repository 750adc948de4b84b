import Mathlib.Data.List.Infix
import PromptMarkup.Proofs.Files.Changes
import PromptMarkup.Proofs.Files.Paths
import PromptMarkup.Proofs.Matching

/-!
# A directory at another place

Where there are no links, a path into a directory leads to what its names say: names lead down, and a double dot leads
back up (`resolveFrom_descend`).  So two directories that hold the same, in one file system or in two, answer alike to
the same names below them (`Mirrors`).  A copy of all that stands below a directory is such a directory
(`mirrors_copyTree`).
-/

namespace PromptMarkup.FileSystem

variable {fs fs' : FileSystem} {d d' q r : Location} {names : List String}

/-! ### Names below a directory -/

/-- Names that each lead one step down. -/
def Downward (names : List String) : Prop := ∀ n ∈ names, n ≠ "" ∧ n ≠ "." ∧ n ≠ ".."

instance (names : List String) : Decidable (Downward names) :=
  inferInstanceAs (Decidable (∀ n ∈ names, _ ∧ _ ∧ _))

/-- Where names lead from a place below a directory, both told by the names from there on.  Names that lead out of the
directory lead nowhere, also where later names would lead back. -/
def descend (q : Location) : List String → Option Location
  | [] => some q
  | n :: rest =>
    if n = ".." then if q = [] then none else descend q.dropLast rest
    else descend (q ++ [n]) rest

theorem Downward.dropLast (h : Downward q) : Downward q.dropLast := fun n hn => h n (List.dropLast_subset q hn)

theorem downward_descend (hq : Downward q) (hnames : ∀ n ∈ names, n ≠ "" ∧ n ≠ ".") (h : descend q names = some r) :
    Downward r := by
  induction names generalizing q with
  | nil =>
    cases h
    exact hq
  | cons n rest ih =>
    obtain ⟨hn, hrest⟩ := List.forall_mem_cons.1 hnames
    rw [descend] at h
    by_cases hup : n = ".."
    · rw [if_pos hup] at h
      split at h
      · cases h
      · exact ih hq.dropLast hrest h
    · rw [if_neg hup] at h
      refine ih (fun m hm => ?_) hrest h
      rcases List.mem_append.1 hm with hm | hm
      · exact hq m hm
      · rw [List.mem_singleton.1 hm]
        exact ⟨hn.1, hn.2, hup⟩

/-- Names that lead down do so one by one. -/
theorem descend_append (h : Downward q) (here : Location) (names : List String) :
    descend here (q ++ names) = descend (here ++ q) names := by
  induction q generalizing here with
  | nil => rw [List.nil_append, List.append_nil]
  | cons n q ih =>
    obtain ⟨⟨-, -, hup⟩, hq⟩ := List.forall_mem_cons.1 h
    rw [List.cons_append, descend, if_neg hup, ih hq, List.append_assoc, List.singleton_append]

/-- A directory that its own names lead to, and below which there are no links. -/
structure Linkless (fs : FileSystem) (d : Location) : Prop where
  way : ∀ p, p <+: d → fs.node? p = some .directory
  plain : ∀ n ∈ d, Plain n
  below : ∀ q target, fs.node? (d ++ q) ≠ some (.link target)

namespace Linkless

variable (h : Linkless fs d)
include h

/-- A walk into the directory gets there. -/
theorem walk_into (follow : Bool) (budget : Nat) (names : List String) :
    fs.walk follow budget [] (d ++ names) = fs.walk follow budget d names := by
  have hgoes : ∀ rest here, here ++ rest = d → fs.walk follow budget here (rest ++ names) =
      fs.walk follow budget d names := by
    intro rest
    induction rest with
    | nil =>
      intro here hd
      rw [← hd, List.append_nil, List.nil_append]
    | cons n rest ih =>
      intro here hd
      have hnext : here ++ [n] ++ rest = d := by simpa using hd
      have hplain : Plain n := h.plain n (by simp [← hd])
      rw [List.cons_append, walk_entry (h.way here ⟨_, hd⟩) hplain.isEntry (h.way _ ⟨_, hnext⟩) (by simp)]
      exact ih _ hnext
  exact hgoes d [] rfl

/-- What is resolved into the directory gets there. -/
theorem resolveFrom_into (seen : Seen) (pending : List Pending) :
    fs.resolveFrom seen [] (d.map .name ++ pending) = fs.resolveFrom seen d pending := by
  have hgoes : ∀ rest here, here ++ rest = d → fs.resolveFrom seen here (rest.map .name ++ pending) =
      fs.resolveFrom seen d pending := by
    intro rest
    induction rest with
    | nil =>
      intro here hd
      rw [← hd, List.append_nil, List.map_nil, List.nil_append]
    | cons n rest ih =>
      intro here hd
      have hnext : here ++ [n] ++ rest = d := by simpa using hd
      obtain ⟨hempty, hdot, hup, -⟩ := h.plain n (by simp [← hd])
      have hnode := h.way (here ++ [n]) ⟨_, hnext⟩
      rw [List.map_cons, List.cons_append,
        resolveFrom_name (not_or.2 ⟨hempty, hdot⟩) hup seen _ fun target ht => by simp [hnode] at ht]
      exact ih _ hnext
  exact hgoes d [] rfl

/-- Below the directory a path leads to what its names say. -/
theorem resolveFrom_descend (seen : Seen) (hnames : ∀ n ∈ names, n ≠ "" ∧ n ≠ ".") (hr : descend q names = some r) :
    fs.resolveFrom seen (d ++ q) (names.map .name) = d ++ r := by
  induction names generalizing q with
  | nil =>
    cases hr
    rw [List.map_nil, resolveFrom]
  | cons n rest ih =>
    obtain ⟨hn, hrest⟩ := List.forall_mem_cons.1 hnames
    have hnamed : ¬ (n = "" ∨ n = ".") := not_or.2 hn
    rw [descend] at hr
    by_cases hup : n = ".."
    · rw [if_pos hup] at hr
      split at hr
      · cases hr
      · next hq =>
        rw [List.map_cons, resolveFrom, if_neg hnamed, if_pos hup, List.dropLast_append_of_ne_nil hq]
        exact ih hrest hr
    · rw [if_neg hup] at hr
      have hlink : ∀ target, fs.node? (d ++ q ++ [n]) ≠ some (.link target) := by
        intro target
        rw [List.append_assoc]
        exact h.below (q ++ [n]) target
      rw [List.map_cons, resolveFrom_name hnamed hup seen _ hlink, List.append_assoc]
      exact ih hrest hr

theorem hasNull_append (names : List String) :
    hasNull (Path.absolute (d ++ names)) = hasNull (Path.absolute names) := by
  have hd : d.any (fun s => s.toList.contains (Char.ofNat 0)) = false := by
    rw [List.any_eq_false]
    intro n hn
    simpa using (h.plain n hn).2.2.2.1
  simp only [hasNull, Path.absolute, List.any_append, hd, Bool.false_or]

theorem resolve_append (hnames : ∀ n ∈ names, n ≠ "" ∧ n ≠ ".") (hr : descend [] names = some r) :
    fs.resolve (Path.absolute (d ++ names)) =
      if hasNull (Path.absolute names) then .error (.nullCharacter (some "lstat")) else .ok (d ++ r) := by
  have hfrom : fs.resolveFrom [] [] ((d ++ names).map .name) = d ++ r := by
    rw [List.map_append, h.resolveFrom_into]
    have hdescend := h.resolveFrom_descend (q := []) [] hnames hr
    rwa [List.append_nil] at hdescend
  have hstart : fs.start (Path.absolute (d ++ names)) = [] := rfl
  rw [resolve, h.hasNull_append, hstart]
  show (if hasNull (Path.absolute names) then _ else Except.ok (fs.resolveFrom [] [] ((d ++ names).map .name))) = _
  rw [hfrom]

/-- A relative path in a document below the directory leads to what its names say, unless one holds a null. -/
theorem target {href : String} (hq : Downward q) (hne : q ≠ []) (hhref : (Path.ofString href).anchor = .here)
    (hr : descend q.dropLast (Path.ofString href).parts = some r) :
    fs.view.target href (d ++ q) =
      if hasNull (Path.absolute (q.dropLast ++ (Path.ofString href).parts)) then
        .error (.nullCharacter (some "lstat"))
      else .ok (d ++ r) := by
  have hrelative : (Path.ofString href).isAbsolute = false := by
    rw [Path.isAbsolute, hhref]
    rfl
  have hchild : (Path.absolute (d ++ q).dropLast).child href =
      Path.absolute (d ++ (q.dropLast ++ (Path.ofString href).parts)) := by
    rw [Path.child, Path.append, hrelative, List.dropLast_append_of_ne_nil hne]
    simp [Path.absolute]
  have hnames : ∀ n ∈ q.dropLast ++ (Path.ofString href).parts, n ≠ "" ∧ n ≠ "." := by
    intro n hn
    rcases List.mem_append.1 hn with hn | hn
    · obtain ⟨hempty, hdot, -⟩ := hq.dropLast n hn
      exact ⟨hempty, hdot⟩
    · exact ⟨(Path.isPart_of_mem_partsOf hn).ne_empty, (Path.isPart_of_mem_partsOf hn).ne_dot⟩
  rw [View.target, hchild]
  refine h.resolve_append hnames ?_
  rw [descend_append hq.dropLast, List.nil_append, hr]

end Linkless

/-! ### Directories that hold the same -/

/-- A walk that ends in one directory, taken to the same place in another. -/
def Walk.relocate (d d' : Location) : Walk → Walk
  | found l n => found (d' ++ l.drop d.length) n
  | absent l => absent (d' ++ l.drop d.length)

/-- Two directories without links hold the same. -/
structure Mirrors (fs fs' : FileSystem) (d d' : Location) : Prop where
  left : Linkless fs d
  right : Linkless fs' d'
  node? : ∀ q, fs'.node? (d' ++ q) = fs.node? (d ++ q)
  files : ∀ q, d' ++ q ∈ fs'.files ↔ d ++ q ∈ fs.files
  decoders : fs'.decoders = fs.decoders

namespace Mirrors

variable (h : Mirrors fs fs' d d')
include h

/-- Names that lead down lead to the same in both directories. -/
theorem walk (follow : Bool) (budget : Nat) (hnames : Downward names) (q : Location) :
    fs'.walk follow budget (d' ++ q) names = (fs.walk follow budget (d ++ q) names).map (Walk.relocate d d') := by
  induction names generalizing q with
  | nil =>
    rw [FileSystem.walk, FileSystem.walk, h.node? q]
    cases fs.node? (d ++ q) with
    | none => rfl
    | some n => simp [Except.map, Walk.relocate]
  | cons n rest ih =>
    obtain ⟨⟨hempty, hdot, hup⟩, hrest⟩ := List.forall_mem_cons.1 hnames
    have hnext := h.node? (q ++ [n])
    rw [← List.append_assoc, ← List.append_assoc] at hnext
    cases hn : fs.node? (d ++ q) with
    | none =>
      rw [FileSystem.walk, FileSystem.walk, h.node? q, hn]
      rfl
    | some node =>
      have hn' : fs'.node? (d' ++ q) = some node := by rw [h.node? q, hn]
      cases node with
      | link target => exact absurd hn (h.left.below q target)
      | file bs => rw [walk_below_file hn, walk_below_file hn']; rfl
      | directory =>
        by_cases hlong : maxNameSize < n.utf8ByteSize
        · rw [FileSystem.walk, FileSystem.walk, hn, hn']
          simp only [hempty, hdot, or_self, if_false, hup, if_pos hlong]
          rfl
        · have hentry : IsEntry n := ⟨not_or.2 ⟨hempty, hdot⟩, hup, hlong⟩
          cases hc : fs.node? (d ++ q ++ [n]) with
          | none =>
            rw [walk_nothing hn hentry hc, walk_nothing hn' hentry (hnext.trans hc)]
            split
            · simp [Except.map, Walk.relocate]
            · rfl
          | some node =>
            have hlink : ∀ target, node ≠ .link target := by
              rintro target rfl
              rw [List.append_assoc] at hc
              exact h.left.below (q ++ [n]) target hc
            rw [walk_entry hn hentry hc hlink, walk_entry hn' hentry (hnext.trans hc) hlink, List.append_assoc,
              List.append_assoc]
            exact ih hrest (q ++ [n])

theorem hasNull_eq (q : Location) : hasNull (Path.absolute (d' ++ q)) = hasNull (Path.absolute (d ++ q)) := by
  rw [h.left.hasNull_append, h.right.hasNull_append]

variable (hq : Downward q)
include hq

theorem status : fs'.status (Path.absolute (d' ++ q)) = fs.status (Path.absolute (d ++ q)) := by
  have hwalk := h.walk true maxLinks hq []
  rw [List.append_nil, List.append_nil] at hwalk
  have hfollow : fs.follow (Path.absolute (d ++ q)) = fs.walk true maxLinks d q := h.left.walk_into _ _ _
  have hfollow' : fs'.follow (Path.absolute (d' ++ q)) = fs'.walk true maxLinks d' q := h.right.walk_into _ _ _
  rw [FileSystem.status, FileSystem.status, hfollow, hfollow', hwalk]
  rcases fs.walk true maxLinks d q with e | w
  · rfl
  · cases w <;> rfl

/-- A file stands in both directories or in neither, or a name is too long for both. -/
theorem hasFile : Paired (fun f f' => f.className = f'.className) Eq (fs.hasFile (d ++ q)) (fs'.hasFile (d' ++ q)) := by
  have hfile : Paired (fun f f' => f.className = f'.className) Eq (fs.isFile (Path.absolute (d ++ q)))
      (fs'.isFile (Path.absolute (d' ++ q))) := by
    rw [isFile, isFile, ask, ask, h.hasNull_eq q, h.status hq]
    split
    · exact .ok rfl
    · split
      · exact .ok rfl
      · exact .error rfl
      · exact .ok rfl
  have hcontains : fs.files.contains (d ++ q) = fs'.files.contains (d' ++ q) := by
    rw [Bool.eq_iff_iff, List.contains_iff_mem, List.contains_iff_mem, h.files q]
  refine hfile.bind fun b b' hb => .ok ?_
  rw [hb, hcontains]

/-- A file is read alike in both directories. -/
theorem read : Paired (fun _ _ => True) Eq (fs.read (Path.absolute (d ++ q))) (fs'.read (Path.absolute (d' ++ q))) := by
  rw [FileSystem.read, FileSystem.read, h.hasNull_eq q, h.status hq]
  split
  · exact .error trivial
  · split
    · exact .ok rfl
    · exact .error trivial
    · exact .error trivial
    · exact .error trivial

end Mirrors

/-! ### Copies -/

/-- The directories that are missing on the way to a location, with the location itself. -/
def missing (fs : FileSystem) (l : Location) : List Location := l.inits.filter fun p => (fs.node? p).isNone

/-- A node below a directory at the same place below another one. -/
def relocated (d d' : Location) (e : Location × Node) : Option (Location × Node) :=
  if d.isPrefixOf e.1 ∧ e.1 ≠ d then some (d' ++ e.1.drop d.length, e.2) else none

/-- The file system with a copy of all that stands below a directory.  The directories on the way to the copy are made
if they are missing. -/
def copyTree (fs : FileSystem) (d d' : Location) : FileSystem :=
  { fs with nodes := fs.nodes ++ (fs.missing d').map (·, .directory) ++ fs.nodes.filterMap (relocated d d') }

/-- A place for a directory: nothing is there, the names are such that a directory can hold, and on the way there are
directories or nothing. -/
structure Vacant (fs : FileSystem) (d : Location) : Prop where
  absent : fs.node? d = none
  plain : ∀ n ∈ d, Plain n
  way : ∀ p, p <+: d → fs.node? p = none ∨ fs.node? p = some .directory

theorem mem_missing {l p : Location} : p ∈ fs.missing l ↔ p <+: l ∧ fs.node? p = none := by
  rw [missing, List.mem_filter, List.mem_inits, Option.isNone_iff_eq_none]

theorem relocated_eq_some {e e' : Location × Node} :
    relocated d d' e = some e' ↔ ∃ q, q ≠ [] ∧ e.1 = d ++ q ∧ e' = (d' ++ q, e.2) := by
  rw [relocated]
  constructor
  · intro h
    split at h
    · next hd =>
      obtain ⟨q, hq⟩ := List.isPrefixOf_iff_prefix.1 hd.1
      refine ⟨q, ?_, hq.symm, ?_⟩
      · rintro rfl
        exact hd.2 (by simpa using hq.symm)
      · cases h
        rw [← hq, List.drop_left]
    · cases h
  · rintro ⟨q, hne, hq, rfl⟩
    have hd : d.isPrefixOf e.1 ∧ e.1 ≠ d := by
      refine ⟨List.isPrefixOf_iff_prefix.2 ⟨q, hq.symm⟩, ?_⟩
      rw [hq]
      simpa using hne
    rw [if_pos hd, hq, List.drop_left]

section

variable {l : Location} {n : Node}

/-- What stands at a location after the copy: what stood there, a directory that was missing, or something copied. -/
theorem node?_copyTree (hl : l ≠ []) :
    (fs.copyTree d d').node? l =
      ((fs.node? l).or (((fs.missing d').map (·, Node.directory)).find? (·.1 == l) |>.map (·.2))).or
        ((fs.nodes.filterMap (relocated d d')).find? (·.1 == l) |>.map (·.2)) := by
  simp only [node?, if_neg hl, copyTree, List.find?_append, Option.map_or]

theorem node?_copyTree_of_some (hl : fs.node? l = some n) : (fs.copyTree d d').node? l = some n := by
  by_cases hne : l = []
  · subst hne
    exact hl
  · rw [node?_copyTree hne, hl, Option.some_or, Option.some_or]

/-- What stands below the copied directory is found at the same place below the copy. -/
theorem find?_relocated (hq : q ≠ []) :
    ((fs.nodes.filterMap (relocated d d')).find? (·.1 == d' ++ q) |>.map (·.2)) = fs.node? (d ++ q) := by
  have hpred : (fun e => (relocated d d' e).any (·.1 == d' ++ q)) = fun e => e.1 == d ++ q := by
    funext e
    rw [Bool.eq_iff_iff, Option.any_eq_true]
    simp only [beq_iff_eq]
    constructor
    · rintro ⟨e', he', heq⟩
      obtain ⟨q', -, hq', rfl⟩ := relocated_eq_some.1 he'
      rw [hq', List.append_cancel_left heq]
    · intro he
      exact ⟨_, relocated_eq_some.2 ⟨q, hq, he, rfl⟩, rfl⟩
  have hne : d ++ q ≠ [] := by simp [hq]
  rw [List.find?_filterMap, hpred, node?, if_neg hne]
  cases hfind : fs.nodes.find? fun e => e.1 == d ++ q with
  | none => rfl
  | some e =>
    have he : e.1 = d ++ q := by simpa using List.find?_some hfind
    simp only [Option.bind_some, relocated_eq_some.2 ⟨q, hq, he, rfl⟩, Option.map_some]

theorem find?_relocated_eq_none (hl : ∀ q, q ≠ [] → l ≠ d' ++ q) :
    (fs.nodes.filterMap (relocated d d')).find? (·.1 == l) = none := by
  rw [List.find?_eq_none]
  intro e he heq
  obtain ⟨e', -, he'⟩ := List.mem_filterMap.1 he
  obtain ⟨q, hq, -, rfl⟩ := relocated_eq_some.1 he'
  exact hl q hq (beq_iff_eq.1 heq).symm

theorem find?_missing (hl : l ∈ fs.missing d') :
    ((fs.missing d').map (·, Node.directory)).find? (·.1 == l) = some (l, .directory) := by
  cases hfind : ((fs.missing d').map (·, Node.directory)).find? (·.1 == l) with
  | none => exact absurd (List.find?_eq_none.1 hfind _ (List.mem_map_of_mem hl)) (by simp)
  | some e =>
    obtain ⟨p, -, rfl⟩ := List.mem_map.1 (List.mem_of_find?_eq_some hfind)
    obtain rfl : p = l := by simpa using List.find?_some hfind
    rfl

theorem find?_missing_eq_none (hl : ¬ l <+: d') :
    ((fs.missing d').map (·, Node.directory)).find? (·.1 == l) = none := by
  rw [List.find?_eq_none]
  intro e he heq
  obtain ⟨p, hp, rfl⟩ := List.mem_map.1 he
  obtain rfl : p = l := by simpa using heq
  exact hl (mem_missing.1 hp).1

end

section

variable (hd' : fs.Vacant d')
include hd'

/-- The way to the copy leads through directories. -/
theorem node?_copyTree_of_prefix {p : Location} (hp : p <+: d') : (fs.copyTree d d').node? p = some .directory := by
  rcases hd'.way p hp with hnone | hdirectory
  · have hne : p ≠ [] := by
      rintro rfl
      cases hnone
    rw [node?_copyTree hne, hnone, find?_missing (mem_missing.2 ⟨hp, hnone⟩)]
    rfl
  · exact node?_copyTree_of_some hdirectory

variable (hfs : fs.WellFormed)
include hfs

/-- Nothing stands below a vacant place. -/
theorem Vacant.node?_append (q : Location) : fs.node? (d' ++ q) = none := by
  cases hn : fs.node? (d' ++ q) with
  | none => rfl
  | some n =>
    have hne : d' ≠ [] := by
      rintro rfl
      cases hd'.absent
    have hmem : (d' ++ q, n) ∈ fs.nodes := mem_of_node? (by simp [hne]) hn
    by_cases hq : q = []
    · rw [hq, List.append_nil, hd'.absent] at hn
      cases hn
    · have hdirectory := hfs.node?_of_prefix hmem (List.prefix_append d' q) (by simpa using hq)
      cases hd'.absent.symm.trans hdirectory

/-- Below the copy stands what stands below the copied directory. -/
theorem node?_copyTree_append (hd : fs.node? d = some .directory) (q : Location) :
    (fs.copyTree d d').node? (d' ++ q) = fs.node? (d ++ q) := by
  by_cases hq : q = []
  · rw [hq, List.append_nil, List.append_nil, hd, node?_copyTree_of_prefix hd' (List.prefix_refl d')]
  · have hmissing : ¬ d' ++ q <+: d' := by
      intro hp
      have hlength := hp.length_le
      rw [List.length_append] at hlength
      have hpos := List.length_pos_iff.2 hq
      omega
    rw [node?_copyTree (by simp [hq]), hd'.node?_append hfs q, find?_missing_eq_none hmissing, find?_relocated hq]
    rfl

end

section

variable (hd : fs.Linkless d) (hd' : fs.Vacant d') (hout : ¬ d <+: d')
include hd hd' hout

/-- The copy is apart from what has been copied. -/
theorem Linkless.append_ne (q r : Location) : d ++ q ≠ d' ++ r := by
  intro heq
  have hprefix : d <+: d' ++ r := ⟨q, heq⟩
  rcases List.prefix_or_prefix_of_prefix hprefix (List.prefix_append d' r) with hp | hp
  · exact hout hp
  · cases hd'.absent.symm.trans (hd.way d' hp)

theorem node?_copyTree_left (q : Location) : (fs.copyTree d d').node? (d ++ q) = fs.node? (d ++ q) := by
  cases hn : fs.node? (d ++ q) with
  | some n => exact node?_copyTree_of_some hn
  | none =>
    have hne : d ++ q ≠ [] := by
      intro hnil
      rw [hnil] at hn
      cases hn
    have hmissing : ¬ d ++ q <+: d' := fun hp => hout ((List.prefix_append d q).trans hp)
    rw [node?_copyTree hne, hn, find?_missing_eq_none hmissing,
      find?_relocated_eq_none fun r _ => hd.append_ne hd' hout q r]
    rfl

end

/-- A file after the copy stood there before, or has been copied. -/
theorem mem_files_copyTree {l : Location} :
    l ∈ (fs.copyTree d d').files ↔ l ∈ fs.files ∨ ∃ q, q ≠ [] ∧ l = d' ++ q ∧ d ++ q ∈ fs.files := by
  simp only [mem_files_iff, copyTree, List.mem_append, exists_or]
  have hmissing : ¬ ∃ bs, (l, Node.file bs) ∈ (fs.missing d').map (·, Node.directory) := by
    rintro ⟨bs, hm⟩
    obtain ⟨p, -, hp⟩ := List.mem_map.1 hm
    cases hp
  have hrelocated : (∃ bs, (l, Node.file bs) ∈ fs.nodes.filterMap (relocated d d')) ↔
      ∃ q, q ≠ [] ∧ l = d' ++ q ∧ ∃ bs, (d ++ q, Node.file bs) ∈ fs.nodes := by
    constructor
    · rintro ⟨bs, hm⟩
      obtain ⟨⟨k, n⟩, he, hr⟩ := List.mem_filterMap.1 hm
      obtain ⟨q, hq, rfl, heq⟩ := relocated_eq_some.1 hr
      cases heq
      exact ⟨q, hq, rfl, bs, he⟩
    · rintro ⟨q, hq, rfl, bs, hm⟩
      exact ⟨bs, List.mem_filterMap.2 ⟨_, hm, relocated_eq_some.2 ⟨q, hq, rfl, rfl⟩⟩⟩
  simp only [hmissing, or_false, hrelocated]

section

variable (hd : fs.Linkless d) (hd' : fs.Vacant d')
include hd hd'

/-- A copy holds the same as the directory that has been copied. -/
theorem mirrors_copyTree (hfs : fs.WellFormed) : Mirrors fs (fs.copyTree d d') d d' := by
  have hdirectory := hd.way d (List.prefix_refl d)
  have hnode := node?_copyTree_append hd' hfs hdirectory
  refine ⟨hd, ⟨fun p hp => node?_copyTree_of_prefix hd' hp, hd'.plain, fun q target => ?_⟩, hnode, fun q => ?_, rfl⟩
  · rw [hnode]
    exact hd.below q target
  · rw [mem_files_copyTree]
    constructor
    · rintro (hfile | ⟨r, -, heq, hfile⟩)
      · obtain ⟨bs, hm⟩ := mem_files_iff.1 hfile
        cases (hd'.node?_append hfs q).symm.trans (hfs.node?_of_mem hm)
      · rwa [List.append_cancel_left heq]
    · intro hfile
      refine .inr ⟨q, ?_, rfl, hfile⟩
      rintro rfl
      obtain ⟨bs, hm⟩ := mem_files_iff.1 hfile
      rw [List.append_nil] at hm
      cases hdirectory.symm.trans (hfs.node?_of_mem hm)

/-- The directory holds the same after it has been copied. -/
theorem mirrors_copyTree_left (hout : ¬ d <+: d') : Mirrors fs (fs.copyTree d d') d d := by
  have hnode := node?_copyTree_left hd hd' hout
  refine ⟨hd, ⟨fun p hp => node?_copyTree_of_some (hd.way p hp), hd.plain, fun q target => ?_⟩, hnode, fun q => ?_, rfl⟩
  · rw [hnode]
    exact hd.below q target
  · rw [mem_files_copyTree]
    refine or_iff_left ?_
    rintro ⟨r, -, heq, -⟩
    exact hd.append_ne hd' hout q r heq

end

/-- In a well-formed file system the way to a directory leads through directories. -/
theorem WellFormed.linkless (h : fs.WellFormed) (hd : fs.node? d = some .directory)
    (hbelow : ∀ q target, fs.node? (d ++ q) ≠ some (.link target)) : fs.Linkless d := by
  by_cases hne : d = []
  · subst hne
    refine ⟨fun p hp => ?_, fun n hn => (List.not_mem_nil hn).elim, hbelow⟩
    rw [List.prefix_nil.1 hp, node?_nil]
  · have hmem := mem_of_node? hne hd
    refine ⟨fun p hp => ?_, fun n hn => (h.plain _ hmem n hn).1, hbelow⟩
    by_cases hpd : p = d
    · rw [hpd, hd]
    · exact h.node?_of_prefix hmem hp hpd

/-- What holds the same as a directory holds the same as whatever that one holds the same as. -/
theorem Mirrors.trans {g : FileSystem} {k : Location} (h : Mirrors fs fs' d d') (h' : Mirrors fs g d k) :
    Mirrors g fs' k d' where
  left := h'.right
  right := h.right
  node? q := (h.node? q).trans (h'.node? q).symm
  files q := (h.files q).trans (h'.files q).symm
  decoders := h.decoders.trans h'.decoders.symm

end PromptMarkup.FileSystem
