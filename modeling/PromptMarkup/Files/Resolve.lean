import PromptMarkup.Files.System

/-!
# Resolved paths

The location that a path names once its links are replaced by their targets.  Parts that do not exist are kept as they
are, and a double dot drops the part before it, whatever that is.  A link met again while its own target is
being resolved is a loop and is kept as a part like any other.
-/

namespace PromptMarkup.FileSystem

/-- What is still to be done: a name to go on with, or a link whose target has been reached. -/
inductive Pending where
  | name (s : String)
  | reached (link : Location)
  deriving DecidableEq, Repr

/-- The links that have been met, with their resolved targets once these are known. -/
abbrev Seen := List (Location × Option Location)

/-- The links that have not been met. -/
def unseen (fs : FileSystem) (seen : Seen) : List Location :=
  fs.links.filter fun l => !(seen.map (·.1)).contains l

theorem mem_links {fs : FileSystem} {l : Location} {t : String} (h : fs.node? l = some (.link t)) :
    l ∈ fs.links := by
  unfold node? at h
  split at h
  · cases h
  · obtain ⟨e, he, hn⟩ := Option.map_eq_some_iff.1 h
    have hm := List.mem_of_find?_eq_some he
    have hp : e.1 = l := by simpa using List.find?_some he
    subst hp
    exact List.mem_filterMap.2 ⟨e, hm, by simp [hn]⟩

theorem unseen_cons_lt {fs : FileSystem} {seen : Seen} {l : Location} {x : Option Location}
    (h : l ∈ fs.links) (hs : ¬ (seen.map (·.1)).contains l = true) :
    (fs.unseen ((l, x) :: seen)).length < (fs.unseen seen).length := by
  have hsub : (fs.unseen ((l, x) :: seen)) = (fs.unseen seen).filter (fun m => m != l) := by
    unfold unseen
    rw [List.filter_filter]
    apply List.filter_congr
    intro m _
    by_cases hm : m = l <;> simp [hm, bne]
  have hmem : l ∈ fs.unseen seen := by
    unfold unseen
    exact List.mem_filter.2 ⟨h, by simpa using hs⟩
  rw [hsub]
  exact List.length_filter_lt_length_iff_exists.2 ⟨l, hmem, by simp⟩

theorem unseen_cons_le (fs : FileSystem) (seen : Seen) (l : Location) (x : Option Location) :
    (fs.unseen ((l, x) :: seen)).length ≤ (fs.unseen seen).length := by
  unfold unseen
  rw [← List.countP_eq_length_filter, ← List.countP_eq_length_filter]
  refine List.countP_mono_left fun m _ => ?_
  simp

/-- Resolves what is pending from a location on. -/
def resolveFrom (fs : FileSystem) (seen : Seen) (here : Location) (pending : List Pending) :
    Location :=
  match pending with
  | [] => here
  | .reached link :: rest => resolveFrom fs ((link, some here) :: seen) here rest
  | .name s :: rest =>
    if s = "" ∨ s = "." then resolveFrom fs seen here rest
    else if s = ".." then resolveFrom fs seen here.dropLast rest
    else
      let next := here ++ [s]
      match h : fs.node? next with
      | some (.link target) =>
        if hs : (seen.map (·.1)).contains next then
          resolveFrom fs seen (((seen.lookup next).join).getD next) rest
        else
          resolveFrom fs ((next, none) :: seen) (if startsAtTop target then [] else here)
            ((Text.parts '/' target).map .name ++ .reached next :: rest)
      | _ => resolveFrom fs seen next rest
  termination_by ((fs.unseen seen).length, pending.length)
  decreasing_by
    · rcases Nat.lt_or_eq_of_le (unseen_cons_le fs seen link (some here))
        with h | h
      · exact Prod.Lex.left _ _ h
      · rw [h]; exact Prod.Lex.right _ (by simp)
    · exact Prod.Lex.right _ (by simp)
    · exact Prod.Lex.right _ (by simp)
    · exact Prod.Lex.right _ (by simp)
    · exact Prod.Lex.left _ _ (unseen_cons_lt (mem_links h) hs)
    · exact Prod.Lex.right _ (by simp)

/-- The location that a path names. -/
def resolve (fs : FileSystem) (p : Path) : Except Files.Fault Location :=
  if hasNull p then .error (.nullCharacter (some "lstat"))
  else .ok (fs.resolveFrom [] (fs.start p) (p.parts.map .name))

/-- The locations of the files. -/
def files (fs : FileSystem) : List Location :=
  fs.nodes.filterMap fun e =>
    match e.2 with
    | .file _ => some e.1
    | _ => none

/-- Whether a file stands at a resolved location. -/
def hasFile (fs : FileSystem) (l : Location) : Except Files.Fault Bool := do
  return (← fs.isFile (Path.absolute l)) && fs.files.contains l

theorem mem_files_of_hasFile {fs : FileSystem} {l : Location} (h : fs.hasFile l = .ok true) :
    l ∈ fs.files := by
  unfold hasFile at h
  cases hf : fs.isFile (Path.absolute l) with
  | error e => rw [hf] at h; simp [bind, Except.bind] at h
  | ok b =>
    rw [hf] at h
    simp only [bind, Except.bind, pure, Except.pure, Except.ok.injEq, Bool.and_eq_true] at h
    simpa using h.2

end PromptMarkup.FileSystem
