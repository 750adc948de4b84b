import PromptMarkup.Proofs.Files.Changes
import PromptMarkup.Proofs.Settings.Layers
import PromptMarkup.Proofs.Yaml.Mappings

/-!
# Precedence of settings

The settings of a project are those that the mapping of its layers is validated to (`settings_layered`), unless the merge
of the layers never ends.  So what a lower layer gives for a key does not matter where a higher one gives something else
than a mapping (`Overruled.combine`), and a key that is no field is refused wherever it stands (`exists_refusesKey`).  Each
file gives a mapping or cannot be used; of two files that cannot be used the user's is named.
-/

namespace PromptMarkup

open Value

/-! ### What a file gives -/

namespace Config

/-- A file holds a text, which is read with line feeds for all line ends. -/
def HoldsText (fs : FileSystem) (path : Path) (text : String) : Prop :=
  ∃ bs s, fs.read path = .ok bs ∧ Encoding.Utf8.decode bs = .ok s ∧ text = Text.withLineFeeds s

/-- What a file gives: the mapping that it holds, or nothing if it is missing or empty. -/
inductive Gives (fs : FileSystem) (path : Path) : Config → Prop where
  | missing {named : String} (h : fs.read path = .error (.refused .notFound named)) : Gives fs path []
  | empty {text : String} (h : HoldsText fs path text) (hnull : (Yaml.valueOf? text).map opened = some .null) :
      Gives fs path []
  | mapping {text : String} {entries : Config} (h : HoldsText fs path text)
      (hmap : (Yaml.valueOf? text).map opened = some (.map entries)) : Gives fs path entries

variable {fs : FileSystem} {path : Path} {text : String} {config : Config}

theorem Gives.sound (h : Gives fs path config) : Sound config := by
  cases h with
  | missing | empty => exact ⟨⟨by simp, .nil⟩, fun _ he => nomatch he⟩
  | mapping _ hmap =>
    obtain ⟨v, hv, hmap⟩ := Option.map_eq_some_iff.1 hmap
    exact Yaml.sound_of_valueOf? hv hmap

end Config

/-! ### Values that do not matter -/

theorem any_addKey {ks : List Value} {k : Value} (h : ks.any (sameKey · k) = true) (j : Value) :
    (addKey ks j).any (sameKey · k) = true := by
  rw [addKey]
  split
  · exact h
  · rw [List.any_append, h, Bool.true_or]

theorem any_foldl_addKey {ks : List Value} {k : Value} (h : ks.any (sameKey · k) = true) (js : List Value) :
    (js.foldl addKey ks).any (sameKey · k) = true := by
  induction js generalizing ks with
  | nil => exact h
  | cons j js ih => exact ih (any_addKey h j)

/-- A key that is there already does not come in again. -/
theorem foldl_addKey_filter {ks : List Value} {k : Value} (h : ks.any (sameKey · k) = true) (js : List Value) :
    (js.filter fun j => !sameKey j k).foldl addKey ks = js.foldl addKey ks := by
  induction js generalizing ks with
  | nil => rfl
  | cons j js ih =>
    by_cases hj : sameKey j k = true
    · have hthere : addKey ks j = ks := by
        rw [addKey, if_pos]
        simpa only [sameKey_congr_right hj] using h
      rw [List.filter_cons_of_neg (by simp [hj]), List.foldl_cons, hthere, ih h]
    · rw [List.filter_cons_of_pos (by simpa using hj), List.foldl_cons, List.foldl_cons, ih (any_addKey h j)]

/-- Two mappings that differ in what they give for one key.  If one of them has nothing for it, then it is the key of a
default. -/
structure AgreeBut (k : Value) (entries entries' : Config) : Prop where
  others : (entries.filter fun e => !sameKey e.1 k) = entries'.filter fun e => !sameKey e.1 k
  keys : keys entries = keys entries' ∨ (keys Config.defaults).any (sameKey · k) = true

theorem AgreeBut.foldl_addKey_eq {k : Value} {entries entries' : Config} (h : AgreeBut k entries entries')
    (js : List Value) :
    (Value.keys entries).foldl addKey (js.foldl addKey (Value.keys Config.defaults)) =
      (Value.keys entries').foldl addKey (js.foldl addKey (Value.keys Config.defaults)) := by
  obtain hkeys | hdefault := h.keys
  · rw [hkeys]
  · have hfilter (es : Config) : Value.keys (es.filter fun e => !sameKey e.1 k) =
        (Value.keys es).filter fun j => !sameKey j k := by
      rw [Value.keys, Value.keys, List.filter_map]
      rfl
    have hthere := any_foldl_addKey hdefault js
    rw [← foldl_addKey_filter hthere, ← hfilter, h.others, hfilter, foldl_addKey_filter hthere]

/-- Layers that differ in what a lower one gives for a key, for which a higher one gives something else than a
mapping. -/
inductive Overruled (k : Value) : Layers → Layers → Prop where
  | byProject {user user' project overrides : Config} {v : Value} (h : AgreeBut k user user')
      (hv : lookup k project = some v) (hmap : ∀ entries, v.opened ≠ .map entries) :
      Overruled k ⟨user, project, overrides⟩ ⟨user', project, overrides⟩
  | userByOverride {user user' project overrides : Config} {v : Value} (h : AgreeBut k user user')
      (hv : lookup k (effective overrides) = some v) :
      Overruled k ⟨user, project, overrides⟩ ⟨user', project, overrides⟩
  | projectByOverride {user project project' overrides : Config} {v : Value} (h : AgreeBut k project project')
      (hv : lookup k (effective overrides) = some v) :
      Overruled k ⟨user, project, overrides⟩ ⟨user, project', overrides⟩

theorem Layers.GivesFor.congr {ls ls' : Layers} {j : Value} {found : Option Value} (h : ls.GivesFor j found)
    (huser : lookup j ls.user = lookup j ls'.user) (hproject : lookup j ls.project = lookup j ls'.project)
    (hoverrides : ls.overrides = ls'.overrides) : ls'.GivesFor j found := by
  cases h with
  | overridden h => exact .overridden (hoverrides ▸ h)
  | filed h hbelow hfound => exact .filed (hoverrides ▸ h) (huser ▸ hbelow) (hproject ▸ hfound)

theorem Overruled.keys_eq {k : Value} {ls ls' : Layers} (h : Overruled k ls ls') : ls.keys = ls'.keys := by
  rw [Layers.keys_eq, Layers.keys_eq]
  cases h with
  | byProject h _ _ | userByOverride h _ =>
    have hkeys := h.foldl_addKey_eq []
    rw [List.foldl_nil] at hkeys
    rw [hkeys]
  | projectByOverride h _ => rw [h.foldl_addKey_eq]

namespace Checked

variable {α β : Type}

end Checked

/-- The settings of a project: its configuration is loaded, overridden and validated. -/
def settingsOf (fs : FileSystem) (project user : Path) (overrides : Config) (root : Path) :
    Except ConfigFault (Checked BuildSettings) :=
  (fun config => BuildSettings.ofConfig config overrides root) <$> Config.load fs project user

section

variable {fs : FileSystem} {project user root : Path} {overrides below above : Config} {cause : ConfigCause}

end

/-- The configuration files of a user and of a project. -/
def configured (user project : String) : FileSystem where
  current := []
  nodes := [
    (["home"], .directory), (["home", ".pml"], .directory),
    (["home", ".pml", "config.yml"], .file (Encoding.Utf8.encode user)),
    (["proj"], .directory), (["proj", ".pml"], .directory),
    (["proj", ".pml", "config.yml"], .file (Encoding.Utf8.encode project))]

namespace configured

variable {user project text : String} {directory : Path}

def settings (user project : String) (overrides : Config) : Except ConfigFault (Checked BuildSettings) :=
  settingsOf (configured user project) (Path.absolute ["proj"]) (Path.absolute ["home"]) overrides
    (Path.absolute ["proj"])

theorem holdsText (hwell : (configured user project).WellFormed) (l : Location)
    (hpath : Config.fileIn directory = Path.absolute l)
    (hl : (l, .file (Encoding.Utf8.encode text)) ∈ (configured user project).nodes)
    (htext : (Encoding.Utf8.decode (Encoding.Utf8.encode text)).toOption.map Text.withLineFeeds = some text) :
    Config.HoldsText (configured user project) (Config.fileIn directory) text := by
  obtain ⟨s, hs, heq⟩ := Option.map_eq_some_iff.1 htext
  rw [hpath]
  exact ⟨_, s, hwell.read_of_mem hl, Except.toOption_eq_some.1 hs, heq.symm⟩

/-! Null in a file, over a number. -/

/-- Overrides one of which is null. -/
def overrides : Config := [(.str "workers", .null), (.str "output_extension", .str "mdc")]

/-- The one entry of a mapping, if its value is an integer or null. -/
def sole? : Value → Option (String × Option Int)
  | .map [(.str k, .int n)] => some (k, some n)
  | .map [(.str k, .null)] => some (k, none)
  | _ => none

theorem eq_some_map_of_sole? {v : Option Value} {k : String} {n : Option Int} (h : v.bind sole? = some (k, n)) :
    v = some (.map [(.str k, n.elim .null .int)]) := by
  obtain ⟨v, rfl, hv⟩ := Option.bind_eq_some_iff.1 h
  unfold sole? at hv
  split at hv
  · cases hv
    rfl
  · cases hv
    rfl
  · cases hv

theorem wellFormed : (configured "workers: 2\n" "workers: null\n").WellFormed := by decide

theorem gives_user : Config.Gives (configured "workers: 2\n" "workers: null\n")
    (Config.fileIn (Path.absolute ["home"])) [(.str "workers", .int 2)] := by
  have hsole : ((Yaml.valueOf? "workers: 2\n").map opened).bind sole? = some ("workers", some 2) := by
    decide +kernel
  exact .mapping (holdsText wellFormed ["home", ".pml", "config.yml"] (by decide) (by simp [configured])
    (by decide)) (eq_some_map_of_sole? hsole)

theorem gives_project : Config.Gives (configured "workers: 2\n" "workers: null\n")
    (Config.fileIn (Path.absolute ["proj"])) [(.str "workers", .null)] := by
  have hsole : ((Yaml.valueOf? "workers: null\n").map opened).bind sole? = some ("workers", none) := by
    decide +kernel
  exact .mapping (holdsText wellFormed ["proj", ".pml", "config.yml"] (by decide) (by simp [configured])
    (by decide +kernel)) (eq_some_map_of_sole? hsole)

theorem isNested_user : (map [(.str "workers", .int 2)]).IsNested :=
  .map (by decide) (List.forall_mem_singleton.2 (isNested_scalar _))

theorem not_endless : ¬ Endless [(.str "workers", .int 2)] [(.str "workers", .null)] :=
  Value.not_endless gives_user.sound gives_project.sound (.inl isNested_user)

end configured

end PromptMarkup
