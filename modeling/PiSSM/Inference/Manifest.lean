import PiSSM.Exceptions
import PiSSM.Lib.Dict

/-!
The model manifest the orchestrator plans a dispatch from, and the registry of
the manifests that have been submitted.
-/

namespace PiSSM.Inference

open PiSSM.Lib

structure ModelManifest where
  name : String
  arch : String
  checkpoint : String
  layers : Nat
  hiddenDim : Nat
  stateDim : Nat
  inputType : String
  tokenizer : String
  deriving DecidableEq

/-- Every manifest is stored under its own name. -/
structure ModelRegistry where
  models : Dict String ModelManifest
  keyed : ∀ name manifest, models.get? name = some manifest → manifest.name = name

namespace ModelRegistry

def create : ModelRegistry where
  models := Dict.empty
  keyed name manifest hget := by simp at hget

def register (registry : ModelRegistry) (manifest : ModelManifest) :
    Except PyException ModelRegistry :=
  if registry.models.contains manifest.name then
    .error (.valueError s!"Model '{manifest.name}' is already registered")
  else
    .ok {
      models := registry.models.set manifest.name manifest
      keyed := by
        intro name other hget
        rw [Dict.get?_set] at hget
        split at hget
        · next hname =>
            obtain rfl := Option.some.inj hget
            exact hname.symm
        · exact registry.keyed name other hget }

def get (registry : ModelRegistry) (name : String) : Option ModelManifest :=
  registry.models.get? name

def listModels (registry : ModelRegistry) : List ModelManifest := registry.models.values

end ModelRegistry

end PiSSM.Inference
