import PiSSM.Inference.Manifest
import PiSSM.Inference.Weights

/-!
`ModelStore`: the metadata of one checkpoint on the orchestrator, from which the tensors
of a shard are named. It holds no weights.
-/

namespace PiSSM.Orchestrator

open PiSSM.Lib PiSSM.Inference

/-- The keys of `_ARCH_TO_SHARD_CLASS`. -/
def archToShardClass : List String := ["mamba"]

/-- The text of the `NotImplementedError`, which is a `RuntimeError`. -/
def unsupportedArch (arch : String) : PyException :=
  .runtimeError (s!"Architecture '{arch}' is not supported. Supported: [" ++
    ", ".intercalate (archToShardClass.map fun key => s!"'{key}'") ++ "]")

structure ModelStore where
  metadata : Option (Dict String String)
  configJson : Option String

namespace ModelStore

def create : ModelStore where
  metadata := none
  configJson := none

/-- `load`, with the text `AutoConfig` gives for the checkpoint's configuration. The
metadata stay when the configuration cannot be read. -/
def load {ω : Type} (store : ModelStore) (hub : ModelHub ω)
    (autoConfig : String → Except PyException String) (manifest : ModelManifest) :
    ModelStore × Except PyException Unit :=
  match readCheckpointMetadata hub manifest.checkpoint with
  | .error err => (store, .error err)
  | .ok weightMap =>
      match autoConfig manifest.checkpoint with
      | .error err => ({ store with metadata := some weightMap }, .error err)
      | .ok configJson => (⟨some weightMap, some configJson⟩, .ok ())

/-- `extract_shard`; a configuration that was never read goes out as no bytes. -/
def extractShard (store : ModelStore) (arch : String) (layerStart layerEnd : Nat)
    (isFirst isLast : Bool) : Except PyException (List TensorLocationSpec × String) :=
  match store.metadata with
  | none => .error (.runtimeError "No checkpoint metadata loaded. Call load() first.")
  | some weightMap =>
      if arch ∈ archToShardClass then do
        let locations ← tensorLocationsForRange weightMap layerStart layerEnd isFirst isLast
        return (locations, store.configJson.getD "")
      else .error (unsupportedArch arch)

def unload (_ : ModelStore) : ModelStore where
  metadata := none
  configJson := none

theorem load_ok {ω : Type} {store loaded : ModelStore} {hub : ModelHub ω}
    {autoConfig : String → Except PyException String} {manifest : ModelManifest}
    (hload : store.load hub autoConfig manifest = (loaded, .ok ())) :
    ∃ weightMap configJson,
      readCheckpointMetadata hub manifest.checkpoint = .ok weightMap ∧
      autoConfig manifest.checkpoint = .ok configJson ∧
      loaded = ⟨some weightMap, some configJson⟩ := by
  unfold load at hload
  split at hload
  · cases hload
  · next weightMap hmetadata =>
      split at hload
      · cases hload
      · next configJson hconfig =>
          obtain ⟨rfl, -⟩ := Prod.mk.inj hload
          exact ⟨weightMap, configJson, hmetadata, hconfig, rfl⟩

end ModelStore

end PiSSM.Orchestrator
