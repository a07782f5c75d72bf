import PiSSM.Exceptions
import PiSSM.Inference.ShardParameters

/-!
Checkpoint metadata and file resolution. A checkpoint is named by a local directory or
by a repository of the model hub; the hub, the file system and the safetensors reader
are given.
-/

namespace PiSSM.Inference

open PiSSM.Lib

/-- The hub client and the file system, as far as checkpoints are read from them. -/
structure ModelHub (ω : Type) where
  isDir : String → Bool
  localMetadata : String → Except PyException (Dict String String)
  repoMetadata : String → Except PyException (Dict String String)
  joinPath : String → String → String
  hubDownload : String → String → Except PyException String
  safeOpen : String → Except PyException (SafetensorsFile ω)

variable {ω : Type}

/-- The weight map of a checkpoint. -/
def readCheckpointMetadata (hub : ModelHub ω) (checkpoint : String) :
    Except PyException (Dict String String) :=
  if hub.isDir checkpoint then hub.localMetadata checkpoint
  else hub.repoMetadata checkpoint

/-- The local path of a checkpoint's file. -/
def ModelHub.fetchSourceFile (hub : ModelHub ω) (checkpoint filename : String) :
    Except PyException String :=
  if hub.isDir checkpoint then .ok (hub.joinPath checkpoint filename)
  else hub.hubDownload checkpoint filename

/-- `with safe_open(fetch_source_file(checkpoint, source_file))`. -/
def openSourceFile (hub : ModelHub ω) (checkpoint filename : String) :
    Except PyException (SafetensorsFile ω) := do
  let path ← hub.fetchSourceFile checkpoint filename
  hub.safeOpen path

end PiSSM.Inference
