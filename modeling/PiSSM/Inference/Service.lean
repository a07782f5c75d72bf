import PiSSM.Exceptions
import PiSSM.Inference.Shard
import PiSSM.Lib.Dict

/-!
The servicer of a worker: its table of loaded shards, the set of names being
loaded, and the sections it executes under its lock for `LoadShard`, for the
background load and for `UnloadShard`. `RunShard` is in its own module. The
servicer is generic in the loaded module and in its cache.
-/

namespace PiSSM.Inference

open PiSSM.Lib

/-- What a servicer uses of a loaded module: a fresh cache, the pass that
updates a cache in place (also when it raises) and the stateless pass. -/
class ShardModel (μ : Type*) (τ κ : outParam Type*) where
  newCache : μ → κ
  forward : μ → τ → κ → κ × Except PyException τ
  forwardStateless : μ → τ → Except PyException τ

instance {τ σ : Type*} : ShardModel (MambaShardModule τ σ) τ (Cache σ) where
  newCache := MambaShardModule.newCache
  forward := MambaShardModule.forward
  forwardStateless shard x := .ok (shard.forwardStateless x)

structure ModelHandle (μ κ : Type*) where
  name : String
  model : μ
  memoryMb : Nat
  layerStart : Nat
  layerEnd : Nat
  isFirstShard : Bool
  isLastShard : Bool
  nextWorkerAddress : String
  cache : Option κ

/-- `handle.cache = cache`. -/
def ModelHandle.setCache {μ κ : Type*} (handle : ModelHandle μ κ) (cache : κ) :
    ModelHandle μ κ :=
  { handle with cache := some cache }

/-- One tensor a shard needs: its parameter name in the shard, its name in the
checkpoint's weight map and the file it is in. -/
structure TensorLocationSpec where
  destName : String
  sourceName : String
  sourceFile : String
  deriving DecidableEq

structure LoadShardRequest where
  modelName : String
  checkpoint : String
  arch : String
  layerStart : Nat
  layerEnd : Nat
  totalLayers : Nat
  nextWorkerAddress : String
  tensorLocations : List TensorLocationSpec
  modelConfigJson : String
  orchestratorCallbackAddress : String
  deriving DecidableEq

structure LoadShardResponse where
  success : Bool
  errorMessage : String
  deriving DecidableEq

structure ShardReadyRequest where
  modelName : String
  nodeId : String
  success : Bool
  errorMessage : String
  memoryUsedMb : Nat
  layersLoaded : Int
  deriving DecidableEq

structure UnloadShardResponse where
  success : Bool
  memoryFreedMb : Nat
  deriving DecidableEq

structure InferenceServicer (μ κ : Type*) where
  nodeId : String
  models : Dict String (ModelHandle μ κ)
  loading : Finset String

/-- A thread that `LoadShard` starts. -/
inductive LoadThread where
  | reportShardReady (report : ShardReadyRequest)
  | loadShardBackground (request : LoadShardRequest)
  deriving DecidableEq

namespace InferenceServicer

variable {μ κ : Type*}

def create (nodeId : String) : InferenceServicer μ κ where
  nodeId := nodeId
  models := Dict.empty
  loading := ∅

def readyReport (servicer : InferenceServicer μ κ) (request : LoadShardRequest)
    (memoryMb : Nat) : ShardReadyRequest where
  modelName := request.modelName
  nodeId := servicer.nodeId
  success := true
  errorMessage := ""
  memoryUsedMb := memoryMb
  layersLoaded := (request.layerEnd : Int) - request.layerStart

def failureReport (servicer : InferenceServicer μ κ) (request : LoadShardRequest)
    (errorMessage : String) : ShardReadyRequest where
  modelName := request.modelName
  nodeId := servicer.nodeId
  success := false
  errorMessage := errorMessage
  memoryUsedMb := 0
  layersLoaded := 0

/-- The handler of `LoadShard`, with the thread it starts. A name that is
already loaded is answered from the table, whatever its layer range. -/
def loadShard (servicer : InferenceServicer μ κ) (request : LoadShardRequest) :
    InferenceServicer μ κ × LoadShardResponse × Option LoadThread :=
  match servicer.models.get? request.modelName with
  | some handle =>
      (servicer, ⟨true, ""⟩,
        some (.reportShardReady (servicer.readyReport request handle.memoryMb)))
  | none =>
      if request.modelName ∈ servicer.loading then
        (servicer, ⟨false, s!"Model '{request.modelName}' is already loaded"⟩, none)
      else
        ({ servicer with loading := insert request.modelName servicer.loading },
          ⟨true, ""⟩, some (.loadShardBackground request))

/-- The handle `load_shard_from_metadata` returns for a request, with the
first and last flags recomputed from the layer range. -/
def shardHandle (request : LoadShardRequest) (shard : μ) (memoryMb : Nat) :
    ModelHandle μ κ where
  name := request.modelName
  model := shard
  memoryMb := memoryMb
  layerStart := request.layerStart
  layerEnd := request.layerEnd
  isFirstShard := request.layerStart = 0
  isLastShard := request.layerEnd = request.totalLayers
  nextWorkerAddress := request.nextWorkerAddress
  cache := none

/-- The locked completion of `_load_shard_background` and the report it then
sends: `built` is the module and its size, or the exception of the load. -/
def finishLoad (servicer : InferenceServicer μ κ) (request : LoadShardRequest)
    (built : Except String (μ × Nat)) : InferenceServicer μ κ × ShardReadyRequest :=
  match built with
  | .ok (shard, memoryMb) =>
      ({ servicer with
          models := servicer.models.set request.modelName
            (shardHandle request shard memoryMb)
          loading := servicer.loading.erase request.modelName },
        servicer.readyReport request memoryMb)
  | .error message =>
      ({ servicer with loading := servicer.loading.erase request.modelName },
        servicer.failureReport request message)

def unloadShard (servicer : InferenceServicer μ κ) (modelName : String) :
    InferenceServicer μ κ × UnloadShardResponse :=
  match servicer.models.get? modelName with
  | none => (servicer, ⟨false, 0⟩)
  | some handle =>
      ({ servicer with models := servicer.models.erase modelName },
        ⟨true, handle.memoryMb⟩)

variable {servicer next : InferenceServicer μ κ}

/-- The three answers of `LoadShard`. -/
inductive LoadShardAnswer (servicer : InferenceServicer μ κ) (request : LoadShardRequest) :
    InferenceServicer μ κ → LoadShardResponse → Option LoadThread → Prop where
  | held {handle : ModelHandle μ κ}
      (hget : servicer.models.get? request.modelName = some handle) :
      LoadShardAnswer servicer request servicer ⟨true, ""⟩
        (some (.reportShardReady (servicer.readyReport request handle.memoryMb)))
  | rejected {message : String} (hloading : request.modelName ∈ servicer.loading) :
      LoadShardAnswer servicer request servicer ⟨false, message⟩ none
  | accepted (hget : servicer.models.get? request.modelName = none)
      (hloading : request.modelName ∉ servicer.loading) :
      LoadShardAnswer servicer request
        { servicer with loading := insert request.modelName servicer.loading }
        ⟨true, ""⟩ (some (.loadShardBackground request))

theorem loadShard_answer {request : LoadShardRequest} {response : LoadShardResponse}
    {thread : Option LoadThread}
    (hload : servicer.loadShard request = (next, response, thread)) :
    LoadShardAnswer servicer request next response thread := by
  unfold loadShard at hload
  split at hload
  · next handle hget =>
      cases hload
      exact .held hget
  · next hget =>
      split at hload
      · next hloading =>
          cases hload
          exact .rejected hloading
      · next hloading =>
          cases hload
          exact .accepted hget hloading

/-- Asking a worker for a shard changes nothing of what it holds. -/
theorem LoadShardAnswer.models {request : LoadShardRequest} {response : LoadShardResponse}
    {thread : Option LoadThread}
    (hanswer : LoadShardAnswer servicer request next response thread) :
    next.models = servicer.models := by
  cases hanswer <;> rfl

theorem finishLoad_loading {request : LoadShardRequest} {built : Except String (μ × Nat)}
    {report : ShardReadyRequest} (hfinish : servicer.finishLoad request built = (next, report)) :
    next.loading = servicer.loading.erase request.modelName := by
  unfold finishLoad at hfinish
  split at hfinish <;> (cases hfinish; rfl)

/-- A load that reports success has stored the handle of its request, one that
does not has stored nothing. -/
theorem finishLoad_models {request : LoadShardRequest} {built : Except String (μ × Nat)}
    {report : ShardReadyRequest} (hfinish : servicer.finishLoad request built = (next, report)) :
    (report.success = true ∧ ∃ shard memoryMb, next.models =
      servicer.models.set request.modelName (shardHandle request shard memoryMb)) ∨
    (report.success = false ∧ next.models = servicer.models) := by
  unfold finishLoad at hfinish
  split at hfinish
  · next shard memoryMb =>
      cases hfinish
      exact .inl ⟨rfl, shard, memoryMb, rfl⟩
  · cases hfinish
    exact .inr ⟨rfl, rfl⟩

/-- A report of success counts the layers of its request. -/
theorem finishLoad_layersLoaded {request : LoadShardRequest}
    {built : Except String (μ × Nat)} {report : ShardReadyRequest}
    (hfinish : servicer.finishLoad request built = (next, report))
    (hsuccess : report.success = true) :
    report.layersLoaded = (request.layerEnd : Int) - request.layerStart := by
  unfold finishLoad at hfinish
  split at hfinish
  · cases hfinish
    rfl
  · cases hfinish
    cases hsuccess

theorem unloadShard_loading (modelName : String) :
    (servicer.unloadShard modelName).1.loading = servicer.loading := by
  unfold unloadShard
  split <;> rfl

theorem unloadShard_get? (modelName query : String) :
    (servicer.unloadShard modelName).1.models.get? query =
      if query = modelName then none else servicer.models.get? query := by
  unfold unloadShard
  split
  · next hget =>
      split
      · next hquery => rw [hquery, hget]
      · rfl
  · exact Dict.get?_erase _ _ _

end InferenceServicer

end PiSSM.Inference
