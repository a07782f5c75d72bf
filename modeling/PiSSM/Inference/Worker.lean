import PiSSM.Inference.RunShard
import PiSSM.Lib.TransitionSystem

/-!
One worker with the threads its servicer starts. The calls of `LoadShard` are
numbered; one step is one section under the servicer's lock, one report of a
load, or one write of a handle's cache.
-/

namespace PiSSM.Inference

open PiSSM.Lib

/-- The thread of a `LoadShard` call. With a decided outcome it keeps what the
table held under the request's name when the outcome was decided, which the code
does not record. -/
inductive LoadThreadPhase (μ κ : Type*) where
  | none
  | loading
  | reporting (report : ShardReadyRequest) (held : Option (ModelHandle μ κ))
  | ended (report : ShardReadyRequest) (held : Option (ModelHandle μ κ))

structure LoadCall (μ κ : Type*) where
  request : LoadShardRequest
  response : LoadShardResponse
  thread : LoadThreadPhase μ κ

/-- `reports` are the calls of `ReportShardReady` made so far, in order, each
with the `LoadShard` call it is made for. -/
structure Worker (μ κ : Type*) where
  servicer : InferenceServicer μ κ
  calls : Nat → Option (LoadCall μ κ)
  reports : List (Nat × ShardReadyRequest)

inductive WorkerLabel (μ κ : Type*) where
  | loadShard (id : Nat) (request : LoadShardRequest)
  | finishLoad (id : Nat) (built : Except String (μ × Nat))
  | report (id : Nat)
  | unloadShard (modelName : String)
  | runShard (modelName : String) (cache : κ)

namespace Worker

variable {μ κ : Type*}

def create (nodeId : String) : Worker μ κ where
  servicer := .create nodeId
  calls := fun _ => none
  reports := []

def setCall (worker : Worker μ κ) (id : Nat) (call : LoadCall μ κ) : Worker μ κ :=
  { worker with calls := Function.update worker.calls id (some call) }

/-- The thread `LoadShard` has started, if any. -/
def startThread (servicer : InferenceServicer μ κ) (request : LoadShardRequest) :
    Option LoadThread → LoadThreadPhase μ κ
  | none => .none
  | some (.reportShardReady report) =>
      .reporting report (servicer.models.get? request.modelName)
  | some (.loadShardBackground _) => .loading

def loadShard (worker : Worker μ κ) (id : Nat) (request : LoadShardRequest) :
    Option (Worker μ κ) :=
  match worker.calls id with
  | some _ => none
  | none =>
      let (servicer, response, thread) := worker.servicer.loadShard request
      some { worker.setCall id ⟨request, response, startThread servicer request thread⟩ with
        servicer := servicer }

/-- The background load of a call comes to its locked completion. -/
def finishLoad (worker : Worker μ κ) (id : Nat) (built : Except String (μ × Nat)) :
    Option (Worker μ κ) :=
  match worker.calls id with
  | some ⟨request, response, .loading⟩ =>
      let (servicer, report) := worker.servicer.finishLoad request built
      some { worker.setCall id ⟨request, response,
          .reporting report (servicer.models.get? request.modelName)⟩ with
        servicer := servicer }
  | _ => none

/-- `_report_shard_ready`, which ends the thread whether or not the RPC fails. -/
def report (worker : Worker μ κ) (id : Nat) : Option (Worker μ κ) :=
  match worker.calls id with
  | some ⟨request, response, .reporting report held⟩ =>
      some { worker.setCall id ⟨request, response, .ended report held⟩ with
        reports := worker.reports ++ [(id, report)] }
  | _ => none

/-- A `RunShard` writes the cache of the handle it has found. -/
def runShard (worker : Worker μ κ) (modelName : String) (cache : κ) : Worker μ κ :=
  match worker.servicer.models.get? modelName with
  | none => worker
  | some handle =>
      { worker with servicer := { worker.servicer with
          models := worker.servicer.models.set modelName (handle.setCache cache) } }

def step (worker : Worker μ κ) : WorkerLabel μ κ → Option (Worker μ κ)
  | .loadShard id request => worker.loadShard id request
  | .finishLoad id built => worker.finishLoad id built
  | .report id => worker.report id
  | .unloadShard modelName =>
      some { worker with servicer := (worker.servicer.unloadShard modelName).1 }
  | .runShard modelName cache => some (worker.runShard modelName cache)

/-- All interleavings of one worker, from an empty table. -/
def system (μ κ : Type*) (nodeId : String) :
    TransitionSystem (Worker μ κ) (WorkerLabel μ κ) where
  init worker := worker = create nodeId
  step := step

/-- What one step can do. -/
inductive Move (worker : Worker μ κ) : WorkerLabel μ κ → Worker μ κ → Prop where
  | held {id : Nat} {request : LoadShardRequest} {handle : ModelHandle μ κ}
      (hfresh : worker.calls id = none)
      (hget : worker.servicer.models.get? request.modelName = some handle) :
      Move worker (.loadShard id request)
        (worker.setCall id ⟨request, ⟨true, ""⟩,
          .reporting (worker.servicer.readyReport request handle.memoryMb) (some handle)⟩)
  | rejected {id : Nat} {request : LoadShardRequest} {message : String}
      (hfresh : worker.calls id = none)
      (hloading : request.modelName ∈ worker.servicer.loading) :
      Move worker (.loadShard id request)
        (worker.setCall id ⟨request, ⟨false, message⟩, .none⟩)
  | accepted {id : Nat} {request : LoadShardRequest}
      (hfresh : worker.calls id = none)
      (hget : worker.servicer.models.get? request.modelName = none)
      (hloading : request.modelName ∉ worker.servicer.loading) :
      Move worker (.loadShard id request)
        { worker.setCall id ⟨request, ⟨true, ""⟩, .loading⟩ with
          servicer := { worker.servicer with
            loading := insert request.modelName worker.servicer.loading } }
  | finished {id : Nat} {built : Except String (μ × Nat)} {request : LoadShardRequest}
      {response : LoadShardResponse} {servicer : InferenceServicer μ κ}
      {report : ShardReadyRequest}
      (hcall : worker.calls id = some ⟨request, response, .loading⟩)
      (hfinish : worker.servicer.finishLoad request built = (servicer, report)) :
      Move worker (.finishLoad id built)
        { worker.setCall id ⟨request, response,
            .reporting report (servicer.models.get? request.modelName)⟩ with
          servicer := servicer }
  | reported {id : Nat} {request : LoadShardRequest} {response : LoadShardResponse}
      {report : ShardReadyRequest} {held : Option (ModelHandle μ κ)}
      (hcall : worker.calls id = some ⟨request, response, .reporting report held⟩) :
      Move worker (.report id)
        { worker.setCall id ⟨request, response, .ended report held⟩ with
          reports := worker.reports ++ [(id, report)] }
  | unloaded (modelName : String) :
      Move worker (.unloadShard modelName)
        { worker with servicer := (worker.servicer.unloadShard modelName).1 }
  | ran (modelName : String) (cache : κ) :
      Move worker (.runShard modelName cache) (worker.runShard modelName cache)

variable {worker next : Worker μ κ}

theorem loadShard_move {id : Nat} {request : LoadShardRequest}
    (hstep : worker.loadShard id request = some next) :
    Move worker (.loadShard id request) next := by
  unfold loadShard at hstep
  split at hstep
  · cases hstep
  · next hfresh =>
      cases hload : worker.servicer.loadShard request with
      | mk servicer answer =>
          obtain ⟨response, thread⟩ := answer
          rw [hload] at hstep
          obtain rfl := Option.some.inj hstep
          have hanswer := InferenceServicer.loadShard_answer hload
          cases hanswer with
          | held hget =>
              have hmove := Move.held hfresh hget
              rw [← hget] at hmove
              exact hmove
          | rejected hloading => exact .rejected hfresh hloading
          | accepted hget hloading => exact .accepted hfresh hget hloading

/-- Every step is one of these moves. -/
theorem step_move {label : WorkerLabel μ κ} (hstep : worker.step label = some next) :
    Move worker label next := by
  cases label with
  | loadShard id request => exact loadShard_move hstep
  | finishLoad id built =>
      simp only [step, finishLoad] at hstep
      split at hstep
      · next hcall =>
          obtain rfl := Option.some.inj hstep
          exact .finished hcall rfl
      · cases hstep
  | report id =>
      simp only [step, report] at hstep
      split at hstep
      · next hcall =>
          obtain rfl := Option.some.inj hstep
          exact .reported hcall
      · cases hstep
  | unloadShard modelName =>
      obtain rfl := Option.some.inj hstep
      exact .unloaded modelName
  | runShard modelName cache =>
      obtain rfl := Option.some.inj hstep
      exact .ran modelName cache

/-- A `RunShard` changes caches only. -/
theorem runShard_frame (modelName : String) (cache : κ) :
    (worker.runShard modelName cache).calls = worker.calls ∧
    (worker.runShard modelName cache).reports = worker.reports ∧
    (worker.runShard modelName cache).servicer.loading = worker.servicer.loading ∧
    ∀ query, (worker.runShard modelName cache).servicer.models.get? query = none ↔
      worker.servicer.models.get? query = none := by
  unfold runShard
  split
  · exact ⟨rfl, rfl, rfl, fun _ => Iff.rfl⟩
  · next handle hget =>
      refine ⟨rfl, rfl, rfl, fun query => ?_⟩
      rw [Dict.get?_set]
      split
      · next hquery => simp [hquery, hget]
      · rfl

end Worker

end PiSSM.Inference
