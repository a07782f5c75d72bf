import PiSSM.Inference.Service
import PiSSM.Orchestrator.Dispatch
import PiSSM.Orchestrator.ResultStore

/-!
`PipelineRunner.load`, section by section: it reserves a slot for every worker,
sends every worker its `LoadShard`, and then waits for every worker's
`ReportShardReady` with one waiter thread for each, collecting the waits as
they end. A failed load leaves its waiters that have already started behind.
Stored reports carry a mark of their origin, which the code does not see.
-/

namespace PiSSM.Orchestrator

open PiSSM.Lib PiSSM.Inference

structure ShardReadyResult where
  success : Bool
  errorMessage : String
  memoryUsedMb : Nat
  layersLoaded : Int
  deriving DecidableEq

structure MarkedReport (T : Type*) where
  origin : T
  result : ShardReadyResult
  deriving DecidableEq

/-- `_shard_ready_key`, and the key `ReportShardReady` delivers to. -/
def shardReadyKey (modelName nodeId : String) : String := s!"shard:{modelName}:{nodeId}"

/-- The callback servicer's `ReportShardReady`. -/
def reportShardReady {T : Type*} (store : ResultStore (MarkedReport T)) (origin : T)
    (request : ShardReadyRequest) : ResultStore (MarkedReport T) :=
  (store.deliver (shardReadyKey request.modelName request.nodeId)
    ⟨origin, ⟨request.success, request.errorMessage, request.memoryUsedMb,
      request.layersLoaded⟩⟩).1

/-- A `ResultStore.wait` submitted to the executor. -/
inductive WaiterPhase (T : Type*) where
  | absent
  | queued
  | cancelled
  | blocked (event : Nat)
  | ended (outcome : Except PyException (Option (MarkedReport T)))

/-- `Future.cancel`, which has no effect on a wait that has started. -/
def WaiterPhase.cancel {T : Type*} : WaiterPhase T → WaiterPhase T
  | .queued => .cancelled
  | waiter => waiter

inductive LoadPhase where
  | creating (next : Nat)
  | dispatching (next : Nat)
  | waiting
  /-- An exception has left the loop over the waits; the executor is still to be
  shut down. -/
  | failing (err : PyException)
  | returned
  | raised (err : PyException)
  deriving DecidableEq

/-- A call of `load`. Waiters and collected waits are numbered like the
assignments of the plan. -/
structure LoadRun (T : Type*) where
  plan : DispatchPlan
  phase : LoadPhase
  waiters : Nat → WaiterPhase T
  collected : Finset Nat

namespace LoadRun

variable {T : Type*}

/-- An executor without threads cannot be made. -/
def start (plan : DispatchPlan) : LoadRun T where
  plan := plan
  phase :=
    if plan.assignments = [] then
      .raised (.valueError "max_workers must be greater than 0")
    else .creating 0
  waiters := fun _ => .absent
  collected := ∅

def key (run : LoadRun T) (assignment : ShardAssignment) : String :=
  shardReadyKey run.plan.modelName assignment.nodeId

/-- One iteration of the loop that reserves the slots. -/
def createSlot (run : LoadRun T) (store : ResultStore (MarkedReport T)) :
    Option (LoadRun T × ResultStore (MarkedReport T)) :=
  match run.phase with
  | .creating next =>
      match run.plan.assignments[next]? with
      | some assignment =>
          let phase :=
            if next + 1 < run.plan.assignments.length then .creating (next + 1)
            else .dispatching 0
          some ({ run with phase := phase }, store.createSlot (run.key assignment))
      | none => none
  | _ => none

/-- The request of the loop's current iteration. -/
def loadShardRequest (plan : DispatchPlan) (assignment : ShardAssignment)
    (tensorLocations : List TensorLocationSpec) (configJson callbackAddress : String) :
    LoadShardRequest where
  modelName := plan.modelName
  checkpoint := plan.checkpoint
  arch := plan.arch
  layerStart := assignment.layerStart
  layerEnd := assignment.layerEnd
  totalLayers := plan.totalLayers
  nextWorkerAddress := assignment.nextWorkerAddress
  tensorLocations := tensorLocations
  modelConfigJson := configJson
  orchestratorCallbackAddress := callbackAddress

/-- The rest of an iteration of the dispatch loop, with the worker's response or
the exception raised. After the last one the waits are submitted. -/
def dispatched (run : LoadRun T) (response : Except PyException LoadShardResponse) :
    Option (LoadRun T) :=
  match run.phase with
  | .dispatching next =>
      match run.plan.assignments[next]? with
      | none => none
      | some assignment =>
          match response with
          | .error err => some { run with phase := .raised err }
          | .ok response =>
              if response.success then
                if next + 1 < run.plan.assignments.length then
                  some { run with phase := .dispatching (next + 1) }
                else
                  some { run with
                    phase := .waiting
                    waiters := fun index =>
                      if index < run.plan.assignments.length then .queued else .absent }
              else
                some { run with phase := .raised (.pipelineError
                  (s!"worker {assignment.nodeId} rejected LoadShard: " ++
                    response.errorMessage)) }
  | _ => none

def setWaiter (run : LoadRun T) (index : Nat) (waiter : WaiterPhase T) : LoadRun T :=
  { run with waiters := Function.update run.waiters index waiter }

/-- A waiter thread looks its slot up. -/
def startWait (run : LoadRun T) (index : Nat) (store : ResultStore (MarkedReport T)) :
    Option (LoadRun T) :=
  match run.waiters index, run.plan.assignments[index]? with
  | .queued, some assignment =>
      match store.slotEvent (run.key assignment) with
      | .error err => some (run.setWaiter index (.ended (.error err)))
      | .ok event => some (run.setWaiter index (.blocked event))
  | _, _ => none

/-- A waiter thread whose event has fired pops its slot. -/
def wake (run : LoadRun T) (index : Nat) (store : ResultStore (MarkedReport T)) :
    Option (LoadRun T × ResultStore (MarkedReport T)) :=
  match run.waiters index, run.plan.assignments[index]? with
  | .blocked event, some assignment =>
      if event ∈ store.fired then
        let (popped, result) := store.popSlot (run.key assignment)
        some (run.setWaiter index (.ended (.ok result)), popped)
      else none
  | _, _ => none

/-- What the loop over the waits makes of one that has ended. -/
def checkResult (assignment : ShardAssignment)
    (outcome : Except PyException (Option (MarkedReport T))) : Except PyException Unit :=
  match outcome with
  | .error err => .error err
  | .ok none =>
      .error (.attributeError "'NoneType' object has no attribute 'success'")
  | .ok (some report) =>
      if report.result.success then .ok ()
      else .error (.pipelineError
        (s!"worker {assignment.nodeId} failed to load shard: " ++
          report.result.errorMessage))

/-- One iteration of the loop over the waits, which takes any that has ended. -/
def collect (run : LoadRun T) (index : Nat) : Option (LoadRun T) :=
  match run.phase, run.waiters index, run.plan.assignments[index]? with
  | .waiting, .ended outcome, some assignment =>
      if index ∈ run.collected then none
      else
        match checkResult assignment outcome with
        | .error err => some { run with phase := .failing err }
        | .ok () =>
            some { run with
              phase :=
                if insert index run.collected =
                  Finset.range run.plan.assignments.length then .returned else .waiting
              collected := insert index run.collected }
  | _, _, _ => none

/-- `executor.shutdown(wait=False, cancel_futures=True)` after an exception. -/
def shutdown (run : LoadRun T) : Option (LoadRun T) :=
  match run.phase with
  | .failing err =>
      some { run with
        phase := .raised err
        waiters := fun index => (run.waiters index).cancel }
  | _ => none

/-- Whether a slot of this load is in place and its wait has still to end. -/
def opens (run : LoadRun T) (index : Nat) : Bool :=
  match run.phase with
  | .creating next => index < next
  | .dispatching _ => index < run.plan.assignments.length
  | _ =>
      match run.waiters index with
      | .queued | .blocked _ => true
      | _ => false

variable {run next : LoadRun T} {store store' : ResultStore (MarkedReport T)}

theorem createSlot_some (hstep : run.createSlot store = some (next, store')) :
    ∃ index assignment, run.phase = .creating index ∧
      run.plan.assignments[index]? = some assignment ∧
      next = { run with phase :=
        if index + 1 < run.plan.assignments.length then .creating (index + 1)
        else .dispatching 0 } ∧
      store' = store.createSlot (run.key assignment) := by
  unfold createSlot at hstep
  split at hstep
  · next index hphase =>
      split at hstep
      · next assignment hget =>
          obtain ⟨rfl, rfl⟩ := Prod.mk.inj (Option.some.inj hstep)
          exact ⟨index, assignment, hphase, hget, rfl, rfl⟩
      · cases hstep
  · cases hstep

/-- After a response the load fails, goes on to the next worker or submits its
waits. -/
theorem dispatched_some {response : Except PyException LoadShardResponse}
    (hstep : run.dispatched response = some next) :
    ∃ index, run.phase = .dispatching index ∧
      ((∃ err, next = { run with phase := .raised err }) ∨
        (index + 1 < run.plan.assignments.length ∧
          next = { run with phase := .dispatching (index + 1) }) ∨
        (index + 1 = run.plan.assignments.length ∧
          next = { run with
            phase := .waiting
            waiters := fun index =>
              if index < run.plan.assignments.length then .queued else .absent })) := by
  unfold dispatched at hstep
  split at hstep
  · next index hphase =>
      refine ⟨index, hphase, ?_⟩
      split at hstep
      · cases hstep
      · next assignment hget =>
          have hindex := (List.getElem?_eq_some_iff.mp hget).1
          split at hstep
          · next err =>
              obtain rfl := Option.some.inj hstep
              exact .inl ⟨err, rfl⟩
          · split at hstep
            · split at hstep
              · next hmore =>
                  obtain rfl := Option.some.inj hstep
                  exact .inr (.inl ⟨hmore, rfl⟩)
              · next hlast =>
                  obtain rfl := Option.some.inj hstep
                  exact .inr (.inr ⟨by omega, rfl⟩)
            · obtain rfl := Option.some.inj hstep
              exact .inl ⟨_, rfl⟩
  · cases hstep

theorem startWait_some {index : Nat} (hstep : run.startWait index store = some next) :
    ∃ assignment, run.waiters index = .queued ∧
      run.plan.assignments[index]? = some assignment ∧
      ((∃ err, store.slotEvent (run.key assignment) = .error err ∧
          next = run.setWaiter index (.ended (.error err))) ∨
        ∃ event, store.slotEvent (run.key assignment) = .ok event ∧
          next = run.setWaiter index (.blocked event)) := by
  unfold startWait at hstep
  split at hstep
  · next assignment hqueued hget =>
      refine ⟨assignment, hqueued, hget, ?_⟩
      split at hstep
      · next err herr =>
          obtain rfl := Option.some.inj hstep
          exact .inl ⟨err, herr, rfl⟩
      · next event hevent =>
          obtain rfl := Option.some.inj hstep
          exact .inr ⟨event, hevent, rfl⟩
  · cases hstep

theorem wake_some {index : Nat} (hstep : run.wake index store = some (next, store')) :
    ∃ assignment event, run.waiters index = .blocked event ∧
      run.plan.assignments[index]? = some assignment ∧ event ∈ store.fired ∧
      next = run.setWaiter index (.ended (.ok (store.popSlot (run.key assignment)).2)) ∧
      store' = (store.popSlot (run.key assignment)).1 := by
  unfold wake at hstep
  split at hstep
  · next event assignment hblocked hget =>
      split at hstep
      · next hfired =>
          obtain ⟨rfl, rfl⟩ := Prod.mk.inj (Option.some.inj hstep)
          exact ⟨assignment, event, hblocked, hget, hfired, rfl, rfl⟩
      · cases hstep
  · cases hstep

/-- A wait that is collected has ended; the load fails or counts it. -/
theorem collect_some {index : Nat} (hstep : run.collect index = some next) :
    ∃ outcome assignment, run.phase = .waiting ∧ run.waiters index = .ended outcome ∧
      run.plan.assignments[index]? = some assignment ∧ index ∉ run.collected ∧
      ((∃ err, checkResult assignment outcome = .error err ∧
          next = { run with phase := .failing err }) ∨
        (checkResult assignment outcome = .ok () ∧
          next = { run with
            phase :=
              if insert index run.collected =
                Finset.range run.plan.assignments.length then .returned else .waiting
            collected := insert index run.collected })) := by
  unfold collect at hstep
  split at hstep
  · next outcome assignment hphase hended hget =>
      split at hstep
      · cases hstep
      · next hnew =>
          refine ⟨outcome, assignment, hphase, hended, hget, hnew, ?_⟩
          split at hstep
          · next err herr =>
              obtain rfl := Option.some.inj hstep
              exact .inl ⟨err, herr, rfl⟩
          · next hok =>
              obtain rfl := Option.some.inj hstep
              exact .inr ⟨hok, rfl⟩
  · cases hstep

theorem shutdown_some (hstep : run.shutdown = some next) :
    ∃ err, run.phase = .failing err ∧
      next = { run with
        phase := .raised err
        waiters := fun index => (run.waiters index).cancel } := by
  unfold shutdown at hstep
  split at hstep
  · next err hphase =>
      obtain rfl := Option.some.inj hstep
      exact ⟨err, hphase, rfl⟩
  · cases hstep

/-- Only a report of success passes the check. -/
theorem checkResult_ok {assignment : ShardAssignment}
    {outcome : Except PyException (Option (MarkedReport T))}
    (hok : checkResult assignment outcome = .ok ()) :
    ∃ report, outcome = .ok (some report) ∧ report.result.success = true := by
  unfold checkResult at hok
  split at hok
  · cases hok
  · cases hok
  · next report =>
      split at hok
      · next hsuccess => exact ⟨report, rfl, hsuccess⟩
      · cases hok

end LoadRun

theorem shardReadyKey_inj {modelName nodeId nodeId' : String}
    (heq : shardReadyKey modelName nodeId = shardReadyKey modelName nodeId') :
    nodeId = nodeId' := by
  have hlist := congrArg String.toList heq
  have hsplit (node : String) : (shardReadyKey modelName node).toList =
      ("shard:" ++ modelName ++ ":").toList ++ node.toList :=
    String.toList_append
  rw [hsplit, hsplit] at hlist
  exact String.toList_injective (List.append_cancel_left hlist)

end PiSSM.Orchestrator
