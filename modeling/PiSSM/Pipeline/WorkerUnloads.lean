import PiSSM.Pipeline.WorkerLoads

/-!
What an `UnloadShard` leaves behind. It takes the handle out of the table and does not
look at the loads in flight, so the unload is final for a name that is then neither
held nor being loaded: no step but an accepted `LoadShard` brings such a name back. A
load that was accepted before puts its handle into the table when it is completed.
-/

namespace PiSSM.Pipeline

open PiSSM.Lib PiSSM.Inference PiSSM.Inference.Worker

variable {μ κ : Type*} {worker next : Worker μ κ} {label : WorkerLabel μ κ} {nodeId : String}
  {name : String}

/-- A `LoadShard` of this name is accepted. -/
def Accepts (name : String) (worker : Worker μ κ) : WorkerLabel μ κ → Prop
  | .loadShard _ request =>
      request.modelName = name ∧ (worker.servicer.loadShard request).2.1.success = true
  | _ => False

/-- The name is neither held nor being loaded. -/
def Gone (name : String) (worker : Worker μ κ) : Prop :=
  worker.servicer.models.get? name = none ∧ name ∉ worker.servicer.loading

/-- However a run goes on from here, the name is in the table in none of its states as
long as no load of it is accepted. -/
def UnloadFinal (nodeId : String) (name : String) (worker : Worker μ κ) : Prop :=
  ∀ later, (system μ κ nodeId).RunVia (fun state label => ¬ Accepts name state label)
    worker later → later.servicer.models.get? name = none

/-- The worker when an `UnloadShard` has left its locked section. -/
def unloaded (worker : Worker μ κ) (name : String) : Worker μ κ :=
  { worker with servicer := (worker.servicer.unloadShard name).1 }

theorem accepts_accepted {id : Nat} {request : LoadShardRequest}
    (hget : worker.servicer.models.get? request.modelName = none)
    (hloading : request.modelName ∉ worker.servicer.loading) :
    Accepts request.modelName worker (.loadShard id request) := by
  refine ⟨rfl, ?_⟩
  unfold InferenceServicer.loadShard
  rw [hget]
  simp only [if_neg hloading]

/-- A name that is gone is brought back by an accepted load only. -/
theorem gone_move (hmove : Move worker label next) (hinv : LoadsInv worker)
    (haccepts : ¬ Accepts name worker label) (hgone : Gone name worker) : Gone name next := by
  obtain ⟨hget, hloading⟩ := hgone
  cases hmove with
  | held _ _ | rejected _ _ | reported _ => exact ⟨hget, hloading⟩
  | @accepted id request _ hnone hnot =>
      refine ⟨hget, fun hmem => ?_⟩
      rcases Finset.mem_insert.mp hmem with rfl | hmem
      · exact haccepts (accepts_accepted hnone hnot)
      · exact hloading hmem
  | @finished id built request response servicer report hcall hfinish =>
      -- The load that ends is one of another name: this name has none in flight.
      have hother : name ≠ request.modelName := by
        rintro rfl
        exact hloading (hinv.marked _ id ⟨request, response, hcall, rfl⟩)
      constructor
      · dsimp only
        rcases InferenceServicer.finishLoad_models hfinish with ⟨_, _, _, hset⟩ | ⟨_, hsame⟩
        · rw [hset, Dict.get?_set_of_ne _ _ hother]
          exact hget
        · rw [hsame]
          exact hget
      · dsimp only
        rw [InferenceServicer.finishLoad_loading hfinish]
        exact fun hmem => hloading (Finset.mem_of_mem_erase hmem)
  | unloaded modelName =>
      constructor
      · dsimp only
        rw [InferenceServicer.unloadShard_get?]
        split
        · rfl
        · exact hget
      · dsimp only
        rw [InferenceServicer.unloadShard_loading]
        exact hloading
  | ran modelName cache =>
      obtain ⟨_, _, hsame, hkept⟩ := @runShard_frame _ _ worker modelName cache
      exact ⟨(hkept name).mpr hget, hsame ▸ hloading⟩

theorem gone_run {later : Worker μ κ}
    (hreach : (system μ κ nodeId).Reachable worker) (hgone : Gone name worker)
    (hrun : (system μ κ nodeId).RunVia (fun state label => ¬ Accepts name state label)
      worker later) : Gone name later := by
  induction hrun with
  | refl => exact hgone
  | step hrun haccepts hstep ih =>
      have hstate := (hrun.weaken fun _ _ _ => trivial).reachable hreach
      exact gone_move (step_move hstep) (loadsInv_of_reachable hstate) haccepts ih

/-- A background load that succeeds stores its handle, whoever has unloaded the name. -/
theorem finishLoad_stores {id : Nat} {request : LoadShardRequest} {response : LoadShardResponse}
    (hcall : worker.calls id = some ⟨request, response, .loading⟩) (shard : μ)
    (memoryMb : Nat) :
    ∃ next, worker.step (.finishLoad id (.ok (shard, memoryMb))) = some next ∧
      next.servicer.models.get? request.modelName =
        some (InferenceServicer.shardHandle request shard memoryMb) := by
  simp only [step, finishLoad, hcall]
  exact ⟨_, rfl, Dict.get?_set_self _ _ _⟩

/-- With a load in flight there is a run that brings the name back. -/
theorem not_unloadFinal_of_loading [Inhabited μ]
    (hreach : (system μ κ nodeId).Reachable worker)
    (hloading : name ∈ worker.servicer.loading) : ¬ UnloadFinal nodeId name worker := by
  obtain ⟨id, request, response, hcall, rfl⟩ :=
    (loadsInv_of_reachable hreach).covered name hloading
  obtain ⟨next, hstep, hget⟩ := finishLoad_stores hcall default 0
  intro hfinal
  have hquiet : ¬ Accepts request.modelName worker (.finishLoad id (.ok (default, 0))) :=
    not_false
  have hnone := hfinal next (.step .refl hquiet hstep)
  rw [hget] at hnone
  cases hnone

theorem unloaded_reachable (name : String) (hreach : (system μ κ nodeId).Reachable worker) :
    (system μ κ nodeId).Reachable (unloaded worker name) := by
  have hstep : (system μ κ nodeId).step worker (.unloadShard name) =
    some (unloaded worker name) := rfl
  exact .step hreach trivial hstep

/-- The table and the loads in flight right after the locked section. -/
theorem gone_unloaded (hloading : name ∉ worker.servicer.loading) :
    Gone name (unloaded worker name) := by
  constructor
  · unfold unloaded
    dsimp only
    rw [InferenceServicer.unloadShard_get?, if_pos rfl]
  · unfold unloaded
    dsimp only
    rw [InferenceServicer.unloadShard_loading]
    exact hloading

/-- An `UnloadShard` is final exactly when at its return the name is neither held nor
being loaded. It is neither when no load of the name was in flight as the call took
the handle out, and none has been accepted up to its return. -/
theorem unload_final [Inhabited μ] {worker returned : Worker μ κ} {nodeId name : String}
    (hreach : (system μ κ nodeId).Reachable worker)
    (hreturned : (system μ κ nodeId).RunVia (fun _ _ => True) (unloaded worker name)
      returned) :
    (UnloadFinal nodeId name returned ↔
      returned.servicer.models.get? name = none ∧ name ∉ returned.servicer.loading) ∧
    (name ∉ worker.servicer.loading →
      (system μ κ nodeId).RunVia (fun state label => ¬ Accepts name state label)
        (unloaded worker name) returned → UnloadFinal nodeId name returned) := by
  have hunloaded := unloaded_reachable name hreach
  have hend := hreturned.reachable hunloaded
  have hfinal (hgone : Gone name returned) : UnloadFinal nodeId name returned :=
    fun later hrun => (gone_run hend hgone hrun).1
  refine ⟨⟨fun hall => ⟨hall _ .refl, fun hloading => ?_⟩, hfinal⟩, ?_⟩
  · exact not_unloadFinal_of_loading hend hloading hall
  · intro hloading hrun
    exact hfinal (gone_run hunloaded (gone_unloaded hloading) hrun)

/-- A load of the model is accepted, and a worker with it in flight is asked to unload
the model. -/
theorem unloaded_in_flight :
    ∃ worker, (system Unit Unit "a").Reachable worker ∧ "m" ∈ worker.servicer.loading := by
  have hrun : (system Unit Unit "a").exec (create "a")
      [.loadShard 0 (layersRequest 0 12 "b:50051")] = some _ := rfl
  have hinit : (system Unit Unit "a").Reachable (create "a") := .init rfl
  exact ⟨_, hinit.exec (fun _ _ _ => trivial) hrun, Finset.mem_insert_self _ _⟩

/-- A loaded shard is unloaded, and it stays so. -/
theorem unload_final_loaded :
    ∃ worker : Worker Unit Unit, (worker.servicer.models.get? "m").isSome ∧
      UnloadFinal "a" "m" (unloaded worker "m") := by
  have hrun : (system Unit Unit "a").exec (create "a")
      [.loadShard 0 (layersRequest 0 12 "b:50051"), .finishLoad 0 (.ok ((), 260))] =
    some _ := rfl
  have hinit : (system Unit Unit "a").Reachable (create "a") := .init rfl
  have hreach := hinit.exec (fun _ _ _ => trivial) hrun
  refine ⟨_, rfl, (unload_final hreach .refl).2 ?_ .refl⟩
  decide

/-- The load that was in flight puts the model back after the unload. -/
theorem unload_final_counterexample :
    ∃ worker : Worker Unit Unit, (system Unit Unit "a").Reachable worker ∧
      ¬ UnloadFinal "a" "m" (unloaded worker "m") := by
  obtain ⟨worker, hreach, hloading⟩ := unloaded_in_flight
  refine ⟨worker, hreach, not_unloadFinal_of_loading (unloaded_reachable "m" hreach) ?_⟩
  unfold unloaded
  dsimp only
  rw [InferenceServicer.unloadShard_loading]
  exact hloading

end PiSSM.Pipeline
