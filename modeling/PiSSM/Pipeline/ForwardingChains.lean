import PiSSM.Lib.Chains
import PiSSM.Orchestrator.Cluster
import PiSSM.Pipeline.CacheAgreement

/-!
The chain of workers that a `RunShard` is forwarded along, and what the call does to
their caches: it touches no worker that the chain does not pass, and when its result
is delivered, all that it passes have been advanced by its input.
-/

namespace PiSSM.Pipeline

open PiSSM.Lib PiSSM.Inference PiSSM.Orchestrator Relation

section Chains

variable {μ τ κ : Type*}

/-- The worker forwards a `RunShard` of the model to this next one. -/
def Forwards (network : Network μ κ) (modelName worker next : String) : Prop :=
  ∃ handle, (network worker).models.get? modelName = some handle ∧
    handle.nextWorkerAddress = next ∧ next ≠ ""

/-- A call to the first worker, forwarded as far as it goes, comes by this one. -/
def Passes (network : Network μ κ) (modelName first worker : String) : Prop :=
  ReflTransGen (Forwards network modelName) first worker

variable {network left right : Network μ κ} {modelName first worker : String}

theorem Forwards.congr (hshape : SameShape modelName left right) {next : String}
    (hforwards : Forwards left modelName worker next) : Forwards right modelName worker next := by
  obtain ⟨handle, hget, rfl, hne⟩ := hforwards
  obtain ⟨handle', hget', hsame⟩ := hshape.handle hget
  exact ⟨handle', hget', nextWorkerAddress_of_withoutCache hsame, hne⟩

theorem Passes.congr (hshape : SameShape modelName left right)
    (hpasses : Passes left modelName first worker) : Passes right modelName first worker :=
  passes_of_fewer (fun _ _ _ => Forwards.congr hshape) hpasses

/-- What the other models and the other workers have when a handle is replaced. -/
theorem setHandle_get?_of_not {address query name : String} {handle : ModelHandle μ κ}
    (hnot : name = modelName → query ≠ address) :
    (setHandle network address modelName handle query).models.get? name =
      (network query).models.get? name := by
  unfold setHandle
  by_cases hquery : query = address
  · subst hquery
    rw [Function.update_self]
    exact Dict.get?_set_of_ne _ _ fun heq => hnot heq rfl
  · rw [Function.update_of_ne hquery]

variable [ShardModel μ τ κ] {hops : Nat → Hop κ} {address : String}
  {request : RunShardRequest τ} {outcome : RunShardOutcome μ τ κ}

theorem sameShape_computed {handle : ModelHandle μ κ}
    (hget : (network address).models.get? request.modelName = some handle) :
    SameShape request.modelName network (setHandle network address request.modelName
      (computeShard handle request (hops 0).fault).1) :=
  sameShape_setHandle hget (computeShard_withoutCache _ _ _)

/-- A call leaves everything alone that its chain does not pass. -/
theorem runShard_unpassed {fuel : Nat} (hmode : request.pipelineMode = true)
    (hrun : runShard fuel network hops address request = some outcome) {name : String}
    (hnot : name = request.modelName → ¬ Passes network request.modelName address worker) :
    (outcome.network worker).models.get? name = (network worker).models.get? name := by
  induction fuel generalizing network hops address request outcome with
  | zero => cases hrun
  | succ fuel ih =>
      have hother (hname : name = request.modelName) : worker ≠ address := by
        rintro rfl
        exact hnot hname .refl
      cases (runShard_iff_hopRun hmode).mp hrun with
      | unreachable _ | notLoaded _ _ => rfl
      | failed _ _ _ =>
          rw [lostReply_network]
          exact setHandle_get?_of_not hother
      | delivered _ _ _ _ =>
          rw [lostReply_network, deliverResult_network]
          exact setHandle_get?_of_not hother
      | @forwarded handle output _ _ hget _ hnext hinner =>
          rw [lostReply_network, forwardedReply_network,
            ih (forwardRequest_pipelineMode hmode _ _) hinner]
          · exact setHandle_get?_of_not hother
          · intro hname hpasses
            apply hnot hname
            refine .head ⟨handle, hget, rfl, hnext⟩ ?_
            exact hpasses.congr (sameShape_computed hget).symm

/-- The `RunShard`s that are executed in the course of a call: a worker computes an
output, on the handle that it has of the model at that moment. -/
inductive Executes : Network μ κ → (Nat → Hop κ) → String → RunShardRequest τ → String →
    ModelHandle μ κ → Prop where
  | here {network : Network μ κ} {hops : Nat → Hop κ} {address : String}
      {request : RunShardRequest τ} {handle : ModelHandle μ κ} {output : τ}
      (hreached : ∀ code details message,
        (hops 0).fault ≠ some (.unreachable code details message))
      (hget : (network address).models.get? request.modelName = some handle)
      (hcompute : (computeShard handle request (hops 0).fault).2 = .ok output) :
      Executes network hops address request address handle
  | forwarded {network : Network μ κ} {hops : Nat → Hop κ} {address worker : String}
      {request : RunShardRequest τ} {handle found : ModelHandle μ κ} {output : τ}
      (hreached : ∀ code details message,
        (hops 0).fault ≠ some (.unreachable code details message))
      (hget : (network address).models.get? request.modelName = some handle)
      (hcompute : (computeShard handle request (hops 0).fault).2 = .ok output)
      (hnext : handle.nextWorkerAddress ≠ "")
      (hrest : Executes
        (setHandle network address request.modelName
          (computeShard handle request (hops 0).fault).1)
        (fun k => hops (k + 1)) handle.nextWorkerAddress
        (forwardRequest request output (hops 0)) worker found) :
      Executes network hops address request worker found

end Chains

/-- The chain that starts at a worker comes to an end, and the workers on it that hold
the model all have this cache of it. -/
structure Resumes (network : Network TracedShard (List TensorTag)) (modelName : String)
    (cache : List TensorTag) (first : String) : Prop where
  ends : ChainEnds (Forwards network modelName) first
  cached : ∀ worker handle, Passes network modelName first worker →
    (network worker).models.get? modelName = some handle → handle.cache = some cache

variable {network next : Network TracedShard (List TensorTag)} {modelName first : String}
  {cache : List TensorTag} {handle : ModelHandle TracedShard (List TensorTag)}

/-- The workers on the chain keep what they have of the model or lose it. -/
theorem Resumes.frame (hresumes : Resumes network modelName cache first)
    (hkept : ∀ worker handle, Passes network modelName first worker →
      (next worker).models.get? modelName = some handle →
      (network worker).models.get? modelName = some handle) :
    Resumes next modelName cache first := by
  have hfewer (worker after : String) (hpasses : Passes network modelName first worker)
      (hforwards : Forwards next modelName worker after) :
      Forwards network modelName worker after := by
    obtain ⟨handle, hget, hafter⟩ := hforwards
    exact ⟨handle, hkept worker handle hpasses hget, hafter⟩
  constructor
  · exact hresumes.ends.of_fewer hfewer
  · intro worker handle hpasses hget
    have hold : Passes network modelName first worker := passes_of_fewer hfewer hpasses
    exact hresumes.cached worker handle hold (hkept worker handle hold hget)

theorem Resumes.tail (hresumes : Resumes network modelName cache first) {second : String}
    (hforwards : Forwards network modelName first second) :
    Resumes network modelName cache second where
  ends := hresumes.ends.next hforwards
  cached worker handle hpasses hget := hresumes.cached worker handle (.head hforwards hpasses) hget

theorem Resumes.cons (hget : (network first).models.get? modelName = some handle)
    (hcache : handle.cache = some cache)
    (hrest : handle.nextWorkerAddress ≠ "" →
      Resumes network modelName cache handle.nextWorkerAddress) :
    Resumes network modelName cache first := by
  have hforwards {second : String} (hlink : Forwards network modelName first second) :
      Resumes network modelName cache second := by
    obtain ⟨found, hfound, rfl, hne⟩ := hlink
    obtain rfl : found = handle := Option.some.inj (hfound.symm.trans hget)
    exact hrest hne
  constructor
  · exact .intro fun second hlink => (hforwards hlink).ends
  · intro worker found hpasses hfound
    rcases ReflTransGen.cases_head hpasses with rfl | ⟨second, hlink, hpasses⟩
    · obtain rfl : found = handle := Option.some.inj (hfound.symm.trans hget)
      exact hcache
    · exact (hforwards hlink).cached worker found hpasses hfound

section Run

variable {hops : Nat → Hop (List TensorTag)} {address : String}
  {request : RunShardRequest TensorTag} {output : TensorTag}
  {outcome : RunShardOutcome TracedShard TensorTag (List TensorTag)}

/-- A shard that computes passes its input on and advances its cache by it. -/
theorem computeShard_traced (hmode : request.pipelineMode = true)
    {fault : Option (HopFault (List TensorTag))}
    (hcompute : (computeShard handle request fault).2 = .ok output) :
    output = request.inputTensor ∧ (computeShard handle request fault).1 =
      handle.setCache (startCache handle request.resetCache ++ [request.inputTensor]) := by
  unfold computeShard at hcompute ⊢
  split at hcompute
  · cases hcompute
  · split at hcompute <;> cases hcompute
  · rw [if_pos hmode] at hcompute ⊢
    exact ⟨(Except.ok.inj hcompute).symm, rfl⟩

theorem computeShard_quiet (hmode : request.pipelineMode = true) :
    (computeShard handle request none).2 = .ok request.inputTensor := by
  unfold computeShard
  rw [if_pos hmode]
  rfl

/-- The rest of a chain after its first worker has computed. -/
theorem Resumes.rest (hresumes : Resumes network modelName cache address)
    (hget : (network address).models.get? modelName = some handle)
    (hnext : handle.nextWorkerAddress ≠ "") (computed : ModelHandle TracedShard (List TensorTag)) :
    Resumes (setHandle network address modelName computed) modelName cache
      handle.nextWorkerAddress := by
  have hforwards : Forwards network modelName address handle.nextWorkerAddress :=
    ⟨handle, hget, rfl, hnext⟩
  apply (hresumes.tail hforwards).frame
  intro worker found hpasses hfound
  have hne : worker ≠ address := by
    rintro rfl
    exact hresumes.ends.not_return hforwards hpasses
  rwa [setHandle_get?_of_not fun _ => hne] at hfound

/-- The cache that a step resumes, or that it starts when it resets. -/
def StartsWith (network : Network TracedShard (List TensorTag))
    (request : RunShardRequest TensorTag) (cache : List TensorTag) (address : String) : Prop :=
  (request.resetCache = true ∧ cache = []) ∨
    (request.resetCache = false ∧ Resumes network request.modelName cache address)

theorem StartsWith.startCache (hstart : StartsWith network request cache address)
    (hget : (network address).models.get? request.modelName = some handle) :
    startCache handle request.resetCache = cache := by
  unfold Inference.startCache
  rcases hstart with ⟨hreset, rfl⟩ | ⟨hreset, hresumes⟩
  · rw [hreset]
    split <;> rfl
  · rw [hreset, hresumes.cached address handle .refl hget]
    rfl

/-- A call whose result is delivered has advanced all workers that its chain passes,
and the result is the one of its input. -/
theorem runShard_resumes {fuel : Nat} (hmode : request.pipelineMode = true)
    (hrun : runShard fuel network hops address request = some outcome)
    (hdelivered : outcome.delivered ≠ [])
    (hstart : StartsWith network request cache address) :
    Resumes outcome.network request.modelName (cache ++ [request.inputTensor]) address ∧
      ∀ d ∈ outcome.delivered, d.outputTensor = request.inputTensor := by
  induction fuel generalizing network hops address request outcome with
  | zero => cases hrun
  | succ fuel ih =>
      cases (runShard_iff_hopRun hmode).mp hrun with
      | unreachable _ | notLoaded _ _ => exact absurd rfl hdelivered
      | failed _ _ _ =>
          rw [lostReply_delivered] at hdelivered
          exact absurd rfl hdelivered
      | @delivered handle output _ hget hcompute hlast =>
          obtain ⟨rfl, hhandle⟩ := computeShard_traced hmode hcompute
          rw [hstart.startCache hget] at hhandle
          rw [lostReply_network, deliverResult_network, lostReply_delivered]
          constructor
          · refine .cons (by rw [setHandle_get?, if_pos rfl]) (by rw [hhandle]; rfl) ?_
            intro hnext
            rw [hhandle] at hnext
            exact absurd hlast hnext
          · intro d hmem
            unfold deliverResult at hmem
            split at hmem
            · cases hmem
            · obtain rfl := List.mem_singleton.mp hmem
              rfl
      | @forwarded handle output inner _ hget hcompute hnext hinner =>
          obtain ⟨rfl, hhandle⟩ := computeShard_traced hmode hcompute
          rw [hstart.startCache hget] at hhandle
          rw [lostReply_delivered, forwardedReply_delivered] at hdelivered ⊢
          rw [lostReply_network, forwardedReply_network]
          have hmode' := forwardRequest_pipelineMode hmode request.inputTensor (hops 0)
          have hstart' : StartsWith (setHandle network address request.modelName
              (computeShard handle request (hops 0).fault).1)
              (forwardRequest request request.inputTensor (hops 0)) cache
              handle.nextWorkerAddress :=
            hstart.imp_right fun ⟨hreset, hresumes⟩ => ⟨hreset, hresumes.rest hget hnext _⟩
          obtain ⟨hrest, houtput⟩ := ih hmode' hinner hdelivered hstart'
          refine ⟨?_, houtput⟩
          have hset : (setHandle network address request.modelName
              (computeShard handle request (hops 0).fault).1 address).models.get?
                request.modelName = some (computeShard handle request (hops 0).fault).1 := by
            rw [setHandle_get?, if_pos rfl]
          have hshape := (runShard_sameWorkers hmode' hinner).shape request.modelName
          obtain ⟨found, hfound, hsame⟩ := hshape.handle hset
          have hlink : found.nextWorkerAddress = handle.nextWorkerAddress := by
            rw [nextWorkerAddress_of_withoutCache hsame, hhandle]
            rfl
          refine .cons hfound ?_ fun _ => hlink ▸ hrest
          -- a chain that came back here would have reset the cache once more
          by_cases hback : Passes (setHandle network address request.modelName
              (computeShard handle request (hops 0).fault).1) request.modelName
              handle.nextWorkerAddress address
          · exact hrest.cached address found (hback.congr hshape) hfound
          · rw [runShard_unpassed hmode' hinner fun _ => hback, hset] at hfound
            obtain rfl := Option.some.inj hfound
            rw [hhandle]
            rfl

/-- Every `RunShard` of a call that does not reset is executed on the cache that the
call resumes. -/
theorem Resumes.executes {worker : String}
    {found : ModelHandle TracedShard (List TensorTag)}
    (hexecutes : Executes network hops address request worker found)
    (hmode : request.pipelineMode = true)
    (hresumes : Resumes network request.modelName cache address) : found.cache = some cache := by
  induction hexecutes with
  | here _ hget _ => exact hresumes.cached _ _ .refl hget
  | forwarded _ hget _ hnext _ ih =>
      exact ih (forwardRequest_pipelineMode hmode _ _) (hresumes.rest hget hnext _)

end Run

end PiSSM.Pipeline
