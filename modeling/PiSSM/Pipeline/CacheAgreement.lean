import PiSSM.Inference.RunShard

/-!
Two executions of the same `RunShard` on workers that hold the same shards but
perhaps different caches. A resetting step forgets the caches: both executions
deliver the same results and leave the workers they pass with equal caches. A
later step that starts among such workers passes no others, so the executions
stay together.
-/

namespace PiSSM.Pipeline

open PiSSM.Lib PiSSM.Inference

variable {μ τ κ : Type*}

/-- The handle with its cache left out. -/
def withoutCache (handle : ModelHandle μ κ) : ModelHandle μ κ :=
  { handle with cache := none }

/-- The workers hold the same shards of the model. -/
def SameShape (modelName : String) (left right : Network μ κ) : Prop :=
  ∀ address, ((left address).models.get? modelName).map withoutCache =
    ((right address).models.get? modelName).map withoutCache

/-- The workers are loading the same models and hold the same shards of all of
them. -/
structure SameWorkers (left right : Network μ κ) : Prop where
  loading : ∀ address, (right address).loading = (left address).loading
  shape : ∀ modelName, SameShape modelName left right

/-- The worker at this address holds the same handle, cache included. -/
def AgreesAt (modelName : String) (left right : Network μ κ) (address : String) : Prop :=
  (left address).models.get? modelName = (right address).models.get? modelName

/-- No worker of the set forwards to a worker outside it. -/
def IsClosed (modelName : String) (network : Network μ κ) (workers : Set String) : Prop :=
  ∀ address ∈ workers, ∀ handle, (network address).models.get? modelName = some handle →
    handle.nextWorkerAddress ≠ "" → handle.nextWorkerAddress ∈ workers

/-- Where a chain that starts at `address` passes, the two executions agree. -/
def AgreesFrom (modelName : String) (left right : Network μ κ) (address : String) : Prop :=
  ∃ workers : Set String, address ∈ workers ∧ IsClosed modelName left workers ∧
    ∀ worker ∈ workers, AgreesAt modelName left right worker

theorem SameShape.refl (modelName : String) (network : Network μ κ) :
    SameShape modelName network network := fun _ => rfl

theorem SameShape.symm {modelName : String} {left right : Network μ κ}
    (hshape : SameShape modelName left right) : SameShape modelName right left :=
  fun address => (hshape address).symm

theorem SameShape.trans {modelName : String} {left middle right : Network μ κ}
    (hshape : SameShape modelName left middle) (hshape' : SameShape modelName middle right) :
    SameShape modelName left right :=
  fun address => (hshape address).trans (hshape' address)

theorem SameShape.handle {modelName : String} {left right : Network μ κ}
    (hshape : SameShape modelName left right) {address : String} {handle : ModelHandle μ κ}
    (hget : (left address).models.get? modelName = some handle) :
    ∃ handle', (right address).models.get? modelName = some handle' ∧
      withoutCache handle' = withoutCache handle := by
  have hsame := hshape address
  rw [hget, Option.map_some] at hsame
  obtain ⟨handle', hget', heq⟩ := Option.map_eq_some_iff.mp hsame.symm
  exact ⟨handle', hget', heq⟩

theorem SameShape.get?_none {modelName : String} {left right : Network μ κ}
    (hshape : SameShape modelName left right) {address : String}
    (hget : (left address).models.get? modelName = none) :
    (right address).models.get? modelName = none := by
  have hsame := hshape address
  rw [hget, Option.map_none] at hsame
  exact Option.map_eq_none_iff.mp hsame.symm

theorem nextWorkerAddress_of_withoutCache {handle handle' : ModelHandle μ κ}
    (hsame : withoutCache handle' = withoutCache handle) :
    handle'.nextWorkerAddress = handle.nextWorkerAddress := by
  have hnext := congrArg ModelHandle.nextWorkerAddress hsame
  exact hnext

/-- Workers that hold the same shards forward to the same addresses. -/
theorem SameShape.nextWorkerAddress {modelName : String} {left right : Network μ κ}
    (hshape : SameShape modelName left right) {address : String}
    {handle handle' : ModelHandle μ κ}
    (hget : (left address).models.get? modelName = some handle)
    (hget' : (right address).models.get? modelName = some handle') :
    handle'.nextWorkerAddress = handle.nextWorkerAddress := by
  obtain ⟨found, hfound, hsame⟩ := hshape.handle hget
  obtain rfl : found = handle' := Option.some.inj (hfound.symm.trans hget')
  exact nextWorkerAddress_of_withoutCache hsame

theorem setCache_of_withoutCache {handle handle' : ModelHandle μ κ}
    (hsame : withoutCache handle' = withoutCache handle) (cache : κ) :
    handle'.setCache cache = handle.setCache cache := by
  have hset := congrArg (fun h : ModelHandle μ κ => h.setCache cache) hsame
  exact hset

theorem IsClosed.congr {modelName : String} {left right : Network μ κ}
    {workers : Set String} (hclosed : IsClosed modelName left workers)
    (hshape : SameShape modelName left right) : IsClosed modelName right workers := by
  intro address hmem handle hget hnext
  obtain ⟨handle', hget', hsame⟩ := hshape.symm.handle hget
  rw [← nextWorkerAddress_of_withoutCache hsame] at hnext ⊢
  exact hclosed address hmem handle' hget' hnext

/-- A worker that forwards into the set may join it. -/
theorem IsClosed.insert {modelName : String} {network : Network μ κ} {workers : Set String}
    (hclosed : IsClosed modelName network workers) {address : String}
    (hlink : ∀ handle, (network address).models.get? modelName = some handle →
      handle.nextWorkerAddress ≠ "" → handle.nextWorkerAddress ∈ workers) :
    IsClosed modelName network (insert address workers) := by
  intro worker hworker handle hget hnext
  rcases Set.mem_insert_iff.mp hworker with rfl | hworker
  · exact Set.mem_insert_of_mem _ (hlink handle hget hnext)
  · exact Set.mem_insert_of_mem _ (hclosed worker hworker handle hget hnext)

theorem setHandle_get? (network : Network μ κ) (address modelName query : String)
    (handle : ModelHandle μ κ) :
    (setHandle network address modelName handle query).models.get? modelName =
      if query = address then some handle
      else (network query).models.get? modelName := by
  by_cases hquery : query = address
  · subst hquery
    simp [setHandle]
  · simp [setHandle, hquery]

/-- Replacing a handle by one that differs in its cache only. -/
theorem sameShape_setHandle {modelName : String} {network : Network μ κ} {address : String}
    {handle handle' : ModelHandle μ κ}
    (hget : (network address).models.get? modelName = some handle)
    (hsame : withoutCache handle' = withoutCache handle) :
    SameShape modelName network (setHandle network address modelName handle') := by
  intro query
  rw [setHandle_get?]
  split
  · next hquery => rw [hquery, hget, Option.map_some, Option.map_some, hsame]
  · rfl

theorem SameWorkers.refl (network : Network μ κ) : SameWorkers network network :=
  ⟨fun _ => rfl, fun modelName => SameShape.refl modelName network⟩

theorem SameWorkers.trans {left middle right : Network μ κ}
    (hsame : SameWorkers left middle) (hsame' : SameWorkers middle right) :
    SameWorkers left right where
  loading address := (hsame'.loading address).trans (hsame.loading address)
  shape modelName := (hsame.shape modelName).trans (hsame'.shape modelName)

theorem sameWorkers_setHandle {modelName : String} {network : Network μ κ}
    {address : String} {handle handle' : ModelHandle μ κ}
    (hget : (network address).models.get? modelName = some handle)
    (hsame : withoutCache handle' = withoutCache handle) :
    SameWorkers network (setHandle network address modelName handle') where
  loading query := by
    by_cases hquery : query = address
    · subst hquery
      simp [setHandle]
    · simp [setHandle, hquery]
  shape query := by
    by_cases hname : query = modelName
    · subst hname
      exact sameShape_setHandle hget hsame
    · intro worker
      by_cases hworker : worker = address
      · subst hworker
        simp [setHandle, Dict.get?_set_of_ne _ _ hname]
      · simp [setHandle, hworker]

section Compute

variable [ShardModel μ τ κ]

/-- Computing changes nothing of a handle but its cache. -/
theorem computeShard_withoutCache (handle : ModelHandle μ κ) (request : RunShardRequest τ)
    (fault : Option (HopFault κ)) :
    withoutCache (computeShard handle request fault).1 = withoutCache handle := by
  unfold computeShard
  split
  · rfl
  · split <;> rfl
  · split
    · rfl
    · split <;> rfl

/-- On handles that differ in their caches only, a step that resets or finds
equal caches computes the same, and stores the same cache when it succeeds. -/
theorem computeShard_together {handle handle' : ModelHandle μ κ}
    {request : RunShardRequest τ} (hmode : request.pipelineMode = true)
    (hsame : withoutCache handle' = withoutCache handle)
    (hcaches : request.resetCache = true ∨ handle' = handle) (fault : Option (HopFault κ)) :
    (computeShard handle' request fault).2 = (computeShard handle request fault).2 ∧
      ∀ output, (computeShard handle request fault).2 = .ok output →
        (computeShard handle' request fault).1 = (computeShard handle request fault).1 := by
  rcases hcaches with hreset | rfl
  · have hmodel : handle'.model = handle.model := by
      have hmodel := congrArg ModelHandle.model hsame
      exact hmodel
    have hstart (h : ModelHandle μ κ) :
        startCache h request.resetCache = ShardModel.newCache h.model := by
      rw [hreset]
      cases hcache : h.cache <;> simp [startCache, hcache]
    simp only [computeShard, hmode, if_true, hstart, hmodel]
    split
    · exact ⟨rfl, fun output hok => by cases hok⟩
    · exact ⟨rfl, fun output hok => by cases hok⟩
    · exact ⟨rfl, fun output _ => setCache_of_withoutCache hsame _⟩
  · exact ⟨rfl, fun output _ => rfl⟩

end Compute

theorem lostReply_network (fault : Option (HopFault κ)) (outcome : RunShardOutcome μ τ κ) :
    (lostReply fault outcome).network = outcome.network := by
  unfold lostReply
  split <;> rfl

theorem lostReply_delivered (fault : Option (HopFault κ)) (outcome : RunShardOutcome μ τ κ) :
    (lostReply fault outcome).delivered = outcome.delivered := by
  unfold lostReply
  split <;> rfl

theorem lostReply_reply_congr (fault : Option (HopFault κ))
    {outcome outcome' : RunShardOutcome μ τ κ} (hreply : outcome'.reply = outcome.reply) :
    (lostReply fault outcome').reply = (lostReply fault outcome).reply := by
  unfold lostReply
  split
  · rfl
  · exact hreply

theorem forwardedReply_network (outcome : RunShardOutcome μ τ κ) :
    (forwardedReply outcome).network = outcome.network := by
  unfold forwardedReply
  split <;> rfl

theorem forwardedReply_delivered (outcome : RunShardOutcome μ τ κ) :
    (forwardedReply outcome).delivered = outcome.delivered := by
  unfold forwardedReply
  split <;> rfl

theorem forwardedReply_reply_congr {outcome outcome' : RunShardOutcome μ τ κ}
    (hreply : outcome'.reply = outcome.reply) :
    (forwardedReply outcome').reply = (forwardedReply outcome).reply := by
  unfold forwardedReply
  rw [hreply]
  split <;> rfl

theorem deliverResult_network (network : Network μ κ) (request : RunShardRequest τ)
    (output : τ) (hop : Hop κ) :
    (deliverResult network request output hop).network = network := by
  unfold deliverResult
  split <;> rfl

theorem deliverResult_delivered (network network' : Network μ κ)
    (request : RunShardRequest τ) (output : τ) (hop : Hop κ) :
    (deliverResult network' request output hop).delivered =
      (deliverResult network request output hop).delivered := by
  unfold deliverResult
  split <;> rfl

theorem deliverResult_reply (network network' : Network μ κ) (request : RunShardRequest τ)
    (output : τ) (hop : Hop κ) :
    (deliverResult network' request output hop).reply =
      (deliverResult network request output hop).reply := by
  unfold deliverResult
  split <;> rfl

/-- What two executions of one call have in common afterwards. -/
structure Together (modelName address : String) (left right : Network μ κ)
    (outcome outcome' : RunShardOutcome μ τ κ) : Prop where
  delivered : outcome'.delivered = outcome.delivered
  reply : outcome'.reply = outcome.reply
  shape : SameShape modelName outcome.network outcome'.network
  kept : ∀ worker, AgreesAt modelName left right worker →
    AgreesAt modelName outcome.network outcome'.network worker
  passed : outcome.delivered ≠ [] → AgreesFrom modelName outcome.network outcome'.network address

theorem Together.lostReply {modelName address : String} {left right : Network μ κ}
    {outcome outcome' : RunShardOutcome μ τ κ}
    (htogether : Together modelName address left right outcome outcome')
    (fault : Option (HopFault κ)) :
    Together modelName address left right (lostReply fault outcome)
      (lostReply fault outcome') where
  delivered := by
    rw [lostReply_delivered, lostReply_delivered]
    exact htogether.delivered
  reply := lostReply_reply_congr fault htogether.reply
  shape := by
    rw [lostReply_network, lostReply_network]
    exact htogether.shape
  kept := by
    rw [lostReply_network, lostReply_network]
    exact htogether.kept
  passed := by
    rw [lostReply_delivered, lostReply_network, lostReply_network]
    exact htogether.passed

theorem Together.forwardedReply {modelName address : String} {left right : Network μ κ}
    {outcome outcome' : RunShardOutcome μ τ κ}
    (htogether : Together modelName address left right outcome outcome') :
    Together modelName address left right (forwardedReply outcome)
      (forwardedReply outcome') where
  delivered := by
    rw [forwardedReply_delivered, forwardedReply_delivered]
    exact htogether.delivered
  reply := forwardedReply_reply_congr htogether.reply
  shape := by
    rw [forwardedReply_network, forwardedReply_network]
    exact htogether.shape
  kept := by
    rw [forwardedReply_network, forwardedReply_network]
    exact htogether.kept
  passed := by
    rw [forwardedReply_delivered, forwardedReply_network, forwardedReply_network]
    exact htogether.passed

theorem forwardRequest_pipelineMode {request : RunShardRequest τ}
    (hmode : request.pipelineMode = true) (output : τ) (hop : Hop κ) :
    (forwardRequest request output hop).pipelineMode = true := hmode

section Run

variable [ShardModel μ τ κ]

/-- Whatever goes wrong, a call changes nothing of the workers but caches. -/
theorem runShard_sameWorkers {fuel : Nat} {network : Network μ κ} {hops : Nat → Hop κ}
    {address : String} {request : RunShardRequest τ} (hmode : request.pipelineMode = true)
    {outcome : RunShardOutcome μ τ κ}
    (hrun : runShard fuel network hops address request = some outcome) :
    SameWorkers network outcome.network := by
  induction fuel generalizing network hops address request outcome with
  | zero => cases hrun
  | succ fuel ih =>
      cases (runShard_iff_hopRun hmode).mp hrun with
      | unreachable _ => exact SameWorkers.refl _
      | notLoaded _ _ => exact SameWorkers.refl _
      | failed _ hget _ =>
          rw [lostReply_network]
          exact sameWorkers_setHandle hget (computeShard_withoutCache _ _ _)
      | forwarded _ hget _ _ hinner =>
          rw [lostReply_network, forwardedReply_network]
          have hset := sameWorkers_setHandle hget
            (computeShard_withoutCache _ request (hops 0).fault)
          exact hset.trans (ih (forwardRequest_pipelineMode hmode _ _) hinner)
      | delivered _ hget _ _ =>
          rw [lostReply_network, deliverResult_network]
          exact sameWorkers_setHandle hget (computeShard_withoutCache _ _ _)

theorem runShard_shape {fuel : Nat} {network : Network μ κ} {hops : Nat → Hop κ}
    {address : String} {request : RunShardRequest τ} (hmode : request.pipelineMode = true)
    {outcome : RunShardOutcome μ τ κ}
    (hrun : runShard fuel network hops address request = some outcome) :
    SameShape request.modelName network outcome.network :=
  (runShard_sameWorkers hmode hrun).shape request.modelName

/-- Results are delivered under the id of the request. -/
theorem runShard_delivered_id {fuel : Nat} {network : Network μ κ} {hops : Nat → Hop κ}
    {address : String} {request : RunShardRequest τ} (hmode : request.pipelineMode = true)
    {outcome : RunShardOutcome μ τ κ}
    (hrun : runShard fuel network hops address request = some outcome)
    {delivered : DeliverResultRequest τ} (hmem : delivered ∈ outcome.delivered) :
    delivered.requestId = request.requestId := by
  induction fuel generalizing network hops address request outcome with
  | zero => cases hrun
  | succ fuel ih =>
      cases (runShard_iff_hopRun hmode).mp hrun with
      | unreachable _ => cases hmem
      | notLoaded _ _ => cases hmem
      | failed _ _ _ =>
          rw [lostReply_delivered] at hmem
          cases hmem
      | forwarded _ _ _ _ hinner =>
          rw [lostReply_delivered, forwardedReply_delivered] at hmem
          have hid := ih (forwardRequest_pipelineMode hmode _ _) hinner hmem
          exact hid
      | delivered _ _ _ _ =>
          rw [lostReply_delivered] at hmem
          unfold deliverResult at hmem
          split at hmem
          · cases hmem
          · obtain rfl := List.mem_singleton.mp hmem
            rfl

/-- The workers after one of them has computed, in both executions. -/
theorem setHandle_together {left right : Network μ κ} {address : String}
    {request : RunShardRequest τ} (hmode : request.pipelineMode = true)
    (hshape : SameShape request.modelName left right)
    (hcaches : request.resetCache = true ∨
      AgreesFrom request.modelName left right address)
    {handle : ModelHandle μ κ} (fault : Option (HopFault κ))
    (hget : (left address).models.get? request.modelName = some handle) :
    ∃ handle', (right address).models.get? request.modelName = some handle' ∧
      handle'.nextWorkerAddress = handle.nextWorkerAddress ∧
      (computeShard handle' request fault).2 = (computeShard handle request fault).2 ∧
      SameShape request.modelName
        (setHandle left address request.modelName (computeShard handle request fault).1)
        (setHandle right address request.modelName (computeShard handle' request fault).1) ∧
      (∀ worker, AgreesAt request.modelName left right worker →
        AgreesAt request.modelName
          (setHandle left address request.modelName (computeShard handle request fault).1)
          (setHandle right address request.modelName
            (computeShard handle' request fault).1) worker) ∧
      ∀ output, (computeShard handle request fault).2 = .ok output →
        AgreesAt request.modelName
          (setHandle left address request.modelName (computeShard handle request fault).1)
          (setHandle right address request.modelName
            (computeShard handle' request fault).1) address := by
  obtain ⟨handle', hget', hsame⟩ := hshape.handle hget
  have hcaches' : request.resetCache = true ∨ handle' = handle := by
    rcases hcaches with hreset | ⟨workers, hmem, _, hagree⟩
    · exact .inl hreset
    · have hequal := hagree address hmem
      rw [AgreesAt, hget, hget'] at hequal
      exact .inr (Option.some.inj hequal).symm
  obtain ⟨houtput, hhandle⟩ := computeShard_together hmode hsame hcaches' fault
  have hleft := sameShape_setHandle hget (computeShard_withoutCache handle request fault)
  have hright := sameShape_setHandle hget' (computeShard_withoutCache handle' request fault)
  refine ⟨handle', hget', nextWorkerAddress_of_withoutCache hsame, houtput,
    hleft.symm.trans (hshape.trans hright), ?_, ?_⟩
  · intro worker hagree
    unfold AgreesAt at hagree ⊢
    rw [setHandle_get?, setHandle_get?]
    split
    · next hworker =>
        subst hworker
        rw [hget, hget'] at hagree
        rw [Option.some.inj hagree]
    · exact hagree
  · intro output hok
    unfold AgreesAt
    rw [setHandle_get?, setHandle_get?, if_pos rfl, if_pos rfl, hhandle output hok]

/-- A call that resets, or that starts among workers with equal caches, runs
alike on workers that hold the same shards, and leaves the workers it passes
alike when it delivers. -/
theorem runShard_together {fuel : Nat} {left right : Network μ κ} {hops : Nat → Hop κ}
    {address : String} {request : RunShardRequest τ} (hmode : request.pipelineMode = true)
    (hshape : SameShape request.modelName left right)
    (hcaches : request.resetCache = true ∨
      AgreesFrom request.modelName left right address)
    {outcome : RunShardOutcome μ τ κ}
    (hrun : runShard fuel left hops address request = some outcome) :
    ∃ outcome', runShard fuel right hops address request = some outcome' ∧
      Together request.modelName address left right outcome outcome' := by
  induction fuel generalizing left right hops address request outcome with
  | zero => cases hrun
  | succ fuel ih =>
      cases (runShard_iff_hopRun hmode).mp hrun with
      | unreachable hfault =>
          exact ⟨_, (runShard_iff_hopRun hmode).mpr (.unreachable hfault),
            ⟨rfl, rfl, hshape, fun _ hagree => hagree, fun hne => absurd rfl hne⟩⟩
      | notLoaded hreached hget =>
          exact ⟨_, (runShard_iff_hopRun hmode).mpr
              (.notLoaded hreached (hshape.get?_none hget)),
            ⟨rfl, rfl, hshape, fun _ hagree => hagree, fun hne => absurd rfl hne⟩⟩
      | failed hreached hget hcompute =>
          obtain ⟨handle', hget', _, houtput, hshape₁, hkept, _⟩ :=
            setHandle_together hmode hshape hcaches (hops 0).fault hget
          refine ⟨_, (runShard_iff_hopRun hmode).mpr
            (.failed hreached hget' (houtput.trans hcompute)), ?_⟩
          apply Together.lostReply
          exact ⟨rfl, rfl, hshape₁, hkept, fun hne => absurd rfl hne⟩
      | @forwarded handle output inner hreached hget hcompute hnext hinner =>
          obtain ⟨handle', hget', hlink, houtput, hshape₁, hkept, hhere⟩ :=
            setHandle_together hmode hshape hcaches (hops 0).fault hget
          have hcaches₁ : (forwardRequest request output (hops 0)).resetCache = true ∨
              AgreesFrom request.modelName
                (setHandle left address request.modelName
                  (computeShard handle request (hops 0).fault).1)
                (setHandle right address request.modelName
                  (computeShard handle' request (hops 0).fault).1)
                handle.nextWorkerAddress := by
            rcases hcaches with hreset | ⟨workers, hmem, hclosed, hagree⟩
            · exact .inl hreset
            · have hleft := sameShape_setHandle hget
                (computeShard_withoutCache handle request (hops 0).fault)
              exact .inr ⟨workers, hclosed address hmem handle hget hnext,
                hclosed.congr hleft, fun worker hworker => hkept worker (hagree worker hworker)⟩
          obtain ⟨inner', hinner', htogether⟩ := ih (forwardRequest_pipelineMode hmode _ _)
            hshape₁ hcaches₁ hinner
          rw [← hlink] at hinner' hnext
          refine ⟨_, (runShard_iff_hopRun hmode).mpr
            (.forwarded hreached hget' (houtput.trans hcompute) hnext hinner'), ?_⟩
          apply Together.lostReply
          apply Together.forwardedReply
          refine ⟨htogether.delivered, htogether.reply, htogether.shape,
            fun worker hagree => htogether.kept worker (hkept worker hagree), ?_⟩
          intro hne
          obtain ⟨workers, hmem, hclosed, hagree⟩ := htogether.passed hne
          refine ⟨insert address workers, Set.mem_insert _ _, ?_, ?_⟩
          · -- The worker just passed still forwards to the rest of the chain.
            apply hclosed.insert
            intro other hother _
            have hset := sameShape_setHandle hget
              (computeShard_withoutCache handle request (hops 0).fault)
            have hpassed := runShard_shape (forwardRequest_pipelineMode hmode _ _) hinner
            rw [(hset.trans hpassed).nextWorkerAddress hget hother]
            exact hmem
          · intro worker hworker
            rcases Set.mem_insert_iff.mp hworker with rfl | hworker
            · exact htogether.kept worker (hhere output hcompute)
            · exact hagree worker hworker
      | @delivered handle output hreached hget hcompute hnext =>
          obtain ⟨handle', hget', hlink, houtput, hshape₁, hkept, hhere⟩ :=
            setHandle_together hmode hshape hcaches (hops 0).fault hget
          refine ⟨_, (runShard_iff_hopRun hmode).mpr
            (.delivered hreached hget' (houtput.trans hcompute) (hlink.trans hnext)), ?_⟩
          apply Together.lostReply
          refine ⟨deliverResult_delivered _ _ _ _ _, deliverResult_reply _ _ _ _ _, ?_, ?_, ?_⟩
          · rw [deliverResult_network, deliverResult_network]
            exact hshape₁
          · rw [deliverResult_network, deliverResult_network]
            exact hkept
          · intro _
            rw [deliverResult_network, deliverResult_network]
            refine ⟨{address}, rfl, ?_, ?_⟩
            · intro worker hworker other hother hother'
              obtain rfl := Set.mem_singleton_iff.mp hworker
              have hset := sameShape_setHandle hget
                (computeShard_withoutCache handle request (hops 0).fault)
              rw [hset.nextWorkerAddress hget hother, hnext] at hother'
              exact absurd rfl hother'
            · intro worker hworker
              obtain rfl := Set.mem_singleton_iff.mp hworker
              exact hhere output hcompute

end Run

end PiSSM.Pipeline
