import PiSSM.Pipeline.OneModelStore
import PiSSM.Pipeline.PlannedShards
import PiSSM.Pipeline.RefusedLoads

/-!
How a state of the service represents a state of the store, and that making a model resident
keeps it so: the eviction, the load with its workers, the refusal.
-/

namespace PiSSM.Pipeline

open PiSSM.Lib PiSSM.Inference PiSSM.Orchestrator

variable {γ ω H S : Type}

/-- Every node of the registry is the worker at its address. -/
def Located {μ κ : Type} (registry : NodeRegistry) (network : Network μ κ) : Prop :=
  ∀ node ∈ registry.nodes.values, (network (nodeAddress node)).nodeId = node.nodeId

section Represents

variable {around : Surroundings γ ω H S} (catalog : Catalog around)

/-- The workers of a plan hold their shards of the hosted model. -/
structure Placed (manifest : ModelManifest) (plan : DispatchPlan)
    (network : Network (MambaShardModule (List H) S) (Cache S)) : Prop where
  planned : ∃ registry, planDispatch manifest registry = .ok plan
  addresses : (plan.assignments.map ShardAssignment.address).Nodup
  shards : ∀ hosted model, catalog manifest = some hosted →
    around.library.fromPretrained hosted.checkpoint = .ok model → ∀ a ∈ plan.assignments,
      HoldsShard (hosted.wholeModel model) plan.totalLayers plan.modelName network a

/-- The workers hold the shards of the resident model and nothing else. -/
structure WorkersHold (store : OneModelStore)
    (network : Network (MambaShardModule (List H) S) (Cache S)) : Prop where
  idle : ∀ address, (network address).loading = ∅
  held : ∀ address name handle, (network address).models.get? name = some handle →
    ∃ plan, store.holds name = some plan ∧
      address ∈ plan.assignments.map ShardAssignment.address
  placed : ∀ name plan, store.holds name = some plan →
    ∃ manifest, store.modelRegistry.get name = some manifest ∧
      Placed catalog manifest plan network

/-- A state of the service represents a state of the store. -/
structure Represents (service : Service H S) (store : OneModelStore) : Prop where
  registry : store.registry = service.registry
  modelRegistry : store.modelRegistry = service.modelRegistry
  listed : ∀ name manifest, store.modelRegistry.get name = some manifest →
    (catalog manifest).isSome
  located : Located store.registry service.network
  table : Shows service.modelStates store
  workers : WorkersHold catalog store service.network

end Represents

/-- The assignments of a plan are at the addresses of their nodes. -/
theorem planDispatch_nodes {manifest : ModelManifest} {registry : NodeRegistry}
    {plan : DispatchPlan} (hplan : planDispatch manifest registry = .ok plan)
    {a : ShardAssignment} (ha : a ∈ plan.assignments) :
    ∃ node ∈ registry.nodes.values, nodeAddress node = a.address ∧ node.nodeId = a.nodeId := by
  have hnodes : plan.assignments.map (fun a => (a.address, a.nodeId)) =
      (registry.listNodes (some .available)).map fun node => (nodeAddress node, node.nodeId) := by
    obtain ⟨ranges, hsplit, rfl⟩ := planDispatch_ok hplan
    exact assignShard_map_node (fun a => (a.address, a.nodeId))
      (fun node => (nodeAddress node, node.nodeId)) (registry.listNodes (some .available)) [] _
      (splitLayers_tiles hsplit).1.symm fun _ _ _ => rfl
  have hmem : (a.address, a.nodeId) ∈ plan.assignments.map fun a => (a.address, a.nodeId) :=
    List.mem_map_of_mem ha
  rw [hnodes] at hmem
  obtain ⟨node, hlisted, heq⟩ := List.mem_map.mp hmem
  obtain ⟨haddress, hid⟩ := Prod.mk.inj heq
  exact ⟨node, (List.mem_filter.mp hlisted).1, haddress, hid⟩

section Workers

variable {around : Surroundings γ ω H S} {catalog : Catalog around} {store : OneModelStore}
  {network network' : Network (MambaShardModule (List H) S) (Cache S)}

theorem Located.of_nodeId {registry : NodeRegistry} (hlocated : Located registry network)
    (hsame : ∀ address, (network' address).nodeId = (network address).nodeId) :
    Located registry network' :=
  fun node hnode => (hsame _).trans (hlocated node hnode)

theorem Located.nodeId {registry : NodeRegistry} (hlocated : Located registry network)
    {manifest : ModelManifest} {plan : DispatchPlan}
    (hplan : planDispatch manifest registry = .ok plan) {a : ShardAssignment}
    (ha : a ∈ plan.assignments) : (network a.address).nodeId = a.nodeId := by
  obtain ⟨node, hnode, haddress, hid⟩ := planDispatch_nodes hplan ha
  rw [← haddress, ← hid]
  exact hlocated node hnode

/-- Workers with different ids have different addresses. -/
theorem Located.addresses {registry : NodeRegistry} (hlocated : Located registry network)
    {manifest : ModelManifest} {plan : DispatchPlan}
    (hplan : planDispatch manifest registry = .ok plan) :
    (plan.assignments.map ShardAssignment.address).Nodup := by
  refine List.Nodup.of_map (fun address => (network address).nodeId) ?_
  rw [List.map_map]
  have hids : plan.assignments.map ((fun address => (network address).nodeId) ∘
      ShardAssignment.address) = plan.assignments.map ShardAssignment.nodeId :=
    List.map_congr_left fun a ha => hlocated.nodeId hplan ha
  rw [hids]
  exact planDispatch_nodup hplan

theorem WorkersHold.modelName (hworkers : WorkersHold catalog store network) {name : String}
    {plan : DispatchPlan} (hholds : store.holds name = some plan) : plan.modelName = name := by
  obtain ⟨manifest, hget, ⟨registry, hplanned⟩, _, _⟩ := hworkers.placed name plan hholds
  obtain ⟨_, _, rfl⟩ := planDispatch_ok hplanned
  exact store.modelRegistry.keyed name manifest hget

theorem WorkersHold.of_sameCluster (hworkers : WorkersHold catalog store network)
    (hsame : SameCluster network network') : WorkersHold catalog store network' where
  idle address := (hsame.loading address).trans (hworkers.idle address)
  held address name handle hget := by
    obtain ⟨handle', hget', _⟩ := (hsame.shape name).symm.handle hget
    exact hworkers.held address name handle' hget'
  placed name plan hholds := by
    obtain ⟨manifest, hget, hplaced⟩ := hworkers.placed name plan hholds
    refine ⟨manifest, hget, hplaced.planned, hplaced.addresses, ?_⟩
    intro hosted model hhosted hmodel a ha
    exact (hplaced.shards hosted model hhosted hmodel a ha).of_sameWorkers hsame.toSameWorkers

/-- Without a resident model the workers hold nothing. -/
theorem WorkersHold.get?_of_free (hworkers : WorkersHold catalog store network)
    (hfree : ∀ name, store.holds name = none) (address name : String) :
    (network address).models.get? name = none := by
  cases hheld : (network address).models.get? name with
  | none => rfl
  | some handle =>
      obtain ⟨_, hholds, _⟩ := hworkers.held address name handle hheld
      rw [hfree] at hholds
      cases hholds

/-- Workers that have been asked to unload all they hold. -/
theorem WorkersHold.unload (hworkers : WorkersHold catalog store network)
    {calls : List UnloadCall} {after : OneModelStore}
    (hcover : ∀ name plan, store.holds name = some plan → ∀ a ∈ plan.assignments,
      ⟨name, a.address⟩ ∈ calls)
    (hafter : ∀ name, after.holds name = none) :
    WorkersHold catalog after (unloadShards network calls) where
  idle address := (unloadShards_loading network calls address).trans (hworkers.idle address)
  held address name handle hget := by
    rw [unloadShards_get?] at hget
    split at hget
    · cases hget
    · next hkept =>
        obtain ⟨plan, hholds, hmem⟩ := hworkers.held address name handle hget
        obtain ⟨a, ha, rfl⟩ := List.mem_map.mp hmem
        exact absurd (hcover name plan hholds a ha) hkept
  placed name plan hholds := by
    rw [hafter name] at hholds
    cases hholds

end Workers

section Loads

variable {around : Surroundings γ ω H S} {catalog : Catalog around} {store : OneModelStore}
  {service : Service H S} {manifest : ModelManifest} {plan : DispatchPlan}

/-- The metadata of a hosted checkpoint can be read. -/
theorem HostedModel.load_eq (hosted : HostedModel around manifest) :
    ModelStore.create.load around.hub around.autoConfig manifest =
      (⟨some hosted.checkpoint.weightMap,
        some (around.library.toJsonString hosted.config)⟩, .ok ()) := by
  simp only [ModelStore.load, hosted.hosts.metadata, hosted.configText]

section Deployed

variable {modelStore : ModelStore}
  {setup : DeploymentSetup (MambaShardModule (List H) S) (Cache S)}

/-- A load of a hosted manifest deploys its checkpoint. -/
def HostedModel.deployment (hosted : HostedModel around manifest)
    (hstarts : around.Starts service manifest plan modelStore setup)
    (hread : ModelStore.create.load around.hub around.autoConfig manifest =
      (modelStore, .ok ())) : HostedDeployment γ ω H S where
  hub := around.hub
  library := around.library
  autoConfig := around.autoConfig
  setup := setup
  config := hosted.config
  checkpoint := hosted.checkpoint
  embedding := hosted.embedding
  block := hosted.block
  norm := hosted.norm
  head := hosted.head
  hosts := by
    rw [hstarts.manifest]
    exact hosted.hosts
  parts := hosted.parts
  configText := by
    rw [hstarts.manifest]
    exact hosted.configText
  stored := by
    rw [hstarts.manifest, hstarts.modelStore]
    exact hread
  build := hstarts.build

theorem HostedModel.deployment_wholeModel (hosted : HostedModel around manifest)
    (hstarts : around.Starts service manifest plan modelStore setup)
    (hread : ModelStore.create.load around.hub around.autoConfig manifest =
      (modelStore, .ok ())) (model : ModelParameters ω) :
    (hosted.deployment hstarts hread).wholeModel model = hosted.wholeModel model := by
  obtain ⟨_, _, hlayers⟩ := (hosted.deployment hstarts hread).plan_of_manifest
  change setup.plan.totalLayers = setup.manifest.layers at hlayers
  rw [hstarts.manifest] at hlayers
  unfold HostedDeployment.wholeModel HostedModel.wholeModel
  change recurrentModel setup.plan.totalLayers _ _ _ _ = _
  rw [hlayers]
  rfl

/-- What the workers hold once a load has returned. -/
theorem WorkersHold.settle (hworkers : WorkersHold catalog store service.network)
    (hfree : ∀ name, store.holds name = none)
    (hget : store.modelRegistry.get manifest.name = some manifest)
    {hosted : HostedModel around manifest} (hhosted : catalog manifest = some hosted)
    (hstarts : around.Starts service manifest plan modelStore setup)
    (hread : ModelStore.create.load around.hub around.autoConfig manifest =
      (modelStore, .ok ()))
    {final : Deployment (MambaShardModule (List H) S) (Cache S)}
    (hrun : setup.system.ReachableVia (fun _ => DeploymentSetup.Own) final)
    (hphase : final.run.phase = .returned) :
    WorkersHold catalog (store.settle manifest.name plan) final.network := by
  have hreach := DeploymentSetup.elsewhere_of_own hrun
  have hguarantee := DeploymentSetup.guarantee_of_own hrun
  have hstart : setup.initial.network = service.network := hstarts.network
  have hname : setup.plan.modelName = manifest.name := by
    obtain ⟨_, _, hplan⟩ := planDispatch_ok setup.planned
    rw [hplan, hstarts.manifest]
  have hplan : setup.plan = plan := hstarts.plan
  have hnothing := hworkers.get?_of_free hfree
  refine ⟨?_, ?_, ?_⟩
  · intro address
    apply Finset.eq_empty_of_forall_notMem
    intro query hquery
    by_cases hmem : address ∈ setup.plan.assignments.map ShardAssignment.address
    · by_cases hother : query = setup.plan.modelName
      · obtain ⟨a, ha, rfl⟩ := List.mem_map.mp hmem
        rw [hother] at hquery
        exact DeploymentSetup.idle_of_returned hreach hphase ha hquery
      · rw [(hguarantee.elsewhere address).loading query hother, hstart,
          hworkers.idle address] at hquery
        exact Finset.notMem_empty _ hquery
    · rw [hguarantee.outside address hmem, hstart, hworkers.idle address] at hquery
      exact Finset.notMem_empty _ hquery
  · intro address name handle hheld
    have hmem : address ∈ setup.plan.assignments.map ShardAssignment.address := by
      by_contra hmem
      rw [hguarantee.outside address hmem, hstart, hnothing] at hheld
      cases hheld
    have hsame : name = manifest.name := by
      by_contra hother
      rw [← hname] at hother
      rw [(hguarantee.elsewhere address).models name hother, hstart, hnothing] at hheld
      cases hheld
    rw [hplan] at hmem
    exact ⟨plan, by rw [OneModelStore.holds_settle, if_pos hsame.symm], hmem⟩
  · intro name plan' hholds
    rw [OneModelStore.holds_settle] at hholds
    split at hholds
    · next hsame =>
        obtain rfl := Option.some.inj hholds
        subst hsame
        refine ⟨manifest, hget, ⟨setup.registry, ?_⟩, ?_, ?_⟩
        · rw [← hplan, ← hstarts.manifest]
          exact setup.planned
        · rw [← hplan]
          exact setup.addresses
        · intro hosted' model hhosted' hmodel a ha
          obtain rfl := Option.some.inj (hhosted.symm.trans hhosted')
          rw [← hplan] at ha ⊢
          rw [← hosted.deployment_wholeModel hstarts hread]
          exact (hosted.deployment hstarts hread).holdsShard hmodel ha
            (DeploymentSetup.deployed_of_returned hreach hphase a ha)
    · cases hholds

end Deployed

/-- A load of a hosted manifest onto free workers returns, and puts its shards in place. -/
theorem buildSession_spec (hworkers : WorkersHold catalog store service.network)
    (hfree : ∀ name, store.holds name = none)
    (hget : store.modelRegistry.get manifest.name = some manifest)
    {hosted : HostedModel around manifest} (hhosted : catalog manifest = some hosted)
    {built : Service H S} {outcome : Except PyException Unit}
    (hbuild : around.BuildSession service manifest plan built outcome) :
    ∃ network shardStore,
      built = { service with network := network, shardStore := shardStore } ∧
      outcome = .ok () ∧
      (∀ address, (network address).nodeId = (service.network address).nodeId) ∧
      WorkersHold catalog (store.settle manifest.name plan) network := by
  cases hbuild with
  | unreadable hread =>
      rw [hosted.load_eq] at hread
      cases (Prod.mk.inj hread).2
  | raised hread hstarts hrun _ hphase =>
      obtain ⟨model, hmodel, _⟩ := around.library.pretrained hosted.checkpoint
      exact absurd hphase ((hosted.deployment hstarts hread).not_raised hmodel
        (DeploymentSetup.elsewhere_of_own hrun) _)
  | @returned _ setup final hread hstarts hrun _ hphase =>
      refine ⟨final.network, final.store, rfl, ?_, ?_,
        hworkers.settle hfree hget hhosted hstarts hread hrun hphase⟩
      · rw [hosted.tokenizerRead]
        rfl
      · intro address
        rw [← hstarts.network]
        exact ((DeploymentSetup.guarantee_of_own hrun).elsewhere address).nodeId

/-- There is such a load. -/
theorem exists_buildSession (hlocated : Located service.registry service.network)
    (hworkers : WorkersHold catalog store service.network)
    (hfree : ∀ name, store.holds name = none) (hosted : HostedModel around manifest)
    (hplan : planDispatch manifest service.registry = .ok plan) :
    ∃ built outcome, around.BuildSession service manifest plan built outcome := by
  have harch : plan.arch ∈ archToShardClass := by
    obtain ⟨_, _, rfl⟩ := planDispatch_ok hplan
    exact hosted.hosts.arch
  have hnothing := hworkers.get?_of_free hfree
  let setup : DeploymentSetup (MambaShardModule (List H) S) (Cache S) := {
    manifest := manifest
    registry := service.registry
    plan := plan
    modelStore := ⟨some hosted.checkpoint.weightMap,
      some (around.library.toJsonString hosted.config)⟩
    callbackAddress := around.callbackAddress
    build := buildShard around.hub around.library
    resultStore := service.shardStore
    network := service.network
    planned := hplan
    addresses := hlocated.addresses hplan
    named := fun _ _ => extractShard_named hosted.checkpoint.toMambaCheckpoint harch _ _ _ _ _
    nodeId := fun _ ha => hlocated.nodeId hplan ha
    fresh := fun a _ => ⟨hnothing _ _, by
      rw [hworkers.idle]
      exact Finset.notMem_empty _⟩ }
  have hstarts : around.Starts service manifest plan setup.modelStore setup :=
    ⟨rfl, rfl, rfl, rfl, rfl, rfl, rfl, rfl⟩
  obtain ⟨final, hrun, hstuck⟩ := DeploymentSetup.exists_stuck
    (.init rfl : setup.system.ReachableVia (fun _ => DeploymentSetup.Own) setup.initial)
  rcases DeploymentSetup.ended_of_stuck (DeploymentSetup.elsewhere_of_own hrun) hstuck with
    hphase | ⟨err, hphase⟩
  · exact ⟨_, _, .returned hosted.load_eq hstarts hrun hstuck hphase⟩
  · exact ⟨_, _, .raised hosted.load_eq hstarts hrun hstuck hphase⟩

end Loads

section Requests

variable {around : Surroundings γ ω H S} {catalog : Catalog around} {store : OneModelStore}
  {service : Service H S}

theorem Represents.evict (hrep : Represents catalog service store) :
    Represents catalog service.evict store.evict where
  registry := hrep.registry
  modelRegistry := hrep.modelRegistry
  listed := hrep.listed
  located := hrep.located.of_nodeId (unloadShards_nodeId _ _)
  table := hrep.table.evict
  workers := by
    refine hrep.workers.unload ?_ fun name => rfl
    intro name plan hholds a ha
    obtain ⟨loader, hget⟩ := hrep.table.get?_of_holds hholds
    refine mem_evictionCalls.mpr ⟨name, _, ⟨loader, plan⟩, a, hget, rfl, rfl, ha, ?_⟩
    rw [hrep.workers.modelName hholds]

/-- The old session of a redistribution is taken down. -/
theorem Represents.drop (hrep : Represents catalog service store) {name : String}
    {entry : ModelState} (hget : service.modelStates.get? name = some entry) :
    Represents catalog { service with
      modelStates := service.modelStates.erase name
      network := unloadShards service.network (unloadCalls entry.session) } (store.drop name) where
  registry := hrep.registry
  modelRegistry := hrep.modelRegistry
  listed := hrep.listed
  located := hrep.located.of_nodeId (unloadShards_nodeId _ _)
  table := hrep.table.drop name
  workers := by
    cases hholds : store.holds name with
    | some plan =>
        obtain ⟨loader, hready⟩ := hrep.table.get?_of_holds hholds
        obtain rfl := Option.some.inj (hget.symm.trans hready)
        have honly (query : String) (plan' : DispatchPlan)
            (hquery : store.holds query = some plan') : query = name ∧ plan' = plan := by
          have hresident := (OneModelStore.holds_eq_some.mp hquery).symm.trans
            (OneModelStore.holds_eq_some.mp hholds)
          exact Prod.mk.inj (Option.some.inj hresident)
        refine hrep.workers.unload ?_ ?_
        · intro query plan' hquery a ha
          obtain ⟨rfl, rfl⟩ := honly query plan' hquery
          refine List.mem_map.mpr ⟨a, ha, ?_⟩
          rw [hrep.workers.modelName hholds]
        · intro query
          rw [OneModelStore.holds_drop]
          split
          · rfl
          · next hother =>
              cases hquery : store.holds query with
              | none => rfl
              | some plan' => exact absurd (honly query plan' hquery).1 hother
    | none =>
        have hsession : entry.session = none := by
          rw [hrep.table.get?_of_failed hholds] at hget
          obtain ⟨message, _, rfl⟩ := Option.map_eq_some_iff.mp hget
          rfl
        have hsame (query : String) : (store.drop name).holds query = store.holds query := by
          rw [OneModelStore.holds_drop]
          split
          · next hquery => rw [hquery, hholds]
          · rfl
        rw [hsession]
        refine ⟨hrep.workers.idle, ?_, ?_⟩
        · intro address query handle hheld
          rw [hsame]
          exact hrep.workers.held address query handle hheld
        · intro query plan hquery
          rw [hsame] at hquery
          exact hrep.workers.placed query plan hquery

/-- `_ensure_loading_started` up to its thread. -/
theorem Represents.ensureLoadingStarted_cases (hrep : Represents catalog service store)
    (manifest : ModelManifest) :
    (∃ plan loader, store.holds manifest.name = some plan ∧
      service.ensureLoadingStarted manifest =
        (service, .ok (readyState loader plan, none))) ∨
    (store.holds manifest.name = none ∧ ∃ message,
      planDispatch manifest store.registry = .error (.dispatchError message) ∧
      service.ensureLoadingStarted manifest =
        (service.evict.setState manifest.name (failedState message),
          .ok (failedState message, none))) ∨
    (store.holds manifest.name = none ∧ ∃ plan,
      planDispatch manifest store.registry = .ok plan ∧
      service.ensureLoadingStarted manifest =
        (service.evict.setState manifest.name ⟨.loading, some plan, none, none⟩,
          .ok (⟨.loading, some plan, none, none⟩, some plan))) := by
  unfold Service.ensureLoadingStarted
  cases hholds : store.holds manifest.name with
  | some plan =>
      obtain ⟨loader, hget⟩ := hrep.table.get?_of_holds hholds
      refine .inl ⟨plan, loader, rfl, ?_⟩
      rw [hget]
      rfl
  | none =>
      have hidle : (service.modelStates.get? manifest.name).filter ModelState.isActive = none := by
        rw [hrep.table.get?_of_failed hholds]
        cases store.failed manifest.name with
        | none => rfl
        | some message => rfl
      have hregistry : service.evict.registry = store.registry := hrep.registry.symm
      simp only [hidle, hregistry]
      cases hplan : planDispatch manifest store.registry with
      | ok plan => exact .inr (.inr ⟨trivial, plan, rfl, rfl⟩)
      | error err =>
          obtain ⟨message, rfl⟩ := planDispatch_error hplan
          exact .inr (.inl ⟨trivial, message, rfl, rfl⟩)

/-- The store after a refusal. -/
theorem Represents.refuse (hrep : Represents catalog service store) (name message : String) :
    Represents catalog (service.evict.setState name (failedState message))
      (store.refuse name message) where
  registry := hrep.registry
  modelRegistry := hrep.modelRegistry
  listed := hrep.listed
  located := hrep.evict.located
  table := by
    refine Shows.set (fun query _ => hrep.evict.table query) fun query => ?_
    change (store.evict.refuse name message).entry query = _
    exact OneModelStore.entry_refuse rfl
  workers :=
    have hworkers := hrep.evict.workers
    ⟨hworkers.idle, hworkers.held, hworkers.placed⟩

/-- `_ensure_loading_started` with its load makes the model resident in the store. -/
theorem Represents.ensures (hrep : Represents catalog service store) {manifest : ModelManifest}
    (hget : store.modelRegistry.get manifest.name = some manifest) {next : Service H S}
    {outcome : Except PyException ModelState}
    (hensures : around.Ensures service manifest next outcome) :
    Represents catalog next (store.makeResident manifest) ∧
      ∃ entry, outcome = .ok entry ∧ forgetLoader entry = store.residentAnswer manifest := by
  unfold OneModelStore.makeResident OneModelStore.residentAnswer
  rcases hrep.ensureLoadingStarted_cases manifest with ⟨plan, loader, hholds, hensure⟩ |
    ⟨hholds, message, hplan, hensure⟩ | ⟨hholds, plan, hplan, hensure⟩
  · simp only [hholds]
    cases hensures with
    | settled hensure' =>
        obtain ⟨rfl, hentry⟩ := Prod.mk.inj (hensure.symm.trans hensure')
        obtain ⟨rfl, _⟩ := Prod.mk.inj (Except.ok.inj hentry)
        exact ⟨hrep, _, rfl, rfl⟩
    | raised hensure' => cases (Prod.mk.inj (hensure.symm.trans hensure')).2
    | started hensure' _ => cases (Prod.mk.inj (hensure.symm.trans hensure')).2
  · simp only [hholds, hplan]
    cases hensures with
    | settled hensure' =>
        obtain ⟨rfl, hentry⟩ := Prod.mk.inj (hensure.symm.trans hensure')
        obtain ⟨rfl, _⟩ := Prod.mk.inj (Except.ok.inj hentry)
        exact ⟨hrep.refuse _ _, _, rfl, rfl⟩
    | raised hensure' => cases (Prod.mk.inj (hensure.symm.trans hensure')).2
    | started hensure' _ => cases (Prod.mk.inj (hensure.symm.trans hensure')).2
  · simp only [hholds, hplan]
    cases hensures with
    | settled hensure' => cases (Prod.mk.inj (hensure.symm.trans hensure')).2
    | raised hensure' => cases (Prod.mk.inj (hensure.symm.trans hensure')).2
    | started hensure' hbuild =>
        obtain ⟨rfl, hentry⟩ := Prod.mk.inj (hensure.symm.trans hensure')
        obtain ⟨rfl, hsome⟩ := Prod.mk.inj (Except.ok.inj hentry)
        obtain rfl := Option.some.inj hsome
        obtain ⟨hosted, hhosted⟩ := Option.isSome_iff_exists.mp (hrep.listed _ _ hget)
        have hevict := hrep.evict
        have hevicted : WorkersHold catalog store.evict (service.evict.setState manifest.name
          ⟨.loading, some plan, none, none⟩).network := hevict.workers
        obtain ⟨network, shardStore, rfl, rfl, hnodes, hworkers⟩ :=
          buildSession_spec hevicted (fun _ => rfl) hget hhosted hbuild
        refine ⟨⟨hrep.registry, hrep.modelRegistry, hrep.listed,
          hevict.located.of_nodeId hnodes, ?_, ⟨hworkers.idle, hworkers.held,
            hworkers.placed⟩⟩, _, rfl, rfl⟩
        have hothers (query : String) (hquery : query ≠ manifest.name) :
            ((service.evict.setState manifest.name
              ⟨.loading, some plan, none, none⟩).modelStates.get? query).map forgetLoader =
                store.evict.entry query := by
          change (((evictLoaded service.modelStates).set manifest.name _).get? query).map
            forgetLoader = _
          rw [Dict.get?_set_of_ne _ _ hquery]
          exact hevict.table query
        refine Shows.set hothers fun query => ?_
        change (store.evict.settle manifest.name plan).entry query = _
        exact OneModelStore.entry_settle rfl

/-- It can be run to its end. -/
theorem Represents.exists_ensures (hrep : Represents catalog service store)
    {manifest : ModelManifest}
    (hget : store.modelRegistry.get manifest.name = some manifest) :
    ∃ next outcome, around.Ensures service manifest next outcome := by
  rcases hrep.ensureLoadingStarted_cases manifest with ⟨plan, loader, _, hensure⟩ |
    ⟨_, message, _, hensure⟩ | ⟨_, plan, hplan, hensure⟩
  · exact ⟨_, _, .settled hensure⟩
  · exact ⟨_, _, .settled hensure⟩
  · obtain ⟨hosted, _⟩ := Option.isSome_iff_exists.mp (hrep.listed _ _ hget)
    have hevict := hrep.evict
    rw [hrep.registry] at hplan
    have hlocated : Located service.registry service.evict.network := by
      rw [← hrep.registry]
      exact hevict.located
    have hevicted : WorkersHold catalog store.evict (service.evict.setState manifest.name
      ⟨.loading, some plan, none, none⟩).network := hevict.workers
    obtain ⟨built, outcome, hbuild⟩ :=
      exists_buildSession hlocated hevicted (fun _ => rfl) hosted hplan
    exact ⟨_, _, .started hensure hbuild⟩

end Requests

end PiSSM.Pipeline
