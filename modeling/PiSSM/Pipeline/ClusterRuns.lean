import PiSSM.Orchestrator.Cluster
import PiSSM.Pipeline.CacheAgreement

/-!
What all runs of the cluster have in common. The HTTP API of a cluster runs as
it does on its own; every loader thread works on a plan of its model; a job of a
worker goes back to the one `LoadShard` request its ticket names; and forward
passes change nothing of the workers but caches.
-/

namespace PiSSM.Orchestrator

open PiSSM.Lib PiSSM.Inference

namespace HttpState

variable {state next : HttpState} {label : HttpLabel}

/-- The plan is one that `plan_dispatch` returns for the manifest. -/
def Planned (manifest : ModelManifest) (plan : DispatchPlan) : Prop :=
  ∃ registry, planDispatch manifest registry = .ok plan

theorem Planned.modelName {manifest : ModelManifest} {plan : DispatchPlan}
    (hplanned : Planned manifest plan) : plan.modelName = manifest.name := by
  obtain ⟨registry, hplan⟩ := hplanned
  obtain ⟨ranges, _, rfl⟩ := planDispatch_ok hplan
  rfl

theorem Planned.nodup {manifest : ModelManifest} {plan : DispatchPlan}
    (hplanned : Planned manifest plan) :
    (plan.assignments.map ShardAssignment.nodeId).Nodup := by
  obtain ⟨registry, hplan⟩ := hplanned
  exact planDispatch_nodup hplan

/-- What is about to be inserted, and what is being loaded, has been planned. -/
structure PlansOk (state : HttpState) : Prop where
  recording : ∀ id request plan, state.requests id = some request →
    request.phase = .recording (.ok plan) → Planned request.manifest plan
  loaders : ∀ loader thread, state.loaders loader = some thread →
    Planned thread.manifest thread.plan

/-- The requests after one has moved. -/
theorem setPhase_requests {id id' : Nat} {request found : HttpRequest} {phase : RequestPhase}
    (hget : (state.setPhase id request phase).requests id' = some found) :
    found = { request with phase := phase } ∨ state.requests id' = some found := by
  simp only [setPhase, Function.update_apply] at hget
  split at hget
  · exact .inl (Option.some.inj hget).symm
  · exact .inr hget

theorem PlansOk.move_out {id : Nat} {request : HttpRequest} {phase : RequestPhase}
    (hok : state.PlansOk) (hphase : phase.inWindow = false) (id' : Nat)
    (found : HttpRequest) (plan : DispatchPlan)
    (hget : (state.setPhase id request phase).requests id' = some found)
    (hrecording : found.phase = .recording (.ok plan)) : Planned found.manifest plan := by
  rcases setPhase_requests hget with rfl | hold
  · have heq : phase = .recording (.ok plan) := hrecording
    rw [heq] at hphase
    cases hphase
  · exact hok.recording id' found plan hold hrecording

theorem PlansOk.step (hok : state.PlansOk) (htrans : Transition state label next) :
    next.PlansOk := by
  cases htrans with
  | registry _ _ => exact ⟨hok.recording, hok.loaders⟩
  | post _ hphase =>
      refine ⟨?_, hok.loaders⟩
      intro id found plan hget hrecording
      simp only [Function.update_apply] at hget
      split at hget
      · obtain rfl := Option.some.inj hget
        dsimp only at hrecording
        rw [hrecording] at hphase
        cases hphase
      · exact hok.recording id found plan hget hrecording
  | move hget hwindow hplan =>
      refine ⟨?_, hok.loaders⟩
      intro id found plan hfound hrecording
      rcases setPhase_requests hfound with rfl | hold
      · exact ⟨state.registry, hplan plan hrecording⟩
      · exact hok.recording id found plan hold hrecording
  | takeDown _ _ _ => exact ⟨hok.move_out rfl, hok.loaders⟩
  | @evict id request calls _ _ =>
      refine ⟨?_, hok.loaders⟩
      intro id' found plan hfound hrecording
      have hrequest : found = _ ∨ state.requests id' = some found :=
        setPhase_requests hfound
      rcases hrequest with rfl | hold
      · cases hrecording
      · exact hok.recording id' found plan hold hrecording
  | planFailed _ _ hphase => exact ⟨hok.move_out hphase, hok.loaders⟩
  | @started id loader request plan phase hget hrecording hphase _ =>
      refine ⟨hok.move_out hphase, ?_⟩
      intro loader' thread hthread
      simp only [Function.update_apply] at hthread
      split at hthread
      · obtain rfl := Option.some.inj hthread
        exact hok.recording id request plan hget hrecording
      · exact hok.loaders loader' thread hthread
  | @ended loader thread _ hget _ =>
      refine ⟨hok.recording, ?_⟩
      intro loader' found hfound
      simp only [Function.update_apply] at hfound
      split at hfound
      · obtain rfl := Option.some.inj hfound
        exact hok.loaders loader thread hget
      · exact hok.loaders loader' found hfound

theorem plansOk_of_reachable {registry : NodeRegistry}
    (hreach : (system registry).Reachable state) : state.PlansOk := by
  apply hreach.invariant
  · rintro _ rfl
    constructor
    · intro id request plan hget
      simp [create] at hget
    · intro loader thread hget
      simp [create] at hget
  · intro s label t _ hok _ hstep
    exact hok.step (step_transition hstep)

/-- A loader thread keeps its manifest and its plan, and once it has ended it
does not run again. -/
theorem Transition.loader_kept (htrans : Transition state label next) {loader : Nat}
    {thread : LoaderThread} (hget : state.loaders loader = some thread) :
    ∃ thread', next.loaders loader = some thread' ∧ thread'.manifest = thread.manifest ∧
      thread'.plan = thread.plan ∧ (thread'.running = true → thread.running = true) := by
  cases htrans with
  | registry _ _ | post _ _ | move _ _ _ | takeDown _ _ _ | evict _ _ | planFailed _ _ _ =>
      exact ⟨thread, hget, rfl, rfl, id⟩
  | @started _ loader' request plan phase _ _ _ hfresh =>
      have hne : loader ≠ loader' := by
        rintro rfl
        rw [hfresh] at hget
        cases hget
      refine ⟨thread, ?_, rfl, rfl, id⟩
      simp only [Function.update_of_ne hne]
      exact hget
  | @ended loader' thread' _ hthread _ =>
      by_cases heq : loader = loader'
      · subst heq
        obtain rfl : thread' = thread := Option.some.inj (hthread.symm.trans hget)
        refine ⟨{ thread' with running := false }, ?_, rfl, rfl, fun hrun => by cases hrun⟩
        simp only [Function.update_self]
      · refine ⟨thread, ?_, rfl, rfl, id⟩
        simp only [Function.update_of_ne heq]
        exact hget

theorem Transition.loader_started (htrans : Transition state label next) {loader : Nat}
    {thread : LoaderThread} (hget : next.loaders loader = some thread) :
    (∃ thread', state.loaders loader = some thread') ∨
      ∃ id, label = .request (.record id loader) := by
  cases htrans with
  | registry _ _ | post _ _ | move _ _ _ | takeDown _ _ _ | evict _ _ | planFailed _ _ _ =>
      exact .inl ⟨thread, hget⟩
  | @started id other request plan phase _ _ _ _ =>
      by_cases heq : loader = other
      · subst heq
        exact .inr ⟨id, rfl⟩
      · simp only [Function.update_of_ne heq] at hget
        exact .inl ⟨thread, hget⟩
  | @ended other found _ hfound _ =>
      by_cases heq : loader = other
      · subst heq
        exact .inl ⟨found, hfound⟩
      · simp only [Function.update_of_ne heq] at hget
        exact .inl ⟨thread, hget⟩

end HttpState

namespace LoadRun

variable {T : Type*} {run next : LoadRun T}

/-- The `LoadShard` request of this assignment has not been sent. -/
def Unsent (run : LoadRun T) (index : Nat) : Prop :=
  match run.phase with
  | .creating _ => True
  | .dispatching next => next ≤ index
  | _ => False

/-- Later in the same call. -/
structure Follows (run next : LoadRun T) : Prop where
  plan : next.plan = run.plan
  unsent : ∀ index, next.Unsent index → run.Unsent index

theorem Follows.of_phase (hplan : next.plan = run.plan) (hphase : next.phase = run.phase) :
    Follows run next := by
  refine ⟨hplan, ?_⟩
  intro index hunsent
  unfold Unsent at hunsent ⊢
  rw [hphase] at hunsent
  exact hunsent

theorem createSlot_follows {store store' : ResultStore (MarkedReport T)}
    (hstep : run.createSlot store = some (next, store')) : Follows run next := by
  obtain ⟨index, assignment, hphase, _, rfl, _⟩ := createSlot_some hstep
  refine ⟨rfl, ?_⟩
  intro other _
  simp [Unsent, hphase]

/-- A response uses up the request of its iteration. -/
theorem dispatched_follows {response : Except PyException LoadShardResponse}
    (hstep : run.dispatched response = some next) :
    Follows run next ∧ ∀ index, run.phase = .dispatching index → ¬ next.Unsent index := by
  obtain ⟨index, hphase, ⟨err, rfl⟩ | ⟨_, rfl⟩ | ⟨_, rfl⟩⟩ := dispatched_some hstep
  · exact ⟨⟨rfl, fun _ hunsent => hunsent.elim⟩, fun _ _ => id⟩
  · refine ⟨⟨rfl, ?_⟩, ?_⟩
    · intro other hunsent
      have hle : index + 1 ≤ other := hunsent
      simp only [Unsent, hphase]
      omega
    · intro other hother hunsent
      have hle : index + 1 ≤ other := hunsent
      obtain rfl : index = other := by simpa [hphase] using hother
      omega
  · exact ⟨⟨rfl, fun _ hunsent => hunsent.elim⟩, fun _ _ => id⟩

theorem startWait_follows {store : ResultStore (MarkedReport T)} {index : Nat}
    (hstep : run.startWait index store = some next) : Follows run next := by
  obtain ⟨_, _, _, ⟨err, _, rfl⟩ | ⟨event, _, rfl⟩⟩ := startWait_some hstep
  · exact .of_phase rfl rfl
  · exact .of_phase rfl rfl

theorem wake_follows {store store' : ResultStore (MarkedReport T)} {index : Nat}
    (hstep : run.wake index store = some (next, store')) : Follows run next := by
  obtain ⟨_, _, _, _, _, rfl, _⟩ := wake_some hstep
  exact .of_phase rfl rfl

theorem collect_follows {index : Nat} (hstep : run.collect index = some next) :
    Follows run next := by
  obtain ⟨_, _, _, _, _, _, ⟨err, _, rfl⟩ | ⟨_, rfl⟩⟩ := collect_some hstep
  · exact ⟨rfl, fun _ hunsent => hunsent.elim⟩
  · refine ⟨rfl, ?_⟩
    intro other hunsent
    by_cases hfull : insert index run.collected = Finset.range run.plan.assignments.length
    · simp only [Unsent, if_pos hfull] at hunsent
    · simp only [Unsent, if_neg hfull] at hunsent

theorem shutdown_follows (hstep : run.shutdown = some next) : Follows run next := by
  obtain ⟨err, _, rfl⟩ := shutdown_some hstep
  exact ⟨rfl, fun _ hunsent => hunsent.elim⟩

end LoadRun

namespace ClusterSetup

variable {setup : ClusterSetup} {cluster next : Cluster} {label : ClusterLabel}

/-- What a move does to the HTTP API is a step of it, with the same label if it
is one of a request, or nothing. -/
theorem Move.http (hmove : Move setup cluster label next) :
    next.http = cluster.http ∨
      ∃ httpLabel, cluster.http.step httpLabel = some next.http ∧
        ∀ requestLabel, httpLabel = .request requestLabel → label = .request requestLabel := by
  cases hmove with
  | request hhttp =>
      refine .inr ⟨_, hhttp, ?_⟩
      intro requestLabel heq
      cases heq
      rfl
  | unloadFailed hhttp | unloaded _ hhttp | finished _ hhttp | tokenizerFailed hhttp
  | generationFailed _ _ hhttp =>
      exact .inr ⟨_, hhttp, fun requestLabel heq => by cases heq⟩
  | released _ _ hlabel hhttp =>
      refine .inr ⟨_, hhttp, ?_⟩
      rintro requestLabel rfl
      rcases hlabel with heq | ⟨_, heq⟩ <;> cases heq
  | prepared _ _ | prepareFailed _ _ | slotCreated _ _ | dispatchFailed _ _
  | dispatched _ _ _ _ _ _ | waitStarted _ _ | woken _ _ | collected _ _ | shutDown _ _
  | concluded _ _ | jobFinished _ _ | reportDelivered _ | reportDropped _
  | acquired _ _ _ _ | generated _ _ _ => exact .inl rfl

/-- The HTTP API of a cluster runs as it does on its own. -/
theorem http_reachable (hreach : setup.system.Reachable cluster) :
    (HttpState.system setup.registry).Reachable cluster.http := by
  apply hreach.simulates Cluster.http
  · rintro _ rfl
    rfl
  · intro s label t _ _ hstep
    rcases (step_move hstep).http with heq | ⟨httpLabel, hhttp, _⟩
    · exact .inl heq
    · exact .inr ⟨httpLabel, trivial, hhttp⟩

theorem Move.loader_kept (hmove : Move setup cluster label next) {loader : Nat}
    {thread : LoaderThread} (hget : cluster.http.loaders loader = some thread) :
    ∃ thread', next.http.loaders loader = some thread' ∧
      thread'.manifest = thread.manifest ∧ thread'.plan = thread.plan ∧
      (thread'.running = true → thread.running = true) := by
  rcases hmove.http with heq | ⟨httpLabel, hhttp, _⟩
  · rw [heq]
    exact ⟨thread, hget, rfl, rfl, id⟩
  · exact (HttpState.step_transition hhttp).loader_kept hget

/-- What a move does to a call of `load`: it begins with the plan of its thread,
goes on or stays as it is. -/
inductive LoadMove (cluster next : Cluster) (loader : Nat) : Prop where
  | kept (hkept : next.loads loader = cluster.loads loader)
  | begun {thread : LoaderThread} (hthread : cluster.http.loaders loader = some thread)
      (hload : cluster.loads loader = ⟨none, none⟩)
      (hnext : next.loads loader = ⟨some (.start thread.plan), none⟩)
  | abandoned {err : PyException} (hload : cluster.loads loader = ⟨none, none⟩)
      (hnext : next.loads loader = ⟨none, some (.error err)⟩)
  | went {run after : LoadRun Ticket} {outcome outcome' : Option (Except PyException Unit)}
      (hload : cluster.loads loader = ⟨some run, outcome⟩)
      (hnext : next.loads loader = ⟨some after, outcome'⟩) (hfollows : run.Follows after)

/-- An update of one call. -/
theorem LoadMove.update {loader other : Nat} {progress : LoadProgress}
    (hloads : next.loads = Function.update cluster.loads other progress)
    (hown : next.loads other = progress → LoadMove cluster next other) :
    LoadMove cluster next loader := by
  by_cases heq : loader = other
  · subst heq
    apply hown
    rw [hloads, Function.update_self]
  · apply LoadMove.kept
    rw [hloads, Function.update_of_ne heq]

theorem Move.load_cases (hmove : Move setup cluster label next) (loader : Nat) :
    LoadMove cluster next loader := by
  cases hmove with
  | request _ | unloadFailed _ | unloaded _ _ | finished _ _ | tokenizerFailed _
  | generationFailed _ _ _ | released _ _ _ _ | jobFinished _ _ | reportDelivered _
  | reportDropped _ | acquired _ _ _ _ | generated _ _ _ => exact .kept rfl
  | prepared hthread hload =>
      exact .update rfl fun hnext => .begun hthread hload hnext
  | prepareFailed _ hload => exact .update rfl fun hnext => .abandoned hload hnext
  | slotCreated hopen hcreate =>
      exact .update rfl fun hnext => .went hopen hnext (LoadRun.createSlot_follows hcreate)
  | dispatchFailed hopen hdispatched | dispatched hopen _ _ _ _ hdispatched =>
      have hfollows := (LoadRun.dispatched_follows hdispatched).1
      exact .update rfl fun hnext => .went hopen hnext hfollows
  | waitStarted hrun hwait =>
      exact .update rfl fun hnext => .went hrun hnext (LoadRun.startWait_follows hwait)
  | woken hrun hwake =>
      exact .update rfl fun hnext => .went hrun hnext (LoadRun.wake_follows hwake)
  | collected hopen hcollect =>
      exact .update rfl fun hnext => .went hopen hnext (LoadRun.collect_follows hcollect)
  | shutDown hopen hshutdown =>
      exact .update rfl fun hnext => .went hopen hnext (LoadRun.shutdown_follows hshutdown)
  | concluded hopen _ =>
      exact .update rfl fun hnext => .went hopen hnext (.of_phase rfl rfl)

/-- What a move does to the job of a ticket. -/
inductive JobMove (setup : ClusterSetup) (cluster next : Cluster) (ticket : Ticket) : Prop where
  | kept (hkept : next.jobs ticket = cluster.jobs ticket)
  | accepted {run after : LoadRun Ticket} {assignment : ShardAssignment}
      {tensorLocations : List TensorLocationSpec} {configJson : String}
      {servicer : InferenceServicer TracedShard (List TensorTag)}
      {response : LoadShardResponse} {thread : LoadThread}
      (hopen : cluster.loads ticket.loader = ⟨some run, none⟩)
      (hphase : run.phase = .dispatching ticket.index)
      (hget : run.plan.assignments[ticket.index]? = some assignment)
      (hload : (cluster.network assignment.address).loadShard
        (setup.loadRequest run.plan assignment tensorLocations configJson) =
          (servicer, response, some thread))
      (hafter : next.loads ticket.loader = ⟨some after, none⟩)
      (hsent : ¬ after.Unsent ticket.index)
      (hjob : next.jobs ticket = WorkerJob.start assignment.address thread)
  | built {built : Except String (TracedShard × Nat)} {address : String}
      {request : LoadShardRequest}
      {servicer : InferenceServicer TracedShard (List TensorTag)}
      {report : ShardReadyRequest}
      (hjob : cluster.jobs ticket = .loading address request)
      (hfinish : (cluster.network address).finishLoad request built = (servicer, report))
      (hnext : next.jobs ticket = .reporting report)
  | reported {report : ShardReadyRequest} (hjob : cluster.jobs ticket = .reporting report)
      (hnext : next.jobs ticket = .delivered report ∨ next.jobs ticket = .dropped report)

theorem Move.job_cases (hmove : Move setup cluster label next) (ticket : Ticket) :
    JobMove setup cluster next ticket := by
  cases hmove with
  | request _ | unloadFailed _ | unloaded _ _ | finished _ _ | tokenizerFailed _
  | generationFailed _ _ _ | released _ _ _ _ | acquired _ _ _ _ | generated _ _ _
  | prepared _ _ | prepareFailed _ _ | slotCreated _ _ | dispatchFailed _ _
  | waitStarted _ _ | woken _ _ | collected _ _ | shutDown _ _ | concluded _ _ =>
      exact .kept rfl
  | @dispatched loader index assignment tensorLocations configJson _ run after servicer
      response thread _ hopen hphase hget hload _ hdispatched =>
      cases thread with
      | none => exact .kept rfl
      | some thread =>
          by_cases heq : ticket = ⟨loader, index⟩
          · subst heq
            exact .accepted hopen hphase hget hload (Function.update_self _ _ _)
              ((LoadRun.dispatched_follows hdispatched).2 index hphase)
              (Function.update_self _ _ _)
          · exact .kept (Function.update_of_ne heq _ _)
  | @jobFinished finished _ _ _ _ _ hjob hfinish =>
      by_cases heq : ticket = finished
      · subst heq
        exact .built hjob hfinish (Function.update_self _ _ _)
      · exact .kept (Function.update_of_ne heq _ _)
  | @reportDelivered reported report hjob =>
      by_cases heq : ticket = reported
      · subst heq
        exact .reported hjob (.inl (Function.update_self _ _ _))
      · exact .kept (Function.update_of_ne heq _ _)
  | @reportDropped reported report hjob =>
      by_cases heq : ticket = reported
      · subst heq
        exact .reported hjob (.inr (Function.update_self _ _ _))
      · exact .kept (Function.update_of_ne heq _ _)

/-- Every call of `load` works on the plan of its thread, and a job is there only
once its `LoadShard` request has been sent. -/
structure RunsInv (cluster : Cluster) : Prop where
  plan : ∀ loader run outcome, cluster.loads loader = ⟨some run, outcome⟩ →
    ∃ thread, cluster.http.loaders loader = some thread ∧ run.plan = thread.plan
  noRun : ∀ loader outcome, cluster.loads loader = ⟨none, outcome⟩ →
    ∀ index, cluster.jobs ⟨loader, index⟩ = .absent
  unsent : ∀ loader run outcome index, cluster.loads loader = ⟨some run, outcome⟩ →
    run.Unsent index → cluster.jobs ⟨loader, index⟩ = .absent

/-- A job that is absent stays so unless its request is sent now. -/
theorem JobMove.absent {ticket : Ticket} (hjob : JobMove setup cluster next ticket)
    (habsent : cluster.jobs ticket = .absent)
    (hunsent : ∀ run, next.loads ticket.loader = ⟨some run, none⟩ → run.Unsent ticket.index)
    : next.jobs ticket = .absent := by
  cases hjob with
  | kept hkept => rw [hkept, habsent]
  | accepted _ _ _ _ hafter hsent _ => exact absurd (hunsent _ hafter) hsent
  | built hloading _ _ =>
      rw [habsent] at hloading
      cases hloading
  | reported hreporting _ =>
      rw [habsent] at hreporting
      cases hreporting

theorem RunsInv.step (hinv : RunsInv cluster) (hmove : Move setup cluster label next) :
    RunsInv next := by
  have hthreadKept {loader : Nat} {thread : LoaderThread} {plan : DispatchPlan}
      (hget : cluster.http.loaders loader = some thread) (hplan : plan = thread.plan) :
      ∃ thread', next.http.loaders loader = some thread' ∧ plan = thread'.plan := by
    obtain ⟨thread', hget', _, hplan', _⟩ := hmove.loader_kept hget
    exact ⟨thread', hget', hplan.trans hplan'.symm⟩
  constructor
  · intro loader run outcome hload
    cases hmove.load_cases loader with
    | kept hkept =>
        obtain ⟨thread, hthread, hplan⟩ := hinv.plan loader run outcome (hkept ▸ hload)
        exact hthreadKept hthread hplan
    | begun hthread _ hnext =>
        obtain ⟨rfl, _⟩ : LoadRun.start _ = run ∧ _ := by simpa [hnext] using hload
        exact hthreadKept hthread rfl
    | abandoned _ hnext =>
        rw [hnext] at hload
        cases hload
    | went hbefore hnext hfollows =>
        rw [hnext] at hload
        cases hload
        obtain ⟨thread, hthread, hplan⟩ := hinv.plan loader _ _ hbefore
        exact hthreadKept hthread (hfollows.plan.trans hplan)
  · intro loader outcome hload index
    have habsent : cluster.jobs ⟨loader, index⟩ = .absent := by
      cases hmove.load_cases loader with
      | kept hkept => exact hinv.noRun loader outcome (hkept ▸ hload) index
      | begun _ hbefore _ | abandoned hbefore _ => exact hinv.noRun loader none hbefore index
      | went _ hnext _ =>
          rw [hnext] at hload
          cases hload
    apply (hmove.job_cases ⟨loader, index⟩).absent habsent
    intro run hrun
    rw [hload] at hrun
    cases hrun
  · intro loader run outcome index hload hunsent
    have habsent : cluster.jobs ⟨loader, index⟩ = .absent := by
      cases hmove.load_cases loader with
      | kept hkept => exact hinv.unsent loader run outcome index (hkept ▸ hload) hunsent
      | begun _ hbefore _ | abandoned hbefore _ => exact hinv.noRun loader none hbefore index
      | went hbefore hnext hfollows =>
          rw [hnext] at hload
          cases hload
          exact hinv.unsent loader _ _ index hbefore (hfollows.unsent index hunsent)
    apply (hmove.job_cases ⟨loader, index⟩).absent habsent
    intro other hother
    rw [hload] at hother
    cases hother
    exact hunsent

theorem runsInv_of_reachable (hreach : setup.system.Reachable cluster) : RunsInv cluster := by
  apply hreach.invariant
  · rintro _ rfl
    constructor
    · intro loader run outcome hload
      cases hload
    · intro loader outcome _ index
      rfl
    · intro loader run outcome index hload
      cases hload
  · intro s label t _ hinv _ hstep
    exact hinv.step (step_move hstep)

/-- A job belongs to a loader thread that is there. -/
theorem job_loader (hruns : RunsInv cluster) {ticket : Ticket}
    (hjob : cluster.jobs ticket ≠ .absent) :
    ∃ thread, cluster.http.loaders ticket.loader = some thread := by
  cases hload : cluster.loads ticket.loader with
  | mk run outcome =>
      cases run with
      | none => exact absurd (hruns.noRun _ outcome hload ticket.index) hjob
      | some run =>
          obtain ⟨thread, hthread, _⟩ := hruns.plan _ run outcome hload
          exact ⟨thread, hthread⟩

/-- The plan of a loader thread, with its model and distinct nodes. -/
theorem loader_planned (hreach : setup.system.Reachable cluster) {loader : Nat}
    {thread : LoaderThread} (hget : cluster.http.loaders loader = some thread) :
    HttpState.Planned thread.manifest thread.plan :=
  (HttpState.plansOk_of_reachable (http_reachable hreach)).loaders loader thread hget

/-- No loader thread but this one is started. -/
def SingleLoader (loader : Nat) (_ : Cluster) (label : ClusterLabel) : Prop :=
  ∀ id other, label = .request (.record id other) → other = loader

theorem Move.loader_started (hmove : Move setup cluster label next) {loader : Nat}
    {thread : LoaderThread} (hget : next.http.loaders loader = some thread) :
    (∃ thread', cluster.http.loaders loader = some thread') ∨
      ∃ id, label = .request (.record id loader) := by
  rcases hmove.http with heq | ⟨httpLabel, hhttp, hlabel⟩
  · rw [heq] at hget
    exact .inl ⟨thread, hget⟩
  · rcases (HttpState.step_transition hhttp).loader_started hget with hold | ⟨id, rfl⟩
    · exact .inl hold
    · exact .inr ⟨id, hlabel _ rfl⟩

/-- A loader thread that is there is one whose start was allowed. -/
theorem loaders_of_started {ok : Cluster → ClusterLabel → Prop} {allowed : Nat → Prop}
    (hallowed : ∀ s id other, ok s (.request (.record id other)) → allowed other)
    (hreach : setup.system.ReachableVia ok cluster) {loader : Nat} {thread : LoaderThread}
    (hget : cluster.http.loaders loader = some thread) : allowed loader := by
  have hall : ∀ loader thread, cluster.http.loaders loader = some thread → allowed loader := by
    apply hreach.invariant
    · rintro _ rfl loader thread hthread
      cases hthread
    · intro s label t _ hinv hok hstep loader thread hthread
      rcases (step_move hstep).loader_started hthread with ⟨thread', hold⟩ | ⟨id, rfl⟩
      · exact hinv loader thread' hold
      · exact hallowed s id loader hok
  exact hall loader thread hget

theorem singleLoader_loaders {loader other : Nat}
    (hreach : setup.system.ReachableVia (SingleLoader loader) cluster) {thread : LoaderThread}
    (hget : cluster.http.loaders other = some thread) : other = loader :=
  @loaders_of_started setup cluster _ (· = loader) (fun _ id other hok => hok id other rfl) hreach
    other thread hget

end ClusterSetup

def oneNodePlan : DispatchPlan where
  assignments := [⟨"a", "10.0.0.1", 50051, 0, 5, true, true, ""⟩]
  arch := "mamba"
  modelName := "m"
  checkpoint := "checkpoint"
  totalLayers := 5

/-- A cluster of one worker. -/
def oneNodeCluster : ClusterSetup where
  registry := registryOf [("a", "10.0.0.1", 50051)]
  callbackAddress := "host:50050"
  callbackAddress_ne := host_ne
  nodeIdAt _ := "a"

example :
    planDispatch fiveLayerManifest oneNodeCluster.registry = .ok oneNodePlan := by
  rfl

/-- A cluster of two workers. -/
def twoNodeCluster : ClusterSetup where
  registry := twoNodeRegistry
  callbackAddress := "host:50050"
  callbackAddress_ne := host_ne
  nodeIdAt address := if address = "10.0.0.1:50051" then "a" else "b"

/-- A request that loads the model, up to the start of its loader thread. -/
def requestLoad (id loader : Nat) (kind : RequestKind) : List ClusterLabel :=
  [.request (.post id kind "m"), .request (.check id), .request (.plan id),
    .request (.record id loader)]

end PiSSM.Orchestrator
