import PiSSM.Pipeline.LiveLoads
import PiSSM.Pipeline.ModelStates

/-!
Whether a model can be stuck in the state "loading". The HTTP API gives `load` no
timeout, so a wait ends only with its report: as long as no wait of a live call is
disturbed, a loader thread that has not recorded its outcome can always go on once
its workers are done.
-/

namespace PiSSM.Pipeline

open PiSSM.Lib PiSSM.Inference PiSSM.Orchestrator

/-- A step of a loader thread or of one of its waiter threads. -/
def IsLoaderStep : ClusterLabel → Prop
  | .prepare _ _ | .createSlot _ | .dispatch _ _ | .startWait _ _ | .wake _ _ | .collect _ _
  | .shutdown _ | .conclude _ _ | .finishLoad _ => True
  | _ => False

/-- No worker has a background load or a report in progress. -/
def WorkersIdle (cluster : Cluster) : Prop :=
  ∀ ticket, (∀ address request, cluster.jobs ticket ≠ .loading address request) ∧
    ∀ report, cluster.jobs ticket ≠ .reporting report

/-- No loader thread has an enabled step. -/
def LoadersBlocked (setup : ClusterSetup) (cluster : Cluster) : Prop :=
  ∀ label, IsLoaderStep label → setup.step cluster label = none

/-- Once nothing goes on any more, no model is loading. -/
def NoModelStuck (setup : ClusterSetup) (cluster : Cluster) : Prop :=
  WorkersIdle cluster → LoadersBlocked setup cluster →
    ∀ name entry, cluster.http.modelStates.get? name = some entry → entry.status ≠ .loading

/-- Every model that is loading has a loader thread that will record its outcome. -/
def LoadersRun (state : HttpState) : Prop :=
  ∀ name entry, state.modelStates.get? name = some entry → entry.status = .loading →
    ∃ loader, state.Running loader name

theorem LoadersRun.step {state next : HttpState} {label : HttpLabel} (hinv : LoadersRun state)
    (htrans : HttpState.Transition state label next) : LoadersRun next := by
  intro name entry hget hloading
  cases htrans with
  | registry _ _ | post _ _ | move _ _ _ => exact hinv name entry hget hloading
  | takeDown _ _ _ =>
      simp only [Dict.get?_erase] at hget
      split at hget
      · cases hget
      · exact hinv name entry hget hloading
  | evict _ _ =>
      simp only [HttpState.evictLoaded_get?, Option.filter_eq_some_iff] at hget
      exact hinv name entry hget.1 hloading
  | planFailed _ _ _ =>
      simp only [Dict.get?_set] at hget
      split at hget
      · obtain rfl := Option.some.inj hget
        cases hloading
      · exact hinv name entry hget hloading
  | @started id loader request plan phase _ _ _ hfresh =>
      simp only [Dict.get?_set] at hget
      split at hget
      · next hname =>
          refine ⟨loader, ⟨request.manifest, plan, true⟩, ?_, rfl, hname.symm⟩
          exact Function.update_self _ _ _
      · obtain ⟨other, thread, hthread, hrunning, hmodel⟩ := hinv name entry hget hloading
        refine ⟨other, thread, ?_, hrunning, hmodel⟩
        have hne : other ≠ loader := by
          rintro rfl
          rw [hfresh] at hthread
          cases hthread
        exact (Function.update_of_ne hne _ _).trans hthread
  | @ended loader thread outcome hthread hrunning =>
      simp only [Dict.get?_set] at hget
      split at hget
      · obtain rfl := Option.some.inj hget
        cases outcome <;> cases hloading
      · next hname =>
          obtain ⟨other, found, hfound, hfoundRunning, hmodel⟩ := hinv name entry hget hloading
          refine ⟨other, found, ?_, hfoundRunning, hmodel⟩
          have hne : other ≠ loader := by
            rintro rfl
            obtain rfl := Option.some.inj (hthread.symm.trans hfound)
            exact hname hmodel.symm
          exact (Function.update_of_ne hne _ _).trans hfound

theorem loadersRun_of_reachable {registry : NodeRegistry} {state : HttpState}
    (hreach : (HttpState.system registry).Reachable state) : LoadersRun state := by
  apply hreach.invariant
  · rintro _ rfl name entry hget
    cases hget
  · intro s label t _ hinv _ hstep
    exact hinv.step (HttpState.step_transition hstep)

open ClusterSetup

variable {setup : ClusterSetup} {cluster : Cluster} {loader : Nat} {run : LoadRun Ticket}

theorem startWait_enabled {index : Nat} {assignment : ShardAssignment}
    (hrun : (cluster.loads loader).run = some run) (hqueued : run.waiters index = .queued)
    (hget : run.plan.assignments[index]? = some assignment) :
    setup.step cluster (.startWait loader index) ≠ none := by
  simp only [ClusterSetup.step, Cluster.startWait, hrun, Option.bind_some, LoadRun.startWait,
    hqueued, hget]
  cases cluster.shardStore.slotEvent _ <;> simp

/-- A wait wakes when its slot has got a result. -/
theorem wake_enabled {index event : Nat} {assignment : ShardAssignment} {key : String}
    {pending : Option (MarkedReport Ticket)} (hrun : (cluster.loads loader).run = some run)
    (hblocked : run.waiters index = .blocked event)
    (hget : run.plan.assignments[index]? = some assignment)
    (hslot : cluster.shardStore.slots.get? key = some (event, pending))
    (hresult : pending.isSome = true) : setup.step cluster (.wake loader index) ≠ none := by
  have hfired : event ∈ cluster.shardStore.fired :=
    (cluster.shardStore.fired_iff _ _ _ hslot).mpr hresult
  simp only [ClusterSetup.step, Cluster.wake, hrun, Option.bind_some, LoadRun.wake, hblocked,
    hget, if_pos hfired]
  simp

/-- What has become of a request once its worker is done, if its report is not lost. -/
theorem WorkersIdle.delivered (hidle : WorkersIdle cluster) {ticket : Ticket}
    (hsent : cluster.jobs ticket ≠ .absent)
    (hkept : ∀ report, cluster.jobs ticket ≠ .dropped report) :
    ∃ report, cluster.jobs ticket = .delivered report := by
  cases hjob : cluster.jobs ticket with
  | absent => exact absurd hjob hsent
  | loading address request => exact absurd hjob ((hidle _).1 address request)
  | reporting report => exact absurd hjob ((hidle _).2 report)
  | delivered report => exact ⟨report, rfl⟩
  | dropped report => exact absurd hjob (hkept report)

/-- A wait of a live call ends: its waiter thread can start, wake or has ended. -/
theorem waiter_enabled (hload : cluster.loads loader = ⟨some run, none⟩)
    (hawaits : run.Awaits cluster.shardStore fun index => cluster.jobs ⟨loader, index⟩)
    (hidle : WorkersIdle cluster) (hphase : run.phase = .waiting) :
    ∃ label, IsLoaderStep label ∧ setup.step cluster label ≠ none := by
  have hopenRun : cluster.openRun loader = some run := by simp [Cluster.openRun, hload]
  have hrun : (cluster.loads loader).run = some run := by rw [hload]
  have hrest : ∃ index < run.plan.assignments.length, index ∉ run.collected := by
    have hssubset := Finset.ssubset_iff_subset_ne.mpr
      ⟨hawaits.collected, hawaits.uncollected hphase⟩
    obtain ⟨index, hmem, hnot⟩ := Finset.exists_of_ssubset hssubset
    exact ⟨index, Finset.mem_range.mp hmem, hnot⟩
  obtain ⟨index, hlt, hnot⟩ := hrest
  have hget : run.plan.assignments[index]? = some run.plan.assignments[index] :=
    List.getElem?_eq_getElem hlt
  obtain ⟨hnotAbsent, hnotCancelled⟩ := hawaits.submitted hphase index hlt
  cases hwaiter : run.waiters index with
  | absent => exact absurd hwaiter hnotAbsent
  | cancelled => exact absurd hwaiter hnotCancelled
  | queued => exact ⟨.startWait loader index, trivial, startWait_enabled hrun hwaiter hget⟩
  | ended outcome =>
      refine ⟨.collect loader index, trivial, ?_⟩
      simp only [ClusterSetup.step, Cluster.collect, hopenRun, Option.bind_some,
        LoadRun.collect, hphase, hwaiter, hget, if_neg hnot]
      cases LoadRun.checkResult _ outcome <;> simp
  | blocked event =>
      have hopen : run.opens index = true :=
        (LoadRun.opens_waiters (LoadRun.not_preparing_of_waiting hphase)).mpr
          (.inr ⟨event, hwaiter⟩)
      obtain ⟨event', pending, hstored, hevent, hdelivered, hdropped⟩ :=
        hawaits.slot index _ hopen hget
      obtain rfl := hevent event hwaiter
      have hsent := hawaits.sent index hlt (by simp [LoadRun.Unsent, hphase])
      obtain ⟨report, hjob⟩ := hidle.delivered hsent hdropped
      exact ⟨.wake loader index, trivial,
        wake_enabled hrun hwaiter hget hstored (hdelivered report hjob)⟩

/-- A loader thread that has not recorded its outcome can go on. -/
theorem loader_enabled (hlive : LiveInv cluster) (hidle : WorkersIdle cluster)
    {thread : LoaderThread} (hthread : cluster.http.loaders loader = some thread)
    (hrunning : thread.running = true) :
    ∃ label, IsLoaderStep label ∧ setup.step cluster label ≠ none := by
  cases hload : cluster.loads loader with
  | mk progress outcome =>
      cases outcome with
      | some outcome =>
          refine ⟨.finishLoad loader, trivial, ?_⟩
          simp [ClusterSetup.step, Cluster.finishLoad, hload, HttpState.finishLoad, hthread,
            hrunning]
      | none =>
          cases progress with
          | none =>
              refine ⟨.prepare loader (.ok ()), trivial, ?_⟩
              simp [ClusterSetup.step, Cluster.prepare, hthread, hload]
          | some run =>
              have hopenRun : cluster.openRun loader = some run := by
                simp [Cluster.openRun, hload]
              have hawaits (hphase : run.Live) := hlive loader run ⟨hload, hphase⟩
              cases hphase : run.phase with
              | creating next =>
                  have hlt : next < run.plan.assignments.length := by
                    have hbounds := (hawaits (by simp [LoadRun.Live, hphase])).bounds
                    simpa [LoadRun.InBounds, hphase] using hbounds
                  refine ⟨.createSlot loader, trivial, ?_⟩
                  simp [ClusterSetup.step, Cluster.createSlot, hopenRun, LoadRun.createSlot,
                    hphase, hlt]
              | dispatching next =>
                  have hlt : next < run.plan.assignments.length := by
                    have hbounds := (hawaits (by simp [LoadRun.Live, hphase])).bounds
                    simpa [LoadRun.InBounds, hphase] using hbounds
                  refine ⟨.dispatch loader (.failed (.runtimeError "")), trivial, ?_⟩
                  simp [ClusterSetup.step, Cluster.dispatch, hopenRun, LoadRun.dispatched,
                    hphase, hlt]
              | waiting =>
                  exact waiter_enabled hload (hawaits (by simp [LoadRun.Live, hphase])) hidle
                    hphase
              | failing err =>
                  refine ⟨.shutdown loader, trivial, ?_⟩
                  simp [ClusterSetup.step, Cluster.shutdown, hopenRun, LoadRun.shutdown, hphase]
              | returned | raised err =>
                  refine ⟨.conclude loader (.ok ()), trivial, ?_⟩
                  simp [ClusterSetup.step, Cluster.conclude, hopenRun, hphase]

/-- In every run in which no wait of a live call is disturbed, no model is stuck
in the state "loading". -/
theorem no_model_stuck (setup : ClusterSetup) {cluster : Cluster}
    (hreach : setup.system.ReachableVia Undisturbed cluster) : NoModelStuck setup cluster := by
  intro hidle hblocked name entry hget hloading
  have hhttp := http_reachable hreach.reachable
  obtain ⟨loader, thread, hthread, hrunning, _⟩ :=
    loadersRun_of_reachable hhttp name entry hget hloading
  obtain ⟨label, hlabel, henabled⟩ := @loader_enabled setup cluster loader
    (liveInv_of_reachable hreach) hidle thread hthread hrunning
  exact henabled (hblocked label hlabel)

/-- One load of one worker, up to the worker's report. -/
def oneNodeLoad : List ClusterLabel :=
  .request (.register fiveLayerManifest) :: requestLoad 0 0 .load ++
    [.prepare 0 (.ok ()), .createSlot 0, .dispatch 0 (.handled [] "" none),
      .finishJob ⟨0, 0⟩ (.ok (⟨⟩, 100))]

/-- From the report on, until the model is ready. -/
def oneNodeReady : List ClusterLabel :=
  [.startWait 0 0, .wake 0 0, .collect 0 0, .conclude 0 (.ok ()), .finishLoad 0]

/-- The reports of live waits arrive, under the ids of their assignments' nodes. -/
def ReportsArrive (cluster : Cluster) (label : ClusterLabel) : Prop :=
  ∀ ticket arrives report run assignment, label = .report ticket arrives →
    cluster.jobs ticket = .reporting report → cluster.LiveRun ticket.loader run →
    run.plan.assignments[ticket.index]? = some assignment →
    arrives = true ∧ report.nodeId = assignment.nodeId

/-- A single loader thread is disturbed by nothing but the loss of a report. -/
theorem undisturbed_of_single (hreach : setup.system.ReachableVia
      (fun cluster label => SingleLoader loader cluster label ∧ ReportsArrive cluster label)
      cluster) : setup.system.ReachableVia Undisturbed cluster := by
  apply hreach.weaken
  intro s label hbefore hok
  have hruns := runsInv_of_reachable hbefore.reachable
  have hsole {other : Nat} {found : LoadRun Ticket}
      {outcome : Option (Except PyException Unit)}
      (hload : s.loads other = ⟨some found, outcome⟩) : other = loader := by
    obtain ⟨thread, hthread, _⟩ := hruns.plan other found outcome hload
    exact singleLoader_loaders (hbefore.weaken fun _ _ _ hok => hok.1) hthread
  constructor
  · rintro created found index assignment _ hload _ _ other hne ⟨_, _, _, hlive, _⟩
    exact hne ((hsole hlive.1).trans (hsole hload).symm)
  · rintro woken found outcome index assignment _ hload _ other hne ⟨_, _, _, hlive, _⟩
    exact hne ((hsole hlive.1).trans (hsole hload).symm)
  · intro ticket arrives report found assignment hlabel hjob hlive _ hget
    exact hok.2 ticket arrives report found assignment hlabel hjob hlive hget

/-- The report that is about to be sent carries the id of its assignment's node. -/
def reportMatches (cluster : Cluster) : Bool :=
  match cluster.jobs ⟨0, 0⟩, cluster.loads 0 with
  | .reporting report, ⟨some run, _⟩ =>
      (run.plan.assignments[0]?).all fun assignment => report.nodeId = assignment.nodeId
  | _, _ => false

theorem oneNodeLoad_single (label : ClusterLabel) (hmem : label ∈ oneNodeLoad)
    (cluster : Cluster) : SingleLoader 0 cluster label := by
  rintro id other rfl
  simp [oneNodeLoad, requestLoad] at hmem
  exact hmem.2

theorem oneNodeReady_single (label : ClusterLabel) (hmem : label ∈ oneNodeReady)
    (cluster : Cluster) : SingleLoader 0 cluster label := by
  rintro id other rfl
  simp [oneNodeReady] at hmem

/-- The report arrives, the load comes to its end, and the model is ready. -/
theorem no_model_stuck_one :
    ∃ cluster, (cluster.http.modelStates.get? "m").any (fun entry => entry.status = .ready) =
      true ∧ NoModelStuck oneNodeCluster cluster := by
  have hmatches : (oneNodeCluster.system.exec oneNodeCluster.initial oneNodeLoad).any
      reportMatches = true := by
    decide
  have hready : (oneNodeCluster.system.exec oneNodeCluster.initial
      (oneNodeLoad ++ .report ⟨0, 0⟩ true :: oneNodeReady)).any (fun cluster =>
        (cluster.http.modelStates.get? "m").any fun entry => entry.status = .ready) = true := by
    decide
  obtain ⟨loaded, hloaded, hreport⟩ := (Option.any_eq_true _ _).mp hmatches
  obtain ⟨cluster, hexec, hstatus⟩ := (Option.any_eq_true _ _).mp hready
  rw [TransitionSystem.exec_append, hloaded, Option.bind_some] at hexec
  obtain ⟨reported, hstep, hrest⟩ := Option.bind_eq_some_iff.mp hexec
  have harrives : ReportsArrive loaded (.report ⟨0, 0⟩ true) := by
    intro ticket arrives report run assignment hlabel hjob hlive hget
    cases hlabel
    unfold reportMatches at hreport
    rw [hjob, hlive.1] at hreport
    dsimp only at hreport
    rw [hget] at hreport
    exact ⟨rfl, of_decide_eq_true hreport⟩
  have hbefore : oneNodeCluster.system.ReachableVia (fun cluster label =>
      SingleLoader 0 cluster label ∧ ReportsArrive cluster label) loaded := by
    refine TransitionSystem.ReachableVia.exec (.init rfl) ?_ hloaded
    intro label hmem cluster
    refine ⟨oneNodeLoad_single label hmem cluster, ?_⟩
    rintro ticket arrives report run assignment rfl
    simp [oneNodeLoad, requestLoad] at hmem
  have hafter : oneNodeCluster.system.ReachableVia (fun cluster label =>
      SingleLoader 0 cluster label ∧ ReportsArrive cluster label) cluster := by
    refine TransitionSystem.ReachableVia.exec (.step hbefore ⟨?_, harrives⟩ hstep) ?_ hrest
    · rintro id other heq
      cases heq
    · intro label hmem cluster
      refine ⟨oneNodeReady_single label hmem cluster, ?_⟩
      rintro ticket arrives report run assignment rfl
      simp [oneNodeReady] at hmem
  exact ⟨cluster, hstatus, no_model_stuck oneNodeCluster (undisturbed_of_single hafter)⟩

/-- When every wait of the only load is blocked on an event that has not been set,
no loader thread can go on. -/
theorem blocked_of_single (hreach : setup.system.ReachableVia (SingleLoader loader) cluster)
    (hload : cluster.loads loader = ⟨some run, none⟩) (hphase : run.phase = .waiting)
    (hwaiters : ∀ index < run.plan.assignments.length,
      ∃ event, run.waiters index = .blocked event ∧ event ∉ cluster.shardStore.fired) :
    LoadersBlocked setup cluster := by
  have hruns := runsInv_of_reachable hreach.reachable
  have hsole {other : Nat} {found : LoadRun Ticket}
      {outcome : Option (Except PyException Unit)}
      (hother : cluster.loads other = ⟨some found, outcome⟩) :
      found = run ∧ outcome = none := by
    obtain ⟨thread, hthread, _⟩ := hruns.plan other found outcome hother
    obtain rfl := singleLoader_loaders hreach hthread
    rw [hload] at hother
    cases hother
    exact ⟨rfl, rfl⟩
  have hindex {index : Nat} {assignment : ShardAssignment}
      (hget : run.plan.assignments[index]? = some assignment) :=
    hwaiters index (List.getElem?_eq_some_iff.mp hget).1
  intro label hlabel
  by_contra henabled
  obtain ⟨next, hstep⟩ := Option.ne_none_iff_exists'.mp henabled
  cases step_move hstep with
  | request _ | unloadFailed _ | unloaded _ _ | tokenizerFailed _ | generationFailed _ _ _
  | jobFinished _ _ | reportDelivered _ | reportDropped _ | acquired _ _ _ _
  | generated _ _ _ => exact hlabel
  | released hby _ _ _ =>
      rcases hby with ⟨_, _, rfl⟩ | ⟨_, rfl⟩
      · exact hlabel
      · exact hlabel
  | prepared hthread hnone | prepareFailed hthread hnone =>
      obtain rfl := singleLoader_loaders hreach hthread
      rw [hload] at hnone
      cases hnone
  | slotCreated hopen hcreate =>
      obtain ⟨rfl, _⟩ := hsole hopen
      obtain ⟨_, _, hcreating, _⟩ := LoadRun.createSlot_some hcreate
      rw [hphase] at hcreating
      cases hcreating
  | dispatchFailed hopen hdispatched | dispatched hopen _ _ _ _ hdispatched =>
      obtain ⟨rfl, _⟩ := hsole hopen
      obtain ⟨_, hdispatching, _⟩ := LoadRun.dispatched_some hdispatched
      rw [hphase] at hdispatching
      cases hdispatching
  | waitStarted hother hwait =>
      obtain ⟨rfl, _⟩ := hsole hother
      obtain ⟨_, hqueued, hget, _⟩ := LoadRun.startWait_some hwait
      obtain ⟨_, hblocked, _⟩ := hindex hget
      rw [hqueued] at hblocked
      cases hblocked
  | woken hother hwake =>
      obtain ⟨rfl, _⟩ := hsole hother
      obtain ⟨_, _, hwaits, hget, hfired, _⟩ := LoadRun.wake_some hwake
      obtain ⟨_, hblocked, hunset⟩ := hindex hget
      rw [hwaits] at hblocked
      cases hblocked
      exact hunset hfired
  | collected hopen hcollect =>
      obtain ⟨rfl, _⟩ := hsole hopen
      obtain ⟨_, _, _, hended, hget, _⟩ := LoadRun.collect_some hcollect
      obtain ⟨_, hblocked, _⟩ := hindex hget
      rw [hended] at hblocked
      cases hblocked
  | shutDown hopen hshutdown =>
      obtain ⟨rfl, _⟩ := hsole hopen
      obtain ⟨_, hfailing, _⟩ := LoadRun.shutdown_some hshutdown
      rw [hphase] at hfailing
      cases hfailing
  | concluded hopen hdecided =>
      obtain ⟨rfl, _⟩ := hsole hopen
      rcases hdecided with ⟨hreturned, _⟩ | ⟨_, hraised, _⟩
      · rw [hphase] at hreturned
        cases hreturned
      · rw [hphase] at hraised
        cases hraised
  | @finished other outcome http houtcome hhttp =>
      cases hother : cluster.http.loaders other with
      | none => simp [HttpState.step, HttpState.finishLoad, hother] at hhttp
      | some thread =>
          obtain rfl := singleLoader_loaders hreach hother
          rw [hload] at houtcome
          cases houtcome

/-- The worker's report is lost, and the wait for it has begun. -/
def droppedReportRun : List ClusterLabel :=
  oneNodeLoad ++ [.report ⟨0, 0⟩ false, .startWait 0 0]

/-- The state after the run, as far as it can be read off. -/
def stuckLoading (cluster : Cluster) : Bool :=
  (cluster.http.modelStates.get? "m").any (fun entry => entry.status = .loading) &&
    (match cluster.jobs ⟨0, 0⟩ with
      | .dropped _ => true
      | _ => false) &&
    match cluster.loads 0 with
    | ⟨some run, none⟩ =>
        run.phase = .waiting && run.plan.assignments.length = 1 &&
          match run.waiters 0 with
          | .blocked event => event ∉ cluster.shardStore.fired
          | _ => false
    | _ => false

theorem no_model_stuck_counterexample :
    ¬ ∀ cluster, oneNodeCluster.system.Reachable cluster →
      NoModelStuck oneNodeCluster cluster := by
  intro hclaim
  have hrun : ∃ cluster, oneNodeCluster.system.ReachableVia (SingleLoader 0) cluster ∧
      stuckLoading cluster = true := by
    apply TransitionSystem.reachable_of_exec droppedReportRun rfl
    · intro label hmem cluster
      rcases List.mem_append.mp hmem with hload | hlost
      · exact oneNodeLoad_single label hload cluster
      · rintro id other rfl
        simp at hlost
    · decide
  obtain ⟨cluster, hreach, htest⟩ := hrun
  unfold stuckLoading at htest
  simp only [Bool.and_eq_true] at htest
  obtain ⟨⟨hentry, hjob⟩, hload⟩ := htest
  obtain ⟨entry, hget, hloading⟩ := (Option.any_eq_true _ _).mp hentry
  have hdropped : ∃ report, cluster.jobs ⟨0, 0⟩ = .dropped report := by
    split at hjob
    · next report heq => exact ⟨report, heq⟩
    · cases hjob
  split at hload
  · next run hprogress =>
      simp only [Bool.and_eq_true] at hload
      obtain ⟨⟨hphase, hlength⟩, hwaiter⟩ := hload
      have hlength := of_decide_eq_true hlength
      have hidle : WorkersIdle cluster := by
        rintro ⟨loader, index⟩
        have hthere (hjob : cluster.jobs ⟨loader, index⟩ ≠ .absent) :
            ∃ report, cluster.jobs ⟨loader, index⟩ = .dropped report := by
          obtain ⟨rfl, found, outcome, hfound, hindex⟩ := job_of_single hreach hjob
          rw [hprogress] at hfound
          cases hfound
          obtain rfl : index = 0 := by
            rw [hlength] at hindex
            exact Nat.lt_one_iff.mp hindex
          exact hdropped
        constructor
        · intro address request hjob
          obtain ⟨report, hdrop⟩ := hthere (by rw [hjob]; simp)
          rw [hjob] at hdrop
          cases hdrop
        · intro report hjob
          obtain ⟨report, hdrop⟩ := hthere (by rw [hjob]; simp)
          rw [hjob] at hdrop
          cases hdrop
      have hblocked : LoadersBlocked oneNodeCluster cluster := by
        apply blocked_of_single hreach hprogress (of_decide_eq_true hphase)
        intro index hindex
        obtain rfl : index = 0 := by
          rw [hlength] at hindex
          exact Nat.lt_one_iff.mp hindex
        split at hwaiter
        · next event heq => exact ⟨event, heq, of_decide_eq_true hwaiter⟩
        · cases hwaiter
      exact hclaim cluster hreach.reachable hidle hblocked "m" entry hget
        (of_decide_eq_true hloading)
  · cases hload

end PiSSM.Pipeline
