import PiSSM.Pipeline.WorkerTables

/-!
What a failed attempt to load a model leaves on the workers. Nothing in the code
takes back the shards that the attempt has already made: they are left behind as
soon as one of its background loads has succeeded.
-/

namespace PiSSM.Pipeline

open PiSSM.Lib PiSSM.Inference PiSSM.Orchestrator

/-- The attempt of this loader thread has failed, and its model's state has been
set to error. -/
def FailedLoad (cluster : Cluster) (loader : Nat) : Prop :=
  ∃ thread err, cluster.http.loaders loader = some thread ∧ thread.running = false ∧
    (cluster.loads loader).outcome = some (.error err)

/-- No worker has a load under way. -/
def LoadsFinished (cluster : Cluster) : Prop :=
  ∀ ticket address request, cluster.jobs ticket ≠ .loading address request

/-- A worker holds a shard of a model that this `LoadShard` request has made. -/
def HoldsFrom (s : Cluster × ShardHistory) (ticket : Ticket) : Prop :=
  ∃ address name handle, (s.1.network address).models.get? name = some handle ∧
    s.2.heldFrom address name = some ticket

def LeavesNothing (s : Cluster × ShardHistory) : Prop :=
  ∀ loader, FailedLoad s.1 loader → LoadsFinished s.1 →
    ∀ index, ¬ HoldsFrom s ⟨loader, index⟩

/-- An attempt fails only while none of its background loads has succeeded, and
none of them succeeds afterwards. -/
def FailsUnbuilt (s : Cluster × ShardHistory) : ClusterLabel → Prop
  | .finishJob ticket (.ok _) =>
      ∀ err, (s.1.loads ticket.loader).outcome ≠ some (.error err)
  | .conclude loader tokenizer =>
      ((∃ run err, (s.1.loads loader).run = some run ∧ run.phase = .raised err) ∨
        ∃ err, tokenizer = .error err) →
      ∀ index, s.2.built ⟨loader, index⟩ = false
  | _ => True

/-- No `UnloadShard` reaches a worker. -/
def NothingUnloaded (_ : Cluster × ShardHistory) (label : ClusterLabel) : Prop :=
  ∀ id, label ≠ .unload id true

open ClusterSetup

variable {setup : ClusterSetup} {s t : Cluster × ShardHistory} {label : ClusterLabel}

/-- How an attempt comes to its outcome. -/
theorem outcome_cases {cluster next : Cluster} (hmove : Move setup cluster label next)
    {loader : Nat} {outcome : Except PyException Unit}
    (houtcome : (next.loads loader).outcome = some outcome) :
    (cluster.loads loader).outcome = some outcome ∨
      (cluster.loads loader = ⟨none, none⟩ ∧ ∃ err, label = .prepare loader (.error err)) ∨
      ∃ run tokenizer, cluster.loads loader = ⟨some run, none⟩ ∧
        label = .conclude loader tokenizer ∧
        ((run.phase = .returned ∧ outcome = tokenizer) ∨
          ∃ err, run.phase = .raised err ∧ outcome = .error err) := by
  have hupdate {other : Nat} {progress : LoadProgress}
      (hloads : (Function.update cluster.loads other progress loader).outcome = some outcome)
      (hown : progress.outcome = (cluster.loads other).outcome) :
      (cluster.loads loader).outcome = some outcome := by
    by_cases heq : loader = other
    · subst heq
      rwa [Function.update_self, hown] at hloads
    · rwa [Function.update_of_ne heq] at hloads
  cases hmove with
  | request _ | unloadFailed _ | unloaded _ _ | finished _ _ | tokenizerFailed _
  | generationFailed _ _ _ | released _ _ _ _ | jobFinished _ _ | reportDelivered _
  | reportDropped _ | acquired _ _ _ _ | generated _ _ _ => exact .inl houtcome
  | prepared _ hload => exact .inl (hupdate houtcome (by rw [hload]))
  | slotCreated hload _ | dispatchFailed hload _ | dispatched hload _ _ _ _ _
  | waitStarted hload _ | woken hload _ | collected hload _ | shutDown hload _ =>
      exact .inl (hupdate houtcome (by rw [hload]))
  | @prepareFailed other err _ _ hload =>
      by_cases heq : loader = other
      · subst heq
        exact .inr (.inl ⟨hload, err, rfl⟩)
      · exact .inl (by simpa [heq] using houtcome)
  | @concluded other tokenizer decided run hopen hdecided =>
      by_cases heq : loader = other
      · subst heq
        obtain rfl : decided = outcome := by simpa using houtcome
        exact .inr (.inr ⟨run, tokenizer, hopen, rfl, hdecided⟩)
      · exact .inl (by simpa [heq] using houtcome)

/-- What has been built after a step. -/
theorem built_cases (hrecord : t.2 = s.2.recordEvent (tableEvent s.1 label)) {ticket : Ticket}
    (hbuilt : t.2.built ticket = true) :
    s.2.built ticket = true ∨ ∃ shard, label = .finishJob ticket (.ok shard) := by
  rw [hrecord] at hbuilt
  cases hevent : tableEvent s.1 label with
  | none =>
      rw [hevent] at hbuilt
      exact .inl hbuilt
  | some event =>
      rw [hevent] at hbuilt
      cases event with
      | unloaded _ _ => exact .inl hbuilt
      | built done address name =>
          rcases update_cases hbuilt with ⟨rfl, _⟩ | ⟨_, hkept⟩
          · right
            unfold tableEvent at hevent
            split at hevent
            · next finished shard =>
                split at hevent
                · cases hevent
                  exact ⟨shard, rfl⟩
                · cases hevent
            · split at hevent <;> cases hevent
            · cases hevent
          · exact .inl hkept

/-- None of the background loads of a failed attempt has succeeded. -/
def FailedUnbuilt (s : Cluster × ShardHistory) : Prop :=
  ∀ loader err index, (s.1.loads loader).outcome = some (.error err) →
    s.2.built ⟨loader, index⟩ = false

theorem FailedUnbuilt.step (hinv : FailedUnbuilt s) (hhistory : HistoryInv s)
    (hruns : RunsInv s.1) (hok : FailsUnbuilt s label) (hmove : Move setup s.1 label t.1)
    (hrecord : t.2 = s.2.recordEvent (tableEvent s.1 label)) : FailedUnbuilt t := by
  intro loader err index houtcome
  have hunbuilt : s.2.built ⟨loader, index⟩ = false ∧
      ∀ shard, label ≠ .finishJob ⟨loader, index⟩ (.ok shard) := by
    rcases outcome_cases hmove houtcome with hbefore | ⟨hload, err', rfl⟩ |
      ⟨run, tokenizer, hload, rfl, hdecided⟩
    · refine ⟨hinv loader err index hbefore, ?_⟩
      rintro shard rfl
      exact hok err hbefore
    · refine ⟨?_, fun _ heq => by cases heq⟩
      rw [Bool.eq_false_iff]
      intro hbuilt
      obtain ⟨report, hreport⟩ := hhistory.job _ hbuilt
      rw [hruns.noRun loader none hload index] at hreport
      cases hreport
    · refine ⟨hok ?_ index, fun _ heq => by cases heq⟩
      rcases hdecided with ⟨_, rfl⟩ | ⟨err', hraised, _⟩
      · exact .inr ⟨err, rfl⟩
      · exact .inl ⟨run, err', by rw [hload], hraised⟩
  rw [Bool.eq_false_iff]
  intro hbuilt
  rcases built_cases hrecord hbuilt with hbefore | ⟨shard, hlabel⟩
  · rw [hunbuilt.1] at hbefore
    cases hbefore
  · exact hunbuilt.2 shard hlabel

theorem failedUnbuilt_of_reachable (hreach : setup.recordedSystem.ReachableVia FailsUnbuilt s) :
    FailedUnbuilt s := by
  apply hreach.invariant
  · rintro s ⟨_, hhistory⟩ loader err index _
    rw [hhistory]
    rfl
  · intro s l t hbefore hinv hok hstep
    obtain ⟨hcluster, hrecord⟩ := TransitionSystem.withHistory_some hstep
    have hreachable : setup.system.Reachable s.1 := hbefore.forget fun _ _ _ => trivial
    exact hinv.step (historyInv_of_reachable hbefore) (runsInv_of_reachable hreachable) hok
      (step_move hcluster) hrecord

/-- The shard that a worker gets is one of a model it did not hold, so it does
not replace one that another load has made. -/
theorem heldFrom_none (hhistory : HistoryInv s) (hworkers : WorkersInv s.1) {ticket : Ticket}
    {address : String} {request : LoadShardRequest}
    (hjob : s.1.jobs ticket = .loading address request) :
    s.2.heldFrom address request.modelName = none := by
  have hloading := hworkers.marked ticket address request hjob
  exact (hhistory.held address _).mpr (hworkers.exclusive address _ hloading)

/-- Every shard that has been made is still there. -/
def BuiltHeld (s : Cluster × ShardHistory) : Prop :=
  ∀ ticket, s.2.built ticket = true → ∃ address name, s.2.heldFrom address name = some ticket

theorem BuiltHeld.step (hinv : BuiltHeld s) (hhistory : HistoryInv s) (hworkers : WorkersInv s.1)
    (hok : NothingUnloaded s label)
    (hrecord : t.2 = s.2.recordEvent (tableEvent s.1 label)) : BuiltHeld t := by
  intro ticket hbuilt
  rw [hrecord] at hbuilt ⊢
  cases hevent : tableEvent s.1 label with
  | none =>
      rw [hevent] at hbuilt
      exact hinv ticket hbuilt
  | some event =>
      rw [hevent] at hbuilt
      unfold tableEvent at hevent
      split at hevent
      · next done shard =>
          split at hevent
          · next address request hjob =>
              cases hevent
              have hnone := heldFrom_none hhistory hworkers hjob
              have hheld (worker name : String) :=
                s.2.setHeld_apply address request.modelName (some done) worker name
              rcases update_cases hbuilt with ⟨rfl, _⟩ | ⟨_, hkept⟩
              · refine ⟨address, request.modelName, ?_⟩
                exact (hheld _ _).trans (if_pos ⟨rfl, rfl⟩)
              · obtain ⟨worker, name, hfrom⟩ := hinv ticket hkept
                refine ⟨worker, name, ?_⟩
                have hother : ¬ (worker = address ∧ name = request.modelName) := by
                  rintro ⟨rfl, rfl⟩
                  rw [hnone] at hfrom
                  cases hfrom
                exact (hheld _ _).trans ((if_neg hother).trans hfrom)
          · cases hevent
      · next id => exact absurd rfl (hok id)
      · cases hevent

theorem builtHeld_of_reachable
    (hreach : setup.recordedSystem.ReachableVia NothingUnloaded s) : BuiltHeld s := by
  apply hreach.invariant
  · rintro s ⟨_, hhistory⟩ ticket hbuilt
    rw [hhistory] at hbuilt
    cases hbuilt
  · intro s l t hbefore hinv hok hstep
    obtain ⟨_, hrecord⟩ := TransitionSystem.withHistory_some hstep
    have hreachable : setup.system.Reachable s.1 := hbefore.forget fun _ _ _ => trivial
    exact hinv.step (historyInv_of_reachable hbefore) (workersInv_of_reachable hreachable) hok
      hrecord

/-- A shard is held from a request exactly if the history says so. -/
theorem holdsFrom_iff (hhistory : HistoryInv s) (ticket : Ticket) :
    HoldsFrom s ticket ↔ ∃ address name, s.2.heldFrom address name = some ticket := by
  constructor
  · rintro ⟨address, name, _, _, hfrom⟩
    exact ⟨address, name, hfrom⟩
  · rintro ⟨address, name, hfrom⟩
    have hsome : (s.1.network address).models.get? name ≠ none := by
      intro hnone
      rw [(hhistory.held address name).mpr hnone] at hfrom
      cases hfrom
    obtain ⟨handle, hget⟩ := Option.ne_none_iff_exists'.mp hsome
    exact ⟨address, name, handle, hget, hfrom⟩

/-- In every run whose steps all meet the condition a failed load leaves nothing
behind; and as long as no worker is told to unload anything, an attempt leaves a
shard behind exactly if one of its background loads has succeeded. -/
theorem failed_load_leaves_nothing (setup : ClusterSetup) :
    (∀ s, setup.recordedSystem.ReachableVia FailsUnbuilt s → LeavesNothing s) ∧
    ∀ s, setup.recordedSystem.ReachableVia NothingUnloaded s → ∀ ticket,
      HoldsFrom s ticket ↔ s.2.built ticket = true := by
  constructor
  · intro s hreach loader hfailed _ index hholds
    have hhistory := historyInv_of_reachable hreach
    obtain ⟨address, name, hfrom⟩ := (holdsFrom_iff hhistory _).mp hholds
    obtain ⟨_, err, _, _, houtcome⟩ := hfailed
    have hunbuilt := failedUnbuilt_of_reachable hreach loader err index houtcome
    rw [hhistory.built address name _ hfrom] at hunbuilt
    cases hunbuilt
  · intro s hreach ticket
    have hhistory := historyInv_of_reachable hreach
    rw [holdsFrom_iff hhistory]
    constructor
    · rintro ⟨address, name, hfrom⟩
      exact hhistory.built address name ticket hfrom
    · intro hbuilt
      exact builtHeld_of_reachable hreach ticket hbuilt

/-- No background load succeeds. -/
def NothingBuilt (_ : Cluster × ShardHistory) (label : ClusterLabel) : Prop :=
  ∀ ticket shard, label ≠ .finishJob ticket (.ok shard)

theorem built_of_nothingBuilt (hreach : setup.recordedSystem.ReachableVia NothingBuilt s)
    (ticket : Ticket) : s.2.built ticket = false := by
  apply hreach.invariant
  · rintro s ⟨_, hhistory⟩
    rw [hhistory]
    rfl
  · intro s l t _ hunbuilt hnone hstep
    rw [← Bool.not_eq_true]
    intro hbuilt
    rcases built_cases (TransitionSystem.withHistory_some hstep).2 hbuilt with hbefore |
      ⟨shard, hlabel⟩
    · rw [hunbuilt] at hbefore
      cases hbefore
    · exact hnone ticket shard hlabel

/-- What fails before anything is built leaves the condition alone. -/
theorem failsUnbuilt_of_nothingBuilt
    (hreach : setup.recordedSystem.ReachableVia NothingBuilt s) :
    setup.recordedSystem.ReachableVia FailsUnbuilt s := by
  apply hreach.weaken_steps
  intro s label t hbefore hnone _
  unfold FailsUnbuilt
  split
  · exact absurd rfl (hnone _ _)
  · exact fun _ index => built_of_nothingBuilt hbefore _
  · trivial

/-- A load on two workers, of which the second one runs out of memory. -/
def failingRun (first : Except String (TracedShard × Nat)) : List ClusterLabel :=
  .request (.register fiveLayerManifest) :: requestLoad 0 0 .load ++
    [.prepare 0 (.ok ()), .createSlot 0, .createSlot 0, .dispatch 0 (.handled [] "" none),
      .dispatch 0 (.handled [] "" none), .finishJob ⟨0, 0⟩ first,
      .finishJob ⟨0, 1⟩ (.error "out of memory"), .report ⟨0, 0⟩ true, .report ⟨0, 1⟩ true,
      .startWait 0 0, .startWait 0 1, .wake 0 1, .collect 0 1, .shutdown 0,
      .conclude 0 (.ok ()), .finishLoad 0]

theorem failingRun_single {first : Except String (TracedShard × Nat)} {label : ClusterLabel}
    (hmem : label ∈ failingRun first) (cluster : Cluster) : SingleLoader 0 cluster label := by
  rintro id other rfl
  simp [failingRun, requestLoad] at hmem
  exact hmem.2

/-- The attempt has failed and both jobs have made their reports, as far as it can be
read off. -/
def failedOnTwo (cluster : Cluster) : Bool :=
  (cluster.http.loaders 0).any (fun thread => !thread.running) &&
    (match cluster.loads 0 with
      | ⟨some run, some (.error _)⟩ => run.plan.assignments.length = 2
      | _ => false) &&
    (cluster.jobs ⟨0, 0⟩).report?.isSome && (cluster.jobs ⟨0, 1⟩).report?.isSome

theorem failedLoad_of_failedOnTwo {cluster : Cluster}
    (hsingle : twoNodeCluster.system.ReachableVia (SingleLoader 0) cluster)
    (htest : failedOnTwo cluster = true) : FailedLoad cluster 0 ∧ LoadsFinished cluster := by
  unfold failedOnTwo at htest
  simp only [Bool.and_eq_true] at htest
  obtain ⟨⟨⟨hthread, hload⟩, hfirst⟩, hsecond⟩ := htest
  obtain ⟨thread, hthread, hrunning⟩ := (Option.any_eq_true _ _).mp hthread
  split at hload
  · next run err hprogress =>
      refine ⟨⟨thread, err, hthread, by simpa using hrunning, by rw [hprogress]⟩, ?_⟩
      rintro ⟨loader, index⟩ address request hloading
      obtain ⟨rfl, found, outcome, hfound, hindex⟩ :=
        job_of_single hsingle (by rw [hloading]; simp)
      rw [hprogress] at hfound
      cases hfound
      rw [of_decide_eq_true hload] at hindex
      have hreported : (cluster.jobs ⟨0, index⟩).report?.isSome = true := by
        interval_cases index
        · exact hfirst
        · exact hsecond
      rw [hloading] at hreported
      cases hreported
  · cases hload

/-- Two attempts that fail: in one both workers run out of memory, in the other one of
them has made its shard. -/
theorem failed_load_leaves_nothing_two :
    (∃ s, twoNodeCluster.recordedSystem.ReachableVia FailsUnbuilt s ∧ FailedLoad s.1 0 ∧
        LoadsFinished s.1 ∧ ∀ index, ¬ HoldsFrom s ⟨0, index⟩) ∧
      ∃ s, twoNodeCluster.recordedSystem.ReachableVia NothingUnloaded s ∧ FailedLoad s.1 0 ∧
        HoldsFrom s ⟨0, 0⟩ ∧ ¬ HoldsFrom s ⟨0, 1⟩ := by
  obtain ⟨hfails, hholds⟩ := failed_load_leaves_nothing twoNodeCluster
  have hinit : twoNodeCluster.recordedSystem.init (twoNodeCluster.initial, .empty) :=
    ⟨rfl, rfl⟩
  constructor
  · have hrun : ∃ s, twoNodeCluster.recordedSystem.ReachableVia
        (fun s label => SingleLoader 0 s.1 label ∧ NothingBuilt s label) s ∧
        failedOnTwo s.1 = true := by
      refine TransitionSystem.reachable_of_exec (failingRun (.error "out of memory")) hinit
        (fun label hmem s => ⟨failingRun_single hmem s.1, ?_⟩) (by decide)
      rintro ticket shard rfl
      simp [failingRun, requestLoad] at hmem
    obtain ⟨s, hreach, htest⟩ := hrun
    obtain ⟨hfailed, hfinished⟩ :=
      failedLoad_of_failedOnTwo (hreach.forget fun _ _ hok => hok.1) htest
    have hunbuilt := failsUnbuilt_of_nothingBuilt (hreach.weaken fun _ _ _ hok => hok.2)
    exact ⟨s, hunbuilt, hfailed, hfinished, hfails s hunbuilt 0 hfailed hfinished⟩
  · have hrun : ∃ s, twoNodeCluster.recordedSystem.ReachableVia
        (fun s label => SingleLoader 0 s.1 label ∧ NothingUnloaded s label) s ∧
        (failedOnTwo s.1 && (s.2.built ⟨0, 0⟩ && !s.2.built ⟨0, 1⟩)) = true := by
      refine TransitionSystem.reachable_of_exec (failingRun (.ok (⟨⟩, 100))) hinit
        (fun label hmem s => ⟨failingRun_single hmem s.1, ?_⟩) (by decide)
      rintro id rfl
      simp [failingRun, requestLoad] at hmem
    obtain ⟨s, hreach, htest⟩ := hrun
    obtain ⟨hfailed, hbuilt⟩ := Bool.and_eq_true_iff.mp htest
    obtain ⟨hfirst, hsecond⟩ := Bool.and_eq_true_iff.mp hbuilt
    have hkept := hreach.weaken fun _ _ _ hok => hok.2
    refine ⟨s, hkept, (failedLoad_of_failedOnTwo
      (hreach.forget fun _ _ hok => hok.1) hfailed).1, (hholds s hkept _).mpr hfirst, ?_⟩
    rw [hholds s hkept]
    simpa using hsecond

/-- The first worker keeps the shard of an attempt that has failed on the second one. -/
theorem failed_load_leaves_nothing_counterexample :
    ¬ ∀ s, twoNodeCluster.recordedSystem.Reachable s → LeavesNothing s := by
  intro hclaim
  have hrun : ∃ s, twoNodeCluster.recordedSystem.ReachableVia
      (fun s label => SingleLoader 0 s.1 label) s ∧
      (failedOnTwo s.1 && (((s.1.network "10.0.0.1:50051").models.get? "m").isSome &&
        s.2.heldFrom "10.0.0.1:50051" "m" = some ⟨0, 0⟩)) = true :=
    TransitionSystem.reachable_of_exec (failingRun (.ok (⟨⟩, 100)))
      (⟨rfl, rfl⟩ : twoNodeCluster.recordedSystem.init (twoNodeCluster.initial, .empty))
      (fun label hmem s => failingRun_single hmem s.1) (by decide)
  obtain ⟨s, hreach, htest⟩ := hrun
  obtain ⟨hfailed, hheld⟩ := Bool.and_eq_true_iff.mp htest
  obtain ⟨hget, hfrom⟩ := Bool.and_eq_true_iff.mp hheld
  obtain ⟨hload, hfinished⟩ :=
    failedLoad_of_failedOnTwo (hreach.forget fun _ _ hok => hok) hfailed
  obtain ⟨handle, hget⟩ := Option.isSome_iff_exists.mp hget
  exact hclaim s hreach.reachable 0 hload hfinished 0
    ⟨_, _, handle, hget, of_decide_eq_true hfrom⟩

end PiSSM.Pipeline
