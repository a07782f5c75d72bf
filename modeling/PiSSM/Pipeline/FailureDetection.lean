import PiSSM.Lib.TransitionSystem
import PiSSM.Orchestrator.NodeService
import PiSSM.Pipeline.PlannedShards
import PiSSM.Worker.Heartbeat

/-!
Failure detection by heartbeats: the loops of all workers, the handler of their heartbeats and
the reaper of the orchestrator, on one clock. A call of a worker is sent, handled and
answered in steps of their own, so that it can fail before or after the orchestrator has
heard it, and a request can be handled long after its sender has given it up. What the
detector promises depends on how the workers keep their times, which `Timely` states. Times
are added and compared without rounding.
-/

namespace PiSSM.Pipeline

open PiSSM.Lib PiSSM.Inference PiSSM.Orchestrator PiSSM.Worker

/-- The configuration of the orchestrator, and what is known of the times: a wait of the
reaper or of a steady worker ends at most `slackS` late, a call of a steady worker takes at
most `callS`, and at most `failures` of its calls fail in a row. -/
structure DetectorSetup where
  heartbeatIntervalS : ℚ
  missedThreshold : Nat
  reaperIntervalS : ℚ
  slackS : ℚ
  callS : ℚ
  failures : Nat
  heartbeatIntervalS_nonneg : 0 ≤ heartbeatIntervalS
  reaperIntervalS_nonneg : 0 ≤ reaperIntervalS
  slackS_nonneg : 0 ≤ slackS
  callS_nonneg : 0 ≤ callS

namespace DetectorSetup

def timeoutS (setup : DetectorSetup) : ℚ :=
  setup.heartbeatIntervalS * setup.missedThreshold

/-- The longest wait of a steady worker between two calls. -/
def waitS (setup : DetectorSetup) : ℚ :=
  setup.heartbeatIntervalS + setup.slackS

/-- What a number of failed calls and the waits after them take. -/
def lostS (setup : DetectorSetup) (count : Nat) : ℚ :=
  count * (setup.waitS + setup.callS)

/-- The longest silence of a node that goes unnoticed. -/
def detectionS (setup : DetectorSetup) : ℚ :=
  setup.timeoutS + setup.reaperIntervalS + setup.slackS

end DetectorSetup

/-- A turn whose request has been built; its reply is not known before it ends. -/
structure Attempt where
  since : ℚ
  client : HeartbeatClient
  turn : Turn
  request : HeartbeatRequest
  built : client.buildRequest turn = .ok request

/-- The turn with the reply it gets. -/
def Attempt.answered (attempt : Attempt) (reply : HeartbeatReply) : Turn :=
  { attempt.turn with reply := reply }

/-- Where the heartbeat loop of a worker is. -/
inductive LoopPhase where
  | off
  | sending (attempt : Attempt)
  /-- The orchestrator has handled the request and its answer is under way. -/
  | handled (attempt : Attempt) (response : HeartbeatResponse)
  | waiting (since : ℚ) (client : HeartbeatClient)

/-- The loop builds a request, or dies of it. -/
def LoopPhase.begin (now : ℚ) (client : HeartbeatClient) (turn : Turn) : LoopPhase :=
  match hbuilt : client.buildRequest turn with
  | .ok request => .sending ⟨now, client, turn, request, hbuilt⟩
  | .error _ => .off

/-- The turn ends with this reply. -/
def Attempt.finish (attempt : Attempt) (now : ℚ) (reply : HeartbeatReply) : LoopPhase :=
  match attempt.client.takeTurn (attempt.answered reply) with
  | .ok client => .waiting now client
  | .error _ => .off

/-- `startedAt` records when the loop of a worker was started last; no step reads it. -/
structure DetectorState where
  now : ℚ
  registry : NodeRegistry
  /-- When the wait of the reaper is over. -/
  reaperDue : ℚ
  workers : String → LoopPhase
  startedAt : String → ℚ

inductive DetectorLabel where
  | tick (durationS : ℚ)
  /-- A cycle of `run_reaper`. -/
  | reap
  | start (nodeId : String) (inferencePort : Nat) (ipAddressOverride : Option String)
      (intervalS : ℚ) (turn : Turn)
  /-- The wait of a worker is over. -/
  | wake (nodeId : String) (turn : Turn)
  | heartbeat (nodeId : String)
  | respond (nodeId : String)
  | fail (nodeId : String) (code details message : String)
  /-- The worker crashes or is stopped. -/
  | leave (nodeId : String)
  /-- A request is handled whose sender does not wait for the answer any more. -/
  | late (request : HeartbeatRequest)

namespace DetectorState

def put (s : DetectorState) (nodeId : String) (phase : LoopPhase) : DetectorState :=
  { s with workers := Function.update s.workers nodeId phase }

/-- `Heartbeat` of the servicer, and the answer it gives. -/
def handle (s : DetectorState) (setup : DetectorSetup) (request : HeartbeatRequest) :
    DetectorState × HeartbeatResponse :=
  let (registry, response) :=
    heartbeat s.registry (serverIntervalMs setup.heartbeatIntervalS) s.now request
  ({ s with registry := registry }, response)

end DetectorState

namespace DetectorSetup

variable (setup : DetectorSetup)

def step (s : DetectorState) : DetectorLabel → Option DetectorState
  | .tick durationS => if 0 ≤ durationS then some { s with now := s.now + durationS } else none
  | .reap =>
      if s.reaperDue ≤ s.now then
        some { s with
          registry := (s.registry.reapStaleNodes s.now).1
          reaperDue := s.now + setup.reaperIntervalS }
      else none
  | .start nodeId inferencePort ipAddressOverride intervalS turn =>
      match s.workers nodeId with
      | .off =>
          let client := HeartbeatClient.create nodeId inferencePort ipAddressOverride intervalS
          some { s.put nodeId (.begin s.now client turn) with
            startedAt := Function.update s.startedAt nodeId s.now }
      | _ => none
  | .wake nodeId turn =>
      match s.workers nodeId with
      | .waiting since client =>
          if since + client.intervalS ≤ s.now then
            some (s.put nodeId (.begin s.now client turn))
          else none
      | _ => none
  | .heartbeat nodeId =>
      match s.workers nodeId with
      | .sending attempt =>
          let (next, response) := s.handle setup attempt.request
          some (next.put nodeId (.handled attempt response))
      | _ => none
  | .respond nodeId =>
      match s.workers nodeId with
      | .handled attempt response =>
          let reply := .response response.acknowledged response.heartbeatIntervalMs
          some (s.put nodeId (attempt.finish s.now reply))
      | _ => none
  | .fail nodeId code details message =>
      match s.workers nodeId with
      | .sending attempt | .handled attempt _ =>
          some (s.put nodeId (attempt.finish s.now (.rpcError code details message)))
      | _ => none
  | .leave nodeId => some (s.put nodeId .off)
  | .late request => some (s.handle setup request).1

/-- The reaper and no worker has been started. -/
def start : DetectorState where
  now := 0
  registry := .create .exact setup.heartbeatIntervalS setup.missedThreshold
  reaperDue := 0
  workers := fun _ => .off
  startedAt := fun _ => 0

def system : TransitionSystem DetectorState DetectorLabel where
  init s := s = setup.start
  step := setup.step

/-- When a phase of a steady worker is over at the latest. -/
def deadline : LoopPhase → Option ℚ
  | .off => none
  | .sending attempt => some (attempt.since + setup.callS)
  | .handled attempt _ => some (attempt.since + setup.callS)
  | .waiting since client => some (since + client.intervalS + setup.slackS)

end DetectorSetup

/-- The client of a phase. -/
def LoopPhase.client : LoopPhase → Option HeartbeatClient
  | .off => none
  | .sending attempt => some attempt.client
  | .handled attempt _ => some attempt.client
  | .waiting _ client => some client

/-- The steps of a run in which the reaper is in time and so is every steady worker: it has
an address to report, does not leave, and does not fail too often in a row. Its interval
is at most the one of the orchestrator, and before it is started nobody speaks for it. -/
def Timely (setup : DetectorSetup) (steady : String → Prop) (s : DetectorState) :
    DetectorLabel → Prop
  | .tick durationS =>
      s.now + durationS ≤ s.reaperDue + setup.slackS ∧
        ∀ nodeId, steady nodeId → ∀ deadline, setup.deadline (s.workers nodeId) = some deadline →
          s.now + durationS ≤ deadline
  | .start nodeId _ ipAddressOverride intervalS turn =>
      steady nodeId → 0 ≤ intervalS ∧ intervalS ≤ setup.heartbeatIntervalS ∧
        turn.detects ipAddressOverride
  | .wake nodeId turn =>
      steady nodeId → ∀ client, (s.workers nodeId).client = some client →
        turn.detects client.ipAddressOverride
  | .fail nodeId _ _ _ =>
      steady nodeId → ∀ client, (s.workers nodeId).client = some client →
        client.consecutiveFailures < setup.failures
  | .leave nodeId => ¬ steady nodeId
  | .late request => steady request.nodeId → s.workers request.nodeId ≠ .off
  | _ => True

theorem buildRequest_nodeId {client : HeartbeatClient} {turn : Turn} {request : HeartbeatRequest}
    (hbuilt : client.buildRequest turn = .ok request) : request.nodeId = client.nodeId := by
  unfold HeartbeatClient.buildRequest at hbuilt
  cases haddress : getIpAddress client.ipAddressOverride turn.network with
  | error err =>
      rw [haddress] at hbuilt
      cases hbuilt
  | ok address =>
      rw [haddress] at hbuilt
      obtain rfl := Except.ok.inj hbuilt
      rfl

namespace Attempt

theorem finish_response (attempt : Attempt) (now : ℚ) (acknowledged : Bool)
    (heartbeatIntervalMs : Nat) :
    attempt.finish now (.response acknowledged heartbeatIntervalMs) =
      .waiting now { attempt.client with
        intervalS :=
          if 0 < heartbeatIntervalMs then (heartbeatIntervalMs : ℚ) / 1000
          else attempt.client.intervalS
        consecutiveFailures := 0 } := by
  have hbuilt : attempt.client.buildRequest
      (attempt.answered (.response acknowledged heartbeatIntervalMs)) = .ok attempt.request :=
    attempt.built
  unfold finish HeartbeatClient.takeTurn HeartbeatClient.sendHeartbeat
  rw [hbuilt]
  rfl

theorem finish_rpcError (attempt : Attempt) (now : ℚ) (code details message : String) :
    attempt.finish now (.rpcError code details message) =
      .waiting now { attempt.client with
        consecutiveFailures := attempt.client.consecutiveFailures + 1 }.reconnect := by
  have hbuilt : attempt.client.buildRequest
      (attempt.answered (.rpcError code details message)) = .ok attempt.request :=
    attempt.built
  unfold finish HeartbeatClient.takeTurn HeartbeatClient.sendHeartbeat
  rw [hbuilt]
  rfl

end Attempt

namespace LoopPhase

theorem begin_cases (now : ℚ) (client : HeartbeatClient) (turn : Turn) :
    begin now client turn = .off ∨
      ∃ attempt, begin now client turn = .sending attempt ∧ attempt.since = now ∧
        attempt.client = client := by
  unfold begin
  split
  · exact .inr ⟨_, rfl, rfl, rfl⟩
  · exact .inl rfl

/-- With an address to report the call goes out. -/
theorem begin_detects {now : ℚ} {client : HeartbeatClient} {turn : Turn}
    (hdetects : turn.detects client.ipAddressOverride) :
    ∃ attempt, begin now client turn = .sending attempt ∧ attempt.since = now ∧
      attempt.client = client := by
  obtain ⟨address, haddress⟩ := getIpAddress_detects hdetects
  unfold begin
  split
  · exact ⟨_, rfl, rfl, rfl⟩
  · next err hbuilt =>
      unfold HeartbeatClient.buildRequest at hbuilt
      rw [haddress] at hbuilt
      cases hbuilt

end LoopPhase

/-- Every worker beats for its own node. -/
def DetectorState.OwnClients (s : DetectorState) : Prop :=
  ∀ nodeId client, (s.workers nodeId).client = some client → client.nodeId = nodeId

theorem DetectorState.put_workers (s : DetectorState) (nodeId : String) (phase : LoopPhase)
    (key : String) :
    (s.put nodeId phase).workers key = if key = nodeId then phase else s.workers key :=
  Function.update_apply s.workers nodeId phase key

theorem DetectorState.OwnClients.put {s : DetectorState} (hown : s.OwnClients) {nodeId : String}
    {phase : LoopPhase} (hphase : ∀ client, phase.client = some client → client.nodeId = nodeId) :
    (s.put nodeId phase).OwnClients := by
  intro key client hclient
  rw [s.put_workers] at hclient
  split at hclient
  · next hkey =>
      rw [hkey]
      exact hphase client hclient
  · exact hown key client hclient

theorem LoopPhase.begin_client {now : ℚ} {client found : HeartbeatClient} {turn : Turn}
    (hfound : (begin now client turn).client = some found) : found = client := by
  rcases begin_cases now client turn with hoff | ⟨attempt, hsending, _, rfl⟩
  · rw [hoff] at hfound
    cases hfound
  · rw [hsending] at hfound
    exact (Option.some.inj hfound).symm

theorem Attempt.finish_client {attempt : Attempt} {now : ℚ} {reply : HeartbeatReply}
    {found : HeartbeatClient} (hfound : (attempt.finish now reply).client = some found) :
    found.nodeId = attempt.client.nodeId := by
  cases reply with
  | response acknowledged heartbeatIntervalMs =>
      rw [attempt.finish_response] at hfound
      obtain rfl := Option.some.inj hfound
      rfl
  | rpcError code details message =>
      rw [attempt.finish_rpcError] at hfound
      obtain rfl := Option.some.inj hfound
      rfl

/-- What a step does. -/
inductive Moves (setup : DetectorSetup) (s : DetectorState) :
    DetectorLabel → DetectorState → Prop where
  | tick {durationS : ℚ} (hpos : 0 ≤ durationS) :
      Moves setup s (.tick durationS) { s with now := s.now + durationS }
  | reap (hdue : s.reaperDue ≤ s.now) :
      Moves setup s .reap { s with
        registry := (s.registry.reapStaleNodes s.now).1
        reaperDue := s.now + setup.reaperIntervalS }
  | start {nodeId : String} {inferencePort : Nat} {ipAddressOverride : Option String}
      {intervalS : ℚ} {turn : Turn} (hphase : s.workers nodeId = .off) :
      Moves setup s (.start nodeId inferencePort ipAddressOverride intervalS turn)
        { s.put nodeId (.begin s.now
            (.create nodeId inferencePort ipAddressOverride intervalS) turn) with
          startedAt := Function.update s.startedAt nodeId s.now }
  | wake {nodeId : String} {turn : Turn} {since : ℚ} {client : HeartbeatClient}
      (hphase : s.workers nodeId = .waiting since client)
      (hdue : since + client.intervalS ≤ s.now) :
      Moves setup s (.wake nodeId turn) (s.put nodeId (.begin s.now client turn))
  | heartbeat {nodeId : String} {attempt : Attempt}
      (hphase : s.workers nodeId = .sending attempt) :
      Moves setup s (.heartbeat nodeId)
        ((s.handle setup attempt.request).1.put nodeId
          (.handled attempt (s.handle setup attempt.request).2))
  | respond {nodeId : String} {attempt : Attempt} {response : HeartbeatResponse}
      (hphase : s.workers nodeId = .handled attempt response) :
      Moves setup s (.respond nodeId) (s.put nodeId (attempt.finish s.now
        (.response response.acknowledged response.heartbeatIntervalMs)))
  | fail {nodeId code details message : String} {attempt : Attempt}
      (hphase : s.workers nodeId = .sending attempt ∨
        ∃ response, s.workers nodeId = .handled attempt response) :
      Moves setup s (.fail nodeId code details message)
        (s.put nodeId (attempt.finish s.now (.rpcError code details message)))
  | leave {nodeId : String} : Moves setup s (.leave nodeId) (s.put nodeId .off)
  | late {request : HeartbeatRequest} :
      Moves setup s (.late request) (s.handle setup request).1

theorem moves_of_step {setup : DetectorSetup} {s t : DetectorState} {label : DetectorLabel}
    (hstep : setup.step s label = some t) : Moves setup s label t := by
  cases label with
  | tick durationS =>
      obtain ⟨hpos, heq⟩ := Option.ite_none_right_eq_some.mp hstep
      obtain rfl := Option.some.inj heq
      exact .tick hpos
  | reap =>
      obtain ⟨hdue, heq⟩ := Option.ite_none_right_eq_some.mp hstep
      obtain rfl := Option.some.inj heq
      exact .reap hdue
  | start nodeId inferencePort ipAddressOverride intervalS turn =>
      simp only [DetectorSetup.step] at hstep
      split at hstep
      · next hphase =>
          obtain rfl := Option.some.inj hstep
          exact .start hphase
      · cases hstep
  | wake nodeId turn =>
      simp only [DetectorSetup.step] at hstep
      split at hstep
      · next since client hphase =>
          obtain ⟨hdue, heq⟩ := Option.ite_none_right_eq_some.mp hstep
          obtain rfl := Option.some.inj heq
          exact .wake hphase hdue
      · cases hstep
  | heartbeat nodeId =>
      simp only [DetectorSetup.step] at hstep
      split at hstep
      · next attempt hphase =>
          obtain rfl := Option.some.inj hstep
          exact .heartbeat hphase
      · cases hstep
  | respond nodeId =>
      simp only [DetectorSetup.step] at hstep
      split at hstep
      · next attempt response hphase =>
          obtain rfl := Option.some.inj hstep
          exact .respond hphase
      · cases hstep
  | fail nodeId code details message =>
      simp only [DetectorSetup.step] at hstep
      split at hstep
      · next attempt hphase =>
          obtain rfl := Option.some.inj hstep
          exact .fail (.inl hphase)
      · next attempt response hphase =>
          obtain rfl := Option.some.inj hstep
          exact .fail (.inr ⟨response, hphase⟩)
      · cases hstep
  | leave nodeId =>
      obtain rfl := Option.some.inj hstep
      exact .leave
  | late request =>
      obtain rfl := Option.some.inj hstep
      exact .late

theorem DetectorState.OwnClients.step {setup : DetectorSetup} {s t : DetectorState}
    {label : DetectorLabel} (hown : s.OwnClients) (hmoves : Moves setup s label t) :
    t.OwnClients := by
  cases hmoves with
  | tick _ => exact hown
  | reap _ => exact hown
  | late => exact hown
  | @start nodeId inferencePort ipAddressOverride intervalS turn _ =>
      have hput : (s.put nodeId (.begin s.now
          (.create nodeId inferencePort ipAddressOverride intervalS) turn)).OwnClients := by
        refine hown.put fun client hclient => ?_
        rw [LoopPhase.begin_client hclient]
        rfl
      exact hput
  | @wake nodeId turn since client hphase _ =>
      refine hown.put fun found hfound => ?_
      rw [LoopPhase.begin_client hfound]
      exact hown nodeId client (by rw [hphase]; rfl)
  | @heartbeat nodeId attempt hphase =>
      have hhandled : (s.handle setup attempt.request).1.OwnClients := hown
      refine hhandled.put fun found hfound => ?_
      obtain rfl := Option.some.inj hfound
      exact hown nodeId attempt.client (by rw [hphase]; rfl)
  | @respond nodeId attempt response hphase =>
      refine hown.put fun found hfound => ?_
      rw [Attempt.finish_client hfound]
      exact hown nodeId attempt.client (by rw [hphase]; rfl)
  | @fail nodeId code details message attempt hphase =>
      refine hown.put fun found hfound => ?_
      rw [Attempt.finish_client hfound]
      rcases hphase with hphase | ⟨response, hphase⟩
      · exact hown nodeId attempt.client (by rw [hphase]; rfl)
      · exact hown nodeId attempt.client (by rw [hphase]; rfl)
  | leave => exact hown.put fun client hclient => nomatch hclient

/-- What the reaper keeps. A node that is not marked yet was heard recently enough when the
last reap looked at it. -/
structure ReaperInv (setup : DetectorSetup) (s : DetectorState) : Prop where
  tooOld : ∀ last now, s.registry.tooOld last now = true ↔ setup.timeoutS < now - last
  reaped : s.reaperDue - setup.reaperIntervalS ≤ s.now
  due : s.now ≤ s.reaperDue + setup.slackS
  marked : ∀ nodeId last, s.registry.view nodeId = some (last, .unavailable) →
    setup.timeoutS < s.now - last
  unmarked : ∀ nodeId last status, s.registry.view nodeId = some (last, status) →
    status ≠ .unavailable → s.reaperDue - setup.reaperIntervalS - last ≤ setup.timeoutS

theorem DetectorSetup.timeoutS_nonneg (setup : DetectorSetup) : 0 ≤ setup.timeoutS :=
  mul_nonneg setup.heartbeatIntervalS_nonneg (Nat.cast_nonneg _)

theorem DetectorSetup.waitS_nonneg (setup : DetectorSetup) : 0 ≤ setup.waitS :=
  add_nonneg setup.heartbeatIntervalS_nonneg setup.slackS_nonneg

theorem ReaperInv.start (setup : DetectorSetup) : ReaperInv setup setup.start where
  tooOld _ _ := NodeRegistry.tooOld_iff
  reaped := by
    have hinterval := setup.reaperIntervalS_nonneg
    simp only [DetectorSetup.start]
    linarith
  due := by
    have hslack := setup.slackS_nonneg
    simp only [DetectorSetup.start]
    linarith
  marked := fun _ _ hview => nomatch hview
  unmarked := fun _ _ _ hview => nomatch hview

/-- A state with the same registry at the same time. -/
theorem ReaperInv.congr {setup : DetectorSetup} {s t : DetectorState} (hinv : ReaperInv setup s)
    (hregistry : t.registry = s.registry) (hnow : t.now = s.now)
    (hdue : t.reaperDue = s.reaperDue) : ReaperInv setup t where
  tooOld := by rw [hregistry]; exact hinv.tooOld
  reaped := by rw [hdue, hnow]; exact hinv.reaped
  due := by rw [hdue, hnow]; exact hinv.due
  marked := by rw [hregistry, hnow]; exact hinv.marked
  unmarked := by rw [hregistry, hdue]; exact hinv.unmarked

theorem ReaperInv.handle {setup : DetectorSetup} {s : DetectorState} (hinv : ReaperInv setup s)
    (request : HeartbeatRequest) : ReaperInv setup (s.handle setup request).1 where
  tooOld := hinv.tooOld
  reaped := hinv.reaped
  due := hinv.due
  marked := by
    intro nodeId last hview
    have hupdate := s.registry.view_updateNode s.now request nodeId
    rw [show (s.handle setup request).1.registry.view nodeId = _ from hupdate] at hview
    split at hview
    · cases hview
    · exact hinv.marked nodeId last hview
  unmarked := by
    intro nodeId last status hview hstatus
    have hupdate := s.registry.view_updateNode s.now request nodeId
    rw [show (s.handle setup request).1.registry.view nodeId = _ from hupdate] at hview
    split at hview
    · obtain ⟨rfl, _⟩ := Prod.mk.inj (Option.some.inj hview)
      have hreaped := hinv.reaped
      have htimeout := setup.timeoutS_nonneg
      simp only [DetectorState.handle]
      linarith
    · exact hinv.unmarked nodeId last status hview hstatus

theorem ReaperInv.reap {setup : DetectorSetup} {s : DetectorState} (hinv : ReaperInv setup s) :
    ReaperInv setup { s with
      registry := (s.registry.reapStaleNodes s.now).1
      reaperDue := s.now + setup.reaperIntervalS } where
  tooOld := hinv.tooOld
  reaped := by
    dsimp only
    linarith
  due := by
    have hinterval := setup.reaperIntervalS_nonneg
    have hslack := setup.slackS_nonneg
    dsimp only
    linarith
  marked := by
    intro nodeId last hview
    rw [NodeRegistry.view_reapStaleNodes, Option.map_eq_some_iff] at hview
    obtain ⟨⟨heard, status⟩, hview, hreap⟩ := hview
    unfold NodeRegistry.reapView at hreap
    split at hreap
    · next hlate =>
        obtain ⟨rfl, _⟩ := Prod.mk.inj hreap
        exact (hinv.tooOld _ _).mp hlate.2
    · obtain ⟨rfl, rfl⟩ := Prod.mk.inj hreap
      exact hinv.marked nodeId heard hview
  unmarked := by
    intro nodeId last status hview hstatus
    rw [NodeRegistry.view_reapStaleNodes, Option.map_eq_some_iff] at hview
    obtain ⟨⟨heard, old⟩, hview, hreap⟩ := hview
    unfold NodeRegistry.reapView at hreap
    split at hreap
    · obtain ⟨_, rfl⟩ := Prod.mk.inj hreap
      exact absurd rfl hstatus
    · next hrecent =>
        obtain ⟨rfl, rfl⟩ := Prod.mk.inj hreap
        have hle := mt (fun hlt => And.intro hstatus hlt) hrecent
        rw [hinv.tooOld, not_lt] at hle
        dsimp only
        linarith

theorem ReaperInv.step {setup : DetectorSetup} {steady : String → Prop} {s t : DetectorState}
    {label : DetectorLabel} (hinv : ReaperInv setup s) (htimely : Timely setup steady s label)
    (hmoves : Moves setup s label t) : ReaperInv setup t := by
  cases hmoves with
  | tick hpos =>
      obtain ⟨hdue, _⟩ := htimely
      refine ⟨hinv.tooOld, ?_, hdue, ?_, hinv.unmarked⟩
      · have hreaped := hinv.reaped
        dsimp only
        linarith
      · intro nodeId last hview
        have hmarked := hinv.marked nodeId last hview
        dsimp only
        linarith
  | reap _ => exact hinv.reap
  | late => exact hinv.handle _
  | @heartbeat nodeId attempt _ => exact (hinv.handle attempt.request).congr rfl rfl rfl
  | start _ => exact hinv.congr rfl rfl rfl
  | wake _ _ => exact hinv.congr rfl rfl rfl
  | respond _ => exact hinv.congr rfl rfl rfl
  | fail _ => exact hinv.congr rfl rfl rfl
  | leave => exact hinv.congr rfl rfl rfl

/-- A steady worker has been heard recently, or it has been started recently. -/
def Contact (startedAt since unheardS silentS : ℚ) : Option (ℚ × NodeStatus) → Prop
  | none => since - startedAt ≤ unheardS
  | some (last, status) => status = .available ∧ since - last ≤ silentS

/-- The client of a steady worker. -/
structure Healthy (setup : DetectorSetup) (client : HeartbeatClient) : Prop where
  nonneg : 0 ≤ client.intervalS
  intervalS : client.intervalS ≤ setup.heartbeatIntervalS
  failures : client.consecutiveFailures ≤ setup.failures

/-- What holds of a steady worker, by its phase: the calls it has lost in a row account for
its silence. -/
def SteadyAt (setup : DetectorSetup) (now startedAt : ℚ) (view : Option (ℚ × NodeStatus)) :
    LoopPhase → Prop
  | .off => view = none
  | .sending attempt =>
      let lostS := setup.lostS attempt.client.consecutiveFailures
      Healthy setup attempt.client ∧ attempt.since ≤ now ∧ now ≤ attempt.since + setup.callS ∧
        Contact startedAt attempt.since lostS (setup.callS + lostS + setup.waitS) view
  | .handled attempt response =>
      Healthy setup attempt.client ∧ attempt.since ≤ now ∧ now ≤ attempt.since + setup.callS ∧
        response = ⟨true, serverIntervalMs setup.heartbeatIntervalS⟩ ∧
        ∃ last, view = some (last, .available) ∧ attempt.since ≤ last
  | .waiting since client =>
      let lostS := setup.lostS client.consecutiveFailures
      Healthy setup client ∧ since ≤ now ∧ now ≤ since + client.intervalS + setup.slackS ∧
        Contact startedAt since (lostS - setup.waitS) (setup.callS + lostS) view

namespace DetectorSetup

variable {setup : DetectorSetup}

theorem lostS_nonneg (count : Nat) : 0 ≤ setup.lostS count :=
  mul_nonneg (Nat.cast_nonneg _) (add_nonneg setup.waitS_nonneg setup.callS_nonneg)

theorem lostS_zero : setup.lostS 0 = 0 := by
  simp [lostS]

theorem lostS_succ (count : Nat) :
    setup.lostS (count + 1) = setup.lostS count + setup.waitS + setup.callS := by
  unfold lostS
  push_cast
  ring

theorem lostS_mono {fewer more : Nat} (hle : fewer ≤ more) :
    setup.lostS fewer ≤ setup.lostS more :=
  mul_le_mul_of_nonneg_right (Nat.cast_le.mpr hle)
    (add_nonneg setup.waitS_nonneg setup.callS_nonneg)

/-- The longest silence of a registered steady worker. -/
def silenceS (setup : DetectorSetup) : ℚ :=
  2 * setup.callS + setup.waitS + setup.lostS setup.failures

end DetectorSetup

/-- A wait that is not over late. -/
theorem Healthy.waitS {setup : DetectorSetup} {client : HeartbeatClient}
    (hhealthy : Healthy setup client) : client.intervalS + setup.slackS ≤ setup.waitS :=
  add_le_add_left hhealthy.intervalS setup.slackS

namespace SteadyAt

variable {setup : DetectorSetup} {now startedAt : ℚ}

theorem silent_le {last : ℚ} {status : NodeStatus} {phase : LoopPhase}
    (hsteady : SteadyAt setup now startedAt (some (last, status)) phase) :
    status = .available ∧ now - last ≤ setup.silenceS := by
  have hcall := setup.callS_nonneg
  have hwait := setup.waitS_nonneg
  have hlost := @DetectorSetup.lostS_nonneg setup setup.failures
  unfold DetectorSetup.silenceS
  cases phase with
  | off => cases hsteady
  | sending attempt =>
      obtain ⟨hhealthy, _, hlate, hstatus, hsilent⟩ := hsteady
      have hmono := @DetectorSetup.lostS_mono setup _ _ hhealthy.failures
      exact ⟨hstatus, by linarith⟩
  | handled attempt response =>
      obtain ⟨_, _, hlate, _, heard, hview, hsince⟩ := hsteady
      obtain ⟨rfl, rfl⟩ := Prod.mk.inj (Option.some.inj hview)
      exact ⟨rfl, by linarith⟩
  | waiting since client =>
      obtain ⟨hhealthy, _, hlate, hstatus, hsilent⟩ := hsteady
      have hmono := @DetectorSetup.lostS_mono setup _ _ hhealthy.failures
      have hover := hhealthy.waitS
      exact ⟨hstatus, by linarith⟩

/-- A steady worker is registered soon after its start. -/
theorem unheard_le {phase : LoopPhase} (hsteady : SteadyAt setup now startedAt none phase)
    (hon : phase ≠ .off) : now - startedAt ≤ setup.callS + setup.lostS setup.failures := by
  have hcall := setup.callS_nonneg
  cases phase with
  | off => exact absurd rfl hon
  | sending attempt =>
      obtain ⟨hhealthy, _, hlate, hunheard⟩ := hsteady
      have hmono := @DetectorSetup.lostS_mono setup _ _ hhealthy.failures
      have hcontact : attempt.since - startedAt ≤ _ := hunheard
      linarith
  | handled attempt response =>
      obtain ⟨_, _, _, _, last, hview, _⟩ := hsteady
      cases hview
  | waiting since client =>
      obtain ⟨hhealthy, _, hlate, hunheard⟩ := hsteady
      have hmono := @DetectorSetup.lostS_mono setup _ _ hhealthy.failures
      have hover := hhealthy.waitS
      have hcontact : since - startedAt ≤ _ := hunheard
      linarith

/-- Time passes up to the deadline of the phase. -/
theorem tick {durationS : ℚ} {view : Option (ℚ × NodeStatus)} {phase : LoopPhase}
    (hsteady : SteadyAt setup now startedAt view phase) (hpos : 0 ≤ durationS)
    (hdeadline : ∀ deadline, setup.deadline phase = some deadline → now + durationS ≤ deadline) :
    SteadyAt setup (now + durationS) startedAt view phase := by
  cases phase with
  | off => exact hsteady
  | sending attempt =>
      obtain ⟨hhealthy, hsince, _, hcontact⟩ := hsteady
      exact ⟨hhealthy, by linarith, hdeadline _ rfl, hcontact⟩
  | handled attempt response =>
      obtain ⟨hhealthy, hsince, _, hheard⟩ := hsteady
      exact ⟨hhealthy, by linarith, hdeadline _ rfl, hheard⟩
  | waiting since client =>
      obtain ⟨hhealthy, hsince, _, hcontact⟩ := hsteady
      exact ⟨hhealthy, by linarith, hdeadline _ rfl, hcontact⟩

/-- A reap does not find a steady worker too old. -/
theorem reap {view : Option (ℚ × NodeStatus)} {phase : LoopPhase}
    (hsteady : SteadyAt setup now startedAt view phase)
    {tooOld : ℚ → ℚ → Bool}
    (htooOld : ∀ last now, tooOld last now = true ↔ setup.timeoutS < now - last)
    (hbudget : setup.silenceS ≤ setup.timeoutS) :
    view.map (NodeRegistry.reapView tooOld now) = view := by
  cases view with
  | none => rfl
  | some found =>
      obtain ⟨last, status⟩ := found
      have hsilent := hsteady.silent_le.2
      have hrecent : ¬ (status ≠ .unavailable ∧ tooOld last now = true) := fun hlate =>
        absurd ((htooOld last now).mp hlate.2) (by linarith)
      rw [Option.map_some, NodeRegistry.reapView, if_neg hrecent]

/-- A request of the worker is handled while its loop is in any phase. -/
theorem heard {view : Option (ℚ × NodeStatus)} {phase : LoopPhase}
    (hsteady : SteadyAt setup now startedAt view phase) (hon : phase ≠ .off) :
    SteadyAt setup now startedAt (some (now, .available)) phase := by
  have hcall := setup.callS_nonneg
  have hwait := setup.waitS_nonneg
  cases phase with
  | off => exact absurd rfl hon
  | sending attempt =>
      obtain ⟨hhealthy, hsince, hlate, _⟩ := hsteady
      have hlost := @DetectorSetup.lostS_nonneg setup attempt.client.consecutiveFailures
      exact ⟨hhealthy, hsince, hlate, rfl, by linarith⟩
  | handled attempt response =>
      obtain ⟨hhealthy, hsince, hlate, hresponse, _⟩ := hsteady
      exact ⟨hhealthy, hsince, hlate, hresponse, now, rfl, hsince⟩
  | waiting since client =>
      obtain ⟨hhealthy, hsince, hlate, _⟩ := hsteady
      have hlost := @DetectorSetup.lostS_nonneg setup client.consecutiveFailures
      exact ⟨hhealthy, hsince, hlate, rfl, by linarith⟩

theorem start {nodeId : String} {inferencePort : Nat} {ipAddressOverride : Option String}
    {intervalS : ℚ} {turn : Turn} (hpos : 0 ≤ intervalS)
    (hinterval : intervalS ≤ setup.heartbeatIntervalS)
    (hdetects : turn.detects ipAddressOverride) :
    SteadyAt setup now now none
      (.begin now (.create nodeId inferencePort ipAddressOverride intervalS) turn) := by
  have hcall := setup.callS_nonneg
  obtain ⟨attempt, hsending, hsince, hclient⟩ := @LoopPhase.begin_detects now
    (.create nodeId inferencePort ipAddressOverride intervalS) turn hdetects
  rw [hsending]
  have hfresh : attempt.client.consecutiveFailures = 0 := by rw [hclient]; rfl
  refine ⟨?_, hsince.le, by linarith, ?_⟩
  · rw [hclient]
    exact ⟨hpos, hinterval, Nat.zero_le _⟩
  · rw [hfresh, DetectorSetup.lostS_zero, hsince]
    show now - now ≤ 0
    linarith

theorem wake {since : ℚ} {client : HeartbeatClient} {view : Option (ℚ × NodeStatus)} {turn : Turn}
    (hsteady : SteadyAt setup now startedAt view (.waiting since client))
    (hdetects : turn.detects client.ipAddressOverride) :
    SteadyAt setup now startedAt view (.begin now client turn) := by
  have hcall := setup.callS_nonneg
  obtain ⟨hhealthy, _, hlate, hcontact⟩ := hsteady
  have hover := hhealthy.waitS
  obtain ⟨attempt, hsending, rfl, rfl⟩ := @LoopPhase.begin_detects now client turn hdetects
  rw [hsending]
  refine ⟨hhealthy, le_refl _, by linarith, ?_⟩
  cases view with
  | none =>
      have hunheard : since - startedAt ≤ _ := hcontact
      show attempt.since - startedAt ≤ _
      linarith
  | some found =>
      obtain ⟨hstatus, hsilent⟩ := hcontact
      exact ⟨hstatus, by linarith⟩

theorem respond {attempt : Attempt} {response : HeartbeatResponse}
    {view : Option (ℚ × NodeStatus)}
    (hsteady : SteadyAt setup now startedAt view (.handled attempt response)) :
    SteadyAt setup now startedAt view (attempt.finish now
      (.response response.acknowledged response.heartbeatIntervalMs)) := by
  obtain ⟨hhealthy, _, hlate, rfl, last, rfl, hsince⟩ := hsteady
  rw [attempt.finish_response]
  have hshort := serverIntervalMs_le setup.heartbeatIntervalS_nonneg
  have hslack := setup.slackS_nonneg
  have hnext : Healthy setup { attempt.client with
      intervalS :=
        if 0 < serverIntervalMs setup.heartbeatIntervalS then
          (serverIntervalMs setup.heartbeatIntervalS : ℚ) / 1000
        else attempt.client.intervalS
      consecutiveFailures := 0 } := by
    split
    · exact ⟨by positivity, hshort, Nat.zero_le _⟩
    · exact ⟨hhealthy.nonneg, hhealthy.intervalS, Nat.zero_le _⟩
  refine ⟨hnext, le_refl _, ?_, rfl, ?_⟩
  · have hpos := hnext.nonneg
    linarith
  · simp only [DetectorSetup.lostS_zero]
    linarith

theorem fail {attempt : Attempt} {view : Option (ℚ × NodeStatus)} {phase : LoopPhase}
    {code details message : String} (hsteady : SteadyAt setup now startedAt view phase)
    (hphase : phase = .sending attempt ∨ ∃ response, phase = .handled attempt response)
    (hfailures : attempt.client.consecutiveFailures < setup.failures) :
    SteadyAt setup now startedAt view (attempt.finish now (.rpcError code details message)) := by
  have hwait := setup.waitS_nonneg
  have hcall := setup.callS_nonneg
  have hslack := setup.slackS_nonneg
  have hlost := @DetectorSetup.lostS_nonneg setup attempt.client.consecutiveFailures
  rw [attempt.finish_rpcError]
  rcases hphase with rfl | ⟨response, rfl⟩
  · obtain ⟨hhealthy, _, hlate, hcontact⟩ := hsteady
    have hpos := hhealthy.nonneg
    refine ⟨⟨hpos, hhealthy.intervalS, hfailures⟩, le_refl _, ?_, ?_⟩
    · show now ≤ now + attempt.client.intervalS + setup.slackS
      linarith
    · show Contact startedAt now (setup.lostS (attempt.client.consecutiveFailures + 1) - _)
        (setup.callS + setup.lostS (attempt.client.consecutiveFailures + 1)) view
      rw [DetectorSetup.lostS_succ]
      cases view with
      | none =>
          have hunheard : attempt.since - startedAt ≤ _ := hcontact
          show now - startedAt ≤ _
          linarith
      | some found =>
          obtain ⟨hstatus, hsilent⟩ := hcontact
          exact ⟨hstatus, by linarith⟩
  · obtain ⟨hhealthy, _, hlate, _, last, rfl, hsince⟩ := hsteady
    have hpos := hhealthy.nonneg
    refine ⟨⟨hpos, hhealthy.intervalS, hfailures⟩, le_refl _, ?_, rfl, ?_⟩
    · show now ≤ now + attempt.client.intervalS + setup.slackS
      linarith
    · show now - last ≤ setup.callS + setup.lostS (attempt.client.consecutiveFailures + 1)
      rw [DetectorSetup.lostS_succ]
      linarith

end SteadyAt

/-- Every steady worker is as its phase says. -/
def SteadyInv (setup : DetectorSetup) (steady : String → Prop) (s : DetectorState) : Prop :=
  ∀ nodeId, steady nodeId →
    SteadyAt setup s.now (s.startedAt nodeId) (s.registry.view nodeId) (s.workers nodeId)

namespace SteadyInv

variable {setup : DetectorSetup} {steady : String → Prop} {s : DetectorState}

/-- The phase of one worker changes. -/
theorem put (hinv : SteadyInv setup steady s) {nodeId : String} {phase : LoopPhase}
    (hphase : steady nodeId →
      SteadyAt setup s.now (s.startedAt nodeId) (s.registry.view nodeId) phase) :
    SteadyInv setup steady (s.put nodeId phase) := by
  intro key hsteady
  rw [s.put_workers]
  split
  · next hkey =>
      rw [hkey] at hsteady ⊢
      exact hphase hsteady
  · exact hinv key hsteady

/-- A request is handled that is not the first sign of a steady worker. -/
theorem handle (hinv : SteadyInv setup steady s) {request : HeartbeatRequest}
    (hon : steady request.nodeId → s.workers request.nodeId ≠ .off) :
    SteadyInv setup steady (s.handle setup request).1 := by
  intro key hsteady
  show SteadyAt setup s.now (s.startedAt key) ((s.registry.updateNode s.now request).view key)
    (s.workers key)
  rw [NodeRegistry.view_updateNode]
  split
  · next hkey =>
      rw [hkey] at hsteady ⊢
      exact (hinv _ hsteady).heard (hon hsteady)
  · exact hinv key hsteady

theorem step (hinv : SteadyInv setup steady s) (hown : s.OwnClients)
    (hreaper : ReaperInv setup s) (hbudget : setup.silenceS ≤ setup.timeoutS)
    {t : DetectorState} {label : DetectorLabel} (htimely : Timely setup steady s label)
    (hmoves : Moves setup s label t) : SteadyInv setup steady t := by
  cases hmoves with
  | tick hpos =>
      intro key hsteady
      exact (hinv key hsteady).tick hpos (htimely.2 key hsteady)
  | reap _ =>
      intro key hsteady
      show SteadyAt setup s.now (s.startedAt key)
        ((s.registry.reapStaleNodes s.now).1.view key) (s.workers key)
      rw [NodeRegistry.view_reapStaleNodes, (hinv key hsteady).reap hreaper.tooOld hbudget]
      exact hinv key hsteady
  | @start nodeId inferencePort ipAddressOverride intervalS turn hphase =>
      intro key hsteady
      show SteadyAt setup s.now (Function.update s.startedAt nodeId s.now key)
        (s.registry.view key) ((s.put nodeId _).workers key)
      rw [s.put_workers, Function.update_apply]
      split
      · next hkey =>
          subst hkey
          have hoff := hinv key hsteady
          rw [hphase] at hoff
          have hview : s.registry.view key = none := hoff
          rw [hview]
          obtain ⟨hpos, hinterval, hdetects⟩ := htimely hsteady
          exact SteadyAt.start hpos hinterval hdetects
      · exact hinv key hsteady
  | @wake nodeId turn since client hphase _ =>
      refine hinv.put fun hsteady => ?_
      have hbefore := hinv nodeId hsteady
      rw [hphase] at hbefore
      exact hbefore.wake (htimely hsteady client (by rw [hphase]; rfl))
  | @heartbeat nodeId attempt hphase =>
      have hid : attempt.request.nodeId = nodeId :=
        (buildRequest_nodeId attempt.built).trans (hown nodeId _ (by rw [hphase]; rfl))
      have hon : s.workers attempt.request.nodeId ≠ .off := by
        rw [hid, hphase]
        exact LoopPhase.noConfusion
      have hhandled := hinv.handle fun _ => hon
      refine hhandled.put fun hsteady => ?_
      have hbefore := hinv nodeId hsteady
      rw [hphase] at hbefore
      obtain ⟨hhealthy, hsince, hlate, _⟩ := hbefore
      refine ⟨hhealthy, hsince, hlate, rfl, s.now, ?_, hsince⟩
      show (s.registry.updateNode s.now attempt.request).view nodeId = _
      rw [NodeRegistry.view_updateNode, if_pos hid.symm]
  | @respond nodeId attempt response hphase =>
      refine hinv.put fun hsteady => ?_
      have hbefore := hinv nodeId hsteady
      rw [hphase] at hbefore
      exact hbefore.respond
  | @fail nodeId code details message attempt hphase =>
      refine hinv.put fun hsteady => ?_
      have hclient : (s.workers nodeId).client = some attempt.client := by
        rcases hphase with hphase | ⟨response, hphase⟩ <;> rw [hphase] <;> rfl
      exact (hinv nodeId hsteady).fail hphase (htimely hsteady attempt.client hclient)
  | leave => exact hinv.put fun hsteady => absurd hsteady htimely
  | late => exact hinv.handle htimely

end SteadyInv

section Runs

variable {setup : DetectorSetup} {steady : String → Prop} {s : DetectorState}

theorem reaperInv_of_reachable (hreach : setup.system.ReachableVia (Timely setup steady) s) :
    ReaperInv setup s := by
  refine hreach.invariant ?_ ?_
  · rintro s rfl
    exact .start setup
  · intro s label t _ hinv htimely hstep
    exact hinv.step htimely (moves_of_step hstep)

theorem ownClients_of_reachable (hreach : setup.system.ReachableVia (Timely setup steady) s) :
    s.OwnClients := by
  refine hreach.invariant ?_ ?_
  · rintro s rfl nodeId client hclient
    cases hclient
  · intro s label t _ hown _ hstep
    exact hown.step (moves_of_step hstep)

theorem steadyInv_of_reachable (hreach : setup.system.ReachableVia (Timely setup steady) s)
    (hbudget : setup.silenceS ≤ setup.timeoutS) : SteadyInv setup steady s := by
  refine hreach.invariant ?_ ?_
  · rintro s rfl nodeId _
    exact rfl
  · intro s label t hprev hinv htimely hstep
    exact hinv.step (ownClients_of_reachable hprev) (reaperInv_of_reachable hprev)
      hbudget htimely (moves_of_step hstep)

/-- A node that is not marked was heard within the detection time. -/
theorem ReaperInv.detected (hinv : ReaperInv setup s) {nodeId : String} {last : ℚ}
    {status : NodeStatus} (hview : s.registry.view nodeId = some (last, status))
    (hsilent : setup.detectionS < s.now - last) : status = .unavailable := by
  by_contra hstatus
  have hrecent := hinv.unmarked nodeId last status hview hstatus
  have hdue := hinv.due
  unfold DetectorSetup.detectionS at hsilent
  linarith

end Runs

/-- The nodes of a plan are the available ones. -/
theorem planDispatch_nodeIds {manifest : ModelManifest} {registry : NodeRegistry}
    {plan : DispatchPlan} (hplan : planDispatch manifest registry = .ok plan) :
    plan.assignments.map ShardAssignment.nodeId =
      (registry.listNodes (some .available)).map NodeInfo.nodeId := by
  have hids := congrArg (List.map Prod.fst) (planDispatch_plansFor hplan).inOrder
  rw [List.map_map, List.map_map] at hids
  exact hids

/-- What the failure detector promises, in every run in which the reaper and the steady
workers are in time. A node that is marked unavailable has been silent for longer than the
timeout, and a node that has been silent for longer than the timeout and one cycle of the
reaper is marked and in no plan. If the timeout covers the calls a steady worker may lose in
a row, a steady worker is registered soon after its start, never marked, and in every plan. -/
theorem failure_detection (setup : DetectorSetup) (steady : String → Prop) {s : DetectorState}
    (hreach : setup.system.ReachableVia (Timely setup steady) s) :
    (∀ nodeId node, s.registry.getNode nodeId = some node →
      (node.status = .unavailable → setup.timeoutS < s.now - node.lastHeartbeat) ∧
      (setup.detectionS < s.now - node.lastHeartbeat → node.status = .unavailable)) ∧
    (∀ manifest plan, planDispatch manifest s.registry = .ok plan →
      ∀ shard ∈ plan.assignments, ∃ node, s.registry.getNode shard.nodeId = some node ∧
        s.now - node.lastHeartbeat ≤ setup.detectionS) ∧
    (2 * setup.callS + setup.waitS + setup.failures * (setup.waitS + setup.callS) ≤
        setup.timeoutS → ∀ nodeId, steady nodeId →
      (∀ node, s.registry.getNode nodeId = some node → node.status = .available) ∧
      (s.workers nodeId ≠ .off →
        setup.callS + setup.failures * (setup.waitS + setup.callS) <
            s.now - s.startedAt nodeId →
          (s.registry.getNode nodeId).isSome ∧
          ∀ manifest plan, planDispatch manifest s.registry = .ok plan →
            nodeId ∈ plan.assignments.map ShardAssignment.nodeId)) := by
  have hreaper := reaperInv_of_reachable hreach
  have hview (nodeId : String) (node : NodeInfo) (hget : s.registry.getNode nodeId = some node) :
      s.registry.view nodeId = some (node.lastHeartbeat, node.status) := by
    rw [NodeRegistry.view, hget, Option.map_some]
  refine ⟨?_, ?_, ?_⟩
  · intro nodeId node hget
    refine ⟨fun hstatus => ?_, hreaper.detected (hview nodeId node hget)⟩
    refine hreaper.marked nodeId _ ?_
    rw [hview nodeId node hget, hstatus]
  · intro manifest plan hplan shard hmem
    have hid : shard.nodeId ∈ (s.registry.listNodes (some .available)).map NodeInfo.nodeId := by
      rw [← planDispatch_nodeIds hplan]
      exact List.mem_map_of_mem hmem
    obtain ⟨node, hnode, hnodeId⟩ := List.mem_map.mp hid
    obtain ⟨hvalue, hstatus⟩ := List.mem_filter.mp hnode
    obtain ⟨⟨key, found⟩, hitem, rfl⟩ := List.mem_map.mp hvalue
    have hkey : found.nodeId = key := s.registry.keyed _ hitem
    have hget : s.registry.getNode shard.nodeId = some found := by
      rw [← hnodeId, hkey]
      exact (s.registry.nodes.mem_items_iff key found).mp hitem
    refine ⟨found, hget, ?_⟩
    by_contra hsilent
    have hmarked := hreaper.detected (hview _ found hget) (not_le.mp hsilent)
    rw [hmarked] at hstatus
    cases hstatus
  · intro hbudget nodeId hsteady
    have hinv := steadyInv_of_reachable hreach hbudget nodeId hsteady
    refine ⟨fun node hget => ?_, fun hon hstarted => ?_⟩
    · rw [hview nodeId node hget] at hinv
      exact hinv.silent_le.1
    · cases hfound : s.registry.view nodeId with
      | none =>
          rw [hfound] at hinv
          exact absurd (hinv.unheard_le hon) (not_le.mpr hstarted)
      | some found =>
          obtain ⟨last, status⟩ := found
          rw [hfound] at hinv
          obtain ⟨rfl, _⟩ := hinv.silent_le
          obtain ⟨node, hnode, hnodeId⟩ := NodeRegistry.listNodes_of_view hfound
          refine ⟨?_, fun manifest plan hplan => ?_⟩
          · obtain ⟨info, hget, _⟩ := Option.map_eq_some_iff.mp hfound
            rw [hget]
            rfl
          · rw [planDispatch_nodeIds hplan, ← hnodeId]
            exact List.mem_map_of_mem hnode

/-- The defaults of the orchestrator, with calls of half a second and one lost call. -/
def defaultDetector : DetectorSetup where
  heartbeatIntervalS := 2
  missedThreshold := 3
  reaperIntervalS := 1
  slackS := 1 / 10
  callS := 1 / 2
  failures := 1
  heartbeatIntervalS_nonneg := by norm_num
  reaperIntervalS_nonneg := by norm_num
  slackS_nonneg := by norm_num
  callS_nonneg := by norm_num

def wiredTurn : Turn where
  network := ⟨[("eth0", [⟨true, "10.0.0.2"⟩])], none⟩
  system := piSystem
  reply := .response true 2000
  stopped := false

/-- A test that is enough for the steps of a run in which `pi-1` is steady. -/
def timelyGuard (s : DetectorState) : DetectorLabel → Bool
  | .tick durationS =>
      decide (s.now + durationS ≤ s.reaperDue + defaultDetector.slackS) &&
        (defaultDetector.deadline (s.workers "pi-1")).all fun deadline =>
          decide (s.now + durationS ≤ deadline)
  | .start _ _ _ intervalS turn =>
      decide (0 ≤ intervalS) && decide (intervalS ≤ defaultDetector.heartbeatIntervalS) &&
        turn.network.wired.isSome
  | .wake _ turn => turn.network.wired.isSome
  | .fail nodeId _ _ _ => decide (nodeId ≠ "pi-1")
  | .leave nodeId => decide (nodeId ≠ "pi-1")
  | .late request => decide (request.nodeId ≠ "pi-1")
  | _ => true

theorem timely_of_guard (s : DetectorState) (label : DetectorLabel)
    (hguard : timelyGuard s label = true) :
    Timely defaultDetector (fun nodeId => nodeId = "pi-1") s label := by
  cases label with
  | tick durationS =>
      obtain ⟨hdue, hdeadline⟩ := (Bool.and_eq_true _ _).mp hguard
      refine ⟨of_decide_eq_true hdue, ?_⟩
      rintro nodeId rfl deadline heq
      rw [heq] at hdeadline
      exact of_decide_eq_true hdeadline
  | start nodeId inferencePort ipAddressOverride intervalS turn =>
      obtain ⟨hinterval, hwired⟩ := (Bool.and_eq_true _ _).mp hguard
      obtain ⟨hpos, hle⟩ := (Bool.and_eq_true _ _).mp hinterval
      exact fun _ => ⟨of_decide_eq_true hpos, of_decide_eq_true hle, .inr (.inl hwired)⟩
  | wake nodeId turn => exact fun _ _ _ => .inr (.inl hguard)
  | fail nodeId code details message =>
      exact fun hsteady => absurd hsteady (of_decide_eq_true hguard)
  | leave nodeId =>
      have hother : nodeId ≠ "pi-1" := of_decide_eq_true hguard
      exact hother
  | late request => exact fun hsteady => absurd hsteady (of_decide_eq_true hguard)
  | reap => exact trivial
  | heartbeat nodeId => exact trivial
  | respond nodeId => exact trivial

/-- Two workers register, one of them crashes, and the other one beats for eight seconds. -/
def crashRun : List DetectorLabel :=
  [.start "pi-1" 50052 none 2 wiredTurn, .heartbeat "pi-1", .respond "pi-1",
    .start "pi-2" 50052 none 2 wiredTurn, .heartbeat "pi-2", .leave "pi-2", .reap] ++
  (List.replicate 4 [.tick 1, .reap, .tick 1, .reap, .wake "pi-1" wiredTurn,
    .heartbeat "pi-1", .respond "pi-1"]).flatten

/-- After the run the crash has been detected, and the other worker is available. -/
theorem failure_detection_crash :
    ∃ s, defaultDetector.system.ReachableVia
        (Timely defaultDetector fun nodeId => nodeId = "pi-1") s ∧
      (∃ node, s.registry.getNode "pi-2" = some node ∧ node.status = .unavailable) ∧
      ∃ node, s.registry.getNode "pi-1" = some node ∧ node.status = .available := by
  obtain ⟨s, hreach, htest⟩ := TransitionSystem.reachable_of_execGuarded crashRun
    (.init rfl : defaultDetector.system.ReachableVia
      (Timely defaultDetector fun nodeId => nodeId = "pi-1") defaultDetector.start)
    timely_of_guard
    (by decide +kernel : ((defaultDetector.system.execGuarded timelyGuard defaultDetector.start
      crashRun).any fun s => decide (s.now = 8) &&
        decide ((s.registry.getNode "pi-2").map NodeInfo.lastHeartbeat = some 0) &&
        (s.registry.getNode "pi-1").isSome) = true)
  obtain ⟨htimes, hheard⟩ := (Bool.and_eq_true _ _).mp htest
  obtain ⟨hnow, hlast⟩ := (Bool.and_eq_true _ _).mp htimes
  have hnow := of_decide_eq_true hnow
  obtain ⟨crashed, hcrashed, hlast⟩ := Option.map_eq_some_iff.mp (of_decide_eq_true hlast)
  obtain ⟨node, hnode⟩ := Option.isSome_iff_exists.mp hheard
  obtain ⟨hmarks, _, hsteady⟩ := failure_detection defaultDetector _ hreach
  refine ⟨s, hreach, ⟨crashed, hcrashed, ?_⟩, node, hnode, ?_⟩
  · refine (hmarks "pi-2" crashed hcrashed).2 ?_
    rw [hnow, hlast]
    norm_num [DetectorSetup.detectionS, DetectorSetup.timeoutS, defaultDetector]
  · refine (hsteady ?_ "pi-1" rfl).1 node hnode
    norm_num [DetectorSetup.waitS, DetectorSetup.timeoutS, defaultDetector]

end PiSSM.Pipeline
