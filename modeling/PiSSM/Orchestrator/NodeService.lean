import PiSSM.Exceptions
import PiSSM.Orchestrator.NodeLiveness

/-!
`NodeService` on the orchestrator: the handler of a worker's heartbeat, which answers with
the interval the orchestrator wants, and the handler of a status request. What a status
request is answered is read off the history of the registry.
-/

namespace PiSSM.Orchestrator

open PiSSM.Lib

structure HeartbeatResponse where
  acknowledged : Bool
  heartbeatIntervalMs : Nat
  deriving DecidableEq

/-- The interval `create_server` gives the servicer. -/
def serverIntervalMs (heartbeatIntervalS : ℚ) : Nat :=
  ⌊heartbeatIntervalS * 1000⌋.toNat

/-- `Heartbeat`. -/
def heartbeat (registry : NodeRegistry) (heartbeatIntervalMs : Nat) (now : ℚ)
    (request : HeartbeatRequest) : NodeRegistry × HeartbeatResponse :=
  (registry.updateNode now request, ⟨true, heartbeatIntervalMs⟩)

/-- What a worker makes of the answer is not longer than the interval asked for. -/
theorem serverIntervalMs_le {heartbeatIntervalS : ℚ} (hpos : 0 ≤ heartbeatIntervalS) :
    (serverIntervalMs heartbeatIntervalS : ℚ) / 1000 ≤ heartbeatIntervalS := by
  have hfloor : 0 ≤ ⌊heartbeatIntervalS * 1000⌋ := Int.floor_nonneg.mpr (by positivity)
  have hcast : ((serverIntervalMs heartbeatIntervalS : Nat) : ℚ) =
      (⌊heartbeatIntervalS * 1000⌋ : ℚ) := by
    unfold serverIntervalMs
    exact_mod_cast congrArg (Int.cast : ℤ → ℚ) (Int.toNat_of_nonneg hfloor)
  have hle := Int.floor_le (heartbeatIntervalS * 1000)
  rw [hcast]
  linarith

/-- The statuses of the protocol. -/
inductive ProtoStatus where
  | unknown
  | available
  | busy
  | unavailable
  deriving DecidableEq

/-- `STATUS_TO_PROTO`. -/
def statusToProto : NodeStatus → ProtoStatus
  | .available => .available
  | .busy => .busy
  | .unavailable => .unavailable

structure StatusResponse where
  nodeId : String
  ipAddress : String
  availableRamMb : Nat
  totalRamMb : Nat
  cpuCount : Nat
  arch : String
  osName : String
  osVersion : String
  status : ProtoStatus
  loadedShards : Nat
  deriving DecidableEq

/-- `ReportStatus`; an unknown node sets the code of the call. -/
def reportStatus (registry : NodeRegistry) (nodeId : String) :
    Except PyException StatusResponse :=
  match registry.getNode nodeId with
  | none =>
      .error (.rpcError "NOT_FOUND" s!"Node '{nodeId}' not found"
        s!"NOT_FOUND: Node '{nodeId}' not found")
  | some node =>
      .ok {
        nodeId := node.nodeId
        ipAddress := node.ipAddress
        availableRamMb := node.availableRamMb
        totalRamMb := node.totalRamMb
        cpuCount := node.cpuCount
        arch := node.arch
        osName := node.osName
        osVersion := node.osVersion
        status := statusToProto node.status
        loadedShards := 0 }

/-- The answer for a node whose last heartbeat was this one. -/
def heardStatus (request : HeartbeatRequest) (silent : Bool) : StatusResponse where
  nodeId := request.nodeId
  ipAddress := request.ipAddress
  availableRamMb := request.availableRamMb
  totalRamMb := request.totalRamMb
  cpuCount := request.cpuCount
  arch := request.arch
  osName := request.osName
  osVersion := request.osVersion
  status := if silent then .unavailable else .available
  loadedShards := 0

namespace NodeRegistry

/-- A node as its last heartbeat has described it. -/
def Describes (request : HeartbeatRequest) (last : ℚ) (silent : Bool) (node : NodeInfo) : Prop :=
  ∃ firstSeen, node = {
    nodeId := request.nodeId
    ipAddress := request.ipAddress
    availableRamMb := request.availableRamMb
    totalRamMb := request.totalRamMb
    cpuCount := request.cpuCount
    arch := request.arch
    osName := request.osName
    osVersion := request.osVersion
    status := statusOf silent
    lastHeartbeat := last
    firstSeen := firstSeen
    inferencePort := request.inferencePort }

/-- A call that is not a heartbeat of the node keeps its description. -/
theorem describes_apply {registry : NodeRegistry} {request : HeartbeatRequest} {last : ℚ}
    {silent : Bool} {node : NodeInfo} (hdescribes : Describes request last silent node)
    (hget : registry.getNode request.nodeId = some node) {call : RegistryCall}
    (hquiet : ¬ call.refreshes request.nodeId) :
    ∃ after, (registry.apply call).1.getNode request.nodeId = some after ∧
      Describes request last (silent || missed registry.tooOld last [call]) after := by
  cases call with
  | updateNode now other =>
      have hne : request.nodeId ≠ other.nodeId := fun heq => hquiet heq.symm
      refine ⟨node, ?_, ?_⟩
      · rw [apply, getNode_updateNode, if_neg hne, hget]
      · simpa [missed] using hdescribes
  | reapStaleNodes now =>
      refine ⟨registry.reapNode now node, ?_, ?_⟩
      · rw [apply, getNode_reapStaleNodes, hget, Option.map_some]
      · obtain ⟨firstSeen, rfl⟩ := hdescribes
        refine ⟨firstSeen, ?_⟩
        unfold reapNode
        cases silent with
        | true => simp [isStale, statusOf]
        | false =>
            by_cases hlate : registry.timeoutS < registry.floats.sub now last <;>
              simp [isStale, statusOf, missed, tooOld, hlate]

theorem describes_run {registry : NodeRegistry} {request : HeartbeatRequest} {last : ℚ}
    {silent : Bool} {node : NodeInfo} (hdescribes : Describes request last silent node)
    (hget : registry.getNode request.nodeId = some node) {calls : List RegistryCall}
    (hquiet : ∀ call ∈ calls, ¬ call.refreshes request.nodeId) :
    ∃ after, (registry.run calls).getNode request.nodeId = some after ∧
      Describes request last (silent || missed registry.tooOld last calls) after := by
  induction calls generalizing registry silent node with
  | nil => exact ⟨node, hget, by simpa [missed] using hdescribes⟩
  | cons call rest ih =>
      obtain ⟨middle, hmiddle, hdescribed⟩ :=
        describes_apply hdescribes hget (hquiet call List.mem_cons_self)
      obtain ⟨after, hafter, hlast⟩ := ih hdescribed hmiddle fun later hmem =>
        hquiet later (List.mem_cons_of_mem _ hmem)
      have hmissed : missed registry.tooOld last (call :: rest) =
          (missed registry.tooOld last [call] || missed registry.tooOld last rest) := by
        simp [missed]
      rw [registry.apply_tooOld call, Bool.or_assoc, ← hmissed] at hlast
      exact ⟨after, hafter, hlast⟩

end NodeRegistry

/-- What `ReportStatus` answers after any history of heartbeats and reaps: an error for a
node that has never been heard, and otherwise exactly what the node's last heartbeat has
said, with the status by whether a reap since then has found that heartbeat too old. -/
theorem report_status (floats : FloatArithmetic) (heartbeatIntervalS : ℚ)
    (missedThreshold : Nat) (calls : List RegistryCall) (nodeId : String) :
    let start := NodeRegistry.create floats heartbeatIntervalS missedThreshold
    ((∀ call ∈ calls, ¬ call.refreshes nodeId) →
      reportStatus (start.run calls) nodeId =
        .error (.rpcError "NOT_FOUND" s!"Node '{nodeId}' not found"
          s!"NOT_FOUND: Node '{nodeId}' not found")) ∧
    ∀ before request last after, calls = before ++ .updateNode last request :: after →
      request.nodeId = nodeId → (∀ call ∈ after, ¬ call.refreshes nodeId) →
      reportStatus (start.run calls) nodeId =
        .ok (heardStatus request (NodeRegistry.missed start.tooOld last after)) := by
  intro start
  constructor
  · intro hquiet
    have hview := @NodeRegistry.view_unheard start calls nodeId hquiet rfl
    have hnone : (start.run calls).getNode nodeId = none := Option.map_eq_none_iff.mp hview
    rw [reportStatus, hnone]
  · rintro before request last after rfl rfl hquiet
    have hbeat : ((start.run before).apply (.updateNode last request)).1.getNode
        request.nodeId = some ((start.run before).heartbeatInfo last request) := by
      rw [NodeRegistry.apply, NodeRegistry.getNode_updateNode, if_pos rfl]
    have hdescribed : NodeRegistry.Describes request last false
        ((start.run before).heartbeatInfo last request) := ⟨_, rfl⟩
    obtain ⟨node, hget, firstSeen, rfl⟩ := NodeRegistry.describes_run hdescribed hbeat hquiet
    rw [NodeRegistry.apply_tooOld, NodeRegistry.run_tooOld, Bool.false_or] at hget
    have hrun : start.run (before ++ .updateNode last request :: after) =
        ((start.run before).apply (.updateNode last request)).1.run after :=
      start.run_append before _
    rw [reportStatus, hrun, hget]
    cases NodeRegistry.missed start.tooOld last after <;> rfl

end PiSSM.Orchestrator
