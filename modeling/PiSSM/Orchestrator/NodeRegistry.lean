import PiSSM.Lib.Dict

/-!
The orchestrator's registry of worker nodes. Nodes register and refresh
themselves by heartbeats, are marked unavailable when they have been silent
for longer than the timeout, and rejoin with their next heartbeat. Clock
values are rationals, and what Python's floats make of their products and
differences is a parameter.
-/

namespace PiSSM.Orchestrator

open PiSSM.Lib

inductive NodeStatus where
  | available
  | busy
  | unavailable
  deriving DecidableEq

structure NodeInfo where
  nodeId : String
  ipAddress : String
  availableRamMb : Nat
  totalRamMb : Nat
  cpuCount : Nat
  arch : String
  osName : String
  osVersion : String
  status : NodeStatus
  lastHeartbeat : ℚ
  firstSeen : ℚ
  inferencePort : Nat
  deriving DecidableEq

/-- The fields of a heartbeat that `update_node` receives. -/
structure HeartbeatRequest where
  nodeId : String
  ipAddress : String
  availableRamMb : Nat
  totalRamMb : Nat
  cpuCount : Nat
  arch : String
  osName : String
  osVersion : String
  inferencePort : Nat
  deriving DecidableEq

/-- The arithmetic of the registry's times. Nothing is assumed of its rounding. -/
structure FloatArithmetic where
  mul : ℚ → Nat → ℚ
  sub : ℚ → ℚ → ℚ

/-- Without any rounding. -/
def FloatArithmetic.exact : FloatArithmetic where
  mul interval count := interval * count
  sub now last := now - last

/-- Every entry is stored under its own node id. -/
structure NodeRegistry where
  floats : FloatArithmetic
  heartbeatIntervalS : ℚ
  missedThreshold : Nat
  nodes : Dict String NodeInfo
  keyed : ∀ entry ∈ nodes.items, entry.2.nodeId = entry.1

namespace NodeRegistry

def create (floats : FloatArithmetic) (heartbeatIntervalS : ℚ) (missedThreshold : Nat) :
    NodeRegistry where
  floats := floats
  heartbeatIntervalS := heartbeatIntervalS
  missedThreshold := missedThreshold
  nodes := Dict.empty
  keyed := by simp [Dict.empty]

def timeoutS (registry : NodeRegistry) : ℚ :=
  registry.floats.mul registry.heartbeatIntervalS registry.missedThreshold

/-- The record `update_node` stores; only `first_seen` is carried over from an
earlier registration. -/
def heartbeatInfo (registry : NodeRegistry) (now : ℚ) (request : HeartbeatRequest) :
    NodeInfo where
  nodeId := request.nodeId
  ipAddress := request.ipAddress
  availableRamMb := request.availableRamMb
  totalRamMb := request.totalRamMb
  cpuCount := request.cpuCount
  arch := request.arch
  osName := request.osName
  osVersion := request.osVersion
  status := .available
  lastHeartbeat := now
  firstSeen :=
    match registry.nodes.get? request.nodeId with
    | some existing => existing.firstSeen
    | none => now
  inferencePort := request.inferencePort

def updateNode (registry : NodeRegistry) (now : ℚ) (request : HeartbeatRequest) :
    NodeRegistry where
  floats := registry.floats
  heartbeatIntervalS := registry.heartbeatIntervalS
  missedThreshold := registry.missedThreshold
  nodes := registry.nodes.set request.nodeId (registry.heartbeatInfo now request)
  keyed := by
    rintro ⟨key, info⟩ hmem
    rw [Dict.mem_items_iff, Dict.get?_set] at hmem
    split at hmem
    · next hkey =>
        obtain rfl := Option.some.inj hmem
        exact hkey.symm
    · exact registry.keyed _ ((Dict.mem_items_iff _ _ _).mpr hmem)

def getNode (registry : NodeRegistry) (nodeId : String) : Option NodeInfo :=
  registry.nodes.get? nodeId

def listNodes (registry : NodeRegistry) (statusFilter : Option NodeStatus) :
    List NodeInfo :=
  match statusFilter with
  | some status => registry.nodes.values.filter fun node => node.status = status
  | none => registry.nodes.values

/-- Whether a reap at clock value `now` marks this node unavailable. -/
def isStale (registry : NodeRegistry) (now : ℚ) (node : NodeInfo) : Bool :=
  (node.status = .available ∨ node.status = .busy) ∧
    registry.floats.sub now node.lastHeartbeat > registry.timeoutS

def reapNode (registry : NodeRegistry) (now : ℚ) (node : NodeInfo) : NodeInfo :=
  if registry.isStale now node then { node with status := .unavailable } else node

theorem reapNode_nodeId (registry : NodeRegistry) (now : ℚ) (node : NodeInfo) :
    (registry.reapNode now node).nodeId = node.nodeId := by
  unfold reapNode
  split <;> rfl

/-- The registry after the reap and the ids it returns, in registry order. -/
def reapStaleNodes (registry : NodeRegistry) (now : ℚ) : NodeRegistry × List String :=
  ({ floats := registry.floats
     heartbeatIntervalS := registry.heartbeatIntervalS
     missedThreshold := registry.missedThreshold
     nodes :=
      { items := registry.nodes.items.map fun entry =>
          (entry.1, registry.reapNode now entry.2)
        nodupKeys := by
          rw [List.map_map]
          exact registry.nodes.nodupKeys }
     keyed := by
      intro entry hmem
      obtain ⟨old, hold, rfl⟩ := List.mem_map.mp hmem
      exact (registry.reapNode_nodeId now old.2).trans (registry.keyed old hold) },
   (registry.nodes.values.filter (registry.isStale now)).map NodeInfo.nodeId)

/-- Node ids are listed once, whatever the filter. -/
theorem listNodes_nodeId_nodup (registry : NodeRegistry)
    (statusFilter : Option NodeStatus) :
    ((registry.listNodes statusFilter).map NodeInfo.nodeId).Nodup := by
  have hall : (registry.nodes.values.map NodeInfo.nodeId).Nodup := by
    have heq : registry.nodes.values.map NodeInfo.nodeId =
        registry.nodes.items.map Prod.fst := by
      rw [Dict.values, List.map_map]
      exact List.map_congr_left fun entry hentry => registry.keyed entry hentry
    rw [heq]
    exact registry.nodes.nodupKeys
  cases statusFilter with
  | none => exact hall
  | some status => exact hall.sublist (List.filter_sublist.map NodeInfo.nodeId)

end NodeRegistry

end PiSSM.Orchestrator
