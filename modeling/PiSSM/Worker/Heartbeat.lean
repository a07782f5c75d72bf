import PiSSM.Exceptions
import PiSSM.Orchestrator.NodeRegistry

/-!
The heartbeat loop of a worker. One turn detects the address, sends one heartbeat and
reads the stop event; what the machine and the orchestrator do in a turn is given by
the environment. Only the exceptions of the call are handled inside the loop, so that
the detection of the address decides whether it goes on.
-/

namespace PiSSM.Worker

open PiSSM.Orchestrator

/-- An address of an interface; only one of the family `AF_INET` is reported. -/
structure InterfaceAddress where
  isInet : Bool
  address : String

def isEthernet (name : String) : Bool :=
  ["eth", "en"].any fun pre => pre.toList.isPrefixOf name.toList

/-- `psutil.net_if_addrs()` in order, and the address a socket connected to the outside
gets, if there is a route. -/
structure Network where
  interfaces : List (String × List InterfaceAddress)
  route : Option String

/-- The first IPv4 address of a wired interface. -/
def Network.wired (network : Network) : Option String :=
  network.interfaces.findSome? fun entry =>
    if isEthernet entry.1 then (entry.2.find? InterfaceAddress.isInet).map (·.address) else none

/-- An override that is empty is none. -/
def getIpAddress (override : Option String) (network : Network) : Except PyException String :=
  match override with
  | some address => if address = "" then detect else .ok address
  | none => detect
where
  detect : Except PyException String :=
    match network.wired with
    | some address => .ok address
    | none =>
        match network.route with
        | some address => .ok address
        | none => .error (.osError "[Errno 101] Network is unreachable")

/-- How the heartbeat of a turn goes. -/
inductive HeartbeatReply where
  | response (acknowledged : Bool) (heartbeatIntervalMs : Nat)
  | rpcError (code details message : String)

/-- What the system information of a machine reports. -/
structure SystemInfo where
  availableRamMb : Nat
  totalRamMb : Nat
  cpuCount : Nat
  arch : String
  osName : String
  osVersion : String

structure Turn where
  network : Network
  system : SystemInfo
  reply : HeartbeatReply
  /-- Whether the stop event is set when the turn is over. -/
  stopped : Bool

/-- Channels are numbered in the order in which they are opened. -/
structure HeartbeatClient where
  nodeId : String
  inferencePort : Nat
  ipAddressOverride : Option String
  intervalS : ℚ
  channel : Nat
  stub : Nat
  consecutiveFailures : Nat

namespace HeartbeatClient

/-- The client as its loop starts. -/
def create (nodeId : String) (inferencePort : Nat) (ipAddressOverride : Option String)
    (intervalS : ℚ) : HeartbeatClient where
  nodeId := nodeId
  inferencePort := inferencePort
  ipAddressOverride := ipAddressOverride
  intervalS := intervalS
  channel := 0
  stub := 0
  consecutiveFailures := 0

/-- The loop goes on with a stub of the new channel. -/
def reconnect (client : HeartbeatClient) : HeartbeatClient :=
  { client with channel := client.channel + 1, stub := client.channel + 1 }

def buildRequest (client : HeartbeatClient) (turn : Turn) :
    Except PyException HeartbeatRequest := do
  return {
    nodeId := client.nodeId
    ipAddress := ← getIpAddress client.ipAddressOverride turn.network
    availableRamMb := turn.system.availableRamMb
    totalRamMb := turn.system.totalRamMb
    cpuCount := turn.system.cpuCount
    arch := turn.system.arch
    osName := turn.system.osName
    osVersion := turn.system.osVersion
    inferencePort := client.inferencePort }

/-- The body of the `try` statement; `reply` answers the request. -/
def sendHeartbeat (client : HeartbeatClient) (turn : Turn) :
    Except PyException HeartbeatClient := do
  let _request ← client.buildRequest turn
  match turn.reply with
  | .rpcError code details message => throw (.rpcError code details message)
  | .response _ heartbeatIntervalMs =>
      let newInterval : ℚ := heartbeatIntervalMs / 1000
      return { client with
        intervalS := if 0 < heartbeatIntervalMs then newInterval else client.intervalS
        consecutiveFailures := 0 }

def takeTurn (client : HeartbeatClient) (turn : Turn) : Except PyException HeartbeatClient :=
  match client.sendHeartbeat turn with
  | .ok next => .ok next
  | .error (.rpcError _ _ _) =>
      .ok { client with consecutiveFailures := client.consecutiveFailures + 1 }.reconnect
  | .error err => .error err

end HeartbeatClient

/-- Where the loop is after the given turns. -/
inductive LoopState where
  /-- A next iteration starts. -/
  | iterating (client : HeartbeatClient)
  | stopped (client : HeartbeatClient)
  | died (err : PyException)

def heartbeatLoop (client : HeartbeatClient) : List Turn → LoopState
  | [] => .iterating client
  | turn :: rest =>
      match client.takeTurn turn with
      | .error err => .died err
      | .ok next => if turn.stopped then .stopped next else heartbeatLoop next rest

/-- The address is given or can be detected. -/
def Turn.detects (ipAddressOverride : Option String) (turn : Turn) : Prop :=
  (∃ address, ipAddressOverride = some address ∧ address ≠ "") ∨
    turn.network.wired.isSome ∨ turn.network.route.isSome

def Turn.failed (turn : Turn) : Bool :=
  match turn.reply with
  | .response _ _ => false
  | .rpcError _ _ _ => true

/-- The attempts that have failed since the last successful one. -/
def failedSince (turns : List Turn) : Nat :=
  (turns.reverse.takeWhile Turn.failed).length

/-- The turns before the stop event is set. -/
def beforeStop (turns : List Turn) : List Turn :=
  turns.takeWhile fun turn => !turn.stopped

/-- After every turn before the stop the loop starts a next iteration, with the failures
counted and a stub of the open channel. -/
def KeepsBeating (client : HeartbeatClient) (turns : List Turn) : Prop :=
  ∀ count ≤ (beforeStop turns).length, ∃ next,
    heartbeatLoop client ((beforeStop turns).take count) = .iterating next ∧
      next.consecutiveFailures = failedSince ((beforeStop turns).take count) ∧
      next.stub = next.channel

theorem getIpAddress_detects {ipAddressOverride : Option String} {turn : Turn}
    (hdetects : turn.detects ipAddressOverride) :
    ∃ address, getIpAddress ipAddressOverride turn.network = .ok address := by
  have hdetect (hfound : turn.network.wired.isSome ∨ turn.network.route.isSome) :
      ∃ address, getIpAddress.detect turn.network = .ok address := by
    unfold getIpAddress.detect
    cases hwired : turn.network.wired with
    | some address => exact ⟨address, rfl⟩
    | none =>
        rw [hwired] at hfound
        obtain ⟨address, hroute⟩ :=
          Option.isSome_iff_exists.mp (hfound.resolve_left Bool.false_ne_true)
        rw [hroute]
        exact ⟨address, rfl⟩
  unfold getIpAddress
  rcases hdetects with ⟨address, rfl, hne⟩ | hfound
  · exact ⟨address, if_neg hne⟩
  · cases ipAddressOverride with
    | none => exact hdetect hfound
    | some address =>
        by_cases hempty : address = ""
        · simp only [if_pos hempty]
          exact hdetect hfound
        · exact ⟨address, if_neg hempty⟩

/-- Without an address the connection to the outside raises. -/
theorem getIpAddress_raises {ipAddressOverride : Option String} {turn : Turn}
    (hdetects : ¬ turn.detects ipAddressOverride) :
    getIpAddress ipAddressOverride turn.network =
      .error (.osError "[Errno 101] Network is unreachable") := by
  unfold Turn.detects at hdetects
  push Not at hdetects
  obtain ⟨hoverride, hwired, hroute⟩ := hdetects
  have hdetect : getIpAddress.detect turn.network =
      .error (.osError "[Errno 101] Network is unreachable") := by
    unfold getIpAddress.detect
    rw [Option.not_isSome_iff_eq_none.mp hwired, Option.not_isSome_iff_eq_none.mp hroute]
  unfold getIpAddress
  cases ipAddressOverride with
  | none => exact hdetect
  | some address =>
      simp only [if_pos (hoverride address rfl)]
      exact hdetect

namespace HeartbeatClient

/-- A turn that detects the address counts the failures, whatever the reply is. -/
theorem takeTurn_detects {client : HeartbeatClient} {turn : Turn}
    (hdetects : turn.detects client.ipAddressOverride) :
    ∃ next, client.takeTurn turn = .ok next ∧
      next.ipAddressOverride = client.ipAddressOverride ∧
      next.consecutiveFailures =
        (if turn.failed = true then client.consecutiveFailures + 1 else 0) ∧
      (client.stub = client.channel → next.stub = next.channel) := by
  obtain ⟨address, haddress⟩ := getIpAddress_detects hdetects
  unfold takeTurn sendHeartbeat buildRequest Turn.failed
  rw [haddress]
  cases turn.reply with
  | response acknowledged heartbeatIntervalMs => exact ⟨_, rfl, rfl, rfl, id⟩
  | rpcError code details message => exact ⟨_, rfl, rfl, rfl, fun _ => rfl⟩

theorem takeTurn_raises {client : HeartbeatClient} {turn : Turn}
    (hdetects : ¬ turn.detects client.ipAddressOverride) :
    client.takeTurn turn = .error (.osError "[Errno 101] Network is unreachable") := by
  unfold takeTurn sendHeartbeat buildRequest
  rw [getIpAddress_raises hdetects]
  rfl

end HeartbeatClient

theorem failedSince_append (turns : List Turn) (turn : Turn) :
    failedSince (turns ++ [turn]) = if turn.failed = true then failedSince turns + 1 else 0 := by
  unfold failedSince
  rw [List.reverse_append, List.reverse_singleton, List.singleton_append, List.takeWhile_cons]
  split
  · rfl
  · rfl

theorem heartbeatLoop_append {client next : HeartbeatClient} {turns later : List Turn}
    (hloop : heartbeatLoop client turns = .iterating next) :
    heartbeatLoop client (turns ++ later) = heartbeatLoop next later := by
  induction turns generalizing client with
  | nil =>
      obtain rfl : client = next := by simpa [heartbeatLoop] using hloop
      rfl
  | cons turn rest ih =>
      simp only [List.cons_append, heartbeatLoop] at hloop ⊢
      split at hloop
      · cases hloop
      · next after hturn =>
          split at hloop
          · cases hloop
          · next hstop =>
              simp only [if_neg hstop]
              exact ih hloop

/-- The loop has taken turns that all detect the address. -/
theorem heartbeatLoop_detects {client : HeartbeatClient} {turns : List Turn}
    (hstopped : ∀ turn ∈ turns, turn.stopped = false)
    (hdetects : ∀ turn ∈ turns, turn.detects client.ipAddressOverride)
    (hstub : client.stub = client.channel) (hfresh : client.consecutiveFailures = 0) :
    ∃ next, heartbeatLoop client turns = .iterating next ∧
      next.ipAddressOverride = client.ipAddressOverride ∧
      next.consecutiveFailures = failedSince turns ∧ next.stub = next.channel := by
  induction turns using List.reverseRecOn with
  | nil => exact ⟨client, rfl, rfl, hfresh, hstub⟩
  | append_singleton turns turn ih =>
      obtain ⟨next, hloop, hoverride, hfailures, hchannel⟩ :=
        ih (fun earlier hmem => hstopped earlier (List.mem_append_left _ hmem))
          (fun earlier hmem => hdetects earlier (List.mem_append_left _ hmem))
      have hmem : turn ∈ turns ++ [turn] := List.mem_append_right _ List.mem_cons_self
      have hturn := hdetects turn hmem
      rw [← hoverride] at hturn
      obtain ⟨after, hafter, hkept, hcounted, hopened⟩ :=
        HeartbeatClient.takeTurn_detects hturn
      refine ⟨after, ?_, hkept.trans hoverride, ?_, hopened hchannel⟩
      · rw [heartbeatLoop_append hloop]
        simp [heartbeatLoop, hafter, hstopped turn hmem]
      · rw [hcounted, failedSince_append, hfailures]

/-- A loop that is about to iterate has detected the address in every turn. -/
theorem detects_of_iterating {client next : HeartbeatClient} {turns : List Turn}
    (hloop : heartbeatLoop client turns = .iterating next) :
    ∀ turn ∈ turns, turn.detects client.ipAddressOverride := by
  induction turns generalizing client with
  | nil => simp
  | cons turn rest ih =>
      by_cases hturn : turn.detects client.ipAddressOverride
      · obtain ⟨after, hafter, hoverride, _⟩ := HeartbeatClient.takeTurn_detects hturn
        simp only [heartbeatLoop, hafter] at hloop
        split at hloop
        · cases hloop
        · rw [← hoverride]
          exact List.forall_mem_cons.mpr ⟨hoverride ▸ hturn, ih hloop⟩
      · simp only [heartbeatLoop, HeartbeatClient.takeTurn_raises hturn] at hloop
        cases hloop

/-- The loop keeps beating exactly when every turn before the stop has an address to
report. -/
theorem heartbeat_loop (nodeId : String) (inferencePort : Nat)
    (ipAddressOverride : Option String) (intervalS : ℚ) (turns : List Turn) :
    KeepsBeating (.create nodeId inferencePort ipAddressOverride intervalS) turns ↔
      ∀ turn ∈ beforeStop turns, turn.detects ipAddressOverride := by
  constructor
  · intro hkeeps
    obtain ⟨next, hloop, _⟩ := hkeeps _ (le_refl _)
    rw [List.take_length] at hloop
    exact detects_of_iterating hloop
  · intro hdetects count _
    have hstopped : ∀ turn ∈ (beforeStop turns).take count, turn.stopped = false := by
      intro turn hmem
      have hlive := List.all_eq_true.mp List.all_takeWhile turn (List.mem_of_mem_take hmem)
      simpa using hlive
    obtain ⟨next, hloop, _, hfailures, hstub⟩ :=
      @heartbeatLoop_detects (.create nodeId inferencePort ipAddressOverride intervalS) _ hstopped
        (fun turn hmem => hdetects turn (List.mem_of_mem_take hmem)) rfl rfl
    exact ⟨next, hloop, hfailures, hstub⟩

def piSystem : SystemInfo := ⟨900, 1000, 4, "aarch64", "Linux", "6.1"⟩

/-- A worker on Wi-Fi only, in a moment without a route. -/
def offlineTurn : Turn where
  network := ⟨[("lo", [⟨true, "127.0.0.1"⟩]), ("wlan0", [⟨true, "192.168.0.7"⟩])], none⟩
  system := piSystem
  reply := .response true 2000
  stopped := false

/-- The loop dies in the turn and starts no other one. -/
theorem heartbeat_loop_counterexample :
    heartbeatLoop (.create "pi-1" 50051 none 2) [offlineTurn] =
        .died (.osError "[Errno 101] Network is unreachable") ∧
      ¬ KeepsBeating (.create "pi-1" 50051 none 2) [offlineTurn] := by
  have hdied : heartbeatLoop (.create "pi-1" 50051 none 2) [offlineTurn] =
      .died (.osError "[Errno 101] Network is unreachable") := rfl
  refine ⟨hdied, ?_⟩
  intro hkeeps
  obtain ⟨next, hloop, _⟩ := hkeeps 1 (le_refl 1)
  have hiterating : heartbeatLoop (.create "pi-1" 50051 none 2) [offlineTurn] =
      .iterating next := hloop
  rw [hdied] at hiterating
  cases hiterating

end PiSSM.Worker
