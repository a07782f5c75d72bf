import PiSSM.Dashboard.Api
import PiSSM.Pipeline.SequentialRequests

/-!
The lines of a streamed response as JSON. Whatever happens in its generation, every line is
well-formed, so that `JSON.parse` gives the value that was written.
-/

namespace PiSSM.Orchestrator

open PiSSM.Lib PiSSM.Inference

theorem tokenLine_wellFormed (text : String) : (tokenLine text).WellFormed := by
  have hnames : ["token", "done"].Nodup := by decide
  rw [tokenLine, JsonValue.WellFormed]
  exact ⟨hnames, trivial, trivial, trivial⟩

theorem errorLine_wellFormed (error : String) : (errorLine error).WellFormed := by
  have hnames : ["done", "error"].Nodup := by decide
  rw [errorLine, JsonValue.WellFormed]
  exact ⟨hnames, trivial, trivial, trivial⟩

/-- The texts of the times are numbers. -/
def StepMeasurements.Numbers (stepResult : StepMeasurements) : Prop :=
  ∀ latency ∈ stepResult.nodeLatenciesMs, latency.IsNumber

theorem resultLine_wellFormed {result : InferResult} (hlatency : result.latencyMs.IsNumber)
    (hnodes : ∀ latency ∈ result.nodeLatenciesMs, latency.IsNumber) :
    (resultLine result).WellFormed := by
  have hfloats : JsonValue.WellFormedItems (result.nodeLatenciesMs.map .float) := by
    generalize result.nodeLatenciesMs = latencies at hnodes
    induction latencies with
    | nil => trivial
    | cons latency rest ih =>
        exact ⟨hnodes latency List.mem_cons_self,
          ih fun other hmem => hnodes other (List.mem_cons_of_mem _ hmem)⟩
  have hints : JsonValue.WellFormedItems (result.peakMemoryMb.map .int) := by
    generalize result.peakMemoryMb = memory
    induction memory with
    | nil => trivial
    | cons peak rest ih => exact ⟨trivial, ih⟩
  have hnames : ["done", "output", "latency_ms", "node_latencies_ms", "peak_memory_mb",
      "num_nodes", "num_tokens"].Nodup := by decide
  rw [resultLine, JsonValue.WellFormed]
  exact ⟨hnames, trivial, trivial, hlatency, hfloats, hints, trivial, trivial, trivial⟩

/-- A body whose lines, and whose last step's times, can be read. -/
structure StreamBody.WellFormed (body : StreamBody) : Prop where
  lines : ∀ line ∈ body.lines, line.WellFormed
  lastStep : ∀ stepResult, body.lastStep = some stepResult → stepResult.Numbers

def StreamEvent.Numbers : StreamEvent → Prop
  | .token _ stepResult _ => stepResult.Numbers
  | .summarize latencyMs _ => latencyMs.IsNumber
  | .tokenize _ | .stepFailed _ | .exhausted => True

theorem StreamBody.WellFormed.append {body : StreamBody} (hwell : body.WellFormed)
    {line : JsonValue} (hline : line.WellFormed) :
    ∀ other ∈ body.lines ++ [line], other.WellFormed := by
  intro other hmem
  rcases List.mem_append.mp hmem with hmem | hmem
  · exact hwell.lines other hmem
  · exact List.mem_singleton.mp hmem ▸ hline

theorem StreamBody.WellFormed.next {body next : StreamBody} (hwell : body.WellFormed)
    {numNodes : Except PyException Nat} {event : StreamEvent} (hnumbers : event.Numbers)
    (hnext : body.next numNodes event = some next) : next.WellFormed := by
  cases event with
  | tokenize inputIds =>
      simp only [StreamBody.next] at hnext
      split at hnext
      · obtain rfl := Option.some.inj hnext
        cases inputIds with
        | ok ids => exact ⟨hwell.lines, hwell.lastStep⟩
        | error err => exact ⟨hwell.lines, hwell.lastStep⟩
      · cases hnext
  | token tokenId stepResult decoded =>
      simp only [StreamBody.next] at hnext
      split at hnext
      · obtain rfl := Option.some.inj hnext
        have hlast : ∀ other, some stepResult = some other → other.Numbers := by
          rintro other ⟨⟩
          exact hnumbers
        cases decoded with
        | ok text => exact ⟨hwell.append (tokenLine_wellFormed text), hlast⟩
        | error err => exact ⟨hwell.append (errorLine_wellFormed err.str), hlast⟩
      · cases hnext
  | stepFailed err =>
      simp only [StreamBody.next] at hnext
      split at hnext
      · obtain rfl := Option.some.inj hnext
        exact ⟨hwell.append (errorLine_wellFormed err.str), hwell.lastStep⟩
      · cases hnext
  | exhausted =>
      simp only [StreamBody.next] at hnext
      split at hnext
      · obtain rfl := Option.some.inj hnext
        exact ⟨hwell.lines, hwell.lastStep⟩
      · cases hnext
  | summarize latencyMs decoded =>
      simp only [StreamBody.next] at hnext
      split at hnext
      · obtain rfl := Option.some.inj hnext
        have hnodes : ∀ latency ∈ body.lastStep.elim [] StepMeasurements.nodeLatenciesMs,
            latency.IsNumber := by
          cases hlast : body.lastStep with
          | none => exact fun _ hmem => by cases hmem
          | some stepResult => exact hwell.lastStep stepResult hlast
        cases numNodes with
        | error err => exact ⟨hwell.lines, hwell.lastStep⟩
        | ok count =>
            cases decoded with
            | error err => exact ⟨hwell.lines, hwell.lastStep⟩
            | ok output =>
                exact ⟨hwell.append (resultLine_wellFormed hnumbers hnodes), hwell.lastStep⟩
      · cases hnext

section Handlers

variable {μ τ κ : Type*} [ShardModel μ τ κ] {session : ResidentSession τ}
  {floatText : ℚ → PyFloat} {env : HandlerEnv κ} {backend backend' : Backend μ τ κ}

theorem measured_numbers (hfloats : ∀ x, (floatText x).IsNumber) (result : PipelineResult τ) :
    (result.measured floatText).Numbers := by
  intro latency hmem
  obtain ⟨x, _, rfl⟩ := List.mem_map.mp hmem
  exact hfloats x

theorem streamTurns_wellFormed (hfloats : ∀ x, (floatText x).IsNumber)
    (hlatency : env.latencyMs.IsNumber) {remaining step : Nat} {nextInput : τ}
    {body ended : StreamBody} (hwell : body.WellFormed)
    (hturns : session.streamTurns floatText env remaining step nextInput backend body =
      some (backend', ended)) : ended.WellFormed := by
  induction remaining generalizing step nextInput backend body with
  | zero =>
      obtain ⟨closing, hclosing, hended⟩ := Option.bind_eq_some_iff.mp hturns
      obtain ⟨_, hnext, hresult⟩ := Option.map_eq_some_iff.mp hended
      obtain ⟨_, rfl⟩ := Prod.mk.inj hresult
      have hexhausted : StreamEvent.Numbers .exhausted := trivial
      have hsummary : StreamEvent.Numbers
          (.summarize env.latencyMs (session.decode closing.outputIds)) := hlatency
      exact (hwell.next hexhausted hclosing).next hsummary hnext
  | succ remaining ih =>
      rw [ResidentSession.streamTurns] at hturns
      split at hturns
      · cases hturns
      · next middle result hstep =>
          split at hturns
          · next err _ =>
              obtain ⟨_, hnext, hresult⟩ := Option.map_eq_some_iff.mp hturns
              obtain ⟨_, rfl⟩ := Prod.mk.inj hresult
              have hfailed : StreamEvent.Numbers (.stepFailed err) := trivial
              exact hwell.next hfailed hnext
          · next yielded _ =>
            obtain ⟨advanced, hnext, hrest⟩ := Option.bind_eq_some_iff.mp hturns
            have htoken : StreamEvent.Numbers (.token (session.tokenOf yielded.tokenId)
                (yielded.stepResult.measured floatText)
                (session.decode (session.row yielded.tokenId))) :=
              measured_numbers hfloats yielded.stepResult
            have hadvanced := hwell.next htoken hnext
            split at hrest
            · exact ih hadvanced hrest
            · obtain ⟨_, rfl⟩ := Prod.mk.inj (Option.some.inj hrest)
              exact hadvanced

theorem runInferenceStream_wellFormed (hfloats : ∀ x, (floatText x).IsNumber)
    (hlatency : env.latencyMs.IsNumber) {submission : InferSubmission} {body : StreamBody}
    (hrun : session.runInferenceStream floatText env submission backend =
      some (backend', body)) : body.WellFormed := by
  have hcreated (inputIds : Except PyException (List Nat)) :
      ((StreamBody.create submission.modelName submission.maxNewTokens).tokenizeInput
        inputIds).WellFormed := by
    cases inputIds with
    | ok ids => exact ⟨(fun _ hmem => by cases hmem), fun _ hlast => by cases hlast⟩
    | error err => exact ⟨(fun _ hmem => by cases hmem), fun _ hlast => by cases hlast⟩
  unfold ResidentSession.runInferenceStream at hrun
  split at hrun
  · obtain ⟨_, rfl⟩ := Prod.mk.inj (Option.some.inj hrun)
    exact hcreated _
  · exact streamTurns_wellFormed hfloats hlatency (hcreated _) hrun

end Handlers

end PiSSM.Orchestrator

namespace PiSSM.Pipeline

open PiSSM.Lib PiSSM.Inference PiSSM.Orchestrator

variable {γ ω H S : Type} {around : Surroundings γ ω H S}

/-- The lines of a served request are read as they were written. -/
theorem serves_jsonParse (hfloats : ∀ x, (around.floatText x).IsNumber)
    {service next : Service H S} {stream : Bool} {submission : InferSubmission} {expired : Bool}
    {env : GenerationEnv S} (hlatency : env.latencyMs.IsNumber) {body : StreamBody}
    (hserves : around.Serves service (.infer stream submission expired env) (.lines body) next) :
    ∀ line ∈ body.lines, Dashboard.jsonParse line.dumps = .ok line := by
  intro line hline
  apply Dashboard.jsonParse_dumps
  suffices hwell : body.WellFormed from hwell.lines line hline
  cases hserves with
  | infer hget hensure hready hrun =>
      unfold Surroundings.runInference at hrun
      dsimp only at hrun
      split at hrun
      · cases hrun
      · split at hrun
        · cases hrun
        · split at hrun
          · obtain ⟨⟨backend, ended⟩, hstream, hreply⟩ := Option.map_eq_some_iff.mp hrun
            obtain ⟨hlines, _⟩ := Prod.mk.inj hreply
            obtain rfl := ServiceReply.lines.inj hlines
            exact runInferenceStream_wellFormed hfloats hlatency hstream
          · obtain ⟨⟨backend, outcome⟩, _, hreply⟩ := Option.map_eq_some_iff.mp hrun
            cases outcome with
            | ok value => cases hreply
            | error err => cases hreply
      · cases hrun

end PiSSM.Pipeline
