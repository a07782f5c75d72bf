import PiSSM.Dashboard.Inference
import PiSSM.Pipeline.OneModelService
import PiSSM.Pipeline.StreamFormat
import PiSSM.Pipeline.StreamedJson

/-!
The inference page over the whole system. A user sends inputs one after the other, while
other clients use the orchestrator in between. What the page shows is the transcript of the
inputs and their answers, and an answer is what the store of `OneModelStore` says at that
moment: the text of the greedy continuation, token by token, or the error of the request.
-/

namespace PiSSM.Pipeline

open PiSSM.Lib PiSSM.Inference PiSSM.Orchestrator
open PiSSM.Dashboard (Chat FetchResponse JsText answerText jsonParse postInferenceStream
  transcript transcript_concat transcript_length)

variable {γ ω H S : Type}

/-- What `InferSubmission` has for a request that does not say how many tokens it wants. -/
def defaultMaxNewTokens : Int := 20

/-- The request of `runInferenceStream` as the page calls it. -/
def sendRequest (modelName input : String) (expired : Bool) (env : GenerationEnv S) :
    ServiceRequest S :=
  .infer true ⟨modelName, input, defaultMaxNewTokens⟩ expired env

/-- What the browser gets of a reply. The body of a generator that has not returned breaks
off. -/
inductive Arrives : ServiceReply → FetchResponse → Prop where
  | exception (status : Nat) (detail : String) :
      Arrives (.http (.httpException status detail))
        (.failed status (some (.object [("detail", .str detail)])))
  | serverError (err : PyException) : Arrives (.http (.serverError err)) (.failed 500 none)
  | body {body : StreamBody} {chunks : List (List UInt8)}
      (hreturned : body.position = .returned)
      (hchunks : chunks.flatten = bodyBytes body.lines) :
      Arrives (.lines body) (.streaming chunks)
  | broken {body : StreamBody} {chunks : List (List UInt8)}
      (hopen : body.position ≠ .returned)
      (hchunks : chunks.flatten <+: bodyBytes body.lines) :
      Arrives (.lines body) (.broken chunks)

/-- What happens while the page is open: an input is sent and answered in the end, or
another client has a request served. -/
inductive PageEvent (S : Type) where
  | elsewhere (request : ServiceRequest S) (reply : ServiceReply)
  | send (modelName input : String) (expired : Bool) (env : GenerationEnv S) (answer : String)

def PageEvent.request : PageEvent S → ServiceRequest S
  | .elsewhere request _ => request
  | .send modelName input expired env _ => sendRequest modelName input expired env

/-- The input and its answer. -/
def PageEvent.turn : PageEvent S → Option (String × String)
  | .elsewhere _ _ => none
  | .send _ input _ _ answer => some (input, answer)

section Page

variable {around : Surroundings γ ω H S} (catalog : Catalog around) (js : JsText)

/-- The system with the page open. -/
inductive PageStep : Service H S × Chat → PageEvent S → Service H S × Chat → Prop where
  | elsewhere {service next : Service H S} {chat : Chat} {request : ServiceRequest S}
      {reply : ServiceReply} (hallowed : Allowed catalog service request)
      (hserves : around.Serves service request reply next) :
      PageStep (service, chat) (.elsewhere request reply) (next, chat)
  | send {service next : Service H S} {chat : Chat} {modelName input : String}
      {expired : Bool} {env : GenerationEnv S} {reply : ServiceReply} {response : FetchResponse}
      (hserves : around.Serves service (sendRequest modelName input expired env) reply next)
      (harrives : Arrives reply response) (hlatency : env.latencyMs.IsNumber) :
      PageStep (service, chat)
        (.send modelName input expired env
          (answerText js (postInferenceStream jsonParse response)))
        (next, chat.handleSend js input (postInferenceStream jsonParse response))

/-- The text of a greedy continuation, its tokens decoded one by one. What a fault in one of
the steps does to the answer is left open. -/
def GreedyText (manifest : ModelManifest) (plan : DispatchPlan) (input : String)
    (env : GenerationEnv S) (answer : String) : Prop :=
  ∀ hosted prompt, catalog manifest = some hosted →
    hosted.tokenizer.tokenize input = .ok prompt → 1 ≤ prompt.length → env.Sound plan →
    ∃ model tokens texts, around.library.fromPretrained hosted.checkpoint = .ok model ∧
      tokens.length = defaultMaxNewTokens.toNat ∧
      GreedyTokens ((hosted.wholeModel model).wholeForward manifest.layers) around.argmax
        prompt tokens ∧
      List.Forall₂ (fun token text =>
        hosted.tokenizer.decode [hosted.tokenizer.tokenId token] = .ok text) tokens texts ∧
      answer = String.join texts

/-- The answers that are right for what happens on the page. -/
def ShownAnswer (store : OneModelStore) : PageEvent S → Prop
  | .elsewhere request reply => Replies catalog store request reply
  | .send modelName input expired env answer =>
      match store.modelRegistry.get modelName with
      | none => answer = "Error: " ++ s!"Model '{modelName}' not found"
      | some manifest =>
          match store.holds manifest.name, planDispatch manifest store.registry with
          | none, .error err => answer = "Error: " ++ err.str
          | none, .ok plan =>
              if expired then
                answer =
                  "Error: " ++ s!"Timed out waiting for model '{manifest.name}' to load"
              else
                GreedyText catalog manifest plan input env answer
          | some plan, _ => GreedyText catalog manifest plan input env answer

variable {catalog js} {response : FetchResponse}

/-- The detail of an `HTTPException` is what the answer shows. -/
theorem answerText_exception {status : Nat} {detail : String}
    (harrives : Arrives (.http (.httpException status detail)) response) :
    answerText js (postInferenceStream jsonParse response) = "Error: " ++ detail := by
  cases harrives
  have hmessage : Dashboard.failureMessage "/infer" status
      (some (.object [("detail", .str detail)])) = .str detail := rfl
  rw [postInferenceStream, answerText, hmessage]
  dsimp only
  rw [js.ofError_error]
  rfl

/-- The lines of a continuation, however they are cut into chunks, come out as its text. -/
theorem Continues.greedyText {manifest : ModelManifest} {hosted : HostedModel around manifest}
    {plan : DispatchPlan} {submission : InferSubmission} {prompt : List H}
    {reply : ServiceReply} (hcontinues : Continues hosted plan true submission prompt reply)
    (harrives : Arrives reply response)
    (hparse : ∀ body, reply = .lines body →
      ∀ line ∈ body.lines, jsonParse line.dumps = .ok line) :
    ∃ model tokens texts, around.library.fromPretrained hosted.checkpoint = .ok model ∧
      tokens.length = submission.maxNewTokens.toNat ∧
      GreedyTokens ((hosted.wholeModel model).wholeForward manifest.layers) around.argmax
        prompt tokens ∧
      List.Forall₂ (fun token text =>
        hosted.tokenizer.decode [hosted.tokenizer.tokenId token] = .ok text) tokens texts ∧
      answerText js (postInferenceStream jsonParse response) = String.join texts := by
  obtain ⟨model, tokens, result, hmodel, hcount, hgreedy, _, _, _, hcarries⟩ := hcontinues
  cases harrives with
  | exception _ _ => cases hcarries
  | serverError _ => cases hcarries
  | @body body chunks hreturned hchunks =>
      obtain ⟨_, _, texts, htexts, hlines⟩ := hcarries
      have hparse' := hparse body rfl
      rw [hlines] at hchunks hparse'
      have hround := stream_round_trip jsonParse texts result hparse' chunks hchunks
      refine ⟨model, tokens, texts, hmodel, hcount, hgreedy, htexts, ?_⟩
      rw [postInferenceStream, hround, answerText]
      dsimp only
      rw [List.map_map]
      refine congrArg String.join ((List.map_congr_left fun text _ => ?_).trans (List.map_id _))
      exact js.ofToken_str text
  | broken hopen _ =>
      obtain ⟨_, hreturned, _⟩ := hcarries
      exact absurd hreturned hopen

/-- What an input is answered, from a state that represents the store. -/
theorem Represents.shownAnswer {service : Service H S} {store : OneModelStore}
    (hrep : Represents catalog service store) {modelName input : String} {expired : Bool}
    {env : GenerationEnv S} {reply : ServiceReply} {next : Service H S}
    (hserves : around.Serves service (sendRequest modelName input expired env) reply next)
    (harrives : Arrives reply response) (hfloats : ∀ x, (around.floatText x).IsNumber)
    (hlatency : env.latencyMs.IsNumber) :
    ShownAnswer catalog store (.send modelName input expired env
      (answerText js (postInferenceStream jsonParse response))) := by
  have hgreedy {manifest : ModelManifest} {plan : DispatchPlan}
      (hanswer : GreedyAnswer catalog manifest plan true
        ⟨modelName, input, defaultMaxNewTokens⟩ env reply) :
      GreedyText catalog manifest plan input env
        (answerText js (postInferenceStream jsonParse response)) := by
    intro hosted prompt hhosted htokenize hprompt hsound
    apply (hanswer hosted prompt hhosted htokenize hprompt hsound).greedyText harrives
    rintro body rfl
    exact serves_jsonParse hfloats hlatency hserves
  have hallowed : Allowed catalog service (sendRequest modelName input expired env) := trivial
  obtain ⟨hreplies, _⟩ := hrep.serves hallowed hserves
  simp only [sendRequest, Replies] at hreplies
  cases hget : store.modelRegistry.get modelName with
  | none =>
      rw [hget] at hreplies
      subst hreplies
      simp only [ShownAnswer, hget]
      exact answerText_exception harrives
  | some manifest =>
      simp only [hget, InferAnswer] at hreplies
      simp only [ShownAnswer, hget]
      cases hholds : store.holds manifest.name with
      | some plan =>
          simp only [hholds] at hreplies ⊢
          exact hgreedy hreplies
      | none =>
          cases hplan : planDispatch manifest store.registry with
          | error err =>
              simp only [hholds, hplan] at hreplies ⊢
              subst hreplies
              exact answerText_exception harrives
          | ok plan =>
              simp only [hholds, hplan] at hreplies ⊢
              split at hreplies
              · next hexpired =>
                  subst hreplies
                  rw [if_pos hexpired]
                  exact answerText_exception harrives
              · next hexpired =>
                  rw [if_neg hexpired]
                  exact hgreedy hreplies

theorem Represents.pageStep {service : Service H S} {store : OneModelStore} {chat : Chat}
    (hrep : Represents catalog service store) (hfloats : ∀ x, (around.floatText x).IsNumber)
    {event : PageEvent S} {next : Service H S × Chat}
    (hstep : PageStep catalog js (service, chat) event next) :
    ShownAnswer catalog store event ∧ Represents catalog next.1 (store.next event.request) := by
  cases hstep with
  | elsewhere hallowed hserves => exact hrep.serves hallowed hserves
  | @send _ _ _ modelName input expired env _ _ hserves harrives hlatency =>
      have hallowed : Allowed catalog service (sendRequest modelName input expired env) :=
        trivial
      exact ⟨hrep.shownAnswer hserves harrives hfloats hlatency, (hrep.serves hallowed hserves).2⟩

/-- The store after some events. -/
def storeAfter (start : OneModelStore) (events : List (PageEvent S)) : OneModelStore :=
  events.foldl (fun store event => store.next event.request) start

theorem store_of_trace {start service : Service H S} {store : OneModelStore}
    {events : List (PageEvent S)} {before chat : Chat}
    (hstart : Represents catalog start store) (hfloats : ∀ x, (around.floatText x).IsNumber)
    (htrace : Trace (PageStep catalog js) (start, before) events (service, chat)) :
    (∀ earlier event later, events = earlier ++ event :: later →
      ShownAnswer catalog (storeAfter store earlier) event) ∧
    Represents catalog service (storeAfter store events) :=
  @Trace.tracks _ _ _ (PageStep catalog js)
    (fun (store : OneModelStore) (event : PageEvent S) => store.next event.request)
    (fun store event => ShownAnswer catalog store event)
    (fun state store => Represents catalog state.1 store) _ _ _ _ htrace hstart
    fun _ _ _ _ hrep hstep => hrep.pageStep hfloats hstep

/-- The page shows the transcript of what has happened on it. -/
theorem messages_of_trace {service : Service H S} {events : List (PageEvent S)}
    {state : Service H S × Chat}
    (htrace : Trace (PageStep catalog js) (service, Chat.empty) events state) :
    state.2.messages = transcript (events.filterMap PageEvent.turn) := by
  induction htrace with
  | nil => rfl
  | snoc _ hstep ih =>
      rw [List.filterMap_append]
      cases hstep with
      | elsewhere _ _ =>
          rw [show [PageEvent.elsewhere _ _].filterMap PageEvent.turn = [] from rfl,
            List.append_nil]
          exact ih
      | @send _ _ chat modelName input expired env _ response _ _ _ =>
          have hturn : [PageEvent.send modelName input expired env
              (answerText js (postInferenceStream jsonParse response))].filterMap PageEvent.turn =
              [(input, answerText js (postInferenceStream jsonParse response))] := rfl
          have hmessages : chat.messages = transcript (_ : List (String × String)) := ih
          rw [hturn, transcript_concat, chat.messages_handleSend, Chat.userMessage,
            Chat.assistantMessage, Chat.assistantId, hmessages, transcript_length]

end Page

/-- From the browser to the checkpoint. While a user and other clients send their requests,
from the start of the orchestrator and its workers, each once the one before it and the load
that one has started have ended: the page shows the transcript of the inputs and their
answers, and each answer is right for the store at that moment, the text of the greedy
continuation of the input by the checkpoint's undivided model or the error of the request. -/
theorem chat_transcript {around : Surroundings γ ω H S} (catalog : Catalog around)
    (js : JsText) (hfloats : ∀ x, (around.floatText x).IsNumber) (floats : FloatArithmetic)
    (heartbeatIntervalS : ℚ) (missedThreshold : Nat) (nodeIdAt : String → String)
    {events : List (PageEvent S)}
    {service : Service H S} {chat : Chat}
    (htrace : Trace (PageStep catalog js)
      (Service.create floats heartbeatIntervalS missedThreshold nodeIdAt, Chat.empty) events
      (service, chat)) :
    let start :=
      OneModelStore.create (NodeRegistry.create floats heartbeatIntervalS missedThreshold)
    chat.messages = transcript (events.filterMap PageEvent.turn) ∧
    ∀ before event after, events = before ++ event :: after →
      ShownAnswer catalog (storeAfter start before) event := by
  have hstart := represents_create catalog floats heartbeatIntervalS missedThreshold nodeIdAt
  exact ⟨messages_of_trace htrace, (store_of_trace hstart hfloats htrace).1⟩

/-- A browser in which what is no string is not shown. -/
def plainText : JsText where
  ofToken
    | some (.str text) => text
    | _ => ""
  ofError
    | .error (.str message) => message
    | _ => ""
  ofToken_str _ := rfl
  ofError_error _ := rfl

/-- Two workers report and a manifest is submitted, with the page open. -/
def fiveLayerEvents : List (PageEvent Nat) :=
  fiveLayerExchanges.map fun (request, reply) => .elsewhere request reply

theorem shortTime_number : shortTime.IsNumber := by
  have hchars : "1.5".toList.all isNumberChar = true := by decide
  exact ⟨List.all_eq_true.mp hchars, by decide⟩

theorem chat_transcript_five :
    ∃ (hosted : HostedModel fiveLayerSurroundings fiveLayerManifest) (answer : String)
      (service : Service Nat Nat) (chat : Chat),
      fiveLayerCatalog fiveLayerManifest = some hosted ∧
      Trace (PageStep fiveLayerCatalog plainText)
        (Service.create .exact 2 3
            (fun address => if address = "10.0.0.1:50051" then "a" else "b"),
          Chat.empty)
        (fiveLayerEvents ++ [.send "m" "10 20 30" false
          ⟨2, fun step => ⟨s!"step-{step}", fun k => ⟨k, k, none⟩⟩, shortTime⟩ answer])
        (service, chat) ∧
      chat.messages = [⟨1, .user, "10 20 30"⟩, ⟨2, .assistant, answer⟩] ∧
      ∃ model tokens texts, fiveLayerLibrary.fromPretrained hosted.checkpoint = .ok model ∧
        tokens.length = 20 ∧
        GreedyTokens ((hosted.wholeModel model).wholeForward 5) (· % 50) [10, 20, 30] tokens ∧
        List.Forall₂ (fun token text => hosted.tokenizer.decode
          [hosted.tokenizer.tokenId token] = .ok text) tokens texts ∧
        answer = String.join texts := by
  let env : GenerationEnv Nat :=
    ⟨2, fun step => ⟨s!"step-{step}", fun k => ⟨k, k, none⟩⟩, shortTime⟩
  let start : Service Nat Nat :=
    Service.create .exact 2 3 fun address => if address = "10.0.0.1:50051" then "a" else "b"
  have hsound : env.Sound twoNodePlan := ⟨by decide, fun _ _ => rfl⟩
  have hfloats : ∀ x, (fiveLayerSurroundings.floatText x).IsNumber := fun _ => shortTime_number
  obtain ⟨service, hopened⟩ : ∃ service : Service Nat Nat,
      Trace (PageStep fiveLayerCatalog plainText) (start, Chat.empty) fiveLayerEvents
        (service, Chat.empty) :=
    ⟨_, .snoc (.snoc (.snoc .nil (.elsewhere rfl (.heartbeat _ _)))
      (.elsewhere rfl (.heartbeat _ _))) (.elsewhere rfl (.submitted rfl))⟩
  have hstart := represents_create fiveLayerCatalog .exact 2 3
    fun address => if address = "10.0.0.1:50051" then "a" else "b"
  have hrep := (store_of_trace hstart hfloats hopened).2
  have hends : Ends fiveLayerCatalog
      (storeAfter (OneModelStore.create (NodeRegistry.create .exact 2 3)) fiveLayerEvents)
      (sendRequest "m" "10 20 30" false env) := by
    intro manifest hosted hget hhosted
    obtain rfl : fiveLayerManifest = manifest := Option.some.inj hget
    obtain rfl := Option.some.inj hhosted
    refine ⟨⟨[10, 20, 30], rfl, by decide⟩, fun plan hplan => ?_⟩
    obtain rfl : twoNodePlan = plan := Option.some.inj hplan
    exact hsound
  obtain ⟨reply, next, hserves⟩ := hrep.exists_serves hends
  have hallowed : Allowed fiveLayerCatalog service (sendRequest "m" "10 20 30" false env) :=
    trivial
  have hanswer : GreedyAnswer fiveLayerCatalog fiveLayerManifest twoNodePlan true
      ⟨"m", "10 20 30", defaultMaxNewTokens⟩ env reply := (hrep.serves hallowed hserves).1
  obtain ⟨_, _, _, _, _, _, _, _, _, hcarries⟩ :=
    hanswer _ [10, 20, 30] rfl rfl (by decide) hsound
  cases reply with
  | lines body =>
      obtain ⟨_, hreturned, _⟩ := hcarries
      let response := FetchResponse.streaming [bodyBytes body.lines]
      have hsend : PageStep fiveLayerCatalog plainText (service, Chat.empty)
          (.send "m" "10 20 30" false env
            (answerText plainText (postInferenceStream jsonParse response)))
          (next, Chat.empty.handleSend plainText "10 20 30"
            (postInferenceStream jsonParse response)) :=
        .send hserves (.body hreturned (List.append_nil _)) shortTime_number
      have hsent := hopened.snoc hsend
      obtain ⟨hmessages, hshown⟩ :=
        chat_transcript fiveLayerCatalog plainText hfloats .exact 2 3 _ hsent
      have htext : GreedyText fiveLayerCatalog fiveLayerManifest twoNodePlan "10 20 30" env
          (answerText plainText (postInferenceStream jsonParse response)) :=
        hshown fiveLayerEvents _ [] rfl
      exact ⟨_, _, next, _, rfl, hsent, hmessages,
        htext _ [10, 20, 30] rfl rfl (by decide) hsound⟩
  | acknowledged => cases hcarries
  | created _ => cases hcarries
  | nodes _ => cases hcarries
  | models _ => cases hcarries
  | http _ => cases hcarries
  | notLoaded => cases hcarries
  | topology _ _ => cases hcarries
  | json _ => cases hcarries.1

end PiSSM.Pipeline
