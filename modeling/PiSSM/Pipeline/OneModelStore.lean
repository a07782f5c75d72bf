import PiSSM.Pipeline.ModelStates
import PiSSM.Pipeline.SequentialRequests

/-!
What the orchestrator is for: a store that has one model resident at a time and continues
prompts with it. The store is a function of the requests; what a reply may say is stated
against it. At the end, how the table of model states shows the store.
-/

namespace PiSSM.Pipeline

open PiSSM.Lib PiSSM.Inference PiSSM.Orchestrator

variable {γ ω H S : Type}

/-- The checkpoint and the tokenizer of a manifest, as the surroundings have them. -/
structure HostedModel (around : Surroundings γ ω H S) (manifest : ModelManifest) where
  config : γ
  checkpoint : StoredCheckpoint ω
  embedding : ω → H → H
  block : List (String × ω) → Recurrence H S
  norm : ω → H → H
  head : ω → H → H
  tokenizer : Tokenizer H
  hosts : Hosts around.hub around.library manifest config checkpoint
  parts : around.library.parts config =
    recurrentParts checkpoint.layers embedding block norm head
  configText : around.autoConfig manifest.checkpoint = .ok (around.library.toJsonString config)
  tokenizerRead : around.autoTokenizer manifest.tokenizer = .ok tokenizer
  decodes : ∀ ids, ∃ text, tokenizer.decode ids = .ok text

/-- The manifests that clients submit. -/
abbrev Catalog (around : Surroundings γ ω H S) : Type :=
  (manifest : ModelManifest) → Option (HostedModel around manifest)

/-- The model that `from_pretrained` would load. -/
def HostedModel.wholeModel {around : Surroundings γ ω H S} {manifest : ModelManifest}
    (hosted : HostedModel around manifest) (model : ModelParameters ω) :
    MambaForCausalLM (List H) S :=
  recurrentModel manifest.layers (hosted.embedding model.embeddings) (hosted.norm model.normF)
    (hosted.head model.lmHead) (fun layerIdx => hosted.block (model.layers.getD layerIdx []))

/-- The store: the model that is resident, and why the last attempt to make another one so
has failed. -/
structure OneModelStore where
  registry : NodeRegistry
  modelRegistry : ModelRegistry
  resident : Option (String × DispatchPlan)
  failed : String → Option String
  apart : ∀ name plan, resident = some (name, plan) → failed name = none

def readyState (loader : Nat) (plan : DispatchPlan) : ModelState :=
  HttpState.loadOutcome loader plan (.ok ())

def failedState (message : String) : ModelState := ⟨.error, none, none, some message⟩

namespace OneModelStore

def create (registry : NodeRegistry) : OneModelStore where
  registry := registry
  modelRegistry := ModelRegistry.create
  resident := none
  failed _ := none
  apart _ _ _ := rfl

variable (store : OneModelStore)

def holds (name : String) : Option DispatchPlan :=
  match store.resident with
  | none => none
  | some (resident, plan) => if resident = name then some plan else none

/-- What is known of a model. -/
def entry (name : String) : Option ModelState :=
  match store.holds name with
  | some plan => some (readyState 0 plan)
  | none => (store.failed name).map failedState

def evict : OneModelStore where
  registry := store.registry
  modelRegistry := store.modelRegistry
  resident := none
  failed := store.failed
  apart _ _ hresident := nomatch hresident

def settle (name : String) (plan : DispatchPlan) : OneModelStore where
  registry := store.registry
  modelRegistry := store.modelRegistry
  resident := some (name, plan)
  failed := Function.update store.failed name none
  apart query _ hresident := by
    obtain ⟨rfl, _⟩ := Prod.mk.inj (Option.some.inj hresident)
    exact Function.update_self _ _ _

def refuse (name message : String) : OneModelStore where
  registry := store.registry
  modelRegistry := store.modelRegistry
  resident := none
  failed := Function.update store.failed name (some message)
  apart _ _ hresident := nomatch hresident

/-- Forgets a model. -/
def drop (name : String) : OneModelStore where
  registry := store.registry
  modelRegistry := store.modelRegistry
  resident := if (store.holds name).isSome then none else store.resident
  failed := Function.update store.failed name none
  apart query plan hresident := by
    by_cases hquery : query = name
    · rw [hquery, Function.update_self]
    · rw [Function.update_of_ne hquery]
      split at hresident
      · cases hresident
      · exact store.apart query plan hresident

/-- Makes a model the resident one, if its layers can be planned. -/
def makeResident (manifest : ModelManifest) : OneModelStore :=
  match store.holds manifest.name with
  | some _ => store
  | none =>
      match planDispatch manifest store.registry with
      | .ok plan => store.settle manifest.name plan
      | .error err => store.refuse manifest.name err.str

/-- What is answered to a request that makes a model resident. -/
def residentAnswer (manifest : ModelManifest) : ModelState :=
  match store.holds manifest.name with
  | some plan => readyState 0 plan
  | none =>
      match planDispatch manifest store.registry with
      | .ok plan => ⟨.loading, some plan, none, none⟩
      | .error err => failedState err.str

/-- The store after a request. -/
def next : ServiceRequest S → OneModelStore
  | .heartbeat now request => { store with registry := store.registry.updateNode now request }
  | .reap now => { store with registry := (store.registry.reapStaleNodes now).1 }
  | .submit manifest =>
      match store.modelRegistry.register manifest with
      | .ok registered => { store with modelRegistry := registered }
      | .error _ => store
  | .load name =>
      match store.modelRegistry.get name with
      | none => store
      | some manifest => store.makeResident manifest
  | .redistribute name =>
      match store.modelRegistry.get name, store.entry name with
      | some manifest, some _ => (store.drop name).makeResident manifest
      | _, _ => store
  | .infer _ submission _ _ =>
      match store.modelRegistry.get submission.modelName with
      | none => store
      | some manifest => store.makeResident manifest
  | .nodes | .models | .status _ | .topology => store

/-- The store after some exchanges, whose replies do not matter to it. -/
def after (exchanges : List (ServiceRequest S × ServiceReply)) : OneModelStore :=
  exchanges.foldl (fun store exchange => store.next exchange.1) store

/-- The reply of a route for one model. -/
def reply (name : String) (answer : ModelManifest → ServiceReply) : ServiceReply :=
  match store.modelRegistry.get name with
  | none => modelNotFound name
  | some manifest => answer manifest

end OneModelStore

/-- One JSON object with the result, or a line for each token before it. -/
def Carries (tokenizer : Tokenizer H) (stream : Bool) (tokens : List H) (result : InferResult) :
    ServiceReply → Prop
  | .json value => stream = false ∧ value = responseJson result
  | .lines body => stream = true ∧ body.position = .returned ∧ ∃ texts : List String,
      List.Forall₂ (fun token text => tokenizer.decode [tokenizer.tokenId token] = .ok text)
        tokens texts ∧
      body.lines = texts.map tokenLine ++ [resultLine result]
  | _ => False

/-- The reply gives the text of the prompt with its greedy continuation by the hosted
model. -/
def Continues {around : Surroundings γ ω H S} {manifest : ModelManifest}
    (hosted : HostedModel around manifest) (plan : DispatchPlan) (stream : Bool)
    (submission : InferSubmission) (prompt : List H) (reply : ServiceReply) : Prop :=
  ∃ model tokens result, around.library.fromPretrained hosted.checkpoint = .ok model ∧
    tokens.length = submission.maxNewTokens.toNat ∧
    GreedyTokens ((hosted.wholeModel model).wholeForward manifest.layers) around.argmax
      prompt tokens ∧
    hosted.tokenizer.decode ((prompt ++ tokens).map hosted.tokenizer.tokenId) =
      .ok result.output ∧
    result.numNodes = (plan.assignments.length : Int) ∧
    result.numTokens = submission.maxNewTokens ∧
    Carries hosted.tokenizer stream tokens result reply

/-- Nothing fails in the steps of a generation over a plan. -/
def GenerationEnv.Sound (env : GenerationEnv S) (plan : DispatchPlan) : Prop :=
  plan.assignments.length ≤ env.fuel ∧ ∀ step k, ((env.steps step).hops k).fault = none

section Replies

variable {around : Surroundings γ ω H S} (catalog : Catalog around) (store : OneModelStore)

/-- What a fault in one of the steps does to the reply is left open. -/
def GreedyAnswer (manifest : ModelManifest) (plan : DispatchPlan) (stream : Bool)
    (submission : InferSubmission) (env : GenerationEnv S) (reply : ServiceReply) : Prop :=
  ∀ hosted prompt, catalog manifest = some hosted →
    hosted.tokenizer.tokenize submission.input = .ok prompt → 1 ≤ prompt.length →
    env.Sound plan → Continues hosted plan stream submission prompt reply

/-- The replies that are right for an inference. -/
def InferAnswer (manifest : ModelManifest) (stream : Bool) (submission : InferSubmission)
    (expired : Bool) (env : GenerationEnv S) (reply : ServiceReply) : Prop :=
  match store.holds manifest.name, planDispatch manifest store.registry with
  | none, .error err =>
      reply = .http (.httpException
        (if "no available".toList <:+: err.str.toList then 503 else 400) err.str)
  | none, .ok plan =>
      if expired then
        reply = .http (.httpException 504
          s!"Timed out waiting for model '{manifest.name}' to load")
      else
        GreedyAnswer catalog manifest plan stream submission env reply
  | some plan, _ => GreedyAnswer catalog manifest plan stream submission env reply

/-- The replies that are right for a request. -/
def Replies : ServiceRequest S → ServiceReply → Prop
  | .heartbeat _ _, reply | .reap _, reply => reply = .acknowledged
  | .submit manifest, reply =>
      match store.modelRegistry.register manifest with
      | .ok _ => reply = .created manifest
      | .error err => reply = .http (.httpException 409 err.str)
  | .nodes, reply => reply = .nodes (store.registry.listNodes none)
  | .models, reply => reply = .models store.modelRegistry.listModels
  | .load name, reply =>
      reply = store.reply name fun manifest => .http (stateResponse (store.residentAnswer manifest))
  | .redistribute name, reply =>
      reply = store.reply name fun manifest =>
        match store.entry name with
        | none => .http (.httpException 400
            s!"Model '{name}' has not been loaded yet - nothing to redistribute")
        | some _ => .http (stateResponse ((store.drop name).residentAnswer manifest))
  | .status name, reply =>
      reply = store.reply name fun _ =>
        match store.entry name with
        | none => .notLoaded
        | some entry => .http (stateResponse entry)
  | .topology, reply =>
      reply =
        match store.resident with
        | none => .topology none []
        | some (name, plan) => .topology (some name) (plan.assignments.map topologyAssignment)
  | .infer stream submission expired env, reply =>
      match store.modelRegistry.get submission.modelName with
      | none => reply = modelNotFound submission.modelName
      | some manifest => InferAnswer catalog store manifest stream submission expired env reply

end Replies

/-- A state of the table with its loader left out. -/
def forgetLoader (entry : ModelState) : ModelState :=
  { entry with session := entry.session.map fun session => ⟨0, session.plan⟩ }

/-- The table shows the store. -/
def Shows (states : Dict String ModelState) (store : OneModelStore) : Prop :=
  ∀ name, (states.get? name).map forgetLoader = store.entry name

section Table

variable {states : Dict String ModelState} {store : OneModelStore} {name : String}

namespace OneModelStore

theorem holds_eq_some {plan : DispatchPlan} :
    store.holds name = some plan ↔ store.resident = some (name, plan) := by
  unfold holds
  split
  · next hresident => simp [hresident]
  · next resident plan' hresident =>
      rw [hresident]
      by_cases hname : resident = name
      · simp [hname]
      · simp [hname]

theorem failed_of_holds {plan : DispatchPlan} (hholds : store.holds name = some plan) :
    store.failed name = none :=
  store.apart name plan (holds_eq_some.mp hholds)

@[simp] theorem holds_evict : store.evict.holds name = none := rfl

@[simp] theorem holds_refuse {failed message : String} :
    (store.refuse failed message).holds name = none := rfl

theorem holds_settle {settled : String} {plan : DispatchPlan} :
    (store.settle settled plan).holds name = if settled = name then some plan else none := rfl

theorem holds_drop (dropped : String) :
    (store.drop dropped).holds name = if name = dropped then none else store.holds name := by
  by_cases hname : name = dropped
  · subst hname
    rw [if_pos rfl]
    cases hholds : (store.drop name).holds name with
    | none => rfl
    | some plan =>
        have hresident := holds_eq_some.mp hholds
        unfold drop at hresident
        dsimp only at hresident
        split at hresident
        · cases hresident
        · next hnone => simp [holds_eq_some.mpr hresident] at hnone
  · rw [if_neg hname]
    cases hdropped : store.holds dropped with
    | none =>
        have hsame : (store.drop dropped).resident = store.resident := by
          simp [drop, hdropped]
        simp only [holds, hsame]
    | some plan =>
        have hnone : (store.drop dropped).resident = none := by simp [drop, hdropped]
        have hresident := holds_eq_some.mp hdropped
        simp [holds, hnone, hresident, Ne.symm hname]

theorem entry_of_holds {plan : DispatchPlan} (hholds : store.holds name = some plan) :
    store.entry name = some (readyState 0 plan) := by
  simp only [entry, hholds]

theorem entry_of_none (hholds : store.holds name = none) :
    store.entry name = (store.failed name).map failedState := by
  simp only [entry, hholds]

theorem entry_evict : store.evict.entry name =
    (store.entry name).filter fun entry => entry.status ≠ .ready := by
  rw [entry_of_none holds_evict]
  cases hholds : store.holds name with
  | none =>
      rw [entry_of_none hholds]
      change (store.failed name).map failedState = _
      cases store.failed name with
      | none => rfl
      | some message => rfl
  | some plan =>
      rw [entry_of_holds hholds]
      change (store.failed name).map failedState = _
      rw [failed_of_holds hholds]
      rfl

theorem entry_drop (dropped : String) :
    (store.drop dropped).entry name = if name = dropped then none else store.entry name := by
  unfold entry
  rw [holds_drop]
  change (match (if name = dropped then none else store.holds name) with
    | some plan => some (readyState 0 plan)
    | none => (Function.update store.failed dropped none name).map failedState) = _
  by_cases hname : name = dropped
  · rw [if_pos hname, if_pos hname, hname, Function.update_self]
    rfl
  · rw [if_neg hname, if_neg hname, Function.update_of_ne hname]

theorem entry_settle {settled : String} {plan : DispatchPlan} (hnone : store.holds name = none) :
    (store.settle settled plan).entry name =
      if name = settled then some (readyState 0 plan) else store.entry name := by
  by_cases hname : name = settled
  · subst hname
    have hholds : (store.settle name plan).holds name = some plan := by
      rw [holds_settle, if_pos rfl]
    rw [if_pos rfl, entry_of_holds hholds]
  · have hholds : (store.settle settled plan).holds name = none := by
      rw [holds_settle, if_neg (Ne.symm hname)]
    rw [if_neg hname, entry_of_none hholds, entry_of_none hnone]
    change (Function.update store.failed settled none name).map failedState = _
    rw [Function.update_of_ne hname]

theorem entry_refuse {refused message : String} (hnone : store.holds name = none) :
    (store.refuse refused message).entry name =
      if name = refused then some (failedState message) else store.entry name := by
  rw [entry_of_none holds_refuse, entry_of_none hnone]
  change (Function.update store.failed refused (some message) name).map failedState = _
  by_cases hname : name = refused
  · rw [if_pos hname, hname, Function.update_self]
    rfl
  · rw [if_neg hname, Function.update_of_ne hname]

end OneModelStore

theorem forgetLoader_status (entry : ModelState) :
    (forgetLoader entry).status = entry.status := rfl

theorem Shows.evict (hshows : Shows states store) : Shows (evictLoaded states) store.evict := by
  intro name
  rw [HttpState.evictLoaded_get?, OneModelStore.entry_evict, ← hshows name]
  cases states.get? name with
  | none => rfl
  | some entry =>
      rw [Option.map_some, Option.filter_some, Option.filter_some, forgetLoader_status]
      split
      · rfl
      · rfl

theorem Shows.drop (hshows : Shows states store) (dropped : String) :
    Shows (states.erase dropped) (store.drop dropped) := by
  intro name
  rw [Dict.get?_erase, OneModelStore.entry_drop, ← hshows name]
  split
  · rfl
  · rfl

/-- An entry is written for a model, in a table that shows the other ones. -/
theorem Shows.set
    (hshows : ∀ query ≠ name, (states.get? query).map forgetLoader = store.entry query)
    {entry : ModelState} {after : OneModelStore}
    (hafter : ∀ query, after.entry query =
      if query = name then some (forgetLoader entry) else store.entry query) :
    Shows (states.set name entry) after := by
  intro query
  rw [Dict.get?_set, hafter]
  split
  · rfl
  · next hquery => exact hshows query hquery

/-- What the table has of the resident model. -/
theorem Shows.get?_of_holds (hshows : Shows states store) {plan : DispatchPlan}
    (hholds : store.holds name = some plan) :
    ∃ loader, states.get? name = some (readyState loader plan) := by
  have hentry := hshows name
  rw [OneModelStore.entry_of_holds hholds] at hentry
  obtain ⟨entry, hget, hforget⟩ := Option.map_eq_some_iff.mp hentry
  obtain ⟨status, plan', session, error⟩ := entry
  obtain ⟨rfl, rfl, hsession, rfl⟩ := ModelState.mk.inj hforget
  obtain ⟨⟨loader, plan'⟩, rfl, hplan⟩ := Option.map_eq_some_iff.mp hsession
  obtain ⟨_, rfl⟩ := InferenceSession.mk.inj hplan
  exact ⟨loader, hget⟩

/-- What the table has of a model that is not resident. -/
theorem Shows.get?_of_failed (hshows : Shows states store) (hholds : store.holds name = none) :
    states.get? name = (store.failed name).map failedState := by
  have hentry := hshows name
  rw [OneModelStore.entry_of_none hholds] at hentry
  cases hget : states.get? name with
  | none =>
      rw [hget] at hentry
      exact hentry
  | some entry =>
      rw [hget] at hentry
      obtain ⟨message, hmessage, hfailed⟩ := Option.map_eq_some_iff.mp hentry.symm
      rw [hmessage, Option.map_some]
      obtain ⟨status, plan, session, error⟩ := entry
      obtain ⟨rfl, rfl, hsession, rfl⟩ := ModelState.mk.inj hfailed
      cases session with
      | none => rfl
      | some session => cases hsession

theorem Shows.not_loading (hshows : Shows states store) {entry : ModelState}
    (hget : states.get? name = some entry) : entry.status ≠ .loading := by
  intro hloading
  cases hholds : store.holds name with
  | some plan =>
      obtain ⟨loader, hready⟩ := hshows.get?_of_holds hholds
      obtain rfl := Option.some.inj (hget.symm.trans hready)
      cases hloading
  | none =>
      rw [hshows.get?_of_failed hholds] at hget
      obtain ⟨message, _, rfl⟩ := Option.map_eq_some_iff.mp hget
      cases hloading

end Table

end PiSSM.Pipeline
