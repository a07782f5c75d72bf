import PiSSM.Exceptions
import PiSSM.Lib.Recurrence

/-!
Shard modules: a contiguous slice of a causal language model, with the token
embedding on the first shard and the final norm and head on the last one. A
recurrent-state cache has one slot for each layer of the full model, so that a
block finds its slot under its global layer index.
-/

namespace PiSSM.Inference

open PiSSM.Lib

/-- One slot per layer of the full model; `none` is a layer without history. -/
abbrev Cache (σ : Type*) := List (Option σ)

/-- A block with its weights: `call` maps the slot it resumes from and its
input to its output and the state it stores. -/
structure MambaBlock (τ σ : Type*) where
  layerIdx : Nat
  call : Option σ → τ → τ × σ

/-- The undivided model as the checkpoint describes it. `numHiddenLayers` is
the layer count of its configuration. -/
structure MambaForCausalLM (τ σ : Type*) where
  numHiddenLayers : Nat
  embeddings : τ → τ
  layer : Nat → Option σ → τ → τ × σ
  normF : τ → τ
  lmHead : τ → τ

structure MambaShardModule (τ σ : Type*) where
  layers : List (MambaBlock τ σ)
  isFirst : Bool
  isLast : Bool
  embeddings : Option (τ → τ)
  normF : Option (τ → τ)
  lmHead : Option (τ → τ)
  numHiddenLayers : Nat
  embeddings_isSome : isFirst = true → embeddings.isSome = true
  normF_isSome : isLast = true → normF.isSome = true
  lmHead_isSome : isLast = true → lmHead.isSome = true

variable {τ σ : Type*}

/-- `block(x, cache_params=cache)`: the cache is updated in place, and a block
whose index is beyond the cache raises. -/
def MambaBlock.forward (block : MambaBlock τ σ) (x : τ) (cache : Cache σ) :
    Cache σ × Except PyException τ :=
  match cache[block.layerIdx]? with
  | none => (cache, .error (.indexError "list index out of range"))
  | some slot =>
      (cache.set block.layerIdx (some (block.call slot x).2), .ok (block.call slot x).1)

/-- The layer loop of `forward`; an exception leaves the slots of the layers
already run advanced. -/
def forwardLayers : List (MambaBlock τ σ) → τ → Cache σ → Cache σ × Except PyException τ
  | [], x, cache => (cache, .ok x)
  | block :: rest, x, cache =>
      match block.forward x cache with
      | (cache, .error err) => (cache, .error err)
      | (cache, .ok y) => forwardLayers rest y cache

namespace MambaShardModule

/-- The constructor, which refuses a first shard without embedding and a last
shard without norm and head. -/
def create (layers : List (MambaBlock τ σ)) (isFirst isLast : Bool)
    (embeddings normF lmHead : Option (τ → τ)) (numHiddenLayers : Nat) :
    Except PyException (MambaShardModule τ σ) :=
  if hfirst : isFirst = true → embeddings.isSome = true then
    if hlast : isLast = true → normF.isSome = true ∧ lmHead.isSome = true then
      .ok {
        layers, isFirst, isLast, embeddings, normF, lmHead, numHiddenLayers
        embeddings_isSome := hfirst
        normF_isSome := fun h => (hlast h).1
        lmHead_isSome := fun h => (hlast h).2 }
    else
      .error (.valueError "norm_f and lm_head required when is_last=True")
  else
    .error (.valueError "embeddings required when is_first=True")

/-- The module `from_tensor_locations` builds for a layer range and loads: one
block for each global index of the range, with the weights of that layer. -/
def ofRange (model : MambaForCausalLM τ σ) (layerStart layerEnd : Nat)
    (isFirst isLast : Bool) : MambaShardModule τ σ where
  layers := (List.range' layerStart (layerEnd - layerStart)).map fun i =>
    ⟨i, model.layer i⟩
  isFirst := isFirst
  isLast := isLast
  embeddings := if isFirst then some model.embeddings else none
  normF := if isLast then some model.normF else none
  lmHead := if isLast then some model.lmHead else none
  numHiddenLayers := model.numHiddenLayers
  embeddings_isSome := by rintro rfl; rfl
  normF_isSome := by rintro rfl; rfl
  lmHead_isSome := by rintro rfl; rfl

def embed (shard : MambaShardModule τ σ) (x : τ) : τ :=
  if hfirst : shard.isFirst = true then
    shard.embeddings.get (shard.embeddings_isSome hfirst) x
  else x

def head (shard : MambaShardModule τ σ) (x : τ) : τ :=
  if hlast : shard.isLast = true then
    shard.lmHead.get (shard.lmHead_isSome hlast)
      (shard.normF.get (shard.normF_isSome hlast) x)
  else x

/-- `forward(x, cache_params=cache)`. -/
def forward (shard : MambaShardModule τ σ) (x : τ) (cache : Cache σ) :
    Cache σ × Except PyException τ :=
  let (cache, output) := forwardLayers shard.layers (shard.embed x) cache
  (cache, output.map shard.head)

/-- `forward(x)` without a cache: a stateless pass. -/
def forwardStateless (shard : MambaShardModule τ σ) (x : τ) : τ :=
  shard.head (shard.layers.foldl (fun y block => (block.call none y).1) (shard.embed x))

/-- Sized from the full model's configuration, not from the shard. -/
def newCache (shard : MambaShardModule τ σ) : Cache σ :=
  List.replicate shard.numHiddenLayers none

end MambaShardModule

theorem MambaShardModule.embed_ofRange (model : MambaForCausalLM τ σ)
    (layerStart layerEnd : Nat) (isFirst isLast : Bool) (x : τ) :
    (MambaShardModule.ofRange model layerStart layerEnd isFirst isLast).embed x =
      if isFirst then model.embeddings x else x := by
  cases isFirst <;> rfl

theorem MambaShardModule.head_ofRange (model : MambaForCausalLM τ σ)
    (layerStart layerEnd : Nat) (isFirst isLast : Bool) (x : τ) :
    (MambaShardModule.ofRange model layerStart layerEnd isFirst isLast).head x =
      if isLast then model.lmHead (model.normF x) else x := by
  cases isLast <;> rfl

namespace MambaForCausalLM

variable (model : MambaForCausalLM τ σ)

/-- What enters layer `i` when the layers below are called with `slots`. -/
def hiddenAt (slots : Nat → Option σ) (x : τ) (i : Nat) : τ :=
  stackHidden model.layer slots (model.embeddings x) i

/-- The state layer `i` stores in its slot. -/
def slotAt (slots : Nat → Option σ) (x : τ) (i : Nat) : σ :=
  slotAfter model.layer slots (model.embeddings x) i

/-- The logits of the undivided model with `total` layers. -/
def logits (total : Nat) (slots : Nat → Option σ) (x : τ) : τ :=
  model.lmHead (model.normF (model.hiddenAt slots x total))

/-- The undivided pass: every layer below `total` once and in order, on the
embedded input, then the final norm and the head. -/
def wholeForward (total : Nat) (x : τ) : τ :=
  model.lmHead (model.normF
    ((List.range total).foldl (fun y i => (model.layer i none y).1) (model.embeddings x)))

theorem logits_eq_wholeForward (total : Nat) (x : τ) :
    model.logits total (fun _ => none) x = model.wholeForward total x := by
  have hlayers : model.hiddenAt (fun _ => none) x total =
      (List.range total).foldl (fun y i => (model.layer i none y).1)
        (model.embeddings x) := by
    induction total with
    | zero => rfl
    | succ total ih =>
        rw [List.range_succ, List.foldl_append, ← ih]
        rfl
  rw [logits, wholeForward, hlayers]

/-- What the shard that starts at layer `start` receives: the raw input on the
first shard, hidden states on the others. -/
def shardInput (slots : Nat → Option σ) (x : τ) (start : Nat) : τ :=
  if start = 0 then x else model.hiddenAt slots x start

/-- What the shard that stops at layer `stop` of `total` sends on. -/
def shardOutput (total : Nat) (slots : Nat → Option σ) (x : τ) (stop : Nat) : τ :=
  if stop = total then model.logits total slots x else model.hiddenAt slots x stop

end MambaForCausalLM

/-- A full cache whose slots from `start` to `stop` hold what `slots` says. -/
structure CacheHolds (model : MambaForCausalLM τ σ) (slots : Nat → Option σ)
    (start stop : Nat) (cache : Cache σ) : Prop where
  length : cache.length = model.numHiddenLayers
  slot : ∀ i, start ≤ i → i < stop → cache[i]? = some (slots i)

/-- The layer loop of a shard over `[start, start + count)`: it produces the
hidden state after its last layer and leaves the state of every layer of the
range, and of no other, in the cache. -/
theorem forwardLayers_range (model : MambaForCausalLM τ σ) (slots : Nat → Option σ)
    (x : τ) (start count : Nat) (cache : Cache σ)
    (hslot : ∀ i, start ≤ i → i < start + count → cache[i]? = some (slots i)) :
    ∃ cache',
      forwardLayers ((List.range' start count).map fun i => ⟨i, model.layer i⟩)
          (model.hiddenAt slots x start) cache =
        (cache', .ok (model.hiddenAt slots x (start + count))) ∧
      cache'.length = cache.length ∧
      ∀ i, start ≤ i → i < start + count → cache'[i]? = some (some (model.slotAt slots x i)) := by
  -- The slots below `start` are already written: strengthen to keep them.
  suffices hstrong : ∃ cache',
      forwardLayers ((List.range' start count).map fun i => ⟨i, model.layer i⟩)
          (model.hiddenAt slots x start) cache =
        (cache', .ok (model.hiddenAt slots x (start + count))) ∧
      cache'.length = cache.length ∧
      (∀ i, i < start → cache'[i]? = cache[i]?) ∧
      ∀ i, start ≤ i → i < start + count →
        cache'[i]? = some (some (model.slotAt slots x i)) by
    obtain ⟨cache', hrun, hlength, _, hnew⟩ := hstrong
    exact ⟨cache', hrun, hlength, hnew⟩
  induction count generalizing start cache with
  | zero => exact ⟨cache, rfl, rfl, fun _ _ => rfl, fun i hle hlt => by omega⟩
  | succ count ih =>
      have hhead : cache[start]? = some (slots start) := hslot start le_rfl (by omega)
      have hbound : start < cache.length := by
        rw [List.getElem?_eq_some_iff] at hhead
        exact hhead.1
      let written := cache.set start (some (model.slotAt slots x start))
      have hkept (i : Nat) (hne : i ≠ start) : written[i]? = cache[i]? :=
        List.getElem?_set_ne (Ne.symm hne)
      obtain ⟨cache', hrun, hlength, hbelow, hnew⟩ := ih (start + 1) written
        (fun i hle hlt => by rw [hkept i (by omega)]; exact hslot i (by omega) (by omega))
      refine ⟨cache', ?_, ?_, ?_, ?_⟩
      · simp only [List.range'_succ, List.map_cons, forwardLayers, MambaBlock.forward, hhead]
        rw [show start + (count + 1) = start + 1 + count by omega]
        exact hrun
      · rw [hlength, List.length_set]
      · intro i hlt
        rw [hbelow i (by omega), hkept i (by omega)]
      · intro i hle hlt
        by_cases hi : i = start
        · subst hi
          rw [hbelow i (by omega)]
          exact List.getElem?_set_self hbound
        · exact hnew i (by omega) (by omega)

/-- A shard's pass on a cache that holds `slots`, with the flags the worker
recomputes from the range. -/
theorem forward_ofRange (model : MambaForCausalLM τ σ) (slots : Nat → Option σ)
    (x : τ) (total : Nat) {start stop : Nat} (hle : start ≤ stop) {cache : Cache σ}
    (hcache : CacheHolds model slots start stop cache) :
    ∃ cache',
      (MambaShardModule.ofRange model start stop (start = 0) (stop = total)).forward
          (model.shardInput slots x start) cache =
        (cache', .ok (model.shardOutput total slots x stop)) ∧
      CacheHolds model (fun i => some (model.slotAt slots x i)) start stop cache' := by
  have hcount : start + (stop - start) = stop := by omega
  obtain ⟨cache', hrun, hlength, hnew⟩ := forwardLayers_range model slots x start
    (stop - start) cache (fun i hl hr => hcache.slot i hl (by omega))
  rw [hcount] at hrun
  refine ⟨cache', ?_, hlength.trans hcache.length, fun i hl hr => hnew i hl (by omega)⟩
  have hembed : (MambaShardModule.ofRange model start stop (start = 0) (stop = total)).embed
      (model.shardInput slots x start) = model.hiddenAt slots x start := by
    rw [MambaShardModule.embed_ofRange]
    by_cases hstart : start = 0
    · simp [MambaForCausalLM.shardInput, MambaForCausalLM.hiddenAt, stackHidden, hstart]
    · simp [MambaForCausalLM.shardInput, hstart]
  have hheadOut : (MambaShardModule.ofRange model start stop (start = 0) (stop = total)).head
      (model.hiddenAt slots x stop) = model.shardOutput total slots x stop := by
    rw [MambaShardModule.head_ofRange]
    by_cases hstop : stop = total
    · simp [MambaForCausalLM.shardOutput, MambaForCausalLM.logits, hstop]
    · simp [MambaForCausalLM.shardOutput, hstop]
  simp only [MambaShardModule.forward, hembed]
  rw [show (MambaShardModule.ofRange model start stop (start = 0) (stop = total)).layers =
    (List.range' start (stop - start)).map fun i => ⟨i, model.layer i⟩ from rfl, hrun]
  simp only [Except.map, hheadOut]

theorem newCache_holds (model : MambaForCausalLM τ σ) {start stop : Nat}
    (isFirst isLast : Bool) (hstop : stop ≤ model.numHiddenLayers) :
    CacheHolds model (fun _ => none) start stop
      (MambaShardModule.ofRange model start stop isFirst isLast).newCache where
  length := List.length_replicate
  slot i _ hlt := List.getElem?_replicate_of_lt (by
    change i < model.numHiddenLayers
    omega)

end PiSSM.Inference
