import PiSSM.Exceptions
import PiSSM.Inference.Service
import PiSSM.Lib.Dict

/-!
Which checkpoint tensors a shard needs. The orchestrator resolves them by name
against the checkpoint's weight map; the worker builds a module whose
parameters it fills from them by a strict `load_state_dict`. Layer tensors are
renumbered from their global layer index to the index in the shard.
-/

namespace PiSSM.Inference

open PiSSM.Lib

/-- The code points of the digit zero in every block of decimal digits, which
is what `\d` matches and `int` reads in a `str`. -/
def decimalZeros : List Nat :=
  [0x30, 0x660, 0x6F0, 0x7C0, 0x966, 0x9E6, 0xA66, 0xAE6, 0xB66, 0xBE6, 0xC66, 0xCE6,
    0xD66, 0xDE6, 0xE50, 0xED0, 0xF20, 0x1040, 0x1090, 0x17E0, 0x1810, 0x1946, 0x19D0,
    0x1A80, 0x1A90, 0x1B50, 0x1BB0, 0x1C40, 0x1C50, 0xA620, 0xA8D0, 0xA900, 0xA9D0,
    0xA9F0, 0xAA50, 0xABF0, 0xFF10, 0x104A0, 0x10D30, 0x11066, 0x110F0, 0x11136,
    0x111D0, 0x112F0, 0x11450, 0x114D0, 0x11650, 0x116C0, 0x11730, 0x118E0, 0x11950,
    0x11C50, 0x11D50, 0x11DA0, 0x16A60, 0x16AC0, 0x16B50, 0x1D7CE, 0x1D7D8, 0x1D7E2,
    0x1D7EC, 0x1D7F6, 0x1E140, 0x1E2F0, 0x1E950, 0x1FBF0]

def decimalValue (c : Char) : Option Nat :=
  decimalZeros.findSome? fun first =>
    if first ≤ c.toNat ∧ c.toNat < first + 10 then some (c.toNat - first) else none

def isDecimal (c : Char) : Bool := (decimalValue c).isSome

/-- `int` of a string of decimal digits, however many there are. -/
def decimalInt (digits : List Char) : Nat :=
  digits.foldl (fun value c => 10 * value + (decimalValue c).getD 0) 0

/-- `(.+)$`: the dot excludes the newline, and the end anchor also matches
before a final newline. -/
def matchSuffix (chars : List Char) : Option String :=
  if chars ≠ [] ∧ '\n' ∉ chars then
    some (String.ofList chars)
  else if chars.dropLast ≠ [] ∧ '\n' ∉ chars.dropLast then
    some (String.ofList chars.dropLast)
  else
    none

def layerPrefix : List Char := "backbone.layers.".toList

/-- The match of `^backbone\.layers\.(\d+)\.(.+)$`: the layer index and the
suffix. -/
def matchLayerName (name : String) : Option (Nat × String) :=
  if layerPrefix.isPrefixOf name.toList then
    let rest := name.toList.drop layerPrefix.length
    match rest.dropWhile isDecimal with
    | '.' :: suffix =>
        if rest.takeWhile isDecimal = [] then none
        else (matchSuffix suffix).map fun s => (decimalInt (rest.takeWhile isDecimal), s)
    | _ => none
  else
    none

def embeddingName : String := "backbone.embeddings.weight"

def normName : String := "backbone.norm_f.weight"

def lmHeadName : String := "lm_head.weight"

/-- `weight_map[name]`. -/
def getItem (weightMap : Dict String String) (name : String) :
    Except PyException String :=
  match weightMap.get? name with
  | some file => .ok file
  | none => .error (.keyError name)

def layerDest (localIdx : Nat) (suffix : String) : String :=
  s!"layers.{localIdx}.{suffix}"

/-- One iteration of the loop over the weight map. -/
def layerLocation (layerStart layerEnd : Nat) (entry : String × String) :
    Option TensorLocationSpec :=
  match matchLayerName entry.1 with
  | none => none
  | some (layerIdx, suffix) =>
      if layerStart ≤ layerIdx ∧ layerIdx < layerEnd then
        some ⟨layerDest (layerIdx - layerStart) suffix, entry.1, entry.2⟩
      else
        none

def tensorLocationsForRange (weightMap : Dict String String) (layerStart layerEnd : Nat)
    (isFirst isLast : Bool) : Except PyException (List TensorLocationSpec) := do
  let mut locations := []
  if isFirst then
    let sourceFile ← getItem weightMap embeddingName
    locations := locations ++ [⟨"embeddings.weight", embeddingName, sourceFile⟩]
  locations := locations ++ weightMap.items.filterMap (layerLocation layerStart layerEnd)
  if isLast then
    let normFile ← getItem weightMap normName
    locations := locations ++ [⟨"norm_f.weight", normName, normFile⟩]
    -- A tied head has no storage of its own and is read from the embedding.
    let sourceName := if weightMap.contains lmHeadName then lmHeadName else embeddingName
    let headFile ← getItem weightMap sourceName
    locations := locations ++ [⟨"lm_head.weight", sourceName, headFile⟩]
  return locations

/-- The parameter names of the module a worker builds for a layer range, in
`state_dict` order. `blockParameters` are those of one block. -/
def parameterNames (blockParameters : List String) (layerStart layerEnd : Nat)
    (isFirst isLast : Bool) : List String :=
  (if isFirst then ["embeddings.weight"] else []) ++
    (List.range (layerEnd - layerStart)).flatMap (fun localIdx =>
      blockParameters.map (layerDest localIdx)) ++
    (if isLast then ["norm_f.weight", "lm_head.weight"] else [])

/-- The missing and the unexpected keys of a strict `load_state_dict`. -/
def strictMismatch (parameters keys : List String) : List String × List String :=
  (parameters.filter fun name => name ∉ keys, keys.filter fun name => name ∉ parameters)

def layerName (layerIdx : Nat) (suffix : String) : String :=
  s!"backbone.layers.{layerIdx}.{suffix}"

/-- A checkpoint of the architecture: its weight map names the tensors of
`layers` layers in canonical decimal, one for each parameter of a block, the
embedding, the final norm and possibly an untied head, and nothing else. -/
structure MambaCheckpoint where
  weightMap : Dict String String
  layers : Nat
  blockParameters : List String
  hasLmHead : Bool
  blockParameters_nodup : blockParameters.Nodup
  blockParameters_name : ∀ parameter ∈ blockParameters,
    parameter.toList ≠ [] ∧ '\n' ∉ parameter.toList
  names : ∀ name, (weightMap.get? name).isSome ↔
    name = embeddingName ∨ name = normName ∨ (hasLmHead = true ∧ name = lmHeadName) ∨
      ∃ layerIdx < layers, ∃ parameter ∈ blockParameters, name = layerName layerIdx parameter

theorem decimalValue_of_isDigit {c : Char} (hdigit : c.isDigit = true) :
    decimalValue c = some (c.toNat - '0'.toNat) := by
  have hrange : 48 ≤ c.toNat ∧ c.toNat ≤ 57 := Char.isDigit_iff_toNat.mp hdigit
  have hfirst : 0x30 ≤ c.toNat ∧ c.toNat < 0x30 + 10 := by omega
  rw [decimalValue, decimalZeros, List.findSome?_cons, if_pos hfirst]
  rfl

theorem isDecimal_of_isDigit {c : Char} (hdigit : c.isDigit = true) :
    isDecimal c = true := by
  rw [isDecimal, decimalValue_of_isDigit hdigit]
  rfl

theorem isDecimal_of_mem_toDigits {n : Nat} {c : Char} (hmem : c ∈ Nat.toDigits 10 n) :
    isDecimal c = true :=
  isDecimal_of_isDigit (Nat.isDigit_of_mem_toDigits (by omega) (by omega) hmem)

/-- Reading a canonical decimal gives the number back. -/
theorem decimalInt_toDigits (n : Nat) : decimalInt (Nat.toDigits 10 n) = n := by
  have hfold : ∀ (digits : List Char) (value : Nat), (∀ c ∈ digits, c.isDigit = true) →
      digits.foldl (fun value c => 10 * value + (decimalValue c).getD 0) value =
        Nat.ofDigitChars 10 digits value := by
    intro digits
    induction digits with
    | nil => intro value _; simp
    | cons c rest ih =>
        intro value hdigits
        rw [List.foldl_cons, Nat.ofDigitChars_cons,
          decimalValue_of_isDigit (hdigits c List.mem_cons_self), Option.getD_some]
        exact ih _ fun d hd => hdigits d (List.mem_cons_of_mem _ hd)
  rw [decimalInt, hfold _ _ fun c hc => Nat.isDigit_of_mem_toDigits (by omega) (by omega) hc]
  exact Nat.ofDigitChars_ten_toDigits

/-- A canonical decimal before a dot is split off by the digit loop. -/
theorem span_toDigits_dot (n : Nat) (rest : List Char) :
    (Nat.toDigits 10 n ++ '.' :: rest).takeWhile isDecimal = Nat.toDigits 10 n ∧
      (Nat.toDigits 10 n ++ '.' :: rest).dropWhile isDecimal = '.' :: rest := by
  have hall : ∀ c ∈ Nat.toDigits 10 n, isDecimal c = true := fun c hc =>
    isDecimal_of_mem_toDigits hc
  have hdot : isDecimal '.' = false := by decide
  constructor
  · rw [List.takeWhile_append_of_pos hall, List.takeWhile_cons_of_neg (by simp [hdot]),
      List.append_nil]
  · rw [List.dropWhile_append_of_pos hall, List.dropWhile_cons_of_neg (by simp [hdot])]

theorem toDigits_dot_inj {m n : Nat} {xs ys : List Char}
    (heq : Nat.toDigits 10 m ++ '.' :: xs = Nat.toDigits 10 n ++ '.' :: ys) :
    m = n ∧ xs = ys := by
  have htake := congrArg (List.takeWhile isDecimal) heq
  have hdrop := congrArg (List.dropWhile isDecimal) heq
  rw [(span_toDigits_dot m xs).1, (span_toDigits_dot n ys).1] at htake
  rw [(span_toDigits_dot m xs).2, (span_toDigits_dot n ys).2] at hdrop
  refine ⟨?_, List.tail_eq_of_cons_eq hdrop⟩
  calc
    m = decimalInt (Nat.toDigits 10 m) := (decimalInt_toDigits m).symm
    _ = decimalInt (Nat.toDigits 10 n) := by rw [htake]
    _ = n := decimalInt_toDigits n

/-- The characters of an f-string of the form `head{number}.{tail}`. -/
theorem toList_numbered (head tail : String) (number : Nat) :
    (head ++ toString number ++ "." ++ tail).toList =
      head.toList ++ (Nat.toDigits 10 number ++ '.' :: tail.toList) := by
  rw [String.toList_append, String.toList_append, String.toList_append,
    Nat.toString_eq_repr, Nat.toList_repr, List.append_assoc, List.append_assoc]
  rfl

theorem layerName_toList (layerIdx : Nat) (suffix : String) :
    (layerName layerIdx suffix).toList =
      layerPrefix ++ (Nat.toDigits 10 layerIdx ++ '.' :: suffix.toList) :=
  toList_numbered "backbone.layers." suffix layerIdx

theorem matchLayerName_layerName (layerIdx : Nat) {suffix : String}
    (hplain : suffix.toList ≠ [] ∧ '\n' ∉ suffix.toList) :
    matchLayerName (layerName layerIdx suffix) = some (layerIdx, suffix) := by
  rw [matchLayerName, layerName_toList, if_pos (by simp), List.drop_left]
  simp only [(span_toDigits_dot layerIdx suffix.toList).1,
    (span_toDigits_dot layerIdx suffix.toList).2, Nat.toDigits_ne_nil, if_false,
    matchSuffix, if_pos hplain, Option.map_some, decimalInt_toDigits, String.ofList_toList]

theorem layerDest_toList (localIdx : Nat) (suffix : String) :
    (layerDest localIdx suffix).toList =
      "layers.".toList ++ (Nat.toDigits 10 localIdx ++ '.' :: suffix.toList) :=
  toList_numbered "layers." suffix localIdx

theorem layerDest_inj {i j : Nat} {p q : String}
    (heq : layerDest i p = layerDest j q) : i = j ∧ p = q := by
  have hlist := congrArg String.toList heq
  rw [layerDest_toList, layerDest_toList] at hlist
  obtain ⟨hidx, hsuffix⟩ := toDigits_dot_inj (List.append_cancel_left hlist)
  exact ⟨hidx, String.toList_injective hsuffix⟩

/-- No layer parameter is called like one of the other parameters. -/
theorem layerDest_ne (localIdx : Nat) (suffix : String) {name : String}
    (hname : name.toList.take 7 ≠ "layers.".toList) :
    layerDest localIdx suffix ≠ name := by
  intro heq
  apply hname
  rw [← heq, layerDest_toList]
  rfl

/-- The tensors outside the layer stack are not taken for layer tensors. -/
theorem matchLayerName_embeddingName : matchLayerName embeddingName = none := by decide

theorem matchLayerName_normName : matchLayerName normName = none := by decide

theorem matchLayerName_lmHeadName : matchLayerName lmHeadName = none := by decide

theorem getItem_of_isSome {weightMap : Dict String String} {name : String}
    (hname : (weightMap.get? name).isSome) :
    ∃ file, getItem weightMap name = .ok file ∧ weightMap.get? name = some file := by
  obtain ⟨file, hfile⟩ := Option.isSome_iff_exists.mp hname
  exact ⟨file, by rw [getItem, hfile], hfile⟩

namespace MambaCheckpoint

variable (checkpoint : MambaCheckpoint)

/-- The locations of the layer tensors of a range. -/
def layerLocations (layerStart layerEnd : Nat) : List TensorLocationSpec :=
  checkpoint.weightMap.items.filterMap (layerLocation layerStart layerEnd)

/-- What the loop over the weight map makes of a tensor of the checkpoint. -/
theorem layerLocation_eq_some {layerStart layerEnd : Nat} {name file : String}
    {location : TensorLocationSpec}
    (hentry : (name, file) ∈ checkpoint.weightMap.items) :
    layerLocation layerStart layerEnd (name, file) = some location ↔
      ∃ layerIdx, ∃ parameter ∈ checkpoint.blockParameters,
        layerIdx < checkpoint.layers ∧ layerStart ≤ layerIdx ∧ layerIdx < layerEnd ∧
          name = layerName layerIdx parameter ∧
          location = ⟨layerDest (layerIdx - layerStart) parameter, name, file⟩ := by
  constructor
  · intro hsome
    have hname : (checkpoint.weightMap.get? name).isSome := by
      rw [(checkpoint.weightMap.mem_items_iff name file).mp hentry]
      rfl
    rcases (checkpoint.names name).mp hname with
      rfl | rfl | ⟨_, rfl⟩ | ⟨layerIdx, hlt, parameter, hparameter, rfl⟩
    · simp [layerLocation, matchLayerName_embeddingName] at hsome
    · simp [layerLocation, matchLayerName_normName] at hsome
    · simp [layerLocation, matchLayerName_lmHeadName] at hsome
    · simp only [layerLocation, matchLayerName_layerName layerIdx
        (checkpoint.blockParameters_name parameter hparameter)] at hsome
      split at hsome
      · next hrange =>
          exact ⟨layerIdx, parameter, hparameter, hlt, hrange.1, hrange.2, rfl,
            (Option.some.inj hsome).symm⟩
      · cases hsome
  · rintro ⟨layerIdx, parameter, hparameter, _, hstart, hend, rfl, rfl⟩
    simp only [layerLocation, matchLayerName_layerName layerIdx
      (checkpoint.blockParameters_name parameter hparameter), if_pos (And.intro hstart hend)]

theorem mem_layerLocations {layerStart layerEnd : Nat} {location : TensorLocationSpec} :
    location ∈ checkpoint.layerLocations layerStart layerEnd ↔
      ∃ layerIdx, ∃ parameter ∈ checkpoint.blockParameters, ∃ file,
        layerIdx < checkpoint.layers ∧ layerStart ≤ layerIdx ∧ layerIdx < layerEnd ∧
          checkpoint.weightMap.get? (layerName layerIdx parameter) = some file ∧
          location = ⟨layerDest (layerIdx - layerStart) parameter,
            layerName layerIdx parameter, file⟩ := by
  rw [layerLocations, List.mem_filterMap]
  constructor
  · rintro ⟨⟨name, file⟩, hentry, hsome⟩
    obtain ⟨layerIdx, parameter, hparameter, hlt, hstart, hend, rfl, rfl⟩ :=
      (checkpoint.layerLocation_eq_some hentry).mp hsome
    exact ⟨layerIdx, parameter, hparameter, file, hlt, hstart, hend,
      (checkpoint.weightMap.mem_items_iff _ _).mp hentry, rfl⟩
  · rintro ⟨layerIdx, parameter, hparameter, file, hlt, hstart, hend, hfile, rfl⟩
    have hentry := (checkpoint.weightMap.mem_items_iff _ _).mpr hfile
    exact ⟨_, hentry, (checkpoint.layerLocation_eq_some hentry).mpr
      ⟨layerIdx, parameter, hparameter, hlt, hstart, hend, rfl, rfl⟩⟩

/-- The renumbered names are those of the blocks of the worker's module. -/
theorem mem_layerDests {layerStart layerEnd : Nat} (hend : layerEnd ≤ checkpoint.layers)
    (dest : String) :
    dest ∈ (checkpoint.layerLocations layerStart layerEnd).map TensorLocationSpec.destName ↔
      ∃ localIdx < layerEnd - layerStart, ∃ parameter ∈ checkpoint.blockParameters,
        dest = layerDest localIdx parameter := by
  rw [List.mem_map]
  constructor
  · rintro ⟨location, hlocation, rfl⟩
    obtain ⟨layerIdx, parameter, hparameter, file, _, hstart, hlt, _, rfl⟩ :=
      checkpoint.mem_layerLocations.mp hlocation
    exact ⟨layerIdx - layerStart, by omega, parameter, hparameter, rfl⟩
  · rintro ⟨localIdx, hlocal, parameter, hparameter, rfl⟩
    have hname : (checkpoint.weightMap.get?
        (layerName (layerStart + localIdx) parameter)).isSome :=
      (checkpoint.names _).mpr (.inr (.inr (.inr
        ⟨layerStart + localIdx, by omega, parameter, hparameter, rfl⟩)))
    obtain ⟨file, hfile⟩ := Option.isSome_iff_exists.mp hname
    refine ⟨_, checkpoint.mem_layerLocations.mpr ⟨layerStart + localIdx, parameter,
      hparameter, file, by omega, by omega, by omega, hfile, rfl⟩, ?_⟩
    rw [Nat.add_sub_cancel_left]

/-- Distinct tensors of the range keep distinct names in the shard. -/
theorem layerDests_nodup (layerStart layerEnd : Nat) :
    ((checkpoint.layerLocations layerStart layerEnd).map
      TensorLocationSpec.destName).Nodup := by
  rw [layerLocations, List.Nodup, List.pairwise_map, List.pairwise_filterMap]
  have hkeys := List.pairwise_map.mp checkpoint.weightMap.nodupKeys
  refine hkeys.imp_of_mem ?_
  rintro ⟨name, file⟩ ⟨name', file'⟩ hentry hentry' hne location hsome location' hsome' heq
  obtain ⟨layerIdx, parameter, _, _, hstart, _, rfl, rfl⟩ :=
    (checkpoint.layerLocation_eq_some hentry).mp hsome
  obtain ⟨layerIdx', parameter', _, _, hstart', _, rfl, rfl⟩ :=
    (checkpoint.layerLocation_eq_some hentry').mp hsome'
  obtain ⟨hlocal, rfl⟩ := layerDest_inj heq
  obtain rfl : layerIdx = layerIdx' := by omega
  exact hne rfl

/-- The tensor a tied or an untied head is read from. -/
def headSource : String :=
  if checkpoint.weightMap.contains lmHeadName then lmHeadName else embeddingName

theorem headSource_isSome : (checkpoint.weightMap.get? checkpoint.headSource).isSome := by
  rw [headSource]
  split
  · next hhead => exact hhead
  · exact (checkpoint.names _).mpr (.inl rfl)

/-- The planner finds every tensor it looks up, so the locations of a range are
those of its layers between those of the shard's ends. -/
theorem tensorLocationsForRange_ok (layerStart layerEnd : Nat) (isFirst isLast : Bool) :
    ∃ embeddingFile normFile headFile,
      checkpoint.weightMap.get? embeddingName = some embeddingFile ∧
      checkpoint.weightMap.get? normName = some normFile ∧
      checkpoint.weightMap.get? checkpoint.headSource = some headFile ∧
      tensorLocationsForRange checkpoint.weightMap layerStart layerEnd isFirst isLast =
        .ok ((if isFirst then
            [⟨"embeddings.weight", embeddingName, embeddingFile⟩] else []) ++
          checkpoint.layerLocations layerStart layerEnd ++
          if isLast then [⟨"norm_f.weight", normName, normFile⟩,
            ⟨"lm_head.weight", checkpoint.headSource, headFile⟩] else []) := by
  obtain ⟨embeddingFile, hembedding, hembeddingFile⟩ :=
    getItem_of_isSome ((checkpoint.names embeddingName).mpr (.inl rfl))
  obtain ⟨normFile, hnorm, hnormFile⟩ :=
    getItem_of_isSome ((checkpoint.names normName).mpr (.inr (.inl rfl)))
  obtain ⟨headFile, hhead, hheadFile⟩ := getItem_of_isSome checkpoint.headSource_isSome
  refine ⟨embeddingFile, normFile, headFile, hembeddingFile, hnormFile, hheadFile, ?_⟩
  rw [headSource] at hhead
  cases isFirst <;> cases isLast <;>
    simp [tensorLocationsForRange, layerLocations, hembedding, hnorm, hhead, headSource,
      bind, Except.bind, pure, Except.pure]

end MambaCheckpoint

end PiSSM.Inference
