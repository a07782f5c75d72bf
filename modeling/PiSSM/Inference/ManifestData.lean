import PiSSM.Inference.Manifest
import PiSSM.Lib.Yaml

/-!
Manifests as they are read: `validate_manifest` works on the untyped value a YAML
document stands for, and the dataclass it lets pass keeps the values as they are.
`Represents` relates such a manifest to a typed one.
-/

namespace PiSSM.Inference

open PiSSM.Lib

def supportedArchitectures : List String := ["mamba", "s4", "llm-transformer"]

def supportedInputTypes : List String := ["text", "timeseries", "audio"]

def requiredFields : List String :=
  ["name", "arch", "checkpoint", "layers", "hidden_dim", "state_dim", "input_type", "tokenizer"]

def sizeFields : List String := ["layers", "hidden_dim", "state_dim"]

/-- The manifest dataclass with whatever values it is built from. -/
structure LoadedManifest where
  name : YamlValue
  arch : YamlValue
  checkpoint : YamlValue
  layers : YamlValue
  hiddenDim : YamlValue
  stateDim : YamlValue
  inputType : YamlValue
  tokenizer : YamlValue

/-- `member in data`. -/
def memberOf (member : String) (data : YamlValue) : Except PyException Bool :=
  (data.contains member).mapError .typeError

/-- `data[key]`. -/
def subscript (data : YamlValue) (key : String) : Except PyException YamlValue :=
  match data with
  | .map entries =>
      match YamlValue.lookup key entries with
      | some value => .ok value
      | none => .error (.keyError key)
  | .scalar (.str _) => .error (.typeError "string indices must be integers, not 'str'")
  | .scalar (.bytes _) => .error (.typeError "byte indices must be integers or slices, not str")
  | .seq _ | .pairs _ =>
      .error (.typeError "list indices must be integers or slices, not str")
  | .scalar _ | .set _ =>
      .error (.typeError s!"'{data.typeName}' object is not subscriptable")

/-- `value in supported`, for a tuple of strings. -/
def isSupported (supported : List String) (value : YamlValue) : Bool :=
  supported.any fun text => value.isStr text

/-- `isinstance(value, int) and value > 0`; a `bool` is an `int`. -/
def isPositiveInt : YamlValue → Bool
  | .int value => 0 < value
  | .bool value => value
  | _ => false

def tupleText (names : List String) : String :=
  "(" ++ ", ".intercalate (names.map fun name => s!"'{name}'") ++ ")"

/-- `str(value)`, as an f-string renders a value; a `RecursionError` is a
`RuntimeError`. -/
def strOf (rendering : Rendering) (value : YamlValue) : Except PyException String :=
  (value.text rendering).mapError fun
    | .tooManyDigits => .valueError (s!"Exceeds the limit ({rendering.maxDigits} digits) for " ++
        "integer string conversion; use sys.set_int_max_str_digits() to increase the limit")
    | .tooDeep =>
        .runtimeError "maximum recursion depth exceeded while getting the repr of an object"

/-- The constructor call at the end of `manifest_from_dict`. -/
def buildManifest (data : YamlValue) : Except PyException LoadedManifest := do
  return {
    name := ← subscript data "name"
    arch := ← subscript data "arch"
    checkpoint := ← subscript data "checkpoint"
    layers := ← subscript data "layers"
    hiddenDim := ← subscript data "hidden_dim"
    stateDim := ← subscript data "state_dim"
    inputType := ← subscript data "input_type"
    tokenizer := ← subscript data "tokenizer" }

section

variable (rendering : Rendering)

def checkPresent (data : YamlValue) (field : String) : Except PyException Unit := do
  unless ← memberOf field data do
    throw (.manifestError s!"Missing required field: {field}")

def checkSupported (data : YamlValue) (field : String) (supported : List String) :
    Except PyException Unit := do
  let value ← subscript data field
  unless isSupported supported value do
    let text ← strOf rendering value
    throw (.manifestError (s!"Unsupported {field}: '{text}'. " ++
      s!"Must be one of {tupleText supported}"))

def checkPositive (data : YamlValue) (field : String) : Except PyException Unit := do
  let value ← subscript data field
  unless isPositiveInt value do
    let text ← strOf rendering value
    throw (.manifestError s!"Field '{field}' must be a positive integer, got {text}")

def checkName (data : YamlValue) : Except PyException Unit := do
  let name ← subscript data "name"
  if ← memberOf " " name then
    let text ← strOf rendering name
    throw (.manifestError s!"Field 'name' must not contain spaces, got '{text}'")

def validateManifest (data : YamlValue) : Except PyException Unit := do
  requiredFields.forM (checkPresent data)
  checkSupported rendering data "arch" supportedArchitectures
  checkSupported rendering data "input_type" supportedInputTypes
  sizeFields.forM (checkPositive rendering data)
  checkName rendering data

def manifestFromDict (data : YamlValue) : Except PyException LoadedManifest := do
  validateManifest rendering data
  buildManifest data

-- What opening and reading a file at a path gives, and what the YAML loader makes of
-- a text.
variable (readFile : String → Except PyException String)
  (safeLoad : String → Except PyException YamlValue)

def loadManifest (path : String) : Except PyException LoadedManifest :=
  match readFile path with
  | .error (.fileNotFoundError _) =>
      .error (.manifestError s!"Manifest file not found: {path}")
  | .error err => .error err
  | .ok text => safeLoad text >>= manifestFromDict rendering

end

/-- The registry as the loader fills it: a `dict` has a key for every hashable name. -/
abbrev ManifestTable := Dict YamlScalar LoadedManifest

namespace ManifestTable

def register (rendering : Rendering) (models : ManifestTable) (manifest : LoadedManifest) :
    Except PyException ManifestTable :=
  match manifest.name with
  | .scalar name => do
      if models.contains name then
        let text ← strOf rendering manifest.name
        throw (.valueError s!"Model '{text}' is already registered")
      else
        return models.set name manifest
  | name => .error (.typeError s!"unhashable type: '{name.typeName}'")

end ManifestTable

/-- The value is this integer; in Python `True` is one as well. -/
def IsInteger (boolIsInt : Bool) (value : YamlValue) (n : Nat) : Prop :=
  value = .int n ∨ boolIsInt = true ∧ value = .bool true ∧ n = 1

/-- The loaded manifest has the types its dataclass declares. -/
structure LoadedManifest.Represents (boolIsInt : Bool) (loaded : LoadedManifest)
    (manifest : ModelManifest) : Prop where
  name : loaded.name = .str manifest.name
  arch : loaded.arch = .str manifest.arch
  checkpoint : loaded.checkpoint = .str manifest.checkpoint
  layers : IsInteger boolIsInt loaded.layers manifest.layers
  hiddenDim : IsInteger boolIsInt loaded.hiddenDim manifest.hiddenDim
  stateDim : IsInteger boolIsInt loaded.stateDim manifest.stateDim
  inputType : loaded.inputType = .str manifest.inputType
  tokenizer : loaded.tokenizer = .str manifest.tokenizer

structure ModelManifest.Valid (manifest : ModelManifest) : Prop where
  name : ' ' ∉ manifest.name.toList
  arch : manifest.arch ∈ supportedArchitectures
  inputType : manifest.inputType ∈ supportedInputTypes
  layers : 1 ≤ manifest.layers
  hiddenDim : 1 ≤ manifest.hiddenDim
  stateDim : 1 ≤ manifest.stateDim

def LoadedManifest.WellTyped (boolIsInt : Bool) (loaded : LoadedManifest) : Prop :=
  ∃ manifest, loaded.Represents boolIsInt manifest ∧ manifest.Valid

end PiSSM.Inference
