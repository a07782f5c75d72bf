import PiSSM.Inference.ManifestData

/-!
The two ways a manifest comes into the model registry: it is submitted over HTTP, or a
file of the manifests directory is registered when the orchestrator starts.
-/

namespace PiSSM.Orchestrator

open PiSSM.Lib PiSSM.Inference

inductive SubmitResponse where
  /-- Status 201, with the manifest as its body. -/
  | created (manifest : LoadedManifest)
  | httpException (statusCode : Nat) (detail : String)

section

variable (rendering : Rendering) (safeLoad : String → Except PyException YamlValue)

/-- The response and the registry after it, or the exception that escapes. -/
def submitModel (models : ManifestTable) (manifestYaml : String) :
    Except PyException (SubmitResponse × ManifestTable) :=
  match safeLoad manifestYaml with
  | .error (.yamlError message) =>
      .ok (.httpException 400 s!"Invalid YAML: {message}", models)
  | .error err => .error err
  | .ok (.map entries) =>
      match manifestFromDict rendering (.map entries) with
      | .error (.manifestError message) => .ok (.httpException 400 message, models)
      | .error err => .error err
      | .ok manifest =>
          match models.register rendering manifest with
          | .error (.valueError message) => .ok (.httpException 409 message, models)
          | .error err => .error err
          | .ok registered => .ok (.created manifest, registered)
  | .ok _ => .ok (.httpException 400 "Manifest must be a YAML mapping", models)

variable (readFile : String → Except PyException String)

/-- One file of the loop: the registry after it, or the exception that is not caught. -/
def registerManifest (models : ManifestTable) (path : String) :
    Except PyException ManifestTable :=
  match loadManifest rendering readFile safeLoad path >>= models.register rendering with
  | .error (.manifestError _) => .ok models
  | .error (.valueError _) => .ok models
  | .error err => .error err
  | .ok registered => .ok registered

/-- The directory is given by the paths of its `*.yaml` files, in no order, and is absent
when there is none. -/
def registerExistingManifests (models : ManifestTable) (manifestsDir : Option (List String)) :
    Except PyException ManifestTable :=
  match manifestsDir with
  | none => .ok models
  | some paths =>
      (paths.mergeSort fun path other => path ≤ other).foldlM
        (registerManifest rendering safeLoad readFile) models

end

end PiSSM.Orchestrator
