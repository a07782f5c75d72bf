import PiSSM.Pipeline.ManifestErrors

/-!
The registration of the manifests directory at startup. A file that cannot be read or is
refused is skipped when the exception is one of the two the loop catches; any other one
ends the loop and with it the start of the orchestrator.
-/

namespace PiSSM.Pipeline

open PiSSM.Lib PiSSM.Inference PiSSM.Orchestrator

/-- The exceptions the loop catches. -/
def IsCaught : PyException → Prop
  | .manifestError _ | .valueError _ => True
  | _ => False

theorem isCaught_refusal : Refusal IsCaught :=
  ⟨fun _ => trivial, fun _ => id⟩

/-- A name the registry can look up. -/
def HashableName (manifest : LoadedManifest) : Prop :=
  ∃ name, manifest.name = .scalar name

def hasName (name : YamlScalar) (manifest : LoadedManifest) : Bool :=
  match manifest.name with
  | .scalar found => found = name
  | _ => false

/-- A document that is refused, or accepted with a name that is a string. -/
def NamedOrRefused (rendering : Rendering) : YamlValue → Prop
  | .map entries =>
      (ReachesName entries →
        (∃ name ∈ YamlValue.lookup "name" entries,
          HoldsBlank name ∧ Shown rendering IsCaught name) ∨
          ∃ name, YamlValue.lookup "name" entries = some (.str name)) ∧
        RejectionShown rendering IsCaught entries
  | data => ∃ field ∈ requiredFields, data.contains field = .ok false

theorem deals_hashableName_iff {rendering : Rendering} {data : YamlValue} :
    Deals rendering IsCaught HashableName data ↔ NamedOrRefused rendering data := by
  cases data with
  | map entries =>
      apply and_congr_left'
      apply imp_congr_right
      intro hreaches
      rw [hreaches.name_iff fun name => HoldsBlank name ∧ Shown rendering IsCaught name]
      have hlookup := lookup_eq_getD (hreaches.present "name" (by decide))
      constructor
      · rintro (hblank | ⟨hfree, name, hname⟩)
        · exact .inl hblank
        · obtain ⟨text, rfl⟩ := FreeOfBlanks.eq_str (hname ▸ hfree)
          exact .inr ⟨text, hlookup.trans (congrArg some hname)⟩
      · rintro (hblank | ⟨text, htext⟩)
        · exact .inl hblank
        · have hname : (recordOf entries).name = .str text :=
            Option.some.inj (hlookup.symm.trans htext)
          rcases str_searched text with hblank | hfree
          · exact .inl ⟨hname ▸ hblank, hname ▸ shown_str _ _ text⟩
          · exact .inr ⟨hname ▸ hfree, _, hname⟩
  | scalar value => exact .rfl
  | seq items => exact .rfl
  | pairs entries => exact .rfl
  | set members => exact .rfl

section

variable (rendering : Rendering) (safeLoad : String → Except PyException YamlValue)
  (readFile : String → Except PyException String)

/-- The file is missing, or what goes wrong with it is caught. -/
def FileHandled (path : String) : Prop :=
  match readFile path with
  | .error (.fileNotFoundError _) => True
  | .error err => IsCaught err
  | .ok text =>
      match safeLoad text with
      | .error err => IsCaught err
      | .ok data => NamedOrRefused rendering data

/-- The manifest of this name in a file, if it is valid and has it. -/
def manifestAt (name : YamlScalar) (path : String) : Option LoadedManifest :=
  match loadManifest rendering readFile safeLoad path with
  | .ok manifest => if hasName name manifest then some manifest else none
  | .error _ => none

variable {rendering safeLoad readFile}

theorem settles_loadManifest {path : String} :
    Settles IsCaught HashableName (loadManifest rendering readFile safeLoad path) ↔
      FileHandled rendering safeLoad readFile path := by
  unfold loadManifest FileHandled
  cases readFile path with
  | error err =>
      cases err with
      | fileNotFoundError message => exact .rfl
      | _ => exact .rfl
  | ok text =>
      dsimp only
      cases safeLoad text with
      | error err => exact .rfl
      | ok data =>
          exact (settles_manifestFromDict isCaught_refusal HashableName data).trans
            deals_hashableName_iff

/-- A handled file registers its manifest unless the name is taken. -/
theorem registerManifest_handled {models : ManifestTable} {path : String}
    (hhandled : FileHandled rendering safeLoad readFile path) :
    ∃ registered, registerManifest rendering safeLoad readFile models path = .ok registered ∧
      ∀ name, registered.get? name =
        (models.get? name).or (manifestAt rendering safeLoad readFile name path) := by
  have hsettles := (@settles_loadManifest rendering safeLoad readFile path).mpr hhandled
  unfold registerManifest manifestAt
  cases hload : loadManifest rendering readFile safeLoad path with
  | error err =>
      rw [hload] at hsettles
      refine ⟨models, ?_, fun name => Option.or_none.symm⟩
      cases err with
      | manifestError message => rfl
      | valueError message => rfl
      | _ => exact hsettles.elim
  | ok manifest =>
      rw [hload] at hsettles
      obtain ⟨found, hfound⟩ := hsettles
      obtain ⟨hrefused, hadded⟩ := @register_scalar rendering models manifest found hfound
      simp only [bind, Except.bind, hfound, hasName, decide_eq_true_eq]
      by_cases htaken : models.contains found = true
      · obtain ⟨message, hregister⟩ := hrefused htaken
        rw [hregister]
        refine ⟨models, rfl, ?_⟩
        intro name
        by_cases hname : found = name
        · subst hname
          exact (Option.or_of_isSome htaken).symm
        · rw [if_neg hname, Option.or_none]
      · rw [hadded htaken]
        refine ⟨models.set found manifest, rfl, ?_⟩
        intro name
        rw [Dict.get?_set]
        by_cases hname : found = name
        · subst hname
          have hnone : models.get? found = none := by
            simpa [Dict.contains] using htaken
          rw [if_pos rfl, if_pos rfl, hnone, Option.none_or]
        · rw [if_neg hname, if_neg (Ne.symm hname), Option.or_none]

/-- From any other file an exception escapes. -/
theorem registerManifest_escapes {models : ManifestTable} {path : String}
    (hescapes : ¬ FileHandled rendering safeLoad readFile path) :
    ∃ err, registerManifest rendering safeLoad readFile models path = .error err := by
  rw [← @settles_loadManifest rendering] at hescapes
  unfold registerManifest
  cases hload : loadManifest rendering readFile safeLoad path with
  | error err =>
      rw [hload] at hescapes
      cases err with
      | manifestError message => exact absurd trivial hescapes
      | valueError message => exact absurd trivial hescapes
      | _ => exact ⟨_, rfl⟩
  | ok manifest =>
      rw [hload] at hescapes
      simp only [bind, Except.bind, ManifestTable.register]
      cases hname : manifest.name with
      | scalar name => exact absurd ⟨name, hname⟩ hescapes
      | _ => exact ⟨_, rfl⟩

theorem registerAll_handled {paths : List String} {models : ManifestTable}
    (hhandled : ∀ path ∈ paths, FileHandled rendering safeLoad readFile path) :
    ∃ final, paths.foldlM (registerManifest rendering safeLoad readFile) models = .ok final ∧
      ∀ name, final.get? name =
        (models.get? name).or (paths.findSome? (manifestAt rendering safeLoad readFile name)) := by
  induction paths generalizing models with
  | nil => exact ⟨models, rfl, fun name => Option.or_none.symm⟩
  | cons path rest ih =>
      obtain ⟨registered, hregister, hget⟩ :=
        @registerManifest_handled rendering _ _ models _ (hhandled path List.mem_cons_self)
      obtain ⟨final, hfinal, hgetFinal⟩ :=
        ih fun later hmem => hhandled later (List.mem_cons_of_mem _ hmem)
      refine ⟨final, ?_, ?_⟩
      · rw [List.foldlM_cons, hregister]
        exact hfinal
      · intro name
        rw [hgetFinal, hget, Option.or_assoc, List.findSome?_cons]
        cases manifestAt rendering safeLoad readFile name path with
        | none => rfl
        | some manifest => rfl

theorem registerAll_escapes {paths : List String} {models : ManifestTable}
    (hescapes : ∃ path ∈ paths, ¬ FileHandled rendering safeLoad readFile path) :
    ∃ err, paths.foldlM (registerManifest rendering safeLoad readFile) models = .error err := by
  induction paths generalizing models with
  | nil => simp at hescapes
  | cons path rest ih =>
      rw [List.foldlM_cons]
      by_cases hhandled : FileHandled rendering safeLoad readFile path
      · obtain ⟨registered, hregister, _⟩ :=
          @registerManifest_handled rendering _ _ models _ hhandled
        rw [hregister]
        apply ih
        obtain ⟨later, hmem, hlater⟩ := hescapes
        rcases List.mem_cons.mp hmem with rfl | hmem
        · exact absurd hhandled hlater
        · exact ⟨later, hmem, hlater⟩
      · obtain ⟨err, herr⟩ := @registerManifest_escapes rendering _ _ models _ hhandled
        rw [herr]
        exact ⟨err, rfl⟩

end

/-- Registration of a directory ends with the initial entries and the first valid manifest
of each new name exactly when every file of the directory is handled. -/
theorem startup_registration (rendering : Rendering)
    (safeLoad : String → Except PyException YamlValue)
    (readFile : String → Except PyException String) (models : ManifestTable) :
    registerExistingManifests rendering safeLoad readFile models none = .ok models ∧
    ∀ paths, (∃ final,
        registerExistingManifests rendering safeLoad readFile models (some paths) = .ok final ∧
        ∀ name, final.get? name = (models.get? name).or
          ((paths.mergeSort fun path other => path ≤ other).findSome?
            (manifestAt rendering safeLoad readFile name))) ↔
      ∀ path ∈ paths, FileHandled rendering safeLoad readFile path := by
  refine ⟨rfl, ?_⟩
  intro paths
  constructor
  · rintro ⟨final, hfinal, _⟩
    by_contra hescapes
    push Not at hescapes
    obtain ⟨path, hmem, hpath⟩ := hescapes
    obtain ⟨err, herr⟩ := @registerAll_escapes rendering safeLoad readFile
      (paths.mergeSort fun path other => path ≤ other) models
      ⟨path, List.mem_mergeSort.mpr hmem, hpath⟩
    cases hfinal.symm.trans herr
  · intro hhandled
    exact registerAll_handled fun path hmem => hhandled path (List.mem_mergeSort.mp hmem)

/-- A directory with a file that breaks off in the middle of a list, one that is empty
and one that is valid. -/
def manifestFile (path : String) : Except PyException String :=
  .ok (if path = "a.yaml" then "name: [" else if path = "b.yaml" then "" else "name: m")

def manifestDocument (text : String) : Except PyException YamlValue :=
  if text = "name: [" then .error (.yamlError "while parsing a flow node")
  else if text = "" then .ok .null
  else .ok (.map (manifestEntries (.str "m") (.str "c")))

/-- Startup fails at a malformed file and at an empty one, and the valid file after them
is not registered. -/
theorem startup_registration_counterexample :
    registerExistingManifests defaultRendering manifestDocument manifestFile Dict.empty
        (some ["a.yaml", "c.yaml"]) = .error (.yamlError "while parsing a flow node") ∧
      registerExistingManifests defaultRendering manifestDocument manifestFile Dict.empty
          (some ["b.yaml", "c.yaml"]) =
        .error (.typeError "argument of type 'NoneType' is not iterable") ∧
      (manifestAt defaultRendering manifestDocument manifestFile (.str "m") "c.yaml").isSome := by
  have hsorted : (["a.yaml", "c.yaml"].mergeSort fun path other => path ≤ other) =
      ["a.yaml", "c.yaml"] :=
    List.mergeSort_of_pairwise (by decide)
  have hsorted' : (["b.yaml", "c.yaml"].mergeSort fun path other => path ≤ other) =
      ["b.yaml", "c.yaml"] :=
    List.mergeSort_of_pairwise (by decide)
  refine ⟨?_, ?_, rfl⟩
  · dsimp only [registerExistingManifests]
    rw [hsorted]
    rfl
  · dsimp only [registerExistingManifests]
    rw [hsorted']
    rfl

end PiSSM.Pipeline
