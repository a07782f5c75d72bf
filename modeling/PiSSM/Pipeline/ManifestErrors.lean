import PiSSM.Lib.Checks
import PiSSM.Orchestrator.ModelSubmissions

/-!
What the manifest validator makes of arbitrary YAML values. Its checks are membership
tests and comparisons on untyped values, so it is the type of a value that decides
whether a check passes, refuses the manifest or raises something else.
-/

namespace PiSSM.Pipeline

open PiSSM.Lib PiSSM.Inference PiSSM.Orchestrator

/-- The exception the validator is documented to raise. -/
def IsManifestError : PyException → Prop
  | .manifestError _ => True
  | _ => False

/-- Exceptions among which are those a failed check raises, and not those a value of the
wrong type does. -/
structure Refusal (refusal : PyException → Prop) : Prop where
  manifestError : ∀ message, refusal (.manifestError message)
  typeError : ∀ message, ¬ refusal (.typeError message)

theorem isManifestError_refusal : Refusal IsManifestError :=
  ⟨fun _ => trivial, fun _ => id⟩

/-- The mapping comes as far as the check of the name. -/
structure ReachesName (entries : List (YamlScalar × YamlValue)) : Prop where
  present : ∀ field ∈ requiredFields, (YamlValue.lookup field entries).isSome
  arch : (YamlValue.lookup "arch" entries).any (isSupported supportedArchitectures) = true
  inputType : (YamlValue.lookup "input_type" entries).any (isSupported supportedInputTypes) = true
  sizes : ∀ field ∈ sizeFields, (YamlValue.lookup field entries).any isPositiveInt = true

/-- The value has a blank in it, or is a container that has the blank as an item. -/
def HoldsBlank (value : YamlValue) : Prop :=
  value.contains " " = .ok true

/-- The name is of a type that can be searched for a blank, and has none. -/
def FreeOfBlanks (value : YamlValue) : Prop :=
  value.contains " " = .ok false

/-- The value of the field, when it does not pass. -/
def failing (entries : List (YamlScalar × YamlValue)) (field : String)
    (passes : YamlValue → Bool) : Option YamlValue :=
  (YamlValue.lookup field entries).filter fun value => !passes value

/-- The first value that fails its check, of those checked before the name. -/
def rejected (entries : List (YamlScalar × YamlValue)) : Option YamlValue :=
  (failing entries "arch" (isSupported supportedArchitectures)).or
    ((failing entries "input_type" (isSupported supportedInputTypes)).or
      (sizeFields.findSome? fun field => failing entries field isPositiveInt))

/-- `str` gives a text of the value, or raises an exception of this kind. -/
def Shown (rendering : Rendering) (refusal : PyException → Prop) (value : YamlValue) : Prop :=
  ∀ err, strOf rendering value = .error err → refusal err

/-- If it is for a value that the mapping is refused, the value can be shown. -/
def RejectionShown (rendering : Rendering) (refusal : PyException → Prop)
    (entries : List (YamlScalar × YamlValue)) : Prop :=
  (∀ field ∈ requiredFields, (YamlValue.lookup field entries).isSome) →
    ∀ value ∈ rejected entries, Shown rendering refusal value

/-- The dataclass a mapping is turned into. -/
def recordOf (entries : List (YamlScalar × YamlValue)) : LoadedManifest where
  name := (YamlValue.lookup "name" entries).getD .null
  arch := (YamlValue.lookup "arch" entries).getD .null
  checkpoint := (YamlValue.lookup "checkpoint" entries).getD .null
  layers := (YamlValue.lookup "layers" entries).getD .null
  hiddenDim := (YamlValue.lookup "hidden_dim" entries).getD .null
  stateDim := (YamlValue.lookup "state_dim" entries).getD .null
  inputType := (YamlValue.lookup "input_type" entries).getD .null
  tokenizer := (YamlValue.lookup "tokenizer" entries).getD .null

section

variable {rendering : Rendering} {refusal : PyException → Prop}

theorem subscript_map {entries : List (YamlScalar × YamlValue)} {field : String}
    (hpresent : (YamlValue.lookup field entries).isSome) :
    subscript (.map entries) field = .ok ((YamlValue.lookup field entries).getD .null) := by
  obtain ⟨value, hvalue⟩ := Option.isSome_iff_exists.mp hpresent
  simp only [subscript, hvalue, Option.getD_some]

theorem any_eq_getD {found : Option YamlValue} {test : YamlValue → Bool}
    (hpresent : found.isSome) : found.any test = test (found.getD .null) := by
  obtain ⟨value, rfl⟩ := Option.isSome_iff_exists.mp hpresent
  rfl

theorem failing_eq_none {entries : List (YamlScalar × YamlValue)} {field : String}
    {passes : YamlValue → Bool} (hpresent : (YamlValue.lookup field entries).isSome) :
    failing entries field passes = none ↔
      (YamlValue.lookup field entries).any passes = true := by
  obtain ⟨value, hvalue⟩ := Option.isSome_iff_exists.mp hpresent
  simp [failing, hvalue, Option.filter_eq_none_iff]

theorem reachesName_iff {entries : List (YamlScalar × YamlValue)}
    (hpresent : ∀ field ∈ requiredFields, (YamlValue.lookup field entries).isSome) :
    ReachesName entries ↔ rejected entries = none := by
  have hsub : ∀ field ∈ sizeFields, field ∈ requiredFields := by decide
  unfold rejected
  rw [Option.or_eq_none_iff, Option.or_eq_none_iff, List.findSome?_eq_none_iff,
    failing_eq_none (hpresent "arch" (by decide)),
    failing_eq_none (hpresent "input_type" (by decide))]
  constructor
  · intro hreaches
    refine ⟨hreaches.arch, hreaches.inputType, ?_⟩
    intro field hfield
    exact (failing_eq_none (hpresent field (hsub field hfield))).mpr (hreaches.sizes field hfield)
  · rintro ⟨harch, hinput, hsizes⟩
    refine ⟨hpresent, harch, hinput, ?_⟩
    intro field hfield
    exact (failing_eq_none (hpresent field (hsub field hfield))).mp (hsizes field hfield)

/-- A container is asked for a field. -/
theorem checkPresent_checks (hrefusal : Refusal refusal) {data : YamlValue} {field : String}
    {present : String → Bool} (hcontains : data.contains field = .ok (present field)) :
    Checks refusal (fun _ => True) (checkPresent data field)
      ((some field).filter fun field => !present field) := by
  have hcheck : checkPresent data field =
      (unless present field do throw (.manifestError s!"Missing required field: {field}")) := by
    unfold checkPresent memberOf
    rw [hcontains]
    rfl
  rw [hcheck]
  exact .guard (hrefusal.manifestError _) trivial

/-- The fields that a container lacks. -/
theorem missing_eq_none {present : String → Bool} :
    (requiredFields.findSome? fun field => (some field).filter fun field => !present field) =
        none ↔
      ∀ field ∈ requiredFields, present field = true := by
  rw [List.findSome?_eq_none_iff]
  simp [Option.filter_eq_none_iff]

theorem checkSupported_checks (hrefusal : Refusal refusal)
    {entries : List (YamlScalar × YamlValue)} {field : String}
    (hpresent : (YamlValue.lookup field entries).isSome) (supported : List String) :
    Checks refusal (Shown rendering refusal)
      (checkSupported rendering (.map entries) field supported)
      (failing entries field (isSupported supported)) := by
  unfold checkSupported failing
  rw [subscript_map hpresent]
  obtain ⟨value, hvalue⟩ := Option.isSome_iff_exists.mp hpresent
  rw [hvalue]
  exact .guard_bind (fun text => hrefusal.manifestError _) .rfl

theorem checkPositive_checks (hrefusal : Refusal refusal)
    {entries : List (YamlScalar × YamlValue)} {field : String}
    (hpresent : (YamlValue.lookup field entries).isSome) :
    Checks refusal (Shown rendering refusal) (checkPositive rendering (.map entries) field)
      (failing entries field isPositiveInt) := by
  unfold checkPositive failing
  rw [subscript_map hpresent]
  obtain ⟨value, hvalue⟩ := Option.isSome_iff_exists.mp hpresent
  rw [hvalue]
  exact .guard_bind (fun text => hrefusal.manifestError _) .rfl

theorem manifestFromDict_eq (data : YamlValue) :
    manifestFromDict rendering data = (do
      requiredFields.forM (checkPresent data)
      checkSupported rendering data "arch" supportedArchitectures
      checkSupported rendering data "input_type" supportedInputTypes
      sizeFields.forM (checkPositive rendering data)
      checkName rendering data
      buildManifest data) := by
  simp only [manifestFromDict, validateManifest, bind_assoc]

theorem buildManifest_map {entries : List (YamlScalar × YamlValue)}
    (hpresent : ∀ field ∈ requiredFields, (YamlValue.lookup field entries).isSome) :
    buildManifest (.map entries) = .ok (recordOf entries) := by
  have hget (field : String) (hfield : field ∈ requiredFields) :=
    subscript_map (hpresent field hfield)
  unfold buildManifest
  rw [hget "name" (by decide), hget "arch" (by decide), hget "checkpoint" (by decide),
    hget "layers" (by decide), hget "hidden_dim" (by decide), hget "state_dim" (by decide),
    hget "input_type" (by decide), hget "tokenizer" (by decide)]
  rfl

/-- The check of the name and what follows it. -/
theorem settles_checkName (hrefusal : Refusal refusal) {good : LoadedManifest → Prop}
    {entries : List (YamlScalar × YamlValue)}
    (hpresent : ∀ field ∈ requiredFields, (YamlValue.lookup field entries).isSome) :
    Settles refusal good
        (checkName rendering (.map entries) >>= fun _ => buildManifest (.map entries)) ↔
      HoldsBlank (recordOf entries).name ∧ Shown rendering refusal (recordOf entries).name ∨
        FreeOfBlanks (recordOf entries).name ∧ good (recordOf entries) := by
  have hname : subscript (.map entries) "name" = .ok (recordOf entries).name :=
    subscript_map (hpresent "name" (by decide))
  unfold checkName HoldsBlank FreeOfBlanks memberOf Shown
  rw [hname, buildManifest_map hpresent]
  simp only [bind, Except.bind]
  cases hcontains : (recordOf entries).name.contains " " with
  | error message =>
      refine iff_of_false (hrefusal.typeError message) ?_
      rintro (⟨hblank, _⟩ | ⟨hfree, _⟩)
      · cases hblank
      · cases hfree
  | ok blank =>
      cases blank with
      | true =>
          cases strOf rendering (recordOf entries).name with
          | error err =>
              constructor
              · intro hrefused
                refine .inl ⟨rfl, ?_⟩
                rintro _ ⟨⟩
                exact hrefused
              · rintro (⟨_, hshown⟩ | ⟨hfree, _⟩)
                · exact hshown err rfl
                · cases hfree
          | ok text => exact iff_of_true (hrefusal.manifestError _) (.inl ⟨rfl, nofun⟩)
      | false =>
          constructor
          · intro hgood
            exact .inr ⟨rfl, hgood⟩
          · rintro (⟨hblank, _⟩ | ⟨_, hgood⟩)
            · cases hblank
            · exact hgood

/-- What a value must be for the validator to refuse it or to let it become a good
manifest. -/
def Deals (rendering : Rendering) (refusal : PyException → Prop)
    (good : LoadedManifest → Prop) : YamlValue → Prop
  | .map entries =>
      (ReachesName entries →
        HoldsBlank (recordOf entries).name ∧ Shown rendering refusal (recordOf entries).name ∨
          FreeOfBlanks (recordOf entries).name ∧ good (recordOf entries)) ∧
        RejectionShown rendering refusal entries
  | data => ∃ field ∈ requiredFields, data.contains field = .ok false

/-- The checks of values, in their order. -/
theorem valueChecks (hrefusal : Refusal refusal) {entries : List (YamlScalar × YamlValue)}
    (hpresent : ∀ field ∈ requiredFields, (YamlValue.lookup field entries).isSome) :
    Checks refusal (Shown rendering refusal)
      (checkSupported rendering (.map entries) "arch" supportedArchitectures >>= fun _ =>
        checkSupported rendering (.map entries) "input_type" supportedInputTypes >>= fun _ =>
          sizeFields.forM (checkPositive rendering (.map entries)))
      (rejected entries) := by
  have hsub : ∀ field ∈ sizeFields, field ∈ requiredFields := by decide
  refine (checkSupported_checks hrefusal (hpresent "arch" (by decide)) _).append ?_
  refine (checkSupported_checks hrefusal (hpresent "input_type" (by decide)) _).append ?_
  exact .forM fun field hfield => checkPositive_checks hrefusal (hpresent field (hsub field hfield))

theorem settles_map (hrefusal : Refusal refusal) (good : LoadedManifest → Prop)
    (entries : List (YamlScalar × YamlValue)) :
    Settles refusal good (manifestFromDict rendering (.map entries)) ↔
      Deals rendering refusal good (.map entries) := by
  have hpresence : Checks refusal (fun _ => True)
      (requiredFields.forM (checkPresent (.map entries)))
      (requiredFields.findSome? fun field => (some field).filter fun field =>
        !(YamlValue.lookup field entries).isSome) :=
    .forM fun field _ => checkPresent_checks hrefusal rfl
  have hrest (hpresent : ∀ field ∈ requiredFields, (YamlValue.lookup field entries).isSome) :
      Settles refusal good (do
          checkSupported rendering (.map entries) "arch" supportedArchitectures
          checkSupported rendering (.map entries) "input_type" supportedInputTypes
          sizeFields.forM (checkPositive rendering (.map entries))
          checkName rendering (.map entries)
          buildManifest (.map entries)) ↔
        (ReachesName entries →
          HoldsBlank (recordOf entries).name ∧ Shown rendering refusal (recordOf entries).name ∨
            FreeOfBlanks (recordOf entries).name ∧ good (recordOf entries)) ∧
          ∀ value ∈ rejected entries, Shown rendering refusal value := by
    rw [reachesName_iff hpresent, ← settles_checkName hrefusal hpresent,
      ← (valueChecks hrefusal hpresent).settles_bind]
    simp only [bind_assoc]
  rw [manifestFromDict_eq, hpresence.settles_bind, missing_eq_none]
  constructor
  · rintro ⟨hsettles, _⟩
    refine ⟨?_, ?_⟩
    · intro hreaches
      exact ((hrest hreaches.present).mp (hsettles hreaches.present)).1 hreaches
    · intro hpresent
      exact ((hrest hpresent).mp (hsettles hpresent)).2
  · rintro ⟨hdeals, hshown⟩
    refine ⟨?_, fun _ _ => trivial⟩
    intro hpresent
    exact (hrest hpresent).mpr ⟨hdeals, hshown hpresent⟩

/-- A container that is no mapping has no field to read. -/
theorem settles_container (hrefusal : Refusal refusal) {good : LoadedManifest → Prop}
    {data : YamlValue} {present : String → Bool} {err : PyException}
    (hcontains : ∀ field, data.contains field = .ok (present field))
    (hsubscript : subscript data "arch" = .error err) (herr : ¬ refusal err) :
    Settles refusal good (manifestFromDict rendering data) ↔
      ∃ field ∈ requiredFields, data.contains field = .ok false := by
  have hpresence : Checks refusal (fun _ => True) (requiredFields.forM (checkPresent data))
      (requiredFields.findSome? fun field => (some field).filter fun field =>
        !present field) :=
    .forM fun field _ => checkPresent_checks hrefusal (hcontains field)
  have hrest (next : Except PyException LoadedManifest) :
      ¬ Settles refusal good (do
        checkSupported rendering data "arch" supportedArchitectures
        next) := by
    unfold checkSupported
    rw [hsubscript]
    exact herr
  rw [manifestFromDict_eq, hpresence.settles_bind, missing_eq_none]
  simp only [hrest, hcontains, imp_false, not_forall, Bool.not_eq_true, Except.ok.injEq,
    exists_prop, implies_true, and_true]

/-- A value that cannot be searched raises at the first field. -/
theorem settles_scalar (hrefusal : Refusal refusal) {good : LoadedManifest → Prop}
    {data : YamlValue} {message : String}
    (hcontains : ∀ field, data.contains field = .error message) :
    Settles refusal good (manifestFromDict rendering data) ↔
      ∃ field ∈ requiredFields, data.contains field = .ok false := by
  have hfirst : checkPresent data "name" = .error (.typeError message) := by
    unfold checkPresent memberOf
    rw [hcontains]
    rfl
  have hraises : manifestFromDict rendering data = .error (.typeError message) := by
    rw [manifestFromDict_eq]
    unfold requiredFields List.forM
    rw [hfirst]
    rfl
  rw [hraises]
  refine iff_of_false (hrefusal.typeError message) ?_
  rintro ⟨field, _, hfield⟩
  rw [hcontains] at hfield
  cases hfield

theorem settles_manifestFromDict (hrefusal : Refusal refusal) (good : LoadedManifest → Prop)
    (data : YamlValue) :
    Settles refusal good (manifestFromDict rendering data) ↔
      Deals rendering refusal good data := by
  cases data with
  | map entries => exact settles_map hrefusal good entries
  | seq items => exact settles_container hrefusal (fun _ => rfl) rfl (hrefusal.typeError _)
  | pairs entries => exact settles_container hrefusal (fun _ => rfl) rfl (hrefusal.typeError _)
  | set members => exact settles_container hrefusal (fun _ => rfl) rfl (hrefusal.typeError _)
  | scalar value =>
      cases value with
      | str text => exact settles_container hrefusal (fun _ => rfl) rfl (hrefusal.typeError _)
      | null => exact settles_scalar hrefusal fun _ => rfl
      | bool value => exact settles_scalar hrefusal fun _ => rfl
      | int value => exact settles_scalar hrefusal fun _ => rfl
      | float value => exact settles_scalar hrefusal fun _ => rfl
      | bytes value => exact settles_scalar hrefusal fun _ => rfl
      | date text repr => exact settles_scalar hrefusal fun _ => rfl
      | datetime text repr => exact settles_scalar hrefusal fun _ => rfl

end

theorem isSupported_iff {supported : List String} {value : YamlValue} :
    isSupported supported value = true ↔ ∃ text ∈ supported, value = .str text := by
  unfold isSupported
  rw [List.any_eq_true]
  apply exists_congr
  intro text
  apply and_congr_right
  intro _
  cases value with
  | scalar value => simp [YamlValue.isStr]
  | seq items => simp [YamlValue.isStr]
  | pairs entries => simp [YamlValue.isStr]
  | map entries => simp [YamlValue.isStr]
  | set members => simp [YamlValue.isStr]

theorem isInteger_iff {boolIsInt : Bool} {value : YamlValue}
    (hpositive : isPositiveInt value = true) :
    (∃ n, IsInteger boolIsInt value n ∧ 1 ≤ n) ↔ boolIsInt = true ∨ value ≠ .bool true := by
  constructor
  · rintro ⟨n, rfl | ⟨hbool, _⟩, _⟩
    · exact .inr nofun
    · exact .inl hbool
  · intro htyped
    unfold isPositiveInt at hpositive
    split at hpositive
    · next value =>
        have hpos := of_decide_eq_true hpositive
        refine ⟨value.toNat, .inl ?_, ?_⟩
        · rw [Int.toNat_of_nonneg hpos.le]
        · omega
    · next value =>
        subst hpositive
        refine ⟨1, .inr ⟨?_, rfl, rfl⟩, le_refl 1⟩
        exact htyped.resolve_right fun hne => hne rfl
    · cases hpositive

theorem contains_blank (text : String) :
    (YamlValue.str text).contains " " = .ok (decide (' ' ∈ text.toList)) := by
  have hinside : " ".toList <:+: text.toList ↔ ' ' ∈ text.toList :=
    List.singleton_infix_iff ' ' text.toList
  unfold YamlValue.contains
  simp only [hinside]

/-- The fields whose type no check looks at have the declared one, and no size is a
`bool` unless that counts as an integer. -/
structure TypedFields (boolIsInt : Bool) (entries : List (YamlScalar × YamlValue)) : Prop where
  texts : ∀ field ∈ ["name", "checkpoint", "tokenizer"],
    ∃ text, YamlValue.lookup field entries = some (.str text)
  sizes : boolIsInt = true ∨
    ∀ field ∈ sizeFields, YamlValue.lookup field entries ≠ some (.bool true)

/-- The values for which the validator keeps to its documentation. -/
def Handled (rendering : Rendering) (boolIsInt : Bool) : YamlValue → Prop
  | .map entries =>
      (ReachesName entries →
        (∃ name ∈ YamlValue.lookup "name" entries,
          HoldsBlank name ∧ Shown rendering IsManifestError name) ∨
          TypedFields boolIsInt entries) ∧
        RejectionShown rendering IsManifestError entries
  | data => ∃ field ∈ requiredFields, data.contains field = .ok false

theorem lookup_eq_getD {entries : List (YamlScalar × YamlValue)} {field : String}
    (hpresent : (YamlValue.lookup field entries).isSome) :
    YamlValue.lookup field entries = some ((YamlValue.lookup field entries).getD .null) := by
  obtain ⟨value, hvalue⟩ := Option.isSome_iff_exists.mp hpresent
  rw [hvalue, Option.getD_some]

/-- A size that passes its check, as the record has it. -/
theorem ReachesName.size_iff {entries : List (YamlScalar × YamlValue)} {field : String}
    (hreaches : ReachesName entries) (hfield : field ∈ sizeFields) (boolIsInt : Bool) :
    (∃ n, IsInteger boolIsInt ((YamlValue.lookup field entries).getD .null) n ∧ 1 ≤ n) ↔
      boolIsInt = true ∨ YamlValue.lookup field entries ≠ some (.bool true) := by
  have hsub : ∀ field ∈ sizeFields, field ∈ requiredFields := by decide
  have hpresent := hreaches.present field (hsub field hfield)
  have hpositive := hreaches.sizes field hfield
  rw [any_eq_getD hpresent] at hpositive
  rw [isInteger_iff hpositive, lookup_eq_getD hpresent, Option.getD_some, ne_eq, ne_eq,
    Option.some_inj]

/-- What the checks leave open about a manifest that passes them. -/
theorem wellTyped_recordOf {entries : List (YamlScalar × YamlValue)} {boolIsInt : Bool}
    (hreaches : ReachesName entries) (hfree : FreeOfBlanks (recordOf entries).name) :
    (recordOf entries).WellTyped boolIsInt ↔ TypedFields boolIsInt entries := by
  have hlookup (field : String) (hfield : field ∈ requiredFields) :=
    lookup_eq_getD (hreaches.present field hfield)
  constructor
  · rintro ⟨manifest, hrep, hvalid⟩
    refine ⟨?_, ?_⟩
    · intro field hfield
      simp only [List.mem_cons, List.not_mem_nil, or_false] at hfield
      rcases hfield with rfl | rfl | rfl
      · exact ⟨_, (hlookup "name" (by decide)).trans (congrArg some hrep.name)⟩
      · exact ⟨_, (hlookup "checkpoint" (by decide)).trans (congrArg some hrep.checkpoint)⟩
      · exact ⟨_, (hlookup "tokenizer" (by decide)).trans (congrArg some hrep.tokenizer)⟩
    · rw [or_iff_not_imp_left]
      intro hbool field hfield
      have hsize := (hreaches.size_iff hfield boolIsInt).mp
      simp only [sizeFields, List.mem_cons, List.not_mem_nil, or_false] at hfield
      rcases hfield with rfl | rfl | rfl
      · exact (hsize ⟨_, hrep.layers, hvalid.layers⟩).resolve_left hbool
      · exact (hsize ⟨_, hrep.hiddenDim, hvalid.hiddenDim⟩).resolve_left hbool
      · exact (hsize ⟨_, hrep.stateDim, hvalid.stateDim⟩).resolve_left hbool
  · intro htyped
    have hsupported (field : String) (hfield : field ∈ requiredFields) (supported : List String)
        (hany : (YamlValue.lookup field entries).any (isSupported supported) = true) :
        ∃ text ∈ supported, (YamlValue.lookup field entries).getD .null = .str text := by
      rw [any_eq_getD (hreaches.present field hfield)] at hany
      exact isSupported_iff.mp hany
    have hsize (field : String) (hfield : field ∈ sizeFields) :=
      (hreaches.size_iff hfield boolIsInt).mpr
        (htyped.sizes.imp_right fun hsizes => hsizes field hfield)
    have htext (field : String) (hfield : field ∈ ["name", "checkpoint", "tokenizer"]) :
        ∃ text, (YamlValue.lookup field entries).getD .null = .str text := by
      obtain ⟨text, htext⟩ := htyped.texts field hfield
      rw [htext]
      exact ⟨text, rfl⟩
    obtain ⟨name, hname⟩ := htext "name" (by decide)
    obtain ⟨checkpoint, hcheckpoint⟩ := htext "checkpoint" (by decide)
    obtain ⟨tokenizer, htokenizer⟩ := htext "tokenizer" (by decide)
    obtain ⟨arch, harchMem, harch⟩ := hsupported "arch" (by decide) _ hreaches.arch
    obtain ⟨inputType, hinputMem, hinput⟩ :=
      hsupported "input_type" (by decide) _ hreaches.inputType
    obtain ⟨layers, hlayers, hlayersPos⟩ := hsize "layers" (by decide)
    obtain ⟨hiddenDim, hhidden, hhiddenPos⟩ := hsize "hidden_dim" (by decide)
    obtain ⟨stateDim, hstate, hstatePos⟩ := hsize "state_dim" (by decide)
    have hblank : ' ' ∉ name.toList := by
      have hcontains : (recordOf entries).name = .str name := hname
      unfold FreeOfBlanks at hfree
      rw [hcontains, contains_blank] at hfree
      exact of_decide_eq_false (Except.ok.inj hfree)
    exact ⟨⟨name, arch, checkpoint, layers, hiddenDim, stateDim, inputType, tokenizer⟩,
      ⟨hname, harch, hcheckpoint, hlayers, hhidden, hstate, hinput, htokenizer⟩,
      ⟨hblank, harchMem, hinputMem, hlayersPos, hhiddenPos, hstatePos⟩⟩

theorem shown_str (rendering : Rendering) (refusal : PyException → Prop) (text : String) :
    Shown rendering refusal (.str text) := nofun

/-- A string is searched for a blank in any case. -/
theorem str_searched (text : String) : HoldsBlank (.str text) ∨ FreeOfBlanks (.str text) := by
  unfold HoldsBlank FreeOfBlanks
  rw [contains_blank]
  by_cases hblank : ' ' ∈ text.toList
  · exact .inl (congrArg Except.ok (decide_eq_true hblank))
  · exact .inr (congrArg Except.ok (decide_eq_false hblank))

theorem TypedFields.name_str {entries : List (YamlScalar × YamlValue)} {boolIsInt : Bool}
    (htyped : TypedFields boolIsInt entries) : ∃ text, (recordOf entries).name = .str text := by
  obtain ⟨text, htext⟩ := htyped.texts "name" (by decide)
  refine ⟨text, ?_⟩
  unfold recordOf
  rw [htext]
  rfl

theorem ReachesName.name_iff {entries : List (YamlScalar × YamlValue)}
    (hreaches : ReachesName entries) (p : YamlValue → Prop) :
    (∃ name ∈ YamlValue.lookup "name" entries, p name) ↔ p (recordOf entries).name := by
  have hlookup := lookup_eq_getD (hreaches.present "name" (by decide))
  rw [hlookup]
  simp only [Option.mem_some_iff, exists_eq_left']
  rfl

theorem deals_wellTyped_iff {rendering : Rendering} {boolIsInt : Bool} {data : YamlValue} :
    Deals rendering IsManifestError (LoadedManifest.WellTyped boolIsInt) data ↔
      Handled rendering boolIsInt data := by
  cases data with
  | map entries =>
      apply and_congr_left'
      apply imp_congr_right
      intro hreaches
      rw [hreaches.name_iff fun name => HoldsBlank name ∧ Shown rendering IsManifestError name]
      constructor
      · rintro (hblank | ⟨hfree, hgood⟩)
        · exact .inl hblank
        · exact .inr ((wellTyped_recordOf hreaches hfree).mp hgood)
      · rintro (hblank | htyped)
        · exact .inl hblank
        · obtain ⟨text, htext⟩ := htyped.name_str
          rcases str_searched text with hblank | hfree
          · rw [← htext] at hblank
            exact .inl ⟨hblank, htext ▸ shown_str _ _ text⟩
          · rw [← htext] at hfree
            exact .inr ⟨hfree, (wellTyped_recordOf hreaches hfree).mpr htyped⟩
  | scalar value => exact .rfl
  | seq items => exact .rfl
  | pairs entries => exact .rfl
  | set members => exact .rfl

/-- A submission is answered with 400 or 409, or a manifest of the declared types is
created. -/
def SubmitSettles (boolIsInt : Bool) :
    Except PyException (SubmitResponse × ManifestTable) → Prop
  | .ok (.created manifest, _) => manifest.WellTyped boolIsInt
  | .ok (.httpException statusCode _, _) => statusCode = 400 ∨ statusCode = 409
  | .error _ => False

/-- The name is taken, so that the manifest is not returned. -/
def NameTaken (models : ManifestTable) (entries : List (YamlScalar × YamlValue)) : Prop :=
  ∃ name, YamlValue.lookup "name" entries = some (.str name) ∧ models.contains (.str name) = true

/-- The submissions that are answered as documented. -/
def HandledSubmission (rendering : Rendering) (boolIsInt : Bool) (models : ManifestTable) :
    YamlValue → Prop
  | .map entries =>
      Handled rendering boolIsInt (.map entries) ∨
        NameTaken models entries ∧ RejectionShown rendering IsManifestError entries
  | _ => True

section

variable {rendering : Rendering} {safeLoad : String → Except PyException YamlValue}

/-- A scalar has no depth, so that what `str` raises for it is a `ValueError`. -/
theorem shown_scalar (name : YamlScalar) :
    Shown rendering (fun err => ∃ message, err = .valueError message) (.scalar name) := by
  intro err herr
  cases name with
  | int value =>
      simp only [strOf, YamlValue.text, YamlScalar.text, YamlScalar.repr] at herr
      split_ifs at herr with hdigits
      · cases herr
        exact ⟨_, rfl⟩
      · cases herr
  | bool value => cases value <;> cases herr
  | _ => cases herr

/-- A taken name is refused, whether or not its text can be given. -/
theorem register_scalar {models : ManifestTable} {manifest : LoadedManifest} {name : YamlScalar}
    (hname : manifest.name = .scalar name) :
    (models.contains name = true →
        ∃ message, models.register rendering manifest = .error (.valueError message)) ∧
      (¬ models.contains name = true →
        models.register rendering manifest = .ok (models.set name manifest)) := by
  simp only [ManifestTable.register, hname]
  constructor
  · intro htaken
    rw [if_pos htaken]
    cases htext : strOf rendering (.scalar name) with
    | error err =>
        obtain ⟨message, rfl⟩ := shown_scalar name err htext
        exact ⟨message, rfl⟩
    | ok text => exact ⟨_, rfl⟩
  · intro hfresh
    rw [if_neg hfresh]
    rfl

/-- A mapping is answered as far as its manifest goes, and then by the registry. -/
theorem submitModel_map {boolIsInt : Bool} {models : ManifestTable} {text : String}
    {entries : List (YamlScalar × YamlValue)} (hload : safeLoad text = .ok (.map entries)) :
    SubmitSettles boolIsInt (submitModel rendering safeLoad models text) ↔
      Settles IsManifestError
        (fun manifest => ∃ name, manifest.name = .scalar name ∧
          (models.contains name = true ∨ manifest.WellTyped boolIsInt))
        (manifestFromDict rendering (.map entries)) := by
  unfold submitModel
  simp only [hload]
  cases hmanifest : manifestFromDict rendering (.map entries) with
  | error err =>
      cases err with
      | manifestError message => exact iff_of_true (.inl rfl) trivial
      | _ => exact .rfl
  | ok manifest =>
      simp only [Settles]
      cases hname : manifest.name with
      | scalar name =>
          obtain ⟨hrefused, hadded⟩ := @register_scalar rendering models manifest name hname
          by_cases htaken : models.contains name = true
          · obtain ⟨message, hregister⟩ := hrefused htaken
            simp [hregister, htaken, SubmitSettles]
          · simp [hadded htaken, htaken, SubmitSettles]
      | seq items => simp [ManifestTable.register, hname, SubmitSettles]
      | pairs entries => simp [ManifestTable.register, hname, SubmitSettles]
      | map entries => simp [ManifestTable.register, hname, SubmitSettles]
      | set members => simp [ManifestTable.register, hname, SubmitSettles]

theorem ReachesName.nameTaken_iff {entries : List (YamlScalar × YamlValue)}
    {models : ManifestTable} (hreaches : ReachesName entries) :
    NameTaken models entries ↔ ∃ name, (recordOf entries).name = .str name ∧
      models.contains (.str name) = true := by
  have hlookup := lookup_eq_getD (hreaches.present "name" (by decide))
  unfold NameTaken
  rw [hlookup]
  simp only [Option.some_inj]
  rfl

/-- A scalar that is searched for a blank is a string. -/
theorem FreeOfBlanks.eq_str {name : YamlScalar} (hfree : FreeOfBlanks (.scalar name)) :
    ∃ text, name = .str text := by
  cases name with
  | str text => exact ⟨text, rfl⟩
  | _ => cases hfree

theorem submitModel_settles_iff {boolIsInt : Bool} {models : ManifestTable} {text : String}
    {data : YamlValue} (hload : safeLoad text = .ok data) :
    SubmitSettles boolIsInt (submitModel rendering safeLoad models text) ↔
      HandledSubmission rendering boolIsInt models data := by
  cases data with
  | map entries =>
      rw [submitModel_map hload, settles_manifestFromDict isManifestError_refusal]
      change Deals _ _ _ _ ↔ Handled rendering boolIsInt (.map entries) ∨
        NameTaken models entries ∧ RejectionShown rendering IsManifestError entries
      rw [← deals_wellTyped_iff]
      constructor
      · rintro ⟨hdeals, hshown⟩
        rw [or_iff_not_imp_right]
        intro hfresh
        refine ⟨?_, hshown⟩
        intro hreaches
        rcases hdeals hreaches with hblank | ⟨hfree, name, hname, hgood⟩
        · exact .inl hblank
        · refine .inr ⟨hfree, hgood.resolve_left ?_⟩
          intro hcontains
          obtain ⟨text, rfl⟩ := FreeOfBlanks.eq_str (hname ▸ hfree)
          exact hfresh ⟨hreaches.nameTaken_iff.mpr ⟨text, hname, hcontains⟩, hshown⟩
      · rintro (⟨hdeals, hshown⟩ | ⟨htaken, hshown⟩)
        · refine ⟨?_, hshown⟩
          intro hreaches
          rcases hdeals hreaches with hblank | ⟨hfree, manifest, hrep, hvalid⟩
          · exact .inl hblank
          · exact .inr ⟨hfree, _, hrep.name, .inr ⟨manifest, hrep, hvalid⟩⟩
        · refine ⟨?_, hshown⟩
          intro hreaches
          obtain ⟨name, hname, hcontains⟩ := hreaches.nameTaken_iff.mp htaken
          rcases str_searched name with hblank | hfree
          · exact .inl ⟨hname ▸ hblank, hname ▸ shown_str _ _ name⟩
          · exact .inr ⟨hname ▸ hfree, _, hname, .inl hcontains⟩
  | _ =>
      refine iff_of_true ?_ trivial
      unfold submitModel
      rw [hload]
      exact .inl rfl

end

/-- The validator refuses a value or returns a manifest of the declared types exactly for
the values it handles, and so do the two ways a document comes to it. -/
theorem manifest_outcomes (rendering : Rendering) (boolIsInt : Bool) :
    (∀ data, Settles IsManifestError (LoadedManifest.WellTyped boolIsInt)
      (manifestFromDict rendering data) ↔ Handled rendering boolIsInt data) ∧
    (∀ readFile safeLoad path text data, readFile path = .ok text → safeLoad text = .ok data →
      (Settles IsManifestError (LoadedManifest.WellTyped boolIsInt)
        (loadManifest rendering readFile safeLoad path) ↔ Handled rendering boolIsInt data)) ∧
    ∀ safeLoad models text data, safeLoad text = .ok data →
      (SubmitSettles boolIsInt (submitModel rendering safeLoad models text) ↔
        HandledSubmission rendering boolIsInt models data) := by
  have hdict (data : YamlValue) : Settles IsManifestError (LoadedManifest.WellTyped boolIsInt)
      (manifestFromDict rendering data) ↔ Handled rendering boolIsInt data :=
    (settles_manifestFromDict isManifestError_refusal _ data).trans deals_wellTyped_iff
  refine ⟨hdict, ?_, ?_⟩
  · intro readFile safeLoad path text data hread hload
    have hmanifest : loadManifest rendering readFile safeLoad path =
        manifestFromDict rendering data := by
      unfold loadManifest
      rw [hread]
      simp only [hload]
      rfl
    rw [hmanifest]
    exact hdict data
  · intro safeLoad models text data hload
    exact submitModel_settles_iff hload

def manifestEntries (name checkpoint : YamlValue) : List (YamlScalar × YamlValue) :=
  [(.str "name", name), (.str "arch", .str "mamba"), (.str "checkpoint", checkpoint),
    (.str "layers", .int 5), (.str "hidden_dim", .int 8), (.str "state_dim", .int 16),
    (.str "input_type", .str "text"), (.str "tokenizer", .str "tokenizer")]

/-- The limits the interpreter starts with. -/
def defaultRendering : Rendering :=
  ⟨fun _ => true, 4300, 1000⟩

theorem manifest_outcomes_typed :
    Settles IsManifestError (LoadedManifest.WellTyped false)
      (manifestFromDict defaultRendering (.map (manifestEntries (.str "m") (.str "c")))) := by
  have hrejected : rejected (manifestEntries (.str "m") (.str "c")) = none := by decide
  refine ((manifest_outcomes defaultRendering false).1 _).mpr
    ⟨fun _ => .inr ⟨?_, .inr ?_⟩, fun _ value hvalue => ?_⟩
  · intro field hfield
    simp only [List.mem_cons, List.not_mem_nil, or_false] at hfield
    rcases hfield with rfl | rfl | rfl
    · exact ⟨"m", rfl⟩
    · exact ⟨"c", rfl⟩
    · exact ⟨"tokenizer", rfl⟩
  · intro field hfield hbool
    simp only [sizeFields, List.mem_cons, List.not_mem_nil, or_false] at hfield
    rcases hfield with rfl | rfl | rfl
    · cases hbool
    · cases hbool
    · cases hbool
  · rw [hrejected] at hvalue
    cases hvalue

/-- A value that cannot be shown escapes the validator that would refuse it. -/
example : manifestFromDict ⟨fun _ => true, 3, 1000⟩
    (.map ((.str "layers", .int (-1000)) :: manifestEntries (.str "m") (.str "c"))) =
      .error (.valueError ("Exceeds the limit (3 digits) for integer string conversion; " ++
        "use sys.set_int_max_str_digits() to increase the limit")) := by
  rfl

/-- A document whose name is a number. -/
def numberedManifest : String :=
  "name: 5\narch: mamba\ncheckpoint: c\nlayers: 5\nhidden_dim: 8\nstate_dim: 16\n" ++
    "input_type: text\ntokenizer: tokenizer\n"

/-- An empty document and a name that is a number raise a `TypeError`, the latter also
through the HTTP API, and a null checkpoint is let through. -/
theorem manifest_outcomes_counterexample :
    manifestFromDict defaultRendering .null =
        .error (.typeError "argument of type 'NoneType' is not iterable") ∧
      submitModel defaultRendering (fun _ => .ok (.map (manifestEntries (.int 5) (.str "c"))))
          Dict.empty numberedManifest =
        .error (.typeError "argument of type 'int' is not iterable") ∧
      ∃ loaded, manifestFromDict defaultRendering
          (.map (manifestEntries (.str "m") .null)) = .ok loaded ∧
        ¬ loaded.WellTyped true := by
  refine ⟨rfl, rfl, recordOf (manifestEntries (.str "m") .null), rfl, ?_⟩
  rintro ⟨manifest, hrep, _⟩
  have hcheckpoint := hrep.checkpoint
  cases hcheckpoint

end PiSSM.Pipeline
