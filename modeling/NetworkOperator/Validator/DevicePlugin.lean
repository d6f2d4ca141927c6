import NetworkOperator.Validator.Regex

/-!
# Validator — the device plugin configs

`validateSriovNetworkDevicePlugin`, `validateResourceNamePrefix` and
`validateRdmaSharedDevicePlugin` check a device plugin's `Config`, a JSON document in a string.
The JSON decoder and the loaded schemas are oracles (`JsonEnv`).  `json.Unmarshal` into a
`map[string]interface{}` accepts a JSON object, and also the literal `null`, which it decodes
to a nil map.  The type assertions of the loops, and `*dp.Config`, panic on the values they do
not fit.

* `validateRdmaSharedDevicePlugin_accepts_null`: the document `null` passes the RDMA check
  under a schema that accepts it, though it is not a JSON object.
* `devicePluginConfig_accepted_iff`: each check returns no error exactly when its config
  decodes into a map, the schemas it loads are there and accept it, and every entry of its
  list is valid, wherever an invalid entry stands.
-/

namespace NetworkOperator.Validator

open NetworkOperator.V1alpha1

/-- A value `json.Unmarshal` decodes into an `interface{}`.  An object is the
`map[string]interface{}` the decoder builds, one entry per key. -/
inductive JsonValue where
  | null
  | bool (b : Bool)
  | number (literal : String)
  | string (s : String)
  | array (items : List JsonValue)
  | object (fields : List (String × JsonValue))

/-- A decoded JSON object, a `map[string]interface{}`. -/
abbrev JsonObject := List (String × JsonValue)

/-- `m[key]` on a map that may be nil: the value, or nil (JSON `null` decodes to nil too). -/
def JsonObject.index (m : Option JsonObject) (key : String) : JsonValue :=
  ((m.getD []).lookup key).getD .null

/-- `v.(string)`. -/
def JsonValue.asString : JsonValue → Except Panic String
  | .string s => .ok s
  | _ => .error (.typeAssertion "string")

/-- `v.(map[string]interface{})`. -/
def JsonValue.asObject : JsonValue → Except Panic JsonObject
  | .object fields => .ok fields
  | _ => .error (.typeAssertion "map[string]interface {}")

/-- `items, _ := v.([]interface{})`: the items, or a nil slice. -/
def JsonValue.asArray : JsonValue → List JsonValue
  | .array items => items
  | _ => []

/-- The name `encoding/json` gives the kind of a value in an `UnmarshalTypeError`. -/
def JsonValue.kindName : JsonValue → String
  | .null => "null"
  | .bool _ => "bool"
  | .number _ => "number"
  | .string _ => "string"
  | .array _ => "array"
  | .object _ => "object"

/-- A loaded `gojsonschema.Schema`, as an oracle: `Validate` of a document, given as its text,
gives an error, or the descriptions of the result's errors, the result being `Valid()` when
there are none. -/
structure Schema where
  validate : String → Except String (List String)

/-- What the device plugin checks read from outside: the JSON decoder, which parses a text into
a value or fails with its error text; `json.Marshal` of a decoded object; and
`schemaValidators`, nil until `InitSchemaValidator` has loaded the schemas. -/
structure JsonEnv where
  parse : String → Except String JsonValue
  marshal : JsonObject → String
  schemaValidators : Option (GoMap String Schema)

/-- `json.Unmarshal` into a `map[string]interface{}`: the map (`none` for a nil map), or the
error. -/
def JsonEnv.unmarshalMap (env : JsonEnv) (s : String) : Except String (Option JsonObject) :=
  match env.parse s with
  | .error err => .error err
  | .ok .null => .ok none
  | .ok (.object fields) => .ok (some fields)
  | .ok v => .error ("json: cannot unmarshal " ++ v.kindName ++
      " into Go value of type map[string]interface {}")

/-- `schemaValidators.GetSchema(schemaName)`: a nil `schemaValidators` panics. -/
def JsonEnv.getSchema (env : JsonEnv) (schemaName : String) : Except Panic (Except String Schema) :=
  match env.schemaValidators with
  | none => .error .nilPointerDereference
  | some sv =>
    match sv.lookup schemaName with
    | some s => .ok (.ok s)
    | none => .ok (.error ("validation schema not found: " ++ schemaName))

/-- `field.Invalid(fldPath.Child("Config"), dp.Config, detail)`, the error every config check
reports. -/
def configError (fldPath : Path) (config : Option String) (detail : String) : FieldError :=
  invalid (fldPath.child "Config") (.config config) detail

/-- The errors of a schema's `Validate`: its error, or the descriptions of the result's errors. -/
def schemaErrors (fldPath : Path) (config : Option String) :
    Except String (List String) → List FieldError
  | .error err => [configError fldPath config err]
  | .ok descriptions => descriptions.map (configError fldPath config)

/-! ### SR-IOV network device plugin -/

/-- `validateResourceNamePrefix`: whether the resource's name, and its prefix if it has one, are
valid, with the error for the first that is not. -/
def validateResourceNamePrefix (resource : JsonObject) (allErrs : List FieldError) (fldPath : Path)
    (config : Option String) : Except Panic (Bool × List FieldError) :=
  match (JsonObject.index (some resource) "resourceName").asString with
  | .error p => .error p
  | .ok resourceName =>
    if !isValidSriovNetworkDevicePluginResourceName resourceName then
      .ok (false, allErrs ++ [configError fldPath config
        ("Invalid Resource name, it must consist of alphanumeric characters, '_' or '.', " ++
          "and must start and end with an alphanumeric character (e.g. 'MyName',  or 'my.name',  " ++
          "or '123_abc', regex used for validation is " ++ sriovResourceNameRegex)])
    else
      match resource.lookup "resourcePrefix" with
      | none => .ok (true, allErrs)
      | some resourcePrefix =>
        match resourcePrefix.asString with
        | .error p => .error p
        | .ok resourcePrefix =>
          if !isValidFQDN resourcePrefix then
            .ok (false, allErrs ++ [configError fldPath config
              ("Invalid Resource prefix, it must be a valid FQDN" ++
                "regex used for validation is " ++ fqdnRegex)])
          else .ok (true, allErrs)

/-- The selector schema the `switch deviceType` picks. -/
def selectorSchema (acceleratorJSONSchema netDeviceJSONSchema auxNetDeviceJSONSchema : Schema) :
    JsonValue → Schema
  | .string "accelerator" => acceleratorJSONSchema
  | .string "auxNetDevice" => auxNetDeviceJSONSchema
  | _ => netDeviceJSONSchema

/-- The loop of `validateSriovNetworkDevicePlugin` over `resourceList`, returning at the first
resource whose name or prefix is not valid. -/
def sriovResourceLoop (env : JsonEnv) (fldPath : Path) (config : Option String)
    (acceleratorJSONSchema netDeviceJSONSchema auxNetDeviceJSONSchema : Schema) :
    List JsonValue → List FieldError → Except Panic (List FieldError)
  | [], allErrs => .ok allErrs
  | resourceInterface :: rest, allErrs =>
    match resourceInterface.asObject with
    | .error p => .error p
    | .ok resource =>
      match validateResourceNamePrefix resource allErrs fldPath config with
      | .error p => .error p
      | .ok (false, allErrs) => .ok allErrs
      | .ok (true, allErrs) =>
        let schema := selectorSchema acceleratorJSONSchema netDeviceJSONSchema auxNetDeviceJSONSchema
          (JsonObject.index (some resource) "deviceType")
        sriovResourceLoop env fldPath config acceleratorJSONSchema netDeviceJSONSchema
          auxNetDeviceJSONSchema rest
          (allErrs ++ schemaErrors fldPath config (schema.validate (env.marshal resource)))

/-- `s, err := schemaValidators.GetSchema(schemaName)`, returning the error it reports when it
fails and going on with `k s` otherwise. -/
def withSchema (env : JsonEnv) (fldPath : Path) (config : Option String) (schemaName : String)
    (k : Schema → Except Panic (List FieldError)) : Except Panic (List FieldError) :=
  match env.getSchema schemaName with
  | .error p => .error p
  | .ok (.error err) => .ok [configError fldPath config ("Invalid json schema " ++ err)]
  | .ok (.ok schema) => k schema

/-- The outcome of a schema's `Validate` of the config: its error, reported after `errPrefix`; the
descriptions of the result's errors; or, when the result is `Valid()`, `k`. -/
def withValidResult (fldPath : Path) (config : Option String) (errPrefix : String)
    (result : Except String (List String)) (k : Except Panic (List FieldError)) :
    Except Panic (List FieldError) :=
  match result with
  | .error err => .ok [configError fldPath config (errPrefix ++ err)]
  | .ok [] => k
  | .ok descriptions => .ok (descriptions.map (configError fldPath config))

/-- The `resourceList` block of `validateSriovNetworkDevicePlugin`: the loop over the list, when
the decoded config has one. -/
def validateResourceList (env : JsonEnv) (fldPath : Path) (config : Option String)
    (acceleratorJSONSchema netDeviceJSONSchema auxNetDeviceJSONSchema : Schema)
    (sriovNetworkDevicePluginConfigJSON : Option JsonObject) : Except Panic (List FieldError) :=
  match JsonObject.index sriovNetworkDevicePluginConfigJSON "resourceList" with
  | .null => .ok []
  | resourceListInterface =>
    sriovResourceLoop env fldPath config acceleratorJSONSchema netDeviceJSONSchema
      auxNetDeviceJSONSchema resourceListInterface.asArray []

/-- `devicePluginSpecWrapper.validateSriovNetworkDevicePlugin`. -/
def validateSriovNetworkDevicePlugin (env : JsonEnv) (dp : DevicePluginSpec) (fldPath : Path) :
    Except Panic (List FieldError) :=
  match dp.config with
  | none => .error .nilPointerDereference
  | some sriovNetworkDevicePluginConfig =>
    match env.unmarshalMap sriovNetworkDevicePluginConfig with
    | .error _ => .ok [configError fldPath dp.config "Invalid json of SriovNetworkDevicePluginConfig"]
    | .ok sriovNetworkDevicePluginConfigJSON =>
      withSchema env fldPath dp.config "sriov_network_device_plugin" fun sriovNetworkDevicePluginSchema =>
      withSchema env fldPath dp.config "accelerator_selector" fun acceleratorJSONSchema =>
      withSchema env fldPath dp.config "net_device" fun netDeviceJSONSchema =>
      withSchema env fldPath dp.config "aux_net_device" fun auxNetDeviceJSONSchema =>
      withValidResult fldPath dp.config "Invalid json configuration of SriovNetworkDevicePluginConfig"
        (sriovNetworkDevicePluginSchema.validate sriovNetworkDevicePluginConfig)
        (validateResourceList env fldPath dp.config acceleratorJSONSchema netDeviceJSONSchema
          auxNetDeviceJSONSchema sriovNetworkDevicePluginConfigJSON)

/-! ### RDMA shared device plugin -/

/-- The loop of `validateRdmaSharedDevicePlugin` over `configList`: every invalid name is
reported, and the loop returns at the first invalid prefix. -/
def rdmaConfigLoop (fldPath : Path) (config : Option String) :
    List JsonValue → List FieldError → Except Panic (List FieldError)
  | [], allErrs => .ok allErrs
  | configInterface :: rest, allErrs =>
    match configInterface.asObject with
    | .error p => .error p
    | .ok dpConfig =>
      match (JsonObject.index (some dpConfig) "resourceName").asString with
      | .error p => .error p
      | .ok resourceName =>
        let allErrs :=
          if !isValidRdmaSharedDevicePluginResourceName resourceName then
            allErrs ++ [configError fldPath config
              ("Invalid Resource name, it must consist of alphanumeric characters, " ++
                "'-', '_' or '.', and must start and end with an alphanumeric character " ++
                "(e.g. 'MyName',  or 'my.name',  or '123-abc') regex used for validation is " ++
                rdmaResourceNameRegex)]
          else allErrs
        match dpConfig.lookup "resourcePrefix" with
        | none => rdmaConfigLoop fldPath config rest allErrs
        | some resourcePrefix =>
          match resourcePrefix.asString with
          | .error p => .error p
          | .ok resourcePrefix =>
            if !isValidFQDN resourcePrefix then
              .ok (allErrs ++ [configError fldPath config
                ("Invalid Resource prefix, it must be a valid FQDN " ++
                  "regex used for validation is " ++ fqdnRegex)])
            else rdmaConfigLoop fldPath config rest allErrs

/-- `devicePluginSpecWrapper.validateRdmaSharedDevicePlugin`. -/
def validateRdmaSharedDevicePlugin (env : JsonEnv) (dp : DevicePluginSpec) (fldPath : Path) :
    Except Panic (List FieldError) :=
  match dp.config with
  | none => .error .nilPointerDereference
  | some rdmaSharedDevicePluginConfig =>
    match env.unmarshalMap rdmaSharedDevicePluginConfig with
    | .error err =>
      .ok [configError fldPath dp.config ("Invalid json of RdmaSharedDevicePluginConfig" ++ err)]
    | .ok rdmaSharedDevicePluginConfigJSON =>
      withSchema env fldPath dp.config "rdma_shared_device_plugin" fun rdmaSharedDevicePluginSchema =>
      withValidResult fldPath dp.config "Invalid json of RdmaSharedDevicePluginConfig"
        (rdmaSharedDevicePluginSchema.validate rdmaSharedDevicePluginConfig)
        (rdmaConfigLoop fldPath dp.config
          (JsonObject.index rdmaSharedDevicePluginConfigJSON "configList").asArray [])

/-! ### Decoding -/

@[simp] theorem JsonValue.asString_eq_ok_iff (v : JsonValue) (s : String) :
    v.asString = .ok s ↔ v = .string s := by
  cases v <;> simp [JsonValue.asString]

theorem JsonValue.ne_string_of_asString_eq_error {v : JsonValue} {p : Panic}
    (h : v.asString = .error p) (s : String) : v ≠ .string s := by
  rintro rfl; cases h

/-- `json.Unmarshal` into a map succeeds exactly on a JSON object and on `null`, which gives a
nil map. -/
theorem JsonEnv.unmarshalMap_eq_ok_iff (env : JsonEnv) (s : String) (m : Option JsonObject) :
    env.unmarshalMap s = .ok m ↔
      (env.parse s = .ok .null ∧ m = none) ∨ ∃ fields, env.parse s = .ok (.object fields) ∧ m = some fields := by
  unfold JsonEnv.unmarshalMap
  rcases env.parse s with err | (_ | _ | _ | _ | _ | fields) <;> simp [eq_comm]

theorem schemaErrors_eq_nil_iff (fldPath : Path) (config : Option String) (r : Except String (List String)) :
    schemaErrors fldPath config r = [] ↔ r = .ok [] := by
  cases r <;> simp [schemaErrors]

/-! ### When a config passes -/

/-- The resource's `resourceName` is a string `valid` accepts. -/
def resourceNameValid (valid : String → Bool) (resource : JsonObject) : Prop :=
  ∃ name, JsonObject.index (some resource) "resourceName" = .string name ∧ valid name = true

/-- The resource's `resourcePrefix`, when it has one, is a string `isValidFQDN` accepts. -/
def resourcePrefixValid (resource : JsonObject) : Prop :=
  ∀ resourcePrefix, resource.lookup "resourcePrefix" = some resourcePrefix →
    ∃ p, resourcePrefix = .string p ∧ isValidFQDN p = true

/-- An entry of `configList` that the RDMA check passes. -/
def rdmaEntryValid : JsonValue → Prop
  | .object dpConfig =>
    resourceNameValid isValidRdmaSharedDevicePluginResourceName dpConfig ∧ resourcePrefixValid dpConfig
  | _ => False

@[simp] theorem rdmaEntryValid_object (dpConfig : JsonObject) :
    rdmaEntryValid (.object dpConfig) ↔
      resourceNameValid isValidRdmaSharedDevicePluginResourceName dpConfig ∧
        resourcePrefixValid dpConfig := Iff.rfl

/-- An entry of `resourceList` that the SR-IOV check passes: a valid name and prefix, and
accepted by the selector schema its `deviceType` picks. -/
def sriovEntryValid (env : JsonEnv) (acceleratorJSONSchema netDeviceJSONSchema auxNetDeviceJSONSchema : Schema) :
    JsonValue → Prop
  | .object resource =>
    resourceNameValid isValidSriovNetworkDevicePluginResourceName resource ∧ resourcePrefixValid resource ∧
      (selectorSchema acceleratorJSONSchema netDeviceJSONSchema auxNetDeviceJSONSchema
        (JsonObject.index (some resource) "deviceType")).validate (env.marshal resource) = .ok []
  | _ => False

@[simp] theorem sriovEntryValid_object (env : JsonEnv)
    (acceleratorJSONSchema netDeviceJSONSchema auxNetDeviceJSONSchema : Schema) (resource : JsonObject) :
    sriovEntryValid env acceleratorJSONSchema netDeviceJSONSchema auxNetDeviceJSONSchema (.object resource) ↔
      resourceNameValid isValidSriovNetworkDevicePluginResourceName resource ∧
        resourcePrefixValid resource ∧
        (selectorSchema acceleratorJSONSchema netDeviceJSONSchema auxNetDeviceJSONSchema
          (JsonObject.index (some resource) "deviceType")).validate (env.marshal resource) = .ok [] :=
  Iff.rfl

/-- `validateResourceNamePrefix` passes a resource on, its errors as they were, exactly when the
resource's name and prefix are valid; otherwise it adds an error or panics. -/
theorem validateResourceNamePrefix_cases (resource : JsonObject) (allErrs : List FieldError)
    (fldPath : Path) (config : Option String) :
    (validateResourceNamePrefix resource allErrs fldPath config = .ok (true, allErrs) ∧
        resourceNameValid isValidSriovNetworkDevicePluginResourceName resource ∧
        resourcePrefixValid resource) ∨
      (¬(resourceNameValid isValidSriovNetworkDevicePluginResourceName resource ∧
          resourcePrefixValid resource) ∧
        ((∃ err, validateResourceNamePrefix resource allErrs fldPath config = .ok (false, allErrs ++ [err])) ∨
          ∃ p, validateResourceNamePrefix resource allErrs fldPath config = .error p)) := by
  unfold validateResourceNamePrefix resourceNameValid resourcePrefixValid
  cases hn : (JsonObject.index (some resource) "resourceName").asString with
  | error p =>
    simp [JsonValue.ne_string_of_asString_eq_error hn]
  | ok name =>
    rw [JsonValue.asString_eq_ok_iff] at hn
    simp only [hn, JsonValue.string.injEq, exists_eq_left']
    by_cases hv : isValidSriovNetworkDevicePluginResourceName name
    · simp only [hv, Bool.not_true, Bool.false_eq_true, if_false, true_and]
      cases hp : resource.lookup "resourcePrefix" with
      | none => simp
      | some resourcePrefix =>
        dsimp only
        cases hs : resourcePrefix.asString with
        | error p =>
          simp [JsonValue.ne_string_of_asString_eq_error hs]
        | ok p =>
          rw [JsonValue.asString_eq_ok_iff] at hs
          subst hs
          by_cases hf : isValidFQDN p <;> simp [hf]
    · simp [hv]

/-- **The SR-IOV loop**: it ends with no error exactly when it starts with none and every entry
is valid, wherever an invalid one stands. -/
theorem sriovResourceLoop_eq_nil_iff (env : JsonEnv) (fldPath : Path) (config : Option String)
    (acceleratorJSONSchema netDeviceJSONSchema auxNetDeviceJSONSchema : Schema)
    (entries : List JsonValue) (allErrs : List FieldError) :
    sriovResourceLoop env fldPath config acceleratorJSONSchema netDeviceJSONSchema
        auxNetDeviceJSONSchema entries allErrs = .ok [] ↔
      allErrs = [] ∧ ∀ entry ∈ entries,
        sriovEntryValid env acceleratorJSONSchema netDeviceJSONSchema auxNetDeviceJSONSchema entry := by
  induction entries generalizing allErrs with
  | nil => simp [sriovResourceLoop]
  | cons entry rest ih =>
    cases entry with
    | object resource =>
      simp only [sriovResourceLoop, JsonValue.asObject, List.forall_mem_cons, sriovEntryValid_object]
      rcases validateResourceNamePrefix_cases resource allErrs fldPath config with
        ⟨h, hn, hp⟩ | ⟨hv, ⟨err, h⟩ | ⟨p, h⟩⟩
      · rw [h]
        simp only [ih, List.append_eq_nil, schemaErrors_eq_nil_iff, hn, hp, true_and, and_assoc]
      · rw [h]; exact iff_of_false (by simp) fun ⟨_, ⟨hn, hp, _⟩, _⟩ => hv ⟨hn, hp⟩
      · rw [h]; exact iff_of_false (by simp) fun ⟨_, ⟨hn, hp, _⟩, _⟩ => hv ⟨hn, hp⟩
    | _ => simp [sriovResourceLoop, JsonValue.asObject, sriovEntryValid]

/-- **The RDMA loop**: it ends with no error exactly when it starts with none and every entry is
valid, wherever an invalid one stands. -/
theorem rdmaConfigLoop_eq_nil_iff (fldPath : Path) (config : Option String)
    (entries : List JsonValue) (allErrs : List FieldError) :
    rdmaConfigLoop fldPath config entries allErrs = .ok [] ↔
      allErrs = [] ∧ ∀ entry ∈ entries, rdmaEntryValid entry := by
  induction entries generalizing allErrs with
  | nil => simp [rdmaConfigLoop]
  | cons entry rest ih =>
    cases entry with
    | object dpConfig =>
      simp only [rdmaConfigLoop, JsonValue.asObject, List.forall_mem_cons, rdmaEntryValid_object,
        resourceNameValid, resourcePrefixValid]
      cases hn : (JsonObject.index (some dpConfig) "resourceName").asString with
      | error p => simp [JsonValue.ne_string_of_asString_eq_error hn]
      | ok name =>
        rw [JsonValue.asString_eq_ok_iff] at hn
        simp only [hn, JsonValue.string.injEq, exists_eq_left']
        cases hp : dpConfig.lookup "resourcePrefix" with
        | none => by_cases hv : isValidRdmaSharedDevicePluginResourceName name <;> simp [hv, ih]
        | some resourcePrefix =>
          dsimp only
          cases hs : resourcePrefix.asString with
          | error p => simp [JsonValue.ne_string_of_asString_eq_error hs]
          | ok p =>
            rw [JsonValue.asString_eq_ok_iff] at hs
            subst hs
            by_cases hv : isValidRdmaSharedDevicePluginResourceName name <;>
              by_cases hf : isValidFQDN p <;> simp [hv, hf, ih]
    | _ => simp [rdmaConfigLoop, JsonValue.asObject, rdmaEntryValid]

theorem withSchema_eq_nil_iff (env : JsonEnv) (fldPath : Path) (config : Option String)
    (schemaName : String) (k : Schema → Except Panic (List FieldError)) :
    withSchema env fldPath config schemaName k = .ok [] ↔
      ∃ schema, env.getSchema schemaName = .ok (.ok schema) ∧ k schema = .ok [] := by
  unfold withSchema
  rcases env.getSchema schemaName with p | err | schema <;> simp

theorem withValidResult_eq_nil_iff (fldPath : Path) (config : Option String) (errPrefix : String)
    (result : Except String (List String)) (k : Except Panic (List FieldError)) :
    withValidResult fldPath config errPrefix result k = .ok [] ↔ result = .ok [] ∧ k = .ok [] := by
  unfold withValidResult
  rcases result with err | _ | ⟨d, ds⟩ <;> simp

theorem validateResourceList_eq_nil_iff (env : JsonEnv) (fldPath : Path) (config : Option String)
    (acceleratorJSONSchema netDeviceJSONSchema auxNetDeviceJSONSchema : Schema)
    (configJSON : Option JsonObject) :
    validateResourceList env fldPath config acceleratorJSONSchema netDeviceJSONSchema
        auxNetDeviceJSONSchema configJSON = .ok [] ↔
      ∀ entry ∈ (JsonObject.index configJSON "resourceList").asArray,
        sriovEntryValid env acceleratorJSONSchema netDeviceJSONSchema auxNetDeviceJSONSchema entry := by
  unfold validateResourceList
  cases JsonObject.index configJSON "resourceList" <;>
    simp [sriovResourceLoop_eq_nil_iff, JsonValue.asArray]

/-- The SR-IOV check passes exactly when its config decodes, the four schemas are loaded, the
plugin's schema accepts the config, and every entry of `resourceList` is valid. -/
theorem validateSriovNetworkDevicePlugin_eq_nil_iff (env : JsonEnv) (imageSpec : ImageSpec)
    (config : String) (fldPath : Path) :
    validateSriovNetworkDevicePlugin env ⟨imageSpec, some config⟩ fldPath = .ok [] ↔
      ∃ configJSON, env.unmarshalMap config = .ok configJSON ∧
        ∃ sriovSchema acceleratorJSONSchema netDeviceJSONSchema auxNetDeviceJSONSchema,
          env.getSchema "sriov_network_device_plugin" = .ok (.ok sriovSchema) ∧
          env.getSchema "accelerator_selector" = .ok (.ok acceleratorJSONSchema) ∧
          env.getSchema "net_device" = .ok (.ok netDeviceJSONSchema) ∧
          env.getSchema "aux_net_device" = .ok (.ok auxNetDeviceJSONSchema) ∧
          sriovSchema.validate config = .ok [] ∧
          ∀ entry ∈ (JsonObject.index configJSON "resourceList").asArray,
            sriovEntryValid env acceleratorJSONSchema netDeviceJSONSchema auxNetDeviceJSONSchema entry := by
  simp only [validateSriovNetworkDevicePlugin]
  cases env.unmarshalMap config with
  | error err => simp
  | ok configJSON =>
    simp only [Except.ok.injEq, exists_eq_left', withSchema_eq_nil_iff, withValidResult_eq_nil_iff,
      validateResourceList_eq_nil_iff]
    constructor
    · rintro ⟨s₁, h₁, s₂, h₂, s₃, h₃, s₄, h₄, hv, he⟩
      exact ⟨s₁, s₂, s₃, s₄, h₁, h₂, h₃, h₄, hv, he⟩
    · rintro ⟨s₁, s₂, s₃, s₄, h₁, h₂, h₃, h₄, hv, he⟩
      exact ⟨s₁, h₁, s₂, h₂, s₃, h₃, s₄, h₄, hv, he⟩

/-- The RDMA check passes exactly when its config decodes, its schema is loaded and accepts the
config, and every entry of `configList` is valid. -/
theorem validateRdmaSharedDevicePlugin_eq_nil_iff (env : JsonEnv) (imageSpec : ImageSpec)
    (config : String) (fldPath : Path) :
    validateRdmaSharedDevicePlugin env ⟨imageSpec, some config⟩ fldPath = .ok [] ↔
      ∃ configJSON, env.unmarshalMap config = .ok configJSON ∧
        ∃ schema, env.getSchema "rdma_shared_device_plugin" = .ok (.ok schema) ∧
          schema.validate config = .ok [] ∧
          ∀ entry ∈ (JsonObject.index configJSON "configList").asArray, rdmaEntryValid entry := by
  simp only [validateRdmaSharedDevicePlugin]
  cases env.unmarshalMap config with
  | error err => simp
  | ok configJSON =>
    simp [withSchema_eq_nil_iff, withValidResult_eq_nil_iff, rdmaConfigLoop_eq_nil_iff]

/-! ### Accepted configs -/

/-- A decoder that reads the text `null`, and a schema store whose `rdma_shared_device_plugin`
schema accepts every document, as the empty schema does. -/
def nullConfigEnv : JsonEnv where
  parse config := if config = "null" then .ok .null else .error "invalid character"
  marshal _ := "\x7b\x7d"
  schemaValidators := some ⟨[("rdma_shared_device_plugin", ⟨fun _ => .ok []⟩)], by simp⟩

/-- The config `null` passes the RDMA check, though it is not a JSON object: `json.Unmarshal`
decodes it to a nil map, whose `configList` is empty. -/
theorem validateRdmaSharedDevicePlugin_accepts_null :
    validateRdmaSharedDevicePlugin nullConfigEnv
        ⟨⟨"k8s-rdma-shared-dev-plugin", "ghcr.io/mellanox", "v1.5.1", none⟩, some "null"⟩
        ((Path.newPath "spec").child "rdmaSharedDevicePlugin") = .ok [] ∧
      ∀ fields, nullConfigEnv.parse "null" ≠ .ok (.object fields) :=
  ⟨rfl, fun _ h => by simp [nullConfigEnv] at h⟩

/-- **Accepted device plugin configs**: each check returns no error exactly when its config is a
JSON object or `null` (which decodes to a nil map), the schemas the check loads are there, the
plugin's schema accepts the config, and every entry of the decoded list is valid: for RDMA a
string `resourceName` its pattern accepts and no `resourcePrefix` or an FQDN one; for SR-IOV the
same with its own pattern, and the selector schema that `deviceType` picks accepts the entry. -/
theorem devicePluginConfig_accepted_iff (env : JsonEnv) (imageSpec : ImageSpec) (config : String)
    (fldPath : Path) :
    (validateRdmaSharedDevicePlugin env ⟨imageSpec, some config⟩ fldPath = .ok [] ↔
      ∃ configJSON, ((env.parse config = .ok .null ∧ configJSON = none) ∨
          ∃ fields, env.parse config = .ok (.object fields) ∧ configJSON = some fields) ∧
        ∃ schema, env.getSchema "rdma_shared_device_plugin" = .ok (.ok schema) ∧
          schema.validate config = .ok [] ∧
          ∀ entry ∈ (JsonObject.index configJSON "configList").asArray, rdmaEntryValid entry) ∧
    (validateSriovNetworkDevicePlugin env ⟨imageSpec, some config⟩ fldPath = .ok [] ↔
      ∃ configJSON, ((env.parse config = .ok .null ∧ configJSON = none) ∨
          ∃ fields, env.parse config = .ok (.object fields) ∧ configJSON = some fields) ∧
        ∃ sriovSchema acceleratorJSONSchema netDeviceJSONSchema auxNetDeviceJSONSchema,
          env.getSchema "sriov_network_device_plugin" = .ok (.ok sriovSchema) ∧
          env.getSchema "accelerator_selector" = .ok (.ok acceleratorJSONSchema) ∧
          env.getSchema "net_device" = .ok (.ok netDeviceJSONSchema) ∧
          env.getSchema "aux_net_device" = .ok (.ok auxNetDeviceJSONSchema) ∧
          sriovSchema.validate config = .ok [] ∧
          ∀ entry ∈ (JsonObject.index configJSON "resourceList").asArray,
            sriovEntryValid env acceleratorJSONSchema netDeviceJSONSchema auxNetDeviceJSONSchema entry) := by
  simp only [← JsonEnv.unmarshalMap_eq_ok_iff]
  exact ⟨validateRdmaSharedDevicePlugin_eq_nil_iff env imageSpec config fldPath,
    validateSriovNetworkDevicePlugin_eq_nil_iff env imageSpec config fldPath⟩

end NetworkOperator.Validator
