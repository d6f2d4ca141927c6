import Mathlib.Data.Char
import NetworkOperator.Validator.Policy
import NetworkOperator.Validator.RegexSpec

/-!
# Validator — when the check cannot panic

`validateNicClusterPolicy` panics on a device plugin with no `Config`
(`validateNicClusterPolicy_nil_config_panics`).  Nowhere else, once the schemas are loaded and
admit only config entries of the shape the loops assert:

* `pKeyGUID_setString`: every string the GUID pattern accepts parses as a hexadecimal
  `big.Int`, so `isValidPKeyRange` never compares a nil pointer.
* `ibKubernetes_validate_eq_nil_iff`: the InfiniBand check never panics, and finds no error
  exactly when both bounds are GUIDs and the end is above the start.
* `validateNicClusterPolicy_panics_iff`: with the schemas loaded and admitting only well-typed
  entries, the check panics exactly when a declared device plugin has no `Config`, and returns
  nil or an `Invalid` error otherwise; the container names of a manifest directory are taken
  as always read, so a panic in `state.ParseContainerNames` on a nil renderer is not covered.  The parts only append, so the run panics exactly when
  one part does on its own (`runPhases_eq_error_iff`).
-/

namespace NetworkOperator.Validator

open NetworkOperator.V1alpha1

/-! ### GUIDs -/

/-- The class `[0-9A-Fa-f]` of the GUID pattern. -/
def hexClass : CharClass := ⟨[('0', '9'), ('A', 'F'), ('a', 'f')]⟩

theorem pKeyGUIDRegexp_classes :
    pKeyGUIDRegexp.classes = [hexClass, literal ':', hexClass] := rfl

theorem hexDigitValue_isSome {c : Char} (h : hexClass.test c = true) : (hexDigitValue c).isSome := by
  simp only [hexClass, CharClass.test, List.any_cons, List.any_nil, Bool.or_false, Bool.or_eq_true,
    Bool.and_eq_true, decide_eq_true_eq] at h
  unfold hexDigitValue
  split_ifs <;> simp_all

theorem hexValue_isSome (acc : Nat) (ds : List Char) (h : ∀ c ∈ ds, hexClass.test c = true) :
    (hexValue acc ds).isSome := by
  induction ds generalizing acc with
  | nil => rfl
  | cons d ds ih =>
    obtain ⟨v, hv⟩ := Option.isSome_iff_exists.mp (hexDigitValue_isSome (h d (List.mem_cons_self _ _)))
    simpa [hexValue, hv] using ih (acc * 16 + v) fun c hc => h c (List.mem_cons_of_mem _ hc)

/-- `SetString(s, 16)` parses one hexadecimal digit or more. -/
theorem bigIntSetString16_of_hex (ds : List Char) (hne : ds ≠ [])
    (h : ∀ c ∈ ds, hexClass.test c = true) : (bigIntSetString16 ⟨ds⟩).isSome := by
  obtain ⟨d, ds, rfl⟩ := List.exists_cons_of_ne_nil hne
  have hd := h d (List.mem_cons_self _ _)
  have hminus : d ≠ '-' := by rintro rfl; revert hd; decide
  have hplus : d ≠ '+' := by rintro rfl; revert hd; decide
  have hdigits := hexValue_isSome 0 (d :: ds) h
  unfold bigIntSetString16
  split
  · rename_i heq; cases heq; exact absurd rfl hminus
  · rename_i heq; cases heq; exact absurd rfl hplus
  · simpa using hdigits

/-- **GUIDs parse**: every string the GUID pattern accepts parses, colons removed, as a
hexadecimal `big.Int`. -/
theorem pKeyGUID_setString (guid : String) (h : isValidPKeyGUID guid = true) :
    (bigIntSetString16 (replaceAllColons guid)).isSome := by
  rw [isValidPKeyGUID, Regex.matchString_iff _ pKeyGUIDRegexp_wf] at h
  have hchars := h.chars
  rw [pKeyGUIDRegexp_classes] at hchars
  -- the pattern ends with two hexadecimal digits
  obtain ⟨u, v, huv, -, hv⟩ := (Regex.matches_seq_iff _ _ _).mp h
  obtain ⟨ws, hmin, -, hws, rfl⟩ := (Regex.matches_rep_iff _ _ _ _).mp hv
  obtain ⟨w, ws, rfl⟩ := List.exists_cons_of_ne_nil (show ws ≠ [] by rintro rfl; simp at hmin)
  obtain ⟨c, rfl, hc⟩ := (Regex.matches_cls_iff _ _).mp (hws _ (List.mem_cons_self _ _))
  have hcolon : c ≠ ':' := by rintro rfl; revert hc; decide
  apply bigIntSetString16_of_hex
  · have hmem : c ∈ guid.toList := by rw [huv]; simp
    exact List.ne_nil_of_mem (List.mem_filter.mpr ⟨hmem, by simpa using hcolon⟩)
  · intro d hd
    simp only [List.mem_filter, decide_eq_true_eq] at hd
    obtain ⟨k, hk, hkd⟩ := hchars d hd.1
    simp only [List.mem_cons, List.mem_singleton, List.not_mem_nil, or_false] at hk
    rcases hk with rfl | rfl | rfl
    · exact hkd
    · simp only [literal, CharClass.test, List.any_cons, List.any_nil, Bool.or_false,
        Bool.and_eq_true, decide_eq_true_eq] at hkd
      exact absurd (le_antisymm hkd.2 hkd.1) hd.2
    · exact hkd

/-- On two GUIDs, `isValidPKeyRange` compares their values, and never panics. -/
theorem isValidPKeyRange_of_guids {startGUID endGUID : String}
    (hs : isValidPKeyGUID startGUID = true) (he : isValidPKeyGUID endGUID = true) :
    ∃ a b, bigIntSetString16 (replaceAllColons startGUID) = some a ∧
      bigIntSetString16 (replaceAllColons endGUID) = some b ∧
      isValidPKeyRange startGUID endGUID = .ok (decide (a < b)) := by
  obtain ⟨a, ha⟩ := Option.isSome_iff_exists.mp (pKeyGUID_setString _ hs)
  obtain ⟨b, hb⟩ := Option.isSome_iff_exists.mp (pKeyGUID_setString _ he)
  exact ⟨a, b, ha, hb, by simp [isValidPKeyRange, ha, hb]⟩

/-- **The InfiniBand check**: it never panics, and finds no error exactly when both bounds of
the GUID pool are GUIDs and the end is above the start. -/
theorem ibKubernetes_validate_eq_nil_iff (ibk : IBKubernetesSpec) (fldPath : Path) :
    (∃ errs, ibKubernetesSpecWrapper.validate ibk fldPath = .ok errs) ∧
    (ibKubernetesSpecWrapper.validate ibk fldPath = .ok [] ↔
      isValidPKeyGUID ibk.pKeyGUIDPoolRangeStart = true ∧
      isValidPKeyGUID ibk.pKeyGUIDPoolRangeEnd = true ∧
      ∃ a b, bigIntSetString16 (replaceAllColons ibk.pKeyGUIDPoolRangeStart) = some a ∧
        bigIntSetString16 (replaceAllColons ibk.pKeyGUIDPoolRangeEnd) = some b ∧ a < b) := by
  unfold ibKubernetesSpecWrapper.validate
  by_cases hs : isValidPKeyGUID ibk.pKeyGUIDPoolRangeStart <;>
    by_cases he : isValidPKeyGUID ibk.pKeyGUIDPoolRangeEnd
  · obtain ⟨a, b, ha, hb, hr⟩ := isValidPKeyRange_of_guids hs he
    by_cases hab : a < b <;> simp [hs, he, ha, hb, hr, hab]
  all_goals simp [hs, he]

/-! ### The device plugin configs -/

/-- A config entry of the shape the loops assert: an object with a string `resourceName` and,
when it has one, a string `resourcePrefix`. -/
def WellTypedEntry : JsonValue → Prop
  | .object resource =>
    (∃ name, JsonObject.index (some resource) "resourceName" = .string name) ∧
      ∀ resourcePrefix, resource.lookup "resourcePrefix" = some resourcePrefix →
        ∃ p, resourcePrefix = .string p
  | _ => False

/-- The loaded schema `schemaName` admits only configs whose list under `key` holds well-typed
entries. -/
def SchemaAdmitsWellTyped (env : JsonEnv) (schemaName key : String) : Prop :=
  ∀ schema, env.getSchema schemaName = .ok (.ok schema) → ∀ config, schema.validate config = .ok [] →
    ∀ fields, env.parse config = .ok (.object fields) →
      ∀ entry ∈ (JsonObject.index (some fields) key).asArray, WellTypedEntry entry

theorem wellTypedEntry_object {entry : JsonValue} (h : WellTypedEntry entry) :
    ∃ resource, entry = .object resource ∧ WellTypedEntry (.object resource) := by
  cases entry with
  | object resource => exact ⟨resource, rfl, h⟩
  | _ => exact h.elim

theorem rdmaConfigLoop_ok (fldPath : Path) (config : Option String) (entries : List JsonValue)
    (h : ∀ entry ∈ entries, WellTypedEntry entry) (allErrs : List FieldError) :
    ∃ errs, rdmaConfigLoop fldPath config entries allErrs = .ok errs := by
  induction entries generalizing allErrs with
  | nil => exact ⟨_, rfl⟩
  | cons entry entries ih =>
    obtain ⟨dpConfig, rfl, ⟨name, hn⟩, hp⟩ := wellTypedEntry_object (h _ (List.mem_cons_self _ _))
    have ih := ih fun e he => h e (List.mem_cons_of_mem _ he)
    simp only [rdmaConfigLoop, JsonValue.asObject, hn, JsonValue.asString]
    cases hl : dpConfig.lookup "resourcePrefix" with
    | none => exact ih _
    | some resourcePrefix =>
      obtain ⟨p, rfl⟩ := hp _ hl
      simp only [JsonValue.asString]
      split
      · exact ⟨_, rfl⟩
      · exact ih _

theorem validateResourceNamePrefix_ok (resource : JsonObject) (h : WellTypedEntry (.object resource))
    (allErrs : List FieldError) (fldPath : Path) (config : Option String) :
    ∃ r, validateResourceNamePrefix resource allErrs fldPath config = .ok r := by
  obtain ⟨⟨name, hn⟩, hp⟩ := h
  simp only [validateResourceNamePrefix, hn, JsonValue.asString]
  split
  · exact ⟨_, rfl⟩
  · cases hl : resource.lookup "resourcePrefix" with
    | none => exact ⟨_, rfl⟩
    | some resourcePrefix =>
      obtain ⟨p, rfl⟩ := hp _ hl
      simp only [JsonValue.asString]
      split <;> exact ⟨_, rfl⟩

theorem sriovResourceLoop_ok (env : JsonEnv) (fldPath : Path) (config : Option String)
    (acceleratorJSONSchema netDeviceJSONSchema auxNetDeviceJSONSchema : Schema)
    (entries : List JsonValue) (h : ∀ entry ∈ entries, WellTypedEntry entry)
    (allErrs : List FieldError) :
    ∃ errs, sriovResourceLoop env fldPath config acceleratorJSONSchema netDeviceJSONSchema
      auxNetDeviceJSONSchema entries allErrs = .ok errs := by
  induction entries generalizing allErrs with
  | nil => exact ⟨_, rfl⟩
  | cons entry entries ih =>
    obtain ⟨resource, rfl, hwt⟩ := wellTypedEntry_object (h _ (List.mem_cons_self _ _))
    have ih := ih fun e he => h e (List.mem_cons_of_mem _ he)
    obtain ⟨⟨b, errs⟩, hr⟩ := validateResourceNamePrefix_ok resource hwt allErrs fldPath config
    simp only [sriovResourceLoop, JsonValue.asObject, hr]
    cases b
    · exact ⟨_, rfl⟩
    · exact ih _

theorem withSchema_ok {env : JsonEnv} {fldPath : Path} {config : Option String} {schemaName : String}
    {k : Schema → Except Panic (List FieldError)} (hloaded : env.schemaValidators.isSome)
    (hk : ∀ schema, env.getSchema schemaName = .ok (.ok schema) → ∃ errs, k schema = .ok errs) :
    ∃ errs, withSchema env fldPath config schemaName k = .ok errs := by
  obtain ⟨sv, hsv⟩ := Option.isSome_iff_exists.mp hloaded
  unfold withSchema
  cases hget : env.getSchema schemaName with
  | error p => simp [JsonEnv.getSchema, hsv] at hget; split at hget <;> cases hget
  | ok r =>
    cases r with
    | error err => exact ⟨_, rfl⟩
    | ok schema => exact hk schema hget

theorem withValidResult_ok {fldPath : Path} {config : Option String} {errPrefix : String}
    {result : Except String (List String)} {k : Except Panic (List FieldError)}
    (hk : result = .ok [] → ∃ errs, k = .ok errs) :
    ∃ errs, withValidResult fldPath config errPrefix result k = .ok errs := by
  unfold withValidResult
  rcases result with err | _ | ⟨d, ds⟩
  · exact ⟨_, rfl⟩
  · exact hk rfl
  · exact ⟨_, rfl⟩

/-- With the schemas loaded and admitting only well-typed entries, the RDMA check of a config
never panics. -/
theorem validateRdmaSharedDevicePlugin_ok (env : JsonEnv) (imageSpec : ImageSpec) (config : String)
    (fldPath : Path) (hloaded : env.schemaValidators.isSome)
    (hschema : SchemaAdmitsWellTyped env "rdma_shared_device_plugin" "configList") :
    ∃ errs, validateRdmaSharedDevicePlugin env ⟨imageSpec, some config⟩ fldPath = .ok errs := by
  simp only [validateRdmaSharedDevicePlugin]
  cases hu : env.unmarshalMap config with
  | error err => exact ⟨_, rfl⟩
  | ok configJSON =>
    refine withSchema_ok hloaded fun schema hget => withValidResult_ok fun hvalid => ?_
    rcases (env.unmarshalMap_eq_ok_iff config configJSON).mp hu with ⟨-, rfl⟩ | ⟨fields, hparse, rfl⟩
    · exact ⟨_, rfl⟩
    · exact rdmaConfigLoop_ok _ _ _ (hschema schema hget config hvalid fields hparse) _

/-- With the schemas loaded and admitting only well-typed entries, the SR-IOV check of a config
never panics. -/
theorem validateSriovNetworkDevicePlugin_ok (env : JsonEnv) (imageSpec : ImageSpec) (config : String)
    (fldPath : Path) (hloaded : env.schemaValidators.isSome)
    (hschema : SchemaAdmitsWellTyped env "sriov_network_device_plugin" "resourceList") :
    ∃ errs, validateSriovNetworkDevicePlugin env ⟨imageSpec, some config⟩ fldPath = .ok errs := by
  simp only [validateSriovNetworkDevicePlugin]
  cases hu : env.unmarshalMap config with
  | error err => exact ⟨_, rfl⟩
  | ok configJSON =>
    refine withSchema_ok hloaded fun schema hget => withSchema_ok hloaded fun _ _ =>
      withSchema_ok hloaded fun _ _ => withSchema_ok hloaded fun _ _ =>
      withValidResult_ok fun hvalid => ?_
    unfold validateResourceList
    split
    · exact ⟨_, rfl⟩
    · rcases (env.unmarshalMap_eq_ok_iff config configJSON).mp hu with ⟨-, rfl⟩ | ⟨fields, hparse, rfl⟩
      · exact ⟨_, rfl⟩
      · exact sriovResourceLoop_ok _ _ _ _ _ _ _ (hschema schema hget config hvalid fields hparse) _

/-! ### The whole policy -/

theorem exists_map_eq_error_iff {α β : Type} (f : α → β) (x : Except Panic α) :
    (∃ p, x.map f = .error p) ↔ ∃ p, x = .error p := by
  cases x <;> simp [Except.map]

/-- Parts that only add errors of their own, run in turn from any errors, panic exactly when
one of them panics on its own. -/
theorem runPhases_eq_error_iff (w : NicClusterPolicy)
    (phases : List (NicClusterPolicy → List FieldError → Except Panic (List FieldError)))
    (hphases : ∀ part ∈ phases, ∀ allErrs, part w allErrs = (part w []).map (allErrs ++ ·))
    (allErrs : List FieldError) :
    (∃ p, runPhases phases w allErrs = .error p) ↔ ∃ part ∈ phases, ∃ p, part w [] = .error p := by
  rw [runPhases_eq_map_append w phases hphases, exists_map_eq_error_iff]
  induction phases with
  | nil => simp [runPhases, pure, Except.pure]
  | cons part rest ih =>
    rw [runPhases_cons]
    simp only [List.exists_mem_cons_iff, ← ih fun p hp => hphases p (.tail _ hp)]
    cases part w [] with
    | error p => simp [bind, Except.bind]
    | ok errs =>
      simp only [bind, Except.bind, reduceCtorEq, exists_false, false_or]
      rw [runPhases_eq_map_append w rest (fun p hp => hphases p (.tail _ hp)) errs, exists_map_eq_error_iff]

/-- With the RDMA schema loaded and admitting only well-typed entries, the RDMA check panics
exactly when the plugin has no `Config`. -/
theorem validateRdmaSharedDevicePlugin_panics_iff (env : JsonEnv) (dp : DevicePluginSpec) (fldPath : Path)
    (hloaded : env.schemaValidators.isSome)
    (hschema : SchemaAdmitsWellTyped env "rdma_shared_device_plugin" "configList") :
    (∃ p, validateRdmaSharedDevicePlugin env dp fldPath = .error p) ↔ dp.config = none := by
  rcases dp with ⟨imageSpec, _ | config⟩
  · simp [validateRdmaSharedDevicePlugin]
  · obtain ⟨errs, he⟩ := validateRdmaSharedDevicePlugin_ok env imageSpec config fldPath hloaded hschema
    simp [he]

/-- With the SR-IOV schema loaded and admitting only well-typed entries, the SR-IOV check panics
exactly when the plugin has no `Config`. -/
theorem validateSriovNetworkDevicePlugin_panics_iff (env : JsonEnv) (dp : DevicePluginSpec) (fldPath : Path)
    (hloaded : env.schemaValidators.isSome)
    (hschema : SchemaAdmitsWellTyped env "sriov_network_device_plugin" "resourceList") :
    (∃ p, validateSriovNetworkDevicePlugin env dp fldPath = .error p) ↔ dp.config = none := by
  rcases dp with ⟨imageSpec, _ | config⟩
  · simp [validateSriovNetworkDevicePlugin]
  · obtain ⟨errs, he⟩ := validateSriovNetworkDevicePlugin_ok env imageSpec config fldPath hloaded hschema
    simp [he]

/-- **The check panics exactly on a missing `Config`.**  With the schemas loaded and admitting
only well-typed config entries, `validateNicClusterPolicy` panics, for every policy and every
order of the maps, exactly when the policy declares a device plugin with no `Config`; otherwise it
returns nil or an `Invalid` error.  `state.ParseContainerNames` is the total
`env.parseContainerNames` here: when a component's `newState` fails, the code hands it a nil
renderer, and a panic there is not covered. -/
theorem validateNicClusterPolicy_panics_iff (env : ValidatorEnv) (w : NicClusterPolicy)
    (hloaded : env.json.schemaValidators.isSome)
    (hrdmaSchema : SchemaAdmitsWellTyped env.json "rdma_shared_device_plugin" "configList")
    (hsriovSchema : SchemaAdmitsWellTyped env.json "sriov_network_device_plugin" "resourceList") :
    (∃ p, validateNicClusterPolicy env w = .error p) ↔
      (∃ dp ∈ w.spec.rdmaSharedDevicePlugin, dp.config = none) ∨
        ∃ dp ∈ w.spec.sriovDevicePlugin, dp.config = none := by
  have happend : ∀ {x : Except Panic (List FieldError)}, (∃ p, appendErrs [] x = .error p) ↔ ∃ p, x = .error p :=
    exists_map_eq_error_iff _ _
  rw [validateNicClusterPolicy_eq_containerResources_append, exists_map_eq_error_iff,
    runPhases_eq_error_iff w _ (validationPhases_drop_two_append env w)]
  simp only [validationPhases, List.drop_succ_cons, List.drop_zero, List.exists_mem_cons_iff, List.not_mem_nil,
    false_and, exists_false, or_false]
  refine (or_iff_right ?ib).trans ((or_iff_right ?ofed).trans (or_congr ?rdma ?sriov))
  case ib =>
    rintro ⟨p, hib⟩
    split at hib
    · obtain ⟨errs, he⟩ := (ibKubernetes_validate_eq_nil_iff ‹_› ((Path.newPath "spec").child "ibKubernetes")).1
      rw [he] at hib
      cases hib
    · cases hib
  case ofed =>
    rintro ⟨p, hofed⟩
    split at hofed <;> cases hofed
  case rdma =>
    split <;> rename_i h
    · simp only [happend, validateRdmaSharedDevicePlugin_panics_iff _ _ _ hloaded hrdmaSchema, h,
        Option.mem_def, Option.some.injEq, exists_eq_left']
    · simp [h]
  case sriov =>
    split <;> rename_i h
    · simp only [happend, validateSriovNetworkDevicePlugin_panics_iff _ _ _ hloaded hsriovSchema, h,
        Option.mem_def, Option.some.injEq, exists_eq_left']
    · simp [h]

/-- A policy whose two device plugins have the config `{}`. -/
def devicePluginsPolicy : NicClusterPolicy :=
  ⟨"nic-cluster-policy", ⟨none,
    some ⟨⟨"k8s-rdma-shared-dev-plugin", "ghcr.io/mellanox", "v1.5.1", none⟩, some "\x7b\x7d"⟩,
    some ⟨⟨"sriov-network-device-plugin", "ghcr.io/k8snetworkplumbingwg", "v3.7.0", none⟩, some "\x7b\x7d"⟩,
    none, none, none, none, [], none⟩⟩

/-- The schemas of `acceptingJsonEnv` admit only well-typed entries: the one document the decoder
reads has none. -/
theorem acceptingJsonEnv_admits (schemaName key : String) :
    SchemaAdmitsWellTyped acceptingJsonEnv schemaName key := by
  intro _ _ config _ fields hparse entry hentry
  simp only [acceptingJsonEnv] at hparse
  split at hparse <;> cases hparse
  simp [JsonObject.index, JsonValue.asArray] at hentry

/-- With the schemas loaded, the check of `devicePluginsPolicy`, whose plugins both have a
`Config`, does not panic. -/
theorem devicePluginsPolicy_ok : ¬ ∃ p, validateNicClusterPolicy acceptingEnv devicePluginsPolicy = .error p :=
  fun h => by
    rcases (validateNicClusterPolicy_panics_iff acceptingEnv devicePluginsPolicy rfl (acceptingJsonEnv_admits _ _)
      (acceptingJsonEnv_admits _ _)).mp h with ⟨dp, hdp, hc⟩ | ⟨dp, hdp, hc⟩ <;> cases hdp <;> cases hc

end NetworkOperator.Validator
