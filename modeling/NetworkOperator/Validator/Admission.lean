import NetworkOperator.Validator.ErrorPaths
import NetworkOperator.Validator.InfiniBand

/-!
# Validator — which policies the webhook admits

`validateNicClusterPolicy` returns nil, and the webhook admits the policy, exactly when each
component the policy declares passes what its check asks, component by component (`Admitted`):

* the repository of every declared component parses as a normalized named reference;
* the `ContainerResources` of every component whose spec type embeds `ImageSpec` (the six of
  `spec` and `multus`, not `cniPlugins`, `ipoib` or `ipamPlugin`), when declared, are a non-empty
  list whose every entry names a container of the component's manifests and has no zero CPU or
  memory quantity and no limit below its request (`ResourcesOk`);
* the GUID pool of InfiniBand Kubernetes is two GUIDs, the end above the start;
* the OFED driver's version is in the version pattern, and `safeLoad` comes with `autoUpgrade`;
* each device plugin has a `Config` that decodes and that its schemas and entry checks accept.

`validateNicClusterPolicy_admits_iff` is this, for every policy and every oracle.  No check
panics on an admitted policy, and no check removes an error another found: the parts only
append (`runPhases_eq_ok_nil_iff`), so the policy is admitted exactly when each part finds nothing,
and each part's emptiness is the lemma beside it.
-/

namespace NetworkOperator.Validator

open NetworkOperator.V1alpha1

/-! ### Repositories -/

theorem validateRepositoryIfPresent_eq_nil_iff (parseNormalizedNamed : String → Bool) (fp : Path)
    (allErrs : List FieldError) (component : Option ImageSpec × String) :
    validateRepositoryIfPresent parseNormalizedNamed fp allErrs component = [] ↔
      allErrs = [] ∧ ∀ imageSpec ∈ component.1, parseNormalizedNamed imageSpec.repository = true := by
  obtain ⟨_ | imageSpec, child⟩ := component
  · simp [validateRepositoryIfPresent]
  · by_cases h : parseNormalizedNamed imageSpec.repository <;>
      simp [validateRepositoryIfPresent, validateRepository, h]

theorem foldl_validateRepositoryIfPresent_eq_nil_iff (parseNormalizedNamed : String → Bool) (fp : Path)
    (components : List (Option ImageSpec × String)) (allErrs : List FieldError) :
    components.foldl (validateRepositoryIfPresent parseNormalizedNamed fp) allErrs = [] ↔
      allErrs = [] ∧ ∀ c ∈ components, ∀ imageSpec ∈ c.1, parseNormalizedNamed imageSpec.repository = true := by
  induction components generalizing allErrs with
  | nil => simp
  | cons c cs ih =>
    rw [List.foldl_cons, ih, validateRepositoryIfPresent_eq_nil_iff, List.forall_mem_cons, and_assoc]

/-- The repositories pass exactly when every declared component's repository parses. -/
theorem validateRepositories_eq_nil_iff (parseNormalizedNamed : String → Bool) (w : NicClusterPolicy) :
    validateRepositories parseNormalizedNamed w [] = [] ↔
      ∀ c ∈ componentPaths w.spec, ∀ imageSpec ∈ c.2, parseNormalizedNamed imageSpec.repository = true := by
  unfold validateRepositories componentPaths
  split <;> rename_i hsn <;>
    simp only [hsn, foldl_validateRepositoryIfPresent_eq_nil_iff, true_and, List.forall_mem_cons,
      List.forall_mem_append, List.not_mem_nil, false_implies, implies_true, and_true]

/-! ### Container resources -/

/-- What the check asks of a component's declared `ContainerResources`, for the container names
its manifests have: a non-empty list, each entry naming one of those containers, with no zero
CPU or memory quantity among its requests and limits, and no limit below the request for the
same resource. -/
def ResourcesOk (supportedContainerNames : List String) (resources : List ResourceRequirements) : Prop :=
  resources ≠ [] ∧ ∀ reqs ∈ resources,
    (∀ r ∈ reqs.requests.entries, isCPUOrMemory r.1 = true → r.2 ≠ 0) ∧
    (∀ r ∈ reqs.limits.entries, isCPUOrMemory r.1 = true → r.2 ≠ 0) ∧
    (∀ r ∈ reqs.limits.entries, ∀ request, reqs.requests.lookup r.1 = some request → ¬ r.2 < request) ∧
    reqs.name ∈ supportedContainerNames

theorem zeroQuantity?_eq_none_iff (fp : Path) (child resourceType : String) (entry : String × ℚ) :
    zeroQuantity? fp child resourceType entry = none ↔ (isCPUOrMemory entry.1 = true → entry.2 ≠ 0) := by
  by_cases h : isCPUOrMemory entry.1 <;> simp [zeroQuantity?, h]

theorem limitBelowRequest?_eq_none_iff (fp : Path) (child : String) (requests : GoMap String ℚ)
    (entry : String × ℚ) :
    limitBelowRequest? fp child requests entry = none ↔
      ∀ request, requests.lookup entry.1 = some request → ¬ entry.2 < request := by
  unfold limitBelowRequest?
  cases requests.lookup entry.1 <;> simp

theorem expectedRequirementErrors_eq_nil_iff (supportedContainerNames : List String) (fp : Path)
    (child : String) (reqs : ResourceRequirements) :
    expectedRequirementErrors supportedContainerNames fp child reqs = [] ↔
      (∀ r ∈ reqs.requests.entries, isCPUOrMemory r.1 = true → r.2 ≠ 0) ∧
      (∀ r ∈ reqs.limits.entries, isCPUOrMemory r.1 = true → r.2 ≠ 0) ∧
      (∀ r ∈ reqs.limits.entries, ∀ request, reqs.requests.lookup r.1 = some request → ¬ r.2 < request) ∧
      reqs.name ∈ supportedContainerNames := by
  have hname : (if supportedContainerNames.contains reqs.name then []
      else [unsupportedContainerError fp child reqs.name]) = [] ↔ reqs.name ∈ supportedContainerNames := by
    by_cases h : reqs.name ∈ supportedContainerNames <;> simp [h]
  simp only [expectedRequirementErrors, List.append_eq_nil, List.filterMap_eq_nil_iff, zeroQuantity?_eq_none_iff,
    limitBelowRequest?_eq_none_iff, hname, and_assoc]

/-- A list of requirements gives no error exactly when it is `ResourcesOk`. -/
theorem expectedResourceErrors_eq_nil_iff (resources : List ResourceRequirements)
    (supportedContainerNames : List String) (fp : Path) (child : String) :
    expectedResourceErrors resources supportedContainerNames fp child = [] ↔
      ResourcesOk supportedContainerNames resources := by
  have hempty : (if resources.length = 0 then [emptyResourcesError fp child resources] else []) = [] ↔
      resources ≠ [] := by
    cases resources <;> simp
  simp only [expectedResourceErrors, ResourcesOk, List.append_eq_nil, List.flatMap_eq_nil_iff,
    expectedRequirementErrors_eq_nil_iff, hempty]

/-- The components whose `ContainerResources` reflection reaches, each with its image spec and
the manifest directory its container names come from: the six of `spec`, and `multus`. -/
def resourceComponents (manifestBaseDir : String) (spec : NicClusterPolicySpec) :
    List (Option ImageSpec × String) :=
  [(spec.ofedDriver.map (·.imageSpec), filepathJoin manifestBaseDir "state-ofed-driver"),
   (spec.rdmaSharedDevicePlugin.map (·.imageSpec), filepathJoin manifestBaseDir "state-rdma-device-plugin"),
   (spec.sriovDevicePlugin.map (·.imageSpec), filepathJoin manifestBaseDir "state-sriov-device-plugin"),
   (spec.ibKubernetes.map (·.imageSpec), filepathJoin manifestBaseDir "state-ib-kubernetes"),
   (spec.nvIpam.map (·.imageSpec), filepathJoin manifestBaseDir "state-nv-ipam-cni"),
   (spec.nicFeatureDiscovery.map (·.imageSpec), filepathJoin manifestBaseDir "state-nic-feature-discovery"),
   ((spec.secondaryNetwork.bind (·.multus)).map (·.imageSpec), filepathJoin manifestBaseDir "state-multus-cni")]

theorem componentResourceErrors_eq_nil_iff (parseContainerNames : String → NicClusterPolicy → List String)
    (policy : NicClusterPolicy) (fp : Path) (name typeName : String) (component : Option ImageSpec)
    (dir : String) :
    componentResourceErrors parseContainerNames policy fp (name, ⟨some ⟨typeName, component⟩, dir⟩) = [] ↔
      (typeName ∈ embedsImageSpec → ∀ imageSpec ∈ component, ∀ resources ∈ imageSpec.containerResources,
        ResourcesOk (parseContainerNames dir policy) resources) := by
  rcases component with _ | imageSpec
  · simp [componentResourceErrors]
  · rcases h : imageSpec.containerResources with _ | resources
    · simp [componentResourceErrors, h]
    · by_cases ht : typeName ∈ embedsImageSpec <;>
        simp [componentResourceErrors, h, ht, expectedResourceErrors_eq_nil_iff]

/-- The container resources pass exactly when those of every component reflection reaches are
`ResourcesOk`. -/
theorem containerResourceErrors_eq_nil_iff (manifestBaseDir : String)
    (parseContainerNames : String → NicClusterPolicy → List String) (policy : NicClusterPolicy) :
    containerResourceErrors manifestBaseDir parseContainerNames policy = [] ↔
      ∀ c ∈ resourceComponents manifestBaseDir policy.spec, ∀ imageSpec ∈ c.1,
        ∀ resources ∈ imageSpec.containerResources, ResourcesOk (parseContainerNames c.2 policy) resources := by
  obtain ⟨⟨h₁, h₂, h₃, h₄, h₅⟩, h₆⟩ : ("OFEDDriverSpec" ∈ embedsImageSpec ∧ "DevicePluginSpec" ∈ embedsImageSpec ∧
      "IBKubernetesSpec" ∈ embedsImageSpec ∧ "NVIPAMSpec" ∈ embedsImageSpec ∧
      "NICFeatureDiscoverySpec" ∈ embedsImageSpec) ∧ "MultusSpec" ∈ embedsImageSpec ∧
      "ImageSpec" ∉ embedsImageSpec := by decide
  unfold containerResourceErrors resourceComponents
  split <;> rename_i hsn <;>
    simp only [hsn, topLevelStates, secondaryNetworkStates, List.flatMap_eq_nil_iff, List.append_eq_nil,
      List.forall_mem_cons, List.not_mem_nil, false_implies, implies_true, and_true,
      componentResourceErrors_eq_nil_iff, h₁, h₂, h₃, h₄, h₅, h₆.1, h₆.2, true_implies, true_and,
      Option.some_bind, Option.none_bind, Option.map_none', Option.not_mem_none, and_assoc]

/-! ### The checks after the container resources -/

/-- The InfiniBand check passes exactly when both bounds of the GUID pool are GUIDs and the end's
bytes, read big-endian, are above the start's. -/
theorem ibKubernetes_validate_eq_nil_iff_writesGUID (ibk : IBKubernetesSpec) (fldPath : Path) :
    ibKubernetesSpecWrapper.validate ibk fldPath = .ok [] ↔
      ∃ startBytes endBytes, WritesGUID ibk.pKeyGUIDPoolRangeStart startBytes ∧
        WritesGUID ibk.pKeyGUIDPoolRangeEnd endBytes ∧ bigEndian startBytes < bigEndian endBytes := by
  rw [(ibKubernetes_validate_eq_nil_iff ibk fldPath).2]
  constructor
  · rintro ⟨hs, he, a, b, ha, hb, hab⟩
    obtain ⟨startBytes, hsb⟩ := (isValidPKeyGUID_iff _).mp hs
    obtain ⟨endBytes, heb⟩ := (isValidPKeyGUID_iff _).mp he
    rw [bigIntSetString16_of_writesGUID hsb, Option.some.injEq] at ha
    rw [bigIntSetString16_of_writesGUID heb, Option.some.injEq] at hb
    subst ha hb
    exact ⟨startBytes, endBytes, hsb, heb, Int.ofNat_lt.mp hab⟩
  · rintro ⟨startBytes, endBytes, hsb, heb, hlt⟩
    exact ⟨(isValidPKeyGUID_iff _).mpr ⟨_, hsb⟩, (isValidPKeyGUID_iff _).mpr ⟨_, heb⟩, _, _,
      bigIntSetString16_of_writesGUID hsb, bigIntSetString16_of_writesGUID heb, Int.ofNat_lt.mpr hlt⟩

/-- The OFED driver passes exactly when its version is in the version pattern and its upgrade
policy, if any, asks for `safeLoad` only with `autoUpgrade`. -/
theorem ofedDriver_errors_eq_nil_iff (ofedDriver : OFEDDriverSpec) (fldPath : Path) :
    validateVersion ofedDriver fldPath ++ validateSafeLoad ofedDriver fldPath = [] ↔
      isValidOFEDVersion ofedDriver.imageSpec.version = true ∧
        ∀ upgradePolicy ∈ ofedDriver.ofedUpgradePolicy,
          upgradePolicy.safeLoad = true → upgradePolicy.autoUpgrade = true := by
  rcases ofedDriver with ⟨imageSpec, _ | ⟨autoUpgrade, safeLoad⟩⟩
  · cases h : isValidOFEDVersion imageSpec.version <;> simp [validateVersion, validateSafeLoad, h]
  · cases h : isValidOFEDVersion imageSpec.version <;> cases autoUpgrade <;> cases safeLoad <;>
      simp [validateVersion, validateSafeLoad, h]

/-- The RDMA shared device plugin's `Config` as its check accepts it: present, decoding into a
map (a JSON object, or `null`, the nil map), its schema loaded and accepting it, and every entry
of `configList` valid. -/
def RdmaConfigAccepted (env : JsonEnv) (config : Option String) : Prop :=
  ∃ c, config = some c ∧ ∃ configJSON, env.unmarshalMap c = .ok configJSON ∧
    ∃ schema, env.getSchema "rdma_shared_device_plugin" = .ok (.ok schema) ∧ schema.validate c = .ok [] ∧
      ∀ entry ∈ (JsonObject.index configJSON "configList").asArray, rdmaEntryValid entry

/-- The SR-IOV device plugin's `Config` as its check accepts it: present, decoding into a map (a
JSON object, or `null`, the nil map), the four schemas loaded, the plugin's accepting it, and
every entry of `resourceList` valid. -/
def SriovConfigAccepted (env : JsonEnv) (config : Option String) : Prop :=
  ∃ c, config = some c ∧ ∃ configJSON, env.unmarshalMap c = .ok configJSON ∧
    ∃ sriovSchema acceleratorJSONSchema netDeviceJSONSchema auxNetDeviceJSONSchema,
      env.getSchema "sriov_network_device_plugin" = .ok (.ok sriovSchema) ∧
      env.getSchema "accelerator_selector" = .ok (.ok acceleratorJSONSchema) ∧
      env.getSchema "net_device" = .ok (.ok netDeviceJSONSchema) ∧
      env.getSchema "aux_net_device" = .ok (.ok auxNetDeviceJSONSchema) ∧
      sriovSchema.validate c = .ok [] ∧
      ∀ entry ∈ (JsonObject.index configJSON "resourceList").asArray,
        sriovEntryValid env acceleratorJSONSchema netDeviceJSONSchema auxNetDeviceJSONSchema entry

theorem validateRdmaSharedDevicePlugin_eq_nil_iff_accepted (env : JsonEnv) (dp : DevicePluginSpec)
    (fldPath : Path) :
    validateRdmaSharedDevicePlugin env dp fldPath = .ok [] ↔ RdmaConfigAccepted env dp.config := by
  rcases dp with ⟨imageSpec, _ | config⟩
  · simp [validateRdmaSharedDevicePlugin, RdmaConfigAccepted]
  · rw [validateRdmaSharedDevicePlugin_eq_nil_iff]
    simp only [RdmaConfigAccepted, Option.some.injEq, exists_eq_left']

theorem validateSriovNetworkDevicePlugin_eq_nil_iff_accepted (env : JsonEnv) (dp : DevicePluginSpec)
    (fldPath : Path) :
    validateSriovNetworkDevicePlugin env dp fldPath = .ok [] ↔ SriovConfigAccepted env dp.config := by
  rcases dp with ⟨imageSpec, _ | config⟩
  · simp [validateSriovNetworkDevicePlugin, SriovConfigAccepted]
  · rw [validateSriovNetworkDevicePlugin_eq_nil_iff]
    simp only [SriovConfigAccepted, Option.some.injEq, exists_eq_left']

theorem appendErrs_nil_eq_ok_nil_iff (errs : Except Panic (List FieldError)) :
    appendErrs [] errs = .ok [] ↔ errs = .ok [] := by
  cases errs <;> simp [appendErrs, Except.map]

/-- The parts after the container resources find nothing exactly when InfiniBand, the OFED
driver and the two device plugins, those declared, pass. -/
theorem validationPhases_drop_two_eq_ok_nil_iff (env : ValidatorEnv) (w : NicClusterPolicy) :
    (∀ part ∈ (validationPhases env).drop 2, part w [] = .ok []) ↔
      (∀ ibk ∈ w.spec.ibKubernetes, ∃ startBytes endBytes, WritesGUID ibk.pKeyGUIDPoolRangeStart startBytes ∧
        WritesGUID ibk.pKeyGUIDPoolRangeEnd endBytes ∧ bigEndian startBytes < bigEndian endBytes) ∧
      (∀ ofedDriver ∈ w.spec.ofedDriver, isValidOFEDVersion ofedDriver.imageSpec.version = true ∧
        ∀ upgradePolicy ∈ ofedDriver.ofedUpgradePolicy,
          upgradePolicy.safeLoad = true → upgradePolicy.autoUpgrade = true) ∧
      (∀ dp ∈ w.spec.rdmaSharedDevicePlugin, RdmaConfigAccepted env.json dp.config) ∧
      (∀ dp ∈ w.spec.sriovDevicePlugin, SriovConfigAccepted env.json dp.config) := by
  simp only [validationPhases, List.drop_succ_cons, List.drop_zero, List.forall_mem_cons, List.not_mem_nil,
    false_implies, implies_true, and_true]
  refine and_congr ?ib (and_congr ?ofed (and_congr ?rdma ?sriov)) <;> split <;> rename_i h <;>
    simp only [h, Option.mem_def, reduceCtorEq, false_implies, implies_true, Option.some.injEq, forall_eq',
      appendErrs_nil_eq_ok_nil_iff, Except.ok.injEq, List.nil_append]
  case ib.h_1 => exact ibKubernetes_validate_eq_nil_iff_writesGUID _ _
  case ofed.h_1 => exact ofedDriver_errors_eq_nil_iff _ _
  case rdma.h_1 => exact validateRdmaSharedDevicePlugin_eq_nil_iff_accepted _ _ _
  case sriov.h_1 => exact validateSriovNetworkDevicePlugin_eq_nil_iff_accepted _ _ _

/-! ### The whole policy -/

/-- Parts that only add errors of their own find none, run in turn, exactly when each finds
none. -/
theorem runPhases_eq_ok_nil_iff (w : NicClusterPolicy)
    (phases : List (NicClusterPolicy → List FieldError → Except Panic (List FieldError)))
    (hphases : ∀ part ∈ phases, ∀ allErrs, part w allErrs = (part w []).map (allErrs ++ ·)) :
    runPhases phases w [] = .ok [] ↔ ∀ part ∈ phases, part w [] = .ok [] := by
  induction phases with
  | nil => simp [runPhases, pure, Except.pure]
  | cons part rest ih =>
    have hrest : ∀ p ∈ rest, ∀ allErrs, p w allErrs = (p w []).map (allErrs ++ ·) :=
      fun p hp => hphases p (.tail _ hp)
    rw [runPhases_cons, List.forall_mem_cons, ← ih hrest]
    cases part w [] with
    | error p => simp [bind, Except.bind]
    | ok errs =>
      simp only [bind, Except.bind, Except.ok.injEq]
      rw [runPhases_eq_map_append w rest hrest errs]
      cases runPhases rest w [] <;> simp [Except.map]

theorem map_verdict_eq_ok_none_iff (w : NicClusterPolicy) (errs : List FieldError)
    (rest : Except Panic (List FieldError)) :
    rest.map (fun rest => verdict w (errs ++ rest)) = .ok none ↔ errs = [] ∧ rest = .ok [] := by
  cases rest <;> simp [Except.map, verdict]

/-- **What the webhook asks of a policy**, component by component, for the oracles of `env`. -/
structure Admitted (env : ValidatorEnv) (w : NicClusterPolicy) : Prop where
  /-- Every declared component's repository parses as a normalized named reference. -/
  repositories : ∀ c ∈ componentPaths w.spec, ∀ imageSpec ∈ c.2,
    env.parseNormalizedNamed imageSpec.repository = true
  /-- The declared `ContainerResources` reflection reaches are as `ResourcesOk` asks, for the
  container names of the component's manifests. -/
  containerResources : ∀ c ∈ resourceComponents env.manifestBaseDir w.spec, ∀ imageSpec ∈ c.1,
    ∀ resources ∈ imageSpec.containerResources, ResourcesOk (env.parseContainerNames c.2 w) resources
  /-- The GUID pool is two GUIDs, the end above the start. -/
  ibKubernetes : ∀ ibk ∈ w.spec.ibKubernetes, ∃ startBytes endBytes,
    WritesGUID ibk.pKeyGUIDPoolRangeStart startBytes ∧ WritesGUID ibk.pKeyGUIDPoolRangeEnd endBytes ∧
      bigEndian startBytes < bigEndian endBytes
  /-- The OFED version is in the version pattern, and `safeLoad` comes with `autoUpgrade`. -/
  ofedDriver : ∀ ofedDriver ∈ w.spec.ofedDriver, isValidOFEDVersion ofedDriver.imageSpec.version = true ∧
    ∀ upgradePolicy ∈ ofedDriver.ofedUpgradePolicy,
      upgradePolicy.safeLoad = true → upgradePolicy.autoUpgrade = true
  rdmaSharedDevicePlugin : ∀ dp ∈ w.spec.rdmaSharedDevicePlugin, RdmaConfigAccepted env.json dp.config
  sriovDevicePlugin : ∀ dp ∈ w.spec.sriovDevicePlugin, SriovConfigAccepted env.json dp.config

/-- **When the webhook admits a policy.**  For every policy and every oracle,
`validateNicClusterPolicy` returns nil exactly when the policy is `Admitted`: it neither panics
nor reports an error exactly when every declared component passes what its own check asks. -/
theorem validateNicClusterPolicy_admits_iff (env : ValidatorEnv) (w : NicClusterPolicy) :
    validateNicClusterPolicy env w = .ok none ↔ Admitted env w := by
  obtain ⟨errs, hcr, hperm⟩ := validateContainerResources_perm env.componentOrder env.resourceOrder
    env.manifestBaseDir env.parseContainerNames w (validateRepositories env.parseNormalizedNamed w [])
  have hnil : errs = [] ↔ containerResourceErrors env.manifestBaseDir env.parseContainerNames w = [] := by
    rw [← List.length_eq_zero, hperm.length_eq, List.length_eq_zero]
  rw [validateNicClusterPolicy_eq_containerResources_append, map_verdict_eq_ok_none_iff,
    runPhases_eq_ok_nil_iff w _ (validationPhases_drop_two_append env w), hcr, List.append_eq_nil,
    hnil, validateRepositories_eq_nil_iff, containerResourceErrors_eq_nil_iff,
    validationPhases_drop_two_eq_ok_nil_iff]
  exact ⟨fun ⟨⟨h₁, h₂⟩, h₃, h₄, h₅, h₆⟩ => ⟨h₁, h₂, h₃, h₄, h₅, h₆⟩,
    fun ⟨h₁, h₂, h₃, h₄, h₅, h₆⟩ => ⟨⟨h₁, h₂⟩, h₃, h₄, h₅, h₆⟩⟩

end NetworkOperator.Validator
