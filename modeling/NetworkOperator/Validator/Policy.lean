import NetworkOperator.Validator.Resources
import NetworkOperator.Validator.DevicePlugin

/-!
# Validator — `validateNicClusterPolicy`

The whole check of a `NicClusterPolicy`, in the order the source runs its parts: the image
repositories, the container resources of every component, the InfiniBand GUID pool, the OFED
version and safe-load setting, and the two device plugin configs.  It returns nil, an
`Invalid` error listing every field error, or a run-time panic.

* `validateNicClusterPolicy_eq_runPhases`: the check is its parts (`validationPhases`) run in
  turn on the policy the validator holds, then the verdict; the webhook interleaves calls at
  these parts.
* `validateNicClusterPolicy_nil_config_panics`: a policy whose RDMA shared device plugin has no
  `Config` makes the check panic, whatever the schemas and the other oracles.
* `validateNicClusterPolicy_map_orders`: the order in which Go ranges over the component maps
  and the resource maps changes nothing but the order of the field errors reported.
* `validateNicClusterPolicy_cniPlugins_unchecked`: a secondary network whose `cniPlugins`
  declares an empty `ContainerResources` passes the check when its repository parses.
-/

namespace NetworkOperator.Validator

open NetworkOperator.V1alpha1

/-- What `validateNicClusterPolicy` reads besides the policy: the JSON decoder and the loaded
schemas; whether `reference.ParseNormalizedNamed` accepts a repository; `envConfig`'s
`ManifestBaseDir`; `state.ParseContainerNames` on the renderer of a manifest directory, a total
function here (on a failed `newState` the code hands it a nil renderer); and the
orders the runtime ranges over the component maps and the quantity maps. -/
structure ValidatorEnv where
  json : JsonEnv
  parseNormalizedNamed : String → Bool
  manifestBaseDir : String
  parseContainerNames : String → NicClusterPolicy → List String
  componentOrder : RangeOrder Bool String stateRenderData
  resourceOrder : RangeOrder ResourceLoop String ℚ

/-- Schemas loaded that accept every document, and a decoder that reads only the empty object
`{}`. -/
def acceptingJsonEnv : JsonEnv where
  parse config := if config = "\x7b\x7d" then .ok (.object []) else .error "invalid character"
  marshal _ := "\x7b\x7d"
  schemaValidators := some ⟨["rdma_shared_device_plugin", "sriov_network_device_plugin",
    "accelerator_selector", "net_device", "aux_net_device"].map fun n => (n, ⟨fun _ => .ok []⟩), by decide⟩

/-- The decoder and schemas of `acceptingJsonEnv`; every repository parses, the manifests name no
container, and every map is ranged over in the order of its entries. -/
def acceptingEnv : ValidatorEnv where
  json := acceptingJsonEnv
  parseNormalizedNamed _ := true
  manifestBaseDir := "/manifests"
  parseContainerNames _ _ := []
  componentOrder := ⟨fun _ l => l, fun _ l => .refl l⟩
  resourceOrder := ⟨fun _ l => l, fun _ l => .refl l⟩

/-! ### Repositories -/

/-- `validateRepository`. -/
def validateRepository (parseNormalizedNamed : String → Bool) (repo : String)
    (allErrs : List FieldError) (fp : Path) (child : String) : List FieldError :=
  if parseNormalizedNamed repo then allErrs
  else allErrs ++ [invalid ((fp.child child).child "repository") (.string repo)
    "invalid container image repository format"]

/-- `validateRepository` of a component's image spec, when the component is present. -/
def validateRepositoryIfPresent (parseNormalizedNamed : String → Bool) (fp : Path)
    (allErrs : List FieldError) (component : Option ImageSpec × String) : List FieldError :=
  match component with
  | (some imageSpec, child) => validateRepository parseNormalizedNamed imageSpec.repository allErrs fp child
  | (none, _) => allErrs

/-- `nicClusterPolicyValidator.validateRepositories`: each component with the child name the
source gives its path; the OFED driver's is `nicFeatureDiscovery`. -/
def validateRepositories (parseNormalizedNamed : String → Bool) (w : NicClusterPolicy)
    (allErrs : List FieldError) : List FieldError :=
  let fp := Path.newPath "spec"
  let allErrs := [(w.spec.ofedDriver.map (·.imageSpec), "nicFeatureDiscovery"),
      (w.spec.rdmaSharedDevicePlugin.map (·.imageSpec), "rdmaSharedDevicePlugin"),
      (w.spec.sriovDevicePlugin.map (·.imageSpec), "sriovDevicePlugin"),
      (w.spec.ibKubernetes.map (·.imageSpec), "ibKubernetes"),
      (w.spec.nvIpam.map (·.imageSpec), "nvIpam"),
      (w.spec.nicFeatureDiscovery.map (·.imageSpec), "nicFeatureDiscovery")].foldl
    (validateRepositoryIfPresent parseNormalizedNamed fp) allErrs
  match w.spec.secondaryNetwork with
  | some sn =>
    [(sn.cniPlugins, "cniPlugins"), (sn.ipoib, "ipoib"), (sn.multus.map (·.imageSpec), "multus"),
      (sn.ipamPlugin, "ipamPlugin")].foldl
      (validateRepositoryIfPresent parseNormalizedNamed (fp.child "secondaryNetwork")) allErrs
  | none => allErrs

/-! ### InfiniBand GUID pool -/

/-- `strings.ReplaceAll(guid, ":", "")`. -/
def replaceAllColons (guid : String) : String := ⟨guid.toList.filter (· ≠ ':')⟩

/-- The value of a hexadecimal digit. -/
def hexDigitValue (c : Char) : Option Nat :=
  if '0' ≤ c ∧ c ≤ '9' then some (c.toNat - '0'.toNat)
  else if 'a' ≤ c ∧ c ≤ 'f' then some (c.toNat - 'a'.toNat + 10)
  else if 'A' ≤ c ∧ c ≤ 'F' then some (c.toNat - 'A'.toNat + 10)
  else none

/-- The value of the hexadecimal digits `ds` after the value `acc` of those before them. -/
def hexValue (acc : Nat) : List Char → Option Nat
  | [] => some acc
  | d :: ds => (hexDigitValue d).bind fun v => hexValue (acc * 16 + v) ds

/-- `new(big.Int).SetString(s, 16)`: an optional sign, then one hexadecimal digit or more; the
whole string must be valid, or the result is nil. -/
def bigIntSetString16 (s : String) : Option Int :=
  let digits (ds : List Char) : Option Nat := if ds = [] then none else hexValue 0 ds
  match s.toList with
  | '-' :: ds => (digits ds).map fun n => -(n : Int)
  | '+' :: ds => (digits ds).map (↑)
  | ds => (digits ds).map (↑)

/-- `isValidPKeyRange`: `end.Cmp(start) > 0`, the pointers nil where `SetString` failed.  `Cmp`
of two nil pointers finds them equal; of one nil pointer, it dereferences it. -/
def isValidPKeyRange (startGUID endGUID : String) : Except Panic Bool :=
  match bigIntSetString16 (replaceAllColons startGUID), bigIntSetString16 (replaceAllColons endGUID) with
  | some startGUIDIntValue, some endGUIDIntValue => .ok (decide (startGUIDIntValue < endGUIDIntValue))
  | none, none => .ok false
  | _, _ => .error .nilPointerDereference

/-- `ibKubernetesSpecWrapper.validate`. -/
def ibKubernetesSpecWrapper.validate (ibk : IBKubernetesSpec) (fldPath : Path) :
    Except Panic (List FieldError) :=
  if !isValidPKeyGUID ibk.pKeyGUIDPoolRangeStart || !isValidPKeyGUID ibk.pKeyGUIDPoolRangeEnd then
    .ok ((if !isValidPKeyGUID ibk.pKeyGUIDPoolRangeStart then
        [invalid (fldPath.child "pKeyGUIDPoolRangeStart") (.string ibk.pKeyGUIDPoolRangeStart)
          ("pKeyGUIDPoolRangeStart must be a valid GUID format:" ++
            "xx:xx:xx:xx:xx:xx:xx:xx with Hexa numbers")]
      else []) ++
      (if !isValidPKeyGUID ibk.pKeyGUIDPoolRangeEnd then
        [invalid (fldPath.child "pKeyGUIDPoolRangeEnd") (.string ibk.pKeyGUIDPoolRangeEnd)
          ("pKeyGUIDPoolRangeEnd must be a valid GUID format: " ++
            "xx:xx:xx:xx:xx:xx:xx:xx with Hexa numbers")]
      else []))
  else
    match isValidPKeyRange ibk.pKeyGUIDPoolRangeStart ibk.pKeyGUIDPoolRangeEnd with
    | .error p => .error p
    | .ok true => .ok []
    | .ok false => .ok [invalid (fldPath.child "pKeyGUIDPoolRangeEnd") (.string ibk.pKeyGUIDPoolRangeEnd)
        "pKeyGUIDPoolRangeStart-pKeyGUIDPoolRangeEnd must be a valid range"]

/-! ### OFED driver -/

/-- `ofedDriverSpecWrapper.validateVersion`. -/
def validateVersion (ofedSpec : OFEDDriverSpec) (fldPath : Path) : List FieldError :=
  if !isValidOFEDVersion ofedSpec.imageSpec.version then
    [invalid (fldPath.child "version") (.string ofedSpec.imageSpec.version)
      "invalid OFED version, the regex used for validation is ^(\\d+\\.\\d+-\\d+(\\.\\d+)*)$ "]
  else []

/-- `ofedDriverSpecWrapper.validateSafeLoad`. -/
def validateSafeLoad (ofedSpec : OFEDDriverSpec) (fldPath : Path) : List FieldError :=
  match ofedSpec.ofedUpgradePolicy with
  | none => []
  | some upgradePolicy =>
    if !upgradePolicy.safeLoad then []
    else
      let upgradePolicyFieldPath := fldPath.child "upgradePolicy"
      if !upgradePolicy.autoUpgrade then
        [forbidden (upgradePolicyFieldPath.child "safeLoad")
          ("safeLoad requires " ++ (upgradePolicyFieldPath.child "autoUpgrade").toString ++ " to be true")]
      else []

/-! ### The whole policy -/

/-- `nicClusterPolicyValidator.validateNicClusterPolicy` on the policy `w` the validator holds:
nil, or the `Invalid` error of the field errors found. -/
def validateNicClusterPolicy (env : ValidatorEnv) (w : NicClusterPolicy) :
    Except Panic (Option StatusError) := do
  let mut allErrs := validateRepositories env.parseNormalizedNamed w []
  allErrs := validateContainerResources env.componentOrder env.resourceOrder env.manifestBaseDir
    env.parseContainerNames w allErrs
  if let some ibKubernetes := w.spec.ibKubernetes then
    allErrs := allErrs ++
      (← ibKubernetesSpecWrapper.validate ibKubernetes ((Path.newPath "spec").child "ibKubernetes"))
  if let some ofedDriver := w.spec.ofedDriver then
    let ofedDriverFieldPath := (Path.newPath "spec").child "ofedDriver"
    allErrs := allErrs ++ validateVersion ofedDriver ofedDriverFieldPath ++
      validateSafeLoad ofedDriver ofedDriverFieldPath
  if let some rdmaSharedDevicePlugin := w.spec.rdmaSharedDevicePlugin then
    allErrs := allErrs ++ (← validateRdmaSharedDevicePlugin env.json rdmaSharedDevicePlugin
      ((Path.newPath "spec").child "rdmaSharedDevicePlugin"))
  if let some sriovNetworkDevicePlugin := w.spec.sriovDevicePlugin then
    allErrs := allErrs ++ (← validateSriovNetworkDevicePlugin env.json sriovNetworkDevicePlugin
      ((Path.newPath "spec").child "sriovNetworkDevicePlugin"))
  if allErrs.isEmpty then return none
  return some ⟨"mellanox.com", "NicClusterPolicy", w.name, allErrs⟩

/-! ### The parts of the check -/

/-- Adding the errors of a check that can panic to those found so far. -/
def appendErrs (allErrs : List FieldError) (errs : Except Panic (List FieldError)) :
    Except Panic (List FieldError) :=
  errs.map (allErrs ++ ·)

/-- The parts of `validateNicClusterPolicy` in the order it runs them, each reading the policy
the validator holds when it runs, and adding its errors to those found so far. -/
def validationPhases (env : ValidatorEnv) :
    List (NicClusterPolicy → List FieldError → Except Panic (List FieldError)) :=
  [fun w allErrs => .ok (validateRepositories env.parseNormalizedNamed w allErrs),
   fun w allErrs => .ok (validateContainerResources env.componentOrder env.resourceOrder
      env.manifestBaseDir env.parseContainerNames w allErrs),
   fun w allErrs => match w.spec.ibKubernetes with
     | some ibKubernetes => appendErrs allErrs
        (ibKubernetesSpecWrapper.validate ibKubernetes ((Path.newPath "spec").child "ibKubernetes"))
     | none => .ok allErrs,
   fun w allErrs => match w.spec.ofedDriver with
     | some ofedDriver =>
       let ofedDriverFieldPath := (Path.newPath "spec").child "ofedDriver"
       .ok (allErrs ++ validateVersion ofedDriver ofedDriverFieldPath ++
         validateSafeLoad ofedDriver ofedDriverFieldPath)
     | none => .ok allErrs,
   fun w allErrs => match w.spec.rdmaSharedDevicePlugin with
     | some rdmaSharedDevicePlugin => appendErrs allErrs (validateRdmaSharedDevicePlugin env.json
        rdmaSharedDevicePlugin ((Path.newPath "spec").child "rdmaSharedDevicePlugin"))
     | none => .ok allErrs,
   fun w allErrs => match w.spec.sriovDevicePlugin with
     | some sriovNetworkDevicePlugin => appendErrs allErrs (validateSriovNetworkDevicePlugin env.json
        sriovNetworkDevicePlugin ((Path.newPath "spec").child "sriovNetworkDevicePlugin"))
     | none => .ok allErrs]

/-- The end of `validateNicClusterPolicy`: nil when no error was found, and otherwise
`apierrors.NewInvalid` naming the policy `w` the validator holds. -/
def verdict (w : NicClusterPolicy) (allErrs : List FieldError) : Option StatusError :=
  if allErrs.isEmpty then none else some ⟨"mellanox.com", "NicClusterPolicy", w.name, allErrs⟩

/-- The parts `phases` run in turn, each reading the policy `w`. -/
def runPhases (phases : List (NicClusterPolicy → List FieldError → Except Panic (List FieldError)))
    (w : NicClusterPolicy) (allErrs : List FieldError) : Except Panic (List FieldError) :=
  phases.foldlM (fun allErrs phase => phase w allErrs) allErrs

theorem runPhases_cons (part : NicClusterPolicy → List FieldError → Except Panic (List FieldError))
    (rest : List (NicClusterPolicy → List FieldError → Except Panic (List FieldError)))
    (w : NicClusterPolicy) (allErrs : List FieldError) :
    runPhases (part :: rest) w allErrs = part w allErrs >>= runPhases rest w := rfl

theorem runPhases_append (l₁ l₂ : List (NicClusterPolicy → List FieldError → Except Panic (List FieldError)))
    (w : NicClusterPolicy) (allErrs : List FieldError) :
    runPhases (l₁ ++ l₂) w allErrs = runPhases l₁ w allErrs >>= runPhases l₂ w := by
  simp only [runPhases, List.foldlM_append]
  rfl

/-- `validateNicClusterPolicy` is its parts run in turn on the policy the validator holds, then
the verdict on what they found. -/
theorem validateNicClusterPolicy_eq_runPhases (env : ValidatorEnv) (w : NicClusterPolicy) :
    validateNicClusterPolicy env w = (runPhases (validationPhases env) w []).map (verdict w) := by
  rcases w with ⟨name, ofed, rdma, sriov, ib, nvIpam, nfd, sn, tolerations, nodeAffinity⟩
  have hmap : ∀ {α β : Type} (f : α → β) (x : Except Panic α), x.map f = f <$> x := fun _ _ => rfl
  have hok : ∀ {α : Type} (x : α), (Except.ok x : Except Panic α) = pure x := fun _ => rfl
  cases ib <;> cases ofed <;> cases rdma <;> cases sriov <;>
    simp only [validateNicClusterPolicy, runPhases, validationPhases, appendErrs, List.foldlM, hmap, hok,
      verdict, apply_ite (pure : Option StatusError → Except Panic (Option StatusError)), bind_map_left,
      map_bind, pure_bind, map_pure, List.append_assoc]

/-! ### The order of the maps -/

/-- Parts that add errors of their own to those found so far, whatever these are, run from any
errors as from none, behind them. -/
theorem runPhases_eq_map_append (w : NicClusterPolicy)
    (phases : List (NicClusterPolicy → List FieldError → Except Panic (List FieldError)))
    (hphases : ∀ part ∈ phases, ∀ allErrs, part w allErrs = (part w []).map (allErrs ++ ·))
    (allErrs : List FieldError) :
    runPhases phases w allErrs = (runPhases phases w []).map (allErrs ++ ·) := by
  induction phases generalizing allErrs with
  | nil => simp [runPhases, Except.map, pure, Except.pure]
  | cons part rest ih =>
    have hrest := ih fun p hp => hphases p (.tail _ hp)
    rw [runPhases_cons, runPhases_cons, hphases part (.head _)]
    cases part w [] with
    | error p => rfl
    | ok errs =>
      simp only [Except.map, bind, Except.bind, List.nil_append]
      rw [hrest, hrest errs]
      cases runPhases rest w [] <;> simp [Except.map]

theorem appendErrs_eq_map (allErrs : List FieldError) (errs : Except Panic (List FieldError)) :
    appendErrs allErrs errs = (appendErrs [] errs).map (allErrs ++ ·) := by
  cases errs <;> rfl

/-- The parts after the container resources add errors of their own. -/
theorem validationPhases_drop_two_append (env : ValidatorEnv) (w : NicClusterPolicy) :
    ∀ part ∈ (validationPhases env).drop 2, ∀ allErrs,
      part w allErrs = (part w []).map (allErrs ++ ·) := by
  simp only [validationPhases, List.drop_succ_cons, List.drop_zero, List.mem_cons, List.mem_singleton,
    List.not_mem_nil, or_false, forall_eq_or_imp, forall_eq]
  refine ⟨fun allErrs => ?_, fun allErrs => ?_, fun allErrs => ?_, fun allErrs => ?_⟩ <;> split <;>
    first | exact appendErrs_eq_map _ _ | simp [Except.map, List.append_assoc]


/-- The check, cut after the container resources: the later parts add their errors behind theirs. -/
theorem validateNicClusterPolicy_eq_containerResources_append (env : ValidatorEnv) (w : NicClusterPolicy) :
    validateNicClusterPolicy env w = (runPhases ((validationPhases env).drop 2) w []).map fun rest =>
      verdict w (validateContainerResources env.componentOrder env.resourceOrder env.manifestBaseDir
        env.parseContainerNames w (validateRepositories env.parseNormalizedNamed w []) ++ rest) := by
  have htake : runPhases ((validationPhases env).take 2) w [] = .ok (validateContainerResources
      env.componentOrder env.resourceOrder env.manifestBaseDir env.parseContainerNames w
      (validateRepositories env.parseNormalizedNamed w [])) := rfl
  rw [validateNicClusterPolicy_eq_runPhases]
  conv_lhs => rw [← List.take_append_drop 2 (validationPhases env), runPhases_append, htake]
  simp only [bind, Except.bind]
  rw [runPhases_eq_map_append w _ (validationPhases_drop_two_append env w)]
  cases runPhases ((validationPhases env).drop 2) w [] <;> rfl

/-- The parts after the container resources read, of the environment, only the JSON decoder and
the schemas. -/
theorem validationPhases_drop_two_eq (env env' : ValidatorEnv) (h : env'.json = env.json) :
    (validationPhases env').drop 2 = (validationPhases env).drop 2 := by
  simp only [validationPhases, List.drop_succ_cons, List.drop_zero, h]

/-- **Go's map order only reorders the errors.**  For every policy and every two orders in which
the runtime may range over the component maps and the resource maps, `validateNicClusterPolicy`
panics in both runs alike, or admits the policy in both, or rejects it in both with the same
`Invalid` error up to the order of its field errors. -/
theorem validateNicClusterPolicy_map_orders (env : ValidatorEnv)
    (componentOrder : RangeOrder Bool String stateRenderData)
    (resourceOrder : RangeOrder ResourceLoop String ℚ) (w : NicClusterPolicy) :
    let env' := { env with componentOrder, resourceOrder }
    (∃ p, validateNicClusterPolicy env w = .error p ∧ validateNicClusterPolicy env' w = .error p) ∨
      (validateNicClusterPolicy env w = .ok none ∧ validateNicClusterPolicy env' w = .ok none) ∨
      ∃ err err', validateNicClusterPolicy env w = .ok (some err) ∧
        validateNicClusterPolicy env' w = .ok (some err') ∧ err' = { err with errs := err'.errs } ∧
        err.errs.Perm err'.errs := by
  intro env'
  obtain ⟨e, he, hp⟩ := validateContainerResources_perm env.componentOrder env.resourceOrder
    env.manifestBaseDir env.parseContainerNames w (validateRepositories env.parseNormalizedNamed w [])
  obtain ⟨e', he', hp'⟩ := validateContainerResources_perm env'.componentOrder env'.resourceOrder
    env'.manifestBaseDir env'.parseContainerNames w (validateRepositories env'.parseNormalizedNamed w [])
  rw [validateNicClusterPolicy_eq_containerResources_append env, validateNicClusterPolicy_eq_containerResources_append env',
    validationPhases_drop_two_eq env env' rfl, he, he']
  cases runPhases ((validationPhases env).drop 2) w [] with
  | error p => exact .inl ⟨p, rfl, rfl⟩
  | ok rest =>
    have hperm : (validateRepositories env.parseNormalizedNamed w [] ++ e ++ rest).Perm
        (validateRepositories env.parseNormalizedNamed w [] ++ e' ++ rest) :=
      ((hp.trans hp'.symm).append_left _).append_right _
    simp only [Except.map, verdict]
    generalize validateRepositories env.parseNormalizedNamed w [] ++ e ++ rest = l at hperm ⊢
    generalize validateRepositories env.parseNormalizedNamed w [] ++ e' ++ rest = l' at hperm ⊢
    by_cases h : l = []
    · have h' : l' = [] := (h ▸ hperm).symm.eq_nil
      exact .inr (.inl ⟨by simp [h], by simp [h']⟩)
    · have h' : l' ≠ [] := fun h' => h (h' ▸ hperm).eq_nil
      exact .inr (.inr ⟨_, _, by rw [if_neg (by simpa using h)], by rw [if_neg (by simpa using h')], rfl,
        hperm⟩)

/-! ### Two policies the check mishandles -/

/-- A policy with only an RDMA shared device plugin, which has no `Config`. -/
def rdmaWithoutConfig : NicClusterPolicy :=
  ⟨"nic-cluster-policy", ⟨none, some ⟨⟨"k8s-rdma-shared-dev-plugin", "ghcr.io/mellanox", "v1.5.1", none⟩,
    none⟩, none, none, none, none, none, [], none⟩⟩

/-- `validateNicClusterPolicy` dereferences the nil `Config` of `rdmaWithoutConfig` and panics,
whatever the schemas and the other oracles. -/
theorem validateNicClusterPolicy_nil_config_panics (env : ValidatorEnv) :
    validateNicClusterPolicy env rdmaWithoutConfig = .error .nilPointerDereference := by
  simp [validateNicClusterPolicy, rdmaWithoutConfig, validateRdmaSharedDevicePlugin, bind,
    Except.bind, pure, Except.pure]

/-- A policy with only a secondary network, whose `cniPlugins` declares an empty
`ContainerResources`. -/
def cniPluginsEmptyResources : NicClusterPolicy :=
  ⟨"nic-cluster-policy", ⟨none, none, none, none, none, none,
    some ⟨some ⟨"plugins", "ghcr.io/k8snetworkplumbingwg", "v1.5.0", some []⟩, none, none, none⟩,
    [], none⟩⟩

/-- `validateNicClusterPolicy` reports no error about the empty `ContainerResources` of
`cniPluginsEmptyResources`: reflection finds no field `ImageSpec` in an `*ImageSpec`, so the
policy passes whenever its repository parses. -/
theorem validateNicClusterPolicy_cniPlugins_unchecked (env : ValidatorEnv) :
    validateNicClusterPolicy env cniPluginsEmptyResources =
      .ok (if env.parseNormalizedNamed "ghcr.io/k8snetworkplumbingwg" then none
        else some ⟨"mellanox.com", "NicClusterPolicy", "nic-cluster-policy",
          [invalid ((((Path.newPath "spec").child "secondaryNetwork").child "cniPlugins").child
            "repository") (.string "ghcr.io/k8snetworkplumbingwg")
            "invalid container image repository format"]⟩) := by
  have hcr : ∀ allErrs, validateContainerResources env.componentOrder env.resourceOrder
      env.manifestBaseDir env.parseContainerNames cniPluginsEmptyResources allErrs = allErrs :=
    fun allErrs => validateContainerResources_eq_self _ _ _ _ _ allErrs (by
      simp [containerResourceErrors, topLevelStates, secondaryNetworkStates, componentResourceErrors,
        cniPluginsEmptyResources, embedsImageSpec])
  unfold validateNicClusterPolicy
  simp only [hcr]
  by_cases hp : env.parseNormalizedNamed "ghcr.io/k8snetworkplumbingwg" <;>
    simp [cniPluginsEmptyResources, validateRepositories, validateRepositoryIfPresent,
      validateRepository, hp, bind, Except.bind, pure, Except.pure]

end NetworkOperator.Validator
