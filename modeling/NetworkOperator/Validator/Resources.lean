import NetworkOperator.Validator.Field

/-!
# Validator — container resources

`validateResources` and `validateResourceRequirements`.  Both range over Go maps of
quantities, so the order of the errors they append is the runtime's: the loops are told apart
by `ResourceLoop`, and a `RangeOrder` picks each one's order.

* `validateResourceRequirements_perm`: for every list of `ResourceRequirements`, every set of
  supported container names and every order of the maps, the errors appended are, up to order,
  exactly `expectedResourceErrors`: one for an empty list; per entry one per zero CPU or memory
  quantity among its requests and among its limits, one per resource whose limit is below its
  request, and one for an unsupported container name.  The errors given on input come first,
  unchanged.
* `validateContainerResources_perm`: over the components, through reflection, the check appends,
  up to order, those errors for every declared component whose spec type embeds `ImageSpec`, and
  none for the three whose spec is an `*ImageSpec` (`cniPlugins`, `ipoib`, `ipamPlugin`).
-/

namespace NetworkOperator.Validator

open NetworkOperator.V1alpha1

/-- A `range` loop over a resource map: the component, the entry of its list, and which map. -/
structure ResourceLoop where
  component : String
  entry : Nat
  resourceType : String

/-- `v1.ResourceCPU` and `v1.ResourceMemory`. -/
def isCPUOrMemory (resourceName : String) : Bool := resourceName == "cpu" || resourceName == "memory"

/-- The error for a zero quantity. -/
def zeroQuantityError (fp : Path) (child resourceType resourceName : String) (quantity : ℚ) :
    FieldError :=
  invalid (((fp.child child).child "containerResources").child resourceType |>.child resourceName)
    (.quantity quantity) ("resource " ++ resourceType ++ " for " ++ resourceName ++ " is zero")

/-- The error for a limit below its request. -/
def limitBelowRequestError (fp : Path) (child resourceName : String) (quantity : ℚ) : FieldError :=
  invalid (((fp.child child).child "containerResources").child "Requests" |>.child resourceName)
    (.quantity quantity) ("resource request for " ++ resourceName ++ " is greater than the limit")

/-- The error for an empty list of requirements. -/
def emptyResourcesError (fp : Path) (child : String) (resources : List ResourceRequirements) :
    FieldError :=
  invalid ((fp.child child).child "containerResources") (.resources resources) "should not be empty if declared"

/-- The error for a container name the component's manifests do not have. -/
def unsupportedContainerError (fp : Path) (child name : String) : FieldError :=
  invalid (((fp.child child).child "containerResources").child "name") (.string name)
    ("container name " ++ name ++ " is unsupported for this state")

/-- The zero-quantity error for a resource, if it is CPU or memory and zero. -/
def zeroQuantity? (fp : Path) (child resourceType : String) (entry : String × ℚ) : Option FieldError :=
  if isCPUOrMemory entry.1 && entry.2 == 0 then some (zeroQuantityError fp child resourceType entry.1 entry.2)
  else none

/-- The limit-below-request error for a limit, if the resource has a larger request. -/
def limitBelowRequest? (fp : Path) (child : String) (requests : GoMap String ℚ) (entry : String × ℚ) :
    Option FieldError :=
  match requests.lookup entry.1 with
  | some requestQuantity =>
    if entry.2 < requestQuantity then some (limitBelowRequestError fp child entry.1 entry.2) else none
  | none => none

/-- The body of `validateResources`'s loop, for one resource. -/
def validateResource (fp : Path) (child resourceType : String) (requests : Option (GoMap String ℚ))
    (allErrs : List FieldError) (entry : String × ℚ) : List FieldError :=
  let (resourceName, quantity) := entry
  let allErrs :=
    if isCPUOrMemory resourceName && quantity == 0 then
      allErrs ++ [zeroQuantityError fp child resourceType resourceName quantity]
    else allErrs
  if resourceType == "Limits" then
    match requests with
    | some requests =>
      match requests.lookup resourceName with
      | some requestQuantity =>
        if quantity < requestQuantity then allErrs ++ [limitBelowRequestError fp child resourceName quantity]
        else allErrs
      | none => allErrs
    | none => allErrs
  else allErrs

/-- `validateResources`, its map ranged over in the order `ord` gives the loop `loop`;
`requests` is the optional last argument. -/
def validateResources (ord : RangeOrder ResourceLoop String ℚ) (loop : ResourceLoop)
    (resources : GoMap String ℚ) (allErrs : List FieldError) (fp : Path) (child resourceType : String)
    (requests : Option (GoMap String ℚ)) : List FieldError :=
  (ord.order loop resources.entries).foldl (validateResource fp child resourceType requests) allErrs

/-- The body of `validateResourceRequirements`'s loop, for the `k`-th entry. -/
def validateRequirement (ord : RangeOrder ResourceLoop String ℚ) (supportedContainerNames : List String)
    (fp : Path) (child : String) (allErrs : List FieldError) (entry : Nat × ResourceRequirements) :
    List FieldError :=
  let (k, reqs) := entry
  let allErrs := validateResources ord ⟨child, k, "Requests"⟩ reqs.requests allErrs fp child "Requests" none
  let allErrs := validateResources ord ⟨child, k, "Limits"⟩ reqs.limits allErrs fp child "Limits" (some reqs.requests)
  if supportedContainerNames.contains reqs.name then allErrs
  else allErrs ++ [unsupportedContainerError fp child reqs.name]

/-- `validateResourceRequirements`, with `supportedContainerNames` what
`state.ParseContainerNames` gave for the component's manifests and the policy. -/
def validateResourceRequirements (ord : RangeOrder ResourceLoop String ℚ) (resources : List ResourceRequirements)
    (supportedContainerNames : List String) (allErrs : List FieldError) (fp : Path) (child : String) :
    List FieldError :=
  let allErrs := if resources.length = 0 then allErrs ++ [emptyResourcesError fp child resources] else allErrs
  resources.enum.foldl (validateRequirement ord supportedContainerNames fp child) allErrs

/-! ### The errors, up to order -/

/-- The errors one entry should give: the zero quantities of its requests, those of its
limits, its limits below their requests, and its name if unsupported. -/
def expectedRequirementErrors (supportedContainerNames : List String) (fp : Path) (child : String)
    (reqs : ResourceRequirements) : List FieldError :=
  reqs.requests.entries.filterMap (zeroQuantity? fp child "Requests") ++
  reqs.limits.entries.filterMap (zeroQuantity? fp child "Limits") ++
  reqs.limits.entries.filterMap (limitBelowRequest? fp child reqs.requests) ++
  (if supportedContainerNames.contains reqs.name then [] else [unsupportedContainerError fp child reqs.name])

/-- The errors a whole list of requirements should give. -/
def expectedResourceErrors (resources : List ResourceRequirements) (supportedContainerNames : List String)
    (fp : Path) (child : String) : List FieldError :=
  (if resources.length = 0 then [emptyResourcesError fp child resources] else []) ++
    resources.flatMap (expectedRequirementErrors supportedContainerNames fp child)

/-- The loop body only appends: a zero quantity's error, then for limits the error of a limit
below its request. -/
theorem validateResource_eq_append (fp : Path) (child resourceType : String)
    (requests : Option (GoMap String ℚ)) (allErrs : List FieldError) (entry : String × ℚ) :
    validateResource fp child resourceType requests allErrs entry =
      allErrs ++ (zeroQuantity? fp child resourceType entry).toList ++
        (if resourceType == "Limits" then requests.bind (limitBelowRequest? fp child · entry) else none).toList := by
  obtain ⟨n, q⟩ := entry
  simp only [validateResource, zeroQuantity?, limitBelowRequest?]
  rcases requests with _ | requests
  · cases isCPUOrMemory n && q == 0 <;> cases resourceType == "Limits" <;> simp
  · rcases hr : requests.lookup n with _ | requestQuantity
    · cases isCPUOrMemory n && q == 0 <;> cases resourceType == "Limits" <;> simp [hr]
    · by_cases hq : q < requestQuantity <;>
        cases isCPUOrMemory n && q == 0 <;> cases resourceType == "Limits" <;> simp [hr, hq]

theorem foldl_validateResource (fp : Path) (child resourceType : String)
    (requests : Option (GoMap String ℚ)) (l : List (String × ℚ)) (allErrs : List FieldError) :
    l.foldl (validateResource fp child resourceType requests) allErrs =
      allErrs ++ l.flatMap fun e => (zeroQuantity? fp child resourceType e).toList ++
        (if resourceType == "Limits" then requests.bind (limitBelowRequest? fp child · e) else none).toList := by
  induction l generalizing allErrs with
  | nil => simp
  | cons e l ih => simp [ih, validateResource_eq_append]

/-- The requests loop appends, up to order, one error per zero CPU or memory request. -/
theorem validateResources_requests_perm (ord : RangeOrder ResourceLoop String ℚ) (loop : ResourceLoop)
    (requests : GoMap String ℚ) (allErrs : List FieldError) (fp : Path) (child : String) :
    ∃ errs, validateResources ord loop requests allErrs fp child "Requests" none = allErrs ++ errs ∧
      errs.Perm (requests.entries.filterMap (zeroQuantity? fp child "Requests")) := by
  refine ⟨_, foldl_validateResource .., ?_⟩
  rw [List.filterMap_eq_flatMap_toList]
  exact ((ord.perm loop _).flatMap_right _).trans (.of_eq (by simp))

/-- The limits loop appends, up to order, one error per zero CPU or memory limit and one per
limit below its request. -/
theorem validateResources_limits_perm (ord : RangeOrder ResourceLoop String ℚ) (loop : ResourceLoop)
    (limits requests : GoMap String ℚ) (allErrs : List FieldError) (fp : Path) (child : String) :
    ∃ errs, validateResources ord loop limits allErrs fp child "Limits" (some requests) = allErrs ++ errs ∧
      errs.Perm (limits.entries.filterMap (zeroQuantity? fp child "Limits") ++
        limits.entries.filterMap (limitBelowRequest? fp child requests)) := by
  refine ⟨_, foldl_validateResource .., ?_⟩
  simp only [beq_self_eq_true, ite_true, Option.bind_some, List.filterMap_eq_flatMap_toList]
  exact ((ord.perm loop _).flatMap_right _).trans (List.flatMap_append_perm _ _ _).symm

/-- A loop whose every turn appends, up to order, what `g` gives for its element appends, up to
order, the `flatMap` of `g` over the list it ranges over. -/
theorem foldl_append_perm {α : Type} (f : List FieldError → α → List FieldError)
    (g : α → List FieldError) (l : List α)
    (hf : ∀ a ∈ l, ∀ acc, ∃ errs, f acc a = acc ++ errs ∧ errs.Perm (g a)) (acc : List FieldError) :
    ∃ errs, l.foldl f acc = acc ++ errs ∧ errs.Perm (l.flatMap g) := by
  induction l generalizing acc with
  | nil => exact ⟨[], by simp, by simp⟩
  | cons a l ih =>
    obtain ⟨e₁, h₁, p₁⟩ := hf a (.head _) acc
    obtain ⟨e₂, h₂, p₂⟩ := ih (fun b hb => hf b (.tail _ hb)) (acc ++ e₁)
    exact ⟨e₁ ++ e₂, by simp [h₁, h₂], by simpa using p₁.append p₂⟩

/-- One turn of `validateResourceRequirements`'s loop appends, up to order, the errors
expected for the entry. -/
theorem validateRequirement_perm (ord : RangeOrder ResourceLoop String ℚ) (names : List String)
    (fp : Path) (child : String) (allErrs : List FieldError) (k : Nat) (reqs : ResourceRequirements) :
    ∃ errs, validateRequirement ord names fp child allErrs (k, reqs) = allErrs ++ errs ∧
      errs.Perm (expectedRequirementErrors names fp child reqs) := by
  obtain ⟨e₁, h₁, p₁⟩ := validateResources_requests_perm ord ⟨child, k, "Requests"⟩ reqs.requests allErrs fp child
  obtain ⟨e₂, h₂, p₂⟩ := validateResources_limits_perm ord ⟨child, k, "Limits"⟩ reqs.limits reqs.requests
    (allErrs ++ e₁) fp child
  simp only [validateRequirement, h₁, h₂, expectedRequirementErrors, List.append_assoc]
  split
  · exact ⟨_, rfl, by simpa using p₁.append p₂⟩
  · exact ⟨e₁ ++ (e₂ ++ _), rfl, by simpa using (p₁.append p₂).append_right _⟩

theorem validateResourceRequirements_eq_append_perm (ord : RangeOrder ResourceLoop String ℚ)
    (resources : List ResourceRequirements) (names : List String) (allErrs : List FieldError)
    (fp : Path) (child : String) :
    ∃ errs, validateResourceRequirements ord resources names allErrs fp child = allErrs ++ errs ∧
      errs.Perm (expectedResourceErrors resources names fp child) := by
  have loop := foldl_append_perm (validateRequirement ord names fp child)
    (fun p => expectedRequirementErrors names fp child p.2) resources.enum
    (fun p _ acc => validateRequirement_perm ord names fp child acc p.1 p.2)
  have hmap : (resources.enum.flatMap fun p => expectedRequirementErrors names fp child p.2) =
      resources.flatMap (expectedRequirementErrors names fp child) := by
    rw [← List.flatMap_map (f := Prod.snd), List.enum_map_snd]
  simp only [validateResourceRequirements, expectedResourceErrors, ← hmap]
  split
  · obtain ⟨errs, he, hp⟩ := loop (allErrs ++ [emptyResourcesError fp child resources])
    exact ⟨_ :: errs, by simp [he], hp.cons _⟩
  · obtain ⟨errs, he, hp⟩ := loop allErrs
    exact ⟨errs, he, by simpa using hp⟩

/-- **`validateResourceRequirements` reports exactly the listed errors.**  For every list of
requirements, every set of supported container names and every order Go ranges over the maps
in, the input errors are kept in front, and what is appended is, up to order,
`expectedResourceErrors`. -/
theorem validateResourceRequirements_perm (ord : RangeOrder ResourceLoop String ℚ)
    (resources : List ResourceRequirements) (names : List String) (allErrs : List FieldError)
    (fp : Path) (child : String) :
    ∃ errs, validateResourceRequirements ord resources names allErrs fp child = allErrs ++ errs ∧
      errs.Perm (expectedResourceErrors resources names fp child) :=
  validateResourceRequirements_eq_append_perm ord resources names allErrs fp child

/-! ### The components, through reflection -/

/-- The `interface{}` a `stateRenderData.spec` holds: the struct type its pointer points to, and
the `ImageSpec` reflection reaches through it, `none` for a nil pointer. -/
structure SpecValue where
  typeName : String
  imageSpec : Option ImageSpec

/-- `stateRenderData`: the component's spec, and its manifest directory, from which
`state.ParseContainerNames` reads the container names. -/
structure stateRenderData where
  spec : Option SpecValue
  manifestDir : String

/-- `filepath.Join` of a directory and a clean relative name. -/
def filepathJoin (dir name : String) : String := if dir = "" then name else dir ++ "/" ++ name

/-- `validateContainerResourcesIfNotNil`: through reflection, the component's
`ImageSpec.ContainerResources`, validated when the spec's type has a field `ImageSpec` and the
slice is not nil.  `parseContainerNames` is `state.ParseContainerNames` on the renderer
`resource.newState` builds for a manifest directory, taken as total: when `newState` fails the code
logs the error and passes a nil renderer on, and what `ParseContainerNames` does with it is
outside this model. -/
def validateContainerResourcesIfNotNil (ord : RangeOrder ResourceLoop String ℚ)
    (parseContainerNames : String → NicClusterPolicy → List String) (resource : stateRenderData)
    (policy : NicClusterPolicy) (allErrs : List FieldError) (fp : Path) (fieldName : String) :
    List FieldError :=
  match resource.spec with
  | none => allErrs
  | some spec =>
    match spec.imageSpec, fieldByName apiTypes "ImageSpec" 3 [spec.typeName] with
    | some imageSpec, some imageSpecType =>
      match fieldByName apiTypes "ContainerResources" 3 [imageSpecType], imageSpec.containerResources with
      | some _, some containerResources =>
        validateResourceRequirements ord containerResources (parseContainerNames resource.manifestDir policy)
          allErrs fp fieldName
      | _, _ => allErrs
    | _, _ => allErrs

/-- The first map of `validateContainerResources`, by component name. -/
def topLevelStates (manifestBaseDir : String) (spec : NicClusterPolicySpec) : GoMap String stateRenderData :=
  ⟨[("ofedDriver", ⟨some ⟨"OFEDDriverSpec", spec.ofedDriver.map (·.imageSpec)⟩,
      filepathJoin manifestBaseDir "state-ofed-driver"⟩),
    ("rdmaSharedDevicePlugin", ⟨some ⟨"DevicePluginSpec", spec.rdmaSharedDevicePlugin.map (·.imageSpec)⟩,
      filepathJoin manifestBaseDir "state-rdma-device-plugin"⟩),
    ("sriovDevicePlugin", ⟨some ⟨"DevicePluginSpec", spec.sriovDevicePlugin.map (·.imageSpec)⟩,
      filepathJoin manifestBaseDir "state-sriov-device-plugin"⟩),
    ("ibKubernetes", ⟨some ⟨"IBKubernetesSpec", spec.ibKubernetes.map (·.imageSpec)⟩,
      filepathJoin manifestBaseDir "state-ib-kubernetes"⟩),
    ("nvIpam", ⟨some ⟨"NVIPAMSpec", spec.nvIpam.map (·.imageSpec)⟩,
      filepathJoin manifestBaseDir "state-nv-ipam-cni"⟩),
    ("nicFeatureDiscovery", ⟨some ⟨"NICFeatureDiscoverySpec", spec.nicFeatureDiscovery.map (·.imageSpec)⟩,
      filepathJoin manifestBaseDir "state-nic-feature-discovery"⟩)], by simp⟩

/-- The second map of `validateContainerResources`, for the secondary network. -/
def secondaryNetworkStates (manifestBaseDir : String) (sn : SecondaryNetworkSpec) :
    GoMap String stateRenderData :=
  ⟨[("cniPlugins", ⟨some ⟨"ImageSpec", sn.cniPlugins⟩,
      filepathJoin manifestBaseDir "state-container-networking-plugins"⟩),
    ("ipoib", ⟨some ⟨"ImageSpec", sn.ipoib⟩, filepathJoin manifestBaseDir "state-ipoib-cni"⟩),
    ("multus", ⟨some ⟨"MultusSpec", sn.multus.map (·.imageSpec)⟩,
      filepathJoin manifestBaseDir "state-multus-cni"⟩),
    ("ipamPlugin", ⟨some ⟨"ImageSpec", sn.ipamPlugin⟩,
      filepathJoin manifestBaseDir "state-whereabouts-cni"⟩)], by simp⟩

/-- `validateContainerResources`: each component of the two maps, in the order Go ranges over
them (`false` for the first map, `true` for the second). -/
def validateContainerResources (componentOrder : RangeOrder Bool String stateRenderData)
    (ord : RangeOrder ResourceLoop String ℚ) (manifestBaseDir : String)
    (parseContainerNames : String → NicClusterPolicy → List String) (policy : NicClusterPolicy)
    (allErrs : List FieldError) : List FieldError :=
  let fp := Path.newPath "spec"
  let allErrs := (componentOrder.order false (topLevelStates manifestBaseDir policy.spec).entries).foldl
    (fun allErrs (stateName, renderData) =>
      validateContainerResourcesIfNotNil ord parseContainerNames renderData policy allErrs fp stateName) allErrs
  match policy.spec.secondaryNetwork with
  | some sn =>
    let snfp := fp.child "secondaryNetwork"
    (componentOrder.order true (secondaryNetworkStates manifestBaseDir sn).entries).foldl
      (fun allErrs (stateName, renderData) =>
        validateContainerResourcesIfNotNil ord parseContainerNames renderData policy allErrs snfp stateName) allErrs
  | none => allErrs

/-- The spec types that embed `ImageSpec`, directly or through `ImageSpecWithConfig`. -/
def embedsImageSpec : List String :=
  ["OFEDDriverSpec", "DevicePluginSpec", "IBKubernetesSpec", "NVIPAMSpec", "NICFeatureDiscoverySpec",
    "MultusSpec"]

/-- Reflection finds no field `ImageSpec` in `ImageSpec` itself, so an `*ImageSpec` component
is skipped whatever its `ContainerResources`. -/
theorem validateContainerResourcesIfNotNil_imageSpec (ord : RangeOrder ResourceLoop String ℚ)
    (parseContainerNames : String → NicClusterPolicy → List String) (imageSpec : Option ImageSpec)
    (manifestDir : String) (policy : NicClusterPolicy) (allErrs : List FieldError) (fp : Path)
    (fieldName : String) :
    validateContainerResourcesIfNotNil ord parseContainerNames ⟨some ⟨"ImageSpec", imageSpec⟩, manifestDir⟩
      policy allErrs fp fieldName = allErrs := by
  have : fieldByName apiTypes "ImageSpec" 3 ["ImageSpec"] = none := by decide
  cases imageSpec <;> simp [validateContainerResourcesIfNotNil, this]

/-- A spec type that embeds `ImageSpec`, directly or through `ImageSpecWithConfig`, has its
`ContainerResources` validated whenever the pointer and the slice are not nil. -/
theorem validateContainerResourcesIfNotNil_embeds (ord : RangeOrder ResourceLoop String ℚ)
    (parseContainerNames : String → NicClusterPolicy → List String) (typeName : String)
    (htype : typeName ∈ embedsImageSpec) (imageSpec : ImageSpec) (manifestDir : String)
    (policy : NicClusterPolicy) (allErrs : List FieldError) (fp : Path) (fieldName : String) :
    validateContainerResourcesIfNotNil ord parseContainerNames ⟨some ⟨typeName, some imageSpec⟩, manifestDir⟩
      policy allErrs fp fieldName =
      (imageSpec.containerResources.map fun containerResources => validateResourceRequirements ord
        containerResources (parseContainerNames manifestDir policy) allErrs fp fieldName).getD allErrs := by
  have hfield : fieldByName apiTypes "ImageSpec" 3 [typeName] = some "ImageSpec" := by
    simp only [embedsImageSpec, List.mem_cons, List.mem_singleton, List.not_mem_nil, or_false] at htype
    rcases htype with rfl | rfl | rfl | rfl | rfl | rfl <;> decide
  have hcr : fieldByName apiTypes "ContainerResources" 3 ["ImageSpec"] = some "[]ResourceRequirements" := by
    decide
  rcases h : imageSpec.containerResources <;> simp [validateContainerResourcesIfNotNil, hfield, hcr, h]

/-! ### What the components report, up to order -/

/-- What `validateContainerResources` reports for one component: the errors of its
`ContainerResources` when its spec type embeds `ImageSpec` and neither the pointer nor the slice
is nil, and nothing otherwise. -/
def componentResourceErrors (parseContainerNames : String → NicClusterPolicy → List String)
    (policy : NicClusterPolicy) (fp : Path) (component : String × stateRenderData) : List FieldError :=
  match component.2.spec with
  | some ⟨typeName, some imageSpec⟩ =>
    match imageSpec.containerResources with
    | some containerResources =>
      if typeName ∈ embedsImageSpec then
        expectedResourceErrors containerResources (parseContainerNames component.2.manifestDir policy) fp
          component.1
      else []
    | none => []
  | _ => []

/-- What `validateContainerResources` reports, up to order: the errors of the components of the
first map, then, when the policy has a secondary network, those of the second. -/
def containerResourceErrors (manifestBaseDir : String)
    (parseContainerNames : String → NicClusterPolicy → List String) (policy : NicClusterPolicy) :
    List FieldError :=
  let fp := Path.newPath "spec"
  (topLevelStates manifestBaseDir policy.spec).entries.flatMap (componentResourceErrors parseContainerNames policy fp) ++
    match policy.spec.secondaryNetwork with
    | some sn => (secondaryNetworkStates manifestBaseDir sn).entries.flatMap
        (componentResourceErrors parseContainerNames policy (fp.child "secondaryNetwork"))
    | none => []

/-- A component whose spec type embeds `ImageSpec` or is `ImageSpec` itself, as every component
of the two maps is, appends, up to order, its `componentResourceErrors`. -/
theorem validateContainerResourcesIfNotNil_perm (ord : RangeOrder ResourceLoop String ℚ)
    (parseContainerNames : String → NicClusterPolicy → List String) (component : String × stateRenderData)
    (htype : ∀ spec ∈ component.2.spec, spec.typeName ∈ embedsImageSpec ∨ spec.typeName = "ImageSpec")
    (policy : NicClusterPolicy) (allErrs : List FieldError) (fp : Path) :
    ∃ errs, validateContainerResourcesIfNotNil ord parseContainerNames component.2 policy allErrs fp
        component.1 = allErrs ++ errs ∧
      errs.Perm (componentResourceErrors parseContainerNames policy fp component) := by
  obtain ⟨name, _ | ⟨typeName, _ | imageSpec⟩, dir⟩ := component
  case mk.none => exact ⟨[], by simp [validateContainerResourcesIfNotNil], by simp [componentResourceErrors]⟩
  case mk.some.mk.none =>
    exact ⟨[], by simp [validateContainerResourcesIfNotNil], by simp [componentResourceErrors]⟩
  case mk.some.mk.some =>
    rcases htype _ rfl with htype | rfl
    · rw [validateContainerResourcesIfNotNil_embeds ord parseContainerNames typeName htype]
      rcases hcr : imageSpec.containerResources with _ | containerResources
      · exact ⟨[], by simp, by simp [componentResourceErrors, hcr]⟩
      · simpa [componentResourceErrors, hcr, htype] using
          validateResourceRequirements_eq_append_perm ord containerResources
            (parseContainerNames dir policy) allErrs fp name
    · refine ⟨[], by simpa using validateContainerResourcesIfNotNil_imageSpec .., ?_⟩
      simp only [componentResourceErrors]
      split <;> simp [embedsImageSpec]

/-- **`validateContainerResources` reports what reflection reaches.**  For every order Go ranges
over the two maps and over the resource maps, the input errors are kept in front, and what is
appended is, up to order, `containerResourceErrors`: the errors of every declared component whose
spec type embeds `ImageSpec`, and none for `cniPlugins`, `ipoib` and `ipamPlugin`, whose spec is an
`*ImageSpec`. -/
theorem validateContainerResources_perm (componentOrder : RangeOrder Bool String stateRenderData)
    (ord : RangeOrder ResourceLoop String ℚ) (manifestBaseDir : String)
    (parseContainerNames : String → NicClusterPolicy → List String) (policy : NicClusterPolicy)
    (allErrs : List FieldError) :
    ∃ errs, validateContainerResources componentOrder ord manifestBaseDir parseContainerNames policy allErrs =
        allErrs ++ errs ∧
      errs.Perm (containerResourceErrors manifestBaseDir parseContainerNames policy) := by
  have loop : ∀ (b : Bool) (m : GoMap String stateRenderData) (fp : Path),
      (∀ c ∈ m.entries, ∀ spec ∈ c.2.spec, spec.typeName ∈ embedsImageSpec ∨ spec.typeName = "ImageSpec") →
      ∀ acc, ∃ errs, (componentOrder.order b m.entries).foldl
          (fun acc c => validateContainerResourcesIfNotNil ord parseContainerNames c.2 policy acc fp c.1) acc =
          acc ++ errs ∧ errs.Perm (m.entries.flatMap (componentResourceErrors parseContainerNames policy fp)) := by
    intro b m fp hm acc
    obtain ⟨errs, he, hp⟩ := foldl_append_perm _ _ _ (fun c hc acc =>
      validateContainerResourcesIfNotNil_perm ord parseContainerNames c
        (hm c ((componentOrder.perm b _).mem_iff.mp hc)) policy acc fp) acc
    exact ⟨errs, he, hp.trans ((componentOrder.perm b _).flatMap_right _)⟩
  obtain ⟨e₁, h₁, p₁⟩ := loop false (topLevelStates manifestBaseDir policy.spec) (Path.newPath "spec")
    (by simp [topLevelStates, embedsImageSpec]) allErrs
  simp only [validateContainerResources, containerResourceErrors]
  split
  · rename_i sn _
    obtain ⟨e₂, h₂, p₂⟩ := loop true (secondaryNetworkStates manifestBaseDir sn)
      ((Path.newPath "spec").child "secondaryNetwork") (by simp [secondaryNetworkStates, embedsImageSpec])
      (allErrs ++ e₁)
    exact ⟨e₁ ++ e₂, by erw [h₁, h₂, List.append_assoc], p₁.append p₂⟩
  · exact ⟨e₁, by erw [h₁], by simpa using p₁⟩

/-- When no component has errors to report, `validateContainerResources` keeps the errors it is
given, whatever the orders. -/
theorem validateContainerResources_eq_self (componentOrder : RangeOrder Bool String stateRenderData)
    (ord : RangeOrder ResourceLoop String ℚ) (manifestBaseDir : String)
    (parseContainerNames : String → NicClusterPolicy → List String) (policy : NicClusterPolicy)
    (allErrs : List FieldError) (h : containerResourceErrors manifestBaseDir parseContainerNames policy = []) :
    validateContainerResources componentOrder ord manifestBaseDir parseContainerNames policy allErrs =
      allErrs := by
  obtain ⟨errs, he, hp⟩ :=
    validateContainerResources_perm componentOrder ord manifestBaseDir parseContainerNames policy allErrs
  rw [h, List.perm_nil] at hp
  rw [he, hp, List.append_nil]

end NetworkOperator.Validator
