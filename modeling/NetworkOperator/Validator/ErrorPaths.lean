import NetworkOperator.Validator.Policy

/-!
# Validator — where the errors point

Each check builds its errors' field paths from a path it is given and the names it writes.  Put
together, every field error `validateNicClusterPolicy` reports names a field inside a component the
policy declares, under the path the validator itself gives the component in `validateRepositories`
and `validateContainerResources` (`componentPaths`), with two exceptions the source writes:

* the OFED driver's repository error names `spec.nicFeatureDiscovery.repository`, reached whenever
  that repository does not parse (`validateRepositories_ofedDriver`), NIC feature discovery
  declared or not;
* the SR-IOV device plugin's config errors name `spec.sriovNetworkDevicePlugin.Config`, where the
  same component's repository and container resources are under `spec.sriovDevicePlugin`.

`validateNicClusterPolicy_error_paths` is this, for every policy and every oracle.  It is built
from one lemma per check: every config error is at `Config` (`validateRdmaSharedDevicePlugin_fields`,
`validateSriovNetworkDevicePlugin_fields`), every resource error under the component
(`expectedResourceErrors_under`), and likewise for the repositories, the GUID pool and the OFED
driver; `runPhases_forall` carries a property of every error through the parts.
-/

namespace NetworkOperator.Validator

open NetworkOperator.V1alpha1

/-! ### The device plugin checks -/

/-- Every error of a loop or block that reports at `fldPath.child "Config"` is one it was given or
one at that field. -/
def AtConfig (fldPath : Path) (allErrs errs : List FieldError) : Prop :=
  ∀ e ∈ errs, e ∈ allErrs ∨ e.field = fldPath.child "Config"

theorem AtConfig.append {fldPath : Path} {allErrs errs : List FieldError} (extra : List FieldError)
    (h : AtConfig fldPath allErrs errs) (hextra : ∀ e ∈ extra, e.field = fldPath.child "Config") :
    AtConfig fldPath allErrs (errs ++ extra) := fun e he => by
  rcases List.mem_append.mp he with he | he
  exacts [h e he, .inr (hextra e he)]

theorem AtConfig.trans {fldPath : Path} {l₁ l₂ l₃ : List FieldError} (h₁ : AtConfig fldPath l₁ l₂)
    (h₂ : AtConfig fldPath l₂ l₃) : AtConfig fldPath l₁ l₃ := fun e he =>
  (h₂ e he).elim (h₁ e) .inr

theorem AtConfig.refl (fldPath : Path) (l : List FieldError) : AtConfig fldPath l l := fun _ he => .inl he

theorem schemaErrors_field (fldPath : Path) (config : Option String) (r : Except String (List String)) :
    ∀ e ∈ schemaErrors fldPath config r, e.field = fldPath.child "Config" := by
  cases r <;> simp [schemaErrors, configError, invalid]

theorem rdmaConfigLoop_atConfig (fldPath : Path) (config : Option String) (entries : List JsonValue)
    (allErrs errs : List FieldError) (h : rdmaConfigLoop fldPath config entries allErrs = .ok errs) :
    AtConfig fldPath allErrs errs := by
  induction entries generalizing allErrs with
  | nil => cases h; exact .refl _ _
  | cons entry rest ih =>
    have hname : ∀ (b : Bool) (msg : String),
        AtConfig fldPath allErrs (if b then allErrs ++ [configError fldPath config msg] else allErrs) := by
      intro b msg
      cases b
      · exact .refl _ _
      · exact (AtConfig.refl _ _).append _ (by simp [configError, invalid])
    simp only [rdmaConfigLoop] at h
    split at h
    · cases h
    · split at h
      · cases h
      · split at h
        · exact (hname _ _).trans (ih _ h)
        · split at h
          · cases h
          · split at h
            · cases h; exact (hname _ _).append _ (by simp [configError, invalid])
            · exact (hname _ _).trans (ih _ h)

theorem validateResourceNamePrefix_atConfig (resource : JsonObject) (allErrs : List FieldError)
    (fldPath : Path) (config : Option String) (b : Bool) (errs : List FieldError)
    (h : validateResourceNamePrefix resource allErrs fldPath config = .ok (b, errs)) :
    AtConfig fldPath allErrs errs := by
  simp only [validateResourceNamePrefix] at h
  repeat' split at h
  all_goals cases h <;> first
    | exact .refl _ _
    | exact (AtConfig.refl _ _).append _ (by simp [configError, invalid])

theorem sriovResourceLoop_atConfig (env : JsonEnv) (fldPath : Path) (config : Option String)
    (acceleratorJSONSchema netDeviceJSONSchema auxNetDeviceJSONSchema : Schema) (entries : List JsonValue)
    (allErrs errs : List FieldError)
    (h : sriovResourceLoop env fldPath config acceleratorJSONSchema netDeviceJSONSchema
      auxNetDeviceJSONSchema entries allErrs = .ok errs) :
    AtConfig fldPath allErrs errs := by
  induction entries generalizing allErrs with
  | nil => cases h; exact .refl _ _
  | cons entry rest ih =>
    simp only [sriovResourceLoop] at h
    split at h
    · cases h
    · split at h
      · cases h
      · cases h; exact validateResourceNamePrefix_atConfig _ _ _ _ _ _ ‹_›
      · exact (validateResourceNamePrefix_atConfig _ _ _ _ _ _ ‹_›).trans
          (((AtConfig.refl _ _).append _ (schemaErrors_field _ _ _)).trans (ih _ h))

theorem withSchema_atConfig {env : JsonEnv} {fldPath : Path} {config : Option String}
    {schemaName : String} {k : Schema → Except Panic (List FieldError)} {errs : List FieldError}
    (hk : ∀ schema errs, k schema = .ok errs → AtConfig fldPath [] errs)
    (h : withSchema env fldPath config schemaName k = .ok errs) : AtConfig fldPath [] errs := by
  simp only [withSchema] at h
  split at h
  · cases h
  · cases h; exact (AtConfig.refl _ _).append _ (by simp [configError, invalid])
  · exact hk _ _ h

theorem withValidResult_atConfig {fldPath : Path} {config : Option String} {errPrefix : String}
    {result : Except String (List String)} {k : Except Panic (List FieldError)} {errs : List FieldError}
    (hk : ∀ errs, k = .ok errs → AtConfig fldPath [] errs)
    (h : withValidResult fldPath config errPrefix result k = .ok errs) : AtConfig fldPath [] errs := by
  simp only [withValidResult] at h
  split at h
  · cases h; exact (AtConfig.refl _ _).append _ (by simp [configError, invalid])
  · exact hk _ h
  · cases h; exact (AtConfig.refl _ _).append _ (by simp [configError, invalid])

/-- Every error of the SR-IOV check is reported at `fldPath.child "Config"`. -/
theorem validateSriovNetworkDevicePlugin_fields (env : JsonEnv) (dp : DevicePluginSpec) (fldPath : Path)
    (errs : List FieldError) (h : validateSriovNetworkDevicePlugin env dp fldPath = .ok errs) :
    ∀ e ∈ errs, e.field = fldPath.child "Config" := by
  suffices hat : AtConfig fldPath [] errs from fun e he => (hat e he).resolve_left (List.not_mem_nil _)
  simp only [validateSriovNetworkDevicePlugin] at h
  split at h
  · cases h
  · split at h
    · cases h; exact (AtConfig.refl _ _).append _ (by simp [configError, invalid])
    · refine withSchema_atConfig (fun _ _ h => withSchema_atConfig (fun _ _ h => withSchema_atConfig
        (fun _ _ h => withSchema_atConfig (fun _ _ h => withValidResult_atConfig (fun errs h => ?_) h) h) h) h) h
      simp only [validateResourceList] at h
      split at h
      · cases h; exact .refl _ _
      · exact sriovResourceLoop_atConfig _ _ _ _ _ _ _ _ _ h

/-- Every error of the RDMA check is reported at `fldPath.child "Config"`. -/
theorem validateRdmaSharedDevicePlugin_fields (env : JsonEnv) (dp : DevicePluginSpec) (fldPath : Path)
    (errs : List FieldError) (h : validateRdmaSharedDevicePlugin env dp fldPath = .ok errs) :
    ∀ e ∈ errs, e.field = fldPath.child "Config" := by
  suffices hat : AtConfig fldPath [] errs from fun e he => (hat e he).resolve_left (List.not_mem_nil _)
  simp only [validateRdmaSharedDevicePlugin] at h
  split at h
  · cases h
  · split at h
    · cases h; exact (AtConfig.refl _ _).append _ (by simp [configError, invalid])
    · exact withSchema_atConfig (fun _ _ h => withValidResult_atConfig
        (fun _ h => rdmaConfigLoop_atConfig _ _ _ _ _ h) h) h

/-! ### The components -/

/-- The components of a policy, each with the path the validator reports its repository and its
container resources under: its name under `spec`, or under `spec.secondaryNetwork`. -/
def componentPaths (spec : NicClusterPolicySpec) : List (List String × Option ImageSpec) :=
  [(["spec", "ofedDriver"], spec.ofedDriver.map (·.imageSpec)),
   (["spec", "rdmaSharedDevicePlugin"], spec.rdmaSharedDevicePlugin.map (·.imageSpec)),
   (["spec", "sriovDevicePlugin"], spec.sriovDevicePlugin.map (·.imageSpec)),
   (["spec", "ibKubernetes"], spec.ibKubernetes.map (·.imageSpec)),
   (["spec", "nvIpam"], spec.nvIpam.map (·.imageSpec)),
   (["spec", "nicFeatureDiscovery"], spec.nicFeatureDiscovery.map (·.imageSpec))] ++
  match spec.secondaryNetwork with
  | some sn =>
    [(["spec", "secondaryNetwork", "cniPlugins"], sn.cniPlugins),
     (["spec", "secondaryNetwork", "ipoib"], sn.ipoib),
     (["spec", "secondaryNetwork", "multus"], sn.multus.map (·.imageSpec)),
     (["spec", "secondaryNetwork", "ipamPlugin"], sn.ipamPlugin)]
  | none => []

/-- Where an error of the check may point: inside a component the policy declares, or at one of
the two paths the source gives in place of the component's own. -/
def ErrorPathOk (spec : NicClusterPolicySpec) (e : FieldError) : Prop :=
  (∃ p imageSpec, (p, some imageSpec) ∈ componentPaths spec ∧ p <+: e.field.segments) ∨
  (spec.ofedDriver.isSome ∧ e.field.segments = ["spec", "nicFeatureDiscovery", "repository"]) ∨
  (spec.sriovDevicePlugin.isSome ∧ e.field.segments = ["spec", "sriovNetworkDevicePlugin", "Config"])

theorem errorPathOk_of_mem {spec : NicClusterPolicySpec} {e : FieldError} {p : List String}
    {component : Option ImageSpec} (hmem : (p, component) ∈ componentPaths spec) (hsome : component.isSome)
    (hunder : p <+: e.field.segments) : ErrorPathOk spec e := by
  obtain ⟨imageSpec, rfl⟩ := Option.isSome_iff_exists.mp hsome
  exact .inl ⟨p, imageSpec, hmem, hunder⟩

/-- An error at a child of a declared component's path points into the component. -/
theorem errorPathOk_of_field {spec : NicClusterPolicySpec} {e : FieldError} {fp : Path} {name rest : String}
    {component : Option ImageSpec} (hfield : e.field = (fp.child name).child rest) (hsome : component.isSome)
    (hmem : ((fp.child name).segments, component) ∈ componentPaths spec) : ErrorPathOk spec e :=
  errorPathOk_of_mem hmem hsome (hfield ▸ Path.prefix_child _ _)

/-! ### The parts of the check -/

theorem foldl_validateRepositoryIfPresent_mem (parseNormalizedNamed : String → Bool) (fp : Path)
    (components : List (Option ImageSpec × String)) (allErrs : List FieldError) :
    ∀ e ∈ components.foldl (validateRepositoryIfPresent parseNormalizedNamed fp) allErrs, e ∈ allErrs ∨
      ∃ c ∈ components, c.1.isSome ∧ e.field = (fp.child c.2).child "repository" := by
  induction components generalizing allErrs with
  | nil => exact fun e he => .inl he
  | cons c cs ih =>
    intro e he
    rcases ih _ e he with he | ⟨c', hc', hsome, hfield⟩
    · obtain ⟨_ | imageSpec, child⟩ := c
      · exact .inl he
      · simp only [validateRepositoryIfPresent, validateRepository] at he
        split at he
        · exact .inl he
        · rcases List.mem_append.mp he with he | he
          · exact .inl he
          · obtain rfl := List.mem_singleton.mp he
            exact .inr ⟨_, .head _, rfl, rfl⟩
    · exact .inr ⟨c', .tail _ hc', hsome, hfield⟩

/-- The repository errors point into the component checked, but for the OFED driver, whose error
points at `spec.nicFeatureDiscovery.repository`. -/
theorem validateRepositories_errorPathOk (parseNormalizedNamed : String → Bool) (w : NicClusterPolicy)
    (allErrs : List FieldError) :
    ∀ e ∈ validateRepositories parseNormalizedNamed w allErrs, e ∈ allErrs ∨ ErrorPathOk w.spec e := by
  have htop : ∀ e ∈ [(w.spec.ofedDriver.map (·.imageSpec), "nicFeatureDiscovery"),
      (w.spec.rdmaSharedDevicePlugin.map (·.imageSpec), "rdmaSharedDevicePlugin"),
      (w.spec.sriovDevicePlugin.map (·.imageSpec), "sriovDevicePlugin"),
      (w.spec.ibKubernetes.map (·.imageSpec), "ibKubernetes"),
      (w.spec.nvIpam.map (·.imageSpec), "nvIpam"),
      (w.spec.nicFeatureDiscovery.map (·.imageSpec), "nicFeatureDiscovery")].foldl
      (validateRepositoryIfPresent parseNormalizedNamed (Path.newPath "spec")) allErrs,
      e ∈ allErrs ∨ ErrorPathOk w.spec e := by
    intro e he
    rcases foldl_validateRepositoryIfPresent_mem _ _ _ _ e he with he | ⟨c, hc, hsome, hfield⟩
    · exact .inl he
    · simp only [List.mem_cons, List.mem_singleton, List.not_mem_nil, or_false] at hc
      rcases hc with rfl | rfl | rfl | rfl | rfl | rfl
      · exact .inr (.inr (.inl ⟨by simpa using hsome, by simp [hfield]⟩))
      all_goals exact .inr (errorPathOk_of_field hfield hsome (by simp [componentPaths]))
  unfold validateRepositories
  split
  · rename_i sn hsn
    intro e he
    rcases foldl_validateRepositoryIfPresent_mem _ _ _ _ e he with he | ⟨c, hc, hsome, hfield⟩
    · exact htop e he
    · simp only [List.mem_cons, List.mem_singleton, List.not_mem_nil, or_false] at hc
      rcases hc with rfl | rfl | rfl | rfl <;>
        exact .inr (errorPathOk_of_field hfield hsome (by simp [componentPaths, hsn]))
  · exact htop

/-- Every container-resources error of a component points under its `containerResources`. -/
theorem expectedResourceErrors_under (resources : List ResourceRequirements) (names : List String)
    (fp : Path) (child : String) :
    ∀ e ∈ expectedResourceErrors resources names fp child, (fp.child child).segments <+: e.field.segments := by
  have hbase : ∀ rest, (fp.child child).segments <+: (((fp.child child).child "containerResources").child rest).segments :=
    fun rest => (Path.prefix_child _ _).trans (Path.prefix_child _ _)
  intro e he
  simp only [expectedResourceErrors, expectedRequirementErrors, List.mem_append, List.mem_flatMap,
    List.mem_filterMap] at he
  rcases he with he | ⟨reqs, -, ((⟨entry, -, he⟩ | ⟨entry, -, he⟩) | ⟨entry, -, he⟩) | he⟩
  · split at he
    · obtain rfl := List.mem_singleton.mp he; exact Path.prefix_child _ _
    · cases he
  · simp only [zeroQuantity?] at he; split at he <;> cases he
    exact (hbase _).trans (Path.prefix_child _ _)
  · simp only [zeroQuantity?] at he; split at he <;> cases he
    exact (hbase _).trans (Path.prefix_child _ _)
  · simp only [limitBelowRequest?] at he
    split at he
    · split at he <;> cases he
      exact (hbase _).trans (Path.prefix_child _ _)
    · cases he
  · split at he
    · cases he
    · obtain rfl := List.mem_singleton.mp he; exact hbase _

theorem componentResourceErrors_mem {names : String → NicClusterPolicy → List String} {policy : NicClusterPolicy}
    {fp : Path} {c : String × stateRenderData} {e : FieldError}
    (he : e ∈ componentResourceErrors names policy fp c) :
    ∃ typeName imageSpec, c.2.spec = some ⟨typeName, some imageSpec⟩ ∧ (fp.child c.1).segments <+: e.field.segments := by
  unfold componentResourceErrors at he
  split at he
  · rename_i typeName imageSpec hspec
    split at he
    · split at he
      · exact ⟨typeName, imageSpec, hspec, expectedResourceErrors_under _ _ _ _ e he⟩
      · cases he
    · cases he
  · cases he

theorem topLevelStates_componentPaths {dir : String} {spec : NicClusterPolicySpec} :
    ∀ c ∈ (topLevelStates dir spec).entries, ∀ typeName component, c.2.spec = some ⟨typeName, component⟩ →
      (((Path.newPath "spec").child c.1).segments, component) ∈ componentPaths spec := by
  intro c hc typeName component h
  simp only [topLevelStates, List.mem_cons, List.not_mem_nil, or_false] at hc
  rcases hc with rfl | rfl | rfl | rfl | rfl | rfl <;>
  · simp only [Option.some.injEq, SpecValue.mk.injEq] at h
    obtain ⟨-, rfl⟩ := h
    simp [componentPaths]

theorem secondaryNetworkStates_componentPaths {dir : String} {spec : NicClusterPolicySpec}
    {sn : SecondaryNetworkSpec} (hsn : spec.secondaryNetwork = some sn) :
    ∀ c ∈ (secondaryNetworkStates dir sn).entries, ∀ typeName component, c.2.spec = some ⟨typeName, component⟩ →
      ((((Path.newPath "spec").child "secondaryNetwork").child c.1).segments, component) ∈ componentPaths spec := by
  intro c hc typeName component h
  simp only [secondaryNetworkStates, List.mem_cons, List.not_mem_nil, or_false] at hc
  rcases hc with rfl | rfl | rfl | rfl <;>
  · simp only [Option.some.injEq, SpecValue.mk.injEq] at h
    obtain ⟨-, rfl⟩ := h
    simp [componentPaths, hsn]

/-- The container-resources errors point into the component whose resources they are about. -/
theorem validateContainerResources_errorPathOk (componentOrder : RangeOrder Bool String stateRenderData)
    (ord : RangeOrder ResourceLoop String ℚ) (manifestBaseDir : String)
    (parseContainerNames : String → NicClusterPolicy → List String) (policy : NicClusterPolicy)
    (allErrs : List FieldError) :
    ∀ e ∈ validateContainerResources componentOrder ord manifestBaseDir parseContainerNames policy allErrs,
      e ∈ allErrs ∨ ErrorPathOk policy.spec e := by
  obtain ⟨errs, he, hp⟩ :=
    validateContainerResources_perm componentOrder ord manifestBaseDir parseContainerNames policy allErrs
  rw [he]
  intro e hmem
  rcases List.mem_append.mp hmem with h | h
  · exact .inl h
  have h := hp.subset h
  simp only [containerResourceErrors, List.mem_append, List.mem_flatMap] at h
  right
  rcases h with ⟨c, hc, he⟩ | h
  · obtain ⟨typeName, imageSpec, hspec, hpre⟩ := componentResourceErrors_mem he
    exact errorPathOk_of_mem (topLevelStates_componentPaths c hc _ _ hspec) rfl hpre
  · split at h
    · rename_i sn hsn
      obtain ⟨c, hc, he⟩ := List.mem_flatMap.mp h
      obtain ⟨typeName, imageSpec, hspec, hpre⟩ := componentResourceErrors_mem he
      exact errorPathOk_of_mem (secondaryNetworkStates_componentPaths hsn c hc _ _ hspec) rfl hpre
    · cases h

theorem ibKubernetes_validate_under (ibk : IBKubernetesSpec) (fldPath : Path) (errs : List FieldError)
    (h : ibKubernetesSpecWrapper.validate ibk fldPath = .ok errs) :
    ∀ e ∈ errs, fldPath.segments <+: e.field.segments := by
  unfold ibKubernetesSpecWrapper.validate at h
  intro e he
  split at h
  · injection h with h
    subst h
    rcases List.mem_append.mp he with he | he <;> split at he <;>
      first | (obtain rfl := List.mem_singleton.mp he; exact Path.prefix_child _ _) | cases he
  · split at h <;> cases h
    · cases he
    · obtain rfl := List.mem_singleton.mp he; exact Path.prefix_child _ _

theorem ofedDriver_errors_under (ofedDriver : OFEDDriverSpec) (fldPath : Path) :
    ∀ e ∈ validateVersion ofedDriver fldPath ++ validateSafeLoad ofedDriver fldPath,
      fldPath.segments <+: e.field.segments := by
  intro e he
  simp only [validateVersion, validateSafeLoad, List.mem_append] at he
  rcases he with he | he
  · split at he
    · obtain rfl := List.mem_singleton.mp he; exact Path.prefix_child _ _
    · cases he
  · split at he
    · cases he
    · split at he
      · cases he
      · split at he
        · obtain rfl := List.mem_singleton.mp he
          exact (Path.prefix_child _ _).trans (Path.prefix_child _ _)
        · cases he

theorem appendErrs_eq_ok {allErrs errs : List FieldError} {x : Except Panic (List FieldError)}
    (h : appendErrs allErrs x = .ok errs) : ∃ new, x = .ok new ∧ errs = allErrs ++ new := by
  cases x <;> cases h; exact ⟨_, rfl, rfl⟩

/-- Parts that each keep a property of every error keep it through the whole run. -/
theorem runPhases_forall (P : FieldError → Prop) (w : NicClusterPolicy)
    (phases : List (NicClusterPolicy → List FieldError → Except Panic (List FieldError)))
    (hparts : ∀ part ∈ phases, ∀ allErrs errs, (∀ e ∈ allErrs, P e) → part w allErrs = .ok errs →
      ∀ e ∈ errs, P e) :
    ∀ allErrs errs, (∀ e ∈ allErrs, P e) → runPhases phases w allErrs = .ok errs → ∀ e ∈ errs, P e := by
  induction phases with
  | nil => intro allErrs errs hall h; cases h; exact hall
  | cons part rest ih =>
    intro allErrs errs hall h
    rw [runPhases_cons] at h
    cases hpart : part w allErrs with
    | error p => rw [hpart] at h; cases h
    | ok errs' =>
      rw [hpart] at h
      exact ih (fun p hp => hparts p (.tail _ hp)) errs' errs (hparts part (.head _) _ _ hall hpart) h

/-- Errors appended to errors with a property, each with it, keep it. -/
theorem forall_mem_append_of {P : FieldError → Prop} {allErrs new : List FieldError}
    (hall : ∀ e ∈ allErrs, P e) (hnew : ∀ e ∈ new, P e) : ∀ e ∈ allErrs ++ new, P e := fun e he =>
  (List.mem_append.mp he).elim (hall e) (hnew e)

/-- **Where the errors point.**  Every field error `validateNicClusterPolicy` reports names a field
inside a component the policy declares, under the path the validator gives that component, with
two exceptions the source writes: the OFED driver's repository error names
`spec.nicFeatureDiscovery.repository`, and the SR-IOV device plugin's config errors name
`spec.sriovNetworkDevicePlugin.Config`, where its repository and container resources are under
`spec.sriovDevicePlugin`. -/
theorem validateNicClusterPolicy_error_paths (env : ValidatorEnv) (w : NicClusterPolicy)
    (err : StatusError) (h : validateNicClusterPolicy env w = .ok (some err)) :
    ∀ e ∈ err.errs, ErrorPathOk w.spec e := by
  rw [validateNicClusterPolicy_eq_runPhases] at h
  cases hrun : runPhases (validationPhases env) w [] with
  | error p => rw [hrun] at h; cases h
  | ok allErrs =>
    rw [hrun] at h
    have herrs : err.errs = allErrs := by
      simp only [Except.map, verdict] at h
      split at h <;> cases h; rfl
    rw [herrs]
    refine runPhases_forall (ErrorPathOk w.spec) w _ ?_ [] allErrs (by simp) hrun
    simp only [validationPhases, List.mem_cons, List.mem_singleton, List.not_mem_nil, or_false,
      forall_eq_or_imp, forall_eq]
    refine ⟨fun allErrs errs hall h => ?_, fun allErrs errs hall h => ?_, fun allErrs errs hall h => ?_,
      fun allErrs errs hall h => ?_, fun allErrs errs hall h => ?_, fun allErrs errs hall h => ?_⟩
    · cases h
      exact fun e he => (validateRepositories_errorPathOk _ w allErrs e he).elim (hall e) id
    · cases h
      exact fun e he => (validateContainerResources_errorPathOk _ _ _ _ w allErrs e he).elim (hall e) id
    · split at h
      · rename_i ibk hib
        obtain ⟨new, hnew, rfl⟩ := appendErrs_eq_ok h
        exact forall_mem_append_of hall fun e he => .inl ⟨_, ibk.imageSpec, by simp [componentPaths, hib],
          ibKubernetes_validate_under ibk _ new hnew e he⟩
      · cases h; exact hall
    · split at h
      · rename_i ofedDriver hofed
        cases h
        rw [List.append_assoc]
        exact forall_mem_append_of hall fun e he => .inl ⟨_, ofedDriver.imageSpec,
          by simp [componentPaths, hofed], ofedDriver_errors_under ofedDriver _ e he⟩
      · cases h; exact hall
    · split at h
      · rename_i dp hdp
        obtain ⟨new, hnew, rfl⟩ := appendErrs_eq_ok h
        exact forall_mem_append_of hall fun e he => .inl ⟨_, dp.imageSpec, by simp [componentPaths, hdp],
          validateRdmaSharedDevicePlugin_fields env.json dp _ new hnew e he ▸ Path.prefix_child _ _⟩
      · cases h; exact hall
    · split at h
      · rename_i dp hdp
        obtain ⟨new, hnew, rfl⟩ := appendErrs_eq_ok h
        exact forall_mem_append_of hall fun e he => .inr (.inr ⟨by simp [hdp],
          by rw [validateSriovNetworkDevicePlugin_fields env.json dp _ new hnew e he]; rfl⟩)
      · cases h; exact hall

theorem foldl_validateRepositoryIfPresent_under (parseNormalizedNamed : String → Bool) (fp : Path)
    (components : List (Option ImageSpec × String)) (allErrs : List FieldError) :
    allErrs <+: components.foldl (validateRepositoryIfPresent parseNormalizedNamed fp) allErrs := by
  induction components generalizing allErrs with
  | nil => exact List.prefix_refl _
  | cons c cs ih =>
    refine List.IsPrefix.trans ?_ (ih _)
    obtain ⟨_ | imageSpec, child⟩ := c
    · exact List.prefix_refl _
    · simp only [validateRepositoryIfPresent, validateRepository]
      split
      · exact List.prefix_refl _
      · exact List.prefix_append _ _

/-- The first exception is reached: an OFED driver whose repository does not parse is reported at
`spec.nicFeatureDiscovery.repository`, whether or not the policy declares NIC feature discovery. -/
theorem validateRepositories_ofedDriver (parseNormalizedNamed : String → Bool) (w : NicClusterPolicy)
    (allErrs : List FieldError) (ofedDriver : OFEDDriverSpec) (hofed : w.spec.ofedDriver = some ofedDriver)
    (hbad : parseNormalizedNamed ofedDriver.imageSpec.repository = false) :
    invalid (((Path.newPath "spec").child "nicFeatureDiscovery").child "repository")
        (.string ofedDriver.imageSpec.repository) "invalid container image repository format" ∈
      validateRepositories parseNormalizedNamed w allErrs := by
  have htop := foldl_validateRepositoryIfPresent_under parseNormalizedNamed (Path.newPath "spec")
    [(w.spec.rdmaSharedDevicePlugin.map (·.imageSpec), "rdmaSharedDevicePlugin"),
      (w.spec.sriovDevicePlugin.map (·.imageSpec), "sriovDevicePlugin"),
      (w.spec.ibKubernetes.map (·.imageSpec), "ibKubernetes"),
      (w.spec.nvIpam.map (·.imageSpec), "nvIpam"),
      (w.spec.nicFeatureDiscovery.map (·.imageSpec), "nicFeatureDiscovery")]
    (validateRepositoryIfPresent parseNormalizedNamed (Path.newPath "spec") allErrs
      (w.spec.ofedDriver.map (·.imageSpec), "nicFeatureDiscovery"))
  have hmem : invalid (((Path.newPath "spec").child "nicFeatureDiscovery").child "repository")
      (.string ofedDriver.imageSpec.repository) "invalid container image repository format" ∈
      validateRepositoryIfPresent parseNormalizedNamed (Path.newPath "spec") allErrs
        (w.spec.ofedDriver.map (·.imageSpec), "nicFeatureDiscovery") := by
    simp [validateRepositoryIfPresent, validateRepository, hofed, hbad]
  unfold validateRepositories
  split
  · exact (htop.trans (foldl_validateRepositoryIfPresent_under _ _ _ _)).subset hmem
  · exact htop.subset hmem

end NetworkOperator.Validator
