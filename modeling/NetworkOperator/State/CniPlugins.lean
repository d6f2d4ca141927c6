import NetworkOperator.State.Manager
import NetworkOperator.Api.V1alpha1

/-!
# State — the container networking plugins state

`stateCNIPlugins` of `pkg/state/manager.go`.  Its `Sync` is built on the State skeleton, whose
operations (`RenderObjects`, `createOrUpdateObjs`, `handleStaleStateObjects`, `getSyncState`,
`handleStateObjectsDeletion`) talk to the cluster: here they are oracles over the world, any
functions at all (`stateSkel`).  `stateSkel.recorded` is the same skeleton with each call, and
what it returned, written to a log kept in the world.

* `sync_follows_skeleton_order`: whatever the oracles do, `Sync` asks for the deletion of the
  state's objects when `SecondaryNetwork` or `CniPlugins` is absent, and otherwise calls a
  prefix of render, create-or-update, stale-object handling and readiness, on one rendered
  list, each exactly when the one before it succeeded (`SyncOrder`), and none exactly when the
  catalog has no static info.  It reports `ready` only when the deletion did, or when all four
  steps ran, succeeded, and the last reported `ready`.
-/

namespace NetworkOperator.States

open NetworkOperator.V1alpha1

/-- `cniRuntimeSpec`: `runtimeSpec{Namespace}`, here `resourceNamespace`, and the directory of
the CNI binaries. -/
structure cniRuntimeSpec where
  resourceNamespace : String
  cniBinDirectory : String

/-- `CNIPluginsManifestRenderData`. -/
structure CNIPluginsManifestRenderData where
  crSpec : ImageSpec
  tolerations : List Toleration
  nodeAffinity : Option String
  runtimeSpec : cniRuntimeSpec

/-- The `InfoCatalog`, as far as this State reads it: its static config provider, if any. -/
structure InfoCatalog (P : Type) where
  getStaticConfigProvider : Option P

/-- What `getManifestObjects` reads from the process: the operator's resource namespace
(`config.FromEnv()`), and `utils.GetCniBinDirectory` on a static config provider. -/
structure CniEnv (P : Type) where
  networkOperatorResourceNamespace : String
  getCniBinDirectory : P → String

/-- The skeleton's operations `Sync` calls, as oracles over the world `W`, with rendered
objects of type `Obj`.  `createOrUpdateObjs` is given the policy its callback stamps as the
objects' controller. -/
structure stateSkel (W Obj : Type) where
  renderObjects : CNIPluginsManifestRenderData → W → Except String (List Obj) × W
  createOrUpdateObjs : NicClusterPolicy → List Obj → W → Option String × W
  handleStaleStateObjects : List Obj → W → (Bool × Option String) × W
  getSyncState : List Obj → W → (SyncState × Option String) × W
  handleStateObjectsDeletion : W → (SyncState × Option String) × W

/-- `errors.Wrap(err, msg)`. -/
def wrap (err msg : String) : String := msg ++ ": " ++ err

section Sync

variable {W Obj P : Type}

/-- `stateCNIPlugins.getManifestObjects`: fill the render data and render the manifests. -/
def getManifestObjects (env : CniEnv P) (sk : stateSkel W Obj) (cr : NicClusterPolicy)
    (cniPlugins : ImageSpec) (staticConfig : P) (w : W) : Except String (List Obj) × W :=
  let renderData : CNIPluginsManifestRenderData :=
    { crSpec := cniPlugins
      tolerations := cr.spec.tolerations
      nodeAffinity := cr.spec.nodeAffinity
      runtimeSpec := ⟨env.networkOperatorResourceNamespace, env.getCniBinDirectory staticConfig⟩ }
  match sk.renderObjects renderData w with
  | (.error err, w) => (.error (wrap err "failed to render objects"), w)
  | (.ok objs, w) => (.ok objs, w)

/-- `stateCNIPlugins.Sync`. -/
def stateCNIPlugins.sync (env : CniEnv P) (sk : stateSkel W Obj) (cr : NicClusterPolicy)
    (infoCatalog : InfoCatalog P) (w : W) : (SyncState × Option String) × W :=
  match cr.spec.secondaryNetwork.bind (·.cniPlugins) with
  | none => sk.handleStateObjectsDeletion w
  | some cniPlugins =>
    match infoCatalog.getStaticConfigProvider with
    | none => ((.error, some "unexpected state, catalog does not provide static info"), w)
    | some staticInfo =>
      match getManifestObjects env sk cr cniPlugins staticInfo w with
      | (.error err, w) => ((.notReady, some (wrap err "failed to create k8s objects from manifest")), w)
      | (.ok objs, w) =>
        if objs.length = 0 then ((.notReady, none), w)
        else
          match sk.createOrUpdateObjs cr objs w with
          | (some err, w) => ((.notReady, some (wrap err "failed to create/update objects")), w)
          | (none, w) =>
            match sk.handleStaleStateObjects objs w with
            | ((_, some err), w) =>
              ((.notReady, some (wrap err "failed to handle state stale objects")), w)
            | ((true, none), w) => ((.notReady, none), w)
            | ((false, none), w) =>
              match sk.getSyncState objs w with
              | ((_, some err), w) => ((.notReady, some (wrap err "failed to get sync state")), w)
              | ((syncState, none), w) => ((syncState, none), w)

/-! ### The order of the skeleton's calls -/

/-- A call of a skeleton operation, with what it returned. -/
inductive SkelCall (Obj : Type) where
  | renderObjects (data : CNIPluginsManifestRenderData) (out : Except String (List Obj))
  | createOrUpdateObjs (objs : List Obj) (err : Option String)
  | handleStaleStateObjects (objs : List Obj) (pending : Bool) (err : Option String)
  | getSyncState (objs : List Obj) (syncState : SyncState) (err : Option String)
  | handleStateObjectsDeletion (syncState : SyncState) (err : Option String)

/-- The skeleton with its calls recorded: each operation runs as before, and appends the call
and its outcome to a log kept in the world. -/
def stateSkel.recorded (sk : stateSkel W Obj) : stateSkel (List (SkelCall Obj) × W) Obj where
  renderObjects d lw :=
    let (r, w) := sk.renderObjects d lw.2
    (r, (lw.1 ++ [.renderObjects d r], w))
  createOrUpdateObjs cr objs lw :=
    let (err, w) := sk.createOrUpdateObjs cr objs lw.2
    (err, (lw.1 ++ [.createOrUpdateObjs objs err], w))
  handleStaleStateObjects objs lw :=
    let ((p, err), w) := sk.handleStaleStateObjects objs lw.2
    ((p, err), (lw.1 ++ [.handleStaleStateObjects objs p err], w))
  getSyncState objs lw :=
    let ((st, err), w) := sk.getSyncState objs lw.2
    ((st, err), (lw.1 ++ [.getSyncState objs st err], w))
  handleStateObjectsDeletion lw :=
    let ((st, err), w) := sk.handleStateObjectsDeletion lw.2
    ((st, err), (lw.1 ++ [.handleStateObjectsDeletion st err], w))

/-- The calls of an enabled State's `Sync`: a prefix of render, create-or-update, stale handling
and readiness, all on one non-empty rendered list, each made exactly when the one before it
succeeded: the calls stop only at a render that failed or rendered nothing, a create-or-update
that failed, or stale handling that failed or has objects left to remove. -/
inductive SyncOrder : List (SkelCall Obj) → Prop where
  | nothing : SyncOrder []
  | render (d : CNIPluginsManifestRenderData) (r : Except String (List Obj))
      (hstop : ∀ objs, r = .ok objs → objs = []) :
      SyncOrder [.renderObjects d r]
  | createOrUpdate (d : CNIPluginsManifestRenderData) (objs : List Obj) (err : Option String)
      (h : objs ≠ []) (hstop : err ≠ none) :
      SyncOrder [.renderObjects d (.ok objs), .createOrUpdateObjs objs err]
  | handleStale (d : CNIPluginsManifestRenderData) (objs : List Obj) (pending : Bool)
      (err : Option String) (h : objs ≠ []) (hstop : pending = true ∨ err ≠ none) :
      SyncOrder [.renderObjects d (.ok objs), .createOrUpdateObjs objs none,
        .handleStaleStateObjects objs pending err]
  | getSyncState (d : CNIPluginsManifestRenderData) (objs : List Obj) (st : SyncState)
      (err : Option String) (h : objs ≠ []) :
      SyncOrder [.renderObjects d (.ok objs), .createOrUpdateObjs objs none,
        .handleStaleStateObjects objs false none, .getSyncState objs st err]

/-- **`Sync` follows the skeleton's order.**  For every policy, catalog and behaviour of the
oracles: a disabled State only asks for deletion, and reports what it got; an enabled one makes
its calls in `SyncOrder`, going on after every step that succeeded, and makes none exactly when
the catalog has no static info; and `Sync` reports `ready` only when the deletion did, or when
the catalog had static info and all four steps ran on one list, succeeded, and readiness came
back `ready`. -/
theorem sync_follows_skeleton_order (env : CniEnv P) (sk : stateSkel W Obj) (cr : NicClusterPolicy)
    (cat : InfoCatalog P) (log : List (SkelCall Obj)) (w : W) :
    let out := stateCNIPlugins.sync env sk.recorded cr cat (log, w)
    let enabled := cr.spec.secondaryNetwork.bind (·.cniPlugins)
    ∃ calls, out.2.1 = log ++ calls ∧
      (enabled = none → calls = [.handleStateObjectsDeletion out.1.1 out.1.2]) ∧
      (enabled.isSome → SyncOrder calls) ∧
      (enabled.isSome → (calls = [] ↔ cat.getStaticConfigProvider = none)) ∧
      (out.1.1 = .ready →
        (enabled = none ∧ calls = [.handleStateObjectsDeletion .ready out.1.2]) ∨
        (cat.getStaticConfigProvider.isSome ∧ out.1.2 = none ∧ ∃ d objs, objs ≠ [] ∧
          calls = [.renderObjects d (.ok objs), .createOrUpdateObjs objs none,
            .handleStaleStateObjects objs false none, .getSyncState objs .ready none])) := by
  intro out enabled
  simp only [out, enabled, stateCNIPlugins.sync]
  cases hen : cr.spec.secondaryNetwork.bind (·.cniPlugins) with
  | none =>
    refine ⟨_, rfl, fun _ => rfl, by simp, by simp, fun h => .inl ⟨rfl, ?_⟩⟩
    simp only [stateSkel.recorded] at h ⊢
    rw [h]
  | some cni =>
    simp only [Option.isSome_some, true_implies, reduceCtorEq, false_and, false_or, false_implies,
      true_and]
    cases hcat : cat.getStaticConfigProvider with
    | none => exact ⟨[], by simp, .nothing, by simp, by simp⟩
    | some si =>
      simp only [getManifestObjects, stateSkel.recorded, Option.isSome_some, true_and]
      generalize (⟨cni, _, _, _⟩ : CNIPluginsManifestRenderData) = d
      rcases hr : sk.renderObjects d w with ⟨_ | objs, w₁⟩
      · simp only [hr]
        exact ⟨_, rfl, .render _ _ (by simp), by simp, by simp⟩
      simp only [hr]
      by_cases h0 : objs.length = 0
      · simp only [h0, if_true]
        exact ⟨_, rfl, .render _ _ (fun _ ho => by cases ho; exact List.length_eq_zero.mp h0), by simp,
          by simp⟩
      have hne : objs ≠ [] := fun h => h0 (by simp [h])
      simp only [h0, if_false]
      rcases hc : sk.createOrUpdateObjs cr objs w₁ with ⟨_ | err, w₂⟩
      · rcases hs : sk.handleStaleStateObjects objs w₂ with ⟨⟨_ | _, _ | err⟩, w₃⟩
        · rcases hg : sk.getSyncState objs w₃ with ⟨⟨st, _ | err⟩, w₄⟩
          · simp only [hc, hs, hg, List.append_assoc, List.singleton_append]
            exact ⟨_, rfl, .getSyncState _ _ _ _ hne, by simp, fun h => ⟨trivial, d, objs, hne, by simp [h]⟩⟩
          · simp only [hc, hs, hg, List.append_assoc, List.singleton_append]
            exact ⟨_, rfl, .getSyncState _ _ _ _ hne, by simp, by simp⟩
        all_goals
          simp only [hc, hs, List.append_assoc, List.singleton_append]
          exact ⟨_, rfl, .handleStale _ _ _ _ hne (by simp), by simp, by simp⟩
      · simp only [hc, List.append_assoc, List.singleton_append]
        exact ⟨_, rfl, .createOrUpdate _ _ _ hne (by simp), by simp, by simp⟩

end Sync

/-- `stateCNIPlugins.GetWatchSources`: the source kind, by the name of the type it watches. -/
structure SourceKind where
  type : String
  deriving DecidableEq, Repr

/-- `stateCNIPlugins.GetWatchSources`: DaemonSets. -/
def stateCNIPlugins.getWatchSources : GoMap String SourceKind :=
  ⟨[("DaemonSet", ⟨"DaemonSet"⟩)], by decide⟩

/-- `stateCNIPlugins` as a State of the manager. -/
def stateCNIPlugins.toState {W Obj P : Type} (env : CniEnv P) (sk : stateSkel W Obj) :
    State W NicClusterPolicy (InfoCatalog P) SourceKind where
  name := "state-container-networking-plugins"
  description := "Container Networking CNI Plugins deployed in the cluster"
  sync cr cat w :=
    let ((st, err), w) := stateCNIPlugins.sync env sk cr cat w
    (st, err, w)
  getWatchSources := stateCNIPlugins.getWatchSources

end NetworkOperator.States
