import Mathlib.Data.Finset.Basic
import NetworkOperator.Api.V1alpha1

/-!
# Upgrade — the drain manager

`DrainManagerImpl` of `pkg/upgrade/drain_manager.go`.  `ScheduleNodesDrain` runs in the single
reconcile loop, so two calls never overlap; each turn of its loop over the nodes is atomic, and
spawns a goroutine that cordons the node, drains it, moves it to an upgrade state and, deferred,
removes its name from `drainingNodes`.  The goroutines run in any interleaving with each other
and with the loop.  `DrainSystem.step` is one step of any of them: a call starting, one turn of
its loop, the call returning, or a goroutine running from one call of its own to the next, the
outcome of `RunCordonOrUncordon` and `RunNodeDrain` being chosen by the cluster.

Each goroutine captures its own turn's `node`, as Go's per-iteration loop variables give it
(Go 1.22 on).  `StringSet` (not under the sources) guards its map with a mutex, so `Has`, `Add`
and `Remove` are atomic.

* `drainInv_of_reachable`: in every reachable state, at most one live task exists per node
  name, a name is in `drainingNodes` exactly while a task for it is live, every call a task
  made is about its own node, and a finished task ended in one of the three histories of
  `finished`: one `ChangeNodeUpgradeState`, `PodRestart` exactly when cordon and drain
  succeeded.
* `drainManager_safe`: what the invariant gives, and that a call with no nodes, no spec, or drain
  disabled changes nothing.
* `drainHelperOf_timeout`: the helper's `Timeout` is `TimeoutSecond` nanoseconds.
-/

namespace NetworkOperator.Upgrade

open NetworkOperator.V1alpha1

/-- A `corev1.Node`, by its name: the drain manager reads no other field. -/
structure Node where
  name : String
  deriving DecidableEq, Repr

/-- `DrainConfiguration`. -/
structure DrainConfiguration where
  spec : Option DrainSpec
  nodes : List Node

/-- The fields of `drain.Helper` that `ScheduleNodesDrain` sets from the spec, `Timeout` as a
`time.Duration`, a count of nanoseconds. -/
structure DrainHelper where
  force : Bool
  ignoreAllDaemonSets : Bool
  deleteEmptyDirData : Bool
  gracePeriodSeconds : Int
  timeout : Int
  podSelector : String
  deriving DecidableEq, Repr

/-- The `drain.Helper` built by `ScheduleNodesDrain`. -/
def drainHelperOf (drainSpec : DrainSpec) : DrainHelper where
  force := drainSpec.force
  ignoreAllDaemonSets := true
  deleteEmptyDirData := drainSpec.deleteEmptyDir
  gracePeriodSeconds := -1
  timeout := drainSpec.timeoutSecond
  podSelector := drainSpec.podSelector

/-- `drainHelper.Timeout` is `time.Duration(drainSpec.TimeoutSecond)`: the count of seconds,
read as nanoseconds. -/
theorem drainHelperOf_timeout (drainSpec : DrainSpec) :
    (drainHelperOf drainSpec).timeout = drainSpec.timeoutSecond := rfl

/-- The upgrade states the drain goroutine moves a node to. -/
inductive UpgradeState where
  | drainFailed
  | podRestart
  deriving DecidableEq, Repr

/-- A call a drain goroutine makes on the cluster, with its outcome. -/
inductive DrainCall where
  | runCordonOrUncordon (node : Node) (ok : Bool)
  | runNodeDrain (helper : DrainHelper) (nodeName : String) (ok : Bool)
  | changeNodeUpgradeState (node : Node) (state : UpgradeState)
  deriving DecidableEq, Repr

/-- The name of the node a call is about. -/
def DrainCall.nodeName : DrainCall → String
  | .runCordonOrUncordon node _ => node.name
  | .runNodeDrain _ nodeName _ => nodeName
  | .changeNodeUpgradeState node _ => node.name

/-- Where a drain goroutine is: between two of its calls. -/
inductive TaskPc where
  | start
  | cordoned
  | cordonFailed
  | drained
  | drainFailed
  | returning
  | done
  deriving DecidableEq, Repr

/-- A drain goroutine: the node and helper it captured, where it is, and its calls so far. -/
structure DrainTask where
  node : Node
  helper : DrainHelper
  pc : TaskPc
  calls : List DrainCall
  deriving DecidableEq, Repr

/-- A goroutine is live until its deferred `Remove` has run. -/
def DrainTask.live (t : DrainTask) : Bool := t.pc != .done

/-- A `ScheduleNodesDrain` call in its loop: the helper it built and the nodes left. -/
structure SchedRun where
  helper : DrainHelper
  pending : List Node

/-- The drain manager with its goroutines: `drainingNodes`, every task spawned so far (live or
finished), and the `ScheduleNodesDrain` call in progress, if any. -/
structure DrainSystem where
  drainingNodes : Finset String
  tasks : List DrainTask
  sched : Option SchedRun

/-- `NewDrainManager`: an empty `drainingNodes`, and nothing running. -/
def DrainSystem.init : DrainSystem := ⟨∅, [], none⟩

/-- A step of the manager or of one of its goroutines. -/
inductive DrainAction where
  | schedule (drainConfig : DrainConfiguration)
  | scheduleNext
  | scheduleReturn
  | cordon (task : Nat) (ok : Bool)
  | drain (task : Nat) (ok : Bool)
  | changeNodeUpgradeState (task : Nat)
  | remove (task : Nat)

/-- `ScheduleNodesDrain` up to its loop: the checks, each returning at once, and otherwise the
loop to run with the helper it shares. -/
def scheduleNodesDrainStart (drainConfig : DrainConfiguration) : Except String (Option SchedRun) :=
  if drainConfig.nodes.length = 0 then .ok none
  else match drainConfig.spec with
    | none => .error "drain spec should not be empty"
    | some drainSpec =>
      if !drainSpec.enable then .ok none else .ok (some ⟨drainHelperOf drainSpec, drainConfig.nodes⟩)

/-- One turn of `ScheduleNodesDrain`'s loop: a node not being drained is added to
`drainingNodes`, and a goroutine is spawned for it. -/
def scheduleNode (s : DrainSystem) (helper : DrainHelper) (node : Node) : DrainSystem :=
  if node.name ∈ s.drainingNodes then s
  else { s with
    drainingNodes := insert node.name s.drainingNodes
    tasks := s.tasks ++ [⟨node, helper, .start, []⟩] }

/-- One step of a drain goroutine, from one of its calls to the next. -/
def DrainTask.step (t : DrainTask) : DrainAction → Option DrainTask
  | .cordon _ ok =>
    if t.pc = .start then
      some { t with pc := if ok then .cordoned else .cordonFailed
                    calls := t.calls ++ [.runCordonOrUncordon t.node ok] }
    else none
  | .drain _ ok =>
    if t.pc = .cordoned then
      some { t with pc := if ok then .drained else .drainFailed
                    calls := t.calls ++ [.runNodeDrain t.helper t.node.name ok] }
    else none
  | .changeNodeUpgradeState _ =>
    match t.pc with
    | .cordonFailed | .drainFailed =>
      some { t with pc := .returning, calls := t.calls ++ [.changeNodeUpgradeState t.node .drainFailed] }
    | .drained =>
      some { t with pc := .returning, calls := t.calls ++ [.changeNodeUpgradeState t.node .podRestart] }
    | _ => none
  | .remove _ => if t.pc = .returning then some { t with pc := .done } else none
  | _ => none

/-- One step of the system; `none` when the step cannot be taken. -/
def DrainSystem.step (s : DrainSystem) : DrainAction → Option DrainSystem
  | .schedule drainConfig =>
    if s.sched.isSome then none
    else match scheduleNodesDrainStart drainConfig with
      | .ok (some run) => some { s with sched := some run }
      | _ => some s
  | .scheduleNext =>
    match s.sched with
    | some ⟨helper, node :: rest⟩ => some { scheduleNode s helper node with sched := some ⟨helper, rest⟩ }
    | _ => none
  | .scheduleReturn =>
    match s.sched with
    | some ⟨_, []⟩ => some { s with sched := none }
    | _ => none
  | a@(.cordon i _) | a@(.drain i _) | a@(.changeNodeUpgradeState i) | a@(.remove i) =>
    match s.tasks[i]? with
    | none => none
    | some t => (t.step a).map fun t' =>
      { s with
        tasks := s.tasks.set i t'
        drainingNodes := if t'.pc = .done then s.drainingNodes.erase t.node.name else s.drainingNodes }

/-- The states reachable from `NewDrainManager` by any interleaving of steps. -/
inductive Reachable : DrainSystem → Prop where
  | init : Reachable DrainSystem.init
  | step {s s' : DrainSystem} {a : DrainAction} : Reachable s → s.step a = some s' → Reachable s'

/-! ### The invariant -/

/-- The histories a drain goroutine can have once it has moved its node: cordon failed; cordon
done and drain failed; both done. -/
def finished (node : Node) (helper : DrainHelper) : List (List DrainCall) :=
  [[.runCordonOrUncordon node false, .changeNodeUpgradeState node .drainFailed],
   [.runCordonOrUncordon node true, .runNodeDrain helper node.name false,
      .changeNodeUpgradeState node .drainFailed],
   [.runCordonOrUncordon node true, .runNodeDrain helper node.name true,
      .changeNodeUpgradeState node .podRestart]]

/-- A task's calls so far, at each point of its goroutine. -/
def DrainTask.Wf (t : DrainTask) : Prop :=
  match t.pc with
  | .start => t.calls = []
  | .cordoned => t.calls = [.runCordonOrUncordon t.node true]
  | .cordonFailed => t.calls = [.runCordonOrUncordon t.node false]
  | .drained => t.calls = [.runCordonOrUncordon t.node true, .runNodeDrain t.helper t.node.name true]
  | .drainFailed =>
    t.calls = [.runCordonOrUncordon t.node true, .runNodeDrain t.helper t.node.name false]
  | .returning | .done => t.calls ∈ finished t.node t.helper

/-- The node names of the live tasks, one entry per live task. -/
def liveNames (tasks : List DrainTask) : List String := (tasks.filter (·.live)).map (·.node.name)

/-- The drain manager's invariant: no two live tasks share a node name, `drainingNodes` holds
the names of the live tasks, and every task's calls fit where it is. -/
structure DrainInv (s : DrainSystem) : Prop where
  nodup : (liveNames s.tasks).Nodup
  draining : ∀ n, n ∈ s.drainingNodes ↔ n ∈ liveNames s.tasks
  wf : ∀ t ∈ s.tasks, t.Wf

theorem drainInv_init : DrainInv DrainSystem.init :=
  ⟨List.nodup_nil, fun n => by simp [DrainSystem.init, liveNames], fun _ h => absurd h (List.not_mem_nil _)⟩

theorem liveNames_append (l : List DrainTask) (t : DrainTask) :
    liveNames (l ++ [t]) = liveNames l ++ if t.live then [t.node.name] else [] := by
  cases h : t.live <;> simp [liveNames, List.filter_append, h]

/-- Setting a task to one with the same node and liveness keeps the live names. -/
theorem liveNames_set_same {l : List DrainTask} {i : Nat} {t t' : DrainTask} (h : l[i]? = some t)
    (hn : t'.node = t.node) (hl : t'.live = t.live) : liveNames (l.set i t') = liveNames l := by
  induction l generalizing i with
  | nil => cases h
  | cons u l ih =>
    cases i with
    | zero =>
      obtain rfl : u = t := by simpa using h
      cases hu : u.live <;> simp [liveNames, List.filter_cons, hn, hl, hu]
    | succ i =>
      simp only [List.getElem?_cons_succ] at h
      have ih' := ih h
      simp only [liveNames] at ih'
      cases hu : u.live <;> simp [liveNames, List.filter_cons, hu, ih']

/-- Finishing the live task of a name drops the name from the live names. -/
theorem liveNames_set_finish {l : List DrainTask} {i : Nat} {t t' : DrainTask} (h : l[i]? = some t)
    (ht : t.live) (ht' : t'.live = false) (hnd : (liveNames l).Nodup) :
    liveNames (l.set i t') = (liveNames l).erase t.node.name := by
  induction l generalizing i with
  | nil => cases h
  | cons u l ih =>
    cases i with
    | zero =>
      obtain rfl : u = t := by simpa using h
      simp [liveNames, List.filter_cons, ht, ht']
    | succ i =>
      simp only [List.getElem?_cons_succ] at h
      have hmem : t.node.name ∈ liveNames l :=
        List.mem_map.mpr ⟨t, List.mem_filter.mpr ⟨List.getElem?_mem h, ht⟩, rfl⟩
      cases hu : u.live
      · simpa [liveNames, List.filter_cons, hu] using ih h (by simpa [liveNames, List.filter_cons, hu] using hnd)
      · have hnd' : (u.node.name :: liveNames l).Nodup := by
          simpa [liveNames, List.filter_cons, hu] using hnd
        have hne : u.node.name ≠ t.node.name := fun e => (List.nodup_cons.mp hnd').1 (e ▸ hmem)
        have ih' := ih h (List.nodup_cons.mp hnd').2
        simp only [liveNames] at ih'
        simp only [liveNames, List.set_cons_succ, List.filter_cons, hu, if_true, List.map_cons, ih']
        rw [List.erase_cons_tail (by simpa using hne)]

/-- **A goroutine step**: it keeps the task's node and helper, starts from a live task, ends in
a finished one only from `returning`, and keeps the calls fitting. -/
theorem DrainTask.step_spec {t t' : DrainTask} {a : DrainAction} (h : t.step a = some t') :
    t'.node = t.node ∧ t'.helper = t.helper ∧ t.live ∧ (t'.pc = .done → t.pc = .returning) ∧
      (t.Wf → t'.Wf) := by
  cases a with
  | cordon _ ok =>
    simp only [step] at h; split at h <;> cases h
    refine ⟨rfl, rfl, by simp [live, *], by cases ok <;> simp, ?_⟩
    intro hw; simp only [Wf, *] at hw ⊢; cases ok <;> simp [hw]
  | drain _ ok =>
    simp only [step] at h; split at h <;> cases h
    refine ⟨rfl, rfl, by simp [live, *], by cases ok <;> simp, ?_⟩
    intro hw; simp only [Wf, *] at hw ⊢; cases ok <;> simp [hw]
  | changeNodeUpgradeState _ =>
    simp only [step] at h; split at h <;> cases h <;>
      refine ⟨rfl, rfl, by simp [live, *], by simp, ?_⟩ <;>
      intro hw <;> simp only [Wf, *] at hw ⊢ <;> simp [hw, finished]
  | remove _ =>
    simp only [step] at h; split at h <;> cases h
    refine ⟨rfl, rfl, by simp [live, *], fun _ => ‹_›, ?_⟩
    intro hw; simpa only [Wf, *] using hw
  | _ => cases h


/-- A turn of the loop keeps the invariant: a name not being drained comes with its one live
task. -/
theorem drainInv_scheduleNode {s : DrainSystem} (h : DrainInv s) (helper : DrainHelper) (node : Node) :
    DrainInv (scheduleNode s helper node) := by
  unfold scheduleNode
  split
  · exact h
  · rename_i hn
    have hnl : node.name ∉ liveNames s.tasks := fun hm => hn ((h.draining _).mpr hm)
    refine ⟨?_, fun n => ?_, ?_⟩
    · simpa [liveNames_append, DrainTask.live, List.nodup_append, h.nodup] using hnl
    · simp [liveNames_append, DrainTask.live, h.draining, or_comm]
    · intro t ht
      rcases List.mem_append.mp ht with ht | ht
      · exact h.wf t ht
      · simp only [List.mem_singleton] at ht; subst ht; rfl

/-- A goroutine step keeps the invariant: a task that finishes takes its name out of both
`drainingNodes` and the live names. -/
theorem drainInv_setTask {s : DrainSystem} (h : DrainInv s) {i : Nat} {t t' : DrainTask}
    {a : DrainAction} (hi : s.tasks[i]? = some t) (ht : t.step a = some t') :
    DrainInv { s with
      tasks := s.tasks.set i t'
      drainingNodes := if t'.pc = .done then s.drainingNodes.erase t.node.name else s.drainingNodes } := by
  obtain ⟨hn, -, hl, -, hw⟩ := DrainTask.step_spec ht
  have hwf : ∀ u ∈ s.tasks.set i t', u.Wf := fun u hu => by
    rcases List.mem_or_eq_of_mem_set hu with hu | rfl
    · exact h.wf u hu
    · exact hw (h.wf t (List.getElem?_mem hi))
  by_cases hd : t'.pc = .done
  · have hl' : t'.live = false := by simp [DrainTask.live, hd]
    have hset := liveNames_set_finish hi hl hl' h.nodup
    refine ⟨hset ▸ h.nodup.erase _, fun n => ?_, hwf⟩
    simp only [hd, if_true, Finset.mem_erase, h.draining, hset, h.nodup.mem_erase_iff]
  · have hl' : t'.live = t.live := by rw [hl]; simpa [DrainTask.live] using hd
    have hset := liveNames_set_same hi hn hl'
    exact ⟨hset ▸ h.nodup, fun n => by simp only [hd, if_false, hset, h.draining], hwf⟩

/-- **Every step keeps the invariant.** -/
theorem drainInv_step {s s' : DrainSystem} {a : DrainAction} (h : DrainInv s)
    (hs : s.step a = some s') : DrainInv s' := by
  cases a with
  | schedule drainConfig =>
    simp only [DrainSystem.step] at hs
    split at hs
    · cases hs
    · split at hs <;> cases hs <;> exact ⟨h.nodup, h.draining, h.wf⟩
  | scheduleNext =>
    simp only [DrainSystem.step] at hs
    split at hs <;> cases hs
    have h' := drainInv_scheduleNode h ‹_› ‹_›
    exact ⟨h'.nodup, h'.draining, h'.wf⟩
  | scheduleReturn =>
    simp only [DrainSystem.step] at hs
    split at hs <;> cases hs
    exact ⟨h.nodup, h.draining, h.wf⟩
  | cordon i _ | drain i _ | changeNodeUpgradeState i | remove i =>
    simp only [DrainSystem.step] at hs
    split at hs
    · cases hs
    · obtain ⟨t', ht, rfl⟩ := Option.map_eq_some'.mp hs
      exact drainInv_setTask h ‹_› ht

/-- **The run lemma**: every reachable state satisfies the invariant. -/
theorem drainInv_of_reachable {s : DrainSystem} (h : Reachable s) : DrainInv s := by
  induction h with
  | init => exact drainInv_init
  | step _ hs ih => exact drainInv_step ih hs

/-- Every call a task has made is about the node it captured. -/
theorem DrainTask.Wf.nodeName {t : DrainTask} (h : t.Wf) : ∀ c ∈ t.calls, c.nodeName = t.node.name := by
  unfold DrainTask.Wf at h
  split at h <;> (try simp only [finished, List.mem_cons, List.mem_singleton, List.not_mem_nil,
    or_false] at h) <;> (try rcases h with h | h | h) <;> simp [h, DrainCall.nodeName]

/-- **The drain manager is safe.**  In every state reachable by any interleaving of calls and
goroutine steps: no two live tasks share a node name; a name is in `drainingNodes` exactly
while a task for it is live, so none is duplicated; every call a task made is about its own node; and a finished task made one of the
histories of `finished`, so one `ChangeNodeUpgradeState`, `PodRestart` exactly when cordon and
drain succeeded.  A finished drain never blocks a later one: when no live task has a node's
name, the loop's turn for that node adds the name and spawns a task for it.  A call with no
nodes, no spec or drain disabled changes nothing. -/
theorem drainManager_safe :
    (∀ s, Reachable s →
      (liveNames s.tasks).Nodup ∧
      (∀ n, n ∈ s.drainingNodes ↔ ∃ t ∈ s.tasks, t.live ∧ t.node.name = n) ∧
      (∀ t ∈ s.tasks, ∀ c ∈ t.calls, c.nodeName = t.node.name) ∧
      (∀ t ∈ s.tasks, t.pc = .done → t.calls ∈ finished t.node t.helper)) ∧
    (∀ s helper node rest, Reachable s → s.sched = some ⟨helper, node :: rest⟩ →
      (∀ t ∈ s.tasks, t.live → t.node.name ≠ node.name) →
      s.step .scheduleNext = some ⟨insert node.name s.drainingNodes,
        s.tasks ++ [⟨node, helper, .start, []⟩], some ⟨helper, rest⟩⟩) ∧
    (∀ (s : DrainSystem) (drainConfig : DrainConfiguration), s.sched = none →
      (drainConfig.nodes = [] ∨ drainConfig.spec = none ∨
        ∃ drainSpec, drainConfig.spec = some drainSpec ∧ drainSpec.enable = false) →
      s.step (.schedule drainConfig) = some s) := by
  refine ⟨fun s hs => ?_, fun s helper node rest hs hsched hfree => ?_, fun s drainConfig hs hc => ?_⟩
  · have h := drainInv_of_reachable hs
    refine ⟨h.nodup, fun n => by simp [h.draining, liveNames, and_assoc], fun t ht => (h.wf t ht).nodeName,
      fun t ht hd => ?_⟩
    have hw := h.wf t ht
    simpa only [DrainTask.Wf, hd] using hw
  · have hnot : node.name ∉ s.drainingNodes := by
      simpa [(drainInv_of_reachable hs).draining, liveNames] using hfree
    simp [DrainSystem.step, hsched, scheduleNode, hnot]
  · have hstart : ∀ run, scheduleNodesDrainStart drainConfig ≠ .ok (some run) := fun run => by
      unfold scheduleNodesDrainStart
      rcases hc with hc | hc | ⟨drainSpec, hc, he⟩
      · simp [hc]
      · split <;> simp [hc]
      · split <;> simp [hc, he]
    simp only [DrainSystem.step, hs, Option.isSome_none, Bool.false_eq_true, if_false]

/-- Drain enabled with `TimeoutSecond = 300`, on one node. -/
def drainConfig300 : DrainConfiguration := ⟨some ⟨true, false, "", 300, false⟩, [⟨"worker-0"⟩]⟩

/-- With `TimeoutSecond = 300`, the drain `ScheduleNodesDrain` starts runs with a `Timeout` of
300 nanoseconds, not 300 seconds. -/
theorem drain_timeout_is_nanoseconds :
    ∃ s, Reachable s ∧ ∃ t ∈ s.tasks, ∃ helper : DrainHelper,
      .runNodeDrain helper "worker-0" true ∈ t.calls ∧ helper.timeout = 300 ∧
      helper.timeout ≠ 300 * 1000000000 :=
  ⟨_, .step (.step (.step (.step .init (a := .schedule drainConfig300) rfl)
      (a := .scheduleNext) rfl) (a := .cordon 0 true) rfl) (a := .drain 0 true) rfl,
    _, List.mem_singleton_self _, drainHelperOf ⟨true, false, "", 300, false⟩,
    List.mem_cons_of_mem _ (List.mem_singleton_self _), rfl, by decide⟩

end NetworkOperator.Upgrade
