import Mathlib.Algebra.Order.BigOperators.Group.List
import Mathlib.Algebra.Order.Ring.Nat
import NetworkOperator.Upgrade.DrainManager

/-!
# Upgrade — the drain manager over whole runs

The invariant (`drainInv_of_reachable`) says what holds in each reachable state.  This module
says what runs do: no goroutine and no `ScheduleNodesDrain` call can get stuck, whatever the
cluster answers, and the drains of one node never overlap.

* `drainSystem_quiesces`: from every reachable state, the run `quiesce` (the call in progress
  runs to its return, then each goroutine to its deferred `Remove`, the cluster answering each
  cordon and drain as it likes) can be taken to its end, where `drainingNodes` is empty, every
  goroutine has moved its node once, and every node the call had left has a goroutine of its
  name.
* `drainSystem_runs_end`: no interleaving goes on for ever; from any state, a run that starts no
  new call takes at most five steps per node the call in progress has left, one for its return,
  and four per goroutine (the work left, `DrainSystem.work`, drops at every such step).
* `drains_of_a_node_in_order`: of two goroutines spawned for one node name, the first has
  finished in every reachable state, so before the second was spawned.

A run is a fold of `DrainSystem.step` (`DrainSystem.run`).  A goroutine's steps lift to the
system one by one (`DrainSystem.run_task`), so the goroutines are ended one after another
(`run_finishFrom`); what the end state holds is read off the invariant there.
-/

namespace NetworkOperator.Upgrade

/-- A run of the system: the actions taken in turn, `none` as soon as one cannot be taken. -/
def DrainSystem.run (s : DrainSystem) : List DrainAction → Option DrainSystem
  | [] => some s
  | a :: as => (s.step a).bind fun s' => s'.run as

theorem DrainSystem.run_append (s : DrainSystem) (as bs : List DrainAction) :
    s.run (as ++ bs) = (s.run as).bind fun s' => s'.run bs := by
  induction as generalizing s with
  | nil => rfl
  | cons a as ih => cases h : s.step a <;> simp [run, h, ih]

/-- A run from a reachable state ends in a reachable state. -/
theorem Reachable.run {s s' : DrainSystem} {as : List DrainAction} (hs : Reachable s)
    (h : s.run as = some s') : Reachable s' := by
  induction as generalizing s with
  | nil => cases h; exact hs
  | cons a as ih =>
    obtain ⟨s₁, h₁, h₂⟩ := Option.bind_eq_some.mp h
    exact ih (.step hs h₁) h₂

/-! ### One goroutine -/

/-- The goroutine a step is taken by, if any. -/
def DrainAction.task? : DrainAction → Option Nat
  | .cordon i _ | .drain i _ | .changeNodeUpgradeState i | .remove i => some i
  | _ => none

/-- A goroutine's steps in turn. -/
def DrainTask.run (t : DrainTask) : List DrainAction → Option DrainTask
  | [] => some t
  | a :: as => (t.step a).bind fun t' => t'.run as

/-- The steps that take the `i`-th goroutine from `pc` to its end, the cluster answering
`cordonOk` to its cordon and `drainOk` to its drain. -/
def finishActions (i : Nat) (cordonOk drainOk : Bool) : TaskPc → List DrainAction
  | .start =>
    if cordonOk then [.cordon i true, .drain i drainOk, .changeNodeUpgradeState i, .remove i]
    else [.cordon i false, .changeNodeUpgradeState i, .remove i]
  | .cordoned => [.drain i drainOk, .changeNodeUpgradeState i, .remove i]
  | .cordonFailed | .drained | .drainFailed => [.changeNodeUpgradeState i, .remove i]
  | .returning => [.remove i]
  | .done => []

theorem finishActions_task (i : Nat) (cordonOk drainOk : Bool) (pc : TaskPc) :
    ∀ a ∈ finishActions i cordonOk drainOk pc, a.task? = some i := by
  intro a ha
  cases pc <;> (try cases cordonOk) <;>
    simp only [finishActions, ite_true, ite_false, Bool.false_eq_true, List.mem_cons, List.mem_singleton,
      List.not_mem_nil, or_false] at ha <;>
    rcases ha with rfl | rfl | rfl | rfl <;> rfl

/-- Whatever the cluster answers, a goroutine's remaining steps can all be taken, and end it. -/
theorem DrainTask.run_finishActions (t : DrainTask) (i : Nat) (cordonOk drainOk : Bool) :
    ∃ t', t.run (finishActions i cordonOk drainOk t.pc) = some t' ∧ t'.node = t.node ∧ t'.pc = .done := by
  obtain ⟨node, helper, pc, calls⟩ := t
  cases pc
  case start => cases cordonOk <;> cases drainOk <;> exact ⟨_, rfl, rfl, rfl⟩
  case cordoned => cases drainOk <;> exact ⟨_, rfl, rfl, rfl⟩
  all_goals exact ⟨_, rfl, rfl, rfl⟩

/-- A goroutine's step, taken in the system. -/
theorem DrainSystem.step_task {s : DrainSystem} {i : Nat} {t t' : DrainTask} {a : DrainAction}
    (ha : a.task? = some i) (hi : s.tasks[i]? = some t) (ht : t.step a = some t') :
    s.step a = some { s with
      tasks := s.tasks.set i t'
      drainingNodes := if t'.pc = .done then s.drainingNodes.erase t.node.name else s.drainingNodes } := by
  cases a <;> simp only [DrainAction.task?, Option.some.injEq, reduceCtorEq] at ha <;> subst ha <;>
    simp [DrainSystem.step, hi, ht]

/-- A goroutine's steps, taken in the system: the goroutine moves on, the call in progress and
the other goroutines stay. -/
theorem DrainSystem.run_task {i : Nat} {as : List DrainAction} (has : ∀ a ∈ as, a.task? = some i) :
    ∀ {s : DrainSystem} {t t' : DrainTask}, s.tasks[i]? = some t → t.run as = some t' →
      ∃ d, s.run as = some { s with tasks := s.tasks.set i t', drainingNodes := d } := by
  induction as with
  | nil =>
    intro s t t' hi ht
    cases ht
    exact ⟨s.drainingNodes, by simp [run, set_eq_self_of_getElem? hi]⟩
  | cons a as ih =>
    intro s t t' hi ht
    obtain ⟨t₁, h₁, h₂⟩ := Option.bind_eq_some.mp ht
    have hlen : i < s.tasks.length := (List.getElem?_eq_some_iff.mp hi).1
    obtain ⟨d, hd⟩ := ih (fun b hb => has b (.tail _ hb)) (s := { s with
      tasks := s.tasks.set i t₁
      drainingNodes := if t₁.pc = .done then s.drainingNodes.erase t.node.name else s.drainingNodes })
      (List.getElem?_set_self hlen) h₂
    refine ⟨d, ?_⟩
    simp only [run, step_task (has a (.head _)) hi h₁, Option.some_bind, hd, List.set_set]

/-! ### Every goroutine -/

/-- The steps that end the goroutines `ts`, the first of them the `i`-th, the cluster answering
`answer j` to the `j`-th goroutine's cordon and drain. -/
def finishFrom (answer : Nat → Bool × Bool) : Nat → List DrainTask → List DrainAction
  | _, [] => []
  | i, t :: ts => finishActions i (answer i).1 (answer i).2 t.pc ++ finishFrom answer (i + 1) ts

/-- Ending the goroutines after the first `pre.length`: each is ended, on its node, and the call
in progress stays. -/
theorem run_finishFrom (answer : Nat → Bool × Bool) (ts : List DrainTask) :
    ∀ (s : DrainSystem) (pre : List DrainTask), s.tasks = pre ++ ts →
      ∃ s', s.run (finishFrom answer pre.length ts) = some s' ∧ s'.sched = s.sched ∧
        ∃ ts', s'.tasks = pre ++ ts' ∧ ts'.map (·.node) = ts.map (·.node) ∧ ∀ t ∈ ts', t.pc = .done := by
  induction ts with
  | nil => exact fun s pre hs => ⟨s, rfl, rfl, [], by simp [hs], rfl, by simp⟩
  | cons t ts ih =>
    intro s pre hs
    have hi : s.tasks[pre.length]? = some t := by
      rw [hs, List.getElem?_append_right (Nat.le_refl _)]; simp
    obtain ⟨t₁, ht₁, hn₁, hd₁⟩ := t.run_finishActions pre.length (answer pre.length).1 (answer pre.length).2
    obtain ⟨d, hd⟩ := DrainSystem.run_task (finishActions_task _ _ _ _) hi ht₁
    obtain ⟨s₂, h₂, hsched, ts', hts', hmap, hdone⟩ :=
      ih { s with tasks := s.tasks.set pre.length t₁, drainingNodes := d } (pre ++ [t₁]) (by simp [hs])
    refine ⟨s₂, ?_, hsched, t₁ :: ts', by simp [hts'], by simp [hmap, hn₁], ?_⟩
    · simp only [finishFrom, DrainSystem.run_append, hd, Option.some_bind]
      simpa using h₂
    · simpa [hd₁] using hdone

/-! ### The call in progress -/

/-- A turn of the loop adds the node's name to `drainingNodes`, where it may already be, and
keeps every goroutine. -/
theorem scheduleNode_spec (s : DrainSystem) (helper : DrainHelper) (node : Node) :
    (scheduleNode s helper node).drainingNodes = insert node.name s.drainingNodes ∧
      s.tasks <+: (scheduleNode s helper node).tasks ∧ (scheduleNode s helper node).sched = s.sched := by
  unfold scheduleNode
  split
  · exact ⟨(Finset.insert_eq_of_mem ‹_›).symm, List.prefix_refl _, rfl⟩
  · exact ⟨rfl, List.prefix_append _ _, rfl⟩

/-- The steps that end the `ScheduleNodesDrain` call in progress: a turn per node left, then the
return. -/
def schedActions : Option SchedRun → List DrainAction
  | none => []
  | some run => List.replicate run.pending.length .scheduleNext ++ [.scheduleReturn]

/-- The loop's turns over the nodes left: each node's name ends in `drainingNodes`, and every
goroutine and every name already there stays. -/
theorem run_scheduleNext (helper : DrainHelper) (pending : List Node) :
    ∀ s : DrainSystem, s.sched = some ⟨helper, pending⟩ →
      ∃ s', s.run (List.replicate pending.length .scheduleNext) = some s' ∧
        s'.sched = some ⟨helper, []⟩ ∧ s.tasks <+: s'.tasks ∧
        (∀ n ∈ s.drainingNodes, n ∈ s'.drainingNodes) ∧ ∀ node ∈ pending, node.name ∈ s'.drainingNodes := by
  induction pending with
  | nil => exact fun s hs => ⟨s, rfl, hs, List.prefix_refl _, fun _ h => h, by simp⟩
  | cons node rest ih =>
    intro s hs
    obtain ⟨hd, ht, -⟩ := scheduleNode_spec s helper node
    obtain ⟨s', h', hsched, ht', hd', hnodes⟩ := ih { scheduleNode s helper node with sched := some ⟨helper, rest⟩ } rfl
    refine ⟨s', ?_, hsched, ht.trans ht', fun n hn => hd' n (by simp [hd, hn]), ?_⟩
    · simpa [List.replicate_succ, DrainSystem.run, DrainSystem.step, hs] using h'
    · simp only [List.mem_cons, forall_eq_or_imp]
      exact ⟨hd' _ (by simp [hd]), hnodes⟩

/-- The call in progress runs to its return: it ends with every node it had left named in
`drainingNodes`, and keeps every goroutine. -/
theorem run_schedActions (s : DrainSystem) :
    ∃ s', s.run (schedActions s.sched) = some s' ∧ s'.sched = none ∧ s.tasks <+: s'.tasks ∧
      ∀ run ∈ s.sched, ∀ node ∈ run.pending, node.name ∈ s'.drainingNodes := by
  rcases hs : s.sched with _ | ⟨helper, pending⟩
  · exact ⟨s, rfl, hs, List.prefix_refl _, by simp⟩
  · obtain ⟨s', h', hsched, ht, -, hnodes⟩ := run_scheduleNext helper pending s hs
    refine ⟨{ s' with sched := none }, ?_, rfl, ht, by simpa using hnodes⟩
    simp [schedActions, DrainSystem.run_append, h', DrainSystem.run, DrainSystem.step, hsched]

/-! ### The drain manager comes to rest -/

/-- The run that brings the system to rest: the call in progress runs to its return, then every
goroutine to its end, the cluster answering `answer i` to the `i`-th goroutine's cordon and
drain. -/
def DrainSystem.quiesce (s : DrainSystem) (answer : Nat → Bool × Bool) : List DrainAction :=
  schedActions s.sched ++ finishFrom answer 0 ((s.run (schedActions s.sched)).getD s).tasks

/-- **The drain manager always comes to rest.**  From every reachable state, whatever the
cluster answers to each goroutine's cordon and drain, every step of `quiesce` can be taken, and
at its end: the `ScheduleNodesDrain` call in progress has returned; every goroutine has run its
deferred `Remove`, after one of the histories of `finished`; `drainingNodes` is empty; every
goroutine spawned before is still there; and every node the call had left has a goroutine of its
name, its own or the one already draining it. -/
theorem drainSystem_quiesces {s : DrainSystem} (hs : Reachable s) (answer : Nat → Bool × Bool) :
    ∃ s', s.run (s.quiesce answer) = some s' ∧ s'.sched = none ∧ s'.drainingNodes = ∅ ∧
      (∀ t ∈ s'.tasks, t.pc = .done ∧ t.calls ∈ finished t.node t.helper) ∧
      (∀ t ∈ s.tasks, ∃ t' ∈ s'.tasks, t'.node = t.node) ∧
      ∀ run ∈ s.sched, ∀ node ∈ run.pending, ∃ t ∈ s'.tasks, t.node.name = node.name := by
  obtain ⟨s₁, h₁, hsched₁, hpre, hnodes⟩ := run_schedActions s
  obtain ⟨s₂, h₂, hsched₂, ts, hts, hmap, hdone⟩ := run_finishFrom answer s₁.tasks s₁ [] rfl
  have inv₁ := drainInv_of_reachable (hs.run h₁)
  have inv₂ := drainInv_of_reachable ((hs.run h₁).run h₂)
  simp only [List.nil_append] at hts
  subst hts
  have hnode : ∀ t ∈ s₁.tasks, ∃ t' ∈ s₂.tasks, t'.node = t.node := fun t ht => by
    have h := List.mem_map_of_mem (·.node) ht
    rw [← hmap] at h
    simpa using h
  have hlive : liveNames s₂.tasks = [] := by
    rw [liveNames, List.map_eq_nil_iff, List.filter_eq_nil_iff]
    intro t ht
    simp [DrainTask.live, hdone t ht]
  refine ⟨s₂, by simpa [DrainSystem.quiesce, DrainSystem.run_append, h₁] using h₂, hsched₂ ▸ hsched₁, ?_,
    fun t ht => ⟨hdone t ht, by simpa [DrainTask.Wf, hdone t ht] using inv₂.wf t ht⟩,
    fun t ht => hnode t (hpre.subset ht), fun run hrun node hnd => ?_⟩
  · exact Finset.eq_empty_of_forall_not_mem fun n hn => by simpa [hlive] using (inv₂.draining n).mp hn
  · obtain ⟨t, ht, -, hname⟩ : ∃ t ∈ s₁.tasks, t.live ∧ t.node.name = node.name := by
      simpa [inv₁.draining, liveNames, and_assoc] using hnodes run hrun node hnd
    obtain ⟨t', ht', hn⟩ := hnode t ht
    exact ⟨t', ht', by rw [hn, hname]⟩

/-- A `ScheduleNodesDrain` call on `worker-0` has started: with every cordon refused, the system
still comes to rest. -/
theorem drainConfig300_quiesces :
    ∃ s, Reachable s ∧ s.sched.isSome ∧ ∃ s', s.run (s.quiesce fun _ => (false, false)) = some s' ∧
      s'.sched = none ∧ s'.drainingNodes = ∅ ∧
      (∀ t ∈ s'.tasks, t.pc = .done ∧ t.calls ∈ finished t.node t.helper) ∧
      (∀ t ∈ s.tasks, ∃ t' ∈ s'.tasks, t'.node = t.node) ∧
      ∀ run ∈ s.sched, ∀ node ∈ run.pending, ∃ t ∈ s'.tasks, t.node.name = node.name :=
  have hs : Reachable ⟨∅, [], some ⟨drainHelperOf ⟨true, false, "", 300, false⟩, [⟨"worker-0"⟩]⟩⟩ :=
    .step .init (a := .schedule drainConfig300) rfl
  ⟨_, hs, rfl, drainSystem_quiesces hs _⟩

/-! ### No run goes on for ever -/

/-- The steps a goroutine has left from `pc`, at most. -/
def TaskPc.remaining : TaskPc → Nat
  | .start => 4
  | .cordoned => 3
  | .cordonFailed | .drained | .drainFailed => 2
  | .returning => 1
  | .done => 0

theorem TaskPc.remaining_le (pc : TaskPc) : pc.remaining ≤ 4 := by
  cases pc <;> decide

/-- A step that starts a `ScheduleNodesDrain` call. -/
def DrainAction.isSchedule : DrainAction → Bool
  | .schedule _ => true
  | _ => false

/-- What the system can still do without a new call, at most: five steps per node the call in
progress has left (its turn, and its goroutine's four), one for the call's return, and what each
goroutine has left. -/
def DrainSystem.work (s : DrainSystem) : Nat :=
  (s.sched.map fun run => 5 * run.pending.length + 1).getD 0 + (s.tasks.map (·.pc.remaining)).sum

theorem DrainTask.step_remaining {t t' : DrainTask} {a : DrainAction} (h : t.step a = some t') :
    t'.pc.remaining < t.pc.remaining := by
  cases a with
  | cordon _ ok =>
    simp only [step] at h; split at h <;> cases h
    cases ok <;> simp [TaskPc.remaining, *]
  | drain _ ok =>
    simp only [step] at h; split at h <;> cases h
    cases ok <;> simp [TaskPc.remaining, *]
  | changeNodeUpgradeState _ =>
    simp only [step] at h; split at h <;> cases h <;> simp [TaskPc.remaining, *]
  | remove _ =>
    simp only [step] at h; split at h <;> cases h
    simp [TaskPc.remaining, *]
  | _ => cases h

theorem sum_map_set_lt {α : Type} {f : α → Nat} {l : List α} {i : Nat} {a b : α} (hi : l[i]? = some a)
    (h : f b < f a) : ((l.set i b).map f).sum < (l.map f).sum := by
  induction l generalizing i with
  | nil => cases hi
  | cons x xs ih =>
    cases i with
    | zero =>
      obtain rfl : x = a := by simpa using hi
      simpa using h
    | succ i =>
      simp only [List.getElem?_cons_succ] at hi
      simpa using ih hi

/-- **Every step but a new call lowers the work left**: a turn of the loop spends its node's five
on at most a goroutine's four, the return spends its one, and a goroutine's step its own. -/
theorem DrainSystem.work_step {s s' : DrainSystem} {a : DrainAction} (ha : a.isSchedule = false)
    (h : s.step a = some s') : s'.work < s.work := by
  cases a with
  | schedule => cases ha
  | scheduleNext =>
    simp only [step] at h
    split at h <;> cases h
    rename_i helper node rest hsched
    have htasks : ((scheduleNode s helper node).tasks.map (·.pc.remaining)).sum ≤
        (s.tasks.map (·.pc.remaining)).sum + 4 := by
      unfold scheduleNode; split <;> simp [TaskPc.remaining]
    simp only [work, hsched, Option.map_some', Option.getD_some, List.length_cons]
    omega
  | scheduleReturn =>
    simp only [step] at h
    split at h <;> cases h
    simp [work, *]
  | cordon i _ | drain i _ | changeNodeUpgradeState i | remove i =>
    simp only [step] at h
    split at h
    · cases h
    · obtain ⟨t', ht, rfl⟩ := Option.map_eq_some'.mp h
      have := sum_map_set_lt (f := fun t : DrainTask => t.pc.remaining) ‹_› (DrainTask.step_remaining ht)
      simp only [work]
      omega

/-- A run that starts no call spends one unit of work per step. -/
theorem DrainSystem.run_work {s s' : DrainSystem} {as : List DrainAction}
    (has : ∀ a ∈ as, a.isSchedule = false) (h : s.run as = some s') : as.length + s'.work ≤ s.work := by
  induction as generalizing s with
  | nil => cases h; simp
  | cons a as ih =>
    obtain ⟨s₁, h₁, h₂⟩ := Option.bind_eq_some.mp h
    have hrest := ih (fun b hb => has b (.tail _ hb)) h₂
    have hstep := work_step (has a (.head _)) h₁
    simp only [List.length_cons]
    omega

theorem DrainSystem.work_le (s : DrainSystem) :
    s.work ≤ 5 * (s.sched.map (·.pending.length)).getD 0 + 1 + 4 * s.tasks.length := by
  have htasks : (s.tasks.map (·.pc.remaining)).sum ≤ 4 * s.tasks.length := by
    have h := List.sum_le_card_nsmul (s.tasks.map (·.pc.remaining)) 4 fun x hx => by
      obtain ⟨t, -, rfl⟩ := List.mem_map.mp hx
      exact t.pc.remaining_le
    rw [List.length_map] at h
    exact le_of_le_of_eq h (Nat.mul_comm _ _)
  unfold work
  rcases s.sched with _ | run <;>
    simp only [Option.map_none', Option.map_some', Option.getD_none, Option.getD_some] <;> omega

/-- **No interleaving goes on for ever.**  From any state, a run that starts no new
`ScheduleNodesDrain` call (the call in progress and the goroutines stepping in any interleaving,
the cluster answering as it likes) takes at most five steps per node the call has left, one for
its return, and four per goroutine: every such run ends. -/
theorem drainSystem_runs_end {s s' : DrainSystem} {as : List DrainAction}
    (has : ∀ a ∈ as, a.isSchedule = false) (h : s.run as = some s') :
    as.length ≤ 5 * (s.sched.map (·.pending.length)).getD 0 + 1 + 4 * s.tasks.length := by
  have hrun := DrainSystem.run_work has h
  have hle := s.work_le
  omega

/-- The call on `worker-0` run to its end, the cluster refusing the drain: six steps, as many as
the bound allows. -/
theorem worker0_run_ends :
    ∃ s s' as, Reachable s ∧ (∀ a ∈ as, a.isSchedule = false) ∧ s.run as = some s' ∧ as.length = 6 ∧
      as.length ≤ 5 * (s.sched.map (·.pending.length)).getD 0 + 1 + 4 * s.tasks.length :=
  have hs : Reachable ⟨∅, [], some ⟨drainHelperOf ⟨true, false, "", 300, false⟩, [⟨"worker-0"⟩]⟩⟩ :=
    .step .init (a := .schedule drainConfig300) rfl
  have hrun : DrainSystem.run ⟨∅, [], some ⟨drainHelperOf ⟨true, false, "", 300, false⟩, [⟨"worker-0"⟩]⟩⟩
      [.scheduleNext, .scheduleReturn, .cordon 0 true, .drain 0 false, .changeNodeUpgradeState 0, .remove 0] =
      some _ := rfl
  ⟨_, _, _, hs, by decide, hrun, rfl, drainSystem_runs_end (by decide) hrun⟩

/-! ### The drains of one node -/

/-- Setting an element to one that relates as it did to those before and after it keeps a list
pairwise related. -/
theorem pairwise_set {α : Type} {R : α → α → Prop} {l : List α} {i : Nat} {a b : α}
    (hl : l.Pairwise R) (hi : l[i]? = some a) (hbefore : ∀ x, R x a → R x b)
    (hafter : ∀ y, R a y → R b y) : (l.set i b).Pairwise R := by
  induction l generalizing i with
  | nil => cases hi
  | cons x xs ih =>
    obtain ⟨hx, hxs⟩ := List.pairwise_cons.mp hl
    cases i with
    | zero =>
      obtain rfl : x = a := by simpa using hi
      exact List.pairwise_cons.mpr ⟨fun y hy => hafter y (hx y hy), hxs⟩
    | succ k =>
      simp only [List.getElem?_cons_succ] at hi
      refine List.pairwise_cons.mpr ⟨fun y hy => ?_, ih hxs hi⟩
      rcases List.mem_or_eq_of_mem_set hy with hy | rfl
      · exact hx y hy
      · exact hbefore x (hx a (List.getElem?_mem hi))

/-- Goroutines of one node name run one after another: of two goroutines of a name, the one
spawned first has run its deferred `Remove`. -/
def DrainOrdered (tasks : List DrainTask) : Prop :=
  tasks.Pairwise fun t u => t.node.name = u.node.name → t.pc = .done

/-- A step keeps the goroutines of each name one after another: the loop spawns one only for a
name with no live goroutine, and a goroutine that has one of its name after it is finished, so
takes no step. -/
theorem drainOrdered_step {s s' : DrainSystem} {a : DrainAction} (hinv : DrainInv s)
    (h : DrainOrdered s.tasks) (hs : s.step a = some s') : DrainOrdered s'.tasks := by
  cases a with
  | schedule drainConfig =>
    simp only [DrainSystem.step] at hs
    split at hs
    · cases hs
    · split at hs <;> cases hs <;> exact h
  | scheduleNext =>
    simp only [DrainSystem.step] at hs
    split at hs <;> cases hs
    rename_i helper node _ _
    show DrainOrdered (scheduleNode s helper node).tasks
    unfold scheduleNode
    split
    · exact h
    · rename_i hn
      refine List.pairwise_append.mpr ⟨h, List.pairwise_singleton _ _, fun t ht u hu hname => ?_⟩
      obtain rfl := List.mem_singleton.mp hu
      by_contra hd
      exact hn ((hinv.draining _).mpr (List.mem_map.mpr ⟨t, List.mem_filter.mpr ⟨ht, by simpa [DrainTask.live] using hd⟩, hname⟩))
  | scheduleReturn =>
    simp only [DrainSystem.step] at hs
    split at hs <;> cases hs
    exact h
  | cordon i _ | drain i _ | changeNodeUpgradeState i | remove i =>
    simp only [DrainSystem.step] at hs
    split at hs
    · cases hs
    · rename_i t hi
      obtain ⟨t', ht, rfl⟩ := Option.map_eq_some'.mp hs
      obtain ⟨hn, -, hl, -, -⟩ := DrainTask.step_spec ht
      refine pairwise_set h hi (fun x hx hname => hx (hname.trans (congrArg _ hn))) fun y hy hname => ?_
      exact absurd (hy (hn ▸ hname)) (by simpa [DrainTask.live] using hl)

theorem drainOrdered_of_reachable {s : DrainSystem} (hs : Reachable s) : DrainOrdered s.tasks := by
  induction hs with
  | init => exact List.Pairwise.nil
  | step hs' hstep ih => exact drainOrdered_step (drainInv_of_reachable hs') ih hstep

/-- **Drains of a node run one after another.**  In every reachable state, of two goroutines
spawned for one node name, the one spawned first has run its deferred `Remove`, after one of the
histories of `finished`.  So it had when the second was spawned, and the calls of the two never
interleave. -/
theorem drains_of_a_node_in_order {s : DrainSystem} (hs : Reachable s) {i j : Nat} {t u : DrainTask}
    (hij : i < j) (hi : s.tasks[i]? = some t) (hj : s.tasks[j]? = some u)
    (hname : t.node.name = u.node.name) : t.pc = .done ∧ t.calls ∈ finished t.node t.helper := by
  obtain ⟨hjlen, rfl⟩ := List.getElem?_eq_some_iff.mp hj
  obtain ⟨hilen, rfl⟩ := List.getElem?_eq_some_iff.mp hi
  have hdone := List.pairwise_iff_getElem.mp (drainOrdered_of_reachable hs) i j hilen hjlen hij hname
  have hwf := (drainInv_of_reachable hs).wf _ (List.getElem_mem hilen)
  exact ⟨hdone, by simpa only [DrainTask.Wf, hdone] using hwf⟩

/-- `worker-0` drained, then scheduled again: the first goroutine has finished. -/
theorem worker0_drained_twice :
    ∃ s, Reachable s ∧ ∃ t u, s.tasks = [t, u] ∧ t.node.name = u.node.name ∧
      t.pc = .done ∧ t.calls ∈ finished t.node t.helper :=
  have hs := Reachable.run .init (show DrainSystem.init.run [.schedule drainConfig300, .scheduleNext,
    .scheduleReturn, .cordon 0 true, .drain 0 true, .changeNodeUpgradeState 0, .remove 0,
    .schedule drainConfig300, .scheduleNext] = some _ from rfl)
  ⟨_, hs, _, _, rfl, rfl, drains_of_a_node_in_order hs (i := 0) (j := 1) (by decide) rfl rfl rfl⟩

end NetworkOperator.Upgrade
