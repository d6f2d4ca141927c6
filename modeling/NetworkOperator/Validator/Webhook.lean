import NetworkOperator.Validator.Policy

/-!
# Validator — the webhook and its shared validator

`SetupNicClusterPolicyWebhookWithManager` registers one `nicClusterPolicyValidator`, and the
webhook server serves admission requests concurrently on it.  `ValidateCreate` and
`ValidateUpdate` store the request's policy in the validator's embedded `NicClusterPolicy`, then
run `validateNicClusterPolicy`, whose parts read the policy the validator holds when they run.
`WebhookState.step` interleaves the calls: a step is a request arriving, or one call taking its
next step (the store, one part of the check from `validationPhases`, or the verdict, which also
reads the name the validator holds).

Here the store `w.NicClusterPolicy = *nicClusterPolicy` is one step, and so is each part.  The
code can be interrupted inside either, so every run of this model is a run of the code, and what
this module shows to exist exists; but the code has runs this model lacks.  The store is an
unsynchronised copy of many words, and two copies that overlap can leave the validator holding
a mix of two policies.  Results over every interleaving of the calls are therefore stated in
`WebhookCopy`, where the copy has a start and an end; the one such result kept here,
`same_policy_served_alone`, is about runs whose stores all write one policy, where overlapping
copies write the same words.

`Handler.interfered` is bookkeeping of the model, not a field of the source: it records that
another call stored a policy while this one was validating.

* `same_policy_served_alone`: in every reachable state where every request asks to admit one
  policy, every call that returned returned what the call returns alone, interfered with or not.
* `validateCreate_judged_on_other_request`: a request whose policy has an invalid OFED version
  is admitted when a second request stores an empty policy between its store and its check.
-/

namespace NetworkOperator.Validator

open NetworkOperator.V1alpha1

/-- The error `ValidateCreate` and `ValidateUpdate` return: the `Invalid` status error, or the
text of another error. -/
inductive AdmissionError where
  | invalid (err : StatusError)
  | other (msg : String)

/-- What a call of `ValidateCreate` or `ValidateUpdate` returns: its error (none to admit the
object), or the panic it ends with. -/
abbrev AdmissionResult := Except Panic (Option AdmissionError)

/-- The zero `nicClusterPolicyValidator` the webhook registers holds the zero `NicClusterPolicy`. -/
def zeroNicClusterPolicy : NicClusterPolicy :=
  ⟨"", ⟨none, none, none, none, none, none, none, [], none⟩⟩

/-- A policy with no component. -/
def noComponentPolicy : NicClusterPolicy :=
  ⟨"nic-cluster-policy", ⟨none, none, none, none, none, none, none, [], none⟩⟩

/-- `ValidateCreate` of `obj` and `ValidateUpdate` with the new object `obj`, on the validator
holding `w`: the policy the validator holds afterwards, and what the call returns.  An `obj` of
another kind than `NicClusterPolicy` is `none`. -/
def validateAdmission (env : ValidatorEnv) (skipValidations : Bool) (w : NicClusterPolicy)
    (obj : Option NicClusterPolicy) : NicClusterPolicy × AdmissionResult :=
  if skipValidations then (w, .ok none)
  else
    match obj with
    | none => (w, .ok (some (.other "failed to unmarshal NicClusterPolicy object to validate")))
    | some nicClusterPolicy =>
      let w := nicClusterPolicy
      (w, (validateNicClusterPolicy env w).map (Option.map .invalid))

/-- `nicClusterPolicyValidator.ValidateCreate`. -/
def validateCreate (env : ValidatorEnv) (skipValidations : Bool) (w : NicClusterPolicy)
    (obj : Option NicClusterPolicy) : NicClusterPolicy × AdmissionResult :=
  validateAdmission env skipValidations w obj

/-- `nicClusterPolicyValidator.ValidateUpdate`: the old object is not read. -/
def validateUpdate (env : ValidatorEnv) (skipValidations : Bool) (w : NicClusterPolicy)
    (_oldObj newObj : Option NicClusterPolicy) : NicClusterPolicy × AdmissionResult :=
  validateAdmission env skipValidations w newObj

/-- An admission request for a `NicClusterPolicy`: a create, or an update. -/
inductive AdmissionRequest where
  | create (obj : Option NicClusterPolicy)
  | update (oldObj newObj : Option NicClusterPolicy)

/-- The object a request asks to admit. -/
def AdmissionRequest.object : AdmissionRequest → Option NicClusterPolicy
  | .create obj => obj
  | .update _ newObj => newObj

/-- Serving a request alone on the validator holding `w`. -/
def AdmissionRequest.handle (env : ValidatorEnv) (skipValidations : Bool) (w : NicClusterPolicy) :
    AdmissionRequest → NicClusterPolicy × AdmissionResult
  | .create obj => validateCreate env skipValidations w obj
  | .update oldObj newObj => validateUpdate env skipValidations w oldObj newObj

/-- Both calls are `validateAdmission` of the object they ask to admit. -/
theorem AdmissionRequest.handle_eq (env : ValidatorEnv) (skipValidations : Bool) (w : NicClusterPolicy)
    (req : AdmissionRequest) : req.handle env skipValidations w = validateAdmission env skipValidations w req.object := by
  cases req <;> rfl

/-! ### Calls served concurrently -/

/-- Where a call is: not yet past its store; validating, with the parts it has run and the
errors they found; or returned. -/
inductive HandlerPc where
  | start
  | validating (phase : Nat) (allErrs : List FieldError)
  | done (result : AdmissionResult)

/-- A call in progress, with its request. -/
structure Handler where
  req : AdmissionRequest
  pc : HandlerPc
  interfered : Bool

/-- The next step of a call of `req` at `pc` on the validator holding `held`: the policy it
stores, if it stores one, and where it goes; none once it has returned. -/
def handlerStep (env : ValidatorEnv) (skipValidations : Bool) (held : NicClusterPolicy)
    (req : AdmissionRequest) : HandlerPc → Option (Option NicClusterPolicy × HandlerPc)
  | .start =>
    if skipValidations then some (none, .done (.ok none))
    else
      match req.object with
      | none => some (none, .done (.ok (some (.other "failed to unmarshal NicClusterPolicy object to validate"))))
      | some nicClusterPolicy => some (some nicClusterPolicy, .validating 0 [])
  | .validating phase allErrs =>
    match (validationPhases env)[phase]? with
    | some part =>
      match part held allErrs with
      | .error p => some (none, .done (.error p))
      | .ok allErrs => some (none, .validating (phase + 1) allErrs)
    | none => some (none, .done (.ok ((verdict held allErrs).map .invalid)))
  | .done _ => none

/-- The webhook: the policy the validator holds, and the calls served so far. -/
structure WebhookState where
  held : NicClusterPolicy
  handlers : List Handler

/-- The webhook as registered, before any request. -/
def WebhookState.init : WebhookState := ⟨zeroNicClusterPolicy, []⟩

/-- A step of the webhook: a request arrives, or call `i` takes its next step. -/
inductive WebhookAction where
  | serve (req : AdmissionRequest)
  | step (i : Nat)

/-- A store by one call marks every other call that is validating as interfered with. -/
def Handler.interfere (h : Handler) : Handler :=
  match h.pc with
  | .validating _ _ => { h with interfered := true }
  | _ => h

/-- One step of the webhook; none when call `i` does not exist or has returned. -/
def WebhookState.step (env : ValidatorEnv) (skipValidations : Bool) (s : WebhookState) :
    WebhookAction → Option WebhookState
  | .serve req => some ⟨s.held, s.handlers ++ [⟨req, .start, false⟩]⟩
  | .step i =>
    match s.handlers[i]? with
    | none => none
    | some h =>
      match handlerStep env skipValidations s.held h.req h.pc with
      | none => none
      | some (none, pc) => some ⟨s.held, s.handlers.set i { h with pc }⟩
      | some (some w, pc) => some ⟨w, (s.handlers.map Handler.interfere).set i ⟨h.req, pc, false⟩⟩

/-- The states the webhook reaches from `init`, in any interleaving. -/
inductive Reachable (env : ValidatorEnv) (skipValidations : Bool) : WebhookState → Prop
  | init : Reachable env skipValidations .init
  | step {s s' : WebhookState} {a : WebhookAction} :
      Reachable env skipValidations s → s.step env skipValidations a = some s' →
        Reachable env skipValidations s'

/-- The steps `as`, taken in turn. -/
def WebhookState.run (env : ValidatorEnv) (skipValidations : Bool) (s : WebhookState) :
    List WebhookAction → Option WebhookState
  | [] => some s
  | a :: as => (s.step env skipValidations a).bind fun s' => s'.run env skipValidations as

theorem WebhookState.run_append (env : ValidatorEnv) (skipValidations : Bool) (s : WebhookState)
    (as bs : List WebhookAction) :
    s.run env skipValidations (as ++ bs) =
      (s.run env skipValidations as).bind fun s' => s'.run env skipValidations bs := by
  induction as generalizing s with
  | nil => rfl
  | cons a as ih => simp [WebhookState.run, ih, Option.bind_assoc]

theorem reachable_run {env : ValidatorEnv} {skipValidations : Bool} {s s' : WebhookState}
    {as : List WebhookAction} (hs : Reachable env skipValidations s)
    (hrun : s.run env skipValidations as = some s') : Reachable env skipValidations s' := by
  induction as generalizing s with
  | nil => cases hrun; exact hs
  | cons a as ih =>
    simp only [WebhookState.run, Option.bind_eq_some] at hrun
    obtain ⟨s₁, h₁, h₂⟩ := hrun
    exact ih (.step hs h₁) h₂

/-- What a step of the webhook can do: a request arrives; a call takes a step that stores
nothing; or a call stores its policy, and every other call that is validating is interfered with. -/
theorem WebhookState.step_cases {env : ValidatorEnv} {skipValidations : Bool} {s s' : WebhookState}
    {a : WebhookAction} (hs : s.step env skipValidations a = some s') :
    (∃ req, s' = ⟨s.held, s.handlers ++ [⟨req, .start, false⟩]⟩) ∨
    (∃ i h pc, s.handlers[i]? = some h ∧ handlerStep env skipValidations s.held h.req h.pc = some (none, pc) ∧
      s' = ⟨s.held, s.handlers.set i { h with pc }⟩) ∨
    (∃ i h w pc, s.handlers[i]? = some h ∧
      handlerStep env skipValidations s.held h.req h.pc = some (some w, pc) ∧
      s' = ⟨w, (s.handlers.map Handler.interfere).set i ⟨h.req, pc, false⟩⟩) := by
  cases a with
  | serve req => exact .inl ⟨req, (Option.some.inj hs).symm⟩
  | step i =>
    simp only [WebhookState.step] at hs
    split at hs
    · cases hs
    · rename_i h hget
      split at hs
      · cases hs
      · exact .inr (.inl ⟨i, h, _, hget, ‹_›, (Option.some.inj hs).symm⟩)
      · exact .inr (.inr ⟨i, h, _, _, hget, ‹_›, (Option.some.inj hs).symm⟩)

/-! ### Serving a request alone -/

/-- Running one part more. -/
theorem runPhases_take_succ {env : ValidatorEnv} {phase : Nat}
    {part : NicClusterPolicy → List FieldError → Except Panic (List FieldError)}
    (hp : (validationPhases env)[phase]? = some part) (w : NicClusterPolicy) (allErrs : List FieldError) :
    runPhases ((validationPhases env).take (phase + 1)) w allErrs =
      runPhases ((validationPhases env).take phase) w allErrs >>= part w := by
  have : runPhases [part] w = part w := funext fun _ => by simp [runPhases]
  rw [List.take_succ, hp, Option.toList_some, runPhases_append, this]

/-- What serving a request alone returns, from the policy the validator holds: the same from
every policy. -/
theorem handle_result (env : ValidatorEnv) (skipValidations : Bool) (w : NicClusterPolicy)
    (req : AdmissionRequest) :
    (req.handle env skipValidations w).2 =
      if skipValidations then .ok none
      else match req.object with
        | none => .ok (some (.other "failed to unmarshal NicClusterPolicy object to validate"))
        | some p => ((runPhases (validationPhases env) p []).map (verdict p)).map (Option.map .invalid) := by
  simp only [AdmissionRequest.handle_eq, validateAdmission, validateNicClusterPolicy_eq_runPhases]
  split <;> [rfl; split <;> rfl]

/-! ### Calls on track -/

/-- A call is where serving its request alone would have it, the validator holding `held`: a
validating call holds its own policy there and has found the errors of the parts it ran, and a
call that returned returned what the call returns alone. -/
def Handler.OnTrack (env : ValidatorEnv) (skipValidations : Bool) (held : NicClusterPolicy)
    (h : Handler) : Prop :=
  match h.pc with
  | .start => True
  | .validating phase allErrs =>
    skipValidations = false ∧ h.req.object = some held ∧
      runPhases ((validationPhases env).take phase) held [] = .ok allErrs
  | .done result => ∀ w, result = (h.req.handle env skipValidations w).2

/-- A step that stores nothing keeps a call on track. -/
theorem handlerStep_onTrack {env : ValidatorEnv} {skipValidations : Bool} {held : NicClusterPolicy}
    {h : Handler} {pc : HandlerPc} (ht : h.OnTrack env skipValidations held)
    (hs : handlerStep env skipValidations held h.req h.pc = some (none, pc)) :
    ({ h with pc } : Handler).OnTrack env skipValidations held := by
  obtain ⟨req, pc₀, interfered⟩ := h
  cases pc₀ with
  | start =>
    simp only [handlerStep] at hs
    split at hs
    · cases hs; intro w; simp [handle_result, *]
    · split at hs
      · cases hs; intro w; simp [handle_result, *]
      · cases hs
  | validating phase allErrs =>
    obtain ⟨hskip, hobj, hrun⟩ := ht
    simp only [handlerStep] at hs
    split at hs
    · rename_i part hp
      have hrun' := runPhases_take_succ hp held []
      rw [hrun] at hrun'
      split at hs <;> cases hs
      · rename_i p hpart
        intro w
        have : runPhases (validationPhases env) held [] = .error p := by
          rw [← List.take_append_drop (phase + 1) (validationPhases env), runPhases_append, hrun']
          simp [hpart, bind, Except.bind]
        simp [handle_result, hskip, hobj, this, Except.map]
      · rename_i allErrs' hpart
        exact ⟨hskip, hobj, by rw [hrun']; simpa using hpart⟩
    · rename_i hp
      cases hs
      intro w
      rw [List.take_of_length_le (List.getElem?_eq_none_iff.mp hp)] at hrun
      simp [handle_result, hskip, hobj, hrun, Except.map]
  | done result => simp [handlerStep] at hs

/-- A step that stores a policy is a call's store of its own policy. -/
theorem handlerStep_store {env : ValidatorEnv} {skipValidations : Bool} {held w : NicClusterPolicy}
    {h : Handler} {pc : HandlerPc}
    (hs : handlerStep env skipValidations held h.req h.pc = some (some w, pc)) :
    skipValidations = false ∧ h.req.object = some w ∧ pc = .validating 0 [] := by
  obtain ⟨req, pc₀, interfered⟩ := h
  cases pc₀ with
  | start =>
    simp only [handlerStep] at hs
    split at hs
    · cases hs
    · split at hs
      · cases hs
      · cases hs; simp_all
  | validating phase allErrs =>
    simp only [handlerStep] at hs
    split at hs
    · split at hs <;> cases hs
    · cases hs
  | done result => simp [handlerStep] at hs

/-! ### A call running on its own -/

/-- A call of `req` stepping `n` times on its own from `pc`, the validator holding `held`, as
long as it stores nothing. -/
def runAlone (env : ValidatorEnv) (skipValidations : Bool) (held : NicClusterPolicy)
    (req : AdmissionRequest) : Nat → HandlerPc → Option HandlerPc
  | 0, pc => some pc
  | n + 1, pc =>
    match handlerStep env skipValidations held req pc with
    | some (none, pc') => runAlone env skipValidations held req n pc'
    | _ => none

/-- A call validating from part `phase` runs the remaining parts on the policy the validator
holds, and returns the verdict on that policy. -/
theorem runAlone_validating (env : ValidatorEnv) (skipValidations : Bool) (held : NicClusterPolicy)
    (req : AdmissionRequest) (phase : Nat) (allErrs : List FieldError) :
    ∃ n, runAlone env skipValidations held req n (.validating phase allErrs) =
      some (.done (((runPhases ((validationPhases env).drop phase) held allErrs).map
        (verdict held)).map (Option.map .invalid))) := by
  obtain ⟨k, hk⟩ : ∃ k, (validationPhases env).length - phase = k := ⟨_, rfl⟩
  induction k generalizing phase allErrs with
  | zero =>
    have hle : (validationPhases env).length ≤ phase := by omega
    exact ⟨1, by simp [runAlone, handlerStep, List.getElem?_eq_none hle, List.drop_eq_nil_of_le hle,
      runPhases, Except.map, pure, Except.pure]⟩
  | succ k ih =>
    have hlt : phase < (validationPhases env).length := by omega
    rw [List.drop_eq_getElem_cons hlt, runPhases_cons]
    cases hpart : (validationPhases env)[phase] held allErrs with
    | error p =>
      exact ⟨1, by simp [runAlone, handlerStep, List.getElem?_eq_getElem hlt, hpart, bind, Except.bind,
        Except.map]⟩
    | ok e =>
      obtain ⟨n, hn⟩ := ih (phase + 1) e (by omega)
      exact ⟨n + 1, by simpa [runAlone, handlerStep, List.getElem?_eq_getElem hlt, hpart, bind,
        Except.bind] using hn⟩

/-- A call stepping on its own moves only itself. -/
theorem WebhookState.run_alone {env : ValidatorEnv} {skipValidations : Bool} {w : NicClusterPolicy}
    {i n : Nat} {hs : List Handler} {h : Handler} {pc : HandlerPc} (hget : hs[i]? = some h)
    (hrun : runAlone env skipValidations w h.req n h.pc = some pc) :
    (WebhookState.mk w hs).run env skipValidations (List.replicate n (.step i)) =
      some ⟨w, hs.set i { h with pc }⟩ := by
  induction n generalizing hs h with
  | zero =>
    obtain rfl : h.pc = pc := Option.some.inj hrun
    simp [WebhookState.run, set_eq_self_of_getElem? hget]
  | succ n ih =>
    simp only [runAlone] at hrun
    split at hrun
    · rename_i pc' hstep
      have hi : i < hs.length := (List.getElem?_eq_some_iff.mp hget).1
      have := ih (h := { h with pc := pc' })
        (List.getElem?_set_self hi) hrun
      simpa [List.replicate_succ, WebhookState.run, WebhookState.step, hget, hstep, List.set_set]
        using this
    · cases hrun

/-- A call validating from part `phase`, while no other call moves, runs the remaining parts on
the policy the validator holds, and returns the verdict on that policy. -/
theorem run_validating (env : ValidatorEnv) (skipValidations : Bool) (w : NicClusterPolicy)
    (i : Nat) (phase : Nat) (allErrs : List FieldError) (hs : List Handler) (h : Handler)
    (hget : hs[i]? = some h) (hpc : h.pc = .validating phase allErrs) :
    ∃ n, (WebhookState.mk w hs).run env skipValidations (List.replicate n (.step i)) =
      some ⟨w, hs.set i { h with pc := .done (((runPhases ((validationPhases env).drop phase) w
        allErrs).map (verdict w)).map (Option.map .invalid)) }⟩ := by
  obtain ⟨n, hn⟩ := runAlone_validating env skipValidations w h.req phase allErrs
  exact ⟨n, WebhookState.run_alone hget (hpc ▸ hn)⟩

/-! ### Requests for one policy -/

@[simp] theorem Handler.interfere_req (h : Handler) : h.interfere.req = h.req := by
  unfold Handler.interfere; split <;> rfl

/-- Replacing a call by one with the same request keeps the requests. -/
theorem map_req_set {l : List Handler} {i : Nat} {h : Handler} (h' : Handler) (hget : l[i]? = some h)
    (hreq : h'.req = h.req) : (l.set i h').map (·.req) = l.map (·.req) := by
  rw [List.map_set, hreq]
  exact set_eq_self_of_getElem? (by simp [hget])

/-- A step keeps the request of every call served so far, and a request arriving adds its own. -/
theorem WebhookState.step_reqs {env : ValidatorEnv} {skipValidations : Bool} {s s' : WebhookState}
    {a : WebhookAction} (hs : s.step env skipValidations a = some s') :
    s.handlers.map (·.req) <+: s'.handlers.map (·.req) := by
  rcases WebhookState.step_cases hs with ⟨req, rfl⟩ | ⟨i, h, pc, hget, -, rfl⟩ | ⟨i, h, w, pc, hget, -, rfl⟩
  · simp
  · simp only [map_req_set { h with pc } hget rfl, List.prefix_refl]
  · have hget' : (s.handlers.map Handler.interfere)[i]? = some h.interfere := by simp [hget]
    simp only [map_req_set ⟨h.req, pc, false⟩ hget' (Handler.interfere_req h).symm, List.map_map,
      Function.comp_def, Handler.interfere_req, List.prefix_refl]

/-- Every request asks to admit `p`, or an object that is not a `NicClusterPolicy`. -/
def ForPolicy (p : NicClusterPolicy) (reqs : List AdmissionRequest) : Prop :=
  ∀ req ∈ reqs, req.object = none ∨ req.object = some p

/-- A store of `p` keeps on track every call for `p` that was: the policy held is `p` whenever a
call is validating. -/
theorem interfere_onTrack_of_forPolicy {env : ValidatorEnv} {skipValidations : Bool}
    {held p : NicClusterPolicy} {h : Handler} (ht : h.OnTrack env skipValidations held)
    (hobj : h.req.object = none ∨ h.req.object = some p) : h.interfere.OnTrack env skipValidations p := by
  obtain ⟨req, pc, interfered⟩ := h
  cases pc with
  | start => trivial
  | validating phase allErrs =>
    obtain ⟨hskip, hheld, hrun⟩ := ht
    obtain rfl : held = p := by simpa [hheld] using hobj
    exact ⟨hskip, hheld, hrun⟩
  | done result => exact ht

/-- While every request is for `p`, every step keeps every call on track, interfered with or
not. -/
theorem allOnTrack_step {env : ValidatorEnv} {skipValidations : Bool} {s s' : WebhookState}
    {a : WebhookAction} {p : NicClusterPolicy} (hall : ∀ h ∈ s.handlers, h.OnTrack env skipValidations s.held)
    (hfor : ForPolicy p (s'.handlers.map (·.req))) (hs : s.step env skipValidations a = some s') :
    ∀ h ∈ s'.handlers, h.OnTrack env skipValidations s'.held := by
  have hfor' : ∀ h ∈ s.handlers, h.req.object = none ∨ h.req.object = some p := fun h hh =>
    hfor h.req ((WebhookState.step_reqs hs).subset (List.mem_map_of_mem _ hh))
  rcases WebhookState.step_cases hs with ⟨req, rfl⟩ | ⟨i, h, pc, hget, hstep, rfl⟩ |
    ⟨i, h, w, pc, hget, hstep, rfl⟩
  · intro h hh
    rcases List.mem_append.mp hh with hh | hh
    · exact hall h hh
    · obtain rfl := List.mem_singleton.mp hh; trivial
  · intro h' hh
    rcases List.mem_or_eq_of_mem_set hh with hh | rfl
    · exact hall h' hh
    · exact handlerStep_onTrack (hall h (List.getElem?_mem hget)) hstep
  · obtain ⟨hskip, hobj, rfl⟩ := handlerStep_store hstep
    obtain rfl : w = p := by simpa [hobj] using hfor' h (List.getElem?_mem hget)
    intro h' hh
    rcases List.mem_or_eq_of_mem_set hh with hh | rfl
    · obtain ⟨h'', hh'', rfl⟩ := List.mem_map.mp hh
      exact interfere_onTrack_of_forPolicy (hall h'' hh'') (hfor' h'' hh'')
    · exact ⟨hskip, hobj, rfl⟩

/-- **Requests for one policy are served as if alone.**  In every reachable state where every
request served asks to admit the same policy `p` (or an object that is not a `NicClusterPolicy`),
every call that returned returned what its request returns when served alone, however the stores
of the calls interleaved. -/
theorem same_policy_served_alone {env : ValidatorEnv} {skipValidations : Bool} {s : WebhookState}
    (hs : Reachable env skipValidations s) (p : NicClusterPolicy)
    (hsame : ∀ h ∈ s.handlers, h.req.object = none ∨ h.req.object = some p) :
    ∀ h ∈ s.handlers, ∀ result, h.pc = .done result → ∀ w, result = (h.req.handle env skipValidations w).2 := by
  have hall : ∀ h ∈ s.handlers, h.OnTrack env skipValidations s.held := by
    have hfor : ForPolicy p (s.handlers.map (·.req)) := by
      simpa [ForPolicy] using hsame
    clear hsame
    induction hs with
    | init => simp [WebhookState.init]
    | step _ hstep ih =>
      exact allOnTrack_step (ih fun req hr => hfor req ((WebhookState.step_reqs hstep).subset hr)) hfor hstep
  intro h hh result hpc
  simpa only [Handler.OnTrack, hpc] using hall h hh

/-- Two creates of `noComponentPolicy`, the second storing it while the first validates: the first
is interfered with, returns, and returns what it returns alone. -/
theorem twice_noComponentPolicy_served_alone :
    ∃ s, Reachable acceptingEnv false s ∧ (∃ h ∈ s.handlers, h.interfered = true ∧ ∃ result, h.pc = .done result) ∧
      (∀ h ∈ s.handlers, h.req.object = none ∨ h.req.object = some noComponentPolicy) ∧
      ∀ h ∈ s.handlers, ∀ result, h.pc = .done result →
        ∀ w, result = (h.req.handle acceptingEnv false w).2 := by
  have hstores : WebhookState.init.run acceptingEnv false
      [.serve (.create (some noComponentPolicy)), .serve (.create (some noComponentPolicy)), .step 0, .step 1] =
      some ⟨noComponentPolicy, [⟨.create (some noComponentPolicy), .validating 0 [], true⟩,
        ⟨.create (some noComponentPolicy), .validating 0 [], false⟩]⟩ := rfl
  obtain ⟨m, hm⟩ := run_validating acceptingEnv false noComponentPolicy 0 0 []
    [⟨.create (some noComponentPolicy), .validating 0 [], true⟩,
      ⟨.create (some noComponentPolicy), .validating 0 [], false⟩] _ rfl rfl
  have hs := reachable_run (reachable_run .init hstores) hm
  refine ⟨_, hs, ⟨_, List.mem_cons_self _ _, rfl, _, rfl⟩, ?_⟩
  refine ⟨?_, same_policy_served_alone hs noComponentPolicy ?_⟩ <;> simp [AdmissionRequest.object]

/-! ### Two overlapping requests -/

/-- **Overlapping stores**: when call `i`, for a policy, stores it, and call `j` then stores its
own policy before call `i` checks, call `i` returns what the request of call `j` returns when
served alone. -/
theorem overlapping_stores (env : ValidatorEnv) (s : WebhookState) (i j : Nat) (hij : i ≠ j)
    (A B : AdmissionRequest) (fa fb : Bool) (p q : NicClusterPolicy)
    (hA : s.handlers[i]? = some ⟨A, .start, fa⟩) (hB : s.handlers[j]? = some ⟨B, .start, fb⟩)
    (hp : A.object = some p) (hq : B.object = some q) :
    ∃ as s', s.run env false as = some s' ∧ ∃ h ∈ s'.handlers, h.req = A ∧
      h.pc = .done (B.handle env false s.held).2 := by
  set L := (((s.handlers.map Handler.interfere).set i ⟨A, .validating 0 [], false⟩).map
    Handler.interfere).set j ⟨B, .validating 0 [], false⟩ with hL
  have hLi : L[i]? = some ⟨A, .validating 0 [], true⟩ := by
    simp [hL, List.getElem?_set_ne hij.symm, List.getElem?_set_self', hA, Handler.interfere]
  have hstores : s.run env false [.step i, .step j] = some ⟨q, L⟩ := by
    simp [WebhookState.run, WebhookState.step, hA, hB, hL, handlerStep, hp, hq,
      List.getElem?_set_ne hij, Handler.interfere]
  obtain ⟨m, hm⟩ := run_validating env false q i 0 [] L _ hLi rfl
  have hrun := (WebhookState.run_append env false s _ (List.replicate m (.step i))).trans
    (by rw [hstores, Option.some_bind, hm])
  exact ⟨_, _, hrun, _, List.getElem?_mem (List.getElem?_set_self (List.getElem?_eq_some_iff.mp hLi).1),
    rfl, by simp [handle_result, hq]⟩

/-- A policy whose OFED driver has the version `latest`, which `isValidOFEDVersion` rejects. -/
def ofedLatest : NicClusterPolicy :=
  ⟨"nic-cluster-policy", ⟨some ⟨⟨"doca-driver", "nvcr.io/nvidia/mellanox", "latest", none⟩, none⟩,
    none, none, none, none, none, none, [], none⟩⟩

/-- Served alone, `ofedLatest` is rejected with an `Invalid` error, whatever the oracles. -/
theorem validateNicClusterPolicy_ofedLatest (env : ValidatorEnv) :
    ∃ err, validateNicClusterPolicy env ofedLatest = .ok (some err) := by
  have hcr : validateContainerResources env.componentOrder env.resourceOrder env.manifestBaseDir
      env.parseContainerNames ofedLatest (validateRepositories env.parseNormalizedNamed ofedLatest []) =
      validateRepositories env.parseNormalizedNamed ofedLatest [] :=
    validateContainerResources_eq_self _ _ _ _ _ _ (by
      simp [containerResourceErrors, topLevelStates, componentResourceErrors, ofedLatest])
  have hversion : isValidOFEDVersion "latest" = false := by decide
  simp [validateNicClusterPolicy, hcr, ofedLatest, validateVersion, validateSafeLoad, hversion,
    verdict, bind, Except.bind, pure, Except.pure]

/-- A policy with no component adds no error about container resources. -/
theorem validateContainerResources_without_components (env : ValidatorEnv) (name : String)
    (tolerations : List Toleration) (nodeAffinity : Option String) (allErrs : List FieldError) :
    validateContainerResources env.componentOrder env.resourceOrder env.manifestBaseDir
      env.parseContainerNames
      ⟨name, ⟨none, none, none, none, none, none, none, tolerations, nodeAffinity⟩⟩ allErrs = allErrs :=
  validateContainerResources_eq_self _ _ _ _ _ _ (by
    simp [containerResourceErrors, topLevelStates, componentResourceErrors])

/-- **Judged on another request's policy**: a create of `ofedLatest` stores it, a create of
`noComponentPolicy` stores that before the first call checks, and the first call then admits
`ofedLatest`, which, served alone, it rejects. -/
theorem validateCreate_judged_on_other_request (env : ValidatorEnv) :
    ∃ s, Reachable env false s ∧ ∃ h ∈ s.handlers, h.req = .create (some ofedLatest) ∧
      h.pc = .done (.ok none) ∧ ∀ w, ∃ err, (h.req.handle env false w).2 = .ok (some (.invalid err)) := by
  have hserve : WebhookState.init.run env false
      [.serve (.create (some ofedLatest)), .serve (.create (some noComponentPolicy))] =
      some ⟨zeroNicClusterPolicy, [⟨.create (some ofedLatest), .start, false⟩,
        ⟨.create (some noComponentPolicy), .start, false⟩]⟩ := rfl
  obtain ⟨_, s, hrun, h, hh, hreq, hpc⟩ := overlapping_stores env
    ⟨zeroNicClusterPolicy, [⟨.create (some ofedLatest), .start, false⟩,
      ⟨.create (some noComponentPolicy), .start, false⟩]⟩ 0 1 (by decide)
    (.create (some ofedLatest)) (.create (some noComponentPolicy)) false false ofedLatest
    noComponentPolicy rfl rfl rfl rfl
  obtain ⟨err, herr⟩ := validateNicClusterPolicy_ofedLatest env
  refine ⟨s, reachable_run (reachable_run .init hserve) hrun, h, hh, hreq, ?_, fun w => ⟨err, ?_⟩⟩
  · simp [hpc, AdmissionRequest.handle, validateCreate, validateAdmission, validateNicClusterPolicy,
      noComponentPolicy, validateContainerResources_without_components, validateRepositories,
      validateRepositoryIfPresent, verdict, bind, Except.bind, pure, Except.pure, Except.map]
  · simp [hreq, AdmissionRequest.handle, validateCreate, validateAdmission, herr, Except.map]

end NetworkOperator.Validator
