import NetworkOperator.Validator.Webhook

/-!
# Validator — the webhook over whole runs

`Webhook` says what holds in each reachable state of the webhook.  This module says what the
schedules in which no two calls overlap do.

* `serial_calls_serve_in_order`: when no two calls overlap, each call running to its return
  before the next request arrives, the webhook refines the validator serving the requests one at
  a time (`serveInOrder`): for every list of requests such a schedule runs to its end, where the
  validator holds what serving them one at a time leaves, and each call returned what serving
  them one at a time returns.

A serial schedule is built one call at a time (`run_serve_alone`): on an idle webhook, where no
call is validating, a store interferes with no other call.
-/

namespace NetworkOperator.Validator

open NetworkOperator.V1alpha1

/-! ### Calls one after another -/

/-- The validator serving the requests one at a time, each call returning before the next
request arrives: the policy it holds at the end, and what each call returns. -/
def serveInOrder (env : ValidatorEnv) (skipValidations : Bool) :
    NicClusterPolicy → List AdmissionRequest → NicClusterPolicy × List AdmissionResult
  | w, [] => (w, [])
  | w, req :: reqs =>
    let (w₁, result) := req.handle env skipValidations w
    let (w₂, results) := serveInOrder env skipValidations w₁ reqs
    (w₂, result :: results)

/-- The steps of serving the requests one after another from `k` calls on: each request
arrives, and its call, the `k`-th, takes `n` steps of its own before the next one arrives. -/
def serialActions : Nat → List (AdmissionRequest × Nat) → List WebhookAction
  | _, [] => []
  | k, (req, n) :: rest => .serve req :: List.replicate n (.step k) ++ serialActions (k + 1) rest

/-- What serving a request alone leaves the validator holding. -/
theorem handle_held (env : ValidatorEnv) (skipValidations : Bool) (w : NicClusterPolicy)
    (req : AdmissionRequest) :
    (req.handle env skipValidations w).1 =
      if skipValidations then w else match req.object with
        | none => w
        | some p => p := by
  simp only [AdmissionRequest.handle_eq, validateAdmission]
  split <;> [rfl; cases req.object <;> rfl]

/-- No call of an idle webhook is validating, so a store interferes with none of them. -/
def Idle (hs : List Handler) : Prop := ∀ h ∈ hs, ∃ result, h.pc = .done result

theorem Idle.map_interfere {hs : List Handler} (hidle : Idle hs) : hs.map Handler.interfere = hs := by
  refine (List.map_congr_left fun h hh => ?_).trans (List.map_id _)
  obtain ⟨result, hpc⟩ := hidle h hh
  simp [Handler.interfere, hpc]

/-- A call that returned keeps the webhook idle. -/
theorem Idle.append_done {hs : List Handler} (hidle : Idle hs) (req : AdmissionRequest)
    (result : AdmissionResult) : Idle (hs ++ [⟨req, .done result, false⟩]) := by
  intro h hh
  rcases List.mem_append.mp hh with hh | hh
  · exact hidle h hh
  · exact ⟨result, by rw [List.mem_singleton.mp hh]⟩

/-- **One call alone**: on an idle webhook a request arrives and its call runs to its return
before anything else moves; the validator then holds what serving the request alone leaves,
and the call returned what serving it alone returns. -/
theorem run_serve_alone (env : ValidatorEnv) (skipValidations : Bool) (s : WebhookState)
    (hidle : Idle s.handlers) (req : AdmissionRequest) :
    ∃ n, s.run env skipValidations (.serve req :: List.replicate n (.step s.handlers.length)) =
      some ⟨(req.handle env skipValidations s.held).1,
        s.handlers ++ [⟨req, .done (req.handle env skipValidations s.held).2, false⟩]⟩ := by
  have hget : (s.handlers ++ [⟨req, .start, false⟩])[s.handlers.length]? = some ⟨req, .start, false⟩ :=
    List.getElem?_concat_length _ _
  cases skipValidations
  · cases hobj : req.object with
    | none =>
      refine ⟨1, ?_⟩
      simp [WebhookState.run, WebhookState.step, hget, handlerStep, hobj, handle_held, handle_result]
    | some p =>
      obtain ⟨m, hm⟩ := run_validating env false p s.handlers.length 0 []
        (s.handlers ++ [⟨req, .validating 0 [], false⟩]) _ (List.getElem?_concat_length _ _) rfl
      refine ⟨m + 1, ?_⟩
      simp only [List.replicate_succ, WebhookState.run, WebhookState.step, hget, handlerStep, hobj,
        Bool.false_eq_true, if_false, Option.some_bind, List.map_append, hidle.map_interfere]
      simpa [handle_held, handle_result, hobj] using hm
  · refine ⟨1, ?_⟩
    simp [WebhookState.run, WebhookState.step, hget, handlerStep, handle_held, handle_result]

/-- Serving the requests one after another from an idle webhook: the run of `serialActions`,
each call taking the steps it needs. -/
theorem run_serialActions (env : ValidatorEnv) (skipValidations : Bool) (reqs : List AdmissionRequest) :
    ∀ s : WebhookState, Idle s.handlers →
      ∃ ns : List Nat, ns.length = reqs.length ∧
        s.run env skipValidations (serialActions s.handlers.length (reqs.zip ns)) =
          some ⟨(serveInOrder env skipValidations s.held reqs).1,
            s.handlers ++ List.zipWith (fun req result => ⟨req, .done result, false⟩) reqs
              (serveInOrder env skipValidations s.held reqs).2⟩ := by
  induction reqs with
  | nil => exact fun s _ => ⟨[], rfl, by simp [serialActions, WebhookState.run, serveInOrder]⟩
  | cons req reqs ih =>
    intro s hidle
    obtain ⟨n, hn⟩ := run_serve_alone env skipValidations s hidle req
    obtain ⟨ns, hlen, hns⟩ := ih ⟨(req.handle env skipValidations s.held).1, _⟩
      (hidle.append_done req (req.handle env skipValidations s.held).2)
    refine ⟨n :: ns, by simp [hlen], ?_⟩
    rw [List.zip_cons_cons, serialActions, WebhookState.run_append, hn, Option.some_bind]
    simpa [serveInOrder] using hns

/-- **Calls that do not overlap are served as if alone.**  From the webhook as registered, for
every list of requests, the schedule that serves them one after another, each call running to its
return before the next request arrives, can be run to its end; the validator then holds what
serving them one at a time leaves (`serveInOrder`), and each call returned what serving them
one at a time returns. -/
theorem serial_calls_serve_in_order (env : ValidatorEnv) (skipValidations : Bool)
    (reqs : List AdmissionRequest) :
    ∃ ns : List Nat, ns.length = reqs.length ∧
      WebhookState.init.run env skipValidations (serialActions 0 (reqs.zip ns)) =
        some ⟨(serveInOrder env skipValidations zeroNicClusterPolicy reqs).1,
          List.zipWith (fun req result => ⟨req, .done result, false⟩) reqs
            (serveInOrder env skipValidations zeroNicClusterPolicy reqs).2⟩ := by
  simpa [WebhookState.init] using
    run_serialActions env skipValidations reqs WebhookState.init (by simp [Idle, WebhookState.init])

end NetworkOperator.Validator
