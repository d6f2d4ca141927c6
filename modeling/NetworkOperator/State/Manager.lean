import NetworkOperator.Support.GoMap

/-!
# State — the state manager

`stateManager` of `pkg/state/manager.go` runs an ordered list of States.  A State's `Sync`
talks to the cluster, so here it is a function of the world: given the custom resource, the
info catalog and the world before, it returns a status, an error and the world after.  The
world is a type parameter, so every result holds whatever the States do to it.

* `syncState_runs_every_state`: `SyncState` calls each State's `Sync` once, in the configured
  order, with the caller's custom resource and catalog, whatever the earlier ones returned; it
  reports one `Result` per State, in order, holding the State's name and what its `Sync`
  returned; the aggregate is `ready` exactly when no State reported `notReady` or `error`, and
  `notReady` otherwise.  The loop with its accumulator (`syncStep`) is related to the plain
  recursion `runStates` by `foldl_syncStep`, and the calls are counted on `stateManager.recorded`,
  where each `Sync` also writes its call to a log.
* `getWatchSources_perm_firstDeclared`: `GetWatchSources` lists, as a multiset, one descriptor
  per declared kind name, the one of the earliest State declaring it, in every order Go's
  `range` may visit the maps.
-/

namespace NetworkOperator.States

/-- `SyncState`.  In Go a string type, whose constants the code names are `SyncStateReady`,
`SyncStateNotReady` and `SyncStateError`; a State may return any other string of the type. -/
inductive SyncState where
  | ready
  | notReady
  | error
  | other (s : String)
  deriving DecidableEq, Repr

/-- `Result`: the outcome of one `State.Sync()` invocation. -/
structure Result where
  stateName : String
  status : SyncState
  errInfo : Option String
  deriving DecidableEq, Repr

/-- `Results`: the outcomes of every State, and the global status. -/
structure Results where
  status : SyncState
  statesStatus : List Result
  deriving DecidableEq, Repr

/-- A `State`, over the world `W`, custom resources `CR`, info catalogs `Cat` and watch-source
descriptors `K`: its `Name()`, `Description()`, `Sync` and `GetWatchSources()`. -/
structure State (W CR Cat K : Type) where
  name : String
  description : String
  sync : CR → Cat → W → SyncState × Option String × W
  getWatchSources : GoMap String K

/-- `stateManager`: the States, in the order they are run. -/
structure stateManager (W CR Cat K : Type) where
  states : List (State W CR Cat K)

section SyncState

variable {W CR Cat K : Type}

/-- `Status == SyncStateNotReady || Status == SyncStateError`: the status makes the States not
ready. -/
def SyncState.degrades (s : SyncState) : Bool := s == .notReady || s == .error

theorem SyncState.degrades_eq_false_iff (s : SyncState) :
    s.degrades = false ↔ s ≠ .notReady ∧ s ≠ .error := by
  simp [degrades]

/-- The accumulator of `SyncState`'s loop: `managerResult.StatesStatus`, `statesReady`, and
the world. -/
structure SyncAcc (W : Type) where
  statesStatus : List Result
  statesReady : Bool
  world : W

/-- One turn of `SyncState`'s loop: `Sync` the State and record its `Result`. -/
def syncStep (cr : CR) (cat : Cat) (acc : SyncAcc W) (state : State W CR Cat K) : SyncAcc W :=
  let (ss, err, w) := state.sync cr cat acc.world
  let result : Result := ⟨state.name, ss, err⟩
  { statesStatus := acc.statesStatus ++ [result]
    statesReady := if result.status.degrades then false else acc.statesReady
    world := w }

/-- `stateManager.SyncState`: the `Results`, and the world the last State left. -/
def stateManager.syncState (smgr : stateManager W CR Cat K) (cr : CR) (cat : Cat) (w : W) :
    Results × W :=
  let acc := smgr.states.foldl (syncStep cr cat) ⟨[], true, w⟩
  (⟨if acc.statesReady then .ready else .notReady, acc.statesStatus⟩, acc.world)

/-- Each State's `Sync` once, in order, each on the world the one before it left. -/
def runStates (cr : CR) (cat : Cat) : List (State W CR Cat K) → W → List Result × W
  | [], w => ([], w)
  | s :: ss, w =>
    let (st, err, w₁) := s.sync cr cat w
    let (rs, w₂) := runStates cr cat ss w₁
    (⟨s.name, st, err⟩ :: rs, w₂)

/-- `runStates` reports one `Result` per State, under the State's name. -/
theorem runStates_names (cr : CR) (cat : Cat) (ss : List (State W CR Cat K)) (w : W) :
    (runStates cr cat ss w).1.map Result.stateName = ss.map State.name := by
  induction ss generalizing w with
  | nil => rfl
  | cons s ss ih => simp [runStates, ih]

/-- **The loop invariant**: the loop from any accumulator appends what `runStates` reports, and
stays ready only while no reported status degrades. -/
theorem foldl_syncStep (cr : CR) (cat : Cat) (ss : List (State W CR Cat K)) (acc : SyncAcc W) :
    ss.foldl (syncStep cr cat) acc =
      ⟨acc.statesStatus ++ (runStates cr cat ss acc.world).1,
        acc.statesReady && (runStates cr cat ss acc.world).1.all (!·.status.degrades),
        (runStates cr cat ss acc.world).2⟩ := by
  induction ss generalizing acc with
  | nil => simp [runStates]
  | cons s ss ih =>
    rw [List.foldl_cons, ih]
    simp only [syncStep, runStates, List.append_assoc, List.singleton_append, List.all_cons]
    congr 1
    cases (s.sync cr cat acc.world).1.degrades <;> simp

/-- A call of a State's `Sync`: the State's position and the arguments it was given. -/
structure SyncCall (CR Cat : Type) where
  index : Nat
  cr : CR
  cat : Cat

/-- The `i`-th State with its calls recorded: its `Sync` appends the call to a log kept in the
world, then runs as before. -/
def State.recorded (i : Nat) (s : State W CR Cat K) : State (List (SyncCall CR Cat) × W) CR Cat K :=
  { s with
    sync := fun cr cat lw =>
      let (st, err, w) := s.sync cr cat lw.2
      (st, err, (lw.1 ++ [⟨i, cr, cat⟩], w)) }

@[simp] theorem State.recorded_name (i : Nat) (s : State W CR Cat K) : (s.recorded i).name = s.name :=
  rfl

theorem State.recorded_sync (i : Nat) (s : State W CR Cat K) (cr : CR) (cat : Cat)
    (log : List (SyncCall CR Cat)) (w : W) :
    (s.recorded i).sync cr cat (log, w) =
      ((s.sync cr cat w).1, (s.sync cr cat w).2.1, (log ++ [⟨i, cr, cat⟩], (s.sync cr cat w).2.2)) :=
  rfl

/-- The manager whose States record their calls. -/
def stateManager.recorded (smgr : stateManager W CR Cat K) :
    stateManager (List (SyncCall CR Cat) × W) CR Cat K :=
  ⟨(smgr.states.enum).map fun p => p.2.recorded p.1⟩

theorem runStates_recorded (cr : CR) (cat : Cat) (ss : List (State W CR Cat K)) (n : Nat)
    (log : List (SyncCall CR Cat)) (w : W) :
    runStates cr cat ((ss.enumFrom n).map fun p => p.2.recorded p.1) (log, w) =
      ((runStates cr cat ss w).1,
        (log ++ (List.range' n ss.length).map fun i => ⟨i, cr, cat⟩, (runStates cr cat ss w).2)) := by
  induction ss generalizing n log w with
  | nil => simp [runStates]
  | cons s ss ih =>
    simp only [List.enumFrom_cons, List.map_cons, runStates, State.recorded_sync, ih,
      State.recorded_name]
    simp [List.range'_succ]

/-- **`SyncState` runs every State.**  Each State's `Sync` is called once, in the configured
order, with the caller's custom resource and catalog, whatever the earlier ones returned (the
log of `recorded`); one `Result` per State, in order, holds its name and what its `Sync`
returned on the world the earlier States left (`runStates`); the aggregate is `ready` exactly
when no `Result` is `notReady` or `error`, and is `notReady` otherwise. -/
theorem syncState_runs_every_state (smgr : stateManager W CR Cat K) (cr : CR) (cat : Cat)
    (log : List (SyncCall CR Cat)) (w : W) :
    let out := smgr.syncState cr cat w
    smgr.recorded.syncState cr cat (log, w) =
        (out.1, log ++ (List.range smgr.states.length).map (fun i => ⟨i, cr, cat⟩), out.2) ∧
    out.1.statesStatus = (runStates cr cat smgr.states w).1 ∧
    out.1.statesStatus.map Result.stateName = smgr.states.map State.name ∧
    out.2 = (runStates cr cat smgr.states w).2 ∧
    (out.1.status = .ready ↔
      ∀ r ∈ out.1.statesStatus, r.status ≠ .notReady ∧ r.status ≠ .error) ∧
    (out.1.status ≠ .ready → out.1.status = .notReady) := by
  simp only [stateManager.syncState, stateManager.recorded, foldl_syncStep, List.enum_eq_enumFrom,
    runStates_recorded, List.range_eq_range', List.nil_append, runStates_names, true_and]
  constructor
  · split <;> simp_all [SyncState.degrades_eq_false_iff]
  · split <;> simp

end SyncState

section GetWatchSources

variable {W CR Cat K : Type}

/-- `GetWatchSources`'s loop over the States, from the `n`-th `range` loop on: each State's map
is ranged over, and a kind name not yet in `kindMap` takes the State's descriptor. -/
def collectKinds (ord : RangeOrder Nat String K) : Nat → List (State W CR Cat K) →
    GoMap String K → GoMap String K
  | _, [], kindMap => kindMap
  | n, s :: ss, kindMap =>
    collectKinds ord (n + 1) ss (kindMap.insertAllIfAbsent (ord.order n s.getWatchSources.entries))

/-- `stateManager.GetWatchSources`: the descriptors of `kindMap`, in the order its final
`range` visits it. -/
def stateManager.getWatchSources (smgr : stateManager W CR Cat K) (ord : RangeOrder Nat String K) :
    List K :=
  let kindMap := collectKinds ord 0 smgr.states GoMap.empty
  (ord.order smgr.states.length kindMap.entries).map Prod.snd

/-- The descriptor the earliest State declaring `name` gives it. -/
def firstDeclared (states : List (State W CR Cat K)) (name : String) : Option K :=
  states.findSome? fun s => s.getWatchSources.lookup name

/-- Every kind name some State declares, once each. -/
def declaredNames (states : List (State W CR Cat K)) : List String :=
  (states.flatMap fun s => s.getWatchSources.keys).dedup

theorem firstDeclared_cons (s : State W CR Cat K) (ss : List (State W CR Cat K)) (name : String) :
    firstDeclared (s :: ss) name = (s.getWatchSources.lookup name).or (firstDeclared ss name) := by
  simp only [firstDeclared, List.findSome?_cons]
  cases s.getWatchSources.lookup name <;> rfl

/-- **The loop invariant**: a name is in `kindMap` with what it held before the loop, or else
with its earliest declaration among the States the loop visits. -/
theorem lookup_collectKinds (ord : RangeOrder Nat String K) (n : Nat) (ss : List (State W CR Cat K))
    (kindMap : GoMap String K) (name : String) :
    (collectKinds ord n ss kindMap).lookup name = (kindMap.lookup name).or (firstDeclared ss name) := by
  induction ss generalizing n kindMap with
  | nil => simp [collectKinds, firstDeclared]
  | cons s ss ih =>
    have hperm := GoMap.lookup_perm (ord.perm n _) s.getWatchSources.nodup name
    rw [collectKinds, ih, GoMap.lookup_foldl_insertIfAbsent, firstDeclared_cons, hperm,
      Option.or_assoc]
    rfl

theorem mem_declaredNames_of_firstDeclared {states : List (State W CR Cat K)} {name : String}
    {kind : K} (h : firstDeclared states name = some kind) : name ∈ declaredNames states := by
  obtain ⟨s, hs, hk⟩ := List.exists_of_findSome?_eq_some h
  simp only [declaredNames, List.mem_dedup, List.mem_flatMap]
  exact ⟨s, hs, List.mem_map.mpr ⟨(name, kind), (s.getWatchSources.mem_entries_iff _ _).mpr hk, rfl⟩⟩

/-- **`GetWatchSources` is the first-wins union.**  As a multiset, the descriptors it returns
are one per kind name some State declares, each the one the earliest such State gives it, in
every order Go may range over the maps. -/
theorem getWatchSources_perm_firstDeclared (smgr : stateManager W CR Cat K)
    (ord : RangeOrder Nat String K) :
    (smgr.getWatchSources ord).Perm
      ((declaredNames smgr.states).filterMap (firstDeclared smgr.states)) := by
  set kindMap := collectKinds ord 0 smgr.states GoMap.empty
  have hlookup : ∀ name, kindMap.lookup name = firstDeclared smgr.states name := fun name => by
    simp [kindMap, lookup_collectKinds]
  have hentries : kindMap.entries.Perm ((declaredNames smgr.states).filterMap
      fun name => (firstDeclared smgr.states name).map (name, ·)) := by
    refine (List.perm_ext_iff_of_nodup (kindMap.nodup.of_map _) ?_).mpr ?_
    · refine (List.nodup_dedup _).filterMap ?_
      intro a a' p hp hp'
      simp only [Option.mem_def, Option.map_eq_some'] at hp hp'
      obtain ⟨_, -, rfl⟩ := hp
      obtain ⟨_, -, he⟩ := hp'
      exact (Prod.mk.inj he).1.symm
    · rintro ⟨name, kind⟩
      simp only [GoMap.mem_entries_iff, hlookup, List.mem_filterMap, Option.map_eq_some',
        Prod.mk.injEq]
      constructor
      · exact fun h => ⟨name, mem_declaredNames_of_firstDeclared h, kind, h, rfl, rfl⟩
      · rintro ⟨_, -, _, h, rfl, rfl⟩
        exact h
  have hout := ((ord.perm smgr.states.length kindMap.entries).trans hentries).map Prod.snd
  simpa [stateManager.getWatchSources, List.map_filterMap] using hout

end GetWatchSources

end NetworkOperator.States
