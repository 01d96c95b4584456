import Routiq.Core.Atomics
import Routiq.Edge.CircuitBreaker

/-! A breaker slot under concurrent calls. State, failure counter and failure
time are atomics of their own, and a call goes from one to the next, so that
others see a slot that is closed with an old counter, or open with an old time.
A slot trips on a run of failures, and an open one keeps its cooldown, as long
as no call comes in between. -/
namespace Routiq.Edge.SlotRaces
open Core Runs Processes Atomics CircuitBreaker List

/-! ## Operations -/

inductive Op where
  | nowSecs | loadState
  | storeState (state : CircuitState)
  | compareExchangeState (expected new : CircuitState)
  | storeFailures (failures : Nat)
  | fetchAddFailures | loadLastFailureTime
  | storeLastFailureTime (time : Nat)
deriving DecidableEq

@[reducible] def Op.Answer : Op → Type
  | .nowSecs | .fetchAddFailures | .loadLastFailureTime => Nat
  | .loadState => CircuitState
  | .compareExchangeState _ _ => Except CircuitState Unit
  | .storeState _ | .storeFailures _ | .storeLastFailureTime _ => Unit

instance : (op : Op) → DecidableEq op.Answer
  | .nowSecs | .fetchAddFailures | .loadLastFailureTime => inferInstanceAs (DecidableEq Nat)
  | .loadState => inferInstanceAs (DecidableEq CircuitState)
  | .compareExchangeState _ _ => inferInstanceAs (DecidableEq (Except CircuitState Unit))
  | .storeState _ | .storeFailures _ | .storeLastFailureTime _ => inferInstanceAs (DecidableEq Unit)

/-- No compare-exchange of a slot is a weak one. -/
def access (now : Nat) (_spurious : Bool) (cb : UpstreamCB) : (op : Op) → op.Answer × UpstreamCB
  | .nowSecs => (now,cb)
  | .loadState => (cb.state,cb)
  | .storeState state => ((),{ cb with state := state })
  | .compareExchangeState expected new =>
    let exchanged := compareExchange cb.state expected new
    (exchanged.1,{ cb with state := exchanged.2 })
  | .storeFailures failures => ((),{ cb with failures := failures })
  | .fetchAddFailures => (cb.failures,{ cb with failures := cb.failures + 1 })
  | .loadLastFailureTime => (cb.lastFailureTime,cb)
  | .storeLastFailureTime time => ((),{ cb with lastFailureTime := time })

def slot : Machine Op Op.Answer (Clocked UpstreamCB) Tick := machine access
abbrev Access := Process Op Op.Answer
abbrev nowSecs : Access Nat := Process.perform Op.nowSecs
abbrev loadState : Access CircuitState := Process.perform Op.loadState
abbrev storeState (state : CircuitState) : Access Unit := Process.perform (Op.storeState state)
abbrev compareExchangeState (expected new : CircuitState) : Access (Except CircuitState Unit) :=
  Process.perform (Op.compareExchangeState expected new)
abbrev storeFailures (failures : Nat) : Access Unit := Process.perform (Op.storeFailures failures)
abbrev fetchAddFailures : Access Nat := Process.perform Op.fetchAddFailures
abbrev loadLastFailureTime : Access Nat := Process.perform Op.loadLastFailureTime
abbrev storeLastFailureTime (time : Nat) : Access Unit := Process.perform (Op.storeLastFailureTime time)

/-! ## Calls -/

def isOpen : Access Bool := do
  match ← loadState with
  | .stateClosed => pure false
  | .stateOpen => do
    let lastFail ← loadLastFailureTime
    if (← nowSecs) ≤ lastFail + resetTimeoutSecs then pure true
    else
      match ← compareExchangeState .stateOpen .stateHalfOpen with
      | .ok _ => pure false
      | .error current => pure (current ≠ .stateHalfOpen)
  | .stateHalfOpen => pure false

def recordSuccess : Access Unit := do
  match ← loadState with
  | .stateHalfOpen => do
    storeState .stateClosed
    storeFailures 0
  | .stateClosed => storeFailures 0
  | .stateOpen => pure ()

def recordFailure : Access Unit := do
  match ← loadState with
  | .stateHalfOpen => do
    storeState .stateOpen
    storeLastFailureTime (← nowSecs)
  | .stateClosed => do
    let fails := (← fetchAddFailures) + 1
    if failureThreshold ≤ fails then
      match ← compareExchangeState .stateClosed .stateOpen with
      | .ok _ => storeLastFailureTime (← nowSecs)
      | .error _ => pure ()
    else pure ()
  | .stateOpen => pure ()

inductive Request where
  | isOpen | recordSuccess | recordFailure
deriving DecidableEq

def handle : Request → Access (Option Bool)
  | .isOpen => do pure (some (← isOpen))
  | .recordSuccess => do
    recordSuccess
    pure none
  | .recordFailure => do
    recordFailure
    pure none

def sequential (now : Nat) (cb : UpstreamCB) : Request → Option Bool × UpstreamCB
  | .isOpen => (some (cb.isOpen now).1,(cb.isOpen now).2)
  | .recordSuccess => (none,cb.recordSuccess)
  | .recordFailure => (none,cb.recordFailure now)

theorem execute_handle (request : Request) (cb : UpstreamCB) (now : Nat) :
    let execution := execute slot (handle request) (fun _ => ⟨0,false⟩) ⟨cb,now⟩
    (execution.value,execution.world) =
      ((sequential now cb request).1,⟨(sequential now cb request).2,now⟩) := by
  obtain ⟨state,failures,lastFailureTime⟩ := cb
  cases request with
  | isOpen =>
    cases state with
    | stateClosed | stateHalfOpen => rfl
    | stateOpen =>
      by_cases hcool : now ≤ lastFailureTime + resetTimeoutSecs
      · simp [handle,isOpen,execute_call,slot,machine,access,sequential,UpstreamCB.isOpen,hcool]
      · simp [handle,isOpen,execute_call,slot,machine,access,sequential,UpstreamCB.isOpen,compareExchange_self,hcool]
  | recordSuccess => cases state <;> rfl
  | recordFailure =>
    cases state with
    | stateOpen | stateHalfOpen => rfl
    | stateClosed =>
      by_cases htrip : failureThreshold ≤ failures + 1
      · simp [handle,recordFailure,execute_call,slot,machine,access,sequential,UpstreamCB.recordFailure,compareExchange_self,htrip]
      · simp [handle,recordFailure,execute_call,slot,machine,access,sequential,UpstreamCB.recordFailure,htrip]

/-! ## How far a call has got -/

inductive Stage where
  | asked (request : Request)
  | succeeding (state : CircuitState)
  /-- The slot is set closed, and the counter is still to be reset. -/
  | resetting
  | failing (state : CircuitState)
  /-- The failure that reaches the threshold is counted. -/
  | tripping
  /-- The slot is set open, and the time is still to be written. -/
  | stamping
  | stamped (now : Nat)
  | querying
  | aged (lastFail : Nat)
  | cooling | expired | finished
deriving DecidableEq

namespace Stage

@[simp] def loaded (state : CircuitState) : Stage → Stage
  | .asked .recordSuccess => .succeeding state
  | .asked .recordFailure => .failing state
  | .asked .isOpen => if state = .stateOpen then .querying else .finished
  | _ => .finished

@[simp] def clocked (now : Nat) : Stage → Stage
  | .stamping => .stamped now
  | .aged lastFail => if now ≤ lastFail + resetTimeoutSecs then .cooling else .expired
  | _ => .finished

@[simp] def stored : Stage → Stage
  | .succeeding _ => .resetting
  | .failing _ => .stamping
  | _ => .finished

@[simp] def exchanged : Stage → Except CircuitState Unit → Stage
  | .tripping, .ok _ => .stamping
  | _, _ => .finished

@[simp] def next (stage : Stage) : (op : Op) → op.Answer → Stage
  | .nowSecs, now => stage.clocked now
  | .loadState, state => stage.loaded state
  | .storeState _, _ => stage.stored
  | .compareExchangeState _ _, result => stage.exchanged result
  | .fetchAddFailures, previous => if failureThreshold ≤ previous + 1 then .tripping else .finished
  | .loadLastFailureTime, lastFail => .aged lastFail
  | .storeFailures _, _ | .storeLastFailureTime _, _ => .finished

@[simp] def Allowed : Stage → Op → Prop
  | .asked _, op => op = .loadState
  | .succeeding state, op =>
    state = .stateHalfOpen ∧ op = .storeState .stateClosed ∨ state = .stateClosed ∧ op = .storeFailures 0
  | .resetting, op => op = .storeFailures 0
  | .failing state, op =>
    state = .stateHalfOpen ∧ op = .storeState .stateOpen ∨ state = .stateClosed ∧ op = .fetchAddFailures
  | .tripping, op => op = .compareExchangeState .stateClosed .stateOpen
  | .stamping, op | .aged _, op => op = .nowSecs
  | .stamped now, op => op = .storeLastFailureTime now
  | .querying, op => op = .loadLastFailureTime
  | .expired, op => op = .compareExchangeState .stateOpen .stateHalfOpen
  | .cooling, _ | .finished, _ => False

def Origin : Op → Stage → Prop
  | .nowSecs, stage => stage = .stamping ∨ ∃ lastFail, stage = .aged lastFail
  | .loadState, stage => ∃ request, stage = .asked request
  | .storeState state, stage => state = .stateClosed ∧ stage = .succeeding .stateHalfOpen ∨
    state = .stateOpen ∧ stage = .failing .stateHalfOpen
  | .compareExchangeState expected new, stage => expected = .stateClosed ∧ new = .stateOpen ∧ stage = .tripping ∨
    expected = .stateOpen ∧ new = .stateHalfOpen ∧ stage = .expired
  | .storeFailures failures, stage => failures = 0 ∧ (stage = .succeeding .stateClosed ∨ stage = .resetting)
  | .fetchAddFailures, stage => stage = .failing .stateClosed
  | .loadLastFailureTime, stage => stage = .querying
  | .storeLastFailureTime time, stage => stage = .stamped time

variable {stage : Stage} {op : Op}

theorem Allowed.origin (hallowed : stage.Allowed op) : Origin op stage := by
  cases stage <;> cases op <;> simp_all [Origin]

theorem fetchAddFailures_of_tripping {answer : op.Answer}
    (htripping : stage.next op answer = .tripping) : op = .fetchAddFailures := by
  cases op with
  | fetchAddFailures => rfl
  | storeFailures _ | storeLastFailureTime _ | loadLastFailureTime => contradiction
  | nowSecs | loadState | storeState _ | compareExchangeState _ _ =>
    simp only [next,clocked,loaded,stored,exchanged] at htripping
    repeat' split at htripping
    all_goals contradiction

end Stage

def protocol : Protocol Op Op.Answer Stage where
  next := .next
  allowed := Stage.Allowed
  possible _ _ := True

def Answered (stage : Stage) (answer : Option Bool) : Prop := stage = .cooling → answer = some true

theorem handle_follows (request : Request) : protocol.Follows Answered (.asked request) (handle request) := by
  cases request with
  | isOpen =>
    simp only [handle,isOpen,Process.perform_bind,Process.call_bind,Protocol.follows_call]
    refine ⟨rfl,fun state _ => ?_⟩
    cases state with
    | stateClosed | stateHalfOpen => simp [Answered,protocol]
    | stateOpen =>
      simp only [Process.call_bind,Protocol.follows_call]
      refine ⟨rfl,fun lastFail _ => ⟨rfl,fun now _ => ?_⟩⟩
      split
      · simp [Answered]
      next hexpired =>
        simp only [Process.call_bind,Protocol.follows_call]
        refine ⟨?_,fun result _ => ?_⟩
        · simp [protocol,hexpired]
        · cases result <;> simp [Answered,protocol,hexpired]
  | recordSuccess =>
    simp only [handle,recordSuccess,Process.perform_bind,Process.call_bind,Protocol.follows_call]
    refine ⟨rfl,fun state _ => ?_⟩
    cases state with
    | stateClosed | stateHalfOpen | stateOpen => simp [Answered,protocol]
  | recordFailure =>
    simp only [handle,recordFailure,Process.perform_bind,Process.call_bind,Protocol.follows_call]
    refine ⟨rfl,fun state _ => ?_⟩
    cases state with
    | stateHalfOpen | stateOpen => simp [Answered,protocol]
    | stateClosed =>
      simp only [Process.call_bind,Protocol.follows_call]
      refine ⟨.inr ⟨rfl,rfl⟩,fun previous _ => ?_⟩
      split
      next htrip =>
        simp only [Process.call_bind,Protocol.follows_call]
        refine ⟨?_,fun result _ => ?_⟩
        · simp [protocol,htrip]
        · cases result <;>
            simp [Answered,protocol,htrip]
      next hbelow => simp [Answered,protocol,hbelow]

abbrev SlotSystem (Index : Type) := System Index Op Op.Answer (Clocked UpstreamCB) (Option Bool)

variable {calls : Nat}

section Calls
variable {Index : Type} {requests : Index → Request} {system : SlotSystem Index} {index : Index}
  {tick : Tick}
  {op : Op} {next : op.Answer → Access (Option Bool)}

def received (requests : Index → Request) : SlotSystem Index :=
  .start ⟨.zeroed,0⟩ fun index => handle (requests index)

section
variable (system : SlotSystem Index) (tick : Tick)

def timeOf : Nat := system.world.clock + tick.elapsed

def slotAfter (op : Op) : UpstreamCB :=
  (access (timeOf system tick) tick.spurious system.world.memory op).2

end

variable [DecidableEq Index]

section
variable (requests : Index → Request)

def reached (system : SlotSystem Index) : Index → Stage :=
  protocol.stages (fun index => .asked (requests index)) system

def Follow (system : SlotSystem Index) : Prop :=
  protocol.Following (fun index => .asked (requests index)) (fun _ => Answered) system

theorem slot_serves : Protocol.Serves slot protocol := fun _ _ _ => trivial

theorem received_follow : Follow requests (received requests) :=
  fun index => handle_follows (requests index)

end

theorem Follow.allowed (hfollow : Follow requests system) (hprocess : system.processes index = .call op next) :
    (reached requests system index).Allowed op :=
  Protocol.Following.allowed hfollow (by rw [hprocess,Process.pending_call])

section
variable (requests : Index → Request) (system : SlotSystem Index) (index : Index) (tick : Tick)
  (op : Op)

def nextStage : Stage :=
  (reached requests system index).next op (access (timeOf system tick) tick.spurious system.world.memory op).1

variable (next : op.Answer → Access (Option Bool))

theorem reached_perform : reached requests (system.perform slot tick index op next) =
      Function.update (reached requests system) index (nextStage requests system index tick op) :=
  Protocol.stages_perform _ _ _ _ _ _ _ _

@[simp] theorem reached_perform_self : reached requests (system.perform slot tick index op next) index =
      nextStage requests system index tick op := by
  rw [reached_perform,Function.update_self]

end

theorem reached_perform_other {other : Index} (hother : other ≠ index) :
    reached requests (system.perform slot tick index op next) other = reached requests system other := by
  rw [reached_perform,Function.update_of_ne hother]

/-! ## Runs of failures -/

/-- What makes up the failure run of a slot: a failure is counted, a success is
recorded for a closed slot, the slot becomes closed. -/
inductive Mark where
  | failed | succeeded | closed
deriving DecidableEq

section
variable (requests : Index → Request) (system : SlotSystem Index)

def marks (index : Index) (_tick : Tick) : Op → List Mark
  | .fetchAddFailures => [.failed]
  | .storeFailures _ => if reached requests system index = .succeeding .stateClosed then [.succeeded] else []
  | .storeState state =>
    if state = .stateClosed ∧ system.world.memory.state ≠ .stateClosed then [.closed] else []
  | _ => []

variable (past : List Mark)

def failureRun : Nat :=
  past.foldl (fun failures mark => if mark = .failed then failures + 1 else 0) 0

@[simp] theorem failureRun_failed : failureRun (past ++ [.failed]) = failureRun past + 1 := by
  simp [failureRun]

/-- No call gets between the two operations of another: a failure reaches the
threshold while no closing success has yet to reset the counter, a success is
recorded and the slot closed while no such failure has yet to open it, and a
failure that found the slot half-open does not set it open once it is closed. -/
def Undisturbed (event : Index × Tick) : Prop :=
  match (system.processes event.1).pending with
  | none => True
  | some .fetchAddFailures =>
    failureThreshold ≤ system.world.memory.failures + 1 → ∀ other, reached requests system other ≠ .resetting
  | some (.storeState .stateOpen) => system.world.memory.state ≠ .stateClosed
  | some op => marks requests system event.1 event.2 op ≠ [] → ∀ other, reached requests system other ≠ .tripping

/-- The counter stands for failures of the present run, and so does a failure
that is about to open the slot. -/
structure Counted : Prop where
  tripping : ∀ other, reached requests system other = .tripping → failureThreshold ≤ failureRun past
  counter : (∀ other, reached requests system other ≠ .resetting) →
    system.world.memory.failures ≤ failureRun past

end

variable {past : List Mark}

theorem counted_perform
    (hothers : ∀ other, other ≠ index → reached requests system other = .tripping →
      failureThreshold ≤ failureRun past)
    (hself : nextStage requests system index tick op = .tripping → failureThreshold ≤ failureRun past)
    (hcounter : (∀ other, other ≠ index → reached requests system other ≠ .resetting) →
      nextStage requests system index tick op ≠ .resetting →
      (slotAfter system tick op).failures ≤ failureRun past) :
    Counted requests (system.perform slot tick index op next) past := by
  constructor
  · intro other hstage
    by_cases hother : other = index
    · rw [hother,reached_perform_self] at hstage
      exact hself hstage
    · rw [reached_perform_other hother] at hstage
      exact hothers other hother hstage
  · intro hnone
    refine hcounter (fun other hother => ?_) ?_
    · have hstage := hnone other
      rwa [reached_perform_other hother] at hstage
    · have hstage := hnone index
      rwa [reached_perform_self] at hstage

theorem Counted.quiet (hcounted : Counted requests system past)
    (hmarks : marks requests system index tick op = [])
    (hfailures : (slotAfter system tick op).failures = system.world.memory.failures)
    (hnext : nextStage requests system index tick op ≠ .tripping)
    (hstage : reached requests system index ≠ .resetting) :
    Counted requests (system.perform slot tick index op next) (past ++ marks requests system index tick op) := by
  rw [hmarks,append_nil]
  refine counted_perform (fun other _ => hcounted.tripping other) (fun hself => absurd hself hnext) ?_
  intro hothers _
  rw [hfailures]
  apply hcounted.counter
  intro other
  by_cases hself : other = index
  · rw [hself]
    exact hstage
  · exact hothers other hself

section
variable (hfollow : Follow requests system) (hprocess : system.processes index = .call op next)
  (hgood : Undisturbed requests system (index,tick))
include hfollow hprocess hgood

theorem Counted.perform (hcounted : Counted requests system past) :
    Counted requests (system.perform slot tick index op next) (past ++ marks requests system index tick op) := by
  have hallowed := hfollow.allowed hprocess
  have horigin := hallowed.origin
  unfold Undisturbed at hgood
  dsimp only at hgood
  rw [hprocess,Process.pending_call] at hgood
  cases op with
  | nowSecs | loadState | compareExchangeState _ _ | loadLastFailureTime | storeLastFailureTime _ =>
    refine hcounted.quiet rfl rfl (fun htripping => by cases Stage.fetchAddFailures_of_tripping htripping) ?_
    intro hresetting
    rw [hresetting] at hallowed
    contradiction
  | storeState state =>
    rcases horigin with ⟨rfl,hstage⟩ | ⟨rfl,hstage⟩
    · refine counted_perform ?_ ?_ ?_
      · intro other _ htripping
        have hmarks : marks requests system index tick (.storeState .stateClosed) = [] := by
          by_contra hmarks
          exact hgood hmarks other htripping
        rw [hmarks,append_nil]
        exact hcounted.tripping other htripping
      · simp [nextStage,hstage]
      · simp [nextStage,hstage]
    · exact hcounted.quiet rfl rfl (by simp [nextStage,hstage]) (by simp [hstage])
  | storeFailures failures =>
    obtain ⟨rfl,hstage⟩ := horigin
    refine counted_perform ?_ (by simp [nextStage]) fun _ _ => Nat.zero_le _
    intro other _ htripping
    rcases hstage with hstage | hstage
    · exact absurd htripping (hgood (by simp [marks,hstage]) other)
    · have hmarks : marks requests system index tick (.storeFailures 0) = [] := by simp [marks,hstage]
      rw [hmarks,append_nil]
      exact hcounted.tripping other htripping
  | fetchAddFailures =>
    have hmarks : marks requests system index tick .fetchAddFailures = [.failed] := rfl
    rw [hmarks]
    refine counted_perform ?_ ?_ ?_
    · intro other _ htripping
      rw [failureRun_failed]
      exact Nat.le_succ_of_le (hcounted.tripping other htripping)
    · intro htrip
      have hthreshold : failureThreshold ≤ system.world.memory.failures + 1 := by
        by_contra hbelow
        simp [nextStage,access,hbelow] at htrip
      rw [failureRun_failed]
      have hcounter := hcounted.counter (hgood hthreshold)
      omega
    · intro hothers _
      rw [failureRun_failed]
      have hcounter := hcounted.counter fun other => by
        by_cases hother : other = index
        · simp [hother,show reached requests system index = _ from horigin]
        · exact hothers other hother
      simpa [slotAfter,access] using hcounter

theorem tripping_of_opened (hclosed : system.world.memory.state = .stateClosed)
    (hopened : (slotAfter system tick op).state = .stateOpen) : reached requests system index = .tripping := by
  have horigin := (hfollow.allowed hprocess).origin
  unfold Undisturbed at hgood
  dsimp only at hgood
  rw [hprocess,Process.pending_call] at hgood
  cases op with
  | nowSecs | loadState | storeFailures _ | fetchAddFailures | loadLastFailureTime | storeLastFailureTime _ =>
    exact absurd (hclosed.symm.trans hopened) (by decide)
  | storeState state =>
    rcases horigin with ⟨rfl,-⟩ | ⟨rfl,-⟩
    · contradiction
    · exact absurd hclosed hgood
  | compareExchangeState expected new =>
    rcases horigin with ⟨rfl,rfl,hstage⟩ | ⟨rfl,rfl,-⟩
    · exact hstage
    · simp [slotAfter,access,hclosed,compareExchange] at hopened

end

/-- A closed slot opens on a run of failures only. -/
theorem trips_on_failure_run (requests : Index → Request) {before after : List (Index × Tick)} {event : Index × Tick}
    (hgood : Along (System.step slot) (Undisturbed requests) (received requests) (before ++ event :: after))
    (hclosed : (run (System.step slot) (received requests) before).world.memory.state = .stateClosed)
    (hopened : (run (System.step slot) (received requests) (before ++ [event])).world.memory.state = .stateOpen) :
    failureThreshold ≤ failureRun (chronicle slot (marks requests) (received requests) before) := by
  rw [along_append,along_cons] at hgood
  have hstart : Counted requests (received requests) [] := by
    constructor
    · intro other hother
      cases hother
    · exact fun _ => Nat.zero_le _
  obtain ⟨hfollow,hcounted⟩ := chronicle_invariant slot_serves (fun _ _ => rfl)
    (fun system index tick op next past hfollow hprocess hgood hcounted =>
      Counted.perform hfollow hprocess hgood hcounted) hgood.1 (received_follow requests) hstart
  rw [nil_append] at hcounted
  rw [run_append,run_cons,run_nil] at hopened
  rcases System.step_cases slot _ event with hsame | ⟨op,next,hprocess,-,hstep⟩
  · rw [hsame,hclosed] at hopened
    contradiction
  · rw [hstep] at hopened
    exact hcounted.tripping event.1 (tripping_of_opened hfollow hprocess hgood.2.1 hclosed hopened)

/-! Fifty failures, one after the other, and then a query, a success and a
failure. -/

def sampleRequests (call : Fin 53) : Request :=
  if call = 50 then .isOpen else if call = 51 then .recordSuccess else .recordFailure

def turn (call : Fin 53) : Fin 53 × Tick := (call,⟨0,false⟩)
def later (seconds : Nat) (call : Fin 53) : Fin 53 × Tick := (call,⟨seconds,false⟩)

/-- All fifty failures are counted, and the last of them is about to open the
slot. -/
def fiftyFailures : List (Fin 53 × Tick) :=
  (List.range 50).flatMap fun call => [turn (Fin.ofNat 53 call),turn (Fin.ofNat 53 call)]

def undisturbed {calls : Nat} (requests : Fin calls → Request) (system : SlotSystem (Fin calls))
    (event : Fin calls × Tick) : Bool :=
  match (system.processes event.1).pending with
  | none => true
  | some .fetchAddFailures =>
    system.world.memory.failures + 1 < failureThreshold ||
      decide (∀ other, reached requests system other ≠ .resetting)
  | some (.storeState .stateOpen) => system.world.memory.state ≠ .stateClosed
  | some op => marks requests system event.1 event.2 op = []

theorem undisturbed_of_check {requests : Fin calls → Request} (system : SlotSystem (Fin calls))
    (event : Fin calls × Tick)
    (hcheck : undisturbed requests system event = true) : Undisturbed requests system event := by
  unfold undisturbed at hcheck
  unfold Undisturbed
  split
  · trivial
  next hpending =>
    rw [hpending] at hcheck
    intro hthreshold
    simpa [not_lt.mpr hthreshold] using hcheck
  next hpending =>
    rw [hpending] at hcheck
    exact of_decide_eq_true hcheck
  next op hadd hstore hpending =>
    rw [hpending] at hcheck
    intro hmarks
    simp [hmarks] at hcheck

theorem fifty_failures_open_the_slot :
    failureThreshold ≤ failureRun (chronicle slot (marks sampleRequests) (received sampleRequests) fiftyFailures) :=
  have hcheck : checkAlong (System.step slot) (undisturbed sampleRequests) (received sampleRequests)
      (fiftyFailures ++ [turn 49]) = true := by decide +kernel
  trips_on_failure_run sampleRequests (along_of_check undisturbed_of_check hcheck)
    (by decide +kernel) (by decide +kernel)

/-- After the cooldown a query lets a probe through, its success has closed the
slot and not yet reset the counter, and a failure has been counted. -/
def closedWithOldCounter : List (Fin 53 × Tick) :=
  fiftyFailures ++ [turn 49,turn 49,turn 49,later 11 50,turn 50,turn 50,turn 50,turn 51,turn 51,turn 52,turn 52]

theorem one_failure_opens_the_slot :
    (run (System.step slot) (received sampleRequests) closedWithOldCounter).world.memory.state = .stateClosed ∧
      (run (System.step slot) (received sampleRequests)
        (closedWithOldCounter ++ [turn 52])).world.memory.state = .stateOpen ∧
      failureRun (chronicle slot (marks sampleRequests) (received sampleRequests) closedWithOldCounter) = 1 := by
  decide +kernel

/-! ## The cooldown -/

def openings (system : SlotSystem Index) (_index : Index) (tick : Tick) (op : Op) : List Nat :=
  if system.world.memory.state ≠ .stateOpen ∧ (slotAfter system tick op).state = .stateOpen then
    [timeOf system tick]
  else []

def Stage.owing : Stage → Bool
  | .stamping | .stamped _ => true
  | _ => false

section
variable (requests : Index → Request) (system : SlotSystem Index)

/-- The time is read, and the slot opened, while no call has yet to write the
time of its own opening. -/
def Unhurried (event : Index × Tick) : Prop :=
  match (system.processes event.1).pending with
  | none => True
  | some .loadLastFailureTime => ∀ other, (reached requests system other).owing = false
  | some op => openings system event.1 event.2 op ≠ [] → ∀ other, (reached requests system other).owing = false

/-- The times of the openings so far are behind the clock, behind every time
about to be written, and behind the one that is written. -/
structure Stamped (past : List Nat) : Prop where
  clock : ∀ time ∈ past, time ≤ system.world.clock
  read : ∀ other now, reached requests system other = .stamped now → ∀ time ∈ past, time ≤ now
  written : (∀ other, (reached requests system other).owing = false) →
    ∀ time ∈ past, time ≤ system.world.memory.lastFailureTime

end

omit [DecidableEq Index] in
theorem openings_of_same (hsame : (slotAfter system tick op).state = system.world.memory.state) :
    openings system index tick op = [] := by
  rw [openings,hsame]
  exact if_neg fun hopened => hopened.1 hopened.2

variable {past : List Nat}

theorem stamped_perform (hclock : ∀ time ∈ past, time ≤ timeOf system tick)
    (hothers : ∀ other now, other ≠ index → reached requests system other = .stamped now → ∀ time ∈ past, time ≤ now)
    (hself : ∀ now, nextStage requests system index tick op = .stamped now → now = timeOf system tick)
    (hwritten : (∀ other, other ≠ index → (reached requests system other).owing = false) →
      (nextStage requests system index tick op).owing = false →
      ∀ time ∈ past, time ≤ (slotAfter system tick op).lastFailureTime) :
    Stamped requests (system.perform slot tick index op next) past := by
  refine ⟨hclock,?_,?_⟩
  · intro other now hstage time htime
    by_cases hother : other = index
    · rw [hother,reached_perform_self] at hstage
      rw [hself now hstage]
      exact hclock time htime
    · rw [reached_perform_other hother] at hstage
      exact hothers other now hother hstage time htime
  · intro hnone
    refine hwritten (fun other hother => ?_) ?_
    · have hstage := hnone other
      rwa [reached_perform_other hother] at hstage
    · have hstage := hnone index
      rwa [reached_perform_self] at hstage

section
variable (hstamped : Stamped requests system past)
include hstamped

theorem Stamped.clock_timeOf (tick : Tick) : ∀ time ∈ past, time ≤ timeOf system tick :=
  fun time htime => (hstamped.clock time htime).trans (Nat.le_add_right _ _)

theorem Stamped.quiet (hopenings : openings system index tick op = [])
    (htime : (slotAfter system tick op).lastFailureTime = system.world.memory.lastFailureTime)
    (hstage : (reached requests system index).owing = false)
    (hnext : ∀ now, nextStage requests system index tick op ≠ .stamped now) :
    Stamped requests (system.perform slot tick index op next) (past ++ openings system index tick op) := by
  rw [hopenings,append_nil]
  refine stamped_perform (hstamped.clock_timeOf tick) (fun other now _ => hstamped.read other now)
    (fun now hself => absurd hself (hnext now)) ?_
  intro hothers _
  rw [htime]
  apply hstamped.written
  intro other
  by_cases hself : other = index
  · rw [hself]
    exact hstage
  · exact hothers other hself

theorem Stamped.opening
    (hnone : openings system index tick op ≠ [] → ∀ other, (reached requests system other).owing = false)
    (hnext : nextStage requests system index tick op = .stamping) :
    Stamped requests (system.perform slot tick index op next) (past ++ openings system index tick op) := by
  refine stamped_perform ?_ ?_ (by simp [hnext]) (by simp [hnext,Stage.owing])
  · intro time htime
    rcases mem_append.mp htime with hpast | hnow
    · exact hstamped.clock_timeOf tick time hpast
    · unfold openings at hnow
      split at hnow
      · exact (mem_singleton.mp hnow).le
      · contradiction
  · intro other now _ hstage time htime
    rcases mem_append.mp htime with hpast | hnow
    · exact hstamped.read other now hstage time hpast
    · have howing := hnone (ne_nil_of_mem hnow) other
      rw [hstage] at howing
      contradiction

end

theorem Stamped.perform (hfollow : Follow requests system) (hprocess : system.processes index = .call op next)
    (hgood : Unhurried requests system (index,tick)) (hstamped : Stamped requests system past) :
    Stamped requests (system.perform slot tick index op next) (past ++ openings system index tick op) := by
  have horigin := (hfollow.allowed hprocess).origin
  unfold Unhurried at hgood
  dsimp only at hgood
  rw [hprocess,Process.pending_call] at hgood
  cases op with
  | loadState =>
    obtain ⟨request,hstage⟩ := horigin
    refine hstamped.quiet (openings_of_same rfl) rfl (by simp [hstage,Stage.owing]) ?_
    simp only [nextStage,hstage,Stage.next]
    cases request <;> simp only [Stage.loaded] <;> grind
  | storeState state =>
    rcases horigin with ⟨rfl,hstage⟩ | ⟨rfl,hstage⟩
    · exact hstamped.quiet (by simp [openings,slotAfter,access]) rfl (by simp [hstage,Stage.owing])
        (by simp [nextStage,hstage])
    · exact hstamped.opening hgood (by simp [nextStage,hstage])
  | fetchAddFailures =>
    have hstage : reached requests system index = .failing .stateClosed := horigin
    refine hstamped.quiet (openings_of_same rfl) rfl (by simp [hstage,Stage.owing]) ?_
    simp only [nextStage,Stage.next]
    split <;> simp
  | compareExchangeState expected new =>
    rcases horigin with ⟨rfl,rfl,hstage⟩ | ⟨rfl,rfl,hstage⟩
    · rcases compareExchange_cases system.world.memory.state .stateClosed .stateOpen with ⟨-,hok⟩ | ⟨-,herror⟩
      · exact hstamped.opening hgood (by simp [nextStage,hstage,access,hok])
      · exact hstamped.quiet (openings_of_same (by simp [slotAfter,access,herror])) rfl
          (by simp [hstage,Stage.owing]) (by simp [nextStage,hstage,access,herror])
    · refine hstamped.quiet ?_ rfl (by simp [hstage,Stage.owing]) (by simp [nextStage,hstage])
      rcases compareExchange_cases system.world.memory.state .stateOpen .stateHalfOpen with
        ⟨hopen,-⟩ | ⟨-,herror⟩
      · simp [openings,hopen]
      · exact openings_of_same (by simp [slotAfter,access,herror])
  | nowSecs =>
    rcases horigin with hstage | ⟨lastFail,hstage⟩
    · have hnext : nextStage requests system index tick .nowSecs = .stamped (timeOf system tick) := by
        simp [nextStage,hstage,access]
      rw [openings_of_same rfl,append_nil]
      refine stamped_perform (hstamped.clock_timeOf tick) (fun other now _ => hstamped.read other now) ?_ ?_
      · intro now hself
        rw [hnext] at hself
        exact (Stage.stamped.inj hself).symm
      · simp [hnext,Stage.owing]
    · refine hstamped.quiet (openings_of_same rfl) rfl (by simp [hstage,Stage.owing]) ?_
      simp only [nextStage,hstage,Stage.next,Stage.clocked]
      split <;> simp
  | storeLastFailureTime time =>
    rw [openings_of_same rfl,append_nil]
    refine stamped_perform (hstamped.clock_timeOf tick) (fun other now _ => hstamped.read other now)
      (by simp [nextStage]) ?_
    intro _ _
    exact hstamped.read index time horigin
  | storeFailures _ | loadLastFailureTime =>
    refine hstamped.quiet (openings_of_same rfl) rfl ?_ (by simp [nextStage])
    unfold Stage.Origin at horigin
    grind [Stage.owing]

variable {events : List (Index × Tick)}

theorem Stamped.run (hgood : Along (.step slot) (Unhurried requests) system events)
    (hfollow : Follow requests system) (hstamped : Stamped requests system past) :
    Follow requests (run (.step slot) system events) ∧
      Stamped requests (run (.step slot) system events) (past ++ chronicle slot openings system events) :=
  chronicle_invariant slot_serves (fun _ _ => rfl)
    (fun _ _ _ _ _ _ hfollow hprocess hgood hstamped => .perform hfollow hprocess hgood hstamped)
    hgood hfollow hstamped

/-- How a query that found the slot as it is since an opening at this time goes
on: it does not move the slot unless the cooldown has passed on the clock it
read. -/
def Judging (time : Nat) (entries : List (Entry Op Op.Answer)) : Stage → Prop
  | .asked request => request = .isOpen ∧ entries = []
  | .querying => ∀ entry ∈ entries, entry.1 = .loadState
  | .aged lastFail => time ≤ lastFail ∧ ∀ entry ∈ entries, entry.1 = .loadState ∨ entry.1 = .loadLastFailureTime
  | .cooling => ∀ entry ∈ entries, entry.1 = .loadState ∨ entry.1 = .loadLastFailureTime ∨ entry.1 = .nowSecs
  | .expired | .finished => ∀ now, ⟨.nowSecs,now⟩ ∈ entries → time + resetTimeoutSecs < now
  | _ => False

variable {time : Nat}

section
variable (hfollow : Follow requests system)
  (hjudging : Judging time (system.trace index) (reached requests system index))
include hfollow hjudging

theorem Judging.perform (hprocess : system.processes index = .call op next)
    (hgood : Unhurried requests system (index,tick)) (hstamped : Stamped requests system past)
    (htime : time ∈ past) : Judging time ((system.perform slot tick index op next).trace index)
      (nextStage requests system index tick op) := by
  have hallowed := hfollow.allowed hprocess
  unfold Unhurried at hgood
  dsimp only at hgood
  rw [hprocess,Process.pending_call] at hgood
  rw [System.trace_perform_self]
  unfold nextStage
  generalize hstage : reached requests system index = stage at hallowed hjudging
  cases stage with
  | asked request =>
    obtain rfl : op = .loadState := hallowed
    obtain ⟨rfl,hnone⟩ := hjudging
    rw [hnone,nil_append]
    simp only [Stage.next,Stage.loaded]
    split
    · simp [Judging]
    · simp [Judging]
  | querying =>
    obtain rfl : op = .loadLastFailureTime := hallowed
    refine ⟨hstamped.written hgood time htime,?_⟩
    intro entry hentry
    rcases mem_append.mp hentry with hbefore | hlast
    · exact .inl (hjudging entry hbefore)
    · rw [mem_singleton.mp hlast]
      exact .inr rfl
  | aged lastFail =>
    obtain rfl : op = .nowSecs := hallowed
    obtain ⟨hlast,hentries⟩ := hjudging
    simp only [Stage.next,Stage.clocked]
    split
    · intro entry hentry
      rcases mem_append.mp hentry with hbefore | hnow
      · exact (hentries entry hbefore).imp_right .inl
      · rw [mem_singleton.mp hnow]
        exact .inr (.inr rfl)
    next hexpired =>
      intro now hentry
      rcases mem_append.mp hentry with hbefore | hnow
      · simpa using hentries _ hbefore
      · obtain rfl : now = timeOf system tick := by
          simpa [slot,machine,access,timeOf] using hnow
        exact (Nat.add_le_add_right hlast _).trans_lt (not_le.mp hexpired)
  | expired =>
    obtain rfl : op = .compareExchangeState .stateOpen .stateHalfOpen := hallowed
    intro now hentry
    rcases mem_append.mp hentry with hbefore | hexchange
    · exact hjudging now hbefore
    · simp at hexchange
  | succeeding _ | resetting | failing _ | tripping | stamping | stamped _ | cooling | finished =>
    contradiction

theorem Judging.run (hgood : Along (System.step slot) (Unhurried requests) system events)
    (hstamped : Stamped requests system past) (htime : time ∈ past) :
    let last := run (System.step slot) system events
    Follow requests last ∧ Judging time (last.trace index) (reached requests last index) := by
  have hperform : ∀ (system : SlotSystem Index) (actor : Index) (tick : Tick) (op : Op)
      (next : op.Answer → Access (Option Bool)) (past : List Nat), Follow requests system →
      system.processes actor = .call op next → Unhurried requests system (actor,tick) →
      Stamped requests system past ∧ time ∈ past ∧
        Judging time (system.trace index) (reached requests system index) →
      let last := system.perform slot tick actor op next
      Stamped requests last (past ++ openings system actor tick op) ∧
        time ∈ past ++ openings system actor tick op ∧
        Judging time (last.trace index) (reached requests last index) := by
    rintro system actor tick op next past hfollow hprocess hgood ⟨hstamped,htime,hjudging⟩
    refine ⟨Stamped.perform hfollow hprocess hgood hstamped,mem_append_left _ htime,?_⟩
    by_cases hself : index = actor
    · subst hself
      rw [reached_perform_self]
      exact Judging.perform hfollow hjudging hprocess hgood hstamped htime
    · rw [System.trace_perform_other _ _ _ _ _ hself,reached_perform_other hself]
      exact hjudging
  obtain ⟨hfollow,-,-,hjudging⟩ := chronicle_invariant slot_serves (fun _ _ => rfl) hperform hgood hfollow
    ⟨hstamped,htime,hjudging⟩
  exact ⟨hfollow,hjudging⟩

theorem Judging.answered {now : Nat} (hclock : ⟨.nowSecs,now⟩ ∈ system.trace index) (hcool : now ≤ time + resetTimeoutSecs) :
    (system.processes index).result = some (some true) ∧
      ∀ entry ∈ system.trace index, ∀ expected new, entry.1 ≠ .compareExchangeState expected new := by
  generalize hstage : reached requests system index = stage at hjudging
  cases stage with
  | asked request =>
    rw [hjudging.2] at hclock
    contradiction
  | querying => simpa using hjudging _ hclock
  | aged lastFail => simpa using hjudging.2 _ hclock
  | cooling =>
    constructor
    · cases hprocess : system.processes index with
      | call op next =>
        have hallowed := hfollow.allowed hprocess
        rw [hstage] at hallowed
        contradiction
      | done value =>
        have hanswered : Answered (reached requests system index) value :=
          Protocol.Following.settled hfollow (by rw [hprocess,Process.result])
        rw [Process.result,hanswered hstage]
    · intro entry hentry expected new hexchange
      have hread := hjudging entry hentry
      simp [hexchange] at hread
  | expired | finished => exact absurd hcool (not_le.mpr (hjudging now hclock))
  | succeeding _ | resetting | failing _ | tripping | stamping | stamped _ => contradiction

end

theorem received_stamped (requests : Index → Request) : Stamped requests (received requests) [] :=
  ⟨fun _ hnone => absurd hnone not_mem_nil,fun _ _ _ _ hnone => absurd hnone not_mem_nil,
    fun _ _ hnone => absurd hnone not_mem_nil⟩

theorem noted_openings {event : Index × Tick} (hbefore : system.world.memory.state ≠ .stateOpen)
    (hopened : (system.step slot event).world.memory.state = .stateOpen) :
    (system.step slot event).world.clock ∈ noted openings system event := by
  rcases System.step_cases slot system event with hsame | ⟨op,next,hprocess,-,hstep⟩
  · rw [hsame] at hopened
    exact absurd hopened hbefore
  · rw [hstep] at hopened ⊢
    unfold noted
    rw [hprocess,Process.pending_call]
    dsimp only
    rw [openings,if_pos ⟨hbefore,hopened⟩]
    exact mem_singleton_self _

/-- A query that comes after an opening keeps its cooldown. -/
theorem cooldown_honoured (requests : Index → Request) {before after : List (Index × Tick)} {opening : Index × Tick}
    {now : Nat} {query : Index}
    (hgood : Along (System.step slot) (Unhurried requests) (received requests) (before ++ opening :: after))
    (hbefore : (run (System.step slot) (received requests) before).world.memory.state ≠ .stateOpen)
    (hopened : (run (System.step slot) (received requests) (before ++ [opening])).world.memory.state = .stateOpen)
    (hquery : requests query = .isOpen)
    (hlater : (run (System.step slot) (received requests) (before ++ [opening])).trace query = [])
    (hclock : ⟨.nowSecs,now⟩ ∈
      (run (System.step slot) (received requests) (before ++ opening :: after)).trace query)
    (hcool : now ≤ (run (System.step slot) (received requests) (before ++ [opening])).world.clock + resetTimeoutSecs) :
    let system := run (System.step slot) (received requests) (before ++ opening :: after)
    (system.processes query).result = some (some true) ∧
      ∀ entry ∈ system.trace query, ∀ expected new, entry.1 ≠ .compareExchangeState expected new := by
  rw [along_append,along_cons] at hgood
  obtain ⟨hbeforeGood,hopeningGood,hafterGood⟩ := hgood
  simp only [run_append,run_cons,run_nil] at hopened hlater hclock hcool ⊢
  obtain ⟨hfollow,hstamped⟩ := Stamped.run hbeforeGood (received_follow requests) (received_stamped requests)
  generalize run (System.step slot) (received requests) before = system at *
  have hopeningAlong : Along (System.step slot) (Unhurried requests) system [opening] := ⟨hopeningGood,trivial⟩
  obtain ⟨hfollow,hstamped⟩ := hstamped.run hopeningAlong hfollow
  have htime := noted_openings hbefore hopened
  have hjudging : Judging (system.step slot opening).world.clock ((system.step slot opening).trace query)
      (reached requests (system.step slot opening) query) := by
    rw [reached,Protocol.stages,hlater]
    exact ⟨hquery,rfl⟩
  obtain ⟨hfollow,hjudging⟩ := Judging.run hfollow hjudging hafterGood hstamped
    (mem_append_right _ (mem_append_left _ htime))
  exact Judging.answered hfollow hjudging hclock hcool

end Calls

def unhurried {calls : Nat} (requests : Fin calls → Request) (system : SlotSystem (Fin calls))
    (event : Fin calls × Tick) : Bool :=
  match (system.processes event.1).pending with
  | none => true
  | some .loadLastFailureTime => decide (∀ other, (reached requests system other).owing = false)
  | some op =>
    openings system event.1 event.2 op = [] || decide (∀ other, (reached requests system other).owing = false)

theorem unhurried_of_check {requests : Fin calls → Request} (system : SlotSystem (Fin calls))
    (event : Fin calls × Tick)
    (hcheck : unhurried requests system event = true) : Unhurried requests system event := by
  unfold unhurried at hcheck
  unfold Unhurried
  split
  · trivial
  next hpending =>
    rw [hpending] at hcheck
    exact of_decide_eq_true hcheck
  next op hload hpending =>
    rw [hpending] at hcheck
    intro hopenings
    simpa [hopenings] using hcheck

/-- Ten seconds after the fiftieth failure has opened the slot and written the
time, a query still finds it open. -/
theorem cooldown_honoured_at_ten_seconds :
    let system := run (System.step slot) (received sampleRequests)
      (fiftyFailures ++ turn 49 :: [turn 49,turn 49,turn 50,turn 50,later 10 50])
    (system.processes 50).result = some (some true) ∧
      ∀ entry ∈ system.trace 50, ∀ expected new, entry.1 ≠ .compareExchangeState expected new :=
  have hclock : ⟨.nowSecs,10⟩ ∈ (run (System.step slot) (received sampleRequests)
      (fiftyFailures ++ turn 49 :: [turn 49,turn 49,turn 50,turn 50,later 10 50])).trace 50 := by decide +kernel
  cooldown_honoured sampleRequests (along_of_check unhurried_of_check (by decide +kernel)) (by decide +kernel)
    (by decide +kernel) rfl (by decide +kernel) hclock (by decide +kernel)

/-- The fiftieth failure opens the slot at second 100. A query that comes before
its time is written moves the slot on in the same second. -/
theorem query_before_the_time_ends_the_cooldown :
    let opened := run (System.step slot) (received sampleRequests) (fiftyFailures ++ [later 100 49])
    let system := run (System.step slot) opened [turn 50,turn 50,turn 50,turn 50]
    (run (System.step slot) (received sampleRequests) fiftyFailures).world.memory.state = .stateClosed ∧
      opened.world.memory.state = .stateOpen ∧ opened.world.clock = 100 ∧ opened.trace 50 = [] ∧
      system.world.clock = 100 ∧ system.world.memory.state = .stateHalfOpen ∧
      (system.processes 50).result = some (some false) := by
  decide +kernel

end Routiq.Edge.SlotRaces
