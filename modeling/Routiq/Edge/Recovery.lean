import Routiq.Edge.Access

/-! Recovery of the global circuit breaker. Workers share the breaker slots.
Only a query of a slot takes it from open to half-open, the gateway queries
slots after it has acquired a concurrency slot, and acquiring fails while the
global breaker is open: so an open global breaker stays open for good. -/
namespace Routiq.Edge.Recovery
open Core.Runs CircuitBreaker Pipeline Access

structure Fleet (Memory : Type) where
  shm : Shm
  workers : Nat → Worker Memory × OutBuffers

/-- Calls into the extension; `renew` is any change of a worker's private
state, by a reload, a sync, a slot release or a restart. -/
inductive Call (Memory : Type) where
  | processRequest (worker nowMs : Nat) (args : RequestArgs)
  | reportTelemetry (worker nowMs status latencyUs : Nat) (upstream : List UInt8)
  | renew (worker : Nat) (state : Worker Memory × OutBuffers)

section

variable {Memory : Type}

section
variable (fleet : Fleet Memory) (worker : Nat)

def Fleet.gateway : Gateway Memory :=
  ⟨(fleet.workers worker).1,fleet.shm,(fleet.workers worker).2⟩

def Fleet.put (gateway : Gateway Memory) : Fleet Memory :=
  ⟨gateway.shm,Function.update fleet.workers worker (gateway.worker,gateway.out)⟩

end

variable (env : GatewayEnv Memory)

section
variable (fleet : Fleet Memory)

def fleetStep : Call Memory → Fleet Memory
  | .processRequest worker nowMs args =>
      fleet.put worker (processRequest env nowMs args (fleet.gateway worker)).2
  | .reportTelemetry worker nowMs status latencyUs upstream =>
      fleet.put worker (reportTelemetry env nowMs status latencyUs upstream (fleet.gateway worker))
  | .renew worker state => { fleet with workers := Function.update fleet.workers worker state }

def Admitted : Call Memory → Prop
  | .processRequest worker _ _ =>
      (acquire (fleet.workers worker).1.config (globalState env.slotOf fleet.shm)
        (fleet.workers worker).1.inFlight).1 = true
  | _ => False

def Recovers : Prop :=
  ∃ calls call, Admitted env (run (fleetStep env) fleet calls) call

def GlobalOpen : Prop := globalState env.slotOf fleet.shm = .stateOpen

end

variable {env} {gateway : Gateway Memory}

theorem reportTelemetry_of_open (nowMs status latencyUs : Nat)
    (upstream : List UInt8) (hopen : globalState env.slotOf gateway.shm = .stateOpen) :
    globalState env.slotOf (reportTelemetry env nowMs status latencyUs upstream gateway).shm =
      .stateOpen := by
  have hmodify : ∀ name (f : UpstreamCB → UpstreamCB) (shm : Shm),
      (∀ cb, cb.state = .stateOpen → f cb = cb) → globalState env.slotOf shm = .stateOpen →
        globalState env.slotOf (modifyCb env.slotOf shm name f) = .stateOpen := by
    intro name f shm hfix hstate
    rw [globalState,globalCb_modify_of_open env.slotOf shm name hfix hstate]
    exact hstate
  have hsuccess := fun name shm =>
    hmodify name UpstreamCB.recordSuccess shm fun _ hcb => by simp [UpstreamCB.recordSuccess,hcb]
  have hfailure := fun name shm =>
    hmodify name (.recordFailure · (nowMs / 1000)) shm
      fun _ hcb => by simp [UpstreamCB.recordFailure,hcb]
  unfold reportTelemetry
  dsimp only
  split
  · split
    · exact hfailure globalName _ (hfailure _ _ hopen)
    · exact hsuccess globalName _ (hsuccess _ _ hopen)
  · split
    · exact hfailure globalName _ hopen
    · exact hsuccess globalName _ hopen

theorem globalOpen_step (fleet : Fleet Memory) (call : Call Memory) (hopen : GlobalOpen env fleet) :
    GlobalOpen env (fleetStep env fleet call) := by
  cases call with
  | processRequest worker nowMs args =>
    have hworker : globalState env.slotOf (fleet.gateway worker).shm = .stateOpen := hopen
    unfold fleetStep processRequest
    dsimp only
    rw [hworker,acquire_open]
    exact hopen
  | reportTelemetry worker nowMs status latencyUs upstream =>
    have hworker : globalState env.slotOf (fleet.gateway worker).shm = .stateOpen := hopen
    exact reportTelemetry_of_open nowMs status latencyUs upstream hworker
  | renew worker state => exact hopen

variable {fleet : Fleet Memory}

theorem not_admitted_of_open (hopen : GlobalOpen env fleet)
    (call : Call Memory) : ¬Admitted env fleet call := by
  intro hadmitted
  cases call with
  | processRequest worker nowMs args =>
    have hstate : globalState env.slotOf fleet.shm = .stateOpen := hopen
    change (acquire _ (globalState env.slotOf fleet.shm) _).1 = true at hadmitted
    rw [hstate,acquire_open] at hadmitted
    contradiction
  | reportTelemetry worker nowMs status latencyUs upstream | renew worker state => exact hadmitted

theorem globalOpen_run (hopen : GlobalOpen env fleet)
    (calls : List (Call Memory)) : GlobalOpen env (run (fleetStep env) fleet calls) :=
  invariant_run_always globalOpen_step calls hopen

/-- However long the cooldown has passed, an open global breaker never again
lets a request through. -/
theorem globalBreaker_never_recovers (fleet : Fleet Memory) (hopen : GlobalOpen env fleet) :
    ¬Recovers env fleet := by
  rintro ⟨calls,call, hadmitted⟩
  exact not_admitted_of_open (globalOpen_run hopen calls) call hadmitted

end

def freshFleet : Fleet Unit where
  shm := freshShm
  workers := fun _ => ((System.initial sampleGatewayConfig () freshShm 0).gateway.worker,OutBuffers.zeroed)

def fiftyErrors : List (Call Unit) := List.replicate 50 (.reportTelemetry 0 1000000 503 5000 [])

theorem globalCb_fiftyErrors :
    globalCb sampleSlotOf (run (fleetStep sampleGatewayEnv) freshFleet fiftyErrors).shm =
      ⟨.stateOpen,50,1000⟩ := by
  decide +kernel

theorem globalOpen_fiftyErrors :
    GlobalOpen sampleGatewayEnv (run (fleetStep sampleGatewayEnv) freshFleet fiftyErrors) :=
  congrArg UpstreamCB.state globalCb_fiftyErrors

theorem globalBreaker_never_recovers_fiftyErrors :
    GlobalOpen sampleGatewayEnv (run (fleetStep sampleGatewayEnv) freshFleet fiftyErrors) ∧
      ¬Recovers sampleGatewayEnv (run (fleetStep sampleGatewayEnv) freshFleet fiftyErrors) :=
  ⟨globalOpen_fiftyErrors,globalBreaker_never_recovers _ globalOpen_fiftyErrors⟩

/-- Fifty errors at second 1000 open the breaker; a day later, and whatever
was called in between, it still rejects every request. -/
theorem globalBreaker_wedged_after_fiftyErrors :
    GlobalOpen sampleGatewayEnv (run (fleetStep sampleGatewayEnv) freshFleet fiftyErrors) ∧
      (globalCb sampleSlotOf (run (fleetStep sampleGatewayEnv) freshFleet fiftyErrors).shm
        ).lastFailureTime + resetTimeoutSecs < 1000 + 86400 ∧
      ¬∃ calls call, Admitted sampleGatewayEnv
        (run (fleetStep sampleGatewayEnv) (run (fleetStep sampleGatewayEnv) freshFleet fiftyErrors)
          calls) call := by
  refine ⟨globalOpen_fiftyErrors,?_,?_⟩
  · rw [globalCb_fiftyErrors]
    decide
  · rintro ⟨calls,call, hadmitted⟩
    exact not_admitted_of_open (globalOpen_run globalOpen_fiftyErrors calls) call hadmitted

end Routiq.Edge.Recovery
