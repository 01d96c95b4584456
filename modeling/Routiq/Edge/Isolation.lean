import Routiq.Edge.Recovery
import Routiq.Edge.Selector

/-! What reports and probes of one upstream do to another. Breakers and health
records are slots of shared arrays, chosen by a hash of the address alone. -/
namespace Routiq.Edge.Isolation
open Core.CString Core.Runs CircuitBreaker Pipeline Access Selector Recovery Function Option

structure ProbedHealth extends UpstreamHealth where
  (consecFails consecOks : Nat)

def ProbedHealth.seed (health : ProbedHealth) : ProbedHealth :=
  { health with toUpstreamHealth := health.seeded }

/-- The verdict, if it flips, and the slot after one probe. -/
def applyProbe (nowMs : Nat) (ok : Bool) (unhealthyThreshold healthyThreshold : Nat) (health : ProbedHealth) :
    Option Bool × ProbedHealth :=
  let was := decide (health.healthy = 1)
  if ok then
    let counted := { health with lastCheckMs := nowMs, consecFails := 0, consecOks := health.consecOks + 1 }
    if !was && max healthyThreshold 1 ≤ counted.consecOks then (some true,{ counted with healthy := 1 })
    else (none,counted)
  else
    let counted := { health with lastCheckMs := nowMs, consecOks := 0, consecFails := health.consecFails + 1 }
    if was && max unhealthyThreshold 1 ≤ counted.consecFails then (some false,{ counted with healthy := 0 })
    else (none,counted)

structure Node (Memory : Type) where
  fleet : Fleet Memory
  health : Fin healthSlots → ProbedHealth

inductive Event where
  | report (worker nowMs status latencyUs : Nat) (upstream : List UInt8)
  | probe (nowMs : Nat) (address : String) (ok : Bool) (unhealthyThreshold healthyThreshold : Nat)
deriving DecidableEq

def Event.address : Event → String
  | .report _ _ _ _ upstream => decode upstream
  | .probe _ address _ _ _ => address

def Event.outcome : Event → Option (Nat × Bool)
  | .report _ nowMs status _ _ => some (nowMs / 1000,decide (500 ≤ status))
  | .probe .. => none

section
variable {Memory : Type} (env : GatewayEnv Memory) (fxHash : FxHash) (address : String)

section
variable (node : Node Memory)

def step : Event → Node Memory
  | .report worker nowMs status latencyUs upstream =>
      { node with fleet := fleetStep env node.fleet (.reportTelemetry worker nowMs status latencyUs upstream) }
  | .probe nowMs address ok unhealthyThreshold healthyThreshold =>
      let slot := healthSlot fxHash address
      let probed := applyProbe nowMs ok unhealthyThreshold healthyThreshold (node.health slot).seed
      { node with health := update node.health slot probed.2 }

def breakerOf : UpstreamCB := node.fleet.shm (env.slotOf address)

def verdictOf : Bool :=
  decide ((node.health (healthSlot fxHash address)).seed.healthy = 1)

end

/-- No other address gets into a slot of this one, and no upstream into the slot
of the reserved name. -/
def Clear : Event → Prop
  | .report _ _ _ _ upstream => decode upstream ≠ "" → env.slotOf (decode upstream) ≠ env.slotOf globalName ∧
        (decode upstream ≠ address → env.slotOf (decode upstream) ≠ env.slotOf address)
  | .probe _ probed _ _ _ => probed ≠ address → healthSlot fxHash probed ≠ healthSlot fxHash address

def record (cb : UpstreamCB) (outcome : Nat × Bool) : UpstreamCB :=
  if outcome.2 then cb.recordFailure outcome.1 else cb.recordSuccess

variable {env fxHash address}

theorem shm_report (fleet : Fleet Memory) (worker nowMs status latencyUs : Nat) (upstream : List UInt8) :
    let outcome := (nowMs / 1000,decide (500 ≤ status))
    (fleetStep env fleet (.reportTelemetry worker nowMs status latencyUs upstream)).shm =
      modifyCb env.slotOf (if decode upstream = "" then fleet.shm
        else modifyCb env.slotOf fleet.shm (decode upstream) (record · outcome)) globalName (record · outcome) := by
  simp only [fleetStep,Fleet.put,reportTelemetry,record]
  by_cases hnamed : decode upstream = "" <;> by_cases hfailed : 500 ≤ status <;>
    simp [hnamed,hfailed,recordFailure,recordSuccess,recordFailureFor,recordSuccessFor,Gateway.setMemory,
      Fleet.gateway]

theorem globalCb_step (event : Event) (hclear : Clear env fxHash address event) (node : Node Memory) :
    breakerOf env globalName (step env fxHash node event) =
      event.outcome.elim (breakerOf env globalName node) (record (breakerOf env globalName node)) := by
  cases event with
  | probe => rfl
  | report worker nowMs status latencyUs upstream =>
    simp only [breakerOf,step,shm_report,modifyCb,update_self,Event.outcome,elim_some]
    split
    · rfl
    next hnamed => rw [update_of_ne (hclear hnamed).1.symm]

variable (env fxHash address) in
def slotsOf (node : Node Memory) : UpstreamCB × ProbedHealth :=
  (breakerOf env address node,node.health (healthSlot fxHash address))

/-- What an event of the address itself does to its two slots. -/
def follow (slots : UpstreamCB × ProbedHealth) : Event → UpstreamCB × ProbedHealth
  | .report _ nowMs status _ upstream =>
      (if decode upstream = "" then slots.1 else record slots.1 (nowMs / 1000,decide (500 ≤ status)),slots.2)
  | .probe nowMs _ ok unhealthyThreshold healthyThreshold =>
      (slots.1,(applyProbe nowMs ok unhealthyThreshold healthyThreshold slots.2.seed).2)

theorem slotsOf_step (hslot : env.slotOf address ≠ env.slotOf globalName) (event : Event)
    (hclear : Clear env fxHash address event) (node : Node Memory) :
    slotsOf env fxHash address (step env fxHash node event) =
      (Option.guard (·.address = address) event).elim (slotsOf env fxHash address node)
        (follow (slotsOf env fxHash address node)) := by
  unfold Option.guard
  by_cases hsame : event.address = address
  · simp only [hsame,decide_true,if_true,elim_some]
    cases event with
    | report worker nowMs status latencyUs upstream =>
      simp only [slotsOf,breakerOf,step,shm_report,modifyCb,update_of_ne hslot,follow]
      obtain rfl : decode upstream = address := hsame
      split <;> simp
    | probe =>
      subst hsame
      simp [slotsOf,breakerOf,step,follow,Event.address]
  · simp only [hsame,decide_false,Bool.false_eq_true,if_false,elim_none]
    cases event with
    | report worker nowMs status latencyUs upstream =>
      simp only [slotsOf,breakerOf,step,shm_report,modifyCb,update_of_ne hslot]
      split
      · rfl
      next hnamed => rw [update_of_ne ((hclear hnamed).2 hsame).symm]
    | probe => simp [slotsOf,breakerOf,step,update_of_ne (hclear hsame).symm]

end

/-- Histories that agree on an address leave its breaker and its verdict alike,
and the global breaker goes by the outcomes alone, as long as no slot is shared. -/
theorem upstreams_isolated {Memory : Type} (env : GatewayEnv Memory) (fxHash : FxHash) (address : String)
    (node : Node Memory) {first second : List Event} (hslot : env.slotOf address ≠ env.slotOf globalName)
    (hclear : ∀ event ∈ first ++ second, Clear env fxHash address event) :
    let reached := run (step env fxHash) node
    (first.filter (·.address = address) = second.filter (·.address = address) →
      breakerOf env address (reached first) = breakerOf env address (reached second) ∧
        verdictOf fxHash address (reached first) = verdictOf fxHash address (reached second)) ∧
      (first.filterMap Event.outcome = second.filterMap Event.outcome →
        breakerOf env globalName (reached first) = breakerOf env globalName (reached second)) := by
  intro reached
  constructor
  · intro hagree
    rw [← List.filterMap_eq_filter] at hagree
    have hslots := view_run_congr (slotsOf_step hslot) hclear hagree node
    exact ⟨congrArg Prod.fst hslots,congrArg (fun slots : _ × ProbedHealth => decide (slots.2.seed.healthy = 1)) hslots⟩
  · intro hagree
    exact view_run_congr globalCb_step hclear hagree node

def freshNode : Node Unit := ⟨freshFleet,fun _ => ⟨⟨0,0⟩,0,0⟩⟩
def errorOf (address : String) : Event := .report 0 1000000 503 5000 (utf8 address)

theorem upstreams_isolated_sample : breakerOf sampleGatewayEnv "127.0.0.1:8080"
        (run (step sampleGatewayEnv String.length) freshNode [errorOf "127.0.0.1:9090"]) =
      breakerOf sampleGatewayEnv "127.0.0.1:8080" (run (step sampleGatewayEnv String.length) freshNode []) := by
  refine ((upstreams_isolated sampleGatewayEnv String.length _ freshNode (by decide) ?_).1 (by decide +kernel)).1
  simp only [List.append_nil,List.forall_mem_singleton,errorOf,Clear]
  decide +kernel

/-- The addresses below have the same slot. -/
def sharedEnv : GatewayEnv Unit := { sampleGatewayEnv with
    slotOf := fun name => sampleSlotOf (if name = globalName then globalName else "127.0.0.1:8080") }

theorem errors_open_other_breaker :
    let reached := run (step sharedEnv String.length) freshNode
    breakerOf sharedEnv "127.0.0.1:8080" (reached (List.replicate 50 (errorOf "127.0.0.1:2456"))) =
        ⟨.stateOpen,50,1000⟩ ∧
      breakerOf sharedEnv "127.0.0.1:8080" (reached []) = .zeroed := by
  decide +kernel

end Routiq.Edge.Isolation
