import Routiq.Edge.Access
import Mathlib.Data.List.Count

/-! Backpressure slots over whole runs of a worker. Rejected requests give
their slot back inside `process_request`. An admitted request relies on its
context to have it released by the log phase, and the context is gone after
the jump to the proxy location; so each such log phase loses one slot. -/
namespace Routiq.Edge.Slots
open Core.Runs Config CircuitBreaker List Pipeline Access

def outstanding (live : List (Nat × Exchange)) : Nat := live.countP fun entry => entry.2.code = some 200

section

variable {Memory : Type}

def Conserved (initial : Int) (system : System Memory) : Prop :=
  system.gateway.worker.inFlight = initial + outstanding system.live

section
variable (system : System Memory)

def logsAdmitted : Event Memory → Bool
  | .log id _ _ _ =>
      match exchangeOf system.live id with
      | some exchange => exchange.code = some 200
      | none => false
  | _ => false

def NoAdmittedLog (event : Event Memory) : Prop := logsAdmitted system event = false

/-- The ids of live requests differ, and no context carries the flag. -/
structure WellFormed : Prop where
  distinct : (system.live.map Prod.fst).Nodup
  unflagged : ∀ entry ∈ system.live, entry.2.ctx.admitted = false

end

variable {live : List (Nat × Exchange)} {id : Nat} {exchange : Exchange}

theorem exchangeOf_eq_some (hfound : exchangeOf live id = some exchange) : (id,exchange) ∈ live := by
  obtain ⟨entry,hentry,hexchange⟩ := Option.map_eq_some_iff.mp hfound
  have hid : entry.1 = id := by simpa using find?_some hentry
  rw [← hid,← hexchange]
  exact mem_of_find?_eq_some hentry

theorem exchangeOf_eq_none (hnone : exchangeOf live id = none) : id ∉ live.map Prod.fst := by
  intro hmem
  obtain ⟨entry,hentry,hid⟩ := mem_map.mp hmem
  have habsent := find?_eq_none.mp (Option.map_eq_none_iff.mp hnone) entry hentry
  simp [hid] at habsent

theorem outstanding_remove (hdistinct : (live.map Prod.fst).Nodup) (hmem : (id,exchange) ∈ live) :
    outstanding live = outstanding (live.filter fun entry => entry.1 ≠ id) +
      if exchange.code = some 200 then 1 else 0 := by
  induction live with
  | nil => simp at hmem
  | cons entry live ih =>
    simp only [map_cons,nodup_cons] at hdistinct
    rcases mem_cons.mp hmem with heq | htail
    · subst heq
      have hrest : live.filter (fun entry => entry.1 ≠ id) = live := by
        apply filter_eq_self.mpr
        intro other hother
        have hne : other.1 ≠ id := fun hsame =>
          hdistinct.1 (mem_map.mpr ⟨other,hother,hsame⟩)
        simpa using hne
      unfold outstanding
      rw [filter_cons_of_neg (by simp),hrest,countP_cons]
      simp
    · have hne : entry.1 ≠ id := fun hsame =>
        hdistinct.1 (mem_map.mpr ⟨_,htail,hsame.symm⟩)
      have hlive := ih hdistinct.2 htail
      unfold outstanding at hlive ⊢
      rw [filter_cons_of_pos (by simpa using hne),countP_cons,countP_cons,hlive]
      omega

variable (env : GatewayEnv Memory)

theorem unflagged_access (nowMs : Nat) (request : ClientRequest) (gateway : Gateway Memory) :
    (access env nowMs request gateway).1.ctx.admitted = false := by
  have haccessed := access_accessed env nowMs request gateway
  generalize access env nowMs request gateway = served at haccessed
  cases haccessed with
  | turnedAway exchange after hlocation hcode hcontext hafter => exact hcontext
  | forwarded exchange after tier hlocation hcode hcontext huser hhome hafter =>
    change exchange.ctx.admitted = false
    rw [hcontext]
    rfl

variable {system : System Memory}

theorem wellFormed_step (event : Event Memory) (hformed : WellFormed system) :
    WellFormed (systemStep env system event) := by
  cases event with
  | access id nowMs request =>
    cases hfound : exchangeOf system.live id with
    | some exchange =>
      rw [systemStep_access_of_live hfound]
      exact hformed
    | none =>
      rw [systemStep_access hfound]
      constructor
      · rw [map_cons,nodup_cons]
        exact ⟨exchangeOf_eq_none hfound,hformed.distinct⟩
      · intro entry hentry
        rcases mem_cons.mp hentry with heq | hold
        · rw [heq]
          exact unflagged_access env nowMs request system.gateway
        · exact hformed.unflagged entry hold
  | log id nowMs status latencyUs =>
    cases hfound : exchangeOf system.live id with
    | none =>
      rw [systemStep_log_of_gone hfound]
      exact hformed
    | some exchange =>
      rw [systemStep_log hfound]
      exact ⟨hformed.distinct.sublist (filter_sublist.map Prod.fst),
        fun entry hentry => hformed.unflagged entry (mem_filter.mp hentry).1⟩
  | reload config | publish snapshot | background memory shm =>
    exact ⟨hformed.distinct,hformed.unflagged⟩

def surplus (system : System Memory) : Int := system.gateway.worker.inFlight - outstanding system.live

theorem inFlight_access (nowMs : Nat) (request : ClientRequest) (gateway : Gateway Memory) :
    (access env nowMs request gateway).2.worker.inFlight = gateway.worker.inFlight +
      if (access env nowMs request gateway).1.code = some 200 then 1 else 0 := by
  have haccessed := access_accessed env nowMs request gateway
  generalize access env nowMs request gateway = served at haccessed
  cases haccessed with
  | turnedAway exchange after hlocation hcode hcontext hafter =>
    rw [if_neg hcode,Int.add_zero]
    rcases hafter with hsame | hcached
    · exact congrArg Footprint.inFlight hsame
    · exact congrArg Footprint.inFlight hcached
  | forwarded exchange after tier hlocation hcode hcontext huser hhome hafter =>
    rw [if_pos hcode]
    exact congrArg Footprint.inFlight hafter

theorem inFlight_log (hunflagged : exchange.ctx.admitted = false) (nowMs status latencyUs : Nat)
    (gateway : Gateway Memory) :
    (Access.log env nowMs status latencyUs exchange gateway).worker.inFlight = gateway.worker.inFlight := by
  have hlogged := footprint_log env nowMs status latencyUs exchange gateway
  rw [hunflagged] at hlogged
  exact congrArg Footprint.inFlight hlogged

/-- The step lemma: only the log phase of an admitted request moves the
surplus, and it adds one slot that nobody will release. -/
theorem surplus_step (event : Event Memory) (hformed : WellFormed system) :
    surplus (systemStep env system event) = surplus system + if logsAdmitted system event then 1 else 0 := by
  cases event with
  | access id nowMs request =>
    cases hfound : exchangeOf system.live id with
    | some exchange =>
      rw [systemStep_access_of_live hfound]
      simp [logsAdmitted]
    | none =>
      have hslots := inFlight_access env nowMs request system.gateway
      rw [systemStep_access hfound]
      simp only [surplus,outstanding,countP_cons,hslots,logsAdmitted,decide_eq_true_eq,
        Bool.false_eq_true,↓reduceIte]
      split <;> omega
  | log id nowMs status latencyUs =>
    cases hfound : exchangeOf system.live id with
    | none =>
      rw [systemStep_log_of_gone hfound]
      simp [logsAdmitted,hfound]
    | some exchange =>
      have hmem := exchangeOf_eq_some hfound
      have hslots := inFlight_log env (hformed.unflagged _ hmem) nowMs status latencyUs system.gateway
      have hcount := outstanding_remove hformed.distinct hmem
      rw [systemStep_log hfound]
      simp only [surplus,hslots,hcount,logsAdmitted,hfound,decide_eq_true_eq]
      split <;> omega
  | reload config | publish snapshot => simp [surplus,systemStep,logsAdmitted]
  | background memory shm => simp [surplus,systemStep,logsAdmitted,Gateway.setMemory]

def leaks : System Memory → List (Event Memory) → Nat
  | _, [] => 0
  | system, event :: events =>
      (if logsAdmitted system event then 1 else 0) + leaks (systemStep env system event) events

/-- The run lemma: the counter is exactly the initial value, the requests
being served and the slots lost so far. -/
theorem surplus_run (events : List (Event Memory)) (hformed : WellFormed system) :
    surplus (run (systemStep env) system events) = surplus system + leaks env system events := by
  induction events generalizing system with
  | nil => simp [leaks]
  | cons event events ih =>
    rw [run_cons,ih (wellFormed_step env event hformed),surplus_step env event hformed,leaks]
    push_cast
    split <;> omega

theorem leaks_eq_zero_iff (system : System Memory) (events : List (Event Memory)) :
    leaks env system events = 0 ↔ Along (systemStep env) NoAdmittedLog system events := by
  induction events generalizing system with
  | nil => simp [leaks]
  | cons event events ih =>
    rw [leaks,along_cons,← ih]
    unfold NoAdmittedLog
    cases logsAdmitted system event <;> simp

theorem conserved_run_iff (config : GatewayConfig) (memory : Memory) (shm : Shm) (inFlight : Int)
    (events : List (Event Memory)) :
    Conserved inFlight (run (systemStep env) (.initial config memory shm inFlight) events) ↔
      leaks env (.initial config memory shm inFlight) events = 0 := by
  have hrun := surplus_run env events
    (show WellFormed (.initial config memory shm inFlight) from ⟨nodup_nil,by simp [System.initial]⟩)
  have hstart : surplus (System.initial config memory shm inFlight) = inFlight := by
    simp [surplus,System.initial,outstanding]
  rw [hstart] at hrun
  unfold surplus at hrun
  unfold Conserved
  omega

/-- Conservation holds throughout a run exactly when the run has no log phase
of an admitted request. -/
theorem slots_conserved_iff_noAdmittedLog (config : GatewayConfig) (memory : Memory) (shm : Shm)
    (inFlight : Int) (events : List (Event Memory)) :
    (∀ before after, events = before ++ after →
      Conserved inFlight (run (systemStep env) (.initial config memory shm inFlight) before)) ↔
      Along (systemStep env) NoAdmittedLog (.initial config memory shm inFlight) events := by
  constructor
  · intro hconserved
    have hend := hconserved events [] (append_nil events).symm
    rw [conserved_run_iff] at hend
    exact (leaks_eq_zero_iff env _ events).mp hend
  · intro hnone before after hsplit
    rw [hsplit,along_append] at hnone
    rw [conserved_run_iff]
    exact (leaks_eq_zero_iff env _ before).mpr hnone.1

end

def oneRequestRun : List (Event Unit) := [.access 1 1000000 (sampleRequest none),.log 1 1000100 200 100000]

/-- After its only request has finished, the worker still counts one in flight. -/
theorem slot_lost_after_log :
    (run (systemStep sampleGatewayEnv) (.initial sampleGatewayConfig () freshShm 0) oneRequestRun).live = [] ∧
      (run (systemStep sampleGatewayEnv) (.initial sampleGatewayConfig () freshShm 0)
        oneRequestRun).gateway.worker.inFlight = 1 ∧
      ¬Conserved 0 (run (systemStep sampleGatewayEnv)
        (.initial sampleGatewayConfig () freshShm 0) oneRequestRun) := by
  unfold Conserved
  decide +kernel

end Routiq.Edge.Slots
