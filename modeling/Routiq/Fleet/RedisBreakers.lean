import Routiq.Edge.RedisBreaker
import Routiq.Uam.RedisBreaker

/-! The gateway's and the backend's Redis breakers side by side: the same calls
at the same times, under one configuration. Below 2^32 seconds and 2^32
failures in a row they are one machine. -/
namespace Routiq.Fleet.RedisBreakers
open Core Runs Breaker RollingWindow Nat Edge.RedisBreaker Uam
open Uam.RedisBreaker (CircuitBreakerConfig Random clampConfig jitterMs nowSecs)

/-! ## One configuration, one kind of calls -/

def backendConfig (config : CbConfig) (operationTimeoutMs : Nat) : CircuitBreakerConfig where
  windowSecs := config.windowSecs
  minSamples := config.minSamples
  consecutiveFailOpen := config.consecutiveFailOpen
  consecutiveTimeoutOpen := config.consecutiveToOpen
  errorRateOpen := config.errorRateOpen
  timeoutRateOpen := config.timeoutRateOpen
  p99UsOpen := config.p99UsOpen
  p99UsRecovery := config.p99UsRecovery
  errorRateRecovery := config.errorRateRecovery
  openCooldownMs := config.openCooldownMs
  cooldownJitterMs := config.cooldownJitterMs
  halfOpenProbes := config.halfOpenProbes
  recoverySuccesses := config.recoverySuccesses
  maxInflight := config.maxInflight
  halfOpenMaxMs := config.halfOpenMaxMs
  operationTimeoutMs := operationTimeoutMs

theorem min_max_of_range {Value : Type} [LinearOrder Value] {least greatest value : Value}
    (hrange : least ≤ value ∧ value ≤ greatest) : min greatest (max least value) = value := by
  rw [max_eq_right hrange.1,min_eq_right hrange.2]

section
variable (config : ClampedConfig) (operationTimeoutMs : Nat)

theorem clampConfig_backendConfig : clampConfig (backendConfig config.toCbConfig operationTimeoutMs) =
      backendConfig config.toCbConfig (min 60000 (max 100 operationTimeoutMs)) := by
  have hprobes : ¬config.halfOpenProbes < config.recoverySuccesses := not_lt.mpr config.recoverySuccesses_le
  simp only [clampConfig,backendConfig,min_max_of_range config.windowSecs_range,
    min_max_of_range config.minSamples_range,min_max_of_range config.consecutiveFailOpen_range,
    min_max_of_range config.consecutiveToOpen_range,min_max_of_range config.errorRateOpen_range,
    min_max_of_range config.timeoutRateOpen_range,min_max_of_range config.p99UsOpen_range,
    min_max_of_range config.p99UsRecovery_range,min_max_of_range config.errorRateRecovery_range,
    min_max_of_range config.openCooldownMs_range,
    min_max_of_range (⟨zero_le _,config.cooldownJitterMs_le⟩ : 0 ≤ _ ∧ _),
    min_max_of_range config.halfOpenProbes_range,min_max_of_range config.recoverySuccesses_range,
    min_max_of_range config.maxInflight_range,min_max_of_range config.halfOpenMaxMs_range,
    if_neg hprobes]

def backendOutcome : RedisCallOutcome → RedisBreaker.RedisCallOutcome
  | .success => .success
  | .redisError => .redisError
  | .timeout => .timeout
  | .circuitOpen => .circuitOpen
  | .concurrencyRejected => .concurrencyRejected

def backendAnswer : Except RedisCallOutcome Unit → Option RedisBreaker.RedisCallOutcome
  | .ok () => none
  | .error outcome => some (backendOutcome outcome)

/-! ## Equal windows -/

theorem length_takeWhile_eq_findIdx (bounds : List Nat) (latencyUs : Nat) :
    (bounds.takeWhile fun bound => bound < latencyUs).length =
      bounds.findIdx fun bound => latencyUs ≤ bound := by
  induction bounds with
  | nil => rfl
  | cons bound bounds ih =>
    rw [List.findIdx_cons,List.takeWhile_cons]
    by_cases hslower : bound < latencyUs
    · have hnot : ¬latencyUs ≤ bound := not_le.mpr hslower
      simp [hslower,hnot,ih]
    · have hreached : latencyUs ≤ bound := not_lt.mp hslower
      simp [hslower,hreached]

theorem bandOf_eq (latencyUs : Nat) : bandOf latencyUs = RedisBreaker.bandOf latencyUs := by
  apply Fin.ext
  exact length_takeWhile_eq_findIdx _ latencyUs

section
variable {nowMs : Nat} (hfits : nowMs / 1000 < 2^32)
include hfits

theorem currentTs_eq : currentTs nowMs = nowSecs nowMs := by
  exact mod_eq_of_lt hfits

theorem record_eq (outcome : RedisCallOutcome) (latencyUs : Nat) (window : Window 18) :
    record nowMs outcome latencyUs window =
      RedisBreaker.record nowMs (backendOutcome outcome) latencyUs window := by
  unfold record RedisBreaker.record
  rw [currentTs_eq hfits,bandOf_eq]
  cases outcome <;> rfl

theorem aggregate_eq (windowSecs : Nat) (window : Window 18) :
    aggregate nowMs windowSecs window = RedisBreaker.aggregate nowMs windowSecs window := by
  unfold aggregate RedisBreaker.aggregate
  unfold isFresh RedisBreaker.isFresh
  rw [currentTs_eq hfits]
  congr 1
  funext ts
  have hcutoff : ts < nowSecs nowMs - windowSecs ↔
      (ts : Int) < (nowSecs nowMs : Int) - windowSecs := by omega
  simp only [hcutoff]

end

theorem percentileUs_eq (stats : Tally 18) (pct : ℚ) :
    percentileUs stats pct = RedisBreaker.percentileUs stats pct ∨ (percentileUs stats pct = 2^64 - 1 ∧
        RedisBreaker.percentileUs stats pct = 2^53 - 1) := by
  have hupper : ∀ band : Fin 18, bands.upper band = RedisBreaker.bands.upper band ∨
        (bands.upper band = 2^64 - 1 ∧ RedisBreaker.bands.upper band = 2^53 - 1) := by
    decide
  exact percentile_eq_or_top hupper stats pct

theorem degraded_eq (stats : Tally 18) : degraded config.toCbConfig stats =
      RedisBreaker.degraded (backendConfig config.toCbConfig operationTimeoutMs) stats := by
  have hp99 : config.p99UsOpen ≤ percentileUs stats 99 ↔
      config.p99UsOpen ≤ RedisBreaker.percentileUs stats 99 := by
    have hrange := config.p99UsOpen_range
    rcases percentileUs_eq stats 99 with heq | ⟨hedge,huam⟩
    · rw [heq]
    · rw [hedge,huam]
      omega
  unfold degraded RedisBreaker.degraded
  simp only [backendConfig,hp99]
  rfl

theorem recovered_iff (config : ClampedConfig) (stats : Tally 18) :
    (percentileUs stats 99 : ℚ) ≤ config.p99UsRecovery ↔
      (RedisBreaker.percentileUs stats 99 : ℚ) ≤ config.p99UsRecovery := by
  rcases percentileUs_eq stats 99 with heq | ⟨hedge,huam⟩
  · rw [heq]
  · rw [hedge,huam]
    have hrange := config.p99UsRecovery_range.2
    constructor
    · intro hbelow
      norm_num at hbelow
      linarith
    · intro hbelow
      norm_num at hbelow
      linarith

/-! ## Equal calls -/

def backend (cb : CircuitBreaker) : RedisBreaker.CircuitBreaker where
  state := cb.state
  openedAtMs := cb.openedAtMs
  cooldownMs := cb.cooldownMs
  consecutiveFail := cb.consecutiveFail.toNat
  consecutiveTimeout := cb.consecutiveTimeout.toNat
  probesDispatched := cb.probesDispatched.toNat
  halfOpenSuccesses := cb.halfOpenSuccesses.toNat
  halfOpenStartedAtMs := cb.halfOpenStartedAtMs
  inflight := cb.inflight.toNat
  window := cb.window

theorem backend_new :
    backend (.new config.toCbConfig) = .new (backendConfig config.toCbConfig operationTimeoutMs) := by
  have hsize : clamp 1 maxWindowBuckets config.windowSecs = min RedisBreaker.maxWindowBuckets
        (max 1 (clampConfig (backendConfig config.toCbConfig operationTimeoutMs)).windowSecs) := by
    rw [clampConfig_backendConfig]
    simp only [backendConfig,clamp,maxWindowBuckets,RedisBreaker.maxWindowBuckets]
    omega
  have hwindow : (backend (.new config.toCbConfig)).window =
      (RedisBreaker.CircuitBreaker.new (backendConfig config.toCbConfig operationTimeoutMs)).window :=
    Window.fresh_congr hsize _ _
  exact congrArg (fun window => { RedisBreaker.CircuitBreaker.new
    (backendConfig config.toCbConfig operationTimeoutMs) with window := window }) hwindow

end

variable {outcome : RedisCallOutcome}

section Calls
variable {config : ClampedConfig} (operationTimeoutMs : Nat) {processId nowMs : Nat} {random : Random}
  {cb : CircuitBreaker}

def EqualJitter (config : CbConfig) (processId nowMs : Nat) (random : Random) : Prop :=
  jitterMs (backendConfig config 0) random = jitter config processId nowMs

section
variable (hjitter : EqualJitter config.toCbConfig processId nowMs random)
include hjitter

theorem tripOpen_backend (cb : CircuitBreaker) :
    RedisBreaker.tripOpen (backendConfig config.toCbConfig operationTimeoutMs) random nowMs (backend cb) =
      backend (tripOpen config.toCbConfig processId nowMs cb) := by
  have hcooldown : config.openCooldownMs +
      jitterMs (backendConfig config.toCbConfig operationTimeoutMs) random =
        jitteredCooldown config.toCbConfig processId nowMs := congrArg (_ + ·) hjitter
  have hstate : (backend cb).state = cb.state := rfl
  unfold RedisBreaker.tripOpen tripOpen
  rw [hstate]
  by_cases hopened : cb.state = .opened
  · rw [if_neg (not_not.mpr hopened),if_pos hopened]
  · rw [if_pos hopened,if_neg hopened]
    simp only [backend,backendConfig] at hcooldown ⊢
    rw [hcooldown]

theorem acquireHalfOpen_backend (hstate : cb.state = .halfOpen) (hinflight : 0 ≤ cb.inflight)
    (hdispatched : cb.probesDispatched.toNat + 1 < 2^32) (hstarted : cb.halfOpenStartedAtMs ≤ nowMs) :
    RedisBreaker.acquireHalfOpen (backendConfig config.toCbConfig operationTimeoutMs) random nowMs (backend cb) =
      (backendAnswer (acquireHalfOpen config.toCbConfig processId nowMs cb).1,
        backend (acquireHalfOpen config.toCbConfig processId nowMs cb).2) := by
  have htrip := tripOpen_backend operationTimeoutMs hjitter cb
  have hstate' : (backend cb).state = .halfOpen := hstate
  rw [acquireHalfOpen_eq hstate]
  unfold RedisBreaker.acquireHalfOpen
  rw [if_pos hstate',htrip]
  by_cases hdue : config.halfOpenMaxMs ≤ nowMs - cb.halfOpenStartedAtMs
  · have hdue' : (config.halfOpenMaxMs : Int) ≤ (nowMs : Int) - cb.halfOpenStartedAtMs := by omega
    simp only [backend,backendConfig,hdue,hdue',if_true,backendAnswer,backendOutcome]
  · have hdue' : ¬(config.halfOpenMaxMs : Int) ≤ (nowMs : Int) - cb.halfOpenStartedAtMs := by omega
    by_cases hbusy : config.halfOpenProbes ≤ cb.probesDispatched.toNat
    · simp only [backend,backendConfig,hdue,hdue',hbusy,if_true,if_false,backendAnswer,backendOutcome]
    · by_cases hfull : (config.halfOpenProbes : Int) ≤ cb.inflight
      · have hfull' : config.halfOpenProbes ≤ cb.inflight.toNat := by omega
        simp only [backend,backendConfig,hdue,hdue',hbusy,hfull,hfull',if_true,if_false,backendAnswer,
          backendOutcome]
      · have hfull' : ¬config.halfOpenProbes ≤ cb.inflight.toNat := by omega
        have hgauge : (cb.inflight + 1).toNat = cb.inflight.toNat + 1 := by omega
        have hcount : (cb.probesDispatched + 1).toNat = cb.probesDispatched.toNat + 1 := by
          rw [UInt32.toNat_add]
          exact mod_eq_of_lt hdispatched
        simp only [backend,backendConfig,hdue,hdue',hbusy,hfull,hfull',hgauge,hcount,if_false,
          backendAnswer]

theorem acquire_backend (hinflight : 0 ≤ cb.inflight)
    (hsane : Sane (limits config.toCbConfig) nowMs (view cb)) :
    RedisBreaker.acquire (backendConfig config.toCbConfig operationTimeoutMs) random nowMs (backend cb) =
      (backendAnswer (acquire config.toCbConfig processId nowMs cb).1,
        backend (acquire config.toCbConfig processId nowMs cb).2) := by
  cases hstate : cb.state with
  | closed =>
    have hstate' : (backend cb).state = .closed := hstate
    rw [acquire_closed hstate]
    simp only [RedisBreaker.acquire,hstate']
    by_cases hfull : (config.maxInflight : Int) ≤ cb.inflight
    · have hfull' : config.maxInflight ≤ cb.inflight.toNat := by omega
      rw [if_pos hfull]
      simp only [backend,backendConfig,hfull',if_true,backendAnswer,backendOutcome]
    · have hfull' : ¬config.maxInflight ≤ cb.inflight.toNat := by omega
      have hgauge : (cb.inflight + 1).toNat = cb.inflight.toNat + 1 := by omega
      rw [if_neg hfull]
      simp only [backend,backendConfig,hfull',if_false,backendAnswer,hgauge,hstate]
  | opened =>
    have hstate' : (backend cb).state = .opened := hstate
    have hpast : cb.openedAtMs ≤ nowMs := hsane.opened_le hstate
    rw [acquire_opened hstate]
    simp only [RedisBreaker.acquire,hstate']
    by_cases helapsed : cb.cooldownMs ≤ nowMs - cb.openedAtMs
    · have helapsed' : ((backend cb).cooldownMs : Int) ≤ (nowMs : Int) - (backend cb).openedAtMs := by
        simp only [backend]
        omega
      rw [if_pos helapsed,if_pos helapsed']
      have hentered : (enterHalfOpen nowMs cb).state = .halfOpen := rfl
      exact acquireHalfOpen_backend operationTimeoutMs hjitter hentered hinflight
        (show (0 : UInt32).toNat + 1 < 2^32 by decide) (le_refl nowMs)
    · have helapsed' : ¬((backend cb).cooldownMs : Int) ≤ (nowMs : Int) - (backend cb).openedAtMs := by
        simp only [backend]
        omega
      rw [if_neg helapsed,if_neg helapsed']
      rfl
  | halfOpen =>
    have hstate' : (backend cb).state = .halfOpen := hstate
    have hdispatched : cb.probesDispatched.toNat ≤ config.halfOpenProbes := hsane.dispatched_le hstate
    have hprobes := config.halfOpenProbes_range
    rw [acquire_halfOpen hstate]
    simp only [RedisBreaker.acquire,hstate']
    exact acquireHalfOpen_backend operationTimeoutMs hjitter hstate hinflight (by omega) (hsane.started_le hstate)

variable (hclock : nowMs / 1000 < 2^32)
include hclock

theorem checkStatisticalOpen_backend (cb : CircuitBreaker) :
    RedisBreaker.checkStatisticalOpen (backendConfig config.toCbConfig operationTimeoutMs) random nowMs
        (backend cb) = backend (checkStatisticalOpen config.toCbConfig processId nowMs cb) := by
  have htrip := tripOpen_backend operationTimeoutMs hjitter cb
  have hstats : RedisBreaker.aggregate nowMs config.windowSecs (backend cb).window =
      aggregate nowMs config.windowSecs cb.window := (aggregate_eq hclock _ _).symm
  have hdegraded := degraded_eq config operationTimeoutMs
    (aggregate nowMs config.windowSecs cb.window)
  have hwindow : (backendConfig config.toCbConfig operationTimeoutMs).windowSecs = config.windowSecs := rfl
  unfold RedisBreaker.checkStatisticalOpen checkStatisticalOpen
  dsimp only
  rw [hwindow,hstats,← hdegraded,htrip,apply_ite backend,apply_ite backend]
  rfl

theorem releaseSuccess_backend (hsuccesses : cb.state = .halfOpen → cb.halfOpenSuccesses.toNat + 1 < 2^32) :
    RedisBreaker.releaseSuccess (backendConfig config.toCbConfig operationTimeoutMs) random nowMs (backend cb) =
      backend (releaseSuccess config.toCbConfig processId nowMs cb) := by
  unfold RedisBreaker.releaseSuccess releaseSuccess
  by_cases hhalf : cb.state = .halfOpen
  · have hcount : (cb.halfOpenSuccesses + 1).toNat = cb.halfOpenSuccesses.toNat + 1 := by
      rw [UInt32.toNat_add]
      exact mod_eq_of_lt (hsuccesses hhalf)
    have hstats := aggregate_eq hclock config.windowSecs cb.window
    have hrecovered := recovered_iff config (aggregate nowMs config.windowSecs cb.window)
    have hrate : ∀ stats, RedisBreaker.errorRate stats = errorRate stats := fun _ => rfl
    simp only [backend,backendConfig,hhalf,if_true,← hstats,hrate,hcount,hrecovered]
    by_cases henough : config.recoverySuccesses ≤ cb.halfOpenSuccesses.toNat + 1
    · simp only [henough,if_true,true_and]
      split
      · simp only [hcount]
        rfl
      · simp only [hcount]
        rfl
    · simp only [henough,if_false,false_and,hcount]
      rfl
  · have hjudged := checkStatisticalOpen_backend operationTimeoutMs hjitter hclock
      { cb with consecutiveFail := 0, consecutiveTimeout := 0 }
    have hhalf' : (backend cb).state ≠ .halfOpen := hhalf
    dsimp only
    rw [if_neg hhalf,if_neg hhalf']
    exact hjudged

theorem releaseTimeout_backend (hfails : cb.consecutiveFail.toNat + 1 < 2^32)
    (htimeouts : cb.consecutiveTimeout.toNat + 1 < 2^32) :
    RedisBreaker.releaseTimeout (backendConfig config.toCbConfig operationTimeoutMs) random nowMs (backend cb) =
      backend (releaseTimeout config.toCbConfig processId nowMs cb) := by
  have hcounted : backend { cb with
      consecutiveFail := cb.consecutiveFail + 1, consecutiveTimeout := cb.consecutiveTimeout + 1 } =
      { backend cb with
        consecutiveFail := (backend cb).consecutiveFail + 1
        consecutiveTimeout := (backend cb).consecutiveTimeout + 1 } := by
    simp only [backend,UInt32.toNat_add]
    congr 1
    · exact mod_eq_of_lt hfails
    · exact mod_eq_of_lt htimeouts
  have htrip := tripOpen_backend operationTimeoutMs hjitter
  have hjudged := checkStatisticalOpen_backend operationTimeoutMs hjitter hclock
  unfold RedisBreaker.releaseTimeout releaseTimeout
  rw [← hcounted]
  dsimp only
  rw [htrip,hjudged,apply_ite backend,apply_ite backend]
  rfl

theorem releaseError_backend (hfails : cb.consecutiveFail.toNat + 1 < 2^32) :
    RedisBreaker.releaseError (backendConfig config.toCbConfig operationTimeoutMs) random nowMs (backend cb) =
      backend (releaseError config.toCbConfig processId nowMs cb) := by
  have hcounted : backend { cb with consecutiveFail := cb.consecutiveFail + 1 } =
      { backend cb with consecutiveFail := (backend cb).consecutiveFail + 1 } := by
    simp only [backend,UInt32.toNat_add]
    congr 1
    exact mod_eq_of_lt hfails
  have htrip := tripOpen_backend operationTimeoutMs hjitter
  have hjudged := checkStatisticalOpen_backend operationTimeoutMs hjitter hclock
  unfold RedisBreaker.releaseError releaseError
  rw [← hcounted]
  dsimp only
  rw [htrip,hjudged,apply_ite backend,apply_ite backend]
  rfl

end

/-- What the gateway's 32 bits can hold at the release of an operation: the
second, and the failures in a row. -/
structure Fits (nowMs : Nat) (cb : CircuitBreaker)
    (outcome : RedisCallOutcome) : Prop where
  clock : nowMs / 1000 < 2^32
  fails : outcome = .redisError ∨ outcome = .timeout → cb.consecutiveFail.toNat + 1 < 2^32
  timeouts : outcome = .timeout → cb.consecutiveTimeout.toNat + 1 < 2^32

theorem release_backend (hjitter : EqualJitter config.toCbConfig processId nowMs random) (hfits : Fits nowMs cb outcome)
    (hsuccesses : cb.state = .halfOpen → cb.halfOpenSuccesses.toNat + 1 < 2^32) (latencyUs : Nat) :
    RedisBreaker.release (backendConfig config.toCbConfig operationTimeoutMs) random nowMs
        (backendOutcome outcome) latencyUs (backend cb) =
      backend (release config.toCbConfig processId nowMs outcome latencyUs cb) := by
  have hsettled : backend { cb with
      inflight := cb.inflight - 1, window := record nowMs outcome latencyUs cb.window } =
      { backend cb with
        inflight := (backend cb).inflight - 1
        window := RedisBreaker.record nowMs (backendOutcome outcome) latencyUs (backend cb).window } := by
    have hgauge : (cb.inflight - 1).toNat = cb.inflight.toNat - 1 := by omega
    simp only [backend,hgauge,record_eq hfits.clock]
  unfold RedisBreaker.release release
  rw [← hsettled]
  cases outcome with
  | success => exact releaseSuccess_backend operationTimeoutMs hjitter hfits.clock hsuccesses
  | timeout => exact releaseTimeout_backend operationTimeoutMs hjitter hfits.clock (hfits.fails (.inr rfl)) (hfits.timeouts rfl)
  | redisError => exact releaseError_backend operationTimeoutMs hjitter hfits.clock (hfits.fails (.inl rfl))
  | circuitOpen | concurrencyRejected => rfl

end Calls

/-! ## Equal runs -/

section Runs
variable {Op : Type} [DecidableEq Op]

structure Pair (Op : Type) where
  edge : Session CircuitBreaker Op
  uam : Session RedisBreaker.CircuitBreaker Op

abbrev RedisCall (Op : Type) := Call Op RedisCallOutcome Random

def backendCall : RedisCall Op → Call Op RedisBreaker.RedisCallOutcome Random
  | .acquire op elapsed random => .acquire op elapsed random
  | .release op outcome latencyUs elapsed random => .release op (backendOutcome outcome) latencyUs elapsed random

variable (config : ClampedConfig) (operationTimeoutMs processId : Nat)

def edgeMachine : Machine CircuitBreaker (Except RedisCallOutcome Unit) RedisCallOutcome Random :=
  machine Random config.toCbConfig processId

def uamMachine : Machine RedisBreaker.CircuitBreaker (Option RedisBreaker.RedisCallOutcome)
    RedisBreaker.RedisCallOutcome Random :=
  RedisBreaker.machine (clampConfig (backendConfig config.toCbConfig operationTimeoutMs))

namespace Pair

def start (startMs : Nat) : Pair Op where
  edge := .start (.new config.toCbConfig) startMs
  uam := .start (.new (backendConfig config.toCbConfig operationTimeoutMs)) startMs

def step (pair : Pair Op) (call : RedisCall Op) : Pair Op where
  edge := pair.edge.step (edgeMachine config processId) call
  uam := pair.uam.step (uamMachine config operationTimeoutMs) (backendCall call)

end Pair

def EqualDraws (pair : Pair Op) : RedisCall Op → Prop
  | .acquire _ elapsed random => EqualJitter config.toCbConfig processId (pair.edge.now + elapsed) random
  | .release _ _ _ elapsed random => EqualJitter config.toCbConfig processId (pair.edge.now + elapsed) random

/-- A release comes below 2^32 seconds and, if it is a failure, after fewer
than 2^32 - 1 failures in a row. -/
def CallFits (pair : Pair Op) : RedisCall Op → Prop
  | .acquire _ _ _ => True
  | .release _ outcome _ elapsed _ => Fits (pair.edge.now + elapsed) pair.edge.breaker outcome

structure SameState (edge : CircuitBreaker) (uam : RedisBreaker.CircuitBreaker) : Prop where
  state : edge.state = uam.state
  inflight : edge.inflight = uam.inflight
  probesDispatched : edge.probesDispatched.toNat = uam.probesDispatched
  halfOpenSuccesses : edge.halfOpenSuccesses.toNat = uam.halfOpenSuccesses
  consecutiveFail : edge.consecutiveFail.toNat = uam.consecutiveFail
  consecutiveTimeout : edge.consecutiveTimeout.toNat = uam.consecutiveTimeout

/-- An acquire is answered alike, and any call leaves the breakers alike. -/
def Agree (pair : Pair Op) (call : RedisCall Op) : Prop := (match call with
    | .acquire _ elapsed random =>
        ((uamMachine config operationTimeoutMs).acquire (pair.uam.now + elapsed) random pair.uam.breaker).1 =
          backendAnswer ((edgeMachine config processId).acquire (pair.edge.now + elapsed) random
            pair.edge.breaker).1
    | .release _ _ _ _ _ => True) ∧
    SameState (pair.step config operationTimeoutMs processId call).edge.breaker
      (pair.step config operationTimeoutMs processId call).uam.breaker

section
variable (session : Session CircuitBreaker Op)

def backendSession : Session RedisBreaker.CircuitBreaker Op :=
  ⟨backend session.breaker,session.now,session.episode,session.held,session.recovered⟩

abbrev EdgeTracked : Prop :=
  Tracked (limits config.toCbConfig) (edgeMachine config processId) Valid session

end

theorem uamMachine_eq : uamMachine config operationTimeoutMs =
    RedisBreaker.machine (backendConfig config.toCbConfig (min 60000 (max 100 operationTimeoutMs))) := by
  rw [uamMachine,clampConfig_backendConfig]

variable {config processId} {session : Session CircuitBreaker Op}

section
variable (htracked : EdgeTracked config processId session) {random : Random}
  (hjitter : EqualJitter config.toCbConfig processId session.now random)
include htracked hjitter

omit [DecidableEq Op] in
theorem acquire_backend_eq :
    (uamMachine config operationTimeoutMs).acquire session.now random (backend session.breaker) =
      (backendAnswer ((edgeMachine config processId).acquire session.now random session.breaker).1,
        backend ((edgeMachine config processId).acquire session.now random session.breaker).2) := by
  rw [uamMachine_eq]
  exact acquire_backend _ hjitter htracked.valid htracked.sane

omit [DecidableEq Op] in
theorem session_acquire_backend (op : Op) :
    (backendSession session).acquire (uamMachine config operationTimeoutMs) op random =
      backendSession (session.acquire (edgeMachine config processId) op random) := by
  have hadmits : ∀ answer, RedisBreaker.admits (backendAnswer answer) = admits answer := by
    intro answer
    cases answer with
    | error outcome | ok value => rfl
  have hacquire : (uamMachine config operationTimeoutMs).acquire (backendSession session).now random
      (backendSession session).breaker = _ := acquire_backend_eq operationTimeoutMs htracked hjitter
  have hadmitted : (uamMachine config operationTimeoutMs).admits
      (backendAnswer ((edgeMachine config processId).acquire session.now random session.breaker).1) = _ := hadmits _
  unfold Session.acquire
  rw [hacquire]
  dsimp only
  rw [hadmitted]
  rfl

theorem session_release_backend (hfits : Fits session.now session.breaker outcome) (op : Op)
    (tag : Option Nat) (latencyUs : Nat) :
    (backendSession session).release (uamMachine config operationTimeoutMs) op tag (backendOutcome outcome) latencyUs
        random =
      backendSession (session.release (edgeMachine config processId) op tag outcome latencyUs random) := by
  have hsuccesses : session.breaker.state = .halfOpen →
      session.breaker.halfOpenSuccesses.toNat + 1 < 2^32 := by
    intro hhalf
    have hbound : session.breaker.halfOpenSuccesses.toNat + session.breaker.inflight.toNat ≤
        max config.maxInflight config.halfOpenProbes + session.breaker.probesDispatched.toNat :=
      htracked.sane.successes_le hhalf
    have hdispatched : session.breaker.probesDispatched.toNat ≤ config.halfOpenProbes :=
      htracked.sane.dispatched_le hhalf
    have hprobes := config.halfOpenProbes_range
    have hmax := config.maxInflight_range
    omega
  have hrelease : (uamMachine config operationTimeoutMs).release session.now random (backendOutcome outcome) latencyUs
      (backend session.breaker) =
        backend ((edgeMachine config processId).release session.now random outcome latencyUs session.breaker) := by
    rw [uamMachine_eq]
    exact release_backend _ hjitter hfits hsuccesses latencyUs
  have hsucceeds : (uamMachine config operationTimeoutMs).succeeds (backendOutcome outcome) =
      (edgeMachine config processId).succeeds outcome := by
    cases outcome <;> rfl
  unfold Session.release
  simp only [backendSession]
  rw [hrelease,hsucceeds]
  rfl

end

variable {call : RedisCall Op}

theorem step_backend (htracked : EdgeTracked config processId session)
    (hdraws : EqualDraws config processId ⟨session,backendSession session⟩ call)
    (hfits : CallFits ⟨session,backendSession session⟩ call) :
    (backendSession session).step (uamMachine config operationTimeoutMs) (backendCall call) =
      backendSession (session.step (edgeMachine config processId) call) := by
  have htag : ∀ op, (backendSession session).tagOf op = session.tagOf op := fun _ => rfl
  cases call with
  | acquire op elapsed random =>
    simp only [backendCall,Session.step,htag]
    split
    · rfl
    · exact session_acquire_backend operationTimeoutMs (htracked.pass elapsed) hdraws op
  | release op outcome latencyUs elapsed random =>
    simp only [backendCall,Session.step,htag]
    split
    next tag hheld =>
      exact session_release_backend operationTimeoutMs (htracked.pass elapsed) hdraws hfits op tag latencyUs
    · rfl

omit [DecidableEq Op] in
omit [DecidableEq Op] in
theorem edgeTracked_start (config : ClampedConfig) (processId startMs : Nat) :
    EdgeTracked config processId (.start (.new config.toCbConfig) startMs : Session _ Op) :=
  tracked_start (le_refl (0 : Int)) rfl rfl

theorem agree_of_backend (htracked : EdgeTracked config processId session)
    (hdraws : EqualDraws config processId ⟨session,backendSession session⟩ call)
    (hfits : CallFits ⟨session,backendSession session⟩ call) :
    Agree config operationTimeoutMs processId ⟨session,backendSession session⟩ call := by
  have hstep := step_backend operationTimeoutMs htracked hdraws hfits
  have htracked' := htracked.step (machine_lawful Random config processId) call
  constructor
  · cases call with
    | acquire op elapsed random =>
      have hanswer := acquire_backend_eq operationTimeoutMs (htracked.pass elapsed) hdraws
      exact congrArg Prod.fst hanswer
    | release op outcome latencyUs elapsed random => trivial
  · simp only [Pair.step]
    rw [hstep]
    exact ⟨rfl,(Int.toNat_of_nonneg htracked'.valid).symm,rfl,rfl,rfl,rfl⟩

theorem agree_along_backend (htracked : EdgeTracked config processId session) {calls : List (RedisCall Op)}
    (hdraws : Along (Pair.step config operationTimeoutMs processId) (EqualDraws config processId)
      ⟨session,backendSession session⟩ calls)
    (hfits : Along (Pair.step config operationTimeoutMs processId) CallFits ⟨session,backendSession session⟩ calls) :
    Along (Pair.step config operationTimeoutMs processId) (Agree config operationTimeoutMs processId)
      ⟨session,backendSession session⟩ calls := by
  induction calls generalizing session with
  | nil => trivial
  | cons call calls ih =>
    refine ⟨agree_of_backend operationTimeoutMs htracked hdraws.1 hfits.1,?_⟩
    have hstep : Pair.step config operationTimeoutMs processId ⟨session,backendSession session⟩ call =
        ⟨session.step (edgeMachine config processId) call,
          backendSession (session.step (edgeMachine config processId) call)⟩ := by
      rw [← step_backend operationTimeoutMs htracked hdraws.1 hfits.1]
      rfl
    have hrest := And.intro hdraws.2 hfits.2
    rw [hstep] at hrest ⊢
    exact ih (htracked.step (machine_lawful Random config processId) call) hrest.1 hrest.2

variable (config processId)

/-- The two breakers are one machine while the gateway's seconds and failure
counters do not wrap. -/
theorem breakers_agree (startMs : Nat) (calls : List (RedisCall Op))
    (hdraws : Along (Pair.step config operationTimeoutMs processId) (EqualDraws config processId)
      (.start config operationTimeoutMs startMs) calls)
    (hfits : Along (Pair.step config operationTimeoutMs processId) CallFits
      (.start config operationTimeoutMs startMs) calls) :
    Along (Pair.step config operationTimeoutMs processId) (Agree config operationTimeoutMs processId)
      (.start config operationTimeoutMs startMs) calls := by
  have hstart : (Pair.start config operationTimeoutMs startMs : Pair Op) =
      ⟨.start (.new config.toCbConfig) startMs,backendSession (.start (.new config.toCbConfig) startMs)⟩ := by
    unfold Pair.start backendSession Session.start
    rw [backend_new config operationTimeoutMs]
  rw [hstart] at hdraws hfits ⊢
  exact agree_along_backend operationTimeoutMs (edgeTracked_start config processId startMs) hdraws hfits

end Runs

/-! ## A run across the wrap -/

def sampleRandom : Random := ⟨0,le_refl 0,by norm_num⟩
def sampleConfig : ClampedConfig := fromEnv { CbConfig.default with
    minSamples := 5, consecutiveFailOpen := 100, consecutiveToOpen := 100, cooldownJitterMs := 0 }

theorem equalJitter_of_none {config : CbConfig} (hnone : config.cooldownJitterMs = 0) (processId nowMs : Nat)
    (random : Random) : EqualJitter config processId nowMs random := by
  simp [EqualJitter,jitterMs,jitter,backendConfig,hnone]

theorem equalDraws_sample (processId : Nat) (pair : Pair Nat) (call : RedisCall Nat) :
    EqualDraws sampleConfig processId pair call := by
  have hnone : sampleConfig.cooldownJitterMs = 0 := by decide
  cases call with
  | acquire op elapsed random => exact equalJitter_of_none hnone processId _ random
  | release op outcome latencyUs elapsed random => exact equalJitter_of_none hnone processId _ random

def failedCall (op elapsed : Nat) : List (RedisCall Nat) :=
  [.acquire op elapsed sampleRandom,.release op .redisError 100 0 sampleRandom]

/-- Four errors in the last second that fits in 32 bits, and the start of a
call one second later. -/
def beforeWrap : List (RedisCall Nat) :=
  failedCall 0 0 ++ failedCall 1 0 ++ failedCall 2 0 ++ failedCall 3 0 ++ [.acquire 4 1000 sampleRandom]

def lastError : RedisCall Nat := .release 4 .redisError 100 0 sampleRandom

/-- The fifth error opens the backend's circuit; the gateway's window looks for
buckets of second zero and finds none of the other four. -/
theorem breakers_disagree_at_wrap :
    Along (Pair.step sampleConfig 1000 1) (EqualDraws sampleConfig 1) (.start sampleConfig 1000 4294967295000)
        (beforeWrap ++ [lastError]) ∧
      ¬Along (Pair.step sampleConfig 1000 1) (Agree sampleConfig 1000 1) (.start sampleConfig 1000 4294967295000)
        (beforeWrap ++ [lastError]) := by
  refine ⟨along_of_forall (equalDraws_sample 1) _ _,?_⟩
  intro hagree
  rw [along_append] at hagree
  have hstate := hagree.2.1.2.state
  revert hstate
  decide +kernel

def fits (pair : Pair Nat) : RedisCall Nat → Bool
  | .acquire _ _ _ => true
  | .release _ _ _ elapsed _ =>
      (pair.edge.now + elapsed) / 1000 < 2^32 && pair.edge.breaker.consecutiveFail.toNat + 1 < 2^32 &&
        pair.edge.breaker.consecutiveTimeout.toNat + 1 < 2^32

theorem callFits_of_fits (pair : Pair Nat) (call : RedisCall Nat) (hfits : fits pair call = true) :
    CallFits pair call := by
  cases call with
  | acquire op elapsed random => trivial
  | release op outcome latencyUs elapsed random =>
    simp only [fits,Bool.and_eq_true,decide_eq_true_eq] at hfits
    exact ⟨hfits.1.1,fun _ => hfits.1.2,fun _ => hfits.2⟩

/-- Four errors and a fifth call in a second that fits. -/
theorem breakers_agree_sample :
    Along (Pair.step sampleConfig 1000 1) (Agree sampleConfig 1000 1) (.start sampleConfig 1000 1700000000000)
      (beforeWrap ++ [lastError]) := by
  exact breakers_agree sampleConfig 1000 1 1700000000000 _ (along_of_forall (equalDraws_sample 1) _ _)
    (along_of_check callFits_of_fits (by decide +kernel))

/-! ## No dead state -/

section Lives
variable {Op : Type} [DecidableEq Op]

theorem breakers_never_wedge (config : ClampedConfig) (raw : CircuitBreakerConfig) (processId startMs : Nat) :
    NeverWedges (limits config.toCbConfig) (edgeMachine config processId)
        (.start (.new config.toCbConfig) startMs : Session _ Op) ∧
      NeverWedges (RedisBreaker.limits (clampConfig raw))
        (RedisBreaker.machine (clampConfig raw)) (.start (.new raw) startMs : Session _ Op) := by
  constructor
  · have hmax := config.halfOpenMaxMs_range.1
    exact neverWedges (machine_lawful Random config processId) config.maxInflight_range.1
      config.halfOpenProbes_range.1 (lt_of_lt_of_le (by decide) hmax) (edgeTracked_start config processId startMs)
  · obtain ⟨hinflight,hprobes,hmax⟩ := RedisBreaker.clampConfig_pos raw
    exact neverWedges (RedisBreaker.machine_lawful _) hinflight hprobes hmax (tracked_start trivial rfl rfl)

/-! ## Whose episode it is -/

theorem episodes_end_by_own (config : ClampedConfig) (raw : CircuitBreakerConfig) (processId startMs : Nat) :
    (∀ calls : List (Call Op RedisCallOutcome Random),
      Along (.step (edgeMachine config processId)) (Drained (edgeMachine config processId))
          (.start (.new config.toCbConfig) startMs) calls →
        Along (.step (edgeMachine config processId))
          (EndsByOwn (limits config.toCbConfig) (edgeMachine config processId))
          (.start (.new config.toCbConfig) startMs) calls) ∧
      (∀ calls : List (Call Op RedisBreaker.RedisCallOutcome Random),
        Along (.step (RedisBreaker.machine (clampConfig raw)))
            (Drained (RedisBreaker.machine (clampConfig raw))) (.start (.new raw) startMs) calls →
          Along (.step (RedisBreaker.machine (clampConfig raw)))
            (EndsByOwn (RedisBreaker.limits (clampConfig raw))
              (RedisBreaker.machine (clampConfig raw))) (.start (.new raw) startMs) calls) := by
  constructor
  · intro calls hdrained
    exact endsByOwn_along (machine_lawful Random config processId)
      (edgeTracked_start config processId startMs) (owned_start rfl) hdrained
  · intro calls hdrained
    exact endsByOwn_along (RedisBreaker.machine_lawful _) (tracked_start trivial rfl rfl) (owned_start rfl) hdrained

end Lives

/-- Operation 0 is admitted before five others fail; after the cooldown
operation 6 opens an episode. -/
def staleRun {Outcome : Type} (failure : Outcome) : List (Call Nat Outcome Random) :=
  [.acquire 0 0 sampleRandom,.acquire 1 0 sampleRandom,.acquire 2 0 sampleRandom,.acquire 3 0 sampleRandom,
    .acquire 4 0 sampleRandom,.acquire 5 0 sampleRandom,.release 1 failure 100 0 sampleRandom,
    .release 2 failure 100 0 sampleRandom,.release 3 failure 100 0 sampleRandom,
    .release 4 failure 100 0 sampleRandom,.release 5 failure 100 0 sampleRandom,.acquire 6 7000 sampleRandom]

def defaultConfig : ClampedConfig := fromEnv .default

/-- The episode is ended by the failure of operation 0, which it did not
admit. -/
theorem episode_ended_by_stale_failure : ¬Along (.step (edgeMachine defaultConfig 1))
        (EndsByOwn (limits defaultConfig.toCbConfig) (edgeMachine defaultConfig 1))
        (.start (.new defaultConfig.toCbConfig) 1700000000000)
        (staleRun .redisError ++ [.release 0 .redisError 100 0 sampleRandom]) ∧
      ¬Along (.step (uamMachine defaultConfig 1000))
        (EndsByOwn (RedisBreaker.limits (backendConfig defaultConfig.toCbConfig 1000)) (uamMachine defaultConfig 1000))
        (.start (.new (backendConfig defaultConfig.toCbConfig 1000)) 1700000000000)
        (staleRun .redisError ++ [.release 0 .redisError 100 0 sampleRandom]) := by
  constructor
  · intro hends
    rw [along_append] at hends
    have hown := (hends.2.1 (by decide +kernel)).2 (by decide +kernel) none (by decide +kernel)
    contradiction
  · intro hends
    rw [along_append] at hends
    have hown := (hends.2.1 (by decide +kernel)).2 (by decide +kernel) none (by decide +kernel)
    contradiction

def drainedRun {Outcome : Type} (failure success : Outcome) : List (Call Nat Outcome Random) :=
  (List.range 5).flatMap (fun op => [.acquire op 0 sampleRandom,.release op failure 100 0 sampleRandom]) ++
    [.acquire 5 20000 sampleRandom,.release 5 success 100 0 sampleRandom,.acquire 6 0 sampleRandom,
      .release 6 success 100 0 sampleRandom,.acquire 7 0 sampleRandom,.release 7 success 100 0 sampleRandom]

theorem episodes_end_by_own_sample : Along (Session.step (edgeMachine defaultConfig 1))
        (EndsByOwn (limits defaultConfig.toCbConfig) (edgeMachine defaultConfig 1))
        (.start (.new defaultConfig.toCbConfig) 1700000000000) (drainedRun .redisError .success) ∧
      (run (Session.step (edgeMachine defaultConfig 1)) (.start (.new defaultConfig.toCbConfig) 1700000000000)
        (drainedRun .redisError .success)).circuit (edgeMachine defaultConfig 1) = .closed := by
  refine ⟨?_,by decide +kernel⟩
  exact (episodes_end_by_own defaultConfig (backendConfig defaultConfig.toCbConfig 1000) 1 1700000000000).1 _
    (along_of_check (fun _ _ => of_decide_eq_true) (by decide +kernel))

/-! ## After a recovery -/

/-- With the recovery limits below the opening limits, an operation that
succeeds in the second of a recovery leaves the circuit closed exactly if the
window is calm. -/
theorem recovery_kept_iff (latencyUs nextUs closeMs acquireMs releaseMs : Nat) :
    (∀ (config : ClampedConfig) (processId : Nat) (cb : CircuitBreaker)
      (outcome : RedisCallOutcome),
      config.p99UsRecovery < config.p99UsOpen → config.errorRateRecovery < config.errorRateOpen →
      let closed := release config.toCbConfig processId closeMs outcome latencyUs cb
      let acquired := acquire config.toCbConfig processId acquireMs closed
      cb.state = .halfOpen → closed.state = .closed → closeMs / 1000 = releaseMs / 1000 → acquired.1 = .ok () →
      ((release config.toCbConfig processId releaseMs .success nextUs acquired.2).state ≠ .opened ↔
        Calm bands config.minSamples config.p99UsOpen config.timeoutRateOpen
          (aggregate releaseMs config.windowSecs closed.window)
          (bandOf nextUs))) ∧
      (∀ (raw : CircuitBreakerConfig) (closing entering leaving : Random) (cb : RedisBreaker.CircuitBreaker)
        (outcome : RedisBreaker.RedisCallOutcome),
        let config := clampConfig raw
        config.p99UsRecovery < config.p99UsOpen → config.errorRateRecovery < config.errorRateOpen →
        let closed := RedisBreaker.release config closing closeMs outcome latencyUs cb
        let acquired := RedisBreaker.acquire config entering acquireMs closed
        cb.state = .halfOpen → closed.state = .closed → closeMs / 1000 = releaseMs / 1000 → acquired.1 = none →
        ((RedisBreaker.release config leaving releaseMs .success nextUs acquired.2).state ≠ .opened ↔
          Calm RedisBreaker.bands config.minSamples config.p99UsOpen config.timeoutRateOpen
            (RedisBreaker.aggregate releaseMs config.windowSecs closed.window)
            (RedisBreaker.bandOf nextUs))) := by
  constructor
  · intro config processId cb outcome hp99 herrors closed acquired hhalf hclosed hsecond hadmitted
    exact closed_after_success_iff config processId hp99 herrors hhalf hclosed hsecond hadmitted
      nextUs
  · intro raw closing entering leaving cb outcome config hp99 herrors closed acquired hhalf hclosed
      hsecond hadmitted
    exact RedisBreaker.closed_after_success_iff raw rfl closing entering leaving hp99 herrors hhalf hclosed
      hsecond hadmitted nextUs

/-- Three fast timeouts, and after the cooldown two successes and a third
operation of the episode. -/
def probingRun {Outcome : Type} (timeout success : Outcome) : List (Call Nat Outcome Random) :=
  (List.range 3).flatMap (fun op => [.acquire op 0 sampleRandom,.release op timeout 15000 0 sampleRandom]) ++
    [.acquire 3 7000 sampleRandom,.release 3 success 100 0 sampleRandom,.acquire 4 0 sampleRandom,
      .release 4 success 100 0 sampleRandom,.acquire 5 0 sampleRandom]

def nextOperation {Outcome : Type} (success : Outcome) : List (Call Nat Outcome Random) :=
  [.acquire 6 0 sampleRandom,.release 6 success 100 0 sampleRandom]

def flappingConfig : ClampedConfig := fromEnv { CbConfig.default with minSamples := 5 }

def edgeCircuit (calls : List (Call Nat RedisCallOutcome Random)) : Circuit :=
  (run (Session.step (edgeMachine flappingConfig 1)) (.start (.new flappingConfig.toCbConfig) 1700000000000)
    calls).circuit (edgeMachine flappingConfig 1)

def uamCircuit (calls : List (Call Nat RedisBreaker.RedisCallOutcome Random)) : Circuit :=
  (run (Session.step (uamMachine flappingConfig 1000))
    (.start (.new (backendConfig flappingConfig.toCbConfig 1000)) 1700000000000) calls).circuit
      (uamMachine flappingConfig 1000)

/-- The third success closes the circuit and the next operation's success
opens it again: three of the seven calls in the window are timeouts, which
recovery does not look at. -/
theorem recovered_circuit_reopens : flappingConfig.p99UsRecovery < flappingConfig.p99UsOpen ∧
      flappingConfig.errorRateRecovery < flappingConfig.errorRateOpen ∧
      (edgeCircuit (probingRun .timeout .success) = .halfOpen ∧
        edgeCircuit (probingRun .timeout .success ++ [.release 5 .success 100 0 sampleRandom]) = .closed ∧
        edgeCircuit (probingRun .timeout .success ++ [.release 5 .success 100 0 sampleRandom] ++
          nextOperation .success) = .opened) ∧
      (uamCircuit (probingRun .timeout .success) = .halfOpen ∧
        uamCircuit (probingRun .timeout .success ++ [.release 5 .success 100 0 sampleRandom]) = .closed ∧
        uamCircuit (probingRun .timeout .success ++ [.release 5 .success 100 0 sampleRandom] ++
          nextOperation .success) = .opened) := by
  decide +kernel

/-- The gateway's breaker after the same calls, judged from twenty calls on. -/
def probedBreaker : CircuitBreaker :=
  (run (Session.step (edgeMachine defaultConfig 1)) (.start (.new defaultConfig.toCbConfig) 1700000000000)
    (probingRun .timeout .success)).breaker

theorem recovery_kept_sample : (release defaultConfig.toCbConfig 1 1700000007000 .success 100
      (acquire defaultConfig.toCbConfig 1 1700000007000
        (release defaultConfig.toCbConfig 1 1700000007000 .success 100 probedBreaker)).2).state ≠
      .opened := by
  have hkept := (recovery_kept_iff 100 100 1700000007000 1700000007000 1700000007000).1 defaultConfig 1
    probedBreaker .success (by decide +kernel) (by decide +kernel) (by decide +kernel) (by decide +kernel) rfl
    (by decide +kernel)
  rw [hkept]
  left
  decide +kernel

end Routiq.Fleet.RedisBreakers
