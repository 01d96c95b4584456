import Routiq.Core.Breaker
import Routiq.Core.RollingWindow
import Mathlib.Tactic.NormNum

/-! The gateway's Redis circuit breaker (`redis_cb.rs`), called from one thread
at a time. Counters that the source keeps in 32 bits wrap here too, and so does
the second a bucket stands for. Rates and their thresholds are rationals. -/
namespace Routiq.Edge.RedisBreaker
open Core Breaker RollingWindow

inductive RedisCallOutcome where
  | success | redisError | timeout | circuitOpen | concurrencyRejected
deriving DecidableEq

/-! ## Configuration -/

structure CbConfig where
  (windowSecs minSamples consecutiveFailOpen consecutiveToOpen : Nat)
  (errorRateOpen timeoutRateOpen : ℚ)
  p99UsOpen : Nat
  (p99UsRecovery errorRateRecovery : ℚ)
  (openCooldownMs cooldownJitterMs halfOpenProbes recoverySuccesses maxInflight halfOpenMaxMs : Nat)
deriving DecidableEq

def CbConfig.default : CbConfig where
  windowSecs := 10
  minSamples := 20
  consecutiveFailOpen := 5
  consecutiveToOpen := 3
  errorRateOpen := 1 / 2
  timeoutRateOpen := 2 / 5
  p99UsOpen := 200000
  p99UsRecovery := 30000
  errorRateRecovery := 1 / 10
  openCooldownMs := 5000
  cooldownJitterMs := 2000
  halfOpenProbes := 3
  recoverySuccesses := 3
  maxInflight := 32
  halfOpenMaxMs := 10000

/-- Recovery must be possible with the probes of one episode. -/
def CbConfig.normalize (config : CbConfig) : CbConfig :=
  if config.halfOpenProbes < config.recoverySuccesses then
    { config with recoverySuccesses := config.halfOpenProbes }
  else config

/-- What `from_env` builds, whatever the variables hold. -/
structure ClampedConfig extends CbConfig where
  windowSecs_range : 1 ≤ windowSecs ∧ windowSecs ≤ 60
  minSamples_range : 5 ≤ minSamples ∧ minSamples ≤ 1000
  consecutiveFailOpen_range : 1 ≤ consecutiveFailOpen ∧ consecutiveFailOpen ≤ 100
  consecutiveToOpen_range : 1 ≤ consecutiveToOpen ∧ consecutiveToOpen ≤ 100
  errorRateOpen_range : 0 ≤ errorRateOpen ∧ errorRateOpen ≤ 1
  timeoutRateOpen_range : 0 ≤ timeoutRateOpen ∧ timeoutRateOpen ≤ 1
  p99UsOpen_range : 1000 ≤ p99UsOpen ∧ p99UsOpen ≤ 60000000
  p99UsRecovery_range : 1000 ≤ p99UsRecovery ∧ p99UsRecovery ≤ 60000000
  errorRateRecovery_range : 0 ≤ errorRateRecovery ∧ errorRateRecovery ≤ 1
  openCooldownMs_range : 100 ≤ openCooldownMs ∧ openCooldownMs ≤ 300000
  cooldownJitterMs_le : cooldownJitterMs ≤ 60000
  halfOpenProbes_range : 1 ≤ halfOpenProbes ∧ halfOpenProbes ≤ 20
  recoverySuccesses_range : 1 ≤ recoverySuccesses ∧ recoverySuccesses ≤ 20
  maxInflight_range : 1 ≤ maxInflight ∧ maxInflight ≤ 10000
  halfOpenMaxMs_range : 1000 ≤ halfOpenMaxMs ∧ halfOpenMaxMs ≤ 600000
  recoverySuccesses_le : recoverySuccesses ≤ halfOpenProbes

section Clamp
variable {Value : Type} [LinearOrder Value]

def clamp (least greatest value : Value) : Value := max least (min value greatest)

theorem clamp_range {least greatest : Value} (hrange : least ≤ greatest) (value : Value) :
    least ≤ clamp least greatest value ∧ clamp least greatest value ≤ greatest :=
  ⟨le_max_left _ _,max_le hrange (min_le_right _ _)⟩

end Clamp

def CbConfig.clamped (config : CbConfig) : CbConfig where
  windowSecs := clamp 1 60 config.windowSecs
  minSamples := clamp 5 1000 config.minSamples
  consecutiveFailOpen := clamp 1 100 config.consecutiveFailOpen
  consecutiveToOpen := clamp 1 100 config.consecutiveToOpen
  errorRateOpen := clamp 0 1 config.errorRateOpen
  timeoutRateOpen := clamp 0 1 config.timeoutRateOpen
  p99UsOpen := clamp 1000 60000000 config.p99UsOpen
  p99UsRecovery := clamp 1000 60000000 config.p99UsRecovery
  errorRateRecovery := clamp 0 1 config.errorRateRecovery
  openCooldownMs := clamp 100 300000 config.openCooldownMs
  cooldownJitterMs := clamp 0 60000 config.cooldownJitterMs
  halfOpenProbes := clamp 1 20 config.halfOpenProbes
  recoverySuccesses := clamp 1 20 config.recoverySuccesses
  maxInflight := clamp 1 10000 config.maxInflight
  halfOpenMaxMs := clamp 1000 600000 config.halfOpenMaxMs

/-- `CbConfig::from_env`, from the values the variables parse to. -/
def fromEnv (values : CbConfig) : ClampedConfig where
  toCbConfig := { values.clamped with
    recoverySuccesses := if values.clamped.halfOpenProbes < values.clamped.recoverySuccesses then
      values.clamped.halfOpenProbes else values.clamped.recoverySuccesses }
  windowSecs_range := clamp_range (by decide) _
  minSamples_range := clamp_range (by decide) _
  consecutiveFailOpen_range := clamp_range (by decide) _
  consecutiveToOpen_range := clamp_range (by decide) _
  errorRateOpen_range := clamp_range (by norm_num) _
  timeoutRateOpen_range := clamp_range (by norm_num) _
  p99UsOpen_range := clamp_range (by decide) _
  p99UsRecovery_range := clamp_range (by norm_num) _
  errorRateRecovery_range := clamp_range (by norm_num) _
  openCooldownMs_range := clamp_range (by decide) _
  cooldownJitterMs_le := (clamp_range (by decide) _).2
  halfOpenProbes_range := clamp_range (by decide) _
  recoverySuccesses_range := by
    have hprobes := clamp_range (show 1 ≤ 20 by decide) values.halfOpenProbes
    have hrecovery := clamp_range (show 1 ≤ 20 by decide) values.recoverySuccesses
    dsimp only
    split
    · exact hprobes
    · exact hrecovery
  maxInflight_range := clamp_range (by decide) _
  halfOpenMaxMs_range := clamp_range (by decide) _
  recoverySuccesses_le := by
    dsimp only
    split
    · exact le_refl _
    next hprobes => exact not_lt.mp hprobes

/-! ## The rolling window -/

abbrev histBands : Nat := 18

def histBoundsUs : List Nat :=
  [500,1000,2000,4000,8000,16000,32000,64000,100000,150000,200000,300000,400000,500000,
    750000,1000000,2000000]

def maxWindowBuckets : Nat := 64
abbrev TimeBucket := Bucket histBands
abbrev WindowStats := Tally histBands

/-- The last band is open-ended and reads as the largest 64-bit value. -/
def bands : Bands histBands where
  upper := fun band => histBoundsUs.getD band (2^64 - 1)
  top := 2^64 - 1
  monotone := by decide
  upper_le := by decide

/-- `HIST_BOUNDS_US.partition_point(|&bound| latency_us > bound)`. -/
def bandOf (latencyUs : Nat) : Fin histBands :=
  ⟨(histBoundsUs.takeWhile fun bound => bound < latencyUs).length,
    Nat.lt_succ_of_le (List.takeWhile_sublist _).length_le⟩

def currentTs (nowMs : Nat) : Nat := nowMs / 1000 % 2^32

def record (nowMs : Nat) (outcome : RedisCallOutcome) (latencyUs : Nat) (window : Window histBands) :
    Window histBands :=
  window.record (currentTs nowMs) (bandOf latencyUs) (outcome = .redisError) (outcome = .timeout)

def isFresh (nowMs windowSecs ts : Nat) : Bool := !(ts < currentTs nowMs - windowSecs || currentTs nowMs < ts)

def aggregate (nowMs windowSecs : Nat) (window : Window histBands) : WindowStats :=
  window.aggregate (isFresh nowMs windowSecs)

section
variable (stats : WindowStats)

def errorRate : ℚ :=
  if stats.total = 0 then 0 else stats.errors / stats.total

def timeoutRate : ℚ :=
  if stats.total = 0 then 0 else stats.timeouts / stats.total

def percentileUs (pct : ℚ) : Nat := percentile bands stats pct

end

/-! ## The breaker -/

structure CircuitBreaker where
  state : Circuit
  (openedAtMs cooldownMs : Nat)
  (consecutiveFail consecutiveTimeout probesDispatched halfOpenSuccesses : UInt32)
  halfOpenStartedAtMs : Nat
  window : Window histBands
  inflight : Int

def CircuitBreaker.new (config : CbConfig) : CircuitBreaker where
  state := .closed
  openedAtMs := 0
  cooldownMs := 0
  consecutiveFail := 0
  consecutiveTimeout := 0
  probesDispatched := 0
  halfOpenSuccesses := 0
  halfOpenStartedAtMs := 0
  window := .fresh (clamp 1 maxWindowBuckets config.windowSecs) (clamp_range (by decide) config.windowSecs).1
  inflight := 0

def enterHalfOpen (nowMs : Nat) (cb : CircuitBreaker) : CircuitBreaker := { cb with
    state := .halfOpen
    probesDispatched := 0
    halfOpenSuccesses := 0
    halfOpenStartedAtMs := nowMs }

section
variable (config : CbConfig) (processId nowMs : Nat)

/-- A cheap pseudo-random mix of process id and time, in 64 bits. -/
def jitter : Nat :=
  if 0 < config.cooldownJitterMs then
    (processId * 6364136223846793005 + nowMs) % 2^64 / 2^33 % config.cooldownJitterMs
  else 0

def jitteredCooldown : Nat := config.openCooldownMs + jitter config processId nowMs

section
variable (cb : CircuitBreaker)

def tripOpen : CircuitBreaker :=
  if cb.state = .opened then cb
  else { cb with
    state := .opened
    openedAtMs := nowMs
    cooldownMs := jitteredCooldown config processId nowMs }

def acquireHalfOpen : Except RedisCallOutcome Unit × CircuitBreaker :=
  if config.halfOpenMaxMs ≤ nowMs - cb.halfOpenStartedAtMs then
    (.error .circuitOpen,if cb.state = .halfOpen then
        { cb with
          state := .opened
          openedAtMs := nowMs
          cooldownMs := jitteredCooldown config processId nowMs }
      else cb)
  else
    let dispatched := cb.probesDispatched
    let cb := { cb with probesDispatched := dispatched + 1 }
    if config.halfOpenProbes ≤ dispatched.toNat then
      (.error .circuitOpen,{ cb with probesDispatched := cb.probesDispatched - 1 })
    else
      let inflight := cb.inflight
      let cb := { cb with inflight := inflight + 1 }
      if (config.halfOpenProbes : Int) ≤ inflight then
        (.error .concurrencyRejected,
          { cb with inflight := cb.inflight - 1, probesDispatched := cb.probesDispatched - 1 })
      else (.ok (),cb)

def acquire : Except RedisCallOutcome Unit × CircuitBreaker :=
  match cb.state with
  | .closed =>
      let inflight := cb.inflight
      let cb := { cb with inflight := inflight + 1 }
      if (config.maxInflight : Int) ≤ inflight then
        (.error .concurrencyRejected,{ cb with inflight := cb.inflight - 1 })
      else (.ok (),cb)
  | .opened =>
      if cb.cooldownMs ≤ nowMs - cb.openedAtMs then
        acquireHalfOpen config processId nowMs (enterHalfOpen nowMs cb)
      else (.error .circuitOpen,cb)
  | .halfOpen => acquireHalfOpen config processId nowMs cb

def degraded (stats : WindowStats) : Bool :=
  config.errorRateOpen ≤ errorRate stats || config.timeoutRateOpen ≤ timeoutRate stats ||
    config.p99UsOpen ≤ percentileUs stats 99

def checkStatisticalOpen : CircuitBreaker :=
  let stats := aggregate nowMs config.windowSecs cb.window
  if stats.total < config.minSamples then cb
  else if degraded config stats then tripOpen config processId nowMs cb
  else cb

def releaseSuccess : CircuitBreaker :=
  let cb := { cb with consecutiveFail := 0, consecutiveTimeout := 0 }
  if cb.state = .halfOpen then
    let successes := cb.halfOpenSuccesses + 1
    let cb := { cb with halfOpenSuccesses := successes }
    let stats := aggregate nowMs config.windowSecs cb.window
    if config.recoverySuccesses ≤ successes.toNat ∧ (percentileUs stats 99 : ℚ) ≤ config.p99UsRecovery ∧
        errorRate stats ≤ config.errorRateRecovery then
      { cb with state := .closed }
    else cb
  else checkStatisticalOpen config processId nowMs cb

def releaseTimeout : CircuitBreaker :=
  let cb := { cb with
    consecutiveFail := cb.consecutiveFail + 1
    consecutiveTimeout := cb.consecutiveTimeout + 1 }
  if cb.state = .halfOpen then tripOpen config processId nowMs cb
  else if config.consecutiveToOpen ≤ cb.consecutiveTimeout.toNat ∨
      config.consecutiveFailOpen ≤ cb.consecutiveFail.toNat then tripOpen config processId nowMs cb
  else checkStatisticalOpen config processId nowMs cb

def releaseError : CircuitBreaker :=
  let cb := { cb with consecutiveFail := cb.consecutiveFail + 1 }
  if cb.state = .halfOpen then tripOpen config processId nowMs cb
  else if config.consecutiveFailOpen ≤ cb.consecutiveFail.toNat then tripOpen config processId nowMs cb
  else checkStatisticalOpen config processId nowMs cb

end

def release (outcome : RedisCallOutcome) (latencyUs : Nat) (cb : CircuitBreaker) : CircuitBreaker :=
  let cb := { cb with
    inflight := cb.inflight - 1
    window := record nowMs outcome latencyUs cb.window }
  match outcome with
  | .success => releaseSuccess config processId nowMs cb
  | .timeout => releaseTimeout config processId nowMs cb
  | .redisError => releaseError config processId nowMs cb
  | .circuitOpen => cb
  | .concurrencyRejected => cb

end

/-! ## Its life -/

def limits (config : CbConfig) : Limits where
  maxInflight := config.maxInflight
  probes := config.halfOpenProbes
  recovery := config.recoverySuccesses
  halfOpenMax := config.halfOpenMaxMs
  maxCooldown := config.openCooldownMs + config.cooldownJitterMs

def view (cb : CircuitBreaker) : View where
  circuit := cb.state
  openedAt := cb.openedAtMs
  cooldown := cb.cooldownMs
  startedAt := cb.halfOpenStartedAtMs
  dispatched := cb.probesDispatched.toNat
  successes := cb.halfOpenSuccesses.toNat
  inflight := cb.inflight.toNat

def admits (answer : Except RedisCallOutcome Unit) : Bool := answer.toBool

/-- The jitter comes from process and time, so a call draws nothing. -/
def machine (Draw : Type) (config : CbConfig) (processId : Nat) :
    Machine CircuitBreaker (Except RedisCallOutcome Unit) RedisCallOutcome Draw where
  view := view
  admits := admits
  succeeds := fun outcome => outcome = .success
  acquire := fun nowMs _ cb => acquire config processId nowMs cb
  release := fun nowMs _ outcome latencyUs cb => release config processId nowMs outcome latencyUs cb

section Life
variable {config : CbConfig} {processId nowMs : Nat} {cb : CircuitBreaker}

theorem jitteredCooldown_le (config : CbConfig) (processId nowMs : Nat) :
    jitteredCooldown config processId nowMs ≤ config.openCooldownMs + config.cooldownJitterMs := by
  unfold jitteredCooldown jitter
  split
  next hjitter =>
    have hmod := Nat.mod_lt ((processId * 6364136223846793005 + nowMs) % 2^64 / 2^33) hjitter
    omega
  · omega

theorem view_tripOpen (hopened : cb.state ≠ .opened) :
    view (tripOpen config processId nowMs cb) = (view cb).trip nowMs (jitteredCooldown config processId nowMs) := by
  simp [tripOpen,hopened,view,View.trip]

/-! Counting first and taking the count back on a refusal comes to the same as
asking first. -/

theorem acquire_closed (hstate : cb.state = .closed) : acquire config processId nowMs cb =
      if (config.maxInflight : Int) ≤ cb.inflight then (.error .concurrencyRejected,cb)
      else (.ok (),{ cb with inflight := cb.inflight + 1 }) := by
  cases cb with
  | mk state =>
    subst hstate
    simp only [acquire,Int.add_sub_cancel]

theorem acquire_opened (hstate : cb.state = .opened) : acquire config processId nowMs cb =
      if cb.cooldownMs ≤ nowMs - cb.openedAtMs then
        acquireHalfOpen config processId nowMs (enterHalfOpen nowMs cb) else (.error .circuitOpen,cb) := by
  simp only [acquire,hstate]

section
variable (hstate : cb.state = .halfOpen)
include hstate

theorem acquire_halfOpen : acquire config processId nowMs cb = acquireHalfOpen config processId nowMs cb := by
  simp only [acquire,hstate]

theorem acquireHalfOpen_eq : acquireHalfOpen config processId nowMs cb =
      if config.halfOpenMaxMs ≤ nowMs - cb.halfOpenStartedAtMs then
        (.error .circuitOpen,tripOpen config processId nowMs cb)
      else if config.halfOpenProbes ≤ cb.probesDispatched.toNat then (.error .circuitOpen,cb)
      else if (config.halfOpenProbes : Int) ≤ cb.inflight then (.error .concurrencyRejected,cb)
      else (.ok (),{ cb with probesDispatched := cb.probesDispatched + 1, inflight := cb.inflight + 1 }) := by
  cases cb with
  | mk state =>
    subst hstate
    simp [acquireHalfOpen,tripOpen]

theorem acquireHalfOpen_probed (hinflight : 0 ≤ cb.inflight)
    (hdispatched : cb.probesDispatched.toNat + 1 < 2^32) :
    Probed (limits config) nowMs (view cb) (admits (acquireHalfOpen config processId nowMs cb).1)
      (view (acquireHalfOpen config processId nowMs cb).2) := by
  rw [acquireHalfOpen_eq hstate]
  split
  next hdue =>
    rw [view_tripOpen (by simp [hstate])]
    exact Probed.rearmed _ hdue (jitteredCooldown_le config processId nowMs)
  next hearly =>
    have hearly' : nowMs - (view cb).startedAt < (limits config).halfOpenMax := not_le.mp hearly
    split
    next hbusy => exact Probed.refused hearly' (.inl hbusy)
    next hfree =>
      split
      next hbusy =>
        refine Probed.refused hearly' (.inr ?_)
        simp only [limits,view]
        omega
      next hroom =>
        have hcount : (cb.probesDispatched + 1).toNat = cb.probesDispatched.toNat + 1 := by
          rw [UInt32.toNat_add]
          exact Nat.mod_eq_of_lt hdispatched
        have hgauge : (cb.inflight + 1).toNat = cb.inflight.toNat + 1 := by omega
        have hprobe : view { cb with
            probesDispatched := cb.probesDispatched + 1, inflight := cb.inflight + 1 } = (view cb).probe := by
          simp only [view,View.probe,hcount,hgauge]
        rw [hprobe]
        refine Probed.admitted hearly' (not_le.mp hfree) ?_
        simp only [limits,view]
        omega

end

theorem acquire_acquired (hinflight : 0 ≤ cb.inflight)
    (hdispatched : cb.state = .halfOpen → cb.probesDispatched.toNat + 1 < 2^32) :
    Acquired (limits config) nowMs (view cb) (admits (acquire config processId nowMs cb).1)
      (view (acquire config processId nowMs cb).2) := by
  cases hstate : cb.state with
  | closed =>
    rw [acquire_closed hstate]
    split
    · refine Acquired.full hstate ?_
      simp only [limits,view]
      omega
    · have hgauge : (cb.inflight + 1).toNat = cb.inflight.toNat + 1 := by omega
      have hoccupied : view { cb with inflight := cb.inflight + 1 } = (view cb).occupy := by
        simp only [view,View.occupy,hgauge]
      rw [hoccupied]
      refine Acquired.admitted hstate ?_
      simp only [limits,view]
      omega
  | opened =>
    rw [acquire_opened hstate]
    split
    next helapsed =>
      have hentered : (enterHalfOpen nowMs cb).state = .halfOpen := rfl
      exact Acquired.entered _ _ hstate helapsed
        (acquireHalfOpen_probed hentered hinflight (show (0 : UInt32).toNat + 1 < 2^32 by decide))
    next hcooling => exact Acquired.cooling hstate (not_le.mp hcooling)
  | halfOpen =>
    rw [acquire_halfOpen hstate]
    exact Acquired.probed _ _ hstate (acquireHalfOpen_probed hstate hinflight (hdispatched hstate))

section
variable (config : CbConfig) (processId nowMs : Nat) (cb : CircuitBreaker)

theorem tripOpen_judged :
    Judged (limits config) nowMs (view cb) (view (tripOpen config processId nowMs cb)) := by
  by_cases hopened : cb.state = .opened
  · left
    simp [tripOpen,hopened]
  · exact .inr ⟨hopened,_,jitteredCooldown_le config processId nowMs,view_tripOpen hopened⟩

theorem checkStatisticalOpen_judged :
    Judged (limits config) nowMs (view cb) (view (checkStatisticalOpen config processId nowMs cb)) := by
  unfold checkStatisticalOpen
  dsimp only
  split
  · exact .inl rfl
  · split
    · exact tripOpen_judged config processId nowMs cb
    · exact .inl rfl

end

variable {settled : CircuitBreaker}

theorem releaseSuccess_released (hview : view settled = (view cb).settle)
    (hsuccesses : cb.state = .halfOpen → cb.halfOpenSuccesses.toNat + 1 < 2^32) :
    Released (limits config) nowMs true (view cb) (view (releaseSuccess config processId nowMs settled)) := by
  have hstate : settled.state = cb.state := congrArg View.circuit hview
  have hcount : settled.halfOpenSuccesses.toNat = cb.halfOpenSuccesses.toNat := congrArg View.successes hview
  unfold releaseSuccess
  dsimp only
  split
  next hhalf =>
    have hbefore : (view cb).circuit = .halfOpen := hstate.symm.trans hhalf
    have hnext : (settled.halfOpenSuccesses + 1).toNat = (view cb).successes + 1 := by
      rw [UInt32.toNat_add,hcount]
      exact Nat.mod_eq_of_lt (hsuccesses hbefore)
    have hcounted : view { settled with
        consecutiveFail := 0, consecutiveTimeout := 0
        halfOpenSuccesses := settled.halfOpenSuccesses + 1 } = (view cb).settle.succeed := by
      rw [← hview]
      simp only [view,View.succeed,hnext,hcount]
    split
    next hrecovered =>
      have hclosed : view { settled with
          state := .closed, consecutiveFail := 0, consecutiveTimeout := 0
          halfOpenSuccesses := settled.halfOpenSuccesses + 1 } = (view cb).settle.succeed.close := by
        rw [← hcounted]
        rfl
      rw [hclosed]
      refine Released.recovered hbefore rfl ?_
      rw [← hnext]
      exact hrecovered.1
    · rw [hcounted]
      exact Released.counted hbefore rfl
  next hhalf =>
    have hreset : view { settled with consecutiveFail := 0, consecutiveTimeout := 0 } = (view cb).settle := hview
    have hbefore : cb.state ≠ .halfOpen := hstate ▸ hhalf
    exact .of_judged hreset hbefore (checkStatisticalOpen_judged config processId nowMs _)

theorem failure_judged (counted : CircuitBreaker) (trips : Prop) [Decidable trips] :
    Judged (limits config) nowMs (view counted) (view (
      if counted.state = .halfOpen then tripOpen config processId nowMs counted
      else if trips then tripOpen config processId nowMs counted
      else checkStatisticalOpen config processId nowMs counted)) := by
  split
  · exact tripOpen_judged config processId nowMs counted
  · split
    · exact tripOpen_judged config processId nowMs counted
    · exact checkStatisticalOpen_judged config processId nowMs counted

theorem releaseTimeout_released (hview : view settled = (view cb).settle) :
    Released (limits config) nowMs false (view cb) (view (releaseTimeout config processId nowMs settled)) := by
  have hcounted : view { settled with
      consecutiveFail := settled.consecutiveFail + 1
      consecutiveTimeout := settled.consecutiveTimeout + 1 } = (view cb).settle := hview
  exact .of_failed hcounted (failure_judged _ _)

theorem releaseError_released (hview : view settled = (view cb).settle) :
    Released (limits config) nowMs false (view cb) (view (releaseError config processId nowMs settled)) := by
  have hcounted : view { settled with consecutiveFail := settled.consecutiveFail + 1 } = (view cb).settle := hview
  exact .of_failed hcounted (failure_judged _ _)

theorem release_released (hinflight : 0 < cb.inflight)
    (hsuccesses : cb.state = .halfOpen → cb.halfOpenSuccesses.toNat + 1 < 2^32) (outcome : RedisCallOutcome)
    (latencyUs : Nat) :
    Released (limits config) nowMs (outcome = .success) (view cb)
      (view (release config processId nowMs outcome latencyUs cb)) := by
  have hgauge : (cb.inflight - 1).toNat = cb.inflight.toNat - 1 := by omega
  have hsettled : view { cb with
      inflight := cb.inflight - 1
      window := record nowMs outcome latencyUs cb.window } = (view cb).settle := by
    simp only [view,View.settle,hgauge]
  unfold release
  cases outcome with
  | success => exact releaseSuccess_released hsettled hsuccesses
  | timeout => exact releaseTimeout_released hsettled
  | redisError => exact releaseError_released hsettled
  | circuitOpen | concurrencyRejected =>
    dsimp only
    rw [hsettled]
    exact Released.settled fun _ => rfl

/-! ### The gauge never goes below zero -/

section
variable (config : CbConfig) (processId nowMs : Nat)

theorem inflight_tripOpen (cb : CircuitBreaker) :
    (tripOpen config processId nowMs cb).inflight = cb.inflight := by
  unfold tripOpen
  split
  · rfl
  · rfl

theorem inflight_checkStatisticalOpen (cb : CircuitBreaker) :
    (checkStatisticalOpen config processId nowMs cb).inflight = cb.inflight := by
  unfold checkStatisticalOpen
  dsimp only
  split
  · rfl
  · split
    · exact inflight_tripOpen config processId nowMs cb
    · rfl

theorem inflight_release (outcome : RedisCallOutcome) (latencyUs : Nat) (cb : CircuitBreaker) :
    (release config processId nowMs outcome latencyUs cb).inflight = cb.inflight - 1 := by
  unfold release releaseSuccess releaseTimeout releaseError
  cases outcome with
  | success =>
    dsimp only
    split
    · split
      · rfl
      · rfl
    · exact inflight_checkStatisticalOpen config processId nowMs _
  | timeout | redisError =>
    dsimp only
    split
    · exact inflight_tripOpen config processId nowMs _
    · split
      · exact inflight_tripOpen config processId nowMs _
      · exact inflight_checkStatisticalOpen config processId nowMs _
  | circuitOpen | concurrencyRejected => rfl

end

theorem inflight_acquireHalfOpen_nonneg (hstate : cb.state = .halfOpen)
    (hinflight : 0 ≤ cb.inflight) : 0 ≤ (acquireHalfOpen config processId nowMs cb).2.inflight := by
  rw [acquireHalfOpen_eq hstate]
  split
  · rw [inflight_tripOpen]
    exact hinflight
  · split
    · exact hinflight
    · split
      · exact hinflight
      · dsimp only
        omega

theorem inflight_acquire_nonneg (hinflight : 0 ≤ cb.inflight) :
    0 ≤ (acquire config processId nowMs cb).2.inflight := by
  cases hstate : cb.state with
  | closed =>
    rw [acquire_closed hstate]
    split
    · exact hinflight
    · dsimp only
      omega
  | opened =>
    rw [acquire_opened hstate]
    split
    · have hentered : (enterHalfOpen nowMs cb).state = .halfOpen := rfl
      exact inflight_acquireHalfOpen_nonneg hentered hinflight
    · exact hinflight
  | halfOpen =>
    rw [acquire_halfOpen hstate]
    exact inflight_acquireHalfOpen_nonneg hstate hinflight

end Life

def Valid (cb : CircuitBreaker) : Prop := 0 ≤ cb.inflight

theorem machine_lawful (Draw : Type) (config : ClampedConfig) (processId : Nat) :
    Lawful (limits config.toCbConfig) (machine Draw config.toCbConfig processId) Valid where
  acquired := by
    intro nowMs draw cb hvalid hsane
    refine acquire_acquired hvalid fun hhalf => ?_
    have hdispatched : cb.probesDispatched.toNat ≤ config.halfOpenProbes := hsane.dispatched_le hhalf
    have hprobes := config.halfOpenProbes_range
    omega
  acquired_valid := fun nowMs draw cb hvalid => inflight_acquire_nonneg hvalid
  released := by
    intro nowMs draw outcome latencyUs cb hvalid hsane hheld
    have hinflight : 0 < cb.inflight := by
      have hgauge : 0 < cb.inflight.toNat := hheld
      omega
    refine release_released hinflight (fun hhalf => ?_) outcome latencyUs
    have hsuccesses : cb.halfOpenSuccesses.toNat + cb.inflight.toNat ≤
        max config.maxInflight config.halfOpenProbes + cb.probesDispatched.toNat := hsane.successes_le hhalf
    have hdispatched : cb.probesDispatched.toNat ≤ config.halfOpenProbes := hsane.dispatched_le hhalf
    have hprobes := config.halfOpenProbes_range
    have hmax := config.maxInflight_range
    omega
  released_valid := by
    intro nowMs draw outcome latencyUs cb hvalid hheld
    have hinflight : 0 < cb.inflight := by
      have hgauge : 0 < cb.inflight.toNat := hheld
      omega
    have hafter := inflight_release config.toCbConfig processId nowMs outcome latencyUs cb
    unfold Valid machine
    dsimp only
    omega

/-! ## After a recovery -/

section Recovery
variable {config : CbConfig} {processId nowMs : Nat} {outcome : RedisCallOutcome} {latencyUs : Nat}
  {cb : CircuitBreaker}

theorem release_closed (hhalf : cb.state = .halfOpen)
    (hclosed : (release config processId nowMs outcome latencyUs cb).state = .closed) :
    let window := (release config processId nowMs outcome latencyUs cb).window
    let stats := aggregate nowMs config.windowSecs window
    window = record nowMs outcome latencyUs cb.window ∧
      (percentileUs stats 99 : ℚ) ≤ config.p99UsRecovery ∧ errorRate stats ≤ config.errorRateRecovery := by
  cases outcome with
  | success =>
    simp only [release,releaseSuccess,hhalf,if_true] at hclosed ⊢
    split
    next hrecovered => exact ⟨rfl,hrecovered.2⟩
    next hfailing =>
      rw [if_neg hfailing] at hclosed
      contradiction
  | timeout => simp [release,releaseTimeout,tripOpen,hhalf] at hclosed
  | redisError => simp [release,releaseError,tripOpen,hhalf] at hclosed
  | circuitOpen | concurrencyRejected => simp [release,hhalf] at hclosed

theorem release_success_iff (config : CbConfig) (processId nowMs latencyUs : Nat)
    (hclosed : cb.state = .closed) : (release config processId nowMs .success latencyUs cb).state ≠ .opened ↔
      Healthy bands config.minSamples config.p99UsOpen config.errorRateOpen config.timeoutRateOpen
        (aggregate nowMs config.windowSecs (record nowMs .success latencyUs cb.window)) := by
  rw [healthy_iff]
  simp only [release,releaseSuccess,hclosed,checkStatisticalOpen,reduceCtorEq,if_false]
  split
  next hfew => exact iff_of_true (by simp) fun hboth => hfew.not_ge hboth.1
  next henough =>
    split
    next hdegraded => exact iff_of_false (by simp [tripOpen]) (not_not.mpr ⟨not_lt.mp henough,hdegraded⟩)
    next hsound => exact iff_of_true (by simp) fun hboth => hsound hboth.2

theorem closed_after_success_iff (config : ClampedConfig) (processId : Nat) {cb : CircuitBreaker}
    {closeMs acquireMs releaseMs : Nat} (hp99 : config.p99UsRecovery < config.p99UsOpen)
    (herrors : config.errorRateRecovery < config.errorRateOpen) (hhalf : cb.state = .halfOpen)
    (hclosed : (release config.toCbConfig processId closeMs outcome latencyUs cb).state = .closed)
    (hsecond : closeMs / 1000 = releaseMs / 1000)
    (hadmitted : (acquire config.toCbConfig processId acquireMs
      (release config.toCbConfig processId closeMs outcome latencyUs cb)).1 = .ok ()) (nextUs : Nat) :
    (release config.toCbConfig processId releaseMs .success nextUs
        (acquire config.toCbConfig processId acquireMs
          (release config.toCbConfig processId closeMs outcome latencyUs cb)).2).state ≠ .opened ↔
      Calm bands config.minSamples config.p99UsOpen config.timeoutRateOpen
        (aggregate releaseMs config.windowSecs
          (release config.toCbConfig processId closeMs outcome latencyUs cb).window) (bandOf nextUs) := by
  obtain ⟨hwindow,hrecovered⟩ := release_closed hhalf hclosed
  generalize hopen : release config.toCbConfig processId closeMs outcome latencyUs cb = recovered at *
  have hresult : (acquire config.toCbConfig processId acquireMs recovered).2 =
      { recovered with inflight := recovered.inflight + 1 } := by
    rw [acquire_closed hclosed] at hadmitted ⊢
    split at hadmitted
    · contradiction
    next hroom => rw [if_neg hroom]
  have hts : currentTs closeMs = currentTs releaseMs := by rw [currentTs,currentTs,hsecond]
  unfold aggregate isFresh at hrecovered
  rw [hts] at hrecovered
  rw [record,hts] at hwindow
  have hfresh : isFresh releaseMs config.windowSecs (currentTs releaseMs) = true := by simp [isFresh]
  have htop : config.p99UsOpen ≤ bands.top := config.p99UsOpen_range.2.trans (by decide)
  have hstill : { recovered with inflight := recovered.inflight + 1 }.state = .closed := hclosed
  rw [hresult,release_success_iff config.toCbConfig processId releaseMs nextUs hstill]
  exact record_healthy_iff hwindow hfresh htop hrecovered hp99 herrors (bandOf nextUs)

end Recovery

end Routiq.Edge.RedisBreaker
