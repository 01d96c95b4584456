import Routiq.Core.Breaker
import Routiq.Core.RollingWindow
import Mathlib.Algebra.Order.Field.Rat
import Mathlib.Tactic.NormNum

/-! The backend's Redis circuit breaker (`redisCircuitBreaker.ts`). Its numbers
are exact here, as they are in the source below 2^53; `Math.random` is drawn by
the caller of each function. -/
namespace Routiq.Uam.RedisBreaker
open Core Breaker RollingWindow

inductive RedisCallOutcome where
  | success | redisError | timeout | circuitOpen | concurrencyRejected
deriving DecidableEq

structure CircuitBreakerConfig where
  (windowSecs minSamples consecutiveFailOpen consecutiveTimeoutOpen : Nat)
  (errorRateOpen timeoutRateOpen : ℚ)
  p99UsOpen : Nat
  (p99UsRecovery errorRateRecovery : ℚ)
  (openCooldownMs cooldownJitterMs halfOpenProbes recoverySuccesses maxInflight halfOpenMaxMs : Nat)
  operationTimeoutMs : Nat
deriving DecidableEq

section
variable (c : CircuitBreakerConfig)

def clampConfig : CircuitBreakerConfig :=
  let clamped : CircuitBreakerConfig :=
    { windowSecs := min 60 (max 1 c.windowSecs)
      minSamples := min 1000 (max 5 c.minSamples)
      consecutiveFailOpen := min 100 (max 1 c.consecutiveFailOpen)
      consecutiveTimeoutOpen := min 100 (max 1 c.consecutiveTimeoutOpen)
      errorRateOpen := min 1 (max 0 c.errorRateOpen)
      timeoutRateOpen := min 1 (max 0 c.timeoutRateOpen)
      p99UsOpen := min 60000000 (max 1000 c.p99UsOpen)
      p99UsRecovery := min 60000000 (max 1000 c.p99UsRecovery)
      errorRateRecovery := min 1 (max 0 c.errorRateRecovery)
      openCooldownMs := min 300000 (max 100 c.openCooldownMs)
      cooldownJitterMs := min 60000 (max 0 c.cooldownJitterMs)
      halfOpenProbes := min 20 (max 1 c.halfOpenProbes)
      recoverySuccesses := min 20 (max 1 c.recoverySuccesses)
      maxInflight := min 10000 (max 1 c.maxInflight)
      halfOpenMaxMs := min 600000 (max 1000 c.halfOpenMaxMs)
      operationTimeoutMs := min 60000 (max 100 c.operationTimeoutMs) }
  if clamped.halfOpenProbes < clamped.recoverySuccesses then
    { clamped with recoverySuccesses := clamped.halfOpenProbes }
  else clamped

theorem p99UsOpen_clampConfig_le : (clampConfig c).p99UsOpen ≤ 60000000 := by
  unfold clampConfig
  dsimp only
  split
  · exact min_le_left _ _
  · exact min_le_left _ _

theorem clampConfig_pos :
    0 < (clampConfig c).maxInflight ∧ 0 < (clampConfig c).halfOpenProbes ∧ 0 < (clampConfig c).halfOpenMaxMs := by
  have hinflight : 0 < min 10000 (max 1 c.maxInflight) := by omega
  have hprobes : 0 < min 20 (max 1 c.halfOpenProbes) := by omega
  have hmax : 0 < min 600000 (max 1000 c.halfOpenMaxMs) := by omega
  unfold clampConfig
  dsimp only
  split
  · exact ⟨hinflight,hprobes,hmax⟩
  · exact ⟨hinflight,hprobes,hmax⟩

end

/-! ## The rolling window -/

abbrev histBands : Nat := 18

def histBoundsUs : List Nat :=
  [500,1000,2000,4000,8000,16000,32000,64000,100000,150000,200000,300000,400000,500000,
    750000,1000000,2000000]

def maxWindowBuckets : Nat := 64
abbrev TimeBucket := Bucket histBands
abbrev WindowStats := Tally histBands

def bands : Bands histBands where
  upper := fun band => histBoundsUs.getD band (2^53 - 1)
  top := 2^53 - 1
  monotone := by decide
  upper_le := by decide

def bandOf (latencyUs : Nat) : Fin histBands :=
  ⟨histBoundsUs.findIdx fun bound => latencyUs ≤ bound,Nat.lt_succ_of_le List.findIdx_le_length⟩

def nowSecs (nowMs : Nat) : Nat := nowMs / 1000

def record (nowMs : Nat) (outcome : RedisCallOutcome) (latencyUs : Nat) (window : Window histBands) :
    Window histBands :=
  window.record (nowSecs nowMs) (bandOf latencyUs) (outcome = .redisError) (outcome = .timeout)

def isFresh (nowMs windowSecs ts : Nat) : Bool :=
  !((ts : Int) < (nowSecs nowMs : Int) - windowSecs || nowSecs nowMs < ts)

def aggregate (nowMs windowSecs : Nat) (window : Window histBands) : WindowStats :=
  window.aggregate (isFresh nowMs windowSecs)

section
variable (stats : WindowStats)

def errorRate : ℚ :=
  if stats.total = 0 then 0 else stats.errors / stats.total

def timeoutRate : ℚ :=
  if stats.total = 0 then 0 else stats.timeouts / stats.total

def percentileUs (pct : ℚ) : Nat := percentile bands stats pct

end

/-! ## The breaker -/

structure CircuitBreaker where
  state : Circuit
  (openedAtMs cooldownMs consecutiveFail consecutiveTimeout probesDispatched halfOpenSuccesses : Nat)
  (halfOpenStartedAtMs inflight : Nat)
  window : Window histBands

/-- The fields of a new breaker; its configuration is `clampConfig` of the
argument. -/
def CircuitBreaker.new (config : CircuitBreakerConfig) : CircuitBreaker where
  state := .closed
  openedAtMs := 0
  cooldownMs := 0
  consecutiveFail := 0
  consecutiveTimeout := 0
  probesDispatched := 0
  halfOpenSuccesses := 0
  halfOpenStartedAtMs := 0
  inflight := 0
  window := .fresh (min maxWindowBuckets (max 1 (clampConfig config).windowSecs))
    (lt_min (by decide) (lt_max_of_lt_left Nat.one_pos))

structure Random where
  value : ℚ
  nonneg : 0 ≤ value
  lt_one : value < 1

section
variable (config : CircuitBreakerConfig) (random : Random) (nowMs : Nat)

def jitterMs : Nat :=
  if 0 < config.cooldownJitterMs then ⌊random.value * config.cooldownJitterMs⌋₊ else 0

section
variable (cb : CircuitBreaker)

def tripOpen : CircuitBreaker :=
  let effectiveCooldown := config.openCooldownMs + jitterMs config random
  if cb.state ≠ .opened then
    { cb with state := .opened, openedAtMs := nowMs, cooldownMs := effectiveCooldown }
  else cb

def acquireHalfOpen : Option RedisCallOutcome × CircuitBreaker :=
  if (config.halfOpenMaxMs : Int) ≤ (nowMs : Int) - cb.halfOpenStartedAtMs then
    (some .circuitOpen,if cb.state = .halfOpen then tripOpen config random nowMs cb else cb)
  else if config.halfOpenProbes ≤ cb.probesDispatched then (some .circuitOpen,cb)
  else if config.halfOpenProbes ≤ cb.inflight then (some .concurrencyRejected,cb)
  else (none,{ cb with probesDispatched := cb.probesDispatched + 1, inflight := cb.inflight + 1 })

def enterHalfOpen : CircuitBreaker :=
  { cb with
    state := .halfOpen
    probesDispatched := 0
    halfOpenSuccesses := 0
    halfOpenStartedAtMs := nowMs }

/-- The rejection, or `none` to proceed. -/
def acquire : Option RedisCallOutcome × CircuitBreaker :=
  match cb.state with
  | .closed =>
      if config.maxInflight ≤ cb.inflight then (some .concurrencyRejected,cb)
      else (none,{ cb with inflight := cb.inflight + 1 })
  | .opened =>
      if (cb.cooldownMs : Int) ≤ (nowMs : Int) - cb.openedAtMs then
        acquireHalfOpen config random nowMs (enterHalfOpen nowMs cb)
      else (some .circuitOpen,cb)
  | .halfOpen => acquireHalfOpen config random nowMs cb

def degraded (stats : WindowStats) : Bool :=
  config.errorRateOpen ≤ errorRate stats || config.timeoutRateOpen ≤ timeoutRate stats ||
    config.p99UsOpen ≤ percentileUs stats 99

def checkStatisticalOpen : CircuitBreaker :=
  let stats := aggregate nowMs config.windowSecs cb.window
  if stats.total < config.minSamples then cb
  else if degraded config stats then tripOpen config random nowMs cb
  else cb

def releaseSuccess : CircuitBreaker :=
  let cb := { cb with consecutiveFail := 0, consecutiveTimeout := 0 }
  if cb.state = .halfOpen then
    let cb := { cb with halfOpenSuccesses := cb.halfOpenSuccesses + 1 }
    if config.recoverySuccesses ≤ cb.halfOpenSuccesses then
      let stats := aggregate nowMs config.windowSecs cb.window
      if (percentileUs stats 99 : ℚ) ≤ config.p99UsRecovery ∧ errorRate stats ≤ config.errorRateRecovery then
        { cb with state := .closed }
      else cb
    else cb
  else checkStatisticalOpen config random nowMs cb

def releaseTimeout : CircuitBreaker :=
  let cb := { cb with
    consecutiveFail := cb.consecutiveFail + 1
    consecutiveTimeout := cb.consecutiveTimeout + 1 }
  if cb.state = .halfOpen then tripOpen config random nowMs cb
  else if config.consecutiveTimeoutOpen ≤ cb.consecutiveTimeout ∨
      config.consecutiveFailOpen ≤ cb.consecutiveFail then tripOpen config random nowMs cb
  else checkStatisticalOpen config random nowMs cb

def releaseError : CircuitBreaker :=
  let cb := { cb with consecutiveFail := cb.consecutiveFail + 1 }
  if cb.state = .halfOpen then tripOpen config random nowMs cb
  else if config.consecutiveFailOpen ≤ cb.consecutiveFail then tripOpen config random nowMs cb
  else checkStatisticalOpen config random nowMs cb

end

def release (outcome : RedisCallOutcome) (latencyUs : Nat) (cb : CircuitBreaker) : CircuitBreaker :=
  let cb := { cb with
    inflight := cb.inflight - 1
    window := record nowMs outcome latencyUs cb.window }
  match outcome with
  | .success => releaseSuccess config random nowMs cb
  | .timeout => releaseTimeout config random nowMs cb
  | .redisError => releaseError config random nowMs cb
  | .circuitOpen => cb
  | .concurrencyRejected => cb

end

/-! ## Its life -/

def limits (config : CircuitBreakerConfig) : Limits where
  maxInflight := config.maxInflight
  probes := config.halfOpenProbes
  recovery := config.recoverySuccesses
  halfOpenMax := config.halfOpenMaxMs
  maxCooldown := config.openCooldownMs + config.cooldownJitterMs

def view (cb : CircuitBreaker) : View where
  circuit := cb.state
  openedAt := cb.openedAtMs
  cooldown := cb.cooldownMs
  startedAt := cb.halfOpenStartedAtMs
  dispatched := cb.probesDispatched
  successes := cb.halfOpenSuccesses
  inflight := cb.inflight

def admits (answer : Option RedisCallOutcome) : Bool := answer.isNone

def machine (config : CircuitBreakerConfig) :
    Machine CircuitBreaker (Option RedisCallOutcome) RedisCallOutcome Random where
  view := view
  admits := admits
  succeeds := fun outcome => outcome = .success
  acquire := fun nowMs random cb => acquire config random nowMs cb
  release := fun nowMs random outcome latencyUs cb => release config random nowMs outcome latencyUs cb

section Life
variable {config : CircuitBreakerConfig} {random : Random} {nowMs : Nat} {cb : CircuitBreaker}

theorem jitterMs_le (config : CircuitBreakerConfig) (random : Random) :
    jitterMs config random ≤ config.cooldownJitterMs := by
  unfold jitterMs
  split
  · apply Nat.floor_le_of_le
    have hpositive : (0 : ℚ) ≤ config.cooldownJitterMs := Nat.cast_nonneg _
    exact mul_le_of_le_one_left hpositive random.lt_one.le
  · exact Nat.zero_le _

theorem view_tripOpen (hopened : cb.state ≠ .opened) : view (tripOpen config random nowMs cb) =
      (view cb).trip nowMs (config.openCooldownMs + jitterMs config random) := by
  simp [tripOpen,hopened,view,View.trip]

theorem cooldown_le (config : CircuitBreakerConfig) (random : Random) :
    config.openCooldownMs + jitterMs config random ≤ (limits config).maxCooldown := by
  have hjitter := jitterMs_le config random
  simp only [limits]
  omega

theorem acquireHalfOpen_probed (hstate : cb.state = .halfOpen) (hstarted : cb.halfOpenStartedAtMs ≤ nowMs) :
    Probed (limits config) nowMs (view cb) (admits (acquireHalfOpen config random nowMs cb).1)
      (view (acquireHalfOpen config random nowMs cb).2) := by
  unfold acquireHalfOpen
  split
  · rw [view_tripOpen (by simp [hstate])]
    refine .rearmed _ ?_ (cooldown_le config random)
    simp only [limits,view]
    omega
  next hearly =>
    have hearly' : nowMs - (view cb).startedAt < (limits config).halfOpenMax := by
      simp only [limits,view]
      omega
    split
    next hbusy => exact .refused hearly' (.inl hbusy)
    next hfree =>
      split
      next hbusy => exact .refused hearly' (.inr hbusy)
      next hroom => exact .admitted hearly' (not_le.mp hfree) (not_le.mp hroom)

theorem acquire_acquired (hsane : Sane (limits config) nowMs (view cb)) :
    Acquired (limits config) nowMs (view cb) (admits (acquire config random nowMs cb).1)
      (view (acquire config random nowMs cb).2) := by
  unfold acquire
  cases hstate : cb.state with
  | closed =>
    dsimp only
    split
    next hfull => exact .full hstate hfull
    next hroom =>
      rw [← hstate]
      exact .admitted hstate (not_le.mp hroom)
  | opened =>
    have hpast : cb.openedAtMs ≤ nowMs := hsane.opened_le hstate
    dsimp only
    split
    · have hentered : (enterHalfOpen nowMs cb).state = .halfOpen := rfl
      refine .entered _ _ hstate ?_ (acquireHalfOpen_probed hentered (le_refl nowMs))
      simp only [view]
      omega
    · refine .cooling hstate ?_
      simp only [view]
      omega
  | halfOpen => exact .probed _ _ hstate (acquireHalfOpen_probed hstate (hsane.started_le hstate))

section
variable (config : CircuitBreakerConfig) (random : Random) (nowMs : Nat) (cb : CircuitBreaker)

theorem tripOpen_judged :
    Judged (limits config) nowMs (view cb) (view (tripOpen config random nowMs cb)) := by
  by_cases hopened : cb.state = .opened
  · left
    simp [tripOpen,hopened]
  · exact .inr ⟨hopened,_,cooldown_le config random,view_tripOpen hopened⟩

theorem checkStatisticalOpen_judged :
    Judged (limits config) nowMs (view cb) (view (checkStatisticalOpen config random nowMs cb)) := by
  unfold checkStatisticalOpen
  dsimp only
  split
  · exact .inl rfl
  · split
    · exact tripOpen_judged config random nowMs cb
    · exact .inl rfl

end

variable {settled : CircuitBreaker}

theorem releaseSuccess_released (hview : view settled = (view cb).settle) :
    Released (limits config) nowMs true (view cb) (view (releaseSuccess config random nowMs settled)) := by
  have hstate : settled.state = cb.state := congrArg View.circuit hview
  have hcount : settled.halfOpenSuccesses = cb.halfOpenSuccesses := congrArg View.successes hview
  unfold releaseSuccess
  dsimp only
  split
  next hhalf =>
    have hbefore : (view cb).circuit = .halfOpen := hstate.symm.trans hhalf
    have hcounted : view { settled with
        consecutiveFail := 0, consecutiveTimeout := 0
        halfOpenSuccesses := settled.halfOpenSuccesses + 1 } = (view cb).settle.succeed := by
      rw [← hview]
      rfl
    split
    next henough =>
      split
      · have hclosed : view { settled with
            state := .closed, consecutiveFail := 0, consecutiveTimeout := 0
            halfOpenSuccesses := settled.halfOpenSuccesses + 1 } = (view cb).settle.succeed.close := by
          rw [← hcounted]
          rfl
        rw [hclosed]
        refine .recovered hbefore rfl ?_
        rw [hcount] at henough
        exact henough
      · rw [hcounted]
        exact .counted hbefore rfl
    · rw [hcounted]
      exact .counted hbefore rfl
  next hhalf =>
    have hreset : view { settled with consecutiveFail := 0, consecutiveTimeout := 0 } = (view cb).settle := hview
    have hbefore : cb.state ≠ .halfOpen := hstate ▸ hhalf
    exact .of_judged hreset hbefore (checkStatisticalOpen_judged config random nowMs _)

theorem failure_judged (counted : CircuitBreaker) (trips : Prop) [Decidable trips] :
    Judged (limits config) nowMs (view counted) (view (
      if counted.state = .halfOpen then tripOpen config random nowMs counted
      else if trips then tripOpen config random nowMs counted
      else checkStatisticalOpen config random nowMs counted)) := by
  split
  · exact tripOpen_judged config random nowMs counted
  · split
    · exact tripOpen_judged config random nowMs counted
    · exact checkStatisticalOpen_judged config random nowMs counted

theorem releaseTimeout_released (hview : view settled = (view cb).settle) :
    Released (limits config) nowMs false (view cb) (view (releaseTimeout config random nowMs settled)) := by
  have hcounted : view { settled with
      consecutiveFail := settled.consecutiveFail + 1
      consecutiveTimeout := settled.consecutiveTimeout + 1 } = (view cb).settle := hview
  exact .of_failed hcounted (failure_judged _ _)

theorem releaseError_released (hview : view settled = (view cb).settle) :
    Released (limits config) nowMs false (view cb) (view (releaseError config random nowMs settled)) := by
  have hcounted : view { settled with consecutiveFail := settled.consecutiveFail + 1 } = (view cb).settle := hview
  exact .of_failed hcounted (failure_judged _ _)

theorem release_released (outcome : RedisCallOutcome) (latencyUs : Nat) :
    Released (limits config) nowMs (outcome = .success) (view cb)
      (view (release config random nowMs outcome latencyUs cb)) := by
  have hsettled : view { cb with
      inflight := cb.inflight - 1
      window := record nowMs outcome latencyUs cb.window } = (view cb).settle := rfl
  cases outcome with
  | success => exact releaseSuccess_released hsettled
  | timeout => exact releaseTimeout_released hsettled
  | redisError => exact releaseError_released hsettled
  | circuitOpen | concurrencyRejected => exact .settled fun _ => rfl

end Life

theorem machine_lawful (config : CircuitBreakerConfig) :
    Lawful (limits config) (machine config) fun _ => True where
  acquired := fun _ _ _ _ hsane => acquire_acquired hsane
  acquired_valid := fun _ _ _ _ => trivial
  released := fun _ _ outcome latencyUs _ _ _ _ => release_released outcome latencyUs
  released_valid := fun _ _ _ _ _ _ _ => trivial

/-! ## After a recovery -/

section Recovery
variable {config : CircuitBreakerConfig} {random : Random} {nowMs : Nat} {outcome : RedisCallOutcome}
  {latencyUs : Nat} {cb : CircuitBreaker}

theorem release_closed (hhalf : cb.state = .halfOpen)
    (hclosed : (release config random nowMs outcome latencyUs cb).state = .closed) :
    let window := (release config random nowMs outcome latencyUs cb).window
    let stats := aggregate nowMs config.windowSecs window
    window = record nowMs outcome latencyUs cb.window ∧
      (percentileUs stats 99 : ℚ) ≤ config.p99UsRecovery ∧ errorRate stats ≤ config.errorRateRecovery := by
  cases outcome with
  | success =>
    simp only [release,releaseSuccess,hhalf,if_true] at hclosed ⊢
    split
    next henough =>
      rw [if_pos henough] at hclosed
      split
      next hrecovered => exact ⟨rfl,hrecovered⟩
      next hfailing =>
        rw [if_neg hfailing] at hclosed
        contradiction
    next hfew =>
      rw [if_neg hfew] at hclosed
      contradiction
  | timeout => simp [release,releaseTimeout,tripOpen,hhalf] at hclosed
  | redisError => simp [release,releaseError,tripOpen,hhalf] at hclosed
  | circuitOpen | concurrencyRejected => simp [release,hhalf] at hclosed

theorem release_success_iff (config : CircuitBreakerConfig) (random : Random) (nowMs latencyUs : Nat)
    (hclosed : cb.state = .closed) : (release config random nowMs .success latencyUs cb).state ≠ .opened ↔
      Healthy bands config.minSamples config.p99UsOpen config.errorRateOpen config.timeoutRateOpen
        (aggregate nowMs config.windowSecs (record nowMs .success latencyUs cb.window)) := by
  rw [healthy_iff]
  simp only [release,releaseSuccess,hclosed,checkStatisticalOpen,reduceCtorEq,if_false]
  split
  next hfew => exact iff_of_true (by simp) fun hboth => hfew.not_ge hboth.1
  next henough =>
    split
    next hdegraded => exact iff_of_false (by simp [tripOpen]) (not_not.mpr ⟨not_lt.mp henough,hdegraded⟩)
    next hsound => exact iff_of_true (by simp) fun hboth => hsound hboth.2

theorem closed_after_success_iff (raw : CircuitBreakerConfig) {config : CircuitBreakerConfig}
    (hconfig : config = clampConfig raw) (closing entering leaving : Random) {cb : CircuitBreaker}
    {closeMs acquireMs releaseMs : Nat} (hp99 : config.p99UsRecovery < config.p99UsOpen)
    (herrors : config.errorRateRecovery < config.errorRateOpen) (hhalf : cb.state = .halfOpen)
    (hclosed : (release config closing closeMs outcome latencyUs cb).state = .closed)
    (hsecond : closeMs / 1000 = releaseMs / 1000)
    (hadmitted : (acquire config entering acquireMs (release config closing closeMs outcome latencyUs cb)).1 = none)
    (nextUs : Nat) : (release config leaving releaseMs .success nextUs
        (acquire config entering acquireMs (release config closing closeMs outcome latencyUs cb)).2).state ≠ .opened ↔
      Calm bands config.minSamples config.p99UsOpen config.timeoutRateOpen
        (aggregate releaseMs config.windowSecs (release config closing closeMs outcome latencyUs cb).window)
        (bandOf nextUs) := by
  obtain ⟨hwindow,hrecovered⟩ := release_closed hhalf hclosed
  generalize hopen : release config closing closeMs outcome latencyUs cb = recovered at *
  have hresult : (acquire config entering acquireMs recovered).2 =
      { recovered with inflight := recovered.inflight + 1 } := by
    simp only [acquire,hclosed] at hadmitted ⊢
    split at hadmitted
    · contradiction
    next hroom => rw [if_neg hroom]
  have hts : nowSecs closeMs = nowSecs releaseMs := by rw [nowSecs,nowSecs,hsecond]
  unfold aggregate isFresh at hrecovered
  rw [hts] at hrecovered
  rw [record,hts] at hwindow
  have hfresh : isFresh releaseMs config.windowSecs (nowSecs releaseMs) = true := by simp [isFresh]
  have htop : config.p99UsOpen ≤ bands.top := by
    rw [hconfig]
    exact (p99UsOpen_clampConfig_le raw).trans (by decide)
  have hstill : { recovered with inflight := recovered.inflight + 1 }.state = .closed := hclosed
  rw [hresult,release_success_iff config leaving releaseMs nextUs hstill]
  exact record_healthy_iff hwindow hfresh htop hrecovered hp99 herrors (bandOf nextUs)

end Recovery

end Routiq.Uam.RedisBreaker
