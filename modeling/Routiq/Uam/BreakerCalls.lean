import Mathlib.Data.List.Infix
import Mathlib.Data.List.Nodup
import Routiq.Uam.RedisBreaker

/-! `withCircuitBreaker`: Redis commands under the breaker, each with a deadline
of its own. The timer and the promise of the wrapped function race to release
the call, on one event loop. -/
namespace Routiq.Uam.BreakerCalls
open Core Function Runs Breaker RedisBreaker List

/-! ## Rejections -/

/-- What a promise is rejected with, as far as it is looked at. `message` is its
text, or `none` if it has none and cannot be converted to one. -/
structure Thrown where
  (message code : Option String)
deriving DecidableEq

def includes (text part : String) : Bool := part.toList <:+: text.toList

/-- `none` if the function throws itself. -/
def classifyRedisError (toLowerCase : String → String) (err : Thrown) : Option RedisCallOutcome :=
  err.message.map fun message =>
    if includes (toLowerCase message) "timed out" || includes (toLowerCase message) "wouldblock" ||
        includes (toLowerCase message) "timeout" || err.code = some "ETIMEDOUT" then .timeout
    else .redisError

/-! ## Calls -/

inductive Timer where
  | armed | cleared | fired
deriving DecidableEq

/-- `clearTimeout` has no effect on a timer that has fired. -/
def Timer.clear : Timer → Timer
  | .armed => .cleared
  | timer => timer

/-- An admitted call. `awaiting` if the handlers are attached to the promise of
the function and it has not settled. -/
structure Attempt where
  deadlineMs : Nat
  timer : Timer
  (awaiting settled : Bool)
deriving DecidableEq

inductive Status where
  | idle
  | refused (outcome : RedisCallOutcome)
  | admitted (attempt : Attempt)
deriving DecidableEq

inductive Mark (Call : Type) where
  | admitted (call : Call)
  | released (call : Call)
deriving DecidableEq

structure Loop (Call : Type) where
  breaker : CircuitBreaker
  clockMs : Nat
  calls : Call → Status
  log : List (Mark Call)

/-- What the event loop runs next. A function that throws has not returned a
promise. -/
inductive Task (Call : Type) where
  | enter (call : Call) (throws : Bool)
  | resolve (call : Call)
  | reject (call : Call) (err : Thrown)
  | fire (call : Call)

structure Turn (Call : Type) where
  elapsedMs : Nat
  random : Random
  latencyUs : Nat
  task : Task Call

section Model
variable {Call : Type} [DecidableEq Call] (config : CircuitBreakerConfig)
  (toLowerCase : String → String)
  (turn : Turn Call)

section
variable (loop : Loop Call)

section
variable (call : Call)

def Loop.put (attempt : Attempt) : Loop Call :=
  { loop with calls := Function.update loop.calls call (.admitted attempt) }

/-- Only the first of timer and function releases. -/
def finish (attempt : Attempt) (outcome : RedisCallOutcome) (loop : Loop Call) : Loop Call :=
  if attempt.settled then loop.put call attempt
  else
    { loop.put call { attempt with settled := true } with
      breaker := release config turn.random loop.clockMs outcome turn.latencyUs loop.breaker
      log := loop.log ++ [.released call] }

def enter (throws : Bool) (loop : Loop Call) : Loop Call :=
  match loop.calls call with
  | .idle =>
    let acquired := acquire config turn.random loop.clockMs loop.breaker
    match acquired.1 with
    | some outcome =>
      { loop with breaker := acquired.2, calls := Function.update loop.calls call (.refused outcome) }
    | none =>
      { loop.put call ⟨loop.clockMs + config.operationTimeoutMs,.armed,!throws,false⟩ with
        breaker := acquired.2
        log := loop.log ++ [.admitted call] }
  | _ => loop

def resolve (loop : Loop Call) : Loop Call :=
  match loop.calls call with
  | .admitted attempt =>
    if attempt.awaiting then
      finish config turn call { attempt with awaiting := false, timer := attempt.timer.clear } .success loop
    else loop
  | _ => loop

/-- The timer is cleared before the error is looked at. -/
def reject (err : Thrown) (loop : Loop Call) : Loop Call :=
  match loop.calls call with
  | .admitted attempt =>
    if attempt.awaiting then
      let handled := { attempt with awaiting := false, timer := attempt.timer.clear }
      match classifyRedisError toLowerCase err with
      | some outcome => finish config turn call handled outcome loop
      | none => loop.put call handled
    else loop
  | _ => loop

def fire (loop : Loop Call) : Loop Call :=
  match loop.calls call with
  | .admitted attempt =>
    if attempt.timer = .armed ∧ attempt.deadlineMs ≤ loop.clockMs then
      finish config turn call { attempt with timer := .fired } .timeout loop
    else loop
  | _ => loop

end

def perform : Task Call → Loop Call
  | .enter call throws => enter config turn call throws loop
  | .resolve call => resolve config turn call loop
  | .reject call err => reject config toLowerCase turn call err loop
  | .fire call => fire config turn call loop

def Loop.pass (elapsedMs : Nat) : Loop Call :=
  { loop with clockMs := loop.clockMs + elapsedMs }

def step (turn : Turn Call) : Loop Call :=
  perform config toLowerCase turn (loop.pass turn.elapsedMs) turn.task

end

def start (clockMs : Nat) : Loop Call := ⟨.new config,clockMs,fun _ => .idle,[]⟩

end Model

/-! ## Admissions and releases -/

section Log
variable {Call : Type} {log : List (Mark Call)} {call : Call}

def Mark.admission? : Mark Call → Option Call
  | .admitted call => some call
  | .released _ => none

def Mark.release? : Mark Call → Option Call
  | .admitted _ => none
  | .released call => some call

section
variable (log : List (Mark Call))

def admissions : List Call := log.filterMap Mark.admission?
def releases : List Call := log.filterMap Mark.release?

variable (call : Call)

@[simp] theorem admissions_admitted : admissions (log ++ [.admitted call]) = admissions log ++ [call] := by
  simp [admissions,Mark.admission?]

@[simp] theorem admissions_released : admissions (log ++ [.released call]) = admissions log := by
  simp [admissions,Mark.admission?]

@[simp] theorem releases_admitted : releases (log ++ [.admitted call]) = releases log := by
  simp [releases,Mark.release?]

@[simp] theorem releases_released : releases (log ++ [.released call]) = releases log ++ [call] := by
  simp [releases,Mark.release?]

end

variable [DecidableEq Call]

def outstanding (log : List (Mark Call)) : List Call := (admissions log).filter fun call => call ∉ releases log

theorem outstanding_admitted (hreleased : call ∉ releases log) :
    outstanding (log ++ [.admitted call]) = outstanding log ++ [call] := by
  simp [outstanding,hreleased]

theorem length_outstanding_released (honce : (admissions log).Nodup) (hcall : call ∈ outstanding log) :
    (outstanding (log ++ [.released call])).length = (outstanding log).length - 1 := by
  have herase : outstanding (log ++ [.released call]) = (outstanding log).erase call := by
    have honce : (outstanding log).Nodup := honce.filter _
    rw [honce.erase_eq_filter]
    simp only [outstanding,filter_filter,admissions_released,releases_released]
    apply filter_congr
    intro other _
    by_cases hother : other = call <;> simp [hother]
  rw [herase,length_erase_of_mem hcall]

end Log

/-! ## Every call is released once -/

section Calls
variable {Call : Type} [DecidableEq Call] {config : CircuitBreakerConfig}
  {toLowerCase : String → String}
  {turn : Turn Call} {loop : Loop Call} {call : Call} {attempt : Attempt}

/-- What the log says of a call. One that is not released has its timer running. -/
def Recorded (log : List (Mark Call)) (call : Call) : Status → Prop
  | .admitted attempt =>
    call ∈ admissions log ∧
      if attempt.settled then call ∈ releases log else call ∉ releases log ∧ attempt.timer = .armed
  | _ => call ∉ admissions log ∧ call ∉ releases log

structure Held (config : CircuitBreakerConfig) (loop : Loop Call) : Prop where
  sane : Sane (limits config) loop.clockMs (view loop.breaker)
  inflight : loop.breaker.inflight = (outstanding loop.log).length
  admittedOnce : (admissions loop.log).Nodup
  releasedOnce : (releases loop.log).Nodup
  recorded : ∀ call, Recorded loop.log call (loop.calls call)

omit [DecidableEq Call] in
theorem Recorded.later {log : List (Mark Call)} {status : Status} {mark : Mark Call}
    (hrecorded : Recorded log call status) (hadmitted : mark ≠ .admitted call)
    (hreleased : mark ≠ .released call) : Recorded (log ++ [mark]) call status := by
  have hadmissions : call ∈ admissions (log ++ [mark]) ↔ call ∈ admissions log := by
    cases mark with
    | admitted other => simp [show call ≠ other from fun hsame => hadmitted (by rw [hsame])]
    | released other => simp
  have hreleases : call ∈ releases (log ++ [mark]) ↔ call ∈ releases log := by
    cases mark with
    | admitted other => simp
    | released other => simp [show call ≠ other from fun hsame => hreleased (by rw [hsame])]
  unfold Recorded at hrecorded ⊢
  rw [hadmissions,hreleases]
  exact hrecorded

section
variable (hheld : Held config loop)
include hheld

theorem Held.pass (elapsedMs : Nat) : Held config (loop.pass elapsedMs) :=
  { hheld with sane := hheld.sane.later (Nat.le_add_right _ _) }

theorem Held.put (hrecorded : Recorded loop.log call (.admitted attempt)) :
    Held config (loop.put call attempt) := by
  refine { hheld with recorded := ?_ }
  intro other
  dsimp only [Loop.put]
  by_cases hother : other = call
  · rw [hother,update_self]
    exact hrecorded
  · rw [update_of_ne hother]
    exact hheld.recorded other

theorem Held.finish {before : Attempt} (hcall : loop.calls call = .admitted before)
    (hsettled : attempt.settled = before.settled) (outcome : RedisCallOutcome) :
    Held config (finish config turn call attempt outcome loop) := by
  have hrecorded := hheld.recorded call
  rw [hcall] at hrecorded
  unfold BreakerCalls.finish
  split
  next hdone =>
    apply hheld.put
    rw [hsettled] at hdone
    simp only [Recorded,hdone,if_true] at hrecorded
    simpa [Recorded,hsettled,hdone] using hrecorded
  next hfirst =>
    rw [hsettled] at hfirst
    simp only [Recorded,hfirst,Bool.false_eq_true,if_false] at hrecorded
    obtain ⟨hadmitted,hreleased,-⟩ := hrecorded
    have houtstanding : call ∈ outstanding loop.log := by simp [outstanding,hadmitted,hreleased]
    have hreleasing := @release_released config turn.random loop.clockMs loop.breaker outcome turn.latencyUs
    have hpositive : 0 < (view loop.breaker).inflight := by
      show 0 < loop.breaker.inflight
      rw [hheld.inflight]
      exact length_pos_of_mem houtstanding
    refine ⟨hheld.sane.released hpositive hreleasing,?_,?_,?_,?_⟩
    · have hinflight : (release config turn.random loop.clockMs outcome turn.latencyUs loop.breaker).inflight =
          loop.breaker.inflight - 1 := inflight_released hreleasing
      rw [length_outstanding_released hheld.admittedOnce houtstanding,← hheld.inflight]
      exact hinflight
    · rw [admissions_released]
      exact hheld.admittedOnce
    · rw [releases_released]
      simpa using List.Nodup.concat hreleased hheld.releasedOnce
    · intro other
      dsimp only [Loop.put]
      by_cases hother : other = call
      · rw [hother,update_self]
        simp [Recorded, hadmitted]
      · rw [update_of_ne hother]
        exact (hheld.recorded other).later (by simp) (by simpa using Ne.symm hother)

theorem Held.enter (call : Call) (throws : Bool) : Held config (enter config turn call throws loop) := by
  unfold BreakerCalls.enter
  split
  next hidle =>
    have hrecorded := hheld.recorded call
    rw [hidle] at hrecorded
    obtain ⟨hadmitted,hreleased⟩ := hrecorded
    have hacquired := @acquire_acquired config turn.random loop.clockMs loop.breaker hheld.sane
    have hinflight : (acquire config turn.random loop.clockMs loop.breaker).2.inflight =
        loop.breaker.inflight + if admits (acquire config turn.random loop.clockMs loop.breaker).1 then 1 else 0 :=
      inflight_acquired hacquired
    have hsane := hheld.sane.acquired hacquired
    dsimp only
    split
    next outcome hrefused =>
      rw [hrefused] at hinflight
      refine ⟨hsane,hinflight.trans hheld.inflight, hheld.admittedOnce,hheld.releasedOnce,?_⟩
      intro other
      dsimp only
      by_cases hother : other = call
      · rw [hother,update_self]
        exact ⟨hadmitted,hreleased⟩
      · rw [update_of_ne hother]
        exact hheld.recorded other
    next hproceed =>
      rw [hproceed] at hinflight
      refine ⟨hsane,?_,?_,?_,?_⟩
      · rw [outstanding_admitted hreleased,length_append,← hheld.inflight]
        exact hinflight
      · rw [admissions_admitted]
        simpa using List.Nodup.concat hadmitted hheld.admittedOnce
      · rw [releases_admitted]
        exact hheld.releasedOnce
      · intro other
        dsimp only [Loop.put]
        by_cases hother : other = call
        · rw [hother,update_self]
          simp [Recorded,hreleased]
        · rw [update_of_ne hother]
          exact (hheld.recorded other).later (by simpa using Ne.symm hother) (by simp)
  · exact hheld

theorem Held.resolve (call : Call) : Held config (resolve config turn call loop) := by
  unfold BreakerCalls.resolve
  split
  next attempt hcall =>
    split
    · exact hheld.finish hcall (by rfl) _
    · exact hheld
  · exact hheld

theorem Held.fire (call : Call) : Held config (fire config turn call loop) := by
  unfold BreakerCalls.fire
  split
  next attempt hcall =>
    split
    · exact hheld.finish hcall (by rfl) _
    · exact hheld
  · exact hheld

end

theorem classifyRedisError_none (toLowerCase : String → String) {err : Thrown} :
    classifyRedisError toLowerCase err = none ↔ err.message = none := by
  simp [classifyRedisError]

/-- The value that the promise of an unreleased call is rejected with can be
converted to a text. -/
def Printable (loop : Loop Call) (turn : Turn Call) : Prop :=
  ∀ call err attempt, turn.task = .reject call err → loop.calls call = .admitted attempt →
    attempt.awaiting = true → attempt.settled = false → err.message ≠ none

theorem Held.reject (hheld : Held config loop) {err : Thrown}
    (hprintable : ∀ attempt, loop.calls call = .admitted attempt → attempt.awaiting = true →
      attempt.settled = false → err.message ≠ none) :
    Held config (reject config toLowerCase turn call err loop) := by
  unfold BreakerCalls.reject
  split
  next attempt hcall =>
    split
    next hawaiting =>
      dsimp only
      split
      · exact hheld.finish hcall (by rfl) _
      next hthrows =>
        have hsettled : attempt.settled = true := by
          by_contra hunsettled
          exact hprintable attempt hcall hawaiting (by simpa using hunsettled)
            ((classifyRedisError_none toLowerCase).mp hthrows)
        have hrecorded := hheld.recorded call
        rw [hcall] at hrecorded
        apply hheld.put
        simpa [Recorded,hsettled] using hrecorded
    · exact hheld
  · exact hheld

theorem Held.step (hheld : Held config loop) (hprintable : Printable loop turn) :
    Held config (step config toLowerCase loop turn) := by
  have hpassed := hheld.pass turn.elapsedMs
  unfold BreakerCalls.step
  cases htask : turn.task with
  | enter call throws => exact hpassed.enter call throws
  | resolve call => exact hpassed.resolve call
  | reject call err => exact hpassed.reject fun attempt => hprintable call err attempt htask
  | fire call => exact hpassed.fire call

theorem start_held (config : CircuitBreakerConfig) (clockMs : Nat) :
    Held (clampConfig config) (start config clockMs : Loop Call) where
  sane := .of_idle rfl rfl
  inflight := rfl
  admittedOnce := nodup_nil
  releasedOnce := nodup_nil
  recorded _ := ⟨not_mem_nil,not_mem_nil⟩

structure Conserved (config : CircuitBreakerConfig) (loop : Loop Call) : Prop where
  inflight : loop.breaker.inflight = (outstanding loop.log).length
  once : ∀ call, (releases loop.log).count call ≤ (admissions loop.log).count call ∧
    (admissions loop.log).count call ≤ 1
  inTime : ∀ call ∈ admissions loop.log, call ∈ releases loop.log ∨
    ∃ attempt, loop.calls call = .admitted attempt ∧ attempt.timer = .armed
  bound : (outstanding loop.log).length ≤ max config.maxInflight config.halfOpenProbes

theorem Held.admitted_of_released (hheld : Held config loop) (hreleased : call ∈ releases loop.log) :
    call ∈ admissions loop.log := by
  have hrecorded := hheld.recorded call
  cases hstatus : loop.calls call with
  | admitted attempt =>
    rw [hstatus] at hrecorded
    exact hrecorded.1
  | idle | refused _ =>
    rw [hstatus] at hrecorded
    exact absurd hreleased hrecorded.2

theorem Held.conserved (hheld : Held config loop) : Conserved config loop := by
  refine ⟨hheld.inflight,?_,?_,?_⟩
  · intro call
    refine ⟨?_,nodup_iff_count_le_one.mp hheld.admittedOnce call⟩
    by_cases hreleased : call ∈ releases loop.log
    · have hone := nodup_iff_count_le_one.mp hheld.releasedOnce call
      exact hone.trans (count_pos_iff.mpr (hheld.admitted_of_released hreleased))
    · rw [count_eq_zero_of_not_mem hreleased]
      exact Nat.zero_le _
  · intro call hadmitted
    have hrecorded := hheld.recorded call
    cases hstatus : loop.calls call with
    | admitted attempt =>
      rw [hstatus] at hrecorded
      cases hsettled : attempt.settled with
      | true =>
        simp only [Recorded,hsettled,if_true] at hrecorded
        exact .inl hrecorded.2
      | false =>
        simp only [Recorded,hsettled,Bool.false_eq_true,if_false] at hrecorded
        exact .inr ⟨attempt,rfl,hrecorded.2.2⟩
    | idle | refused _ =>
      rw [hstatus] at hrecorded
      exact absurd hadmitted hrecorded.1
  · rw [← hheld.inflight]
    exact hheld.sane.inflight_le

theorem Timer.clear_ne_armed (timer : Timer) : timer.clear ≠ .armed := by
  cases timer <;> decide

theorem not_conserved_of_unprintable (hheld : Held config loop) (hunprintable : ¬Printable loop turn) :
    ¬Conserved config (step config toLowerCase loop turn) := by
  unfold Printable at hunprintable
  push Not at hunprintable
  obtain ⟨call,err,attempt,htask,hcall,hawaiting,hsettled,hmessage⟩ := hunprintable
  have hrecorded := hheld.recorded call
  rw [hcall] at hrecorded
  simp only [Recorded,hsettled,Bool.false_eq_true,if_false] at hrecorded
  have hstep : step config toLowerCase loop turn = (loop.pass turn.elapsedMs).put call
      { attempt with awaiting := false, timer := attempt.timer.clear } := by
    have hpassed : (loop.pass turn.elapsedMs).calls call = .admitted attempt := hcall
    have hthrows := (classifyRedisError_none toLowerCase).mpr hmessage
    simp only [BreakerCalls.step,htask,perform,reject,hpassed,hawaiting,if_true,hthrows]
  intro hconserved
  rw [hstep] at hconserved
  rcases hconserved.inTime call hrecorded.1 with hreleased | ⟨after,hafter,harmed⟩
  · exact hrecorded.2.1 hreleased
  · simp only [Loop.put,update_self, Status.admitted.injEq] at hafter
    rw [← hafter] at harmed
    exact Timer.clear_ne_armed _ harmed

/-- In-flight conservation holds throughout a run exactly if no unreleased call
is rejected with a value that has no text. -/
theorem conserved_iff (config : CircuitBreakerConfig) (toLowerCase : String → String)
    (clockMs : Nat) (turns : List (Turn Call)) : (∀ before after, turns = before ++ after →
      Conserved (clampConfig config) (run (step (clampConfig config) toLowerCase) (start config clockMs) before)) ↔
      Along (step (clampConfig config) toLowerCase) Printable (start config clockMs) turns := by
  have hstep : ∀ (loop : Loop Call) (turn : Turn Call), True → Printable loop turn →
      Held (clampConfig config) loop → Held (clampConfig config) (step (clampConfig config) toLowerCase loop turn) :=
    fun _ _ _ hprintable hheld => hheld.step hprintable
  have hagree : ∀ (loop : Loop Call) (turn : Turn Call), True → Held (clampConfig config) loop →
      (Printable loop turn ↔ Conserved (clampConfig config) (step (clampConfig config) toLowerCase loop turn)) := by
    intro loop turn _ hheld
    constructor
    · intro hprintable
      exact (hheld.step hprintable).conserved
    · intro hconserved
      by_contra hunprintable
      exact not_conserved_of_unprintable hheld hunprintable hconserved
  rw [forall_reached_iff_along,and_iff_right (start_held config clockMs).conserved]
  exact (along_congr hstep hagree (along_of_forall (fun _ _ => trivial) _ _) (start_held config clockMs)).symm

/-! One call, whose promise is rejected with an object that has no text. -/

def sampleConfig : CircuitBreakerConfig where
  windowSecs := 10
  minSamples := 20
  consecutiveFailOpen := 5
  consecutiveTimeoutOpen := 3
  errorRateOpen := 1 / 2
  timeoutRateOpen := 2 / 5
  p99UsOpen := 500000
  p99UsRecovery := 250000
  errorRateRecovery := 1 / 10
  openCooldownMs := 5000
  cooldownJitterMs := 2000
  halfOpenProbes := 3
  recoverySuccesses := 3
  maxInflight := 100
  halfOpenMaxMs := 30000
  operationTimeoutMs := 2000

end Calls

def sampleTurn (task : Task Unit) : Turn Unit := ⟨0,⟨1 / 2,by norm_num,by norm_num⟩,0,task⟩
def leaking : Loop Unit := run (step (clampConfig sampleConfig) id) (start sampleConfig 0)
    [sampleTurn (.enter () false),sampleTurn (.reject () ⟨none,none⟩)]

/-- The slot is held, the timer is cleared, and nothing is left to release it. -/
theorem rejected_call_keeps_its_slot :
    leaking.breaker.inflight = 1 ∧ leaking.calls () = .admitted ⟨2000,.cleared,false,false⟩ ∧
      ¬Conserved (clampConfig sampleConfig) leaking := by
  obtain ⟨hinflight,hcall, hadmitted,hreleased⟩ : leaking.breaker.inflight = 1 ∧
      leaking.calls () = .admitted ⟨2000,.cleared,false,false⟩ ∧ () ∈ admissions leaking.log ∧
      () ∉ releases leaking.log := by
    decide +kernel
  refine ⟨hinflight,hcall,?_⟩
  intro hconserved
  rcases hconserved.inTime () hadmitted with hdone | ⟨attempt,hattempt,harmed⟩
  · exact hreleased hdone
  · rw [hcall] at hattempt
    cases hattempt
    contradiction

end Routiq.Uam.BreakerCalls
