import Routiq.Core.Locks
import Routiq.Edge.Baselines

/-! The adaptive posture of a node (`sentinel.rs`): the signals of one sample,
the target they ask for, the hysteresis that follows the target, and the
sampling thread with its lock on the baselines. -/
namespace Routiq.Edge.Sentinel
open Core.Locks Core.Runs Baselines

/-! ## Target -/

def l0Normal : Nat := 0
def l2Elevated : Nat := 2
def l3Guarded : Nat := 3
def l4Lockdown : Nat := 4

structure Signals where
  downRatio : ℚ
  (globalCbState wafBlocks serverErrors requests : Nat)
  saturation : ℚ

structure Thresholds where
  (downRatioMajor downRatioMinor errorRateMajor errorRateMinor : ℚ)
  (wafBlocksMajor wafBlocksMinor : Nat)
  (saturationMajor saturationMinor : ℚ)

def Thresholds.default : Thresholds where
  downRatioMajor := 1 / 2
  downRatioMinor := 1 / 4
  errorRateMajor := 1 / 5
  errorRateMinor := 1 / 20
  wafBlocksMajor := 200
  wafBlocksMinor := 50
  saturationMajor := 19 / 20
  saturationMinor := 4 / 5

structure Triggers where
  (major minor : Nat)

def Triggers.add (first second : Triggers) : Triggers := ⟨first.major + second.major,first.minor + second.minor⟩

def graded (major minor : Prop) [Decidable major] [Decidable minor] : Triggers :=
  if major then ⟨1,0⟩ else if minor then ⟨0,1⟩ else ⟨0,0⟩

def errorRate (s : Signals) : ℚ := if 0 < s.requests then s.serverErrors / s.requests else 0

def triggers (s : Signals) (t : Thresholds) : Triggers :=
  (graded (t.downRatioMajor ≤ s.downRatio ∨ (100 < s.requests ∧ t.errorRateMajor ≤ errorRate s))
    (t.downRatioMinor ≤ s.downRatio ∨ (100 < s.requests ∧ t.errorRateMinor ≤ errorRate s))).add
  ((graded False (s.globalCbState = 1)).add
  ((graded (t.wafBlocksMajor ≤ s.wafBlocks) (t.wafBlocksMinor ≤ s.wafBlocks)).add
    (graded (t.saturationMajor ≤ s.saturation) (t.saturationMinor ≤ s.saturation))))

def computeTarget (s : Signals) (t : Thresholds) : Nat :=
  if 0 < (triggers s t).major then
    if 2 ≤ (triggers s t).major then l4Lockdown else l3Guarded
  else if 2 ≤ (triggers s t).minor then l3Guarded
  else if (triggers s t).minor = 1 then l2Elevated
  else l0Normal

structure Anomalies where
  (waf errors saturation : Bool)

/-- The target of an iteration: a learned anomaly alone lifts to ELEVATED. -/
def escalate (anomalies : Anomalies) (target : Nat) : Nat :=
  if target < l2Elevated ∧ (anomalies.waf || anomalies.errors || anomalies.saturation) then l2Elevated else target

/-! ## Posture -/

structure Posture where
  (level sinceMs lastRaiseMs cleanMinutes transitionsTotal : Nat)

def Posture.initial : Posture := ⟨0,0,0,0,0⟩
def shedAnonymous (level : Nat) : Bool := l3Guarded ≤ level

def wafBudgetFactor (level : Nat) : ℚ :=
  if l4Lockdown ≤ level then 1 / 4 else if l2Elevated ≤ level then 1 / 2 else 1

def setLevel (new stampMs : Nat) (posture : Posture) : Bool × Posture :=
  if posture.level ≠ new then
    (true,{ posture with
      level := new, sinceMs := stampMs, transitionsTotal := posture.transitionsTotal + 1 })
  else (false,{ posture with level := new })

def settled (nowMs : Nat) (posture : Posture) : Bool :=
  60000 ≤ nowMs - posture.lastRaiseMs && 60000 ≤ nowMs - posture.sinceMs

def follow (nowMs stampMs target : Nat) (posture : Posture) : Posture :=
  if posture.level < target then
    let (changed,posture) := setLevel target stampMs posture
    if changed then { posture with lastRaiseMs := nowMs, cleanMinutes := 0 } else posture
  else if target < posture.level then
    if settled nowMs posture then
      let current := posture.level
      let posture := { posture with cleanMinutes := posture.cleanMinutes + 1 }
      if 1 ≤ posture.cleanMinutes then
        { (setLevel (max (current - 1) target) stampMs posture).2 with cleanMinutes := 0 }
      else posture
    else posture
  else posture

/-! ## The sampling thread -/

structure Baselines where
  (waf errors saturation : MadBaseline)

def Baselines.new : Baselines := ⟨.new,.new,.new⟩
def anomalousWaf (v : Nat) : Locking Baselines Bool := peek fun baselines => baselines.waf.isAnomalous v 6 50

/-- The guard of an operand of `&&` or `||` is dropped before the next operand
is looked at. -/
def anomalousErrors (v requests : Nat) : Locking Baselines Bool :=
  if requests < 100 then pure false
  else do
    let rate : ℚ := v / requests
    let high ←
      if 1 / 20 ≤ rate then peek fun baselines => baselines.errors.isAnomalous v 6 20 else pure false
    if high then pure true else peek fun baselines => baselines.errors.isAnomalous v 6 200

def anomalousSaturation (v : ℚ) : Locking Baselines Bool :=
  peek fun baselines => baselines.saturation.isAnomalous v 4 (4 / 5)

def judge (wafDelta errDelta reqDelta : Nat) (saturation : ℚ) : Locking Baselines Anomalies := do
  lock
  let waf ← anomalousWaf wafDelta
  let errors ← anomalousErrors errDelta reqDelta
  let sat ← anomalousSaturation saturation
  update fun baselines => { baselines with waf := baselines.waf.observe wafDelta }
  update fun baselines => { baselines with errors := baselines.errors.observe errDelta }
  update fun baselines => { baselines with saturation := baselines.saturation.observe saturation }
  unlock
  pure ⟨waf,errors,sat⟩

structure Sample where
  (nowMs stampMs wafTotal requests5xx requestsTotal : Nat)
  downRatio : ℚ
  (cbState globalMaxConcurrency : Nat)
  inFlight : Int

def backpressureSaturation (globalMaxConcurrency : Nat) (inFlight : Int) : ℚ :=
  min (inFlight / (max globalMaxConcurrency 1 : Nat)) (3 / 2)

structure Sampler where
  (prevWaf prev5xx prevReq : Nat)
  posture : Posture

def Sampler.initial : Sampler := ⟨0,0,0,.initial⟩

section
variable (sample : Sample) (sampler : Sampler)

def signalsOf : Signals where
  downRatio := sample.downRatio
  globalCbState := sample.cbState
  wafBlocks := sample.wafTotal - sampler.prevWaf
  serverErrors := sample.requests5xx - sampler.prev5xx
  requests := sample.requestsTotal - sampler.prevReq
  saturation := backpressureSaturation sample.globalMaxConcurrency sample.inFlight

def iterate : Locking Baselines Sampler := do
  let signals := signalsOf sample sampler
  let anomalies ← judge signals.wafBlocks signals.serverErrors signals.requests signals.saturation
  let target := escalate anomalies (computeTarget signals .default)
  pure
    { prevWaf := sample.wafTotal
      prev5xx := sample.requests5xx
      prevReq := sample.requestsTotal
      posture := follow sample.nowMs sample.stampMs target sampler.posture }

end

structure Node where
  baselines : Mutex Baselines
  sampler : Sampler
  alive : Bool

def Node.start : Node := ⟨⟨.new,false⟩,.initial,true⟩

def Node.tick (node : Node) (sample : Sample) : Node :=
  if node.alive then
    match (iterate sample node.sampler).run node.baselines with
    | some (sampler,baselines) => ⟨baselines,sampler,true⟩
    | none => { node with alive := false }
  else node

/-! ## The thread stops -/

theorem iterate_blocks (sample : Sample) (sampler : Sampler) (baselines : Mutex Baselines) :
    (iterate sample sampler).run baselines = none :=
  bind_of_none (lock_peek baselines _ _) _

theorem tick_posture (node : Node) (sample : Sample) : (node.tick sample).sampler.posture = node.sampler.posture := by
  unfold Node.tick
  split
  · rw [iterate_blocks]
  · rfl

/-- No iteration completes, whatever it samples: under the guard on the
baselines the thread locks them again. So the posture stays what it was. -/
theorem no_iteration_completes (node : Node) (baselines : Baselines) (mutex : Mutex Baselines)
    (sampler : Sampler) (sample : Sample) (samples : List Sample) (wafDelta : Nat) :
    (iterate sample sampler).run mutex = none ∧
    (∃ guarded, lock.run ⟨baselines,false⟩ = some ((),guarded) ∧ (anomalousWaf wafDelta).run guarded = none) ∧
    (run .tick node samples).sampler.posture = node.sampler.posture := by
  refine ⟨iterate_blocks sample sampler mutex,?_,?_⟩
  · exact ⟨_,lock_of_free rfl,peek_of_held rfl _⟩
  · have hkept : ∀ (other : Node) (sample : Sample), other.sampler.posture = node.sampler.posture →
        (other.tick sample).sampler.posture = node.sampler.posture := by
      intro other sample hother
      rw [tick_posture,hother]
    exact invariant_run_always hkept samples rfl

def quietSample : Sample := ⟨1700000000000,1700000000000,0,0,0,0,0,1000,0⟩

theorem first_iteration_blocks :
    (iterate quietSample .initial).run ⟨.new,false⟩ = none ∧ (Node.start.tick quietSample).alive = false := by
  constructor
  · rfl
  · rfl

/-! ## The posture follows its target -/

def Documented (level : Nat) : Prop := level = l0Normal ∨ level = l2Elevated ∨ level = l3Guarded ∨ level = l4Lockdown

instance (level : Nat) : Decidable (Documented level) := inferInstanceAs (Decidable (_ ∨ _ ∨ _ ∨ _))

theorem computeTarget_documented (s : Signals) (t : Thresholds) : Documented (computeTarget s t) := by
  unfold computeTarget Documented
  split
  · split
    · simp
    · simp
  · split
    · simp
    · split
      · simp
      · simp

/-- An iteration that completes: the time since the clock was last read, the
time until it is read again, and what was sampled and judged. -/
structure Iteration where
  (elapsed delay : Nat)
  signals : Signals
  anomalies : Anomalies

def Iteration.target (iteration : Iteration) : Nat :=
  escalate iteration.anomalies (computeTarget iteration.signals .default)

/-- The posture, the clock, and the time of the last change of level. -/
structure Watch where
  posture : Posture
  clock : Nat
  changedAt : Option Nat

namespace Watch

def start (clock : Nat) : Watch := ⟨.initial,clock,none⟩

variable (watch : Watch) (iteration : Iteration)

def now : Nat := watch.clock + iteration.elapsed

def after : Posture :=
  follow (watch.now iteration) (watch.now iteration + iteration.delay) iteration.target watch.posture

def step : Watch where
  posture := watch.after iteration
  clock := watch.now iteration + iteration.delay
  changedAt :=
    if (watch.after iteration).level = watch.posture.level then watch.changedAt
    else some (watch.now iteration + iteration.delay)

end Watch

section
variable (watch : Watch) (iteration : Iteration)

structure Follows : Prop where
  documented : Documented (watch.after iteration).level
  covers : iteration.target ≤ (watch.after iteration).level
  raises : watch.posture.level < iteration.target → (watch.after iteration).level = iteration.target
  oneLevel : (watch.after iteration).level < watch.posture.level → ∀ level, Documented level →
    (watch.after iteration).level < level → watch.posture.level ≤ level
  settles : (watch.after iteration).level < watch.posture.level → ∀ changedMs,
    watch.changedAt = some changedMs → changedMs + 60000 ≤ watch.now iteration

def KeepsElevated : Prop :=
  ¬(watch.posture.level = l2Elevated ∧ iteration.target = l0Normal ∧
    settled (watch.now iteration) watch.posture = true)

end

structure Tracked (watch : Watch) : Prop where
  documented : Documented watch.posture.level
  since : ∀ changedMs, watch.changedAt = some changedMs → watch.posture.sinceMs = changedMs

theorem level_setLevel (new stampMs : Nat) (posture : Posture) : (setLevel new stampMs posture).2.level = new := by
  unfold setLevel
  split
  · rfl
  · rfl

section
variable (nowMs stampMs target : Nat) (posture : Posture)

/-- How the level moves: up to the target, one step down after a clean minute,
or not at all. -/
theorem level_follow : (follow nowMs stampMs target posture).level =
      if posture.level < target then target
      else if target < posture.level ∧ settled nowMs posture = true then max (posture.level - 1) target
      else posture.level := by
  unfold follow
  by_cases hraise : posture.level < target
  · have hne : posture.level ≠ target := hraise.ne
    simp [hraise,setLevel,hne]
  · by_cases hdecay : target < posture.level
    · by_cases hsettled : settled nowMs posture = true
      · simp [hraise,hdecay,hsettled,level_setLevel]
      · simp [hraise,hdecay,hsettled]
    · simp [hraise,hdecay]

theorem sinceMs_follow : (follow nowMs stampMs target posture).sinceMs =
      if (follow nowMs stampMs target posture).level = posture.level then posture.sinceMs else stampMs := by
  rw [level_follow]
  unfold follow
  by_cases hraise : posture.level < target
  · have hne : posture.level ≠ target := hraise.ne
    simp [hraise,setLevel,hne,hne.symm]
  · by_cases hdecay : target < posture.level
    · by_cases hsettled : settled nowMs posture = true
      · have hlower : max (posture.level - 1) target ≠ posture.level := by omega
        simp [hraise,hdecay,hsettled,setLevel,hlower,hlower.symm]
      · simp [hraise,hdecay,hsettled]
    · simp [hraise,hdecay]

end

theorem target_documented (iteration : Iteration) : Documented iteration.target := by
  unfold Iteration.target escalate
  split
  · exact .inr (.inl rfl)
  · exact computeTarget_documented _ _

variable {watch : Watch} {iteration : Iteration}

theorem tracked_step (hfollows : Follows watch iteration) (htracked : Tracked watch) :
    Tracked (watch.step iteration) where
  documented := hfollows.documented
  since := by
    intro changedMs hchanged
    have hsince : (watch.after iteration).sinceMs =
        if (watch.after iteration).level = watch.posture.level then watch.posture.sinceMs
        else watch.now iteration + iteration.delay := sinceMs_follow _ _ _ _
    simp only [Watch.step] at hchanged ⊢
    rw [hsince]
    split at hchanged
    next hsame =>
      rw [if_pos hsame]
      exact htracked.since changedMs hchanged
    next hmoved =>
      rw [if_neg hmoved]
      exact Option.some.inj hchanged

theorem follows_of_keepsElevated (htracked : Tracked watch) (hkeeps : KeepsElevated watch iteration) :
    Follows watch iteration := by
  have hlevel : (watch.after iteration).level = _ := level_follow _ _ _ _
  have htarget := target_documented iteration
  have hcurrent := htracked.documented
  unfold KeepsElevated at hkeeps
  simp only [l2Elevated,l0Normal] at hkeeps
  simp only [Documented,l0Normal,l2Elevated,l3Guarded,l4Lockdown] at htarget hcurrent
  by_cases hraise : watch.posture.level < iteration.target
  · rw [if_pos hraise] at hlevel
    refine ⟨?_,hlevel.ge,fun _ => hlevel,fun hlower => by omega,fun hlower => by omega⟩
    rw [hlevel]
    exact target_documented iteration
  · rw [if_neg hraise] at hlevel
    by_cases hdecay : iteration.target < watch.posture.level ∧ settled (watch.now iteration) watch.posture = true
    · rw [if_pos hdecay] at hlevel
      -- one less is a documented level, except below ELEVATED
      have hfrom : watch.posture.level ≠ 2 ∨ iteration.target = 2 := by
        by_contra hleft
        exact hkeeps ⟨by omega,by omega,hdecay.2⟩
      refine ⟨?_,by omega,fun h => absurd h hraise,?_,?_⟩
      · simp only [Documented,l0Normal,l2Elevated,l3Guarded,l4Lockdown]
        omega
      · intro _ level hdocumented hbetween
        simp only [Documented,l0Normal,l2Elevated,l3Guarded,l4Lockdown] at hdocumented
        omega
      · intro _ changedMs hchanged
        have hsince := htracked.since changedMs hchanged
        have hsettled := hdecay.2
        simp only [settled,Bool.and_eq_true,decide_eq_true_eq] at hsettled
        omega
    · rw [if_neg hdecay] at hlevel
      refine ⟨?_,by omega,fun h => absurd h hraise,fun hlower => by omega,fun hlower => by omega⟩
      rw [hlevel]
      exact htracked.documented

theorem keepsElevated_of_follows (hfollows : Follows watch iteration) : KeepsElevated watch iteration := by
  rintro ⟨helevated,hnormal,hsettled⟩
  have hlevel : (watch.after iteration).level = _ := level_follow _ _ _ _
  have hdocumented := hfollows.documented
  rw [hlevel,helevated,hnormal,hsettled] at hdocumented
  revert hdocumented
  decide

/-- From NORMAL the posture obeys its law in every iteration of a run exactly
if none leaves ELEVATED for NORMAL: that step ends at a level that does not
exist. -/
theorem posture_law_iff (clock : Nat) (iterations : List Iteration) :
    Along Watch.step Follows (.start clock) iterations ↔
      Along Watch.step KeepsElevated (.start clock) iterations := by
  have htracked : Tracked (.start clock) := by
    refine ⟨.inl rfl,?_⟩
    intro changedMs hchanged
    contradiction
  have hguard : Along Watch.step (fun _ _ => True) (.start clock) iterations :=
    along_of_forall (fun _ _ => trivial) _ _
  exact along_congr (fun _ _ _ hfollows htracked => tracked_step hfollows htracked)
    (fun _ _ _ htracked => ⟨keepsElevated_of_follows,follows_of_keepsElevated htracked⟩) hguard htracked

def calmSignals : Signals := ⟨0,0,0,0,500,0⟩
def burst : List Iteration := [⟨1000,0,{ calmSignals with wafBlocks := 60 },⟨false,false,false⟩⟩,
    ⟨60000,0,calmSignals,⟨false,false,false⟩⟩]

theorem posture_leaves_levels : (run Watch.step (.start 1700000000000) burst).posture.level = 1 ∧
      ¬Along Watch.step Follows (.start 1700000000000) burst := by
  refine ⟨by decide +kernel,?_⟩
  intro hfollows
  have hdocumented := hfollows.2.1.documented
  revert hdocumented
  decide +kernel

end Routiq.Edge.Sentinel
