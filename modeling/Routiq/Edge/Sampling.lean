import Routiq.Edge.Sentinel

/-! What the sampling thread makes of its counts. Worse signals ask for no
lower posture; but the thresholds are held against the counts of one iteration,
and the first iteration also counts what earlier workers left behind. -/
namespace Routiq.Edge.Sampling
open Core.Runs Baselines Sentinel List

/-! ## Worse signals -/

/-- As many major triggers, and as many of both kinds. -/
def Covers (many few : Triggers) : Prop :=
  few.major ≤ many.major ∧ few.major + few.minor ≤ many.major + many.minor

theorem graded_covers {major minor major' minor' : Prop} [Decidable major] [Decidable minor]
    [Decidable major'] [Decidable minor'] (hmajor : major → major') (hminor : minor → minor') :
    Covers (graded major' minor') (graded major minor) := by
  unfold graded Covers
  split_ifs <;> simp_all

theorem Covers.add {many few many' few' : Triggers} (hcovers : Covers many few) (hcovers' : Covers many' few') :
    Covers (many.add many') (few.add few') := by
  unfold Covers Triggers.add at *
  dsimp only
  omega

theorem computeTarget_le_of_covers {first second : Signals} {t : Thresholds}
    (hcovers : Covers (triggers second t) (triggers first t)) : computeTarget first t ≤ computeTarget second t := by
  unfold Covers at hcovers
  unfold computeTarget l4Lockdown l3Guarded l2Elevated l0Normal
  split_ifs <;> omega

/-- Of two samples of as many requests, the one that is as bad in every respect
asks for at least the same target. -/
theorem computeTarget_monotone (t : Thresholds) {first second : Signals}
    (hrequests : first.requests = second.requests) (hdown : first.downRatio ≤ second.downRatio)
    (herrors : first.serverErrors ≤ second.serverErrors) (hwaf : first.wafBlocks ≤ second.wafBlocks)
    (hsaturation : first.saturation ≤ second.saturation)
    (hopen : first.globalCbState = 1 → second.globalCbState = 1) :
    computeTarget first t ≤ computeTarget second t := by
  have hrate : errorRate first ≤ errorRate second := by
    unfold errorRate
    rw [hrequests]
    split
    · exact div_le_div_of_nonneg_right (Nat.cast_le.mpr herrors) (Nat.cast_nonneg _)
    · exact le_refl _
  have hfailing : ∀ {down rate : ℚ}, down ≤ first.downRatio ∨ 100 < first.requests ∧ rate ≤ errorRate first →
      down ≤ second.downRatio ∨ 100 < second.requests ∧ rate ≤ errorRate second := by
    intro down rate hfirst
    exact hfirst.imp hdown.trans' fun hmany => ⟨hrequests ▸ hmany.1,hmany.2.trans hrate⟩
  apply computeTarget_le_of_covers
  exact (graded_covers hfailing hfailing).add ((graded_covers id hopen).add
    ((graded_covers hwaf.trans' hwaf.trans').add (graded_covers hsaturation.trans' hsaturation.trans')))

theorem computeTarget_monotone_blocks : computeTarget { calmSignals with wafBlocks := 60 } .default ≤
    computeTarget { calmSignals with wafBlocks := 300 } .default :=
  computeTarget_monotone .default rfl le_rfl le_rfl (by decide) le_rfl id

/-! ## Iterations that complete -/

section
variable (signals : Signals) (baselines : Baselines)

/-- What `judge` answers and observes if its locks do not stop it. -/
def judged : Anomalies where
  waf := baselines.waf.isAnomalous signals.wafBlocks 6 50
  errors := decide (100 ≤ signals.requests) &&
    (decide ((1 : ℚ) / 20 ≤ signals.serverErrors / signals.requests) &&
        baselines.errors.isAnomalous signals.serverErrors 6 20 ||
      baselines.errors.isAnomalous signals.serverErrors 6 200)
  saturation := baselines.saturation.isAnomalous signals.saturation 4 (4 / 5)

def observed : Baselines where
  waf := baselines.waf.observe signals.wafBlocks
  errors := baselines.errors.observe signals.serverErrors
  saturation := baselines.saturation.observe signals.saturation

end

structure Thread where
  sampler : Sampler
  baselines : Baselines

namespace Thread

def start : Thread := ⟨.initial,.new⟩

variable (thread : Thread) (sample : Sample)

def target : Nat :=
  escalate (judged (signalsOf sample thread.sampler) thread.baselines)
    (computeTarget (signalsOf sample thread.sampler) .default)

def step : Thread where
  sampler := ⟨sample.wafTotal,sample.requests5xx,sample.requestsTotal,
    follow sample.nowMs sample.stampMs (thread.target sample) thread.sampler.posture⟩
  baselines := observed (signalsOf sample thread.sampler) thread.baselines

theorem target_le_level : thread.target sample ≤ (thread.step sample).sampler.posture.level := by
  have hlevel : (thread.step sample).sampler.posture.level = _ := level_follow _ _ _ _
  rw [hlevel]
  split_ifs <;> omega

theorem guarded_of_blocks (hblocks : thread.sampler.prevWaf + 200 ≤ sample.wafTotal) :
    l3Guarded ≤ thread.target sample := by
  have hmajor : 1 ≤ (triggers (signalsOf sample thread.sampler) .default).major := by
    have hdelta : Thresholds.default.wafBlocksMajor ≤ (signalsOf sample thread.sampler).wafBlocks := by
      simp only [Thresholds.default,signalsOf]
      omega
    simp only [triggers,Triggers.add,graded,if_pos hdelta]
    omega
  have htarget : l3Guarded ≤ computeTarget (signalsOf sample thread.sampler) .default := by
    unfold computeTarget l4Lockdown l3Guarded
    split_ifs <;> omega
  unfold target escalate
  split_ifs <;> omega

end Thread

/-! ## Blocks over a minute -/

/-- The times of the iterations of a thread that starts at a time, and what
they read of the counter of blocks. -/
def Sampled (left startMs : Nat) (blocks : List Nat) (samples : List Sample) : Prop :=
  ∀ index (hindex : index < samples.length), samples[index].nowMs = startMs + 1000 * (index + 1) ∧
    samples[index].wafTotal = left + blocks.countP (· ≤ startMs + 1000 * (index + 1))

theorem countP_later (blocks : List Nat) {early late : Nat} (hlate : early ≤ late) :
    blocks.countP (· ≤ early) + blocks.countP (fun time => early < time ∧ time ≤ late) ≤ blocks.countP (· ≤ late) := by
  induction blocks with
  | nil => simp
  | cons time blocks ih =>
    simp only [countP_cons,decide_eq_true_eq]
    split_ifs <;> omega

/-- If two hundred blocks fall between an iteration and the one before it, the
iteration leaves the posture at GUARDED or higher. -/
theorem guarded_after_blocks {left startMs index : Nat} {blocks : List Nat} {samples : List Sample}
    (hsampled : Sampled left startMs blocks samples) (hindex : index < samples.length)
    (hheard : 200 ≤ blocks.countP fun time =>
      startMs + 1000 * index < time ∧ time ≤ startMs + 1000 * (index + 1)) :
    l3Guarded ≤ (run Thread.step .start (samples.take (index + 1))).sampler.posture.level := by
  have hbefore : (run Thread.step .start (samples.take index)).sampler.prevWaf ≤
      left + blocks.countP (· ≤ startMs + 1000 * index) := by
    cases index with
    | zero => exact Nat.zero_le _
    | succ index =>
      rw [take_succ_eq_append_getElem (by omega),run_append]
      exact ((hsampled index (by omega)).2).le
  have hlater := countP_later blocks (show startMs + 1000 * index ≤ startMs + 1000 * (index + 1) by omega)
  rw [take_succ_eq_append_getElem hindex,run_append]
  refine (Thread.guarded_of_blocks _ _ ?_).trans (Thread.target_le_level _ _)
  rw [(hsampled index hindex).2]
  omega

def blocksSample (second wafTotal : Nat) : Sample := ⟨1000 * second,1000 * second,wafTotal,0,0,0,0,1000,0⟩

theorem guarded_after_blocks_second :
    l3Guarded ≤ (run Thread.step .start [blocksSample 1 200]).sampler.posture.level := by
  have hsampled : Sampled 0 0 (List.replicate 200 500) [blocksSample 1 200] := by
    unfold Sampled
    decide +kernel
  have hheard : 200 ≤ (List.replicate 200 500).countP fun time =>
      0 + 1000 * 0 < time ∧ time ≤ 0 + 1000 * (0 + 1) := by decide +kernel
  exact guarded_after_blocks hsampled (by decide) hheard

/-- Two hundred blocks within two seconds, half of them in each. -/
theorem blocks_of_minute_missed :
    let blocks := List.replicate 100 500 ++ List.replicate 100 1500
    let samples := [blocksSample 1 100,blocksSample 2 200]
    Sampled 0 0 blocks samples ∧ blocks.countP (fun time => 0 < time ∧ time ≤ 60000) = 200 ∧
      (run Thread.step .start samples).sampler.posture.level = l2Elevated := by
  refine ⟨?_,by decide +kernel,by decide +kernel⟩
  unfold Sampled
  decide +kernel

/-! ## What earlier workers left -/

structure Leftover where
  (blocks errors requests : Nat)

/-- A sample of the events since the thread started, read on top of what the
counters held then. -/
def Leftover.under (left : Leftover) (sample : Sample) : Sample :=
  { sample with
    wafTotal := left.blocks + sample.wafTotal
    requests5xx := left.errors + sample.requests5xx
    requestsTotal := left.requests + sample.requestsTotal }

def targets (left : Leftover) (thread : Thread) (samples : List Sample) : List Nat :=
  trail .step (fun thread sample => [thread.target sample]) thread (samples.map left.under)

/-- The previous sample of either thread stands as far above what was left to
it, and they have learned the same baselines. -/
structure Alike (left right : Leftover) (one other : Thread) : Prop where
  baselines : one.baselines = other.baselines
  blocks : one.sampler.prevWaf + right.blocks = other.sampler.prevWaf + left.blocks
  errors : one.sampler.prev5xx + right.errors = other.sampler.prev5xx + left.errors
  requests : one.sampler.prevReq + right.requests = other.sampler.prevReq + left.requests

section
variable {left right : Leftover} {one other : Thread}

theorem Alike.signals (halike : Alike left right one other) (sample : Sample) :
    signalsOf (left.under sample) one.sampler = signalsOf (right.under sample) other.sampler := by
  obtain ⟨-,hblocks,herrors,hrequests⟩ := halike
  simp only [signalsOf,Leftover.under,Signals.mk.injEq,true_and,and_true]
  omega

theorem Alike.step (halike : Alike left right one other) (sample : Sample) :
    Alike left right (one.step (left.under sample)) (other.step (right.under sample)) := by
  have hsignals := halike.signals sample
  refine ⟨?_,?_,?_,?_⟩
  · simp only [Thread.step,hsignals,halike.baselines]
  all_goals
    simp only [Thread.step,Leftover.under]
    omega

end

def calmSample : Sample := ⟨1000,1000,0,0,0,0,0,1000,0⟩

end Routiq.Edge.Sampling
