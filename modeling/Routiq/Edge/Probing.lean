import Routiq.Core.Hysteresis
import Routiq.Core.Runs
import Routiq.Edge.Selector

/-! Active health checks. The prober counts consecutive results in the slot of
an address and moves its verdict when a run is long enough. The counters are
32 bits wide and wrap, but never while the verdict depends on them. -/
namespace Routiq.Edge.Probing
open Core.Hysteresis Core.Runs Selector List Nat

structure Thresholds where
  (unhealthyThreshold healthyThreshold : Nat)
  unhealthy_lt : unhealthyThreshold < 2^32
  healthy_lt : healthyThreshold < 2^32

def Thresholds.fall (thresholds : Thresholds) : Nat := max thresholds.unhealthyThreshold 1
def Thresholds.rise (thresholds : Thresholds) : Nat := max thresholds.healthyThreshold 1

structure ProbedHealth extends UpstreamHealth where
  (consecFails consecOks : Nat)
deriving DecidableEq

def ProbedHealth.up (health : ProbedHealth) : Bool := decide (health.healthy = 1)

structure Probe where
  ok : Bool
  nowMs : Nat
deriving DecidableEq

section
variable (thresholds : Thresholds)

/-- Answers the verdict if the probe has turned it. -/
def applyProbe (health : ProbedHealth) (probe : Probe) : Option Bool × ProbedHealth :=
  if probe.ok then
    let oks := (health.consecOks + 1) % 2^32
    let counted := { health with lastCheckMs := probe.nowMs, consecFails := 0, consecOks := oks }
    if !health.up && decide (thresholds.rise ≤ oks) then (some true,{ counted with healthy := 1 })
    else (none,counted)
  else
    let fails := (health.consecFails + 1) % 2^32
    let counted := { health with lastCheckMs := probe.nowMs, consecFails := fails, consecOks := 0 }
    if health.up && decide (thresholds.fall ≤ fails) then (some false,{ counted with healthy := 0 })
    else (none,counted)

def probed : ProbedHealth → List Probe → ProbedHealth :=
  run fun health probe => (applyProbe thresholds health probe).2

/-- A slot that was never checked is seeded wherever it is looked up. -/
def ProbedHealth.slot (health : ProbedHealth) : ProbedHealth :=
  { health with toUpstreamHealth := health.toUpstreamHealth.seeded }

def probedBySlot : ProbedHealth → List Probe → ProbedHealth :=
  run fun health probe => (applyProbe thresholds health.slot probe).2

end

def startsUp (lastCheckMs : Nat) : ProbedHealth := ⟨⟨1,lastCheckMs⟩,0,0⟩

variable {probe : Probe}

section
variable (thresholds : Thresholds) (health : ProbedHealth)

theorem applyProbe_ok (hok : probe.ok = true) :
    let after := (applyProbe thresholds health probe).2
    after.consecFails = 0 ∧ after.consecOks = (health.consecOks + 1) % 2^32 ∧
      after.up = (health.up || decide (thresholds.rise ≤ (health.consecOks + 1) % 2^32)) := by
  unfold applyProbe
  rw [if_pos hok]
  cases hup : health.up with
  | true => exact ⟨rfl,rfl,hup⟩
  | false =>
    dsimp only
    by_cases hlong : thresholds.rise ≤ (health.consecOks + 1) % 2^32
    · rw [decide_eq_true hlong]
      exact ⟨rfl,rfl,rfl⟩
    · rw [decide_eq_false hlong]
      exact ⟨rfl,rfl,hup⟩

theorem applyProbe_failed (hfailed : probe.ok = false) :
    let after := (applyProbe thresholds health probe).2
    after.consecOks = 0 ∧ after.consecFails = (health.consecFails + 1) % 2^32 ∧
      after.up = (health.up && !decide (thresholds.fall ≤ (health.consecFails + 1) % 2^32)) := by
  unfold applyProbe
  rw [if_neg (by simp [hfailed])]
  cases hup : health.up with
  | false => exact ⟨rfl,rfl,hup⟩
  | true =>
    dsimp only
    by_cases hlong : thresholds.fall ≤ (health.consecFails + 1) % 2^32
    · rw [decide_eq_true hlong]
      exact ⟨rfl,rfl,rfl⟩
    · rw [decide_eq_false hlong]
      exact ⟨rfl,rfl,hup⟩

theorem applyProbe_flip (probe : Probe) : (applyProbe thresholds health probe).1 =
      if (applyProbe thresholds health probe).2.up = health.up then none
      else some (applyProbe thresholds health probe).2.up := by
  unfold applyProbe
  cases hup : health.up with
  | true =>
    dsimp only
    split
    · exact (if_pos hup).symm
    · split
      · rfl
      · exact (if_pos hup).symm
  | false =>
    dsimp only
    split
    · split
      · rfl
      · exact (if_pos hup).symm
    · exact (if_pos hup).symm

end

variable {thresholds : Thresholds} {health : ProbedHealth}

section
variable (thresholds : Thresholds)

/-- The counters are the runs that the history ends with, in 32 bits, and the
verdict is what its runs say. -/
structure Counts (past : List Bool) (health : ProbedHealth) : Prop where
  fails : health.consecFails = lead false past % 2^32
  oks : health.consecOks = lead true past % 2^32
  verdict : health.up = false ↔ Fallen thresholds.fall thresholds.rise past

theorem Thresholds.fall_pos : 0 < thresholds.fall := le_max_right _ 1

theorem Thresholds.rise_pos : 0 < thresholds.rise := le_max_right _ 1

end

theorem le_next_iff {threshold count : Nat} (hwidth : threshold < 2^32) (hcount : count < max threshold 1) :
    max threshold 1 ≤ (count % 2^32 + 1) % 2^32 ↔ max threshold 1 ≤ count + 1 := by
  rw [mod_add_mod,mod_eq_of_lt (by omega)]

section
variable {past : List Bool} (hcounts : Counts thresholds past health)
include hcounts

theorem counts_ok
    (hok : probe.ok = true) : Counts thresholds (true :: past) (applyProbe thresholds health probe).2 := by
  obtain ⟨hfails,hoks,hup⟩ := applyProbe_ok thresholds health hok
  refine ⟨hfails,?_,?_⟩
  · rw [hoks,hcounts.oks,lead_self,mod_add_mod]
  · rw [hup,fallen_true_iff thresholds.fall_pos,← hcounts.verdict,hcounts.oks,Bool.or_eq_false_iff,
      decide_eq_false_iff_not]
    refine and_congr_right fun hdown => ?_
    have hshort := lead_lt_of_fallen thresholds.fall_pos (hcounts.verdict.mp hdown)
    rw [Thresholds.rise,le_next_iff thresholds.healthy_lt hshort,not_le]

theorem counts_failed
    (hfailed : probe.ok = false) : Counts thresholds (false :: past) (applyProbe thresholds health probe).2 := by
  obtain ⟨hoks,hfails,hup⟩ := applyProbe_failed thresholds health hfailed
  refine ⟨?_,hoks,?_⟩
  · rw [hfails,hcounts.fails,lead_self,mod_add_mod]
  · rw [hup,fallen_false_iff thresholds.rise_pos,← hcounts.verdict,hcounts.fails]
    cases hdown : health.up with
    | false => simp
    | true =>
      have hshort : lead false past < thresholds.fall := by
        by_contra hlong
        have hfallen := hcounts.verdict.mpr (fallen_of_lead thresholds.rise_pos (not_lt.mp hlong))
        rw [hdown] at hfallen
        contradiction
      rw [Bool.true_and,Bool.not_eq_false',decide_eq_true_eq,Thresholds.fall,
        le_next_iff thresholds.unhealthy_lt hshort]
      simp

theorem counts_probed (probes : List Probe) :
    Counts thresholds ((probes.map Probe.ok).reverse ++ past) (probed thresholds health probes) := by
  induction probes generalizing past health with
  | nil => exact hcounts
  | cons probe probes ih =>
    rw [map_cons,reverse_cons,append_assoc]
    cases hok : probe.ok with
    | true => exact ih (counts_ok hcounts hok)
    | false => exact ih (counts_failed hcounts hok)

end

/-- Looking the slot up changes nothing once it is up or has been checked. -/
theorem probedBySlot_eq (hseeded : health.healthy = 0 → 0 < health.lastCheckMs) {probes : List Probe}
    (hclock : ∀ probe ∈ probes, 0 < probe.nowMs) :
    probedBySlot thresholds health probes = probed thresholds health probes := by
  induction probes generalizing health with
  | nil => rfl
  | cons probe probes ih =>
    have hslot : health.slot = health := by
      have hsame : health.toUpstreamHealth.seeded = health.toUpstreamHealth :=
        if_neg fun hfresh => (hseeded hfresh.2).ne' hfresh.1
      rw [ProbedHealth.slot,hsame]
    have hchecked : (applyProbe thresholds health probe).2.lastCheckMs = probe.nowMs := by
      unfold applyProbe
      dsimp only
      split
      all_goals split <;> rfl
    unfold probedBySlot probed at ih ⊢
    rw [run_cons,run_cons,hslot]
    refine ih (fun _ => ?_) fun other hother => hclock other (mem_cons_of_mem probe hother)
    rw [hchecked]
    exact hclock probe mem_cons_self

/-- Over every sequence of probes the verdict is down exactly when some run of
failures was long enough and no newer run of successes was, and a flip is
reported exactly when it happens. -/
theorem verdict_follows_runs (thresholds : Thresholds) (lastCheckMs : Nat) (probes : List Probe) :
    ((probed thresholds (startsUp lastCheckMs) probes).up = false ↔
        Fallen thresholds.fall thresholds.rise (probes.map Probe.ok).reverse) ∧
      (∀ health probe, (applyProbe thresholds health probe).1 =
        if (applyProbe thresholds health probe).2.up = health.up then none
        else some (applyProbe thresholds health probe).2.up) ∧
      ((∀ probe ∈ probes, 0 < probe.nowMs) → probedBySlot thresholds (startsUp lastCheckMs) probes =
          probed thresholds (startsUp lastCheckMs) probes) := by
  have hstart : Counts thresholds [] (startsUp lastCheckMs) := by
    refine ⟨rfl,rfl,?_⟩
    refine iff_of_false (by simp [startsUp,ProbedHealth.up]) fun hfallen => ?_
    obtain ⟨newer,older,hnone,-⟩ := hfallen
    have hlength := congrArg List.length hnone
    have hpos := thresholds.fall_pos
    simp at hlength
    omega
  refine ⟨?_,applyProbe_flip thresholds,probedBySlot_eq (by simp [startsUp])⟩
  have hcounts := counts_probed hstart probes
  rw [append_nil] at hcounts
  exact hcounts.verdict

end Routiq.Edge.Probing
