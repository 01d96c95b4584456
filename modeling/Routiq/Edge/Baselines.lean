import Routiq.Core.OrderStatistics
import Routiq.Core.Runs
import Mathlib.Algebra.Order.Field.Rat
import Mathlib.Data.List.Induction
import Mathlib.Data.List.Rotate
import Mathlib.Data.Rat.Cast.Order
import Mathlib.Tactic.Linarith

/-! The self-calibrating baselines (`baselines.rs`). Observations are
rationals, so every one is finite. -/
namespace Routiq.Edge.Baselines
open Core.Runs Core.OrderStatistics

def ringCap : Nat := 256

structure MadBaseline where
  buf : Vector ℚ ringCap
  idx : Fin ringCap
  filled : Nat
  filled_le : filled ≤ ringCap

namespace MadBaseline
open List

def new : MadBaseline where
  buf := .replicate ringCap 0
  idx := ⟨0,by decide⟩
  filled := 0
  filled_le := Nat.zero_le _

def observe (v : ℚ) (baseline : MadBaseline) : MadBaseline where
  buf := baseline.buf.set baseline.idx v
  idx := ⟨(baseline.idx + 1) % ringCap,Nat.mod_lt _ (by decide)⟩
  filled := min (baseline.filled + 1) ringCap
  filled_le := min_le_right _ _

section
variable (baseline : MadBaseline)

def values : List ℚ := baseline.buf.toList.take baseline.filled

/-- The middle of a list, sorted first; zero if there is nothing. -/
def middle (values : List ℚ) : ℚ :=
  let sorted := values.insertionSort (· ≤ ·)
  let mid := sorted.length / 2
  if sorted.isEmpty then 0
  else if sorted.length % 2 = 1 then sorted.getD mid 0
  else (sorted.getD (mid - 1) 0 + sorted.getD mid 0) / 2

def median : ℚ := middle baseline.values
def mad : ℚ := middle (baseline.values.map fun v => |v - baseline.median|)

end

def isAnomalous (v k floor : ℚ) (baseline : MadBaseline) : Bool :=
  if baseline.filled < 2 ∨ v ≤ floor then false
  else
    let threshold :=
      if 0 < baseline.mad then baseline.median + k * baseline.mad * (14826 / 10000)
      else baseline.median * (15 / 10)
    max threshold floor < v

/-! ## The ring -/

section
variable (observations : List ℚ)

def learned : MadBaseline := run (fun baseline v => baseline.observe v) new observations

/-- The ring, read from the value that is overwritten next, holds the last 256
values of a history that starts with zeros. -/
structure Ring (baseline : MadBaseline) : Prop where
  held : baseline.buf.toList.rotate baseline.idx = (replicate ringCap 0 ++ observations).drop observations.length
  turn : baseline.idx.val = observations.length % ringCap
  filled : baseline.filled = min observations.length ringCap

theorem rotate_set (ring : List ℚ) {index : Nat} (hindex : index < ring.length) (v : ℚ) :
    (ring.set index v).rotate ((index + 1) % ring.length) = (ring.rotate index).tail ++ [v] := by
  rw [← ring.length_set,rotate_mod,rotate_eq_drop_append_take (by rw [length_set]; exact hindex),rotate_eq_drop_append_take hindex.le,
    drop_set_of_lt (Nat.lt_succ_self index),take_succ_eq_append_getElem (by simpa using hindex),
    take_set_of_le le_rfl,getElem_set_self,← append_assoc,← tail_drop,tail_append_of_ne_nil]
  simpa using hindex

theorem Ring.observe {observations : List ℚ} {baseline : MadBaseline} (hring : Ring observations baseline) (v : ℚ) :
    Ring (observations ++ [v]) (baseline.observe v) where
  held := by
    have hlength : baseline.buf.toList.length = ringCap := Vector.length_toList
    have hroom : observations.length + 1 ≤ (replicate ringCap (0 : ℚ) ++ observations).length := by
      have hcap : 0 < ringCap := by decide
      rw [length_append,length_replicate]
      omega
    have hset := rotate_set baseline.buf.toList (baseline.idx.isLt.trans_eq hlength.symm) v
    rw [hlength,hring.held,tail_drop] at hset
    simp only [MadBaseline.observe,Vector.toList_set]
    rw [hset,length_append,length_singleton,← append_assoc,drop_append_of_le_length hroom]
  turn := by simp [MadBaseline.observe,hring.turn]
  filled := by
    simp only [MadBaseline.observe,hring.filled,length_append,length_singleton]
    omega

theorem ring_learned : Ring observations (learned observations) := by
  induction observations using reverseRecOn with
  | nil => exact ⟨by simp [learned,new],rfl,rfl⟩
  | append_singleton observations v ih =>
    rw [learned,run_append]
    exact ih.observe v

theorem values_learned :
    (learned observations).values ~ observations.drop (observations.length - ringCap) := by
  obtain ⟨hheld,hturn,hfilled⟩ := ring_learned observations
  generalize learned observations = baseline at *
  have hlength : baseline.buf.toList.length = ringCap := Vector.length_toList
  have hzeros : (replicate ringCap (0 : ℚ)).length = ringCap := length_replicate
  unfold values
  rw [hfilled]
  rcases Nat.lt_or_ge observations.length ringCap with hfew | hmany
  · rw [hturn,Nat.mod_eq_of_lt hfew,rotate_eq_drop_append_take (hlength.symm ▸ hfew.le),
      drop_append_of_le_length (hzeros.symm ▸ hfew.le)] at hheld
    have hsame : baseline.buf.toList.take observations.length = observations :=
      (append_inj' hheld (by rw [length_take,hlength,min_eq_left hfew.le])).2
    rw [min_eq_left hfew.le,Nat.sub_eq_zero_of_le hfew.le,hsame]
    rfl
  · rw [drop_append,drop_eq_nil_of_le (hzeros.trans_le hmany),hzeros,nil_append] at hheld
    rw [min_eq_right hmany,take_of_length_le hlength.le,← hheld]
    exact (rotate_perm _ _).symm

end

/-! ## The majority -/

section
variable {values : List ℚ} {a b : ℚ}

theorem middle_mem (hmost : values.length < 2 * values.countP fun v => a ≤ v ∧ v ≤ b) :
    a ≤ middle values ∧ middle values ≤ b := by
  have hbelow : values.countP (· < a) + values.countP (fun v => a ≤ v ∧ v ≤ b) ≤ values.length := by
    rw [length_eq_countP_add_countP (· < a)]
    refine Nat.add_le_add_left (countP_mono_left ?_) _
    simp +contextual
  have habove : values.countP (fun v => a ≤ v ∧ v ≤ b) ≤ values.countP (· ≤ b) :=
    countP_mono_left (by simp)
  have hwithin : ∀ rank < values.length, values.countP (· < a) ≤ rank → rank < values.countP (· ≤ b) →
      a ≤ ranked values rank 0 ∧ ranked values rank 0 ≤ b := by
    intro rank hrank hlow hhigh
    have hsmall : ∀ small large : ℚ, small ≤ large → decide (large < a) = true → decide (small < a) = true := by
      intro small large hle
      simpa using hle.trans_lt
    have hsmall' : ∀ small large : ℚ, small ≤ large → decide (large ≤ b) = true → decide (small ≤ b) = true := by
      intro small large hle
      simpa using hle.trans
    have hfirst := (ranked_iff hsmall hrank 0).not.mpr (not_lt.mpr hlow)
    have hsecond := (ranked_iff hsmall' hrank 0).mpr hhigh
    simp at hfirst hsecond
    exact ⟨hfirst,hsecond⟩
  have hlength := length_insertionSort (· ≤ ·) values
  have hmany := countP_le_length (p := fun v => decide (a ≤ v ∧ v ≤ b)) (l := values)
  have hmid := hwithin (values.length / 2) (by omega) (by omega) (by omega)
  unfold middle
  simp only [hlength]
  split
  next hempty =>
    rw [isEmpty_iff_length_eq_zero,hlength] at hempty
    omega
  · split
    next hodd => exact hmid
    next heven =>
      have hbefore := hwithin (values.length / 2 - 1) (by omega) (by omega) (by omega)
      unfold ranked at hmid hbefore
      constructor <;> linarith

end

def recent (observations : List ℚ) : List ℚ := observations.drop (observations.length - ringCap)

end MadBaseline

end Routiq.Edge.Baselines
