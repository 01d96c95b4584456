import Routiq.Core.OrderStatistics
import Routiq.Fleet.RedisBreakers
import Mathlib.Data.List.Induction

/-! The percentiles of both breakers against the sorted latencies. -/
namespace Routiq.Fleet.Percentiles
open Core.RollingWindow Core.OrderStatistics Edge.RedisBreaker RedisBreakers List

variable {Outcome : Type} (isError isTimeout : Outcome → Bool)

section
variable {bands : Nat}

/-- What `record` counts of some calls. -/
def tallyOf (bandOf : Nat → Fin bands) (calls : List (Outcome × Nat)) : Tally bands :=
  calls.foldl (fun tally call => tally.count (bandOf call.2) (isError call.1) (isTimeout call.1)) .zero

/-- The bounds ascend, so the first that covers the latency is the least. -/
def leastBound (top latencyUs : Nat) : Nat := (histBoundsUs.find? fun bound => latencyUs ≤ bound).getD top

variable (scale : Bands bands) (bandOf : Nat → Fin bands) (calls : List (Outcome × Nat))

def Brackets : Prop :=
  let stats := tallyOf isError isTimeout bandOf calls
  let sorted := (calls.map Prod.snd).insertionSort (· ≤ ·)
  ((finRange bands).map stats.hist).sum = stats.total ∧ stats.total = calls.length ∧
  (calls ≠ [] → ∀ pct, 0 < pct → pct ≤ 100 →
    percentile scale stats pct = leastBound scale.top (sorted.getD (⌈calls.length * pct / 100⌉₊ - 1) 0)) ∧
  (calls ≠ [] → ∀ low high, 0 < low → low ≤ high → high ≤ 100 →
    percentile scale stats low ≤ percentile scale stats high)

theorem total_tallyOf : (tallyOf isError isTimeout bandOf calls).total = calls.length := by
  induction calls using reverseRecOn with
  | nil => rfl
  | append_singleton calls call ih =>
    rw [tallyOf,foldl_append,length_append,← ih]
    rfl

theorem countBelow_tallyOf (limit : Nat) :
    countBelow scale limit (tallyOf isError isTimeout bandOf calls).hist (finRange bands) =
      (calls.map Prod.snd).countP fun latencyUs => scale.upper (bandOf latencyUs) < limit := by
  induction calls using reverseRecOn with
  | nil => simp [tallyOf,Tally.zero,countBelow]
  | append_singleton calls call ih =>
    rw [tallyOf,foldl_append,map_append,countP_append,← ih]
    refine (countBelow_update scale limit _ (nodup_finRange bands) (mem_finRange (bandOf call.2))).trans ?_
    simp [tallyOf]

theorem percentile_le (stats : Tally bands) (pct : ℚ) : percentile scale stats pct ≤ scale.top := by
  unfold percentile
  split
  · exact Nat.zero_le _
  · split
    · exact scale.upper_le _
    · exact le_rfl

variable {scale bandOf calls}

/-- The percentile is the bound of the band of the latency of its rank. -/
theorem percentile_tallyOf (hmonotone : Monotone bandOf) (hcalls : 0 < calls.length) {pct : ℚ}
    (hpositive : 0 < pct) (hpct : pct ≤ 100) : percentile scale (tallyOf isError isTimeout bandOf calls) pct =
      scale.upper (bandOf (ranked (calls.map Prod.snd) (rank calls.length pct - 1) 0)) := by
  have hrank := rank_pos hcalls hpositive
  have hwithin : rank calls.length pct ≤ calls.length := by
    rw [rank,Nat.ceil_le,div_le_iff₀ (by norm_num)]
    exact mul_le_mul_of_nonneg_left hpct (Nat.cast_nonneg _)
  have hsame : ∀ limit ≤ scale.top, percentile scale (tallyOf isError isTimeout bandOf calls) pct < limit ↔
      scale.upper (bandOf (ranked (calls.map Prod.snd) (rank calls.length pct - 1) 0)) < limit := by
    intro limit hlimit
    have hdown : ∀ small large, small ≤ large → decide (scale.upper (bandOf large) < limit) = true →
        decide (scale.upper (bandOf small) < limit) = true := by
      intro small large hle
      simpa using (scale.monotone _ _ (hmonotone hle)).trans_lt
    have hlength : rank calls.length pct - 1 < (calls.map Prod.snd).length := by
      rw [length_map]
      omega
    have hranked := ranked_iff hdown hlength 0
    rw [decide_eq_true_iff] at hranked
    rw [percentile_lt_iff hpositive hlimit (by rwa [total_tallyOf]),countBelow_tallyOf,total_tallyOf,hranked]
    omega
  apply le_antisymm
  · exact not_lt.mp fun hlt => lt_irrefl _ ((hsame _ (percentile_le ..)).mpr hlt)
  · exact not_lt.mp fun hlt => lt_irrefl _ ((hsame _ (scale.upper_le _)).mp hlt)

theorem brackets (hmonotone : Monotone bandOf)
    (hbound : ∀ latencyUs, scale.upper (bandOf latencyUs) = leastBound scale.top latencyUs) :
    Brackets isError isTimeout scale bandOf calls := by
  have hbelow : ∀ band, scale.upper band < scale.top + 1 := fun band => Nat.lt_succ_of_le (scale.upper_le band)
  refine ⟨?_,total_tallyOf ..,?_,?_⟩
  · simpa [countBelow,hbelow,total_tallyOf] using
      countBelow_tallyOf isError isTimeout scale bandOf calls (scale.top + 1)
  · intro hsome pct hpositive hpct
    rw [percentile_tallyOf isError isTimeout hmonotone (length_pos_iff.mpr hsome) hpositive hpct,hbound]
    rfl
  · intro hsome low high hpositive hle hpct
    have hcalls : 0 < (tallyOf isError isTimeout bandOf calls).total := by rwa [total_tallyOf,length_pos_iff]
    have hrank : ∀ total, rank total low ≤ rank total high := by
      intro total
      unfold rank
      gcongr
    refine not_lt.mp fun hlt => lt_irrefl (percentile scale (tallyOf isError isTimeout bandOf calls) low) ?_
    rw [percentile_lt_iff (hpositive.trans_le hle) (percentile_le ..) hcalls] at hlt
    exact (percentile_lt_iff hpositive (percentile_le ..) hcalls).mpr ((hrank _).trans hlt)

end

theorem bandOf_monotone : Monotone Uam.RedisBreaker.bandOf := by
  intro small large hle
  rw [Uam.RedisBreaker.bandOf,Uam.RedisBreaker.bandOf,Fin.mk_le_mk]
  apply findIdx_le_findIdx
  intro bound _ hbound
  rw [decide_eq_true_iff] at hbound ⊢
  exact hle.trans hbound

theorem getD_findIdx (bounds : List Nat) (test : Nat → Bool) (top : Nat) :
    bounds.getD (bounds.findIdx test) top = (bounds.find? test).getD top := by
  induction bounds with
  | nil => rfl
  | cons bound bounds ih => cases htest : test bound <;> simp [findIdx_cons,htest,← ih]

theorem percentiles_bracket (calls : List (Outcome × Nat)) : Brackets isError isTimeout bands bandOf calls ∧
    Brackets isError isTimeout Uam.RedisBreaker.bands Uam.RedisBreaker.bandOf calls := by
  rw [funext bandOf_eq]
  have hbound := fun top latencyUs => getD_findIdx histBoundsUs (fun bound => latencyUs ≤ bound) top
  exact ⟨brackets isError isTimeout bandOf_monotone (hbound _),
    brackets isError isTimeout bandOf_monotone (hbound _)⟩

end Routiq.Fleet.Percentiles
