import Mathlib.Algebra.BigOperators.Group.List.Basic
import Mathlib.Algebra.Order.Floor.Semiring
import Mathlib.Data.List.FinRange
import Mathlib.Data.Rat.Floor
import Mathlib.Logic.Function.Basic

/-! A ring of one-second buckets that counts calls by outcome and by latency
band. A bucket is cleared when a call comes in another second than the one it
stands for; stale buckets are skipped when the window is added up. -/
namespace Routiq.Core.RollingWindow
open Function List Nat

variable {bands : Nat}

/-! ## Counts -/

@[ext] structure Tally (bands : Nat) where
  (total errors timeouts : Nat)
  hist : Fin bands → Nat

namespace Tally

def zero : Tally bands := ⟨0,0,0,fun _ => 0⟩

def add (left right : Tally bands) : Tally bands where
  total := left.total + right.total
  errors := left.errors + right.errors
  timeouts := left.timeouts + right.timeouts
  hist := fun band => left.hist band + right.hist band

variable (band : Fin bands) (isError isTimeout : Bool)

def count (tally : Tally bands) : Tally bands where
  total := tally.total + 1
  errors := tally.errors + if isError then 1 else 0
  timeouts := tally.timeouts + if isTimeout then 1 else 0
  hist := update tally.hist band (tally.hist band + 1)

variable (left right : Tally bands)

theorem count_add :
    (left.add right).count band isError isTimeout = (left.count band isError isTimeout).add right := by
  ext index
  · simp only [count,add]
    omega
  · simp only [count,add]
    omega
  · simp only [count,add]
    omega
  · by_cases hband : index = band
    · subst hband
      simp only [count,add,update_self]
      omega
    · simp [count,add,hband]

theorem add_comm : left.add right = right.add left := by
  ext <;> simp only [add,Nat.add_comm]

theorem add_count :
    left.add (right.count band isError isTimeout) = (left.add right).count band isError isTimeout := by
  rw [add_comm,← count_add,add_comm]

end Tally

/-! ## The ring -/

structure Bucket (bands : Nat) where
  ts : Nat
  tally : Tally bands

structure Window (bands : Nat) where
  size : Nat
  size_pos : 0 < size
  bucket : Nat → Bucket bands

variable {window : Window bands}

namespace Window

def fresh (size : Nat) (hsize : 0 < size) : Window bands := ⟨size,hsize,fun _ => ⟨0,.zero⟩⟩

def record (ts : Nat) (band : Fin bands) (isError isTimeout : Bool) (window : Window bands) : Window bands :=
  let index := ts % window.size
  let bucket := if (window.bucket index).ts ≠ ts then ⟨ts,.zero⟩ else window.bucket index
  { window with
    bucket := update window.bucket index
      { bucket with tally := bucket.tally.count band isError isTimeout } }

section
variable (isFresh : Nat → Bool) (window : Window bands)

def sumOver (stats : Tally bands) (indices : List Nat) : Tally bands := indices.foldl (fun stats index =>
    if isFresh (window.bucket index).ts then stats.add (window.bucket index).tally else stats) stats

def aggregate : Tally bands := sumOver isFresh window .zero (List.range window.size)

theorem fresh_congr {left right : Nat} (hsize : left = right) (hleft : 0 < left)
    (hright : 0 < right) : (fresh left hleft : Window bands) = fresh right hright := by
  subst hsize
  rfl

theorem record_ts (window : Window bands) (ts : Nat) (band : Fin bands) (isError isTimeout : Bool) :
    ((window.record ts band isError isTimeout).bucket (ts % window.size)).ts = ts := by
  simp only [record,update_self]
  split
  · rfl
  next hsame => simpa using hsame

theorem count_sumOver (band : Fin bands) (isError isTimeout : Bool) (stats : Tally bands)
    (indices : List Nat) : sumOver isFresh window (stats.count band isError isTimeout) indices =
      (sumOver isFresh window stats indices).count band isError isTimeout := by
  induction indices generalizing stats with
  | nil => rfl
  | cons index indices ih =>
    unfold sumOver at ih ⊢
    rw [foldl_cons,foldl_cons,← ih]
    split
    · rw [Tally.count_add]
    · rfl

end

variable {ts : Nat} {indices : List Nat}

theorem sumOver_record_of_not_mem (isFresh : Nat → Bool) (band : Fin bands) (isError isTimeout : Bool) (hmem : ts % window.size ∉ indices) (stats : Tally bands) :
    sumOver isFresh (window.record ts band isError isTimeout) stats indices =
      sumOver isFresh window stats indices := by
  induction indices generalizing stats with
  | nil => rfl
  | cons index indices ih =>
    rw [mem_cons,not_or] at hmem
    have hbucket : (window.record ts band isError isTimeout).bucket index = window.bucket index := by
      exact update_of_ne (Ne.symm hmem.1) _ _
    unfold sumOver at ih ⊢
    rw [foldl_cons,foldl_cons,hbucket]
    exact ih hmem.2 _

variable {isFresh : Nat → Bool}

section
variable {band : Fin bands} {isError isTimeout : Bool} {window : Window bands}
  (hts : (window.bucket (ts % window.size)).ts = ts) (hfresh : isFresh ts = true)
include hts hfresh

theorem sumOver_record (hnodup : indices.Nodup) (hmem : ts % window.size ∈ indices) (stats : Tally bands) :
    sumOver isFresh (window.record ts band isError isTimeout) stats indices =
      (sumOver isFresh window stats indices).count band isError isTimeout := by
  induction indices generalizing stats with
  | nil => cases hmem
  | cons index indices ih =>
    rw [nodup_cons] at hnodup
    by_cases hindex : index = ts % window.size
    · subst hindex
      have hrest := sumOver_record_of_not_mem isFresh band isError isTimeout hnodup.1
      have hbucket : (window.record ts band isError isTimeout).bucket (ts % window.size) =
          ⟨ts,(window.bucket (ts % window.size)).tally.count band isError isTimeout⟩ := by
        simp [record,hts]
      unfold sumOver at hrest ⊢
      rw [foldl_cons,foldl_cons,hbucket,hrest]
      simp only [hts,hfresh,if_true]
      rw [Tally.add_count]
      exact count_sumOver isFresh window band isError isTimeout _ indices
    · have hlater : ts % window.size ∈ indices := by
        rcases mem_cons.mp hmem with hhead | htail
        · exact absurd hhead.symm hindex
        · exact htail
      have hbucket : (window.record ts band isError isTimeout).bucket index = window.bucket index := by
        simp only [record]
        exact update_of_ne hindex _ _
      have hrest := ih hnodup.2 hlater
      unfold sumOver at hrest ⊢
      rw [foldl_cons,foldl_cons,hbucket]
      exact hrest _

theorem aggregate_record : aggregate isFresh (window.record ts band isError isTimeout) =
      (aggregate isFresh window).count band isError isTimeout :=
  sumOver_record hts hfresh nodup_range (mem_range.mpr (mod_lt _ window.size_pos)) _

end

theorem total_le_sumOver (isFresh : Nat → Bool) (window : Window bands) (stats : Tally bands)
    (indices : List Nat) : stats.total ≤ (sumOver isFresh window stats indices).total := by
  induction indices generalizing stats with
  | nil => exact le_refl _
  | cons index indices ih =>
    unfold sumOver at ih ⊢
    rw [foldl_cons]
    split
    · have hadded : stats.total ≤ (stats.add (window.bucket index).tally).total := le_add_right _ _
      exact hadded.trans (ih _)
    · exact ih _

theorem total_sumOver_pos {index : Nat} (hfresh : isFresh (window.bucket index).ts = true)
    (hcalls : 0 < (window.bucket index).tally.total) (hmem : index ∈ indices) (stats : Tally bands) :
    0 < (sumOver isFresh window stats indices).total := by
  induction indices generalizing stats with
  | nil => cases hmem
  | cons head indices ih =>
    rcases mem_cons.mp hmem with rfl | htail
    · have hrest := total_le_sumOver isFresh window (stats.add (window.bucket index).tally) indices
      unfold sumOver at hrest ⊢
      rw [foldl_cons,if_pos hfresh]
      simp only [Tally.add] at hrest ⊢
      omega
    · unfold sumOver at ih ⊢
      rw [foldl_cons]
      exact ih htail _

theorem total_aggregate_record_pos (window : Window bands) (hfresh : isFresh ts = true) (band : Fin bands)
    (isError isTimeout : Bool) : 0 < (aggregate isFresh (window.record ts band isError isTimeout)).total := by
  have hts := record_ts window ts band isError isTimeout
  have hmem : ts % window.size ∈ List.range window.size := mem_range.mpr (mod_lt _ window.size_pos)
  refine total_sumOver_pos ?_ ?_ hmem Tally.zero
  · rw [hts]
    exact hfresh
  · simp [record,Tally.count]

end Window

/-! ## Percentiles -/

structure Bands (bands : Nat) where
  upper : Fin bands → Nat
  top : Nat
  monotone : ∀ left right, left ≤ right → upper left ≤ upper right
  upper_le : ∀ band, upper band ≤ top

def firstReaching (hist : Fin bands → Nat) (target : Nat) : Nat → List (Fin bands) → Option (Fin bands)
  | _, [] => none
  | cumulative, band :: rest =>
      if target ≤ cumulative + hist band then some band
      else firstReaching hist target (cumulative + hist band) rest

def rank (total : Nat) (pct : ℚ) : Nat := ⌈(total : ℚ) * pct / 100⌉₊

def percentile (scale : Bands bands) (stats : Tally bands) (pct : ℚ) : Nat :=
  if stats.total = 0 then 0
  else
    match firstReaching stats.hist (rank stats.total pct) 0 (List.finRange bands) with
    | some band => scale.upper band
    | none => scale.top

/-- Scales that agree on every band but the open-ended ones give percentiles
that are equal or both open-ended. -/
theorem percentile_eq_or_top {left right : Bands bands}
    (hupper : ∀ band, left.upper band = right.upper band ∨
      (left.upper band = left.top ∧ right.upper band = right.top)) (stats : Tally bands) (pct : ℚ) :
    percentile left stats pct = percentile right stats pct ∨
      (percentile left stats pct = left.top ∧ percentile right stats pct = right.top) := by
  unfold percentile
  split
  · exact .inl rfl
  · cases firstReaching stats.hist (rank stats.total pct) 0 (List.finRange bands) with
    | none => exact .inr ⟨rfl,rfl⟩
    | some band => exact hupper band

def countBelow (scale : Bands bands) (limit : Nat) (hist : Fin bands → Nat) (indices : List (Fin bands)) : Nat :=
  ((indices.filter fun band => scale.upper band < limit).map hist).sum

variable {scale : Bands bands} {limit : Nat} {band : Fin bands}

theorem countBelow_cons_of_lt (hbelow : scale.upper band < limit) (hist : Fin bands → Nat)
    (rest : List (Fin bands)) :
    countBelow scale limit hist (band :: rest) = hist band + countBelow scale limit hist rest := by
  simp [countBelow,hbelow]

variable {indices : List (Fin bands)}

theorem countBelow_eq_zero (hall : ∀ band ∈ indices, limit ≤ scale.upper band) (hist : Fin bands → Nat) :
    countBelow scale limit hist indices = 0 := by
  have hempty : indices.filter (fun band => scale.upper band < limit) = [] := by
    rw [filter_eq_nil_iff]
    intro band hmem
    simpa using hall band hmem
  simp [countBelow,hempty]

theorem firstReaching_lt_iff {target : Nat} (htop : limit ≤ scale.top) (hist : Fin bands → Nat) (hsorted : indices.Pairwise (· < ·)) {cumulative : Nat}
    (hmissing : cumulative < target) : (match firstReaching hist target cumulative indices with
      | some band => scale.upper band
      | none => scale.top) < limit ↔ target ≤ cumulative + countBelow scale limit hist indices := by
  induction indices generalizing cumulative with
  | nil =>
    simp only [firstReaching,countBelow,filter_nil,map_nil,sum_nil]
    omega
  | cons band rest ih =>
    rw [pairwise_cons] at hsorted
    have hlater : limit ≤ scale.upper band → countBelow scale limit hist (band :: rest) = 0 := by
      intro hreached
      apply countBelow_eq_zero
      intro other hmem
      rcases mem_cons.mp hmem with rfl | htail
      · exact hreached
      · exact hreached.trans (scale.monotone _ _ (hsorted.1 other htail).le)
    rw [firstReaching]
    by_cases hreach : target ≤ cumulative + hist band
    · rw [if_pos hreach]
      dsimp only
      by_cases hbelow : scale.upper band < limit
      · rw [countBelow_cons_of_lt hbelow]
        omega
      · have hzero := hlater (by omega)
        omega
    · rw [if_neg hreach,ih hsorted.2 (by omega)]
      by_cases hbelow : scale.upper band < limit
      · rw [countBelow_cons_of_lt hbelow]
        omega
      · have hzero := hlater (by omega)
        have hrest : countBelow scale limit hist rest = 0 := by
          apply countBelow_eq_zero
          intro other hmem
          exact (not_lt.mp hbelow).trans (scale.monotone _ _ (hsorted.1 other hmem).le)
        omega

variable {total : Nat} {pct : ℚ}

theorem rank_pos (htotal : 0 < total) (hpct : 0 < pct) : 0 < rank total pct := by
  unfold rank
  rw [ceil_pos]
  have hcast : (0 : ℚ) < total := by exact_mod_cast htotal
  positivity

variable {scale : Bands bands} {stats : Tally bands} {limit : Nat}

theorem percentile_lt_iff (hpct : 0 < pct) (htop : limit ≤ scale.top)
    (htotal : 0 < stats.total) : percentile scale stats pct < limit ↔
      rank stats.total pct ≤ countBelow scale limit stats.hist (List.finRange bands) := by
  have hreach := firstReaching_lt_iff htop stats.hist (pairwise_lt_finRange bands)
    (rank_pos htotal hpct)
  rw [percentile,if_neg (by omega),hreach,zero_add]

/-! ## One more call -/

section
variable (scale : Bands bands) (limit : Nat) (hist : Fin bands → Nat)
include hist

theorem countBelow_update_of_not_mem (value : Nat) (hmem : band ∉ indices) :
    countBelow scale limit (update hist band value) indices = countBelow scale limit hist indices := by
  unfold countBelow
  congr 1
  apply map_congr_left
  intro index hindex
  have hne : index ≠ band := fun heq => hmem (heq ▸ mem_of_mem_filter hindex)
  exact update_of_ne hne _ _

theorem countBelow_update (hnodup : indices.Nodup) (hmem : band ∈ indices) :
    countBelow scale limit (update hist band (hist band + 1)) indices =
      countBelow scale limit hist indices + if scale.upper band < limit then 1 else 0 := by
  induction indices with
  | nil => cases hmem
  | cons index rest ih =>
    rw [nodup_cons] at hnodup
    rcases mem_cons.mp hmem with rfl | htail
    · have hrest := countBelow_update_of_not_mem scale limit hist (hist band + 1) hnodup.1
      by_cases hbelow : scale.upper band < limit
      · rw [countBelow_cons_of_lt hbelow,countBelow_cons_of_lt hbelow,hrest,update_self,if_pos hbelow]
        omega
      · simp only [countBelow,filter_cons,hbelow,decide_false,Bool.false_eq_true,if_false] at hrest ⊢
        exact hrest
    · have hne : index ≠ band := fun heq => hnodup.1 (heq ▸ htail)
      have hrest := ih hnodup.2 htail
      by_cases hbelow : scale.upper index < limit
      · rw [countBelow_cons_of_lt hbelow,countBelow_cons_of_lt hbelow,hrest,update_of_ne hne]
        omega
      · simp only [countBelow,filter_cons,hbelow,decide_false,Bool.false_eq_true,if_false] at hrest ⊢
        exact hrest

end

theorem rank_succ_le (hpct : pct ≤ 100) (total : Nat) : rank (total + 1) pct ≤ rank total pct + 1 := by
  have hceil : (total : ℚ) * pct / 100 ≤ ⌈(total : ℚ) * pct / 100⌉₊ := le_ceil _
  unfold rank
  rw [ceil_le]
  push_cast
  have hstep : ((total : ℚ) + 1) * pct / 100 = (total : ℚ) * pct / 100 + pct / 100 := by ring
  rw [hstep]
  linarith

theorem percentile_count_lt_iff (hpositive : 0 < pct) (hpct : pct ≤ 100) (htop : limit ≤ scale.top)
    (htotal : 0 < stats.total) (hbefore : percentile scale stats pct < limit) (band : Fin bands)
    (isError isTimeout : Bool) :
    percentile scale (stats.count band isError isTimeout) pct < limit ↔ scale.upper band < limit ∨
        rank (stats.total + 1) pct ≤ countBelow scale limit stats.hist (List.finRange bands) := by
  have hcount : countBelow scale limit (stats.count band isError isTimeout).hist (List.finRange bands) = _ :=
    countBelow_update scale limit stats.hist (nodup_finRange bands) (mem_finRange band)
  have hstep := rank_succ_le hpct stats.total
  rw [percentile_lt_iff hpositive htop htotal] at hbefore
  rw [percentile_lt_iff hpositive htop (succ_pos stats.total),hcount]
  simp only [Tally.count]
  by_cases hbelow : scale.upper band < limit
  · simp only [hbelow,if_true,true_or,iff_true]
    omega
  · simp only [hbelow,if_false,false_or,add_zero]

def rate (events total : Nat) : ℚ := if total = 0 then 0 else events / total

theorem rate_succ_le (events : Nat) (htotal : 0 < total) : rate events (total + 1) ≤ rate events total := by
  have hpositive : (0 : ℚ) < total := by exact_mod_cast htotal
  simp only [rate,htotal.ne',if_false,succ_ne_zero]
  apply div_le_div_of_nonneg_left (cast_nonneg events) hpositive
  push_cast
  linarith

section
variable (scale : Bands bands) (minSamples p99Open : Nat)

/-- Few enough calls to judge, or few enough timeouts and slow calls, with one
more success in a band. -/
def Calm (timeoutOpen : ℚ) (stats : Tally bands) (band : Fin bands) : Prop :=
  stats.total + 1 < minSamples ∨ (rate stats.timeouts (stats.total + 1) < timeoutOpen ∧
      (scale.upper band < p99Open ∨
        rank (stats.total + 1) 99 ≤ countBelow scale p99Open stats.hist (List.finRange bands)))

/-- Too few samples to judge, or all of them below their limits. -/
def Healthy (errorOpen timeoutOpen : ℚ) (stats : Tally bands) : Prop :=
  stats.total < minSamples ∨ rate stats.errors stats.total < errorOpen ∧
    rate stats.timeouts stats.total < timeoutOpen ∧ percentile scale stats 99 < p99Open

end

variable {minSamples p99Open : Nat} {errorOpen timeoutOpen : ℚ}

theorem healthy_iff : Healthy scale minSamples p99Open errorOpen timeoutOpen stats ↔
    ¬(minSamples ≤ stats.total ∧ (errorOpen ≤ rate stats.errors stats.total ||
      timeoutOpen ≤ rate stats.timeouts stats.total || p99Open ≤ percentile scale stats 99) = true) := by
  simp only [Healthy,Bool.or_eq_true,decide_eq_true_eq,not_and_or,not_or,not_le,and_assoc]

theorem record_healthy_iff {errorRecovery p99Recovery : ℚ} {isFresh : Nat → Bool} {ts : Nat}
    {earlier : Window bands} {first : Fin bands} {isError isTimeout : Bool}
    (hwindow : window = earlier.record ts first isError isTimeout) (hfresh : isFresh ts = true)
    (htop : p99Open ≤ scale.top)
    (hrecovered : (percentile scale (window.aggregate isFresh) 99 : ℚ) ≤ p99Recovery ∧
      rate (window.aggregate isFresh).errors (window.aggregate isFresh).total ≤ errorRecovery)
    (hp99 : p99Recovery < p99Open) (herrors : errorRecovery < errorOpen) (band : Fin bands) :
    Healthy scale minSamples p99Open errorOpen timeoutOpen
        ((window.record ts band false false).aggregate isFresh) ↔
      Calm scale minSamples p99Open timeoutOpen (window.aggregate isFresh) band := by
  have hbucket : (window.bucket (ts % window.size)).ts = ts := by
    rw [hwindow]
    exact earlier.record_ts ts first isError isTimeout
  have htotal : 0 < (window.aggregate isFresh).total := by
    rw [hwindow]
    exact earlier.total_aggregate_record_pos hfresh first isError isTimeout
  have herrors' := (rate_succ_le (window.aggregate isFresh).errors htotal).trans_lt
    (hrecovered.2.trans_lt herrors)
  rw [Window.aggregate_record hbucket hfresh,Healthy,percentile_count_lt_iff (by norm_num) (by norm_num) htop
    htotal (cast_lt.mp (hrecovered.1.trans_lt hp99)) band false false]
  simp [Calm,Tally.count,herrors']

end Routiq.Core.RollingWindow
