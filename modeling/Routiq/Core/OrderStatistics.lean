import Mathlib.Data.List.GetD
import Mathlib.Data.List.Sort

/-! Ranks in a sorted list: the element of a rank has a property that smaller
elements share exactly if more elements than the rank have it. -/
namespace Routiq.Core.OrderStatistics
open List

variable {Value : Type*} [LinearOrder Value]

def ranked (values : List Value) (rank : Nat) (otherwise : Value) : Value :=
  (values.insertionSort (· ≤ ·)).getD rank otherwise

variable {values : List Value} {rank : Nat} {property : Value → Bool}

variable (hdown : ∀ small large, small ≤ large → property large = true → property small = true)
include hdown

theorem getD_iff_of_sorted
    (hsorted : values.Pairwise (· ≤ ·)) (hrank : rank < values.length) (otherwise : Value) :
    property (values.getD rank otherwise) = true ↔ rank < values.countP property := by
  induction values generalizing rank with
  | nil => contradiction
  | cons least values ih =>
    rw [pairwise_cons] at hsorted
    by_cases hleast : property least = true
    · rw [countP_cons_of_pos hleast]
      cases rank with
      | zero => simpa using hleast
      | succ rank => rw [getD_cons_succ,ih hsorted.2 (Nat.lt_of_succ_lt_succ hrank),Nat.succ_lt_succ_iff]
    · have hnone : ∀ value ∈ least :: values, ¬property value = true := by
        intro value hvalue hproperty
        rcases mem_cons.mp hvalue with rfl | hlater
        · exact hleast hproperty
        · exact hleast (hdown _ _ (hsorted.1 value hlater) hproperty)
      rw [countP_eq_zero.mpr hnone,getD_eq_getElem _ _ hrank]
      exact iff_of_false (hnone _ (getElem_mem _)) (Nat.not_lt_zero _)

theorem ranked_iff (hrank : rank < values.length) (otherwise : Value) :
    property (ranked values rank otherwise) = true ↔ rank < values.countP property := by
  have hperm := perm_insertionSort (· ≤ ·) values
  rw [← hperm.countP_eq]
  exact getD_iff_of_sorted hdown (pairwise_insertionSort _ _) (hperm.length_eq.symm ▸ hrank) otherwise

end Routiq.Core.OrderStatistics
