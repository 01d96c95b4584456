import Mathlib.Data.List.Infix
import Mathlib.Data.List.TakeWhile

/-! Hysteresis over a history of results, newest first. A switch falls on
enough consecutive failures and rises on enough consecutive successes. It is
fallen exactly when some run of failures was long enough and no newer run of
successes was; one more result changes that only through the run it is in. -/
namespace Routiq.Core.Hysteresis
open List

def Fallen (fall rise : Nat) (past : List Bool) : Prop :=
  ∃ newer older, past = newer ++ List.replicate fall false ++ older ∧ ¬List.replicate rise true <:+: newer

def lead (result : Bool) (past : List Bool) : Nat := (past.takeWhile (· == result)).length

@[simp] theorem lead_self (result : Bool) (past : List Bool) :
    lead result (result :: past) = lead result past + 1 := by
  simp [lead]

theorem replicate_prefix_iff (result : Bool) (count : Nat) (past : List Bool) :
    List.replicate count result <+: past ↔ count ≤ lead result past := by
  induction past generalizing count with
  | nil => simp [lead]
  | cons newest past ih =>
    cases count with
    | zero => simp
    | succ count =>
      rw [replicate_succ, cons_prefix_cons,ih]
      by_cases hnewest : newest = result
      · simp [lead,hnewest]
      · simp [lead,hnewest,Ne.symm hnewest]

variable {fall rise : Nat} {past : List Bool}

theorem fallen_of_lead (hrise : 0 < rise) (hlead : fall ≤ lead false past) : Fallen fall rise past := by
  obtain ⟨older,hpast⟩ := (replicate_prefix_iff false fall past).mpr hlead
  refine ⟨[],older,by simp [hpast],?_⟩
  rw [infix_nil,replicate_eq_nil_iff]
  exact hrise.ne'

theorem lead_lt_of_fallen (hfall : 0 < fall) (hfallen : Fallen fall rise past) : lead true past < rise := by
  obtain ⟨newer,older,rfl,hnone⟩ := hfallen
  obtain ⟨more,rfl⟩ := Nat.exists_eq_add_one.mpr hfall
  have hlead : lead true (newer ++ List.replicate (more + 1) false ++ older) = lead true newer := by
    unfold lead
    rw [replicate_succ,append_assoc,takeWhile_append]
    split
    next hall =>
      rw [length_append,← hall]
      simp
    · rfl
  rw [hlead]
  by_contra hlong
  exact hnone ((replicate_prefix_iff true rise newer).mpr (not_lt.mp hlong)).isInfix

theorem fallen_false_iff (hrise : 0 < rise) :
    Fallen fall rise (false :: past) ↔ Fallen fall rise past ∨ fall ≤ lead false past + 1 := by
  rw [← lead_self]
  constructor
  · rintro ⟨newer,older,hpast,hnone⟩
    cases newer with
    | nil =>
      right
      rw [← replicate_prefix_iff]
      exact ⟨older,hpast.symm⟩
    | cons newest newer =>
      left
      exact ⟨newer,older,(List.cons.inj hpast).2,fun hrun => hnone (infix_cons hrun)⟩
  · rintro (⟨newer,older,rfl,hnone⟩ | hlong)
    · refine ⟨false :: newer,older,rfl,?_⟩
      rw [infix_cons_iff, replicate_prefix_iff]
      rintro (hrun | hrun)
      · exact absurd hrun (not_le.mpr hrise)
      · exact hnone hrun
    · exact fallen_of_lead hrise hlong

theorem fallen_true_iff (hfall : 0 < fall) :
    Fallen fall rise (true :: past) ↔ Fallen fall rise past ∧ lead true past + 1 < rise := by
  rw [← lead_self]
  constructor
  · intro hfallen
    have hshort := lead_lt_of_fallen hfall hfallen
    obtain ⟨newer,older,hpast,hnone⟩ := hfallen
    cases newer with
    | nil =>
      obtain ⟨more,rfl⟩ := Nat.exists_eq_add_one.mpr hfall
      simp [replicate_succ] at hpast
    | cons newest newer =>
      exact ⟨⟨newer,older,(List.cons.inj hpast).2,fun hrun => hnone (infix_cons hrun)⟩,hshort⟩
  · rintro ⟨⟨newer,older,rfl,hnone⟩,hshort⟩
    refine ⟨true :: newer,older,rfl,?_⟩
    rw [infix_cons_iff]
    rintro (hrun | hrun)
    · rw [append_assoc] at hshort
      have hlong := hrun.trans (prefix_append (true :: newer) (List.replicate fall false ++ older))
      exact absurd ((replicate_prefix_iff true rise _).mp hlong) (not_le.mpr hshort)
    · exact hnone hrun

end Routiq.Core.Hysteresis
