import Mathlib.Logic.Function.Basic
import Mathlib.Data.Fin.Basic
import Mathlib.Algebra.Group.Nat.Defs

/-! Counting requests in windows of one second: a bucket remembers the window
of its last request and how many it let through there. A table holds one
bucket for every slot that keys are hashed to. -/
namespace Routiq.Core.FixedWindow

def nowSecsU32 (nowMs : Nat) : Nat := nowMs / 1000 % 2^32

structure Bucket where
  (ts count : Nat)
deriving DecidableEq

namespace Bucket

def counted (now : Nat) (bucket : Bucket) : Bucket :=
  if bucket.ts ≠ now then ⟨now,1⟩ else ⟨now,bucket.count + 1⟩

/-- A first request of a window is let through whatever the limit is. -/
def hit (now limit : Nat) (bucket : Bucket) : Bool × Bucket :=
  if bucket.ts ≠ now then (true,⟨now,1⟩)
  else if limit ≤ bucket.count then (false,bucket)
  else (true,⟨now,bucket.count + 1⟩)

theorem counted_ne (now : Nat) (bucket : Bucket) : bucket.counted now ≠ bucket := by
  intro hsame
  unfold counted at hsame
  split at hsame
  next hts => exact hts (congrArg ts hsame).symm
  · have hcount : bucket.count + 1 = bucket.count := congrArg count hsame
    omega

variable {now limit : Nat} {bucket : Bucket}

theorem hit_admitted (hadmitted : (bucket.hit now limit).1 = true) :
    (bucket.hit now limit).2 = bucket.counted now := by
  unfold hit at hadmitted ⊢
  unfold counted
  split
  · rfl
  next hts =>
    rw [if_neg hts] at hadmitted
    split
    next hfull =>
      rw [if_pos hfull] at hadmitted
      contradiction
    · rfl

theorem hit_cases {new : Bucket} (hhit : bucket.hit now limit = (true,new)) :
    bucket.ts ≠ now ∧ new = ⟨now,1⟩ ∨
      bucket.ts = now ∧ bucket.count < limit ∧ new = ⟨now,bucket.count + 1⟩ := by
  unfold hit at hhit
  split at hhit
  next hts => exact .inl ⟨hts,(Prod.ext_iff.mp hhit).2.symm⟩
  next hts =>
    split at hhit
    · simp at hhit
    next hfull => exact .inr ⟨not_not.mp hts,not_le.mp hfull,(Prod.ext_iff.mp hhit).2.symm⟩

theorem hit_ts (hadmitted : (bucket.hit now limit).1 = true) : (bucket.hit now limit).2.ts = now := by
  rw [hit_admitted hadmitted]
  unfold counted
  split <;> rfl

theorem hit_rejected (hrejected : (bucket.hit now limit).1 = false) : (bucket.hit now limit).2 = bucket := by
  unfold hit at hrejected ⊢
  split at hrejected
  · contradiction
  next hts =>
    rw [if_neg hts]
    split at hrejected
    next hfull => rw [if_pos hfull]
    · contradiction

def countAt (now : Nat) (bucket : Bucket) : Nat := if bucket.ts = now then bucket.count else 0

theorem hit_rejected_iff (hlimit : 0 < limit) : (bucket.hit now limit).1 = false ↔ limit ≤ bucket.countAt now := by
  unfold hit countAt
  split
  · simp [hlimit.ne']
  next hts =>
    rw [if_pos (not_not.mp hts)]
    split <;> simp [*]

theorem countAt_counted (window : Nat) :
    (bucket.counted now).countAt window = if window = now then bucket.countAt now + 1 else 0 := by
  by_cases hts : bucket.ts = now <;> simp [counted,countAt,hts,eq_comm]

end Bucket

/-! ## Tables -/

abbrev Table (slots : Nat) := Fin slots → Bucket
def Table.empty (slots : Nat) : Table slots := fun _ => ⟨0,0⟩

variable {slots : Nat}

def hitAt (now limit : Nat) (slot : Fin slots) (table : Table slots) : Bool × Table slots :=
  let outcome := (table slot).hit now limit
  (outcome.1,Function.update table slot outcome.2)

theorem hitAt_admitted {now limit : Nat} {slot : Fin slots} {table : Table slots}
    (hadmitted : (hitAt now limit slot table).1 = true) :
    (hitAt now limit slot table).2 slot = (table slot).counted now := by
  unfold hitAt at hadmitted ⊢
  dsimp only
  rw [Function.update_self]
  exact Bucket.hit_admitted hadmitted

end Routiq.Core.FixedWindow
