import Routiq.Core.CString
import Routiq.Edge.Config
import Mathlib.Logic.Function.Basic
import Mathlib.Algebra.Group.Nat.Defs

/-! Daily quotas: a counter in Redis for every service, day and user, which is
incremented before it is compared. A reply that is lost is asked for once
more, and without an answer the request passes. -/
namespace Routiq.Edge.Quota
open Core.CString Function Config

/-! ## The decision -/

inductive QuotaDecision where
  | allow | borrowed | rejected
deriving DecidableEq

/-- The arithmetic is that of 64 bits. -/
def quotaDecision (count limit borrowPercent : Nat) : QuotaDecision :=
  if limit = 0 then .allow
  else if count ≤ limit then .allow
  else
    let ceiling := (limit + limit * borrowPercent % 2^64 / 100) % 2^64
    if count ≤ ceiling ∧ 0 < borrowPercent then .borrowed else .rejected

def ceiling (policy : QuotaPolicy) : Nat := policy.dailyLimit + policy.dailyLimit * policy.borrowPercent / 100

structure Fits (policy : QuotaPolicy) : Prop where
  product : policy.dailyLimit * policy.borrowPercent < 2^64
  sum : ceiling policy < 2^64

variable {policy : QuotaPolicy}

theorem quotaDecision_rejected_iff (hfits : Fits policy) (count : Nat) :
    quotaDecision count policy.dailyLimit policy.borrowPercent = .rejected ↔
      0 < policy.dailyLimit ∧ ceiling policy < count := by
  have hsum := hfits.sum
  unfold ceiling at hsum ⊢
  unfold quotaDecision
  rw [Nat.mod_eq_of_lt hfits.product,Nat.mod_eq_of_lt hsum]
  dsimp only
  by_cases hlimit : policy.dailyLimit = 0
  · simp [hlimit]
  rw [if_neg hlimit]
  by_cases hwithin : count ≤ policy.dailyLimit
  · rw [if_pos hwithin]
    refine iff_of_false (by simp) ?_
    omega
  rw [if_neg hwithin]
  by_cases hborrow : policy.borrowPercent = 0
  · simp only [hborrow,Nat.mul_zero,Nat.zero_div,Nat.lt_irrefl,and_false,if_false,true_iff]
    omega
  · by_cases hcovered : count ≤ policy.dailyLimit + policy.dailyLimit * policy.borrowPercent / 100
    · rw [if_pos ⟨hcovered,Nat.pos_of_ne_zero hborrow⟩]
      refine iff_of_false (by simp) ?_
      omega
    · rw [if_neg (fun hcond => hcovered hcond.1)]
      refine iff_of_true rfl ?_
      omega

/-! ## Keys -/

def padded (width : Nat) (value : Int) : String :=
  String.ofList (List.leftpad width '0' (Nat.toDigits 10 value.toNat))

def secondsOfDay : Nat := 86400

def dayKey (days : Nat) : String :=
  let z : Int := days + 719468
  let era := z / 146097
  let doe := z % 146097
  let yoe := (doe - doe / 1460 + doe / 36524 - doe / 146096) / 365
  let y := yoe + era * 400
  let doy := doe - (365 * yoe + yoe / 4 - yoe / 100)
  let mp := (5 * doy + 2) / 153
  let d := doy - (153 * mp + 2) / 5 + 1
  let m := if mp < 10 then mp + 3 else mp - 9
  let y := if m ≤ 2 then y + 1 else y
  padded 4 y ++ padded 2 m ++ padded 2 d

def utcDayKey (nowMs : Nat) : String := dayKey (nowMs / 1000 / secondsOfDay)

def userShard (sha256 : List UInt8 → List UInt8) (userId : String) : String :=
  hex ((sha256 (utf8 userId)).take 8)

def counterKey (sha256 : List UInt8 → List UInt8) (nowMs : Nat) (service userId : String) : String :=
  "gateway:quota:" ++ service ++ ":" ++ utcDayKey nowMs ++ ":" ++ userShard sha256 userId

/-! ## Redis -/

structure Counter where
  count : Nat
  expiresAt : Option Nat
deriving DecidableEq

abbrev Counters := String → Option Counter

def Counter.live (nowSecs : Nat) (counter : Counter) : Bool :=
  match counter.expiresAt with
  | none => true
  | some deadline => decide (nowSecs < deadline)

section
variable (nowSecs : Nat) (key : String) (counters : Counters)

def current : Counter :=
  ((counters key).filter (Counter.live nowSecs)).getD ⟨0,none⟩

def ttlSecs : Nat := 90000

/-- `INCR`, and `EXPIRE … NX` after it. -/
def incrExpire : Nat × Counters :=
  let counter := current nowSecs key counters
  (counter.count + 1,update counters key
      (some ⟨counter.count + 1,some (counter.expiresAt.getD (nowSecs + ttlSecs))⟩))

end

inductive Fate where
  | answered | commandLost | replyLost
deriving DecidableEq

structure Attempt where
  opens : Bool
  fate : Fate
deriving DecidableEq

/-- The connection of a worker, Redis behind it, and the turns to come; when
none is left, turns go well. -/
structure QuotaMemory where
  connected : Bool
  attempts : List Attempt
  counters : Counters

/-- The retry loop. A connection that cannot be opened ends it. -/
def queryCount (nowSecs : Nat) (key : String) : Nat → QuotaMemory → Option Nat × QuotaMemory
  | 0, memory => (none,memory)
  | turns + 1, memory =>
      let attempt := memory.attempts.headD ⟨true,.answered⟩
      let memory := { memory with attempts := memory.attempts.tail }
      if !memory.connected && !attempt.opens then (none,memory)
      else
        match attempt.fate with
        | .answered =>
            let answer := incrExpire nowSecs key memory.counters
            (some answer.1,{ memory with connected := true, counters := answer.2 })
        | .commandLost => queryCount nowSecs key turns { memory with connected := false }
        | .replyLost =>
            queryCount nowSecs key turns
              { memory with
                connected := false, counters := (incrExpire nowSecs key memory.counters).2 }

def retries : Nat := 2

def checkQuota (sha256 : List UInt8 → List UInt8) (nowMs : Nat) (service userId : String)
    (policy : QuotaPolicy) (memory : QuotaMemory) : Bool × QuotaMemory :=
  match queryCount (nowMs / 1000) (counterKey sha256 nowMs service userId) retries memory with
  | (none,memory) => (true,memory)
  | (some count,memory) =>
      (decide (quotaDecision count policy.dailyLimit policy.borrowPercent ≠ .rejected),memory)

/-! ## Counting within a day -/

def SetOn (day : Nat) (counter : Counter) : Prop :=
  ∃ since, since / secondsOfDay = day ∧ counter.expiresAt = some (since + ttlSecs)

def OfDay (day : Nat) (key : String) (counters : Counters) : Prop :=
  ∀ counter, counters key = some counter → SetOn day counter

def used (key : String) (counters : Counters) : Nat := ((counters key).map Counter.count).getD 0

theorem SetOn.live {day nowSecs : Nat} {counter : Counter} (hset : SetOn day counter)
    (hday : nowSecs / secondsOfDay = day) : counter.live nowSecs = true := by
  obtain ⟨since,hsince,hexpires⟩ := hset
  unfold Counter.live
  rw [hexpires]
  unfold secondsOfDay at hsince hday
  unfold ttlSecs
  exact decide_eq_true (by omega)

section

variable {day nowSecs : Nat} {key : String} {counters : Counters}

section
variable (hof : OfDay day key counters) (hday : nowSecs / secondsOfDay = day)
include hof hday

theorem current_eq : current nowSecs key counters = (counters key).getD ⟨0,none⟩ := by
  unfold current
  cases hcounter : counters key with
  | none => rfl
  | some counter => rw [Option.filter_some,if_pos ((hof counter hcounter).live hday)]

theorem incrExpire_fst : (incrExpire nowSecs key counters).1 = used key counters + 1 := by
  unfold incrExpire used
  dsimp only
  rw [current_eq hof hday]
  cases counters key with
  | none | some counter => rfl

end

theorem ofDay_incrExpire (hof : OfDay day key counters) (hday : nowSecs / secondsOfDay = day) :
    OfDay day key (incrExpire nowSecs key counters).2 := by
  intro counter hcounter
  unfold incrExpire at hcounter
  dsimp only at hcounter
  rw [update_self,current_eq hof hday] at hcounter
  cases hcounter
  cases hbefore : counters key with
  | none => exact ⟨nowSecs,hday,rfl⟩
  | some before =>
    obtain ⟨since,hsince,hexpires⟩ := hof before hbefore
    refine ⟨since,hsince,?_⟩
    rw [Option.getD_some,hexpires]
    rfl

end

def RepliesKept (turns : Nat) (memory : QuotaMemory) : Prop :=
  ∀ attempt ∈ memory.attempts.take turns, attempt.fate ≠ .replyLost

variable {memory : QuotaMemory}

theorem queryCount_of_kept (nowSecs : Nat) (key : String) {turns : Nat}
    (hkept : RepliesKept turns memory) : ((queryCount nowSecs key turns memory).1 = none ∧
        (queryCount nowSecs key turns memory).2.counters = memory.counters) ∨
      ((queryCount nowSecs key turns memory).1 = some (incrExpire nowSecs key memory.counters).1 ∧
        (queryCount nowSecs key turns memory).2.counters = (incrExpire nowSecs key memory.counters).2) := by
  induction turns generalizing memory with
  | zero => exact Or.inl ⟨rfl,rfl⟩
  | succ turns ih =>
    unfold queryCount
    dsimp only
    split
    · exact Or.inl ⟨rfl,rfl⟩
    · split
      · exact Or.inr ⟨rfl,rfl⟩
      · apply ih
        intro attempt hattempt
        apply hkept
        cases hattempts : memory.attempts with
        | nil =>
          rw [hattempts] at hattempt
          simp at hattempt
        | cons first rest =>
          rw [hattempts] at hattempt
          exact List.mem_cons_of_mem first hattempt
      next hlost =>
        cases hattempts : memory.attempts with
        | nil =>
          rw [hattempts] at hlost
          contradiction
        | cons first rest =>
          rw [hattempts] at hlost
          refine absurd hlost (hkept first ?_)
          rw [hattempts]
          exact List.mem_cons_self

/-- One check on a day whose replies are kept: it passes without counting, or
counts and rejects exactly above the allowance. -/
theorem checkQuota_of_kept {sha256 : List UInt8 → List UInt8} {nowMs day : Nat} {service userId : String} (hfits : Fits policy) (hkept : RepliesKept retries memory)
    (hof : OfDay day (counterKey sha256 nowMs service userId) memory.counters)
    (hday : nowMs / 1000 / secondsOfDay = day) :
    ((checkQuota sha256 nowMs service userId policy memory).1 = true ∧
        (checkQuota sha256 nowMs service userId policy memory).2.counters = memory.counters) ∨
      (((checkQuota sha256 nowMs service userId policy memory).1 = false ↔
          0 < policy.dailyLimit ∧ ceiling policy <
            used (counterKey sha256 nowMs service userId) memory.counters + 1) ∧
        (checkQuota sha256 nowMs service userId policy memory).2.counters =
          (incrExpire (nowMs / 1000) (counterKey sha256 nowMs service userId) memory.counters).2) := by
  have hquery := queryCount_of_kept (nowMs / 1000) (counterKey sha256 nowMs service userId) hkept
  unfold checkQuota
  generalize queryCount (nowMs / 1000) (counterKey sha256 nowMs service userId) retries memory =
    outcome at hquery
  obtain ⟨answer,after⟩ := outcome
  rcases hquery with ⟨hanswer,hcounters⟩ | ⟨hanswer,hcounters⟩
  · cases hanswer
    exact Or.inl ⟨rfl,hcounters⟩
  · cases hanswer
    refine Or.inr ⟨?_,hcounters⟩
    dsimp only
    rw [decide_eq_false_iff_not,not_not,quotaDecision_rejected_iff hfits,incrExpire_fst hof hday]

/-! ## The decision over the natural numbers -/

def exactDecision (count limit borrowPercent : Nat) : QuotaDecision :=
  if limit = 0 ∨ count ≤ limit then .allow
  else if count ≤ limit + limit * borrowPercent / 100 then .borrowed
  else .rejected

section
variable (limit borrowPercent : Nat)

def Exact : Prop := ∀ count < 2^64, quotaDecision count limit borrowPercent = exactDecision count limit borrowPercent

/-- Neither the product nor the sum leaves 64 bits, or no count can tell. -/
def Unwrapped : Prop :=
  limit * borrowPercent < 2^64 ∧ limit + limit * borrowPercent / 100 < 2^64 ∨
    limit + limit * borrowPercent % 2^64 / 100 = 2^64 - 1 ∨ limit = 2^64 - 1

variable {limit borrowPercent}

/-- Wrapped around, the ceiling is never too high. -/
theorem exact_iff (hlimit : limit < 2^64) : Exact limit borrowPercent ↔ Unwrapped limit borrowPercent := by
  have hzero : limit = 0 ∨ borrowPercent = 0 → limit * borrowPercent = 0 := Nat.mul_eq_zero.mpr
  unfold Exact Unwrapped quotaDecision exactDecision
  dsimp only
  generalize limit * borrowPercent = product at hzero ⊢
  constructor
  · intro hexact
    have hcovers : ∀ count < 2^64, 0 < limit → limit < count → count ≤ limit + product / 100 →
        count ≤ (limit + product % 2^64 / 100) % 2^64 := by
      intro count hcount _ _ _
      have hsame := hexact count hcount
      revert hsame
      split_ifs <;> simp <;> omega
    -- the counts just above the limit and just above the ceiling
    have hnext := hcovers (limit + 1)
    have hbeyond := hcovers ((limit + product % 2^64 / 100) % 2^64 + 1)
    have hlost : 2^64 ≤ product → product % 2^64 / 100 < product / 100 := by omega
    by_cases hsum : limit + product % 2^64 / 100 < 2^64
    · rw [Nat.mod_eq_of_lt hsum] at hnext hbeyond
      omega
    · omega
  · intro hunwrapped count hcount
    split_ifs <;> first | rfl | omega

end

/-- With a limit of zero every count is admitted, so that raising it may
reject; otherwise the decision is exact and monotone where nothing wraps. -/
theorem quota_exact_monotone_iff {limit borrowPercent limit' borrowPercent' : Nat} (hlimit : limit < 2^64)
    (hlimit' : limit' < 2^64) (hraised : limit ≤ limit') (hborrow : borrowPercent ≤ borrowPercent') :
    (Exact limit borrowPercent ∧ Exact limit' borrowPercent' ∧ ∀ count < 2^64,
        quotaDecision count limit borrowPercent ≠ .rejected → quotaDecision count limit' borrowPercent' ≠ .rejected) ↔
      Unwrapped limit borrowPercent ∧ Unwrapped limit' borrowPercent' ∧
        (limit = 0 → limit' = 0 ∨ 2^64 - 1 ≤ limit' + limit' * borrowPercent' / 100) := by
  rw [← exact_iff hlimit,← exact_iff hlimit']
  refine and_congr_right fun hexact => and_congr_right fun hexact' => ?_
  have hproduct := Nat.mul_le_mul hraised hborrow
  have hadmitted : ∀ count limit borrowPercent, exactDecision count limit borrowPercent ≠ .rejected ↔
      limit = 0 ∨ count ≤ limit + limit * borrowPercent / 100 := by
    intro count limit borrowPercent
    unfold exactDecision
    split_ifs <;> simp <;> omega
  have hmonotone : (∀ count < 2^64, quotaDecision count limit borrowPercent ≠ .rejected →
      quotaDecision count limit' borrowPercent' ≠ .rejected) ↔ ∀ count < 2^64,
        (limit = 0 ∨ count ≤ limit + limit * borrowPercent / 100) →
          limit' = 0 ∨ count ≤ limit' + limit' * borrowPercent' / 100 := by
    refine forall₂_congr fun count hcount => ?_
    rw [hexact count hcount,hexact' count hcount, hadmitted, hadmitted]
  rw [hmonotone]
  constructor
  · intro hall hdisabled
    have hlast := hall (2^64 - 1) (by decide) (.inl hdisabled)
    omega
  · intro hdisabled count hcount hwithin
    omega

theorem quota_exact_monotone_raised : Exact 1000 20 ∧ Exact 2000 50 := by
  have hboth : Unwrapped 1000 20 ∧ Unwrapped 2000 50 ∧ (1000 = 0 → 2000 = 0 ∨ 2^64 - 1 ≤ 2000 + 2000 * 50 / 100) := by
    unfold Unwrapped
    decide
  obtain ⟨hexact,hexact',-⟩ := (quota_exact_monotone_iff (by decide) (by decide) (by decide) (by decide)).mpr hboth
  exact ⟨hexact,hexact'⟩

theorem quota_wraps_and_disables :
    quotaDecision (2^63 + 1) (2^63) 4 = .rejected ∧ exactDecision (2^63 + 1) (2^63) 4 = .borrowed ∧
      quotaDecision 5 0 0 = .allow ∧ quotaDecision 5 1 0 = .rejected := by
  decide

end Routiq.Edge.Quota
