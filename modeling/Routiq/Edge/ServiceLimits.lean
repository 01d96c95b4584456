import Routiq.Core.Runs
import Routiq.Edge.RateLimit

/-! One user and the limits of several services. A limit belongs to its service
and the counter to the user, so a request is judged by what the user was let
through in that second at any service with a limit. -/
namespace Routiq.Edge.ServiceLimits
open Core.Runs Core.FixedWindow RateLimit List

structure Setup where
  env : RateEnv
  userKey : String
  rateLimitMax : String → Nat

structure Visit where
  service : String
  nowMs : Nat
deriving DecidableEq

def Visit.second (visit : Visit) : Nat := visit.nowMs / 1000

section
variable (setup : Setup) (memory : RateMemory)

def check (visit : Visit) : Bool × RateMemory :=
  checkRateLimit setup.env visit.nowMs (setup.rateLimitMax visit.service) (some setup.userKey) memory

def step (visit : Visit) : RateMemory := (check setup memory visit).2

def admitted (visit : Visit) : List Visit :=
  if (check setup memory visit).1 then [visit] else []

def admissions (visits : List Visit) : List Visit := trail (step setup) (admitted setup) memory visits

end

def fresh (channel : Option (List SyncMsg)) : RateMemory := ⟨.empty shmSlots,channel⟩

def madeTo (service : String) (second : Nat) (visits : List Visit) : Nat :=
  visits.countP fun visit => visit.second = second ∧ visit.service = service

def limited (setup : Setup) (second : Nat) (visits : List Visit) : Nat :=
  visits.countP fun visit => visit.second = second ∧ setup.rateLimitMax visit.service ≠ 0

variable {setup : Setup} {memory : RateMemory} {visit : Visit}

def Setup.bucket (setup : Setup) (memory : RateMemory) : Bucket := memory.buckets (userSlot setup.env setup.userKey)

theorem check_unlimited (hfree : setup.rateLimitMax visit.service = 0) : check setup memory visit = (true,memory) := by
  unfold check checkRateLimit
  rw [if_pos hfree]

theorem check_limited (memory : RateMemory) (hkey : setup.userKey ≠ "")
    (hmax : setup.rateLimitMax visit.service ≠ 0) :
    ((check setup memory visit).1,setup.bucket (step setup memory visit)) =
      (setup.bucket memory).hit (nowSecsU32 visit.nowMs) (setup.rateLimitMax visit.service % 2^32) := by
  unfold step check checkRateLimit
  dsimp only
  rw [if_neg hmax,if_neg (by simp [hkey])]
  split
  next hhit =>
    simp only [Bool.not_eq_true'] at hhit
    exact Prod.ext hhit.symm (by simp [Setup.bucket,hitAt])
  next hhit =>
    simp only [Bool.not_eq_true',Bool.not_eq_false] at hhit
    exact Prod.ext hhit.symm (by simp [Setup.bucket,hitAt])

section
variable (setup : Setup) (memory : RateMemory)

theorem admissions_sublist (visits : List Visit) : (admissions setup memory visits).Sublist visits := by
  induction visits generalizing memory with
  | nil => exact List.Sublist.refl []
  | cons visit visits ih =>
    have hrest := ih (step setup memory visit)
    rw [admissions,trail_cons, admitted]
    split
    · exact hrest.cons_cons visit
    · exact hrest.cons visit

/-- The counter stands for what was let through in the present second. -/
structure Accounted (seen : List Visit) (last : Nat) : Prop where
  behind : ∀ visit ∈ seen, visit.second ≤ last
  counts : ∀ second, last ≤ second → second < 2^32 →
    (setup.bucket memory).countAt second = limited setup second seen

end

theorem Accounted.step {seen : List Visit} {last : Nat} (haccounted : Accounted setup memory seen last)
    (hkey : setup.userKey ≠ "") (hlater : last ≤ visit.second) (hspan : visit.second < 2^32) :
    Accounted setup (step setup memory visit) (seen ++ admitted setup memory visit) visit.second := by
  constructor
  · intro other hother
    rcases mem_append.mp hother with hbefore | hnow
    · exact (haccounted.behind other hbefore).trans hlater
    · unfold admitted at hnow
      split at hnow
      · exact (congrArg Visit.second (mem_singleton.mp hnow)).le
      · contradiction
  · intro second hsecond hbound
    have hbefore := haccounted.counts second (hlater.trans hsecond) hbound
    by_cases hfree : setup.rateLimitMax visit.service = 0
    · rw [ServiceLimits.step, admitted,check_unlimited hfree,hbefore]
      simp [limited,hfree]
    · obtain ⟨hverdict,hbucket⟩ := Prod.ext_iff.mp (check_limited memory hkey hfree)
      dsimp only at hverdict hbucket
      rw [hbucket, admitted,hverdict]
      cases hhit : ((setup.bucket memory).hit (nowSecsU32 visit.nowMs) (setup.rateLimitMax visit.service % 2^32)).1 with
      | false =>
        rw [Bucket.hit_rejected hhit,hbefore]
        simp
      | true =>
        have hnow : nowSecsU32 visit.nowMs = visit.second := Nat.mod_eq_of_lt hspan
        rw [Bucket.hit_admitted hhit,Bucket.countAt_counted,hnow]
        by_cases hsame : second = visit.second
        · subst hsame
          rw [if_pos rfl,hbefore]
          simp [limited,hfree]
        · -- All that was let through lies before the second in question.
          rw [if_neg hsame,eq_comm,limited,countP_eq_zero]
          intro other hother
          have hle : other.second ≤ visit.second := by
            rcases mem_append.mp hother with hbefore | hlast
            · exact (haccounted.behind other hbefore).trans hlater
            · simp at hlast
              rw [hlast]
          have hne : other.second ≠ second := by omega
          simp [hne]

theorem Accounted.run {visits seen : List Visit} {last second : Nat} (haccounted : Accounted setup memory seen last)
    (hkey : setup.userKey ≠ "") (hclock : visits.Pairwise fun earlier later => earlier.nowMs ≤ later.nowMs)
    (hlater : ∀ visit ∈ visits, last ≤ visit.second ∧ visit.second ≤ second) (hlast : last ≤ second)
    (hspan : second < 2^32) : (setup.bucket (run (ServiceLimits.step setup) memory visits)).countAt second =
      limited setup second (seen ++ admissions setup memory visits) := by
  induction visits generalizing memory seen last with
  | nil => simpa [admissions] using haccounted.counts second hlast hspan
  | cons visit visits ih =>
    obtain ⟨hfirst,hrest⟩ := pairwise_cons.mp hclock
    obtain ⟨hlow,hhigh⟩ := hlater visit mem_cons_self
    have hnext := haccounted.step hkey hlow (hhigh.trans_lt hspan)
    rw [run_cons,ih hnext hrest ?_ hhigh,append_assoc]
    · rfl
    · intro other hother
      exact ⟨Nat.div_le_div_right (hfirst other hother),(hlater other (mem_cons_of_mem _ hother)).2⟩

/-- With the clock in 32 bits and never going back, the limit of a service is
exact for a request that no other service with a limit has had requests before
in its second, or that has fewer requests before it than the limit. -/
theorem rejected_iff_limit_reached (setup : Setup) (channel : Option (List SyncMsg)) {before : List Visit}
    {visit : Visit} (hkey : setup.userKey ≠ "")
    (hclock : (before ++ [visit]).Pairwise fun earlier later => earlier.nowMs ≤ later.nowMs)
    (hspan : visit.second < 2^32) (hmax : setup.rateLimitMax visit.service < 2^32)
    (halone : (∀ earlier ∈ before, earlier.second = visit.second → setup.rateLimitMax earlier.service ≠ 0 →
        earlier.service = visit.service) ∨
      before.countP (fun earlier => earlier.second = visit.second) < setup.rateLimitMax visit.service) :
    (check setup (run (step setup) (fresh channel) before) visit).1 = false ↔
      0 < setup.rateLimitMax visit.service ∧ setup.rateLimitMax visit.service ≤
        madeTo visit.service visit.second (admissions setup (fresh channel) before) := by
  rcases Nat.eq_zero_or_pos (setup.rateLimitMax visit.service) with hfree | hpos
  · rw [check_unlimited hfree]
    simp [hfree]
  obtain ⟨hsorted,-,hlast⟩ := pairwise_append.mp hclock
  have hstart : Accounted setup (fresh channel) [] 0 := by
    refine ⟨fun _ hnone => absurd hnone not_mem_nil,fun second _ _ => ?_⟩
    exact ite_self 0
  have hlater : ∀ earlier ∈ before, 0 ≤ earlier.second ∧ earlier.second ≤ visit.second := by
    intro earlier hearlier
    exact ⟨Nat.zero_le _,Nat.div_le_div_right (hlast earlier hearlier visit (mem_singleton_self _))⟩
  have hcount := hstart.run hkey hsorted hlater (Nat.zero_le _) hspan
  have hnow : nowSecsU32 visit.nowMs = visit.second := Nat.mod_eq_of_lt hspan
  rw [(Prod.ext_iff.mp (check_limited _ hkey hpos.ne')).1,Nat.mod_eq_of_lt hmax,hnow,Bucket.hit_rejected_iff hpos,
    hcount,nil_append]
  have hsub := admissions_sublist setup (fresh channel) before
  have hmade : madeTo visit.service visit.second (admissions setup (fresh channel) before) ≤
      limited setup visit.second (admissions setup (fresh channel) before) := by
    apply countP_mono_left
    intro earlier _ hearlier
    simp only [decide_eq_true_eq] at hearlier ⊢
    exact ⟨hearlier.1,by rw [hearlier.2]; exact hpos.ne'⟩
  rcases halone with halone | hfew
  · have hsame : limited setup visit.second (admissions setup (fresh channel) before) ≤
        madeTo visit.service visit.second (admissions setup (fresh channel) before) := by
      apply countP_mono_left
      intro earlier hearlier hlimited
      simp only [decide_eq_true_eq] at hlimited ⊢
      exact ⟨hlimited.1,halone earlier (hsub.subset hearlier) hlimited.1 hlimited.2⟩
    omega
  · have hbelow : limited setup visit.second (admissions setup (fresh channel) before) ≤
        before.countP (fun earlier => earlier.second = visit.second) := by
      refine hsub.countP_le.trans (countP_mono_left fun earlier _ hlimited => ?_)
      simp only [decide_eq_true_eq] at hlimited ⊢
      exact hlimited.1
    omega

/-! A user who may make two requests in a second to the first service and one to
the second. -/

def sampleSetup : Setup := ⟨⟨String.length,false⟩,"user",fun service => if service = "first" then 2 else 1⟩

theorem rejected_iff_limit_reached_third : (check sampleSetup
    (run (step sampleSetup) (fresh none) [⟨"first",10000⟩,⟨"first",10100⟩]) ⟨"first",10200⟩).1 = false :=
  (rejected_iff_limit_reached sampleSetup none (by decide) (by decide) (by decide) (by decide)
    (.inl (by decide))).mpr (by decide +kernel)

theorem rejected_for_another_service :
    (check sampleSetup (run (step sampleSetup) (fresh none) [⟨"first",10000⟩]) ⟨"second",10100⟩).1 = false ∧
      sampleSetup.rateLimitMax "second" = 1 ∧
      madeTo "second" 10 (admissions sampleSetup (fresh none) [⟨"first",10000⟩]) = 0 := by
  decide +kernel

end Routiq.Edge.ServiceLimits
