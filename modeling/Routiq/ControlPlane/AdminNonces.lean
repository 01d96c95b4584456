import Routiq.Core.Decimal
import Routiq.Core.Runs
import Routiq.Fleet.Publishers

/-! The signature check of the admin requests. A nonce is recorded in Redis
while Redis answers, and in the memory of the process while it does not; neither
store is told of the nonces of the other. -/
namespace Routiq.ControlPlane.AdminNonces
open Core CString Decimal Runs Redis Fleet.Publishers List

/-! ## The nonce stores -/

def adminTimestampMaxSkewSecs : Nat := 300
def adminNonceTtlSecs : Nat := 600

structure NonceStores where
  redis : Store
  memory : String → Option Nat

/-- How a nonce check fares: its admission by the circuit breaker, the
connection and the `SET`. -/
structure NonceFates where
  (acquire connect : Except RedisCallOutcome Unit)
  set : Fate
deriving DecidableEq

def nonceKey (nonce : String) : String := "admin:nonce:" ++ nonce

section
variable (fates : NonceFates) (nowMs : Nat) (nonce : String)

/-- The `SET NX EX` of a nonce under the circuit breaker: whether the key was
inserted, or no answer. -/
def recordInRedis (redis : Store) : Except RedisCallOutcome Bool × Store :=
  match fates.acquire with
  | .error outcome => (.error outcome,redis)
  | .ok () =>
    match fates.connect with
    | .error outcome => (.error outcome,redis)
    | .ok () =>
      let inserted := redis.setNxEx nowMs (nonceKey nonce) "1" adminNonceTtlSecs
      match fates.set with
      | .replied => (.ok inserted.1,inserted.2)
      | .failed applied outcome => (.error outcome,if applied then inserted.2 else redis)

/-- The fallback: drop what has expired, then insert unless present. -/
def recordInMemory (now : Nat) (nonce : String) (memory : String → Option Nat) :
    Bool × (String → Option Nat) :=
  let retained := fun key => (memory key).filter fun expiry => expiry > now
  if (retained nonce).isSome then (false,retained)
  else (true,Function.update retained nonce (some (now + adminNonceTtlSecs)))

def checkAndRecordAdminNonce (stores : NonceStores) : Bool × NonceStores :=
  if nonce.utf8ByteSize < 16 ∨ nonce.utf8ByteSize > 128 then (false,stores)
  else
    let recorded := recordInRedis fates nowMs nonce stores.redis
    match recorded.1 with
    | .ok inserted => (inserted,{ stores with redis := recorded.2 })
    | .error _ =>
      let fallback := recordInMemory (nowMs / 1000) nonce stores.memory
      (fallback.1,⟨recorded.2,fallback.2⟩)

end

/-! ## The signature -/

structure AdminKey where
  key : String
  hmac : List UInt8 → List UInt8 → List UInt8

structure AdminCall where
  (signature timestamp nonce : Option String)
  body : List UInt8
deriving DecidableEq

def adminSigningMaterial (timestamp nonce : String) (body : List UInt8) : List UInt8 :=
  utf8 (timestamp ++ "\n" ++ nonce ++ "\n") ++ body

/-- The digits after `sha256=`, none without it. -/
def providedHex (header : String) : List Char :=
  if "sha256=".toList.isPrefixOf header.toList then header.toList.drop "sha256=".length else []

def verifyHmacSignature (admin : AdminKey) (material : List UInt8) (header : String) : Bool :=
  if (providedHex header).isEmpty then false
  else (hex (admin.hmac (utf8 admin.key) material)).toList == providedHex header

def absDiff (first second : Nat) : Nat := first - second + (second - first)
def devAdminKey : String := "CHANGE_ME_ADMIN_API_KEY"

def verifyAdminSignature (admin : AdminKey) (fates : NonceFates) (nowMs : Nat) (call : AdminCall)
    (stores : NonceStores) : Bool × NonceStores :=
  if admin.key = devAdminKey then (true,stores)
  else
    match call.signature, call.timestamp, call.nonce with
    | some signature, some timestamp, some nonce =>
      match parseU64 timestamp.toList with
      | none => (false,stores)
      | some ts =>
        if absDiff (nowMs / 1000) ts > adminTimestampMaxSkewSecs then (false,stores)
        else
          let checked := checkAndRecordAdminNonce fates nowMs nonce stores
          (checked.1 &&
            verifyHmacSignature admin (adminSigningMaterial timestamp nonce call.body) signature,
            checked.2)
    | _, _, _ => (false,stores)

/-! ## Sequences of admin requests -/

structure SignedTriple where
  (timestamp nonce : String)
  body : List UInt8
deriving DecidableEq

def AdminCall.triple? (call : AdminCall) : Option SignedTriple :=
  match call.timestamp, call.nonce with
  | some timestamp, some nonce => some ⟨timestamp,nonce,call.body⟩
  | _, _ => none

structure AdminEvent where
  call : AdminCall
  nowMs : Nat
  fates : NonceFates

structure Acceptance where
  triple : SignedTriple
  nowMs : Nat
  answered : Bool
deriving DecidableEq

structure AdminService where
  stores : NonceStores
  clockMs : Nat
  accepted : List Acceptance

def NonceFates.answers (fates : NonceFates) : Bool :=
  fates.acquire.isOk && fates.connect.isOk && fates.set = .replied

def adminStep (admin : AdminKey) (service : AdminService) (event : AdminEvent) : AdminService :=
  let verified := verifyAdminSignature admin event.fates event.nowMs event.call service.stores
  { stores := verified.2
    clockMs := event.nowMs
    accepted := service.accepted ++
      if verified.1 then
        (event.call.triple?.map (⟨·,event.nowMs,event.fates.answers⟩)).toList
      else [] }

/-! ## What one nonce check does -/

section Checks
variable {fates : NonceFates}

theorem recordInRedis_of_answers (nowMs : Nat) (nonce : String) (hanswers : fates.answers = true)
    (redis : Store) : recordInRedis fates nowMs nonce redis =
      (.ok (redis.setNxEx nowMs (nonceKey nonce) "1" adminNonceTtlSecs).1,
        (redis.setNxEx nowMs (nonceKey nonce) "1" adminNonceTtlSecs).2) := by
  obtain ⟨acquire,connect,set⟩ := fates
  cases acquire with
  | error outcome => contradiction
  | ok _ =>
    cases connect with
    | error outcome => contradiction
    | ok _ =>
      cases set with
      | failed applied outcome => contradiction
      | replied => rfl

theorem recordInRedis_of_not_answers (nowMs : Nat) (nonce : String) (hanswers : fates.answers = false)
    (redis : Store) : (∃ outcome, (recordInRedis fates nowMs nonce redis).1 = .error outcome) ∧
      ((recordInRedis fates nowMs nonce redis).2 = redis ∨ (recordInRedis fates nowMs nonce redis).2 =
          (redis.setNxEx nowMs (nonceKey nonce) "1" adminNonceTtlSecs).2) := by
  obtain ⟨acquire,connect,set⟩ := fates
  cases acquire with
  | error outcome => exact ⟨⟨outcome,rfl⟩,.inl rfl⟩
  | ok _ =>
    cases connect with
    | error outcome => exact ⟨⟨outcome,rfl⟩,.inl rfl⟩
    | ok _ =>
      cases set with
      | replied => contradiction
      | failed applied outcome =>
        cases applied with
        | false => exact ⟨⟨outcome,rfl⟩,.inl rfl⟩
        | true => exact ⟨⟨outcome,rfl⟩,.inr rfl⟩

/-- What a check does: it looks at one of the two stores, and may set the nonce
in Redis although the answer was lost. -/
theorem checkAndRecordAdminNonce_cases (fates : NonceFates) (nowMs : Nat) (nonce : String)
    (stores : NonceStores) : checkAndRecordAdminNonce fates nowMs nonce stores = (false,stores) ∨
    (fates.answers = true ∧ checkAndRecordAdminNonce fates nowMs nonce stores =
        ((stores.redis.setNxEx nowMs (nonceKey nonce) "1" adminNonceTtlSecs).1,
          ⟨(stores.redis.setNxEx nowMs (nonceKey nonce) "1" adminNonceTtlSecs).2,stores.memory⟩)) ∨
    (fates.answers = false ∧ ∃ redis, (redis = stores.redis ∨
        redis = (stores.redis.setNxEx nowMs (nonceKey nonce) "1" adminNonceTtlSecs).2) ∧
      checkAndRecordAdminNonce fates nowMs nonce stores =
        ((recordInMemory (nowMs / 1000) nonce stores.memory).1,
          ⟨redis,(recordInMemory (nowMs / 1000) nonce stores.memory).2⟩)) := by
  unfold checkAndRecordAdminNonce
  by_cases hlength : nonce.utf8ByteSize < 16 ∨ nonce.utf8ByteSize > 128
  · exact .inl (if_pos hlength)
  · rw [if_neg hlength]
    right
    cases hanswers : fates.answers with
    | true =>
      rw [recordInRedis_of_answers nowMs nonce hanswers]
      exact .inl ⟨rfl,rfl⟩
    | false =>
      obtain ⟨⟨outcome,hfailed⟩,hredis⟩ := recordInRedis_of_not_answers nowMs nonce hanswers stores.redis
      refine .inr ⟨rfl,_,hredis,?_⟩
      dsimp only
      rw [hfailed]

end Checks

/-! ## Nonces that a store holds -/

/-- The store that took the nonce of an acceptance has it until it expires. -/
def Held (stores : NonceStores) (clockMs : Nat) (acceptance : Acceptance) : Prop :=
  if acceptance.answered then
    clockMs < acceptance.nowMs + adminNonceTtlSecs * 1000 →
      stores.redis.strings (nonceKey acceptance.triple.nonce) =
        some ⟨"1",some (acceptance.nowMs + adminNonceTtlSecs * 1000)⟩
  else
    clockMs / 1000 < acceptance.nowMs / 1000 + adminNonceTtlSecs →
      stores.memory acceptance.triple.nonce = some (acceptance.nowMs / 1000 + adminNonceTtlSecs)

variable {memory : String → Option Nat} {now : Nat} {nonce : String} {expiry : Nat}

section
variable (hheld : memory nonce = some expiry) (hlive : now < expiry)
include hheld hlive

theorem recordInMemory_keeps (other : String) : (recordInMemory now other memory).2 nonce = some expiry := by
  have hretained : (memory nonce).filter (fun expiry => decide (expiry > now)) = some expiry := by
    simp [hheld,Option.filter,hlive]
  unfold recordInMemory
  dsimp only
  by_cases hpresent : ((memory other).filter fun expiry => decide (expiry > now)).isSome = true
  · rw [if_pos hpresent]
    exact hretained
  · rw [if_neg hpresent]
    have hother : nonce ≠ other := by
      intro hsame
      rw [← hsame,hretained] at hpresent
      exact hpresent rfl
    dsimp only
    rw [Function.update_of_ne hother]
    exact hretained

theorem recordInMemory_refuses : (recordInMemory now nonce memory).1 = false := by
  simp [recordInMemory,hheld,Option.filter,hlive]

end

theorem recordInMemory_inserts (hinserted : (recordInMemory now nonce memory).1 = true) :
    (recordInMemory now nonce memory).2 nonce = some (now + adminNonceTtlSecs) := by
  unfold recordInMemory at hinserted ⊢
  dsimp only at hinserted ⊢
  by_cases hpresent : ((memory nonce).filter fun expiry => decide (expiry > now)).isSome = true
  · rw [if_pos hpresent] at hinserted
    contradiction
  · rw [if_neg hpresent]
    simp

variable {stores : NonceStores} {clockMs nowMs : Nat} {acceptance : Acceptance}

section
variable (hheld : Held stores clockMs acceptance) (hclock : clockMs ≤ nowMs)
include hheld hclock

theorem Held.later : Held stores nowMs acceptance := by
  unfold Held at hheld ⊢
  cases hanswered : acceptance.answered with
  | true | false =>
    rw [hanswered] at hheld
    exact fun hlive => hheld (by omega)

theorem Held.check (fates : NonceFates) (nonce : String) :
    Held (checkAndRecordAdminNonce fates nowMs nonce stores).2 nowMs acceptance := by
  unfold Held at hheld ⊢
  have hcases := checkAndRecordAdminNonce_cases fates nowMs nonce stores
  cases hanswered : acceptance.answered with
  | true =>
    rw [hanswered] at hheld
    simp only [if_true] at hheld ⊢
    intro hlive
    have hentry := hheld (by omega)
    have hkept : (stores.redis.setNxEx nowMs (nonceKey nonce) "1" adminNonceTtlSecs).2.strings
        (nonceKey acceptance.triple.nonce) = some ⟨"1",some (acceptance.nowMs + adminNonceTtlSecs * 1000)⟩ :=
      Store.strings_setNxEx_of_live hentry (decide_eq_true hlive) _ _ _
    rcases hcases with hsame | ⟨_,hredis⟩ | ⟨_,redis,hredis,hmemory⟩
    · rw [hsame]
      exact hentry
    · rw [hredis]
      exact hkept
    · rw [hmemory]
      rcases hredis with rfl | rfl
      · exact hentry
      · exact hkept
  | false =>
    rw [hanswered] at hheld
    simp only [Bool.false_eq_true,if_false] at hheld ⊢
    intro hlive
    have hentry := hheld (by omega)
    rcases hcases with hsame | ⟨_,hredis⟩ | ⟨_,redis,_,hmemory⟩
    · rw [hsame]
      exact hentry
    · rw [hredis]
      exact hentry
    · rw [hmemory]
      exact recordInMemory_keeps hentry hlive nonce

end

variable {triple : SignedTriple} {fates : NonceFates}

theorem held_of_check (hpassed : (checkAndRecordAdminNonce fates nowMs triple.nonce stores).1 = true) :
    Held (checkAndRecordAdminNonce fates nowMs triple.nonce stores).2 nowMs ⟨triple,nowMs,fates.answers⟩ := by
  unfold Held
  rcases checkAndRecordAdminNonce_cases fates nowMs triple.nonce stores with
    hrefused | ⟨hanswers,hredis⟩ | ⟨hanswers,redis,_,hmemory⟩
  · rw [hrefused] at hpassed
    contradiction
  · rw [hredis] at hpassed ⊢
    rw [if_pos hanswers]
    intro _
    unfold Store.setNxEx at hpassed ⊢
    split at hpassed
    · contradiction
    next hpresent => simp [hpresent,Store.put]
  · rw [hmemory] at hpassed ⊢
    rw [if_neg (by simp [hanswers])]
    exact fun _ => recordInMemory_inserts hpassed

theorem Held.refuses (hheld : Held stores clockMs acceptance) (hclock : clockMs ≤ nowMs) (hsame : acceptance.answered = fates.answers)
    (hlive : nowMs / 1000 < acceptance.nowMs / 1000 + adminNonceTtlSecs) :
    (checkAndRecordAdminNonce fates nowMs acceptance.triple.nonce stores).1 = false := by
  unfold Held at hheld
  rcases checkAndRecordAdminNonce_cases fates nowMs acceptance.triple.nonce stores with
    hrefused | ⟨hanswers,hredis⟩ | ⟨hanswers,redis,_,hmemory⟩
  · rw [hrefused]
  · rw [hredis]
    rw [hsame,if_pos hanswers] at hheld
    have hbefore : nowMs < acceptance.nowMs + adminNonceTtlSecs * 1000 := by omega
    exact Store.setNxEx_of_live (hheld (by omega)) (decide_eq_true hbefore) _ _
  · rw [hmemory]
    rw [hsame,if_neg (by simp [hanswers])] at hheld
    exact recordInMemory_refuses (hheld (by omega)) hlive

/-! ## Every schedule -/

/-- The request carries the triple with its signature, inside the window of its
timestamp. -/
structure Presents (admin : AdminKey) (triple : SignedTriple) (event : AdminEvent) : Prop where
  carried : event.call.triple? = some triple
  timely : ∃ ts, parseU64 triple.timestamp.toList = some ts ∧
    absDiff (event.nowMs / 1000) ts ≤ adminTimestampMaxSkewSecs
  signed : ∃ signature, event.call.signature = some signature ∧
    verifyHmacSignature admin (adminSigningMaterial triple.timestamp triple.nonce triple.body)
      signature = true

variable {admin : AdminKey}

/-- A request is refused without a nonce check, or it presents a triple and the
check of its nonce decides. -/
theorem verifyAdminSignature_cases (hkey : admin.key ≠ devAdminKey) (event : AdminEvent)
    (stores : NonceStores) :
    verifyAdminSignature admin event.fates event.nowMs event.call stores = (false,stores) ∨
    ∃ triple, event.call.triple? = some triple ∧
      (verifyAdminSignature admin event.fates event.nowMs event.call stores).2 =
        (checkAndRecordAdminNonce event.fates event.nowMs triple.nonce stores).2 ∧
      ((verifyAdminSignature admin event.fates event.nowMs event.call stores).1 = true →
        Presents admin triple event ∧
          (checkAndRecordAdminNonce event.fates event.nowMs triple.nonce stores).1 = true) := by
  obtain ⟨⟨signature,timestamp,nonce,body⟩,nowMs,fates⟩ := event
  unfold verifyAdminSignature
  rw [if_neg hkey]
  cases signature with
  | none => exact .inl rfl
  | some signature =>
    cases timestamp with
    | none => exact .inl rfl
    | some timestamp =>
      cases nonce with
      | none => exact .inl rfl
      | some nonce =>
        dsimp only
        cases hparsed : parseU64 timestamp.toList with
        | none => exact .inl rfl
        | some ts =>
          dsimp only
          by_cases hskew : absDiff (nowMs / 1000) ts > adminTimestampMaxSkewSecs
          · exact .inl (if_pos hskew)
          · rw [if_neg hskew]
            refine .inr ⟨⟨timestamp,nonce,body⟩,rfl,rfl,fun haccepted => ?_⟩
            rw [Bool.and_eq_true] at haccepted
            exact ⟨⟨rfl,⟨ts,hparsed,Nat.not_lt.mp hskew⟩,⟨signature,rfl,haccepted.2⟩⟩,haccepted.1⟩

def Nondecreasing (service : AdminService) (event : AdminEvent) : Prop := service.clockMs ≤ event.nowMs

/-- A triple that was accepted is presented again only while its nonce has not
expired, and only to the store that took it: Redis answers exactly if it did. -/
def Steady (admin : AdminKey) (triple : SignedTriple) (service : AdminService) (event : AdminEvent) : Prop :=
  Presents admin triple event → ∀ acceptance ∈ service.accepted, acceptance.triple = triple →
    acceptance.answered = event.fates.answers ∧
      event.nowMs / 1000 < acceptance.nowMs / 1000 + adminNonceTtlSecs

section
variable (triple : SignedTriple) (service : AdminService)

def acceptances : List Acceptance :=
  service.accepted.filter fun acceptance => acceptance.triple = triple

structure AdminInv : Prop where
  held : ∀ acceptance ∈ service.accepted, Held service.stores service.clockMs acceptance
  once : (acceptances triple service).length ≤ 1

end

variable {service : AdminService} {event : AdminEvent}

theorem adminInv_step (hkey : admin.key ≠ devAdminKey) (hclock : Nondecreasing service event)
    (hsteady : Steady admin triple service event)
    (hinv : AdminInv triple service) : AdminInv triple (adminStep admin service event) := by
  rcases verifyAdminSignature_cases hkey event service.stores with
    hrefused | ⟨presented,hcarried,hstores,haccepts⟩
  · have hstep : adminStep admin service event = ⟨service.stores,event.nowMs,service.accepted⟩ := by
      simp [adminStep,hrefused]
    rw [hstep]
    exact ⟨fun acceptance hmem => (hinv.held acceptance hmem).later hclock,hinv.once⟩
  · have hkept : ∀ acceptance ∈ service.accepted,
        Held (adminStep admin service event).stores event.nowMs acceptance := by
      intro acceptance hmem
      unfold adminStep
      dsimp only
      rw [hstores]
      exact (hinv.held acceptance hmem).check hclock event.fates presented.nonce
    cases hverified : (verifyAdminSignature admin event.fates event.nowMs event.call service.stores).1 with
    | false =>
      have hlog : (adminStep admin service event).accepted = service.accepted := by
        simp [adminStep,hverified]
      refine ⟨?_,?_⟩
      · rw [hlog]
        exact hkept
      · unfold acceptances
        rw [hlog]
        exact hinv.once
    | true =>
      obtain ⟨hpresents,hpassed⟩ := haccepts hverified
      have hlog : (adminStep admin service event).accepted =
          service.accepted ++ [⟨presented,event.nowMs,event.fates.answers⟩] := by
        simp [adminStep,hverified,hcarried]
      refine ⟨?_,?_⟩
      · rw [hlog,forall_mem_append,forall_mem_singleton]
        refine ⟨hkept,?_⟩
        have hheld := held_of_check hpassed
        rw [← hstores] at hheld
        exact hheld
      · unfold acceptances
        rw [hlog,filter_append,length_append]
        by_cases hpresented : presented = triple
        · subst hpresented
          -- had the triple been accepted before, the check would have failed
          have hnone : acceptances presented service = [] := by
            rw [eq_nil_iff_forall_not_mem]
            intro acceptance hmem
            obtain ⟨haccepted,htriple⟩ := mem_filter.mp hmem
            have htriple := of_decide_eq_true htriple
            obtain ⟨hsame,hlive⟩ := hsteady hpresents acceptance haccepted htriple
            have hrefuses := (hinv.held acceptance haccepted).refuses hclock hsame hlive
            rw [htriple,hpassed] at hrefuses
            contradiction
          unfold acceptances at hnone
          rw [hnone]
          simp
        · have honce := hinv.once
          unfold acceptances at honce
          simpa [hpresented] using honce

/-- Every schedule of requests and of Redis failures. -/
theorem triple_accepted_once_of_steady (admin : AdminKey) (hkey : admin.key ≠ devAdminKey)
    (stores : NonceStores) (clockMs : Nat) (triple : SignedTriple) (events : List AdminEvent)
    (hclock : Along (adminStep admin) Nondecreasing ⟨stores,clockMs,[]⟩ events)
    (hsteady : Along (adminStep admin) (Steady admin triple) ⟨stores,clockMs,[]⟩ events) :
    (acceptances triple (run (adminStep admin) ⟨stores,clockMs,[]⟩ events)).length ≤ 1 := by
  have hgood : Along (adminStep admin)
      (fun service event => Nondecreasing service event ∧ Steady admin triple service event)
      ⟨stores,clockMs,[]⟩ events := along_and.mpr ⟨hclock,hsteady⟩
  have hstart : AdminInv triple ⟨stores,clockMs,[]⟩ := by
    refine ⟨fun acceptance hmem => ?_,Nat.zero_le 1⟩
    contradiction
  have hfinal : AdminInv triple (run (adminStep admin) ⟨stores,clockMs,[]⟩ events) :=
    invariant_run (fun _ _ hevent hinv => adminInv_step hkey hevent.1 hevent.2 hinv) hgood hstart
  exact hfinal.once

/-! ## One signed rollback, sent twice -/

/-- HMAC-SHA256 under the key `k`, on the material of the one request below. -/
def sampleAdminKey : AdminKey where
  key := "k"
  hmac _ _ := [25,79,205,203,185,46,70,200,28,89,223,170,28,175,229,209,12,161,173,251,81,95,91,90,210,221,181,30,22,141,146,111]

def sampleTriple : SignedTriple := ⟨"1000","nonce-0123456789",[]⟩

def sampleCall : AdminCall where
  signature := some "sha256=194fcdcbb92e46c81c59dfaa1cafe5d10ca1adfb515f5b5ad2ddb51e168d926f"
  timestamp := some "1000"
  nonce := some "nonce-0123456789"
  body := []

def redisAnswers : NonceFates := ⟨.ok (),.ok (),.replied⟩
def circuitOpen : NonceFates := ⟨.error .circuitOpen,.ok (),.replied⟩
def emptyStores : NonceStores := ⟨.empty,fun _ => none⟩

def acceptedAt (attempts : List (Nat × NonceFates)) : AdminService :=
  run (adminStep sampleAdminKey) ⟨emptyStores,0,[]⟩
    (attempts.map fun attempt => ⟨sampleCall,attempt.1,attempt.2⟩)

theorem triple_accepted_once_answered :
    (acceptances sampleTriple (acceptedAt [(1000000,redisAnswers),(1010000,redisAnswers)])).length ≤ 1 :=
  triple_accepted_once_of_steady sampleAdminKey (by decide) emptyStores 0 sampleTriple _
    ⟨Nat.zero_le 1000000,(by decide : 1000000 ≤ 1010000),trivial⟩
    ⟨fun _ _ hmem => absurd hmem not_mem_nil,
      fun _ => by decide +kernel,trivial⟩

/-- Redis answers the first check and the circuit is open at the second; or
neither is answered, and the second comes exactly at the end of the window that
the first had come at the beginning of. -/
theorem triple_accepted_twice :
    (acceptances sampleTriple (acceptedAt [(1000000,redisAnswers),(1010000,circuitOpen)])).length = 2 ∧
      (acceptances sampleTriple (acceptedAt [(700000,circuitOpen),(1300000,circuitOpen)])).length = 2 := by
  decide +kernel

/-! ## What a signature stands for -/

inductive Endpoint where
  | config | rollback | revoke
deriving DecidableEq

/-- A header holds no newline. -/
abbrev HeaderText := { text : String // 10 ∉ utf8 text }

structure AdminRequest where
  endpoint : Endpoint
  query : List Char
  (timestamp nonce : HeaderText)
  body : List UInt8

namespace AdminRequest
variable (request : AdminRequest)

def dryRun : Bool :=
  (request.query.splitOn '&').any fun item => item = "dry_run=1".toList || item = "dry_run=true".toList

def signedBody : List UInt8 := if request.endpoint = .rollback then [] else request.body

def passes (admin : AdminKey) (signature : String) : Bool := verifyHmacSignature admin
  (adminSigningMaterial request.timestamp.val request.nonce.val request.signedBody) signature

structure Agree (first second : AdminRequest) : Prop where
  endpoint : first.endpoint = second.endpoint
  dryRun : first.dryRun = second.dryRun
  timestamp : first.timestamp = second.timestamp
  nonce : first.nonce = second.nonce
  body : first.body = second.body

end AdminRequest

theorem cut_injective {first second rest others : List UInt8} (hfirst : 10 ∉ first) (hsecond : 10 ∉ second)
    (heq : first ++ 10 :: rest = second ++ 10 :: others) : first = second ∧ rest = others := by
  induction first generalizing second with
  | nil => cases second <;> grind
  | cons byte first ih => cases second <;> grind

theorem hex_injective {left right : List UInt8} (heq : hex left = hex right) : left = right := by
  have hdigit : ∀ a < 16, ∀ b < 16, hexDigit a = hexDigit b → a = b := by decide
  have hbyte := UInt8.toNat_lt
  have hchars := String.ofList_injective heq
  clear heq
  induction left generalizing right with
  | nil => cases right <;> simp_all
  | cons byte left ih => cases right <;> grind [UInt8.toNat_inj]

variable {admin : AdminKey} {signature : String}

theorem hmac_of_verified {material : List UInt8} (hverified : verifyHmacSignature admin material signature = true) :
    (hex (admin.hmac (utf8 admin.key) material)).toList = providedHex signature := by
  unfold verifyHmacSignature at hverified
  grind

def sampleRequest (endpoint : Endpoint) (query : String) : AdminRequest :=
  ⟨endpoint,query.toList,⟨"1000",by decide⟩,⟨"nonce-0123456789",by decide⟩,[]⟩

end Routiq.ControlPlane.AdminNonces
