import Routiq.Core.Runs
import Routiq.Edge.Quota
import Routiq.Edge.RateLimit

/-! The fleet-wide count of a user's requests. Each worker tells Redis of the
requests it lets through, and its thread saturates the bucket of the node when
the count exceeds the limit. The key in Redis lives for two seconds and the
window for one, so the count of a compliant user may exceed it. -/
namespace Routiq.Fleet.RateSync
open Function Core.Runs Core.FixedWindow Edge.RateLimit Edge.Quota Function List Option

/-- One user, and the nodes that the workers belong to. -/
structure Setup (Node Worker : Type) where
  env : RateEnv
  userKey : String
  maxRps : Nat
  home : Worker → Node

/-- A thread that has been told a fleet-wide count has yet to compare it. -/
structure Deployment (Node Worker : Type) where
  clockMs : Nat
  buckets : Node → Table shmSlots
  channels : Worker → Option (List SyncMsg)
  answers : Worker → Option (SyncMsg × Nat)
  redis : Counters

/-- A request, the next message of a worker on its way to Redis, and what its
thread does with the answer. The exchange of the thread may lose against a
request. -/
inductive Action (Worker : Type) where
  | request (worker : Worker)
  | sync (worker : Worker) (fate : Fate)
  | saturate (worker : Worker) (raced : Bool)

structure Event (Worker : Type) where
  elapsedMs : Nat
  action : Action Worker

def ttl : Nat := 2
def redisKey (userKey : String) : String := "gateway:rl:" ++ userKey

/-- `INCR`, and `EXPIRE` if the key is new. -/
def rlLuaScript (nowMs : Nat) (key : String) (redis : Counters) : Nat × Counters :=
  let counter := current nowMs key redis
  let count := counter.count + 1
  (count,update redis key
    (some ⟨count,if count = 1 then some (nowMs + ttl * 1000) else counter.expiresAt⟩))

/-- The words of the bucket overlap if the limit is the largest. -/
def saturated (message : SyncMsg) : Bucket :=
  ⟨message.windowTs ||| (message.maxRps + 1) / 2^32,(message.maxRps + 1) % 2^32⟩

section
variable {Node Worker : Type} [DecidableEq Node] [DecidableEq Worker] (setup : Setup Node Worker)

section
variable (nowMs : Nat) (worker : Worker) (fleet : Deployment Node Worker)

def ask : Bool × RateMemory :=
  checkRateLimit setup.env nowMs setup.maxRps (some setup.userKey)
    ⟨fleet.buckets (setup.home worker),fleet.channels worker⟩

def request : Deployment Node Worker :=
  let memory := (ask setup nowMs worker fleet).2
  { fleet with
    buckets := update fleet.buckets (setup.home worker) memory.buckets
    channels := update fleet.channels worker memory.channel }

end

/-- The thread takes a message once it is done with the one before. -/
def sync (nowMs : Nat) (worker : Worker) (fate : Fate) (fleet : Deployment Node Worker) : Deployment Node Worker :=
  match fleet.answers worker, fleet.channels worker with
  | none, some (message :: queue) =>
    let taken := { fleet with channels := update fleet.channels worker (some queue) }
    let script := rlLuaScript nowMs (redisKey message.userKey) fleet.redis
    match fate with
    | .commandLost => taken
    | .replyLost => { taken with redis := script.2 }
    | .answered =>
      { taken with
        redis := script.2
        answers := update fleet.answers worker (some (message,script.1)) }
  | _, _ => fleet

def saturate (worker : Worker) (raced : Bool) (fleet : Deployment Node Worker) : Deployment Node Worker :=
  match fleet.answers worker with
  | none => fleet
  | some (message,fleetCount) =>
    let done := { fleet with answers := update fleet.answers worker none }
    if message.maxRps < fleetCount % 2^32 ∧ raced = false then
      { done with
        buckets := update fleet.buckets (setup.home worker)
          (update (fleet.buckets (setup.home worker)) (userSlot setup.env message.userKey)
            (saturated message)) }
    else done

def act (nowMs : Nat) (fleet : Deployment Node Worker) : Action Worker → Deployment Node Worker
  | .request worker => request setup nowMs worker fleet
  | .sync worker fate => sync nowMs worker fate fleet
  | .saturate worker raced => saturate setup worker raced fleet

variable (fleet : Deployment Node Worker) (event : Event Worker)

def timeOf : Nat := fleet.clockMs + event.elapsedMs

def step : Deployment Node Worker :=
  { act setup (timeOf fleet event) fleet event.action with clockMs := timeOf fleet event }

def start (clockMs : Nat) (running : Worker → Bool) : Deployment Node Worker where
  clockMs := clockMs
  buckets _ := .empty shmSlots
  channels worker := if running worker then some [] else none
  answers _ := none
  redis _ := none

def requested : List Nat :=
  match event.action with
  | .request _ => [timeOf fleet event / 1000]
  | _ => []

def Served : Prop :=
  ∀ worker, event.action = .request worker → (ask setup (timeOf fleet event) worker fleet).1 = true

/-- The clock has not wrapped, and a script that Redis executes finds the count
below the limit. -/
def Spaced : Prop := timeOf fleet event / 1000 < 2^32 ∧
    ∀ worker fate, event.action = .sync worker fate → fate ≠ .commandLost →
      (current (timeOf fleet event) (redisKey setup.userKey) fleet.redis).count < setup.maxRps

end

/-! ## What the buckets count -/

def Backed (past : List Nat) (bucket : Bucket) : Prop := bucket.count ≤ past.count bucket.ts

variable {bucket : Bucket} {past : List Nat}

theorem Backed.append (hbacked : Backed past bucket) (more : List Nat) : Backed (past ++ more) bucket := by
  unfold Backed at hbacked ⊢
  rw [count_append]
  omega

theorem Backed.hit (hbacked : Backed past bucket) (now limit : Nat) :
    Backed (past ++ [now]) (bucket.hit now limit).2 := by
  cases hhit : (bucket.hit now limit).1 with
  | false =>
    rw [Bucket.hit_rejected hhit]
    exact hbacked.append [now]
  | true =>
    obtain ⟨new,hnew⟩ : ∃ new, bucket.hit now limit = (true,new) := ⟨_,Prod.ext hhit rfl⟩
    unfold Backed at hbacked ⊢
    rw [Bucket.hit_ts hhit,count_append,count_singleton_self,hnew]
    rcases Bucket.hit_cases hnew with ⟨-,rfl⟩ | ⟨hts,-,rfl⟩
    · exact Nat.le_add_left 1 _
    · rw [← hts]
      exact Nat.add_le_add_right hbacked 1

theorem Backed.admits {now limit : Nat} (hbacked : Backed past bucket)
    (hroom : past.count now < limit) : (bucket.hit now limit).1 = true := by
  unfold Backed at hbacked
  unfold Bucket.hit
  split
  · rfl
  next hts =>
    rw [not_not.mp hts] at hbacked
    rw [if_neg (by omega)]

section
variable {Node Worker : Type} [DecidableEq Node] [DecidableEq Worker] {setup : Setup Node Worker}
  {fleet : Deployment Node Worker} {past : List Nat} {nowMs : Nat}

def Setup.slot (setup : Setup Node Worker) : Fin shmSlots := userSlot setup.env setup.userKey

/-- The buckets are backed by requests, and no count that a thread was told
exceeds the limit. -/
structure Sound (setup : Setup Node Worker) (past : List Nat) (fleet : Deployment Node Worker) : Prop where
  backed : ∀ node, Backed past (fleet.buckets node setup.slot)
  offered : ∀ worker queue, fleet.channels worker = some queue →
    ∀ message ∈ queue, message.userKey = setup.userKey ∧ message.maxRps = setup.maxRps
  told : ∀ worker message count, fleet.answers worker = some (message,count) →
    count ≤ message.maxRps ∧ message.maxRps = setup.maxRps

omit [DecidableEq Node] [DecidableEq Worker] in
theorem ask_unlimited (hfree : setup.maxRps = 0 ∨ setup.userKey.isEmpty) (nowMs : Nat) (worker : Worker)
    (fleet : Deployment Node Worker) :
    ask setup nowMs worker fleet = (true,⟨fleet.buckets (setup.home worker),fleet.channels worker⟩) := by
  unfold ask checkRateLimit
  rcases hfree with hmax | hkey
  · rw [if_pos hmax]
  · dsimp only
    rw [if_pos hkey,ite_self]

omit [DecidableEq Node] [DecidableEq Worker] in
theorem ask_limited (hmax : setup.maxRps ≠ 0) (hkey : ¬setup.userKey.isEmpty) (nowMs : Nat) (worker : Worker)
    (fleet : Deployment Node Worker) : ask setup nowMs worker fleet =
      let hit := hitAt (nowSecsU32 nowMs) (setup.maxRps % 2^32) setup.slot (fleet.buckets (setup.home worker))
      (hit.1,⟨hit.2,if hit.1 then trySend setup.env ⟨setup.userKey,(hit.2 setup.slot).count,nowSecsU32 nowMs,
        setup.maxRps % 2^32⟩ (fleet.channels worker) else fleet.channels worker⟩) := by
  unfold ask checkRateLimit
  dsimp only [Setup.slot]
  rw [if_neg hmax,if_neg hkey]
  split
  next hhit =>
    simp at hhit
    simp [hhit]
  next hhit =>
    simp at hhit
    simp [hhit]

section
variable (hsound : Sound setup past fleet)
include hsound

omit [DecidableEq Node] [DecidableEq Worker] in
theorem Sound.ask_backed (hclock : nowMs / 1000 < 2^32) (worker : Worker) :
    Backed (past ++ [nowMs / 1000]) ((ask setup nowMs worker fleet).2.buckets setup.slot) := by
  by_cases hfree : setup.maxRps = 0 ∨ setup.userKey.isEmpty
  · rw [ask_unlimited hfree]
    exact (hsound.backed _).append _
  · obtain ⟨hlimit,hkey⟩ := not_or.mp hfree
    have hsecond : nowSecsU32 nowMs = nowMs / 1000 := Nat.mod_eq_of_lt hclock
    rw [ask_limited hlimit hkey]
    dsimp only [hitAt]
    rw [update_self,hsecond]
    exact (hsound.backed _).hit _ _

omit [DecidableEq Node] [DecidableEq Worker] in
theorem Sound.ask_offered (hmax : setup.maxRps < 2^32) {worker : Worker} {queue : List SyncMsg}
    (hqueue : (ask setup nowMs worker fleet).2.channel = some queue) {message : SyncMsg}
    (hmessage : message ∈ queue) : message.userKey = setup.userKey ∧ message.maxRps = setup.maxRps := by
  by_cases hfree : setup.maxRps = 0 ∨ setup.userKey.isEmpty
  · rw [ask_unlimited hfree] at hqueue
    exact hsound.offered worker queue hqueue message hmessage
  · obtain ⟨hlimit,hkey⟩ := not_or.mp hfree
    rw [ask_limited hlimit hkey] at hqueue
    dsimp only at hqueue
    split at hqueue
    · rcases mem_trySend hqueue hmessage with rfl | ⟨earlier,hearlier,hbefore⟩
      · exact ⟨rfl,Nat.mod_eq_of_lt hmax⟩
      · exact hsound.offered worker earlier hearlier message hbefore
    · exact hsound.offered worker queue hqueue message hmessage

theorem Sound.request (hmax : setup.maxRps < 2^32) (hclock : nowMs / 1000 < 2^32) (worker : Worker) :
    Sound setup (past ++ [nowMs / 1000]) (request setup nowMs worker fleet) := by
  refine ⟨?_,?_,hsound.told⟩
  · intro node
    dsimp only [RateSync.request]
    by_cases hnode : node = setup.home worker
    · rw [hnode,update_self]
      exact hsound.ask_backed hclock worker
    · rw [update_of_ne hnode]
      exact (hsound.backed node).append _
  · intro other queue hqueue message hmessage
    dsimp only [RateSync.request] at hqueue
    by_cases hother : other = worker
    · rw [hother,update_self] at hqueue
      exact hsound.ask_offered hmax hqueue hmessage
    · rw [update_of_ne hother] at hqueue
      exact hsound.offered other queue hqueue message hmessage

omit [DecidableEq Node] in
theorem Sound.sync (worker : Worker) {fate : Fate}
    (hroom : fate ≠ .commandLost → (current nowMs (redisKey setup.userKey) fleet.redis).count < setup.maxRps) :
    Sound setup past (sync nowMs worker fate fleet) := by
  unfold RateSync.sync
  split
  next message queue hidle hqueue =>
    have hmessage := hsound.offered worker _ hqueue message mem_cons_self
    have hoffered : ∀ other rest, update fleet.channels worker (some queue) other = some rest →
        ∀ message ∈ rest, message.userKey = setup.userKey ∧ message.maxRps = setup.maxRps := by
      intro other rest hrest sent hsent
      by_cases hother : other = worker
      · rw [hother,update_self] at hrest
        rw [← some.inj hrest] at hsent
        exact hsound.offered worker _ hqueue sent (mem_cons_of_mem _ hsent)
      · rw [update_of_ne hother] at hrest
        exact hsound.offered other rest hrest sent hsent
    cases fate with
    | commandLost | replyLost => exact ⟨hsound.backed,hoffered,hsound.told⟩
    | answered =>
      refine ⟨hsound.backed,hoffered,?_⟩
      intro other told count htold
      by_cases hother : other = worker
      · rw [hother] at htold
        simp only [update_self,some.injEq,Prod.mk.injEq] at htold
        obtain ⟨rfl,rfl⟩ := htold
        rw [hmessage.1,hmessage.2]
        exact ⟨hroom (by decide),rfl⟩
      · simp only [update_of_ne hother] at htold
        exact hsound.told other told count htold
  · exact hsound

theorem Sound.saturate (worker : Worker) (raced : Bool) :
    Sound setup past (saturate setup worker raced fleet) := by
  unfold RateSync.saturate
  split
  · exact hsound
  next message fleetCount htold =>
    obtain ⟨hcount,hlimit⟩ := hsound.told worker message fleetCount htold
    have hbelow : ¬(message.maxRps < fleetCount % 2^32 ∧ raced = false) :=
      fun hover => absurd ((Nat.mod_le _ _).trans hcount) (not_le.mpr hover.1)
    dsimp only
    rw [if_neg hbelow]
    refine ⟨hsound.backed,hsound.offered,?_⟩
    intro other told count hother
    by_cases hworker : other = worker
    · rw [hworker] at hother
      simp at hother
    · simp only [update_of_ne hworker] at hother
      exact hsound.told other told count hother

theorem Sound.step (hmax : setup.maxRps < 2^32) {event : Event Worker} (hspaced : Spaced setup fleet event) :
    Sound setup (past ++ requested fleet event) (step setup fleet event) := by
  obtain ⟨elapsedMs,action⟩ := event
  obtain ⟨hclock,hroom⟩ := hspaced
  have hact : Sound setup (past ++ requested fleet ⟨elapsedMs,action⟩)
      (act setup (timeOf fleet ⟨elapsedMs,action⟩) fleet action) := by
    cases action with
    | request worker => exact hsound.request hmax hclock worker
    | sync worker fate =>
      rw [requested,append_nil]
      exact hsound.sync worker (hroom worker fate rfl)
    | saturate worker raced =>
      rw [requested,append_nil]
      exact hsound.saturate worker raced
  exact ⟨hact.backed,hact.offered,hact.told⟩

omit [DecidableEq Node] [DecidableEq Worker] in
theorem Sound.served (hmax : setup.maxRps < 2^32) (hclock : nowMs / 1000 < 2^32)
    (hcompliant : past.count (nowMs / 1000) < setup.maxRps)
    (worker : Worker) : (ask setup nowMs worker fleet).1 = true := by
  by_cases hfree : setup.maxRps = 0 ∨ setup.userKey.isEmpty
  · rw [ask_unlimited hfree]
  · obtain ⟨hlimit,hkey⟩ := not_or.mp hfree
    rw [ask_limited hlimit hkey]
    have hsecond : nowSecsU32 nowMs = nowMs / 1000 := Nat.mod_eq_of_lt hclock
    rw [hsecond,Nat.mod_eq_of_lt hmax]
    exact (hsound.backed _).admits hcompliant

end

theorem Sound.run (hmax : setup.maxRps < 2^32) {events : List (Event Worker)} (hsound : Sound setup past fleet)
    (hspaced : Along (RateSync.step setup) (Spaced setup) fleet events)
    (hcompliant : ∀ second, (past ++ trail (RateSync.step setup) requested fleet events).count second ≤ setup.maxRps) :
    Along (RateSync.step setup) (Served setup) fleet events := by
  induction events generalizing fleet past with
  | nil => trivial
  | cons event events ih =>
    rw [trail_cons,← append_assoc] at hcompliant
    refine ⟨?_,ih (hsound.step hmax hspaced.1) hspaced.2 hcompliant⟩
    intro worker hrequest
    refine hsound.served hmax hspaced.1.1 ?_ worker
    have hsecond := hcompliant (timeOf fleet event / 1000)
    rw [requested,hrequest,count_append,count_append,count_singleton_self] at hsecond
    omega

omit [DecidableEq Node] [DecidableEq Worker] in
theorem start_sound (clockMs : Nat) (running : Worker → Bool) : Sound setup [] (start clockMs running) := by
  refine ⟨fun _ => Nat.le_refl 0,?_,?_⟩
  · intro worker queue hqueue
    unfold start at hqueue
    dsimp only at hqueue
    split at hqueue
    · rw [← some.inj hqueue]
      exact fun _ hnone => absurd hnone not_mem_nil
    · contradiction
  · intro worker message count htold
    contradiction

/-- A compliant user is served, however requests and messages are spread. -/
theorem compliant_user_served (setup : Setup Node Worker) (clockMs : Nat) (running : Worker → Bool)
    {events : List (Event Worker)} (hmax : setup.maxRps < 2^32)
    (hspaced : Along (step setup) (Spaced setup) (start clockMs running) events)
    (hcompliant : ∀ second,
      (trail (step setup) requested (start clockMs running) events).count second ≤ setup.maxRps) :
    Along (step setup) (Served setup) (start clockMs running) events :=
  (start_sound clockMs running).run hmax hspaced (by simpa using hcompliant)

end

/-! One node with one worker, and a user who may make two requests in a second. -/

def sampleSetup : Setup Unit Unit := ⟨⟨String.length,true⟩,"user",2,id⟩

def synced (elapsedMs : Nat) : List (Event Unit) :=
  [⟨elapsedMs,.request ()⟩,⟨0,.sync () .answered⟩,⟨0,.saturate () false⟩]

section
variable (fleet : Deployment Unit Unit) (event : Event Unit)

def spaced : Bool :=
  decide (timeOf fleet event / 1000 < 2^32) &&
    match event.action with
    | .sync _ _ => (current (timeOf fleet event) (redisKey sampleSetup.userKey) fleet.redis).count < sampleSetup.maxRps
    | _ => true

theorem spaced_of_check (hcheck : spaced fleet event = true) : Spaced sampleSetup fleet event := by
  unfold spaced at hcheck
  rw [Bool.and_eq_true] at hcheck
  refine ⟨of_decide_eq_true hcheck.1,?_⟩
  intro worker fate hsync _
  rw [hsync] at hcheck
  exact of_decide_eq_true hcheck.2

end

/-- Two requests in second 10, and two more when the key has expired. -/
theorem compliant_user_served_sample :
    Along (step sampleSetup) (Served sampleSetup) (start 10000 fun _ => true)
      (synced 0 ++ synced 500 ++ synced 1500 ++ synced 500) :=
  have hrequests : trail (step sampleSetup) requested (start 10000 fun _ => true)
      (synced 0 ++ synced 500 ++ synced 1500 ++ synced 500) = [10,10,12,12] := by decide +kernel
  compliant_user_served sampleSetup 10000 (fun _ => true) (by decide)
    (along_of_check spaced_of_check (by decide +kernel)) <| by
    intro second
    rw [hrequests]
    grind [sampleSetup]

/-- Requests at 10.0, 10.5, 11.1 and 11.6 seconds. -/
theorem compliant_user_rejected :
    let events := synced 0 ++ synced 500 ++ synced 600
    trail (step sampleSetup) requested (start 10000 fun _ => true) (events ++ [⟨500,.request ()⟩]) = [10,10,11,11] ∧
      let fleet := run (step sampleSetup) (start 10000 fun _ => true) events
      fleet.clockMs = 11100 ∧ (ask sampleSetup 11600 () fleet).1 = false := by
  decide +kernel

end Routiq.Fleet.RateSync
