import Routiq.Core.FixedWindow

/-! The limit of requests per user and second: buckets in the shared memory of
a node, and the messages for the thread that tells Redis. -/
namespace Routiq.Edge.RateLimit
open Core.FixedWindow

def shmSlots : Nat := 1000000
def channelCapacity : Nat := 512

structure SyncMsg where
  userKey : String
  (localCount windowTs maxRps : Nat)
deriving DecidableEq

structure RateMemory where
  buckets : Table shmSlots
  channel : Option (List SyncMsg)

structure RateEnv where
  fxHash : String → Nat
  rlRedisEnabled : Bool

def userSlot (env : RateEnv) (userKey : String) : Fin shmSlots :=
  ⟨env.fxHash userKey % shmSlots,Nat.mod_lt _ (by decide)⟩

/-- A full channel drops the message. -/
def trySend (env : RateEnv) (message : SyncMsg) (channel : Option (List SyncMsg)) : Option (List SyncMsg) :=
  match channel with
  | none => none
  | some queue =>
      if env.rlRedisEnabled && decide (queue.length < channelCapacity) then some (queue ++ [message])
      else some queue

theorem mem_trySend {env : RateEnv} {message other : SyncMsg} {channel : Option (List SyncMsg)} {queue : List SyncMsg}
    (hqueue : trySend env message channel = some queue) (hother : other ∈ queue) :
    other = message ∨ ∃ earlier, channel = some earlier ∧ other ∈ earlier := by
  cases channel with
  | none => contradiction
  | some earlier =>
    unfold trySend at hqueue
    dsimp only at hqueue
    split at hqueue
    · rw [← Option.some.inj hqueue,List.mem_append,List.mem_singleton] at hother
      exact hother.elim (fun hbefore => .inr ⟨earlier,rfl,hbefore⟩) .inl
    · rw [← Option.some.inj hqueue] at hother
      exact .inr ⟨earlier,rfl,hother⟩

/-- The limit is compared in 32 bits. -/
def checkRateLimit (env : RateEnv) (nowMs maxRps : Nat) (userKey : Option String)
    (memory : RateMemory) : Bool × RateMemory :=
  if maxRps = 0 then (true,memory)
  else
    match userKey with
    | none => (true,memory)
    | some key =>
        if key.isEmpty then (true,memory)
        else
          let slot := userSlot env key
          let now := nowSecsU32 nowMs
          let hit := hitAt now (maxRps % 2^32) slot memory.buckets
          if !hit.1 then (false,{ memory with buckets := hit.2 })
          else
            (true,
              { buckets := hit.2
                channel := trySend env ⟨key,(hit.2 slot).count,now,maxRps % 2^32⟩
                  memory.channel })

variable {env : RateEnv} {nowMs maxRps : Nat} {memory : RateMemory}

theorem checkRateLimit_counted {key : String} (hmax : 0 < maxRps) (hkey : key ≠ "")
    (hpassed : (checkRateLimit env nowMs maxRps (some key) memory).1 = true) :
    (checkRateLimit env nowMs maxRps (some key) memory).2.buckets (userSlot env key) =
      (memory.buckets (userSlot env key)).counted (nowSecsU32 nowMs) := by
  unfold checkRateLimit at hpassed ⊢
  rw [if_neg hmax.ne'] at hpassed ⊢
  dsimp only at hpassed ⊢
  rw [if_neg (by simp [hkey])] at hpassed ⊢
  split at hpassed
  · contradiction
  next hhit =>
    rw [if_neg hhit]
    exact hitAt_admitted (by simpa using hhit)

end Routiq.Edge.RateLimit
