import Routiq.Core.ContendedWindow
import Routiq.Edge.RateLimit

/-! The limit per user under contention: every clock read, load and
compare-exchange of concurrent calls is a step of its own. -/
namespace Routiq.Edge.RateContention
open Core Runs Processes Atomics FixedWindow ContendedWindow RateLimit

structure Reply where
  allowed : Bool
  message : Option SyncMsg
deriving DecidableEq

def Reply.send (env : RateEnv) (reply : Reply) (channel : Option (List SyncMsg)) : Option (List SyncMsg) :=
  match reply.message with
  | none => channel
  | some message => trySend env message channel

structure Request where
  maxRps : Nat
  userKey : Option String
deriving DecidableEq

def checkRateLimit (env : RateEnv) (request : Request) (attempts : Nat) : Access shmSlots (Option Reply) :=
  if request.maxRps = 0 then pure (some ⟨true,none⟩)
  else
    match request.userKey with
    | none => pure (some ⟨true,none⟩)
    | some key =>
      if key.isEmpty then pure (some ⟨true,none⟩)
      else do
        match ← countIn (userSlot env key) (fun _ => request.maxRps % 2^32) attempts with
        | none => pure none
        | some .full => pure (some ⟨false,none⟩)
        | some (.counted bucket) =>
          pure (some ⟨true,some ⟨key,bucket.count,bucket.ts,request.maxRps % 2^32⟩⟩)

theorem execute_checkRateLimit (env : RateEnv) (request : Request) (attempts nowMs : Nat) (memory : RateMemory) :
    let execution := execute (windows shmSlots) (checkRateLimit env request (attempts + 1)) (fun _ => ⟨0,false⟩)
      ⟨memory.buckets,nowMs⟩
    ∃ reply, execution.value = some reply ∧
      RateLimit.checkRateLimit env nowMs request.maxRps request.userKey memory =
        (reply.allowed,⟨execution.world.memory,reply.send env memory.channel⟩) := by
  obtain ⟨maxRps,userKey⟩ := request
  unfold checkRateLimit RateLimit.checkRateLimit
  dsimp only
  by_cases hmax : maxRps = 0
  · rw [if_pos hmax,if_pos hmax]
    exact ⟨_,rfl,rfl⟩
  rw [if_neg hmax,if_neg hmax]
  cases userKey with
  | none => exact ⟨_,rfl,rfl⟩
  | some key =>
    dsimp only
    by_cases hkey : key.isEmpty
    · rw [if_pos hkey,if_pos hkey]
      exact ⟨_,rfl,rfl⟩
    rw [if_neg hkey,if_neg hkey,execute_bind]
    have hcounted := execute_countIn (userSlot env key) (fun _ => maxRps % 2^32) attempts nowMs memory.buckets
    obtain ⟨hvalue,hworld⟩ := Prod.ext_iff.mp hcounted
    dsimp only at hvalue hworld ⊢
    rw [hvalue,hworld]
    unfold hitAt outcomeOf
    dsimp only
    cases hhit : ((memory.buckets (userSlot env key)).hit (nowSecsU32 nowMs) (maxRps % 2^32)).1 with
    | false => exact ⟨_,rfl,rfl⟩
    | true =>
      refine ⟨_,rfl,?_⟩
      have hts := Bucket.hit_ts hhit
      simp only [Nat.reducePow] at hts
      simp [Reply.send,hts]

/-! ## The bound of a second -/

variable {Index : Type} [DecidableEq Index]

def received (env : RateEnv) (requests : Index → Request) (attempts : Index → Nat) (buckets : Table shmSlots)
    (clockMs : Nat) : System Index (Op shmSlots) Op.Answer (Clocked (Table shmSlots)) (Option Reply) :=
  .start ⟨buckets,clockMs⟩ fun index => checkRateLimit env (requests index) (attempts index)

def Request.slot? (env : RateEnv) (request : Request) : Option (Fin shmSlots) :=
  match request.userKey with
  | some key => if request.maxRps = 0 ∨ key.isEmpty then none else some (userSlot env key)
  | none => none

theorem checkRateLimit_follows (env : RateEnv) {request : Request} {slot : Fin shmSlots} {max : Nat}
    (hlimit : request.slot? env = some slot → request.maxRps = max) (attempts : Nat) :
    (protocol slot max).Follows (fun _ _ => True) () (checkRateLimit env request attempts) := by
  obtain ⟨maxRps,userKey⟩ := request
  unfold checkRateLimit
  dsimp only
  split
  · trivial
  next hmax =>
    cases userKey with
    | none => trivial
    | some key =>
      dsimp only
      split
      · trivial
      next hkey =>
        rw [Protocol.follows_bind]
        have hcount : userSlot env key = slot → ∀ _ : Nat, maxRps % 2^32 ≤ max := by
          intro hslot _
          have hsame : maxRps = max := hlimit (by simp [Request.slot?,hmax,hkey,hslot])
          rw [← hsame]
          exact Nat.mod_le _ _
        refine (countIn_follows hcount attempts).mono ?_
        intro _ outcome _
        cases outcome with
        | none => trivial
        | some outcome => cases outcome <;> trivial

/-- At most the limit of the calls that hash to a bucket pass in a second. -/
theorem window_bound (env : RateEnv) (requests : Index → Request) (attempts : Index → Nat) (buckets : Table shmSlots)
    (clockMs : Nat) (slot : Fin shmSlots) {max : Nat} (hmax : 0 < max)
    (hlimit : ∀ index, (requests index).slot? env = some slot → (requests index).maxRps = max)
    {events : List (Index × Tick)}
    (hgood : Along (.step (windows shmSlots)) (Timely slot) (received env requests attempts buckets clockMs) events)
    (second : Nat) (calls : Finset Index)
    (hcalls : ∀ call ∈ calls,
      (call,second) ∈ chronicle (windows shmSlots) (passes slot) (received env requests attempts buckets clockMs) events ∧
        ∃ message, ((run (.step (windows shmSlots)) (received env requests attempts buckets clockMs)
          events).processes call).result = some (some ⟨true,message⟩)) : calls.card ≤ max := by
  have hfollows : ∀ index, (protocol slot max).Follows (fun _ _ => True) ()
      ((received env requests attempts buckets clockMs).processes index) :=
    fun index => checkRateLimit_follows env (hlimit index) (attempts index)
  calc calls.card
      ≤ passedIn second (chronicle (windows shmSlots) (passes slot)
          (received env requests attempts buckets clockMs) events) :=
        card_le_passedIn calls fun call hcall => (hcalls call hcall).1
    _ ≤ max := passes_le hmax hfollows hgood second

/-! Three calls of one user, who may make one request in a second. -/

def sampleEnv : RateEnv := ⟨String.length,false⟩

def samplePassing : System (Fin 3) (Op shmSlots) Op.Answer (Clocked (Table shmSlots)) (Option Reply) :=
  received sampleEnv (fun _ => ⟨1,some "user"⟩) (fun _ => 1) (.empty shmSlots) 10999

def sampleSlot : Fin shmSlots := userSlot sampleEnv "user"
def turn (call : Fin 3) : Fin 3 × Tick := (call,⟨0,false⟩)
def later (ms : Nat) (call : Fin 3) : Fin 3 × Tick := (call,⟨ms,false⟩)

/-- The first call passes and the second is rejected, both in second 10. -/
theorem window_bound_sample : ({0} : Finset (Fin 3)).card ≤ 1 :=
  have hcheck : checkAlong (.step (windows shmSlots)) (timely sampleSlot) samplePassing
      [turn 0,turn 0,turn 0,turn 1,turn 1] = true := by decide +kernel
  have hresult : ((run (.step (windows shmSlots)) samplePassing
      [turn 0,turn 0,turn 0,turn 1,turn 1]).processes 0).result =
        some (some ⟨true,some ⟨"user",1,10,1⟩⟩) := by decide +kernel
  window_bound sampleEnv (fun _ => ⟨1,some "user"⟩) (fun _ => 1) (.empty shmSlots) 10999 sampleSlot Nat.one_pos
    (fun _ _ => rfl) (along_of_check timely_of_check hcheck) 10 {0} fun call hcall => by
      rw [Finset.mem_singleton.mp hcall]
      exact ⟨by decide +kernel,_,hresult⟩

/-- The first call has read second 10. In second 11 the second call passes, then
the first, then the third. -/
def lateExchange (first second third : Fin 3) : List (Fin 3 × Tick) :=
  [turn first,later 1 second,turn second,turn second,turn first,turn first,turn third,turn third,turn third]

theorem three_pass_where_one_may :
    let past := chronicle (windows shmSlots) (passes sampleSlot) samplePassing (lateExchange 0 1 2)
    let system := run (.step (windows shmSlots)) samplePassing (lateExchange 0 1 2)
    past = [(1,11),(0,11),(2,11)] ∧
      (system.processes 0).result = some (some ⟨true,some ⟨"user",1,10,1⟩⟩) ∧
      (system.processes 1).result = some (some ⟨true,some ⟨"user",1,11,1⟩⟩) ∧
      (system.processes 2).result = some (some ⟨true,some ⟨"user",1,11,1⟩⟩) := by
  decide +kernel

end Routiq.Edge.RateContention
