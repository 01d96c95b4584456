import Mathlib.Data.Finset.Card
import Routiq.Core.Atomics
import Routiq.Core.FixedWindow

/-! Windows that many callers count in at once. A caller reads the clock, then
the bucket, and replaces the bucket by a compare-exchange that it repeats with
what it found instead. It keeps the second it has read, so the bound of a
window holds as long as nobody writes a second that is over. -/
namespace Routiq.Core.ContendedWindow
open Runs Processes Atomics FixedWindow List

variable {slots : Nat}

inductive Op (slots : Nat) where
  | nowSecs
  | load (slot : Fin slots)
  | compareExchangeWeak (slot : Fin slots) (current new : Bucket)
deriving DecidableEq

@[reducible] def Op.Answer : Op slots → Type
  | .nowSecs => Nat
  | .load _ => Bucket
  | .compareExchangeWeak _ _ _ => Except Bucket Unit

section
variable (nowMs : Nat) (spurious : Bool) (table : Table slots)

def access : (op : Op slots) → op.Answer × Table slots
  | .nowSecs => (nowSecsU32 nowMs,table)
  | .load slot => (table slot,table)
  | .compareExchangeWeak slot current new =>
    let exchanged := compareExchangeWeak spurious (table slot) current new
    (exchanged.1,Function.update table slot exchanged.2)

theorem access_compareExchangeWeak (slot written : Fin slots) (current new : Bucket) :
    (access nowMs spurious table (.compareExchangeWeak written current new)).2 slot =
      if written = slot ∧ spurious = false ∧ table slot = current then new else table slot := by
  by_cases hwritten : written = slot
  · subst hwritten
    cases spurious with
    | true => simp [access,compareExchangeWeak]
    | false => by_cases hcurrent : table written = current <;> simp [access,compareExchangeWeak,compareExchange,hcurrent]
  · simp [access,hwritten,Function.update_of_ne (Ne.symm hwritten)]

end

def windows (slots : Nat) : Machine (Op slots) Op.Answer (Clocked (Table slots)) Tick := machine access
abbrev Access (slots : Nat) := Process (Op slots) Op.Answer

/-! ## The loop -/

/-- What comes of counting a request: the window is full, or the bucket now
counts it. -/
inductive Outcome where
  | full
  | counted (bucket : Bucket)
deriving DecidableEq

/-- The loop around the compare-exchange. Any number of attempts may fail; a
call that has used up those it is given is still at it. The limit may be another
one in each of them. -/
def exchange (slot : Fin slots) (now : Nat) (limit : Nat → Nat) : Nat → Bucket → Access slots (Option Outcome)
  | 0, _ => pure none
  | attempts + 1, current =>
    let hit := current.hit now (limit attempts)
    if !hit.1 then pure (some .full)
    else do
      match ← Process.perform (Op.compareExchangeWeak slot current hit.2) with
      | .ok _ => pure (some (.counted hit.2))
      | .error updated => exchange slot now limit attempts updated

def countIn (slot : Fin slots) (limit : Nat → Nat) (attempts : Nat) : Access slots (Option Outcome) := do
  let now ← .perform (.nowSecs : Op slots)
  let current ← .perform (.load slot)
  exchange slot now limit attempts current

def outcomeOf (hit : Bool × Bucket) : Outcome := if !hit.1 then .full else .counted hit.2

theorem execute_countIn (slot : Fin slots) (limit : Nat → Nat) (attempts nowMs : Nat) (table : Table slots) :
    let execution := execute (windows slots) (countIn slot limit (attempts + 1)) (fun _ => ⟨0,false⟩) ⟨table,nowMs⟩
    (execution.value,execution.world) =
      (some (outcomeOf ((table slot).hit (nowSecsU32 nowMs) (limit attempts))),
        ⟨(hitAt (nowSecsU32 nowMs) (limit attempts) slot table).2,nowMs⟩) := by
  simp only [countIn,exchange,Process.perform_bind,execute_call,windows,machine,access,Nat.add_zero,hitAt]
  cases hhit : ((table slot).hit (nowSecsU32 nowMs) (limit attempts)).1 with
  | false =>
    have hsame : ((table slot).hit (nowSecsU32 nowMs) (limit attempts)).2 = table slot := Bucket.hit_rejected hhit
    simp [outcomeOf,hhit,hsame]
  | true => simp [outcomeOf,hhit,execute_call,compareExchangeWeak,compareExchange_self]

/-! ## The bound of a window -/

/-- An operation of callers that count in the slot up to a maximum: an exchange
replaces a bucket by what one more request makes of it. -/
def Counting (slot : Fin slots) (max : Nat) : Op slots → Prop
  | .compareExchangeWeak written current new =>
    written = slot → ∃ now limit, limit ≤ max ∧ current.hit now limit = (true,new)
  | _ => True

def protocol (slot : Fin slots) (max : Nat) : Protocol (Op slots) Op.Answer Unit where
  next _ _ _ := ()
  allowed _ := Counting slot max
  possible _ _ := True

section Calls
variable {Index Value : Type} {system : System Index (Op slots) Op.Answer (Clocked (Table slots)) Value}
  {slot : Fin slots} {max : Nat}

section
variable {written : Fin slots} {limit : Nat → Nat}
  (hlimit : written = slot → ∀ attempts, limit attempts ≤ max)
include hlimit

theorem exchange_follows (now attempts : Nat) (current : Bucket) :
    (protocol slot max).Follows (fun _ _ => True) () (exchange written now limit attempts current) := by
  induction attempts generalizing current with
  | zero => trivial
  | succ attempts ih =>
    unfold exchange
    dsimp only
    split
    · trivial
    next hhit =>
      rw [Process.perform_bind,Protocol.follows_call]
      constructor
      · intro hwritten
        exact ⟨now,limit attempts,hlimit hwritten attempts,Prod.ext (by simpa using hhit) rfl⟩
      · intro answer _
        cases answer with
        | ok _ => trivial
        | error updated => exact ih updated

theorem countIn_follows (attempts : Nat) :
    (protocol slot max).Follows (fun _ _ => True) () (countIn written limit attempts) := by
  unfold countIn
  simp only [Process.perform_bind,Protocol.follows_call]
  exact ⟨trivial,fun now _ => ⟨trivial,fun current _ => exchange_follows hlimit now attempts current⟩⟩

end

def timeOf (system : System Index (Op slots) Op.Answer (Clocked (Table slots)) Value) (tick : Tick) : Nat :=
  system.world.clock + tick.elapsed

section
variable (slot : Fin slots)
  (system : System Index (Op slots) Op.Answer (Clocked (Table slots)) Value)

def passes (index : Index) (tick : Tick) : Op slots → List (Index × Nat)
  | .compareExchangeWeak written current _ =>
    if written = slot ∧ tick.spurious = false ∧ system.world.memory slot = current then
      [(index,timeOf system tick / 1000)]
    else []
  | _ => []

/-- An exchange that succeeds writes the second that the clock shows. -/
def Timely (event : Index × Tick) : Prop :=
  match (system.processes event.1).pending with
  | some (.compareExchangeWeak written current new) =>
    passes slot system event.1 event.2 (.compareExchangeWeak written current new) ≠ [] →
      new.ts = nowSecsU32 (timeOf system event.2)
  | _ => True

def timely (event : Index × Tick) : Bool :=
  match (system.processes event.1).pending with
  | some (.compareExchangeWeak written current new) =>
    (passes slot system event.1 event.2 (.compareExchangeWeak written current new)).isEmpty ||
      decide (new.ts = nowSecsU32 (timeOf system event.2))
  | _ => true

end

theorem timely_of_check (system : System Index (Op slots) Op.Answer (Clocked (Table slots)) Value)
    (event : Index × Tick) (hcheck : timely slot system event = true) : Timely slot system event := by
  unfold timely at hcheck
  unfold Timely
  split
  next written current new hpending =>
    rw [hpending] at hcheck
    intro hpasses
    simpa [hpasses] using hcheck
  · trivial

section
variable (second : Nat) (past : List (Index × Nat))

def passedIn : Nat := past.countP fun entry => entry.2 = second

theorem passedIn_append_self (index : Index) :
    passedIn second (past ++ [(index,second)]) = passedIn second past + 1 := by
  simp [passedIn]

end

theorem passedIn_append_of_ne {second other : Nat} (hother : other ≠ second) (past : List (Index × Nat)) (index : Index) :
    passedIn second (past ++ [(index,other)]) = passedIn second past := by
  simp [passedIn,hother]

/-- No second has had more than the maximum, and the bucket accounts for those
of the present one. -/
structure Bounded (max clock : Nat) (bucket : Bucket) (past : List (Index × Nat)) : Prop where
  bound : ∀ second, passedIn second past ≤ max
  future : ∀ second, clock / 1000 < second → passedIn second past = 0
  present : 0 < passedIn (clock / 1000) past →
    bucket.ts = nowSecsU32 clock ∧ passedIn (clock / 1000) past ≤ bucket.count

variable {clock now : Nat} {bucket new : Bucket} {past : List (Index × Nat)} {index : Index}

theorem Bounded.later (hbounded : Bounded max clock bucket past) (hlater : clock ≤ now) :
    Bounded max now bucket past := by
  have hseconds : clock / 1000 ≤ now / 1000 := Nat.div_le_div_right hlater
  refine ⟨hbounded.bound,fun second hsecond => hbounded.future second (hseconds.trans_lt hsecond),?_⟩
  intro hpassed
  rcases hseconds.eq_or_lt with hsame | hless
  · unfold nowSecsU32
    rw [← hsame] at hpassed ⊢
    exact hbounded.present hpassed
  · rw [hbounded.future _ hless] at hpassed
    contradiction

theorem Bounded.pass {limit : Nat} (hbounded : Bounded max now bucket past) (hlimit : limit ≤ max)
    (hmax : 0 < max) (hhit : bucket.hit (nowSecsU32 now) limit = (true,new)) :
    Bounded max now new (past ++ [(index,now / 1000)]) := by
  have hcount : passedIn (now / 1000) past + 1 ≤ max ∧ new.ts = nowSecsU32 now ∧
      passedIn (now / 1000) past + 1 ≤ new.count := by
    rcases Bucket.hit_cases hhit with ⟨hts,rfl⟩ | ⟨hts,hroom,rfl⟩
    · have hnone : passedIn (now / 1000) past = 0 := by
        by_contra hsome
        exact hts (hbounded.present (Nat.pos_of_ne_zero hsome)).1
      rw [hnone]
      exact ⟨hmax,rfl,le_rfl⟩
    · have hpassed : passedIn (now / 1000) past ≤ bucket.count := by
        by_contra hmore
        exact hmore (hbounded.present (by omega)).2
      dsimp only
      omega
  refine ⟨?_,?_,?_⟩
  · intro second
    by_cases hsecond : now / 1000 = second
    · rw [← hsecond,passedIn_append_self]
      exact hcount.1
    · rw [passedIn_append_of_ne hsecond]
      exact hbounded.bound second
  · intro second hsecond
    rw [passedIn_append_of_ne hsecond.ne]
    exact hbounded.future second hsecond
  · intro _
    rw [passedIn_append_self]
    exact hcount.2

variable [DecidableEq Index]

theorem Bounded.perform {tick : Tick} {op : Op slots} {next : op.Answer → Access slots Value}
    (hmax : 0 < max) (hprocess : system.processes index = .call op next)
    (hcounting : Counting slot max op) (hgood : Timely slot system (index,tick))
    (hbounded : Bounded max system.world.clock (system.world.memory slot) past) :
    let last := system.perform (windows slots) tick index op next
    Bounded max last.world.clock (last.world.memory slot) (past ++ passes slot system index tick op) := by
  have hlater : Bounded max (timeOf system tick) (system.world.memory slot) past :=
    hbounded.later (Nat.le_add_right _ _)
  cases op with
  | nowSecs | load _ =>
    rw [show passes slot system index tick _ = [] from rfl,append_nil]
    exact hlater
  | compareExchangeWeak written current new =>
    unfold Timely at hgood
    dsimp only at hgood
    rw [hprocess,Process.pending_call] at hgood
    intro last
    have hslot : last.world.memory slot = _ :=
      access_compareExchangeWeak (timeOf system tick) tick.spurious system.world.memory slot written current new
    by_cases hpass : written = slot ∧ tick.spurious = false ∧ system.world.memory slot = current
    · have hpasses : passes slot system index tick (.compareExchangeWeak written current new) =
          [(index,timeOf system tick / 1000)] := if_pos hpass
      have hts := hgood (by simp [hpasses])
      rw [hslot,if_pos hpass,hpasses]
      obtain ⟨rfl,-,rfl⟩ := hpass
      obtain ⟨second,limit,hlimit,hhit⟩ := hcounting rfl
      have hsecond : second = nowSecsU32 (timeOf system tick) := by
        rw [← hts,← Bucket.hit_ts (congrArg Prod.fst hhit),hhit]
      rw [hsecond] at hhit
      exact hlater.pass hlimit hmax hhit
    · have hpasses : passes slot system index tick (.compareExchangeWeak written current new) = [] := if_neg hpass
      rw [hslot,if_neg hpass,hpasses,append_nil]
      exact hlater

theorem card_le_passedIn {second : Nat} (calls : Finset Index)
    (hcalls : ∀ call ∈ calls, (call,second) ∈ past) : calls.card ≤ passedIn second past := by
  have hsubset : calls ⊆ ((past.filter fun entry => entry.2 = second).map Prod.fst).toFinset := by
    intro call hcall
    rw [mem_toFinset,mem_map]
    exact ⟨(call,second),mem_filter.mpr ⟨hcalls call hcall,by simp⟩,rfl⟩
  calc calls.card ≤ ((past.filter fun entry => entry.2 = second).map Prod.fst).toFinset.card :=
        Finset.card_le_card hsubset
    _ ≤ ((past.filter fun entry => entry.2 = second).map Prod.fst).length := toFinset_card_le _
    _ = passedIn second past := by rw [length_map,← countP_eq_length_filter,passedIn]

theorem passes_le {post : Index → Unit → Value → Prop} {events : List (Index × Tick)} (hmax : 0 < max)
    (hfollows : ∀ index, (protocol slot max).Follows (post index) () (system.processes index))
    (hgood : Along (.step (windows slots)) (Timely slot) system events) (second : Nat) :
    passedIn second (chronicle (windows slots) (passes slot) system events) ≤ max := by
  have hstart : Bounded max system.world.clock (system.world.memory slot) ([] : List (Index × Nat)) :=
    ⟨fun _ => Nat.zero_le _,fun _ _ => rfl,fun hnone => absurd hnone (lt_irrefl 0)⟩
  have hfollowing : (protocol slot max).Following (fun _ => ()) post system := hfollows
  have hperform : ∀ (system : System Index (Op slots) Op.Answer (Clocked (Table slots)) Value) (index : Index)
      (tick : Tick) (op : Op slots) (next : op.Answer → Access slots Value) (past : List (Index × Nat)),
      (protocol slot max).Following (fun _ => ()) post system → system.processes index = .call op next →
      Timely slot system (index,tick) → Bounded max system.world.clock (system.world.memory slot) past →
      Bounded max (system.perform (windows slots) tick index op next).world.clock
        ((system.perform (windows slots) tick index op next).world.memory slot)
        (past ++ passes slot system index tick op) := by
    intro system index tick op next past hfollowing hprocess hgood hbounded
    exact Bounded.perform hmax hprocess (hfollowing.allowed (by rw [hprocess,Process.pending_call])) hgood
      hbounded
  obtain ⟨-,hbounded⟩ := chronicle_invariant (fun _ _ _ => trivial) (fun _ _ => rfl) hperform hgood hfollowing hstart
  rw [nil_append] at hbounded
  exact hbounded.bound second

end Calls

end Routiq.Core.ContendedWindow
