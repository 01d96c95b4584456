import Routiq.Core.Runs
import Mathlib.Order.Lattice

/-! The life of a circuit breaker apart from how it judges health: when it
admits an operation, when it enters and leaves its half-open episodes, and what
it counts meanwhile. A machine is lawful if every call moves its view as the
rules here allow; the results about runs hold of every lawful machine. -/
namespace Routiq.Core.Breaker
open Runs List

inductive Circuit where
  | closed | opened | halfOpen
deriving DecidableEq

structure View where
  circuit : Circuit
  (openedAt cooldown startedAt dispatched successes inflight : Nat)
deriving DecidableEq

structure Limits where
  (maxInflight probes recovery halfOpenMax maxCooldown : Nat)

namespace View

def enter (now : Nat) (view : View) : View :=
  { view with circuit := .halfOpen, startedAt := now, dispatched := 0, successes := 0 }

def trip (now cooldown : Nat) (view : View) : View :=
  { view with circuit := .opened, openedAt := now, cooldown := cooldown }

variable (view : View)

def occupy : View := { view with inflight := view.inflight + 1 }

def probe : View :=
  { view with dispatched := view.dispatched + 1, inflight := view.inflight + 1 }

def settle : View := { view with inflight := view.inflight - 1 }
def succeed : View := { view with successes := view.successes + 1 }
def close : View := { view with circuit := .closed }

end View

/-! ## What a call may do -/

section
variable (limits : Limits) (now : Nat) (succeeds : Bool) (view : View)

inductive Probed : Bool → View → Prop where
  | rearmed (cooldown : Nat) (hdue : limits.halfOpenMax ≤ now - view.startedAt)
      (hcooldown : cooldown ≤ limits.maxCooldown) : Probed false (view.trip now cooldown)
  | refused (hearly : now - view.startedAt < limits.halfOpenMax)
      (hbusy : limits.probes ≤ view.dispatched ∨ limits.probes ≤ view.inflight) :
      Probed false view
  | admitted (hearly : now - view.startedAt < limits.halfOpenMax)
      (hdispatched : view.dispatched < limits.probes) (hinflight : view.inflight < limits.probes) :
      Probed true view.probe

inductive Acquired : Bool → View → Prop where
  | admitted (hclosed : view.circuit = .closed) (hroom : view.inflight < limits.maxInflight) :
      Acquired true view.occupy
  | full (hclosed : view.circuit = .closed) (hfull : limits.maxInflight ≤ view.inflight) :
      Acquired false view
  | cooling (hopened : view.circuit = .opened) (hcooling : now - view.openedAt < view.cooldown) :
      Acquired false view
  | entered (admits : Bool) (after : View) (hopened : view.circuit = .opened)
      (helapsed : view.cooldown ≤ now - view.openedAt)
      (hprobed : Probed limits now (view.enter now) admits after) : Acquired admits after
  | probed (admits : Bool) (after : View) (hhalf : view.circuit = .halfOpen)
      (hprobed : Probed limits now view admits after) : Acquired admits after

/-- A release. What is neither a success nor a failure only gives its place
back. -/
inductive Released : View → Prop where
  | settled (hsettled : view.circuit = .halfOpen → succeeds = false) :
      Released view.settle
  | tripped (cooldown : Nat) (hopened : view.circuit ≠ .opened)
      (hfailed : view.circuit = .halfOpen → succeeds = false)
      (hcooldown : cooldown ≤ limits.maxCooldown) :
      Released (view.settle.trip now cooldown)
  | counted (hhalf : view.circuit = .halfOpen) (hsucceeds : succeeds = true) :
      Released view.settle.succeed
  | recovered (hhalf : view.circuit = .halfOpen) (hsucceeds : succeeds = true)
      (henough : limits.recovery ≤ view.successes + 1) :
      Released view.settle.succeed.close

/-- What the detectors may do: nothing, or trip a circuit that is not open. -/
def Judged (after : View) : Prop := after = view ∨
    view.circuit ≠ .opened ∧ ∃ cooldown, cooldown ≤ limits.maxCooldown ∧ after = view.trip now cooldown

end

variable {limits : Limits} {now : Nat} {succeeds : Bool} {view judged after : View}

theorem Released.of_judged
    (hsettled : judged = view.settle) (hhalf : view.circuit ≠ .halfOpen)
    (hjudged : Judged limits now judged after) : Released limits now succeeds view after := by
  subst hsettled
  rcases hjudged with rfl | ⟨hopened,cooldown,hcooldown,rfl⟩
  · exact .settled fun hcircuit => absurd hcircuit hhalf
  · exact .tripped cooldown hopened (fun hcircuit => absurd hcircuit hhalf) hcooldown

theorem Released.of_failed (hsettled : judged = view.settle)
    (hjudged : Judged limits now judged after) : Released limits now false view after := by
  subst hsettled
  rcases hjudged with rfl | ⟨hopened,cooldown,hcooldown,rfl⟩
  · exact .settled fun _ => rfl
  · exact .tripped cooldown hopened (fun _ => rfl) hcooldown

structure Sane (limits : Limits) (now : Nat) (view : View) : Prop where
  inflight_le : view.inflight ≤ max limits.maxInflight limits.probes
  dispatched_le : view.circuit = .halfOpen → view.dispatched ≤ limits.probes
  successes_le : view.circuit = .halfOpen →
    view.successes + view.inflight ≤ max limits.maxInflight limits.probes + view.dispatched
  opened_le : view.circuit = .opened → view.openedAt ≤ now
  cooldown_le : view.circuit = .opened → view.cooldown ≤ limits.maxCooldown
  started_le : view.circuit = .halfOpen → view.startedAt ≤ now

section Views
variable {limits : Limits} {now : Nat} {view after : View} {admits succeeds : Bool}

theorem Sane.of_idle (hclosed : view.circuit = .closed) (hidle : view.inflight = 0) : Sane limits now view where
  inflight_le := hidle.trans_le (Nat.zero_le _)
  dispatched_le hhalf := absurd (hclosed.symm.trans hhalf) (by decide)
  successes_le hhalf := absurd (hclosed.symm.trans hhalf) (by decide)
  opened_le hopened := absurd (hclosed.symm.trans hopened) (by decide)
  cooldown_le hopened := absurd (hclosed.symm.trans hopened) (by decide)
  started_le hhalf := absurd (hclosed.symm.trans hhalf) (by decide)

section
variable (hsane : Sane limits now view)
include hsane

theorem Sane.later {later : Nat} (hlater : now ≤ later) : Sane limits later view := { hsane with
    opened_le := fun hopened => (hsane.opened_le hopened).trans hlater
    started_le := fun hhalf => (hsane.started_le hhalf).trans hlater }

theorem Sane.enter : Sane limits now (view.enter now) where
  inflight_le := hsane.inflight_le
  dispatched_le := fun _ => Nat.zero_le _
  successes_le := fun _ => by
    have hinflight := hsane.inflight_le
    simp only [View.enter]
    omega
  opened_le := fun hopened => by simp [View.enter] at hopened
  cooldown_le := fun hopened => by simp [View.enter] at hopened
  started_le := fun _ => le_refl now

theorem Sane.trip {cooldown : Nat} (hcooldown : cooldown ≤ limits.maxCooldown) :
    Sane limits now (view.trip now cooldown) where
  inflight_le := hsane.inflight_le
  dispatched_le := fun hhalf => by simp [View.trip] at hhalf
  successes_le := fun hhalf => by simp [View.trip] at hhalf
  opened_le := fun _ => le_refl now
  cooldown_le := fun _ => hcooldown
  started_le := fun hhalf => by simp [View.trip] at hhalf

theorem Sane.settle : Sane limits now view.settle := { hsane with
    inflight_le := (Nat.sub_le _ _).trans hsane.inflight_le
    successes_le := fun hhalf => by
      have hsuccesses := hsane.successes_le hhalf
      simp only [View.settle]
      omega }

theorem Sane.probed (hprobed : Probed limits now view admits after) : Sane limits now after := by
  cases hprobed with
  | rearmed cooldown hdue hcooldown => exact hsane.trip hcooldown
  | refused hearly hbusy => exact hsane
  | admitted hearly hdispatched hinflight =>
    refine { hsane with inflight_le := ?_, dispatched_le := ?_, successes_le := ?_ }
    · simp only [View.probe]
      omega
    · intro hhalf
      simp only [View.probe]
      omega
    · intro hhalf
      have hsuccesses := hsane.successes_le hhalf
      simp only [View.probe]
      omega

theorem Sane.acquired (hacquired : Acquired limits now view admits after) : Sane limits now after := by
  cases hacquired with
  | admitted hclosed hroom =>
    refine { hsane with inflight_le := ?_, successes_le := ?_ }
    · simp only [View.occupy]
      omega
    · intro hhalf
      rw [View.occupy,hclosed] at hhalf
      contradiction
  | full hclosed hfull | cooling hopened hcooling => exact hsane
  | entered admits after hopened helapsed hprobed => exact hsane.enter.probed hprobed
  | probed admits after hhalf hprobed => exact hsane.probed hprobed

theorem Sane.released (hheld : 0 < view.inflight)
    (hreleased : Released limits now succeeds view after) : Sane limits now after := by
  cases hreleased with
  | settled hsettled => exact hsane.settle
  | tripped cooldown hopened hfailed hcooldown => exact hsane.settle.trip hcooldown
  | counted hhalf hsucceeds =>
    refine { hsane.settle with successes_le := ?_ }
    intro _
    have hsuccesses := hsane.successes_le hhalf
    simp only [View.settle,View.succeed]
    omega
  | recovered hhalf hsucceeds henough =>
    exact
      { inflight_le := hsane.settle.inflight_le
        dispatched_le := fun hcircuit => by contradiction
        successes_le := fun hcircuit => by contradiction
        opened_le := fun hcircuit => by contradiction
        cooldown_le := fun hcircuit => by contradiction
        started_le := fun hcircuit => by contradiction }

end

theorem inflight_acquired (hacquired : Acquired limits now view admits after) :
    after.inflight = view.inflight + if admits then 1 else 0 := by
  cases hacquired with
  | admitted hclosed hroom | full hclosed hfull | cooling hopened hcooling => rfl
  | entered admits after hopened helapsed hprobed => cases hprobed <;> rfl
  | probed admits after hhalf hprobed => cases hprobed <;> rfl

theorem inflight_released (hreleased : Released limits now succeeds view after) :
    after.inflight = view.inflight - 1 := by
  cases hreleased <;> rfl

end Views

/-! ## Machines and their runs -/

structure Machine (Breaker Answer Outcome Draw : Type) where
  view : Breaker → View
  admits : Answer → Bool
  succeeds : Outcome → Bool
  acquire : Nat → Draw → Breaker → Answer × Breaker
  release : Nat → Draw → Outcome → Nat → Breaker → Breaker

variable {Breaker Answer Outcome Draw Op : Type}

structure Lawful (limits : Limits) (machine : Machine Breaker Answer Outcome Draw) (Valid : Breaker → Prop) :
    Prop where
  acquired : ∀ now draw breaker, Valid breaker → Sane limits now (machine.view breaker) →
    Acquired limits now (machine.view breaker) (machine.admits (machine.acquire now draw breaker).1)
      (machine.view (machine.acquire now draw breaker).2)
  acquired_valid : ∀ now draw breaker, Valid breaker → Valid (machine.acquire now draw breaker).2
  released : ∀ now draw outcome latency breaker, Valid breaker → Sane limits now (machine.view breaker) →
    0 < (machine.view breaker).inflight →
    Released limits now (machine.succeeds outcome) (machine.view breaker)
      (machine.view (machine.release now draw outcome latency breaker))
  released_valid : ∀ now draw outcome latency breaker, Valid breaker →
    0 < (machine.view breaker).inflight → Valid (machine.release now draw outcome latency breaker)

/-- Calls come one after another, each some time after the one before. -/
inductive Call (Op Outcome Draw : Type) where
  | acquire (op : Op) (elapsed : Nat) (draw : Draw)
  | release (op : Op) (outcome : Outcome) (latency elapsed : Nat) (draw : Draw)

/-- A breaker and the operations it has admitted and not yet seen released,
each with the half-open episode that admitted it. `recovered` counts the
operations of the current episode that were released with success. -/
structure Session (Breaker Op : Type) where
  breaker : Breaker
  (now episode : Nat)
  held : List (Op × Option Nat)
  recovered : Nat

namespace Session
variable [DecidableEq Op]

def tagOf (session : Session Breaker Op) (op : Op) : Option (Option Nat) :=
  (session.held.find? fun entry => entry.1 = op).map Prod.snd

def pass (elapsed : Nat) (session : Session Breaker Op) : Session Breaker Op :=
  { session with now := session.now + elapsed }

variable (machine : Machine Breaker Answer Outcome Draw)

def circuit (session : Session Breaker Op) : Circuit := (machine.view session.breaker).circuit

def entersEpisode (before after : Breaker) : Bool :=
  (machine.view before).circuit = .opened && (machine.view after).circuit = .halfOpen

def acquire (op : Op) (draw : Draw) (session : Session Breaker Op) : Session Breaker Op :=
  let result := machine.acquire session.now draw session.breaker
  let enters := entersEpisode machine session.breaker result.2
  let episode := if enters then session.episode + 1 else session.episode
  let tag := if (machine.view result.2).circuit = .halfOpen then some episode else none
  { breaker := result.2
    now := session.now
    episode := episode
    held := if machine.admits result.1 then (op,tag) :: session.held else session.held
    recovered := if enters then 0 else session.recovered }

def release (op : Op) (tag : Option Nat) (outcome : Outcome) (latency : Nat) (draw : Draw)
    (session : Session Breaker Op) : Session Breaker Op :=
  { breaker := machine.release session.now draw outcome latency session.breaker
    now := session.now
    episode := session.episode
    held := session.held.eraseP fun entry => entry.1 = op
    recovered := if machine.succeeds outcome && tag = some session.episode then session.recovered + 1
      else session.recovered }

/-- An operation that is under way does not acquire again, and one that is not
is not released. -/
def step (session : Session Breaker Op) : Call Op Outcome Draw → Session Breaker Op
  | .acquire op elapsed draw =>
      match session.tagOf op with
      | some _ => session.pass elapsed
      | none => acquire machine op draw (session.pass elapsed)
  | .release op outcome latency elapsed draw =>
      match session.tagOf op with
      | some tag => release machine op tag outcome latency draw (session.pass elapsed)
      | none => session.pass elapsed

def start (breaker : Breaker) (now : Nat) : Session Breaker Op := ⟨breaker,now,0,[],0⟩

end Session

section Runs
variable {limits : Limits} {machine : Machine Breaker Answer Outcome Draw} {Valid : Breaker → Prop}
  {session : Session Breaker Op}

structure Tracked (limits : Limits) (machine : Machine Breaker Answer Outcome Draw) (Valid : Breaker → Prop)
    (session : Session Breaker Op) : Prop where
  valid : Valid session.breaker
  sane : Sane limits session.now (machine.view session.breaker)
  inflight : (machine.view session.breaker).inflight = session.held.length

theorem Tracked.pass (htracked : Tracked limits machine Valid session) (elapsed : Nat) :
    Tracked limits machine Valid (session.pass elapsed) :=
  ⟨htracked.valid,htracked.sane.later (Nat.le_add_right _ _),htracked.inflight⟩

theorem Tracked.acquire (hlawful : Lawful limits machine Valid) (htracked : Tracked limits machine Valid session)
    (op : Op) (draw : Draw) : Tracked limits machine Valid (session.acquire machine op draw) := by
  have hacquired := hlawful.acquired session.now draw session.breaker htracked.valid htracked.sane
  refine ⟨hlawful.acquired_valid _ draw _ htracked.valid,htracked.sane.acquired hacquired,?_⟩
  have hinflight := inflight_acquired hacquired
  rw [htracked.inflight] at hinflight
  simp only [Session.acquire]
  rw [hinflight]
  split
  · simp
  · simp

/-! ## No dead state -/

section
variable {now : Nat} {view after : View} {admits : Bool} (hprobes : 0 < limits.probes)
  (hmax : 0 < limits.halfOpenMax) (hidle : view.inflight = 0)
include hprobes hmax hidle

theorem entered_admits (hprobed : Probed limits now (view.enter now) admits after) : admits = true := by
  cases hprobed with
  | rearmed cooldown hdue hcooldown =>
    simp only [View.enter] at hdue
    omega
  | refused hearly hbusy =>
    simp only [View.enter] at hbusy
    omega
  | admitted hearly hdispatched hinflight => rfl

theorem acquired_opened_admits
    (hopened : view.circuit = .opened) (helapsed : view.cooldown ≤ now - view.openedAt)
    (hacquired : Acquired limits now view admits after) : admits = true := by
  cases hacquired with
  | admitted hclosed hroom => rfl
  | full hclosed hfull =>
    rw [hopened] at hclosed
    contradiction
  | cooling hopened hcooling => omega
  | entered admits after hopened helapsed hprobed => exact entered_admits hprobes hmax hidle hprobed
  | probed admits after hhalf hprobed =>
    rw [hopened] at hhalf
    contradiction

end

variable {first second : Nat} {admits : Bool}

/-- With nothing under way, a half-open episode that has run out is opened
again by the first acquire and left by the second. -/
theorem acquired_twice_admits {mid : View} {admits' : Bool}
    (hinflight : 0 < limits.maxInflight) (hprobes : 0 < limits.probes) (hmax : 0 < limits.halfOpenMax)
    (hsane : Sane limits now view) (hidle : view.inflight = 0) (hfirst : now + limits.halfOpenMax ≤ first)
    (hsecond : first + limits.maxCooldown ≤ second) (hacquired : Acquired limits first view admits mid)
    (hacquired' : Acquired limits second mid admits' after) : admits = true ∨ admits' = true := by
  cases hacquired with
  | admitted hclosed hroom => exact .inl rfl
  | full hclosed hfull => omega
  | cooling hopened hcooling =>
    have hpast := hsane.opened_le hopened
    have hcooldown := hsane.cooldown_le hopened
    exact .inr (acquired_opened_admits hprobes hmax hidle hopened (by omega) hacquired')
  | entered admits after hopened helapsed hprobed => exact .inl (entered_admits hprobes hmax hidle hprobed)
  | probed admits after hhalf hprobed =>
    have hpast := hsane.started_le hhalf
    cases hprobed with
    | rearmed cooldown hdue hcooldown =>
      have hidle' : (view.trip first cooldown).inflight = 0 := hidle
      refine .inr (acquired_opened_admits hprobes hmax hidle' rfl ?_ hacquired')
      simp only [View.trip]
      omega
    | refused hearly hbusy => omega
    | admitted hearly hdispatched hinflight => exact .inl rfl

theorem admits_within_cooldown (hlawful : Lawful limits machine Valid) (hinflight : 0 < limits.maxInflight)
    (hprobes : 0 < limits.probes) (hmax : 0 < limits.halfOpenMax)
    (htracked : Tracked limits machine Valid session) (hidle : session.held = [])
    (hfirst : session.now + limits.halfOpenMax ≤ first) (hsecond : first + limits.maxCooldown ≤ second)
    (draw draw' : Draw) : machine.admits (machine.acquire first draw session.breaker).1 = true ∨
      machine.admits (machine.acquire second draw' (machine.acquire first draw session.breaker).2).1 = true := by
  have hempty : (machine.view session.breaker).inflight = 0 := by
    rw [htracked.inflight,hidle]
    rfl
  have hlater : Sane limits first (machine.view session.breaker) := htracked.sane.later (by omega)
  have hacquired := hlawful.acquired first draw session.breaker htracked.valid hlater
  have hmid := (hlater.acquired hacquired).later (show first ≤ second by omega)
  have hacquired' := hlawful.acquired second draw' _ (hlawful.acquired_valid first draw _ htracked.valid) hmid
  exact acquired_twice_admits hinflight hprobes hmax htracked.sane hempty hfirst hsecond hacquired hacquired'

/-! ## Runs -/

variable [DecidableEq Op] {op : Op} {tag : Option Nat}

section
variable (htag : session.tagOf op = some tag)
include htag

theorem mem_of_tagOf : (op,tag) ∈ session.held := by
  obtain ⟨entry,hfind,rfl⟩ := Option.map_eq_some_iff.mp htag
  have hop : entry.1 = op := by simpa using find?_some hfind
  subst hop
  exact mem_of_find?_eq_some hfind

theorem held_pos : 0 < session.held.length :=
  length_pos_of_mem (mem_of_tagOf htag)

end

section
variable (hlawful : Lawful limits machine Valid) (htracked : Tracked limits machine Valid session)
include hlawful htracked

theorem Tracked.release (htag : session.tagOf op = some tag) (outcome : Outcome) (latency : Nat)
    (draw : Draw) : Tracked limits machine Valid (session.release machine op tag outcome latency draw) := by
  have hheld : 0 < (machine.view session.breaker).inflight := by
    rw [htracked.inflight]
    exact held_pos htag
  have hreleased := hlawful.released session.now draw outcome latency session.breaker htracked.valid htracked.sane hheld
  refine ⟨hlawful.released_valid _ draw outcome latency _ htracked.valid hheld,
    htracked.sane.released hheld hreleased,?_⟩
  have hinflight := inflight_released hreleased
  rw [htracked.inflight] at hinflight
  simp only [Session.release]
  rw [hinflight,length_eraseP_of_mem (mem_of_tagOf htag) (by simp)]

theorem Tracked.step (call : Call Op Outcome Draw) :
    Tracked limits machine Valid (session.step machine call) := by
  cases call with
  | acquire op elapsed draw =>
    simp only [Session.step]
    split
    · exact htracked.pass elapsed
    · exact (htracked.pass elapsed).acquire hlawful op draw
  | release op outcome latency elapsed draw =>
    simp only [Session.step]
    split
    next tag htag => exact (htracked.pass elapsed).release hlawful htag outcome latency draw
    · exact htracked.pass elapsed

theorem Tracked.run (calls : List (Call Op Outcome Draw)) :
    Tracked limits machine Valid (run (.step machine) session calls) :=
  invariant_run_always (fun _ call htracked => htracked.step hlawful call) calls htracked

end

/-- From every state of a run that leaves nothing under way, an acquire after
the longest episode or one after a further cooldown is admitted. -/
def NeverWedges (limits : Limits) (machine : Machine Breaker Answer Outcome Draw) (session : Session Breaker Op) :
    Prop :=
  ∀ (calls : List (Call Op Outcome Draw)) (first second : Nat) (draw draw' : Draw),
    let reached := run (.step machine) session calls
    let acquired := machine.acquire first draw reached.breaker
    reached.held = [] → reached.now + limits.halfOpenMax ≤ first → first + limits.maxCooldown ≤ second →
      machine.admits acquired.1 = true ∨ machine.admits (machine.acquire second draw' acquired.2).1 = true

theorem neverWedges (hlawful : Lawful limits machine Valid) (hinflight : 0 < limits.maxInflight)
    (hprobes : 0 < limits.probes) (hmax : 0 < limits.halfOpenMax)
    (htracked : Tracked limits machine Valid session) : NeverWedges limits machine session := by
  intro calls first second draw draw' reached acquired hidle hfirst hsecond
  exact admits_within_cooldown hlawful hinflight hprobes hmax (htracked.run hlawful calls) hidle hfirst hsecond
    draw draw'

variable {breaker : Breaker}

omit [DecidableEq Op] in
theorem tracked_start (hvalid : Valid breaker)
    (hclosed : (machine.view breaker).circuit = .closed) (hidle : (machine.view breaker).inflight = 0) :
    Tracked limits machine Valid (.start breaker now : Session Breaker Op) where
  valid := hvalid
  sane := .of_idle hclosed hidle
  inflight := hidle

/-! ## Whose success it is -/

/-- A half-open episode begins only when nothing is under way. -/
def Drained (machine : Machine Breaker Answer Outcome Draw) (session : Session Breaker Op) :
    Call Op Outcome Draw → Prop
  | .acquire op elapsed _ =>
      session.tagOf op = none → session.circuit machine = .opened → (machine.view session.breaker).cooldown ≤
          session.now + elapsed - (machine.view session.breaker).openedAt → session.held = []
  | .release _ _ _ _ _ => True

instance (machine : Machine Breaker Answer Outcome Draw) (session : Session Breaker Op)
    (call : Call Op Outcome Draw) : Decidable (Drained machine session call) :=
  match call with
  | .acquire _ _ _ => inferInstanceAs (Decidable (_ → _ → _ → session.held = []))
  | .release _ _ _ _ _ => inferInstanceAs (Decidable True)

/-- The episode ends with enough successes of its own operations, or by the
release of one of them. -/
def EndsByOwn (limits : Limits) (machine : Machine Breaker Answer Outcome Draw) (session : Session Breaker Op)
    (call : Call Op Outcome Draw) : Prop :=
  session.circuit machine = .halfOpen → ((session.step machine call).circuit machine = .closed →
      limits.recovery ≤ (session.step machine call).recovered) ∧
    (match call with
      | .acquire _ _ _ => True
      | .release op _ _ _ _ => (session.step machine call).circuit machine = .opened →
          ∀ tag, session.tagOf op = some tag → tag = some session.episode)

/-- In a half-open episode everything under way belongs to it, and the
breaker's count is the count of its own successes. -/
structure Owned (machine : Machine Breaker Answer Outcome Draw) (session : Session Breaker Op) : Prop where
  tagged : session.circuit machine = .halfOpen → ∀ entry ∈ session.held, entry.2 = some session.episode
  counted : session.circuit machine = .halfOpen → (machine.view session.breaker).successes = session.recovered

/-- How an acquire can end in a half-open episode: it begins one, with nothing
counted yet, or it is in one and leaves the count. -/
theorem acquired_halfOpen
    (hacquired : Acquired limits now view admits after) (hhalf : after.circuit = .halfOpen) :
    (view.circuit = .opened ∧ view.cooldown ≤ now - view.openedAt ∧ after.successes = 0) ∨
      (view.circuit = .halfOpen ∧ after.successes = view.successes) := by
  cases hacquired with
  | admitted hclosed hroom =>
    rw [View.occupy,hclosed] at hhalf
    contradiction
  | full hclosed hfull =>
    rw [hclosed] at hhalf
    contradiction
  | cooling hopened hcooling =>
    rw [hopened] at hhalf
    contradiction
  | entered admits after hopened helapsed hprobed =>
    refine .inl ⟨hopened,helapsed,?_⟩
    cases hprobed with
    | rearmed cooldown hdue hcooldown => contradiction
    | refused hearly hbusy | admitted hearly hdispatched hinflight => rfl
  | probed admits after hbefore hprobed =>
    refine .inr ⟨hbefore,?_⟩
    cases hprobed with
    | rearmed cooldown hdue hcooldown => contradiction
    | refused hearly hbusy | admitted hearly hdispatched hinflight => rfl

omit [DecidableEq Op] in
theorem Owned.acquire (hlawful : Lawful limits machine Valid)
    (htracked : Tracked limits machine Valid session) (howned : Owned machine session) (op : Op)
    (draw : Draw) (hdrained : session.circuit machine = .opened →
      (machine.view session.breaker).cooldown ≤ session.now - (machine.view session.breaker).openedAt →
        session.held = []) : Owned machine (session.acquire machine op draw) := by
  have hacquired := hlawful.acquired session.now draw session.breaker htracked.valid htracked.sane
  constructor
  · intro hhalf
    have hcircuit : (machine.view (machine.acquire session.now draw session.breaker).2).circuit = .halfOpen :=
      hhalf
    have hmem : ∀ entry ∈ session.held, entry.2 = some (session.acquire machine op draw).episode := by
      rcases acquired_halfOpen hacquired hcircuit with ⟨hopened,helapsed,-⟩ | ⟨hbefore,-⟩
      · rw [hdrained hopened helapsed]
        intro entry hentry
        cases hentry
      · have hepisode : (session.acquire machine op draw).episode = session.episode := by
          simp [Session.acquire,Session.entersEpisode,hbefore]
        rw [hepisode]
        exact howned.tagged hbefore
    intro entry hentry
    simp only [Session.acquire] at hentry
    split at hentry
    · rcases mem_cons.mp hentry with rfl | hold
      · rfl
      · exact hmem entry hold
    · exact hmem entry hentry
  · intro hhalf
    have hcircuit : (machine.view (machine.acquire session.now draw session.breaker).2).circuit = .halfOpen :=
      hhalf
    rcases acquired_halfOpen hacquired hcircuit with ⟨hopened,-,hzero⟩ | ⟨hbefore,hsame⟩
    · simp only [Session.acquire,Session.entersEpisode]
      simp [hopened,hcircuit,hzero]
    · have hcounted := howned.counted hbefore
      simp only [Session.acquire,Session.entersEpisode]
      simp [hbefore,hsame,hcounted]

theorem released_halfOpen
    (hreleased : Released limits now succeeds view after) (hhalf : after.circuit = .halfOpen) :
    view.circuit = .halfOpen ∧ after.successes = view.successes + if succeeds then 1 else 0 := by
  cases hreleased with
  | settled hsettled =>
    have hfalse : succeeds = false := hsettled hhalf
    subst hfalse
    exact ⟨hhalf,rfl⟩
  | tripped cooldown hopened hfailed hcooldown => contradiction
  | counted hbefore hsucceeds =>
    subst hsucceeds
    exact ⟨hbefore,rfl⟩
  | recovered hbefore hsucceeds henough => contradiction

section
variable (hlawful : Lawful limits machine Valid) (htracked : Tracked limits machine Valid session)
  (howned : Owned machine session)
include hlawful htracked howned

theorem Owned.release (htag : session.tagOf op = some tag) (outcome : Outcome) (latency : Nat)
    (draw : Draw) : Owned machine (session.release machine op tag outcome latency draw) := by
  have hheld : 0 < (machine.view session.breaker).inflight := by
    rw [htracked.inflight]
    exact held_pos htag
  have hreleased := hlawful.released session.now draw outcome latency session.breaker htracked.valid htracked.sane hheld
  constructor
  · intro hhalf entry hentry
    obtain ⟨hbefore,-⟩ := released_halfOpen hreleased hhalf
    exact howned.tagged hbefore entry (mem_of_mem_eraseP hentry)
  · intro hhalf
    obtain ⟨hbefore,hsuccesses⟩ := released_halfOpen hreleased hhalf
    have hown : tag = some session.episode := howned.tagged hbefore (op,tag) (mem_of_tagOf htag)
    have hcounted := howned.counted hbefore
    simp only [Session.release]
    rw [hsuccesses,hcounted,hown]
    cases machine.succeeds outcome
    · simp
    · simp

theorem Owned.step {call : Call Op Outcome Draw} (hdrained : Drained machine session call) :
    Owned machine (session.step machine call) := by
  have hpassed : ∀ elapsed, Owned machine (session.pass elapsed) := fun _ => ⟨howned.tagged,howned.counted⟩
  cases call with
  | acquire op elapsed draw =>
    simp only [Session.step]
    split
    · exact hpassed elapsed
    next hfree =>
      exact (hpassed elapsed).acquire hlawful (htracked.pass elapsed) op draw (hdrained hfree)
  | release op outcome latency elapsed draw =>
    simp only [Session.step]
    split
    next tag htag =>
      exact (hpassed elapsed).release hlawful (htracked.pass elapsed) htag outcome latency draw
    · exact hpassed elapsed

end

theorem acquired_ne_closed
    (hacquired : Acquired limits now view admits after) (hhalf : view.circuit = .halfOpen) :
    after.circuit ≠ .closed := by
  cases hacquired with
  | admitted hclosed hroom =>
    rw [hhalf] at hclosed
    contradiction
  | full hclosed hfull =>
    rw [hhalf] at hclosed
    contradiction
  | cooling hopened hcooling =>
    rw [hhalf] at hopened
    contradiction
  | entered admits after hopened helapsed hprobed =>
    rw [hhalf] at hopened
    contradiction
  | probed admits after hbefore hprobed =>
    cases hprobed with
    | rearmed cooldown hdue hcooldown => simp [View.trip]
    | refused hearly hbusy => simp [hhalf]
    | admitted hearly hdispatched hinflight => simp [View.probe,hhalf]

theorem released_closed
    (hreleased : Released limits now succeeds view after) (hhalf : view.circuit = .halfOpen)
    (hclosed : after.circuit = .closed) : succeeds = true ∧ limits.recovery ≤ view.successes + 1 := by
  cases hreleased with
  | settled hsettled =>
    rw [View.settle,hhalf] at hclosed
    contradiction
  | tripped cooldown hopened hfailed hcooldown => contradiction
  | counted hbefore hsucceeds =>
    rw [View.succeed,View.settle,hhalf] at hclosed
    contradiction
  | recovered hbefore hsucceeds henough => exact ⟨hsucceeds,henough⟩

theorem endsByOwn_of_owned (hlawful : Lawful limits machine Valid) (htracked : Tracked limits machine Valid session)
    (howned : Owned machine session) (call : Call Op Outcome Draw) : EndsByOwn limits machine session call := by
  intro hhalf
  cases call with
  | acquire op elapsed draw =>
    refine ⟨?_,trivial⟩
    simp only [Session.step]
    split
    · intro hclosed
      exact absurd (hhalf.symm.trans hclosed) (by decide)
    · intro hclosed
      have hacquired := hlawful.acquired (session.now + elapsed) draw session.breaker htracked.valid
        (htracked.pass elapsed).sane
      exact absurd hclosed (acquired_ne_closed hacquired hhalf)
  | release op outcome latency elapsed draw =>
    refine ⟨?_,?_⟩
    · simp only [Session.step]
      split
      next tag htag =>
        intro hclosed
        have hheld : 0 < (machine.view session.breaker).inflight := by
          rw [htracked.inflight]
          exact held_pos htag
        have hreleased := hlawful.released (session.now + elapsed) draw outcome latency session.breaker
          htracked.valid (htracked.pass elapsed).sane hheld
        obtain ⟨hsucceeds,henough⟩ := released_closed hreleased hhalf hclosed
        have hown : tag = some session.episode := howned.tagged hhalf (op,tag) (mem_of_tagOf htag)
        have hcounted := howned.counted hhalf
        simp only [Session.release,Session.pass]
        rw [hsucceeds,hown]
        simp only [Bool.true_and,decide_true,if_true]
        omega
      · intro hclosed
        exact absurd (hhalf.symm.trans hclosed) (by decide)
    · intro _ tag htag
      exact howned.tagged hhalf (op,tag) (mem_of_tagOf htag)

omit [DecidableEq Op] in
theorem owned_start (hclosed : (machine.view breaker).circuit = .closed) :
    Owned machine (.start breaker now : Session Breaker Op) where
  tagged := fun hhalf => absurd (hclosed.symm.trans hhalf) (by decide)
  counted := fun hhalf => absurd (hclosed.symm.trans hhalf) (by decide)

theorem endsByOwn_along (hlawful : Lawful limits machine Valid) (htracked : Tracked limits machine Valid session)
    (howned : Owned machine session) {calls : List (Call Op Outcome Draw)}
    (hdrained : Along (.step machine) (Drained machine) session calls) :
    Along (.step machine) (EndsByOwn limits machine) session calls := by
  induction calls generalizing session with
  | nil => trivial
  | cons call calls ih =>
    refine ⟨endsByOwn_of_owned hlawful htracked howned call,?_⟩
    exact ih (htracked.step hlawful call) (howned.step hlawful htracked hdrained.1) hdrained.2

end Runs

end Routiq.Core.Breaker
