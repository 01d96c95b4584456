import Mathlib.Data.List.Basic

/-! Runs of a deterministic step function. A run is a fold over a list of
events; a predicate on steps is read along a run in the state before each
event. Every safety argument of the development goes through these rules. -/
namespace Routiq.Core.Runs
open List

variable {State Event : Type*}

section
variable (step : State → Event → State) (good : State → Event → Prop) (state : State)

def run (events : List Event) : State := events.foldl step state

@[simp] theorem run_nil : run step state [] = state := rfl

@[simp] theorem run_cons (event : Event) (events : List Event) :
    run step state (event :: events) = run step (step state event) events := rfl

@[simp] theorem run_append (first second : List Event) :
    run step state (first ++ second) = run step (run step state first) second := by
  simp [run,foldl_append]

/-- `Along step good state events` asks `good` of every event of the run, in
the state that event is taken from. -/
def Along : State → List Event → Prop
  | _, [] => True
  | state, event :: events => good state event ∧ Along (step state event) events

@[simp] theorem along_nil : Along step good state [] := trivial

@[simp] theorem along_cons (event : Event) (events : List Event) : Along step good state (event :: events) ↔
      good state event ∧ Along step good (step state event) events := Iff.rfl

theorem along_append (first second : List Event) : Along step good state (first ++ second) ↔
      Along step good state first ∧ Along step good (run step state first) second := by
  induction first generalizing state with
  | nil => simp
  | cons event events ih => simp [ih,and_assoc]

end

section Rules
variable {step : State → Event → State} {good guard left right : State → Event → Prop} {inv : State → Prop}
  {state : State} {events : List Event}

theorem along_and : Along step (fun state event => left state event ∧ right state event) state events ↔
      Along step left state events ∧ Along step right state events := by
  induction events generalizing state with
  | nil => simp
  | cons event events ih =>
    rw [along_cons,along_cons,along_cons,ih]
    exact and_and_and_comm

theorem along_of_forall (hgood : ∀ state event, good state event) (state : State) (events : List Event) :
    Along step good state events := by
  induction events generalizing state with
  | nil => trivial
  | cons event events ih => exact ⟨hgood state event,ih _⟩

instance decidableAlong [∀ state event, Decidable (good state event)] (state : State) :
    (events : List Event) → Decidable (Along step good state events)
  | [] => isTrue trivial
  | event :: events =>
      have := decidableAlong (step state event) events
      inferInstanceAs (Decidable (good state event ∧ Along step good (step state event) events))

/-- A test along a run, to be evaluated on a concrete one. -/
def checkAlong (step : State → Event → State) (check : State → Event → Bool) : State → List Event → Bool
  | _, [] => true
  | state, event :: events => check state event && checkAlong step check (step state event) events

theorem along_of_check {check : State → Event → Bool}
    (hcheck : ∀ state event, check state event = true → good state event)
    (halong : checkAlong step check state events = true) : Along step good state events := by
  induction events generalizing state with
  | nil => trivial
  | cons event events ih =>
    rw [checkAlong,Bool.and_eq_true] at halong
    exact ⟨hcheck state event halong.1,ih halong.2⟩

theorem invariant_run (hstep : ∀ state event, good state event → inv state → inv (step state event))
    (hgood : Along step good state events) (hinv : inv state) : inv (run step state events) := by
  induction events generalizing state with
  | nil => exact hinv
  | cons event events ih => exact ih hgood.2 (hstep state event hgood.1 hinv)

theorem invariant_run_always (hstep : ∀ state event, inv state → inv (step state event)) (events : List Event)
    (hinv : inv state) : inv (run step state events) := by
  induction events generalizing state with
  | nil => exact hinv
  | cons event events ih => exact ih (hstep state event hinv)

/-- Two step predicates that agree wherever the invariant holds agree along
every run from a state that has it, if good steps keep the invariant. -/
theorem along_congr
    (hstep : ∀ state event, guard state event → left state event → inv state → inv (step state event))
    (hagree : ∀ state event, guard state event → inv state → (left state event ↔ right state event))
    (hguard : Along step guard state events) (hinv : inv state) :
    Along step left state events ↔ Along step right state events := by
  induction events generalizing state with
  | nil => exact Iff.rfl
  | cons event events ih =>
    rw [along_cons,along_cons,← hagree state event hguard.1 hinv]
    refine and_congr_right fun hleft => ?_
    exact ih hguard.2 (hstep state event hguard.1 hleft hinv)

theorem along_congr_of_guard
    (hagree : ∀ state event, guard state event → (left state event ↔ right state event))
    (hguard : Along step guard state events) :
    Along step left state events ↔ Along step right state events := by
  have hkept : ∀ state event, guard state event → left state event → (fun _ : State => True) state →
      (fun _ : State => True) (step state event) := fun _ _ _ _ _ => trivial
  exact along_congr hkept (fun state event hevent _ => hagree state event hevent) hguard trivial

theorem forall_reached_iff_along {property : State → Prop} :
    (∀ before after, events = before ++ after → property (run step state before)) ↔
      property state ∧ Along step (fun state event => property (step state event)) state events := by
  induction events generalizing state with
  | nil =>
    constructor
    · intro hall
      exact ⟨hall [] [] rfl,trivial⟩
    · intro hfirst before after hsplit
      rw [(append_eq_nil_iff.mp hsplit.symm).1]
      exact hfirst.1
  | cons event events ih =>
    rw [along_cons,← ih]
    constructor
    · intro hall
      exact ⟨hall [] _ rfl,fun before after hsplit => hall (event :: before) after (by rw [hsplit]; rfl)⟩
    · intro ⟨hfirst,hrest⟩ before after hsplit
      cases before with
      | nil => exact hfirst
      | cons head before =>
        obtain ⟨rfl,hrestSplit⟩ := List.cons.inj hsplit
        exact hrest before after hrestSplit

/-- A view that an event changes by its mark, if it has one, goes by the marks of
a run alone. -/
theorem view_run_congr {View Mark : Type*} {view : State → View} {next : View → Mark → View}
    {observe : Event → Option Mark} {kept : Event → Prop} (hview : ∀ event, kept event → ∀ state,
      view (step state event) = (observe event).elim (view state) (next (view state)))
    {first second : List Event} (hkept : ∀ event ∈ first ++ second, kept event)
    (hagree : first.filterMap observe = second.filterMap observe) (state : State) :
    view (run step state first) = view (run step state second) := by
  have hrun : ∀ events : List Event, (∀ event ∈ events, kept event) → ∀ state,
      view (run step state events) = run next (view state) (events.filterMap observe) := by
    intro events hevents
    induction events with
    | nil => exact fun _ => rfl
    | cons event events ih =>
      intro state
      rw [run_cons,ih fun later hlater => hevents later (mem_cons_of_mem _ hlater),
        hview event (hevents event mem_cons_self),filterMap_cons]
      cases observe event <;> rfl
  rw [hrun first fun event hevent => hkept event (mem_append_left _ hevent),hagree,
    hrun second fun event hevent => hkept event (mem_append_right _ hevent)]

end Rules

/-! ## What is seen along a run -/

section Trails
variable {Seen Label : Type*} {step : State → Event → State}
  {observe : Label → State → Event → List Seen}

/-- What an observer sees of a run, in the state before each event. -/
def trail (step : State → Event → State) (observe : State → Event → List Seen) :
    State → List Event → List Seen
  | _, [] => []
  | state, event :: events => observe state event ++ trail step observe (step state event) events

section
variable (observe : State → Event → List Seen) (state : State)

@[simp] theorem trail_nil : trail step observe state [] = [] := rfl

@[simp] theorem trail_cons (event : Event)
    (events : List Event) : trail step observe state (event :: events) =
      observe state event ++ trail step observe (step state event) events := rfl

end

/-- What good steps preserve of the state and of what every observer has seen
so far holds at the end of a good run. -/
theorem invariant_trail {good : State → Event → Prop} {inv : State → (Label → List Seen) → Prop}
    (hstep : ∀ state event seen, good state event → inv state seen →
      inv (step state event) fun label => seen label ++ observe label state event) {state : State}
    {events : List Event} {seen : Label → List Seen} (hgood : Along step good state events)
    (hinv : inv state seen) :
    inv (run step state events) fun label => seen label ++ trail step (observe label) state events := by
  induction events generalizing state seen with
  | nil => simpa using hinv
  | cons event events ih =>
    have hrest := ih hgood.2 (hstep state event seen hgood.1 hinv)
    simpa only [run_cons,trail_cons,append_assoc] using hrest

end Trails

end Routiq.Core.Runs
