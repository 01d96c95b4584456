import Routiq.ControlPlane.Restart

/-! What a reconnecting edge is replayed from the event ring. Replay takes the
event at the back of the ring for the newest one, while the number of an event
is drawn in an earlier step than the event is appended in. -/
namespace Routiq.ControlPlane.Replay
open Core.Runs Core.Processes Store Handlers ServedRevisions Restart List

variable {Index Snapshot Json Value : Type}

/-! ## One ring -/

/-- Nothing already applied is replayed, and an edge that is behind the greatest
appended revision is replayed that revision or told that it is stale. -/
def ResumeComplete (ring : List ConfigEvent) (appended : List Nat) (lastId cap : Nat) : Prop :=
  (∀ event ∈ (selectMissedEvents ring lastId cap).1, lastId < event.revision) ∧
    ∀ greatest ∈ appended, (∀ revision ∈ appended, revision ≤ greatest) → lastId < greatest →
      (selectMissedEvents ring lastId cap).2 = true ∨
        ∃ event ∈ (selectMissedEvents ring lastId cap).1, event.revision = greatest

variable {ring : List ConfigEvent} {lastId : Nat}

theorem selectMissedEvents_newer {cap : Nat} {event : ConfigEvent}
    (hevent : event ∈ (selectMissedEvents ring lastId cap).1) : lastId < event.revision := by
  unfold selectMissedEvents at hevent
  by_cases hempty : ring.isEmpty = true
  · rw [if_pos hempty] at hevent
    contradiction
  rw [if_neg hempty] at hevent
  dsimp only at hevent
  by_cases hlatest : lastId ≥ (ring.getLast?.map (·.revision)).getD 0
  · rw [if_pos hlatest] at hevent
    contradiction
  rw [if_neg hlatest] at hevent
  by_cases hgap : lastId > 0 ∧ lastId + 1 < (ring.head?.map (·.revision)).getD 0
  · rw [if_pos hgap] at hevent
    contradiction
  rw [if_neg hgap] at hevent
  have hmissed := (mem_filter.mp (mem_of_mem_take hevent)).2
  exact of_decide_eq_true hmissed

variable {newest : ConfigEvent}

theorem selectMissedEvents_upToDate (hnewest : ring.getLast? = some newest) (hle : newest.revision ≤ lastId)
    (cap : Nat) : selectMissedEvents ring lastId cap = ([],false) := by
  have hring : ring.isEmpty = false := by
    rw [isEmpty_eq_false_iff]
    exact ne_nil_of_mem (mem_of_getLast? hnewest)
  simp [selectMissedEvents,hring,hnewest,hle]

/-- Replay is complete for every edge exactly if no appended revision is
greater than the one at the back of the ring. -/
theorem resumeComplete_iff {appended : List Nat} (hnewest : ring.getLast? = some newest)
    (happended : newest.revision ∈ appended) : (∀ lastId cap, ResumeComplete ring appended lastId cap) ↔
      ∀ revision ∈ appended, revision ≤ newest.revision := by
  constructor
  · intro hcomplete revision hrevision
    obtain ⟨greatest,hmax⟩ := Option.isSome_iff_exists.mp
      (isSome_max?_of_mem happended)
    obtain ⟨hgreatest,hall⟩ := max?_eq_some_iff.mp hmax
    by_contra hgreater
    have hbehind : newest.revision < greatest := by
      have hle := hall revision hrevision
      omega
    -- an edge that has applied the back of the ring is never told of the rest
    have hresumed := (hcomplete newest.revision 0).2 greatest hgreatest hall hbehind
    rw [selectMissedEvents_upToDate hnewest (Nat.le_refl _)] at hresumed
    simp at hresumed
  · intro hgreatest lastId cap
    refine ⟨fun event hevent => selectMissedEvents_newer hevent,?_⟩
    intro greatest hmem hall hbehind
    have hback : newest.revision = greatest := Nat.le_antisymm (hall _ happended) (hgreatest _ hmem)
    rw [← hback] at hbehind
    exact (selectMissedEvents_back hnewest hbehind cap).imp id fun hmem => ⟨newest,hmem,hback⟩

/-! ## Rings of interleaved publications -/

section
variable (initial : AppState Snapshot Json)
  (log : List (Index × Entry (Command Snapshot Json) Answer))

def appendedOf : List Nat := initial.events.map (·.revision) ++ log.filterMap fun entry =>
    match entry.2 with
    | ⟨.appendEvent event,_⟩ => some event.revision
    | _ => none

end

abbrev PublisherSystem (Index Snapshot Json Value : Type) :=
  System Index (Command Snapshot Json) Answer (AppState Snapshot Json) Value

variable {initial : AppState Snapshot Json}

section
variable (initial : AppState Snapshot Json) (system : PublisherSystem Index Snapshot Json Value)

def Resumable : Prop :=
  ∀ lastId cap, ResumeComplete system.world.events (appendedOf initial system.log) lastId cap

/-- An event is appended only when no greater revision has been appended. -/
def InOrder (event : Index × Input) : Prop :=
  match (system.processes event.1).pending with
  | some (.appendEvent appending) =>
    ∀ revision ∈ appendedOf initial system.log, revision ≤ appending.revision
  | _ => True

def BackGreatest : Prop := ∃ newest, system.world.events.getLast? = some newest ∧
    newest.revision ∈ appendedOf initial system.log ∧
    ∀ revision ∈ appendedOf initial system.log, revision ≤ newest.revision

end

theorem resumable_of_backGreatest {system : PublisherSystem Index Snapshot Json Value}
    (hback : BackGreatest initial system) : Resumable initial system := by
  obtain ⟨newest,hnewest,hmem,hall⟩ := hback
  exact (resumeComplete_iff hnewest hmem).mpr hall

theorem quiet_exec {command : Command Snapshot Json} (hquiet : ∀ event, command ≠ .appendEvent event)
    (input : Input) (world : AppState Snapshot Json) (index : Index)
    (log : List (Index × Entry (Command Snapshot Json) Answer)) (answer : Answer command) :
    (exec input world command).2.events = world.events ∧
      appendedOf initial (log ++ [(index,⟨command,answer⟩)]) = appendedOf initial log := by
  cases command with
  | appendEvent event => exact absurd rfl (hquiet event)
  | record row =>
    cases hfate : input.record with
    | stored | refused | replyLost => simp [exec,hfate,appendedOf]
  | nowSecs | loadLive | storeLive _ | loadRevision | fetchAddRevision | lockStore | unlockStore
  | currentConfig | pushConfig _ | popConfig | broadcast _ => simp [exec,appendedOf]

variable [DecidableEq Index] {system : PublisherSystem Index Snapshot Json Value} {event : Index × Input}

theorem step_quiet (initial : AppState Snapshot Json)
    (hquiet : ∀ appending, (system.processes event.1).pending ≠ some (.appendEvent appending)) :
    (system.step machine event).world.events = system.world.events ∧
      appendedOf initial (system.step machine event).log = appendedOf initial system.log := by
  rcases system.step_cases machine event with hstep | ⟨command,next,hprocess,_,hstep⟩
  · rw [hstep]
    exact ⟨rfl,rfl⟩
  · rw [hstep]
    refine quiet_exec (fun appending hcommand => hquiet appending ?_) event.2 system.world event.1
      system.log _
    rw [hprocess,Process.pending_call,hcommand]

theorem step_append (initial : AppState Snapshot Json) {appending : ConfigEvent}
    (hpending : (system.processes event.1).pending = some (.appendEvent appending)) :
    (system.step machine event).world.events = appendRing system.world.events appending ∧
      appendedOf initial (system.step machine event).log =
        appendedOf initial system.log ++ [appending.revision] := by
  cases hprocess : system.processes event.1 with
  | done value =>
    rw [hprocess] at hpending
    contradiction
  | call command next =>
    rw [hprocess] at hpending
    obtain rfl := Option.some.inj hpending
    have hstep : system.step machine event =
        system.perform machine event.2 event.1 (.appendEvent appending) next := by
      unfold System.step
      rw [hprocess]
      rfl
    rw [hstep]
    refine ⟨?_,by simp [appendedOf,System.perform]⟩
    simp only [System.perform,machine,exec]

theorem resumable_step_iff (hback : BackGreatest initial system) :
    Resumable initial (system.step machine event) ↔ InOrder initial system event := by
  by_cases hpending : ∃ appending, (system.processes event.1).pending = some (.appendEvent appending)
  · obtain ⟨appending,hpending⟩ := hpending
    obtain ⟨hring,happended⟩ := step_append initial hpending
    have hlast := getLast?_appendRing system.world.events appending
    unfold Resumable InOrder
    rw [hring,happended,hpending,resumeComplete_iff hlast (by simp)]
    simp only [forall_mem_append,forall_mem_singleton,Nat.le_refl,and_true]
  · obtain ⟨hring,happended⟩ := step_quiet initial (not_exists.mp hpending)
    have hresumable := resumable_of_backGreatest hback
    unfold Resumable at hresumable ⊢
    rw [hring,happended]
    refine iff_of_true hresumable ?_
    unfold InOrder
    cases hcommand : (system.processes event.1).pending with
    | none => trivial
    | some command =>
      cases command with
      | appendEvent appending => exact absurd ⟨appending,hcommand⟩ hpending
      | _ => trivial

theorem backGreatest_step (horder : InOrder initial system event)
    (hback : BackGreatest initial system) : BackGreatest initial (system.step machine event) := by
  by_cases hpending : ∃ appending, (system.processes event.1).pending = some (.appendEvent appending)
  · obtain ⟨appending,hpending⟩ := hpending
    obtain ⟨hring,happended⟩ := step_append initial hpending
    refine ⟨appending,?_,?_,?_⟩
    · rw [hring]
      exact getLast?_appendRing system.world.events appending
    · rw [happended]
      simp
    · unfold InOrder at horder
      rw [hpending] at horder
      rw [happended,forall_mem_append,forall_mem_singleton]
      exact ⟨horder,Nat.le_refl _⟩
  · obtain ⟨hring,happended⟩ := step_quiet initial (not_exists.mp hpending)
    unfold BackGreatest
    rw [hring,happended]
    exact hback

/-- From the ring of a fresh start, through every interleaving of publications:
every edge resumes completely in every state of the run exactly if the events
were appended in the order of their revisions. -/
theorem resume_complete_iff_inOrder (env : Env Snapshot Json) (boot : Boot Snapshot Json)
    (revisions : List (Revision Json)) (nowSecs : Nat) (versions : Index → String)
    (schedule : List (Index × Input)) :
    let initial := startup env boot revisions nowSecs
    let start : PublisherSystem Index Snapshot Json ConfigEvent :=
      .start initial fun index => publishRevision (versions index)
    (∀ before after, schedule = before ++ after →
      let reached := run (.step machine) start before
      ∀ lastId cap, ResumeComplete reached.world.events (appendedOf initial reached.log) lastId cap) ↔
      Along (.step machine) (InOrder initial) start schedule := by
  intro initial start
  have hstart : BackGreatest initial start :=
    ⟨_,rfl,mem_singleton_self _,by simp [initial,start,appendedOf,startup,System.start]⟩
  have hall : Along (.step machine) (fun _ _ => True) start schedule :=
    along_of_forall (fun _ _ => trivial) _ _
  have hagree : Along (.step machine) (fun system event => Resumable initial (system.step machine event))
      start schedule ↔ Along (.step machine) (InOrder initial) start schedule :=
    along_congr
      (fun _ _ _ hresumable hback => backGreatest_step ((resumable_step_iff hback).mp hresumable) hback)
      (fun _ _ _ hback => resumable_step_iff hback) hall hstart
  have hreached : (∀ before after, schedule = before ++ after →
      Resumable initial (run (.step machine) start before)) ↔ _ := forall_reached_iff_along
  rw [← hagree]
  exact hreached.trans (and_iff_right (resumable_of_backGreatest hstart))

/-! ## Two publications that cross -/

/-- The first publication draws its number before the second and appends its
event after it. -/
def crossedSchedule : List (Bool × Input) := [false,false,true,true,true,false].map tick

theorem resume_misses_crossed_event :
    let initial := startup durableEnv defaultBoot [] 0
    let reached := run (System.step machine)
      (.start initial fun index : Bool => publishRevision (if index then "v3" else "v2")) crossedSchedule
    appendedOf initial reached.log = [1,3,2] ∧
      selectMissedEvents reached.world.events 2 eventRingCap = ([],false) := by
  decide +kernel

end Routiq.ControlPlane.Replay
