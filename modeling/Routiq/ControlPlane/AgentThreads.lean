import Routiq.Core.Processes
import Routiq.ControlPlane.Sidecar

/-! The two threads of the config sync agent. Both fetch and validate on their
own, then compare, write the file and remember the revision under one mutex. -/
namespace Routiq.ControlPlane.AgentThreads
open Function Core.Runs Core.Processes Sidecar

variable {Index Json : Type}

/-! ## Files, lock and commands -/

/-- A file that is missing, half written, or holds a body. -/
inductive Contents (Json : Type) where
  | absent | torn
  | whole (json : Json)
deriving DecidableEq

structure AgentWorld (Json : Type) where
  sync : SyncState
  locked : Bool
  (target temp : Contents Json)
deriving DecidableEq

inductive VersionReply where
  | notModified | failed | badBody
  | revision (value : Nat)
deriving DecidableEq

inductive Command (Json : Type) where
  | getConfig | getVersion | lock | unlock | readSync
  | writeSync (sync : SyncState)
  | writeTemp (json : Json)
  | rename

abbrev Answer : Command Json → Type
  | .getConfig => Except String Json
  | .getVersion => VersionReply
  | .lock => Unit
  | .unlock => Unit
  | .readSync => SyncState
  | .writeSync _ => Unit
  | .writeTemp _ => Except String Unit
  | .rename => Except String Unit

section
variable (view : JsonView Json)

/-- What the network and the disk do: any reply of the control plane whose
revision is positive if the agent would accept it, any failure of a write. -/
structure Input where
  config : Except String Json
  version : VersionReply
  (writeTemp rename : Except String Unit)
  positive : ∀ json revision version, config = .ok json →
    validateSnapshot view json = .ok (revision,version) → 0 < revision

def ready (world : AgentWorld Json) : Command Json → Bool
  | .lock => !world.locked
  | _ => true

def exec {view : JsonView Json} (input : Input view) (world : AgentWorld Json) :
    (command : Command Json) → Answer command × AgentWorld Json
  | .getConfig => (input.config,world)
  | .getVersion => (input.version,world)
  | .lock => ((),{ world with locked := true })
  | .unlock => ((),{ world with locked := false })
  | .readSync => (world.sync,world)
  | .writeSync sync => ((),{ world with sync := sync })
  | .writeTemp json =>
    match input.writeTemp with
    | .ok _ => (.ok (),{ world with temp := .whole json })
    | .error message => (.error message,{ world with temp := .torn })
  | .rename =>
    match input.rename with
    | .ok _ => (.ok (),{ world with target := world.temp, temp := .absent })
    | .error message => (.error message,world)

def machine : Machine (Command Json) Answer (AgentWorld Json) (Input view) := ⟨ready,exec⟩

/-! ## The calls of the two threads -/

abbrev Thread (Json Value : Type) := Process (Command Json) Answer Value
def perform (command : Command Json) : Thread Json (Answer command) := .perform command

/-- The applied revision and version, nothing when up to date, or a failure. -/
abbrev Outcome := Except String (Option (Nat × String))

def unlocking (outcome : Outcome) : Thread Json Outcome := do
  perform .unlock
  return outcome

/-- Write the temporary file, rename it onto the target, remember the
revision: under the lock. -/
def activate (json : Json) (revision : Nat) (version : String) : Thread Json Outcome := do
  match ← perform (.writeTemp json) with
  | .error message => unlocking (.error message)
  | .ok _ =>
    match ← perform .rename with
    | .error message => unlocking (.error message)
    | .ok _ =>
      perform (.writeSync ⟨revision,version⟩)
      unlocking (.ok (some (revision,version)))

def fetchAndApply (reason : String) : Thread Json Outcome := do
  match ← perform .getConfig with
  | .error message => return .error message
  | .ok json =>
    match validateSnapshot view json with
    | .error message => return .error ("snapshot rejected (" ++ reason ++ "): " ++ message)
    | .ok (revision,version) =>
      perform .lock
      let sync ← perform .readSync
      if upToDate sync revision version then unlocking (.ok none)
      else activate json revision version

def currentRevision : Thread Json Nat := do
  perform .lock
  let sync ← perform .readSync
  perform .unlock
  return sync.currentRevision

abbrev CallResult := Option Outcome
def reconcile : Thread Json CallResult := do
  let current ← currentRevision
  match ← perform .getVersion with
  | .notModified | .failed | .badBody => return none
  | .revision revision =>
    if revision ≠ current then
      let outcome ← fetchAndApply view "reconcile"
      return some outcome
    else return none

def onConfigChanged (revision : Nat) : Thread Json CallResult := do
  let current ← currentRevision
  match decideRevision current revision with
  | .ignore => return none
  | .fetch =>
    let outcome ← fetchAndApply view "sse-event"
    return some outcome

end

/-- The initial fetch, a tick of the reconcile thread, a connect of the stream
(which reads its `Last-Event-ID`) and an event of it. -/
inductive Call where
  | initialSnapshot | reconcile | connect | configStale
  | configChanged (revision : Nat)
deriving DecidableEq

section
variable (view : JsonView Json)

def handle : Call → Thread Json CallResult
  | .initialSnapshot => do
    let outcome ← fetchAndApply view "initial-snapshot"
    return some outcome
  | .reconcile => reconcile view
  | .connect => do
    let _ ← currentRevision
    return none
  | .configStale => do
    let outcome ← fetchAndApply view "sse-stale"
    return some outcome
  | .configChanged revision => onConfigChanged view revision

/-! ## A fetch on its own -/

def Contents.body : Contents Json → Option Json
  | .whole json => some json
  | .absent | .torn => none

def AgentWorld.agent (world : AgentWorld Json) : Agent Json := ⟨world.sync,world.target.body⟩

theorem execute_activate {view : JsonView Json} (json : Json) (revision : Nat) (version : String)
    (inputs : Nat → Input view) (world : AgentWorld Json) :
    let alone := execute (machine view) (activate json revision version) inputs world
    (alone.value,alone.world.agent) =
      match (do (inputs 0).writeTemp; (inputs 1).rename : Except String Unit) with
      | .error message => (.error message,world.agent)
      | .ok _ => (.ok (some (revision,version)),⟨⟨revision,version⟩,some json⟩) := by
  intro alone
  unfold alone activate
  simp only [perform,Process.perform_bind,execute_call,machine,exec]
  cases (inputs 0).writeTemp with
  | error message => rfl
  | ok _ =>
    simp only [execute_call]
    cases hrename : (inputs 1).rename with
    | error message | ok _ =>
      simp only [exec,hrename]
      rfl

/-- With nothing in between, the commands of a fetch amount to the fetch of
the agent as a whole. -/
theorem execute_fetchAndApply {view : JsonView Json} (reason : String) (inputs : Nat → Input view)
    (world : AgentWorld Json) :
    let alone := execute (machine view) (fetchAndApply view reason) inputs world
    (alone.value,alone.world.agent) = Sidecar.fetchAndApply view world.agent reason (inputs 0).config
        (do (inputs 3).writeTemp; (inputs 4).rename) := by
  intro alone
  unfold alone fetchAndApply Sidecar.fetchAndApply
  simp only [perform,Process.perform_bind,execute_call,machine,exec]
  cases (inputs 0).config with
  | error message => rfl
  | ok json =>
    dsimp only
    cases validateSnapshot view json with
    | error message => rfl
    | ok accepted =>
      simp only [execute_call]
      split
      next hcurrent =>
        rw [if_pos (show upToDate world.agent.sync accepted.1 accepted.2 = true from hcurrent)]
        rfl
      next hnewer =>
        rw [if_neg (show ¬upToDate world.agent.sync accepted.1 accepted.2 = true from hnewer)]
        exact execute_activate json accepted.1 accepted.2 (fun position => inputs (position + 3))
          { world with locked := true }

/-! ## How far a call is in its critical section -/

inductive Section (Json : Type) where
  | outside | entered
  | read (sync : SyncState)
  | written (json : Json)
  /-- The file is replaced and the revision not yet remembered. -/
  | renamed (json : Json)
  | leaving

def Section.replaced : Section Json → Section Json
  | .written json => .renamed json
  | place => place

structure Stage (Json : Type) where
  place : Section Json
  /-- Whether the call has replaced the file or the sync state. -/
  touched : Bool
  /-- Whether the call has seen, or made, an active configuration. -/
  active : Bool
  /-- Whether its last command released the lock. -/
  released : Bool

def Stage.idle : Stage Json := ⟨.outside,false,false,false⟩
def syncDefault : SyncState := ⟨0,""⟩

def Stage.next (stage : Stage Json) : (command : Command Json) → Answer command → Stage Json
  | .lock, _ => { stage with place := .entered, released := false }
  | .unlock, _ => { stage with place := .outside, released := true }
  | .readSync, sync =>
    { stage with place := .read sync, active := stage.active || sync ≠ syncDefault, released := false }
  | .writeTemp json, .ok _ => { stage with place := .written json, released := false }
  | .writeTemp _, .error _ => { stage with place := .leaving, released := false }
  | .rename, .ok _ =>
    { stage with place := stage.place.replaced, touched := true, released := false }
  | .rename, .error _ => { stage with place := .leaving, released := false }
  | .writeSync _, _ => { place := .leaving, touched := true, active := true, released := false }
  | .getConfig, _ => { stage with released := false }
  | .getVersion, _ => { stage with released := false }

/-- A body that may be activated over the sync state: it validates, with a
greater revision. -/
def Newer (sync : SyncState) (json : Json) : Prop :=
  ∃ revision version, validateSnapshot view json = .ok (revision,version) ∧ sync.currentRevision < revision

def Stage.Allowed (stage : Stage Json) : Command Json → Prop
  | .getConfig => stage.place = .outside
  | .getVersion => stage.place = .outside
  | .lock => stage.place = .outside
  | .unlock => stage.place ≠ .outside ∧ (∀ json, stage.place ≠ .renamed json)
  | .readSync => stage.place = .entered
  | .writeTemp json => ∃ sync, stage.place = .read sync ∧ Newer view sync json
  | .rename => ∃ json, stage.place = .written json
  | .writeSync sync => ∃ json, stage.place = .renamed json ∧
      validateSnapshot view json = .ok (sync.currentRevision,sync.lastVersion)

def protocol : Protocol (Command Json) Answer (Stage Json) where
  next := .next
  allowed := Stage.Allowed view
  possible
    | .getConfig, answer => ∀ json revision version, answer = .ok json →
        validateSnapshot view json = .ok (revision,version) → 0 < revision
    | _, _ => True

theorem machine_serves : Protocol.Serves (machine view) (protocol view) := by
  intro input world command
  cases command with
  | getConfig => exact input.positive
  | getVersion | lock | unlock | readSync | writeSync _ | writeTemp _ | rename => trivial

end

/-- A fetch that failed has touched nothing; one that succeeded has just
released the lock, over an active configuration. -/
def Finished (stage : Stage Json) : Outcome → Prop
  | .error _ => stage.place = .outside ∧ stage.touched = false
  | .ok _ => stage.place = .outside ∧ stage.active = true ∧ stage.released = true

section Follows
variable {view : JsonView Json} {sync : SyncState} {revision : Nat} {version : String}

theorem newer_of_not_upToDate {json : Json} (hvalid : validateSnapshot view json = .ok (revision,version))
    (hpositive : 0 < revision) (hfetch : upToDate sync revision version = false) : Newer view sync json := by
  refine ⟨revision,version,hvalid,?_⟩
  unfold upToDate at hfetch
  by_cases hfirst : sync.currentRevision = 0 ∧ sync.lastVersion.isEmpty = true
  · omega
  · rw [if_neg hfirst,if_neg (by omega)] at hfetch
    exact Nat.not_le.mp (of_decide_eq_false hfetch)

theorem ne_default_of_upToDate (hcurrent : upToDate sync revision version = true) : sync ≠ syncDefault := by
  rintro rfl
  contradiction

section
variable {stage : Stage Json} (hplace : stage.place ≠ .outside)
  (hrenamed : ∀ json, stage.place ≠ .renamed json)
include hplace hrenamed

theorem unlocking_error (htouched : stage.touched = false)
    (message : String) : (protocol view).Follows Finished stage (unlocking (.error message)) :=
  ⟨⟨hplace,hrenamed⟩,fun _ _ => ⟨rfl,htouched⟩⟩

theorem unlocking_ok (hactive : stage.active = true) (applied : Option (Nat × String)) :
    (protocol view).Follows Finished stage (unlocking (.ok applied)) :=
  ⟨⟨hplace,hrenamed⟩,fun _ _ => ⟨rfl,hactive,rfl⟩⟩

end

theorem activate_follows {stage : Stage Json} {json : Json} (hplace : stage.place = .read sync)
    (htouched : stage.touched = false) (hvalid : validateSnapshot view json = .ok (revision,version))
    (hnewer : Newer view sync json) :
    (protocol view).Follows Finished stage (activate json revision version) := by
  refine ⟨⟨sync,hplace,hnewer⟩,fun written _ => ?_⟩
  cases written with
  | error message =>
    apply unlocking_error
    · nofun
    · nofun
    · exact htouched
  | ok _ =>
    refine ⟨⟨json,rfl⟩,fun renamed _ => ?_⟩
    cases renamed with
    | error message =>
      apply unlocking_error
      · nofun
      · nofun
      · exact htouched
    | ok _ =>
      refine ⟨⟨json,rfl,hvalid⟩,fun _ _ => ?_⟩
      apply unlocking_ok
      · nofun
      · nofun
      · rfl

section
variable {stage : Stage Json} (hplace : stage.place = .outside) (htouched : stage.touched = false)
include hplace htouched

theorem fetchAndApply_follows (reason : String) :
    (protocol view).Follows Finished stage (fetchAndApply view reason) := by
  refine ⟨hplace,fun response hpossible => ?_⟩
  cases response with
  | error message => exact ⟨hplace,htouched⟩
  | ok json =>
    dsimp only [Process.bind]
    cases hvalid : validateSnapshot view json with
    | error message => exact ⟨hplace,htouched⟩
    | ok accepted =>
      have hpositive : 0 < accepted.1 := hpossible json accepted.1 accepted.2 rfl hvalid
      refine ⟨hplace,fun _ _ => ⟨rfl,fun sync _ => ?_⟩⟩
      dsimp only [Process.bind]
      cases hcurrent : upToDate sync accepted.1 accepted.2 with
      | true =>
        have hdefault := ne_default_of_upToDate hcurrent
        apply unlocking_ok
        · nofun
        · nofun
        · simp [protocol,Stage.next,hdefault]
      | false =>
        apply activate_follows
        · rfl
        · exact htouched
        · exact hvalid
        · exact newer_of_not_upToDate hvalid hpositive hcurrent

def Answered (stage : Stage Json) : CallResult → Prop
  | none => stage.place = .outside ∧ stage.touched = false
  | some outcome => Finished stage outcome

theorem currentRevision_follows :
    (protocol view).Follows (fun stage _ => stage.place = .outside ∧ stage.touched = false) stage
      currentRevision := by
  refine ⟨hplace,fun _ _ => ⟨rfl,fun sync _ => ⟨?_,fun _ _ => ⟨rfl,htouched⟩⟩⟩⟩
  exact ⟨nofun,nofun⟩

theorem fetched_follows (reason : String) : (protocol view).Follows Answered stage (do
      let outcome ← fetchAndApply view reason
      return some outcome) := by
  rw [Protocol.follows_bind]
  exact (fetchAndApply_follows hplace htouched reason).mono fun _ _ hfinished => hfinished

end

theorem handle_follows (call : Call) : (protocol view).Follows Answered .idle (handle view call) := by
  have hrevision : (protocol view).Follows
      (fun stage _ => stage.place = .outside ∧ stage.touched = false) .idle currentRevision :=
    currentRevision_follows rfl rfl
  cases call with
  | initialSnapshot => exact fetched_follows rfl rfl "initial-snapshot"
  | configStale => exact fetched_follows rfl rfl "sse-stale"
  | connect => exact Protocol.follows_bind.mpr (hrevision.mono fun _ _ houtside => houtside)
  | reconcile =>
    refine Protocol.follows_bind.mpr (hrevision.mono fun stage current houtside => ?_)
    refine ⟨houtside.1,fun reply _ => ?_⟩
    dsimp only [Process.bind]
    cases reply with
    | notModified | failed | badBody => exact houtside
    | revision revision =>
      dsimp only
      by_cases hdiffers : revision ≠ current
      · rw [if_pos hdiffers]
        exact fetched_follows houtside.1 houtside.2 "reconcile"
      · rw [if_neg hdiffers]
        exact houtside
  | configChanged revision =>
    refine Protocol.follows_bind.mpr (hrevision.mono fun stage current houtside => ?_)
    cases decideRevision current revision with
    | ignore => exact houtside
    | fetch => exact fetched_follows houtside.1 houtside.2 "sse-event"

end Follows

/-! ## One holder of the lock -/

/-- No file yet, or a body that passed `validateSnapshot`. -/
def ValidFile (view : JsonView Json) : Contents Json → Prop
  | .absent => True
  | .torn => False
  | .whole json => ∃ accepted, validateSnapshot view json = .ok accepted

def ActiveFile (view : JsonView Json) (world : AgentWorld Json) : Prop := ∃ json, world.target = .whole json ∧
    validateSnapshot view json = .ok (world.sync.currentRevision,world.sync.lastVersion)

section
variable (view : JsonView Json) (found : Contents Json) (world : AgentWorld Json)

def Settled : Prop := world.sync = syncDefault ∧ world.target = found ∨ ActiveFile view world

def SectionInv : Section Json → Prop
  | .outside => world.locked = false ∧ Settled view found world
  | .entered => world.locked = true ∧ Settled view found world
  | .read sync => world.locked = true ∧ Settled view found world ∧ sync = world.sync
  | .written json => world.locked = true ∧ Settled view found world ∧
      world.temp = .whole json ∧ Newer view world.sync json
  | .renamed json => world.locked = true ∧ world.target = .whole json ∧ Newer view world.sync json
  | .leaving => world.locked = true ∧ Settled view found world

structure AgentInv (stages : Index → Stage Json) : Prop where
  valid : ValidFile view world.target
  active : ∀ index, (stages index).active = true → world.sync ≠ syncDefault
  -- if there are calls: the only one that may be inside; any will do when the lock is free
  holder : Index → ∃ index, (∀ other, other ≠ index → (stages other).place = .outside) ∧
    SectionInv view found world (stages index).place

end

section Steps
variable {view : JsonView Json} {found : Contents Json} {world : AgentWorld Json} {stage : Stage Json}
  {command : Command Json} {place : Section Json}

theorem SectionInv.settled (hplace : SectionInv view found world place)
    (hrenamed : ∀ json, place ≠ .renamed json) : Settled view found world := by
  cases place with
  | outside | entered | leaving => exact hplace.2
  | read sync | written json => exact hplace.2.1
  | renamed json => exact absurd rfl (hrenamed json)

theorem SectionInv.eq_outside (hplace : SectionInv view found world place)
    (hfree : world.locked = false) : place = .outside := by
  cases place with
  | outside => rfl
  | entered | leaving | read _ | written _ | renamed _ =>
    rw [hplace.1] at hfree
    contradiction

variable (input : Input view)

theorem sectionInv_exec (hallowed : stage.Allowed view command)
    (hplace : SectionInv view found world stage.place) :
    SectionInv view found (exec input world command).2
      (stage.next command (exec input world command).1).place := by
  cases command with
  | getConfig | getVersion => exact hplace
  | lock =>
    rw [show stage.place = .outside from hallowed] at hplace
    exact ⟨rfl,hplace.2⟩
  | unlock => exact ⟨rfl,hplace.settled hallowed.2⟩
  | readSync =>
    rw [show stage.place = .entered from hallowed] at hplace
    exact ⟨hplace.1,hplace.2,rfl⟩
  | writeTemp json =>
    obtain ⟨sync,hread,hnewer⟩ := hallowed
    rw [hread] at hplace
    obtain ⟨hlocked,hsettled,rfl⟩ := hplace
    unfold exec
    cases input.writeTemp with
    | error message => exact ⟨hlocked,hsettled⟩
    | ok _ => exact ⟨hlocked,hsettled,rfl,hnewer⟩
  | rename =>
    obtain ⟨json,hwritten⟩ := hallowed
    rw [hwritten] at hplace
    obtain ⟨hlocked,hsettled,htemp,hnewer⟩ := hplace
    unfold exec
    cases input.rename with
    | error message => exact ⟨hlocked,hsettled⟩
    | ok _ =>
      simp only [Stage.next,hwritten]
      exact ⟨hlocked,htemp,hnewer⟩
  | writeSync sync =>
    obtain ⟨json,hrenamed,hvalid⟩ := hallowed
    rw [hrenamed] at hplace
    exact ⟨hplace.1,.inr ⟨json,hplace.2.1,hvalid⟩⟩

section
variable (world : AgentWorld Json) (command : Command Json)

theorem target_exec :
    (exec input world command).2.target = world.target ∨ command = .rename ∧ input.rename = .ok () ∧
        (exec input world command).2.target = world.temp := by
  cases command with
  | getConfig | getVersion | lock | unlock | readSync | writeSync _ => exact .inl rfl
  | writeTemp json =>
    unfold exec
    cases input.writeTemp with
    | error message | ok _ => exact .inl rfl
  | rename =>
    unfold exec
    cases hrename : input.rename with
    | error message => exact .inl rfl
    | ok _ => exact .inr ⟨rfl,rfl,rfl⟩

theorem sync_exec : (exec input world command).2.sync = world.sync ∨
      command = .writeSync (exec input world command).2.sync := by
  cases command with
  | getConfig | getVersion | lock | unlock | readSync => exact .inl rfl
  | writeSync sync => exact .inr rfl
  | writeTemp json =>
    unfold exec
    cases input.writeTemp with
    | error message | ok _ => exact .inl rfl
  | rename =>
    unfold exec
    cases input.rename with
    | error message | ok _ => exact .inl rfl

end

theorem validFile_exec (hallowed : stage.Allowed view command)
    (hplace : SectionInv view found world stage.place) (hfile : ValidFile view world.target) :
    ValidFile view (exec input world command).2.target := by
  rcases target_exec input world command with hkept | ⟨rfl,_,hreplaced⟩
  · rw [hkept]
    exact hfile
  · obtain ⟨json,hwritten⟩ := hallowed
    rw [hwritten] at hplace
    obtain ⟨_,_,htemp,revision,version,hvalid,_⟩ := hplace
    rw [hreplaced,htemp]
    exact ⟨(revision,version),hvalid⟩

theorem writeSync_greater {sync : SyncState} (hallowed : stage.Allowed view (.writeSync sync))
    (hplace : SectionInv view found world stage.place) :
    world.sync.currentRevision < sync.currentRevision := by
  obtain ⟨json,hrenamed,hvalid⟩ := hallowed
  rw [hrenamed] at hplace
  obtain ⟨_,_,revision,version,haccepted,hgreater⟩ := hplace
  rw [hvalid] at haccepted
  obtain ⟨rfl,_⟩ := Prod.mk.inj (Except.ok.inj haccepted)
  exact hgreater

theorem revision_exec_le (hallowed : stage.Allowed view command)
    (hplace : SectionInv view found world stage.place) :
    world.sync.currentRevision ≤ (exec input world command).2.sync.currentRevision := by
  rcases sync_exec input world command with hkept | hwrites
  · exact Nat.le_of_eq (congrArg SyncState.currentRevision hkept.symm)
  · rw [hwrites] at hallowed
    exact Nat.le_of_lt (writeSync_greater hallowed hplace)

theorem ne_default_of_greater {sync : SyncState} {lower : Nat}
    (hgreater : lower < sync.currentRevision) : sync ≠ syncDefault := by
  rintro rfl
  exact Nat.not_lt_zero lower hgreater

section
variable (hallowed : stage.Allowed view command) (hplace : SectionInv view found world stage.place)
include hallowed hplace

theorem ne_default_exec (hdefault : world.sync ≠ syncDefault) :
    (exec input world command).2.sync ≠ syncDefault := by
  rcases sync_exec input world command with hkept | hwrites
  · rw [hkept]
    exact hdefault
  · rw [hwrites] at hallowed
    exact ne_default_of_greater (writeSync_greater hallowed hplace)

theorem active_exec (hactive : stage.active = true → world.sync ≠ syncDefault)
    (hnext : (stage.next command (exec input world command).1).active = true) :
    (exec input world command).2.sync ≠ syncDefault := by
  have hbefore := fun hwas => ne_default_exec input hallowed hplace (hactive hwas)
  cases command with
  | getConfig | getVersion | lock | unlock => exact hbefore hnext
  | readSync =>
    rcases Bool.or_eq_true_iff.mp hnext with hwas | hread
    · exact hbefore hwas
    · exact of_decide_eq_true hread
  | writeSync sync => exact ne_default_of_greater (writeSync_greater hallowed hplace)
  | writeTemp json =>
    cases hanswer : (exec input world (.writeTemp json)).1 with
    | error message | ok _ =>
      rw [hanswer] at hnext
      exact hbefore hnext
  | rename =>
    cases hanswer : (exec input world .rename).1 with
    | error message | ok _ =>
      rw [hanswer] at hnext
      exact hbefore hnext

end

theorem touched_next (answer : Answer command) (htouched : stage.touched = true) :
    (stage.next command answer).touched = true := by
  cases command with
  | getConfig | getVersion | lock | unlock | readSync => exact htouched
  | writeSync sync => rfl
  | writeTemp json =>
    cases answer with
    | error message | ok _ => exact htouched
  | rename =>
    cases answer with
    | error message => exact htouched
    | ok _ => rfl

theorem unchanged_of_untouched {input : Input view}
    (huntouched : (stage.next command (exec input world command).1).touched = false) :
    (exec input world command).2.target = world.target ∧ (exec input world command).2.sync = world.sync := by
  constructor
  · rcases target_exec input world command with hkept | ⟨rfl,hrename,_⟩
    · exact hkept
    · simp only [exec,hrename] at huntouched
      contradiction
  · rcases sync_exec input world command with hkept | hwrites
    · exact hkept
    · rw [hwrites] at huntouched
      contradiction

theorem command_of_released {answer : Answer command}
    (hreleased : (stage.next command answer).released = true) : command = .unlock := by
  cases command with
  | unlock => rfl
  | getConfig | getVersion | lock | readSync | writeSync _ => contradiction
  | writeTemp _ | rename =>
    cases answer with
    | error _ | ok _ => contradiction

variable {stages : Index → Stage Json}

theorem AgentInv.settled (hinv : AgentInv view found world stages) (index : Index)
    (hfree : world.locked = false) : Settled view found world := by
  obtain ⟨holder,_,hplace⟩ := hinv.holder index
  rw [hplace.eq_outside hfree] at hplace
  exact hplace.2

theorem AgentInv.holder_moves {index : Index} (hinv : AgentInv view found world stages)
    (hready : ready world command = true) (hallowed : (stages index).Allowed view command) :
    (command = .getConfig ∨ command = .getVersion) ∨
      (∀ other, other ≠ index → (stages other).place = .outside) ∧
        SectionInv view found world (stages index).place := by
  obtain ⟨holder,hothers,hplace⟩ := hinv.holder index
  by_cases hholder : index = holder
  · subst hholder
    exact .inr ⟨hothers,hplace⟩
  have houtside := hothers index hholder
  cases command with
  | getConfig => exact .inl (.inl rfl)
  | getVersion => exact .inl (.inr rfl)
  | lock =>
    have hfree : world.locked = false := by simpa [ready] using hready
    have hholderOutside := hplace.eq_outside hfree
    refine .inr ⟨fun other _ => ?_,?_⟩
    · by_cases hother : other = holder
      · rw [hother]
        exact hholderOutside
      · exact hothers other hother
    · rw [houtside,← hholderOutside]
      exact hplace
  | unlock => exact absurd houtside hallowed.1
  | readSync =>
    rw [show (stages index).place = .entered from hallowed] at houtside
    contradiction
  | writeTemp json | writeSync sync =>
    rw [hallowed.choose_spec.1] at houtside
    contradiction
  | rename =>
    rw [hallowed.choose_spec] at houtside
    contradiction

theorem agentInv_exec [DecidableEq Index] {index : Index} (hready : ready world command = true)
    (hallowed : (stages index).Allowed view command) (hinv : AgentInv view found world stages) :
    AgentInv view found (exec input world command).2
      (Function.update stages index ((stages index).next command (exec input world command).1)) := by
  rcases hinv.holder_moves hready hallowed with hasks | ⟨hothers,hplace⟩
  · -- nothing moves but the flag that says what the last command was
    obtain ⟨holder,hothers,hplace⟩ := hinv.holder index
    have hworld : (exec input world command).2 = world := by
      rcases hasks with rfl | rfl
      · rfl
      · rfl
    have hstage : ((stages index).next command (exec input world command).1).place = (stages index).place ∧
        ((stages index).next command (exec input world command).1).active = (stages index).active := by
      rcases hasks with rfl | rfl
      · exact ⟨rfl,rfl⟩
      · exact ⟨rfl,rfl⟩
    have hplaces : ∀ other, (Function.update stages index
        ((stages index).next command (exec input world command).1) other).place = (stages other).place := by
      intro other
      by_cases hother : other = index
      · rw [hother,update_self,hstage.1]
      · rw [update_of_ne hother]
    rw [hworld]
    refine ⟨hinv.valid,fun other hactive => ?_,fun _ => ⟨holder,fun other hother => ?_,?_⟩⟩
    · by_cases hother : other = index
      · rw [hother,update_self,hstage.2] at hactive
        exact hinv.active index hactive
      · rw [update_of_ne hother] at hactive
        exact hinv.active other hactive
    · rw [hplaces]
      exact hothers other hother
    · rw [hplaces]
      exact hplace
  · refine ⟨validFile_exec input hallowed hplace hinv.valid,fun other hactive => ?_,
      fun _ => ⟨index,fun other hother => ?_,?_⟩⟩
    · by_cases hother : other = index
      · rw [hother,update_self] at hactive
        exact active_exec input hallowed hplace (hinv.active index) hactive
      · rw [update_of_ne hother] at hactive
        exact ne_default_exec input hallowed hplace (hinv.active other hactive)
    · rw [update_of_ne hother]
      exact hothers other hother
    · rw [update_self]
      exact sectionInv_exec input hallowed hplace

end Steps

/-! ## Every interleaving -/

abbrev AgentSystem (Index Json : Type) := System Index (Command Json) Answer (AgentWorld Json) CallResult

section
variable (view : JsonView Json) (world : AgentWorld Json)

def agents (calls : Index → Call) :
    AgentSystem Index Json := .start world fun index => handle view (calls index)

/-- A process that has just started: nobody holds the lock, nothing is
activated, and the file is the one an earlier process left behind, if any. -/
structure Started : Prop where
  unlocked : world.locked = false
  fresh : world.sync = syncDefault
  valid : ValidFile view world.target

end

section Runs
variable [DecidableEq Index] {view : JsonView Json} {found : Contents Json}
  {system : AgentSystem Index Json}

abbrev AgentHolds (view : JsonView Json) (found : Contents Json) (system : AgentSystem Index Json) : Prop :=
  (protocol view).Holds (fun _ => .idle) (fun _ => Answered)
    (fun world _ stages => AgentInv view found world stages) system

variable {world : AgentWorld Json}

theorem agentHolds_start (hstarted : Started view world)
    (calls : Index → Call) : AgentHolds view world.target (agents view world calls) := by
  refine .start ⟨hstarted.valid,?_,fun index => ⟨index,fun _ _ => rfl,?_⟩⟩
    fun index => handle_follows (calls index)
  · intro index hactive
    contradiction
  · exact ⟨hstarted.unlocked,.inl ⟨hstarted.fresh,rfl⟩⟩

theorem agent_preserves : Protocol.Preserves (protocol view) (machine view)
    (fun _ => .idle) (fun (_ : AgentSystem Index Json) _ => True)
    (fun world _ stages => AgentInv view found world stages) := by
  intro system index input command _ hready _ hallowed hinv
  exact agentInv_exec input hready hallowed hinv

theorem agentHolds_step (hholds : AgentHolds view found system) (event : Index × Input view) :
    AgentHolds view found (system.step (machine view) event) :=
  .step (machine_serves view) agent_preserves trivial hholds

theorem agentHolds_run (hstarted : Started view world) (calls : Index → Call)
    (events : List (Index × Input view)) :
    AgentHolds view world.target (run (.step (machine view)) (agents view world calls) events) := by
  have hstep : ∀ (system : AgentSystem Index Json) (event : Index × Input view),
      AgentHolds view world.target system →
      AgentHolds view world.target (system.step (machine view) event) :=
    fun _ event hholds => agentHolds_step hholds event
  exact invariant_run_always hstep events (agentHolds_start hstarted calls)

theorem revision_step_le (hholds : AgentHolds view found system) (event : Index × Input view) :
    system.world.sync.currentRevision ≤ (system.step (machine view) event).world.sync.currentRevision := by
  rcases system.step_cases (machine view) event with hstep | ⟨command,next,hprocess,hready,hstep⟩
  · exact Nat.le_of_eq (congrArg (·.world.sync.currentRevision) hstep.symm)
  · have hpending : (system.processes event.1).pending = some command := by
      rw [hprocess,Process.pending_call]
    have hallowed := hholds.follows.allowed hpending
    rw [hstep]
    rcases hholds.inv.holder_moves hready hallowed with (rfl | rfl) | ⟨_,hplace⟩
    · exact Nat.le_refl _
    · exact Nat.le_refl _
    · exact revision_exec_le event.2 hallowed hplace

variable {index : Index}

/-- The step that makes a fetch succeed leaves the lock free and the file at
the remembered revision. -/
theorem activeFile_of_completed (hholds : AgentHolds view found system) {event : Index × Input view}
    {applied : Option (Nat × String)} (hrunning : (system.processes index).result = none)
    (hok : ((system.step (machine view) event).processes index).result = some (some (.ok applied))) :
    ActiveFile view (system.step (machine view) event).world := by
  have hnext := agentHolds_step hholds event
  obtain ⟨_,hactive,hreleased⟩ := hnext.settled hok
  rcases system.step_cases (machine view) event with hstep | ⟨command,next,hprocess,_,hstep⟩
  · rw [hstep,hrunning] at hok
    contradiction
  · rw [hstep] at hok hreleased hactive hnext ⊢
    by_cases hindex : index = event.1
    · subst hindex
      rw [Protocol.stages_perform,update_self] at hreleased
      obtain rfl := command_of_released hreleased
      rcases hnext.inv.settled event.1 rfl with hinitial | hfile
      · exact absurd hinitial.1 (hnext.inv.active event.1 hactive)
      · exact hfile
    · simp only [System.perform,update_of_ne hindex] at hok
      rw [hrunning] at hok
      contradiction

theorem touched_step (event : Index × Input view)
    (htouched : ((protocol view).stages (fun _ => Stage.idle) system index).touched = true) :
    ((protocol view).stages (fun _ => Stage.idle) (system.step (machine view) event) index).touched =
      true := by
  rcases system.step_cases (machine view) event with hstep | ⟨command,next,_,_,hstep⟩
  · rw [hstep]
    exact htouched
  · rw [hstep,Protocol.stages_perform]
    by_cases hindex : index = event.1
    · subst hindex
      rw [update_self]
      exact touched_next _ htouched
    · rw [update_of_ne hindex]
      exact htouched

/-- A step of a call that never comes to touch anything changes neither the
file nor the sync state. -/
theorem unchanged_step {input : Input view}
    (huntouched : ((protocol view).stages (fun _ => Stage.idle)
      (system.step (machine view) (index,input)) index).touched = false) :
    (system.step (machine view) (index,input)).world.target = system.world.target ∧
      (system.step (machine view) (index,input)).world.sync = system.world.sync := by
  rcases system.step_cases (machine view) (index,input) with hstep | ⟨command,next,_,_,hstep⟩
  · rw [hstep]
    exact ⟨rfl,rfl⟩
  · rw [hstep,Protocol.stages_perform,update_self] at huntouched
    rw [hstep]
    exact unchanged_of_untouched huntouched

theorem unchanged_of_failed {calls : Index → Call}
    {before after : List (Index × Input view)} {input : Input view} {message : String}
    (hstarted : Started view world)
    (hfailed : ((run (.step (machine view)) (agents view world calls)
      (before ++ (index,input) :: after)).processes index).result = some (some (.error message))) :
    let earlier := run (.step (machine view)) (agents view world calls) before
    (earlier.step (machine view) (index,input)).world.target = earlier.world.target ∧
      (earlier.step (machine view) (index,input)).world.sync = earlier.world.sync := by
  have hend := (agentHolds_run hstarted calls (before ++ (index,input) :: after)).settled hfailed
  apply unchanged_step
  by_contra htouched
  rw [Bool.not_eq_false] at htouched
  rw [run_append,run_cons] at hend
  have hkept : ∀ (system : AgentSystem Index Json) (event : Index × Input view),
      ((protocol view).stages (fun _ => .idle) system index).touched = true →
      ((protocol view).stages (fun _ => .idle) (system.step (machine view) event) index).touched =
        true := fun _ event => touched_step event
  have hfinal := invariant_run_always hkept after htouched
  rw [hend.2] at hfinal
  contradiction

/-- Activation is monotone and atomic, for any number of calls of the two
threads in any order and whatever the control plane and the disk answer. -/
theorem activation_monotone_atomic {world : AgentWorld Json} (hstarted : Started view world)
    (calls : Index → Call) (events : List (Index × Input view)) :
    let final := run (.step (machine view)) (agents view world calls) events
    ValidFile view final.world.target ∧ (final.world.locked = false → Settled view world.target final.world) ∧
      (∀ event, final.world.sync.currentRevision ≤
        (final.step (machine view) event).world.sync.currentRevision) ∧
      (∀ event index applied, (final.processes index).result = none →
        ((final.step (machine view) event).processes index).result = some (some (.ok applied)) →
        ActiveFile view (final.step (machine view) event).world) ∧
      ∀ index message, (final.processes index).result = some (some (.error message)) →
        ∀ before input after, events = before ++ (index,input) :: after →
          let earlier := run (.step (machine view)) (agents view world calls) before
          (earlier.step (machine view) (index,input)).world.target = earlier.world.target ∧
            (earlier.step (machine view) (index,input)).world.sync = earlier.world.sync := by
  intro final
  have hholds := agentHolds_run hstarted calls events
  refine ⟨hholds.inv.valid,fun hfree => ?_,revision_step_le hholds,
    fun event index applied => activeFile_of_completed hholds,?_⟩
  · cases events with
    | nil => exact .inl ⟨hstarted.fresh,rfl⟩
    | cons event _ => exact hholds.inv.settled event.1 hfree
  · intro index message hfailed before input after hsplit
    subst hsplit
    exact unchanged_of_failed hstarted hfailed

end Runs

/-! ## A run of both threads -/

def sampleView : JsonView Nat where
  version _ := some "v1"
  routes _ := some 1
  services _ := some 1
  revision json := some (json + 1)

def sampleInput (config : Except String Nat) (writeTemp : Except String Unit) : Input sampleView where
  config := config
  version := .revision 6
  writeTemp := writeTemp
  rename := .ok ()
  positive := by
    intro json revision version _ hvalid
    rw [validateSnapshot_revision hvalid]
    exact Nat.succ_pos json

def sampleWorld : AgentWorld Nat := ⟨syncDefault,false,.absent,.absent⟩

def sampleCalls : Fin 3 → Call
  | 0 => .initialSnapshot
  | 1 => .configStale
  | 2 => .reconcile

/-- The stream thread receives an older body first and finds a newer one
active; a tick of the reconcile thread then cannot write its file. -/
def sampleEvents : List (Fin 3 × Input sampleView) := [(1,sampleInput (.ok 1) (.ok ()))] ++
    List.replicate 3 (0,sampleInput (.ok 2) (.ok ())) ++
    [(1,sampleInput (.ok 1) (.ok ()))] ++
    List.replicate 4 (0,sampleInput (.ok 2) (.ok ())) ++
    List.replicate 3 (1,sampleInput (.ok 1) (.ok ())) ++
    List.replicate 9 (2,sampleInput (.ok 5) (.error "disk full"))

theorem sampleWorld_started : Started sampleView sampleWorld := ⟨rfl,rfl,trivial⟩

theorem activation_sampleRun :
    let final := run (.step (machine sampleView)) (agents sampleView sampleWorld sampleCalls)
      sampleEvents
    (final.world.target = .whole 2 ∧ final.world.sync = ⟨3,"v1"⟩ ∧
      (final.processes 1).result = some (some (.ok none)) ∧
      (final.processes 2).result = some (some (.error "disk full"))) ∧
    ValidFile sampleView final.world.target ∧ Settled sampleView .absent final.world := by
  have hreached := activation_monotone_atomic sampleWorld_started sampleCalls sampleEvents
  refine ⟨by decide +kernel,hreached.1,hreached.2.1 (by decide +kernel)⟩

end Routiq.ControlPlane.AgentThreads
