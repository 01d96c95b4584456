import Routiq.Core.MirroredCounter
import Routiq.Uam.AccountStages

/-! The published floor of the token version. Logins and refreshes publish the
version they have read, an invalidation saves the next version and then
publishes it, and a reset publishes it and then saves it. Over one account this
is a mirrored counter, and what every interleaving keeps is proved there. -/
namespace Routiq.Uam.VersionFloor
open Core Function Runs KeyedTable Redis Processes Actions MirroredCounter Users Option Bool Commands
  OneTimeCodes AccountRequests AccountStages
open Edge.Revocation (tvKeyPrefix)
open Session (SessionEnv TokenPair changed_persistUpdate changed_rotateUpdate sampleToken
  sampleDigest)

/-! ## The column -/

def columnOf (users : UserTable) (userId : String) : Int :=
  versionOf ((users.lookup userId).map fun row => row.columns .tokenVersion)

variable {users : UserTable} {userId : String} {row : Row}

theorem columnOf_of_lookup (hrow : users.lookup userId = some row) :
    columnOf users userId = versionOf (some (row.columns .tokenVersion)) := by
  simp [columnOf,hrow]

theorem documentVersion_load {fields : List Field} (hfields : .tokenVersion ∈ fields) (hrow : users.lookup userId = some row) :
    documentVersion (Document.load fields row) = columnOf users userId := by
  rw [columnOf_of_lookup hrow]
  simp [documentVersion,Document.load,hfields]

variable {version : Int} {id : String} {update : UpdateDoc}

section Statements
variable {hashPassword : String → String} {nowMs : Nat} {users next : UserTable} {userId : String}
  {document saved : Document}

section
variable (hsave : document.save hashPassword nowMs users = .ok (next,saved))
include hsave

theorem isSome_save : (next.lookup userId).isSome = (users.lookup userId).isSome := by
  rw [lookup_save hsave]
  split
  next hid => rw [hid,isSome_map]
  · rfl

theorem columnOf_save_of_unmodified (hunmodified : document.modified .tokenVersion = false) :
    columnOf next userId = columnOf users userId := by
  unfold columnOf
  rw [lookup_save hsave]
  split
  next hid =>
    have hkept : document.assignments hashPassword nowMs .tokenVersion = none := by
      simp [Document.assignments,Document.writeField,hunmodified,jsonbFields]
    rw [hid,map_map]
    congr 2
    funext row
    simp [Row.assign,hkept]
  · rfl

theorem columnOf_save (hmodified : document.modified .tokenVersion = true)
    (hversion : document.values .tokenVersion = some (.int version))
    (hpresent : (users.lookup document.id.val).isSome = true) : columnOf next document.id.val = version := by
  obtain ⟨row,hrow⟩ := isSome_iff_exists.mp hpresent
  have hassigned : document.assignments hashPassword nowMs .tokenVersion = some (.int version) := by
    simp [Document.assignments,Document.writeField,hmodified,hversion,storedValue,columnValue,
      jsonbFields]
  unfold columnOf
  rw [lookup_save hsave,if_pos rfl,hrow]
  simp [Row.assign,hassigned,versionOf]

end

theorem applyUpdate_version
    (hchanged : ∀ field ∈ update.changed, field = .refreshTokens ∨ field = .activeAccessJtis) :
    ∃ next document, applyUpdate nowMs users id update = .ok (next,document) ∧
      columnOf next userId = columnOf users userId ∧
      (next.lookup userId).isSome = (users.lookup userId).isSome := by
  have hquiet : ∀ field ∈ update.changed, field ≠ .email ∧ field ≠ .provider ∧ field ≠ .providerId := by
    intro field hfield
    rcases hchanged field hfield with rfl | rfl <;> decide
  have hkept : Field.tokenVersion ∉ update.changed := by
    intro hmem
    rcases hchanged _ hmem with hfield | hfield <;> cases hfield
  obtain ⟨next,hok,hlookup⟩ := applyUpdate_of_quiet nowMs users id hquiet
  refine ⟨next,_,hok,?_,?_⟩
  · unfold columnOf
    rw [hlookup]
    split
    next hid =>
      rw [hid,map_map]
      congr 2
      funext row
      simp [Row.assign,UpdateDoc.assignments,hkept]
    · rfl
  · rw [hlookup]
    split
    next hid => rw [hid,isSome_map]
    · rfl

end Statements

/-! ## The mirror of an account -/

def floorKey (userId : String) : String := tvKeyPrefix ++ userId

variable {first second : String}

theorem append_ne_append (head : Char) {other : Char} (hfirst : first.toList.head? = some head)
    (hsecond : second.toList.head? = some other) (hne : head ≠ other)
    (rest last : String) : first ++ rest ≠ second ++ last := by
  intro heq
  have hhead := congrArg (fun key => key.toList.head?) heq
  simp only [String.toList_append,List.head?_append,hfirst,hsecond,some_or,some.injEq] at hhead
  exact hne hhead

theorem head_tvKeyPrefix : tvKeyPrefix.toList.head? = some 'g' := by decide +kernel

theorem formKey_ne_floorKey (formToken userId : String) : formKey formToken ≠ floorKey userId :=
  append_ne_append 'u' (by decide +kernel) head_tvKeyPrefix (by decide) formToken userId

def floorEntry (version : Int) : StringEntry := ⟨toString version,none⟩

def written {Index : Type} (system : AccountSystem Index) (userId : String) : List String :=
  system.log.filterMap fun entry =>
    match entry.2.1 with
    | .cacheSet key value _ => if key = floorKey userId then some value else none
    | _ => none

def phaseOf (userId : String) (stage : VersionStage) : Phase :=
  match stage.phase with
  | .read id version => if id = userId then .read version else .idle
  | .raised id version => if id = userId then .raised stage.publishesFirst version else .idle
  | .unread | .published => .idle

def writes (userId : String) : Command → List String
  | .cacheSet key value _ => if key = floorKey userId then [value] else []
  | _ => []

structure Healthy (input : Input) : Prop where
  redisAvailable : input.redisAvailable = true
  redis : input.redis = .replied
  database : input.database = .answered

structure Keeps (env : AccountEnv) (userId : String) (world : World) (input : Input) (command : Command) :
    Prop where
  present : ((exec env.session.hashPassword input world command).2.users.lookup userId).isSome =
    (world.users.lookup userId).isSome
  column : columnOf (exec env.session.hashPassword input world command).2.users userId =
    columnOf world.users userId
  floor : (exec env.session.hashPassword input world command).2.redis.strings (floorKey userId) =
    world.redis.strings (floorKey userId)
  writes : writes userId command = []

section Keeps
variable {env : AccountEnv} {userId : String} {world : World} {input : Input} {statement : Statement}

theorem keeps_save (hhealthy : Healthy input) {document saved : Document}
    (hsave : document.save env.session.hashPassword input.nowMs world.users = .ok (users,saved))
    (hcolumn : columnOf users userId = columnOf world.users userId) :
    Keeps env userId world input (.sql (.save document)) := by
  have hexec := exec_save_ok hhealthy.database hsave
  refine ⟨?_,?_,?_,rfl⟩
  · rw [hexec]
    exact isSome_save hsave
  · rw [hexec]
    exact hcolumn
  · rw [hexec]

theorem keeps_sql (hhealthy : Healthy input)
    (husers : (execStatement env.session.hashPassword input.nowMs world statement).2.users = users)
    (hpresent : (users.lookup userId).isSome = (world.users.lookup userId).isSome)
    (hcolumn : columnOf users userId = columnOf world.users userId) :
    Keeps env userId world input (.sql statement) := by
  refine ⟨?_,?_,?_,rfl⟩
  · rw [exec_of_answered hhealthy.database,husers]
    exact hpresent
  · rw [exec_of_answered hhealthy.database,husers]
    exact hcolumn
  · rw [exec_of_answered hhealthy.database,redis_execStatement]

theorem keeps_of_sameUsers (hhealthy : Healthy input)
    (husers : (execStatement env.session.hashPassword input.nowMs world statement).2.users = world.users) :
    Keeps env userId world input (.sql statement) := keeps_sql hhealthy husers rfl rfl

end Keeps

variable {statement : Statement}

theorem phaseOf_index (stage : VersionStage) (hok : ∀ value, stage.next (.sql statement) (.ok value) = stage)
    (herror : ∀ error, stage.next (.sql statement) (.error error) = { stage with failed := true })
    (answer : Result (.sql statement)) :
    phaseOf userId (stage.next (.sql statement) answer) = phaseOf userId stage := by
  cases answer with
  | ok value => rw [hok]
  | error error =>
    rw [herror]
    rfl

section Systems
variable {Index : Type} [DecidableEq Index] {env : AccountEnv} {requests : Index → AccountRequest}
  {arrivals : Index → Nat}

section
variable (userId : String) (system : AccountSystem Index)

variable (env requests arrivals) in
structure Mirrors (mirror : Mirror Index) : Prop where
  present : (system.world.users.lookup userId).isSome = true
  column : mirror.column = columnOf system.world.users userId
  floor : system.world.redis.strings (floorKey userId) = mirror.floor.map floorEntry
  published : written system userId = mirror.published.map toString
  phase : ∀ index, mirror.phase index =
    if (system.processes index).pending.isSome then
      phaseOf userId (stagesOf env requests arrivals system index).version
    else (phaseOf userId (stagesOf env requests arrivals system index).version).left
  sound : ∀ index floorFirst value, mirror.phase index = .raised floorFirst value →
    (stagesOf env requests arrivals system index).version.failed = false

variable (env requests arrivals) in
def Tracked : Prop :=
  ∃ mirror, Mirrors env requests arrivals userId system mirror ∧ Consistent mirror

end

section Step
variable {userId : String} {system : AccountSystem Index} {mirror next : Mirror Index} {index : Index}
  {input : Input} {command : Command}
  {rest : Timed Result command → Process Command (Timed Result) (Except Failure Response × Nat)}

theorem written_perform :
    written (system.perform (machine env.session.hashPassword) input index command rest) userId =
      written system userId ++ writes userId command := by
  unfold written
  simp only [System.perform,List.filterMap_append,List.filterMap_cons,List.filterMap_nil]
  congr 1
  cases command with
  | cacheSet key value ttlSeconds =>
    by_cases hkey : key = floorKey userId
    · simp [writes,hkey]
    · simp [writes,hkey]
  | sql _ | cacheGet _ | cacheDel _ | memoryTake _ | memoryPut _ _ _ | revoke _ | sendEmail _ => rfl

theorem phase_of_pending (hmirrors : Mirrors env requests arrivals userId system mirror)
    (hpending : (system.processes index).pending = some command) :
    mirror.phase index = phaseOf userId (stagesOf env requests arrivals system index).version := by
  rw [hmirrors.phase,hpending]
  rfl

variable (env requests arrivals userId system mirror next index input command) in
structure Effect : Prop where
  present : ((exec env.session.hashPassword input system.world command).2.users.lookup
    userId).isSome = true
  column : next.column = columnOf (exec env.session.hashPassword input system.world command).2.users userId
  floor : (exec env.session.hashPassword input system.world command).2.redis.strings
    (floorKey userId) = next.floor.map floorEntry
  published : mirror.published.map toString ++ writes userId command = next.published.map toString
  phase : next.phase = Function.update mirror.phase index (phaseOf userId
    ((stagesOf env requests arrivals system index).version.next command
      (exec env.session.hashPassword input system.world command).1))
  sound : ∀ floorFirst value, next.phase index = .raised floorFirst value →
    ((stagesOf env requests arrivals system index).version.next command
      (exec env.session.hashPassword input system.world command).1).failed = false

variable (env requests arrivals userId system index input command) in
abbrev nextOf : VersionStage := (stagesOf env requests arrivals system index).version.next command
  (exec env.session.hashPassword input system.world command).1

variable (env requests arrivals userId system index input command) in
def TrackedAfter : Prop := ∀ rest, Tracked env requests arrivals userId
    (system.perform (machine env.session.hashPassword) input index command rest)

theorem Effect.self (heffect : Effect env requests arrivals userId system mirror next index input command) :
    next.phase index = phaseOf userId (nextOf env requests arrivals system index input command) := by
  rw [heffect.phase,update_self]

variable {phase : Phase} {floorFirst : Bool} {value : Int}

theorem raised_of_left (hleft : phase.left = .raised floorFirst value) :
    phase = .raised floorFirst value := by
  cases phase with
  | raised first raised => exact hleft
  | read read | idle => contradiction

theorem mirrors_perform (hmirrors : Mirrors env requests arrivals userId system mirror)
    (heffect : Effect env requests arrivals userId system mirror next index input command)
    (hphase : phase = if (rest ((exec env.session.hashPassword input system.world command).1,
      input.nowMs)).pending.isSome then next.phase index else (next.phase index).left) :
    Mirrors env requests arrivals userId
      (system.perform (machine env.session.hashPassword) input index command rest)
      (next.enter index phase) := by
  refine ⟨heffect.present,heffect.column,heffect.floor,?_,?_,?_⟩
  · rw [written_perform,hmirrors.published]
    exact heffect.published
  · intro other
    rw [stagesOf_perform]
    by_cases hother : other = index
    · subst hother
      simp only [Mirror.enter,System.perform,update_self]
      rw [hphase,heffect.self]
      rfl
    · simp only [Mirror.enter,System.perform,update_of_ne hother]
      rw [heffect.phase,update_of_ne hother]
      exact hmirrors.phase other
  · intro other floorFirst value hraised
    rw [stagesOf_perform]
    by_cases hother : other = index
    · subst hother
      simp only [Mirror.enter,update_self] at hraised ⊢
      refine heffect.sound floorFirst value ?_
      rw [hraised] at hphase
      split at hphase
      · exact hphase.symm
      · exact raised_of_left hphase.symm
    · simp only [Mirror.enter,update_of_ne hother] at hraised ⊢
      rw [heffect.phase,update_of_ne hother] at hraised
      exact hmirrors.sound other floorFirst value hraised

theorem Effect.tracked
    (heffect : Effect env requests arrivals userId system mirror next index input command)
    (hmirrors : Mirrors env requests arrivals userId system mirror) (hconsistent : Consistent next) :
    TrackedAfter env requests arrivals userId system index input command := by
  intro rest
  by_cases hgoes : (rest ((exec env.session.hashPassword input system.world command).1,
      input.nowMs)).pending.isSome = true
  · refine ⟨_,mirrors_perform hmirrors heffect (by rw [if_pos hgoes]),?_⟩
    rw [enter_self]
    exact hconsistent
  · exact ⟨_,mirrors_perform hmirrors heffect (by rw [if_neg hgoes]),consistent_left hconsistent index⟩

section
variable (hkeeps : Keeps env userId system.world input command)
  (hmirrors : Mirrors env requests arrivals userId system mirror)
include hkeeps hmirrors

theorem Keeps.effect
    (hphase : phaseOf userId (nextOf env requests arrivals system index input command) = phase)
    (hsound : ∀ floorFirst value, phase = .raised floorFirst value →
      (nextOf env requests arrivals system index input command).failed = false) :
    Effect env requests arrivals userId system mirror (mirror.enter index phase) index input command := by
  refine ⟨?_,?_,?_,?_,?_,?_⟩
  · rw [hkeeps.present]
    exact hmirrors.present
  · rw [hkeeps.column]
    exact hmirrors.column
  · rw [hkeeps.floor]
    exact hmirrors.floor
  · rw [hkeeps.writes,List.append_nil]
    rfl
  · rw [hphase]
    rfl
  · intro floorFirst value hraised
    simp only [Mirror.enter,update_self] at hraised
    exact hsound floorFirst value hraised

theorem tracked_quiet (hconsistent : Consistent mirror)
    (hpending : (system.processes index).pending = some command)
    (hphase : phaseOf userId (nextOf env requests arrivals system index input command) =
      phaseOf userId (stagesOf env requests arrivals system index).version)
    (hsound : ∀ floorFirst value, mirror.phase index = .raised floorFirst value →
      (nextOf env requests arrivals system index input command).failed = false) :
    TrackedAfter env requests arrivals userId system index input command := by
  rw [← phase_of_pending hmirrors hpending] at hphase
  refine (hkeeps.effect hmirrors hphase hsound).tracked hmirrors ?_
  rw [enter_self]
  exact hconsistent

theorem tracked_unmoved (hconsistent : Consistent mirror)
    (hpending : (system.processes index).pending = some command)
    (hnext : nextOf env requests arrivals system index input command =
      (stagesOf env requests arrivals system index).version) :
    TrackedAfter env requests arrivals userId system index input command := by
  refine tracked_quiet hkeeps hmirrors hconsistent hpending (by rw [hnext]) ?_
  intro floorFirst value hraised
  rw [hnext]
  exact hmirrors.sound index floorFirst value hraised

end

variable {other : Index}

section
variable (hmirrors : Mirrors env requests arrivals userId system mirror)
include hmirrors

theorem raised_of_phase (hraised : mirror.phase other = .raised floorFirst value) :
    (stagesOf env requests arrivals system other).version.phase = .raised userId value ∧
      (stagesOf env requests arrivals system other).version.publishesFirst = floorFirst := by
  have hphase : phaseOf userId (stagesOf env requests arrivals system other).version =
      .raised floorFirst value := by
    rw [hmirrors.phase] at hraised
    split at hraised
    · exact hraised
    · exact raised_of_left hraised
  unfold phaseOf at hphase
  split at hphase
  · split at hphase <;> contradiction
  next id version hstage =>
    split at hphase
    next hid =>
      cases hphase
      rw [hstage,hid]
      exact ⟨rfl,rfl⟩
    · contradiction
  · contradiction
  · contradiction

theorem not_raised_of_open
    (hopen : (stagesOf env requests arrivals system index).version.phase.Open) (floorFirst : Bool)
    (value : Int) : mirror.phase index ≠ .raised floorFirst value := by
  intro hraised
  rw [(raised_of_phase hmirrors hraised).1] at hopen
  exact hopen

end

theorem tracked_reading (hkeeps : Keeps env userId system.world input command)
    (hmirrors : Mirrors env requests arrivals userId system mirror) (hconsistent : Consistent mirror)
    (hopen : (stagesOf env requests arrivals system index).version.phase.Open)
    (hread : (nextOf env requests arrivals system index input command).phase = .read id version)
    (hcurrent : id = userId → version = columnOf system.world.users userId)
    (hwhole : id = userId → ∀ other, other ≠ index → ∀ value,
      (stagesOf env requests arrivals system other).version.phase ≠ .raised userId value) :
    TrackedAfter env requests arrivals userId system index input command := by
  by_cases hid : id = userId
  · have hphase : phaseOf userId (nextOf env requests arrivals system index input command) =
        .read mirror.column := by
      unfold phaseOf
      simp only [hread,hid,if_true,hcurrent hid,hmirrors.column]
    refine (hkeeps.effect hmirrors hphase fun _ _ hraised => by contradiction).tracked hmirrors ?_
    apply consistent_read hconsistent
    intro other floorFirst value hraised
    by_cases hother : other = index
    · rw [hother] at hraised
      exact not_raised_of_open hmirrors hopen floorFirst value hraised
    · exact hwhole hid other hother value (raised_of_phase hmirrors hraised).1
  · have hphase : phaseOf userId (nextOf env requests arrivals system index input command) = .idle := by
      unfold phaseOf
      simp only [hread,if_neg hid]
    refine (hkeeps.effect hmirrors hphase fun _ _ hraised => by contradiction).tracked hmirrors ?_
    exact consistent_leave hconsistent (not_raised_of_open hmirrors hopen)

/-! ## Requests that do not get in each other's way -/

/-- A load at this stage is the one whose version is published later. -/
def Rereads (stage : VersionStage) (selection : Option Selection) : Prop :=
  match stage.phase with
  | .unread => True
  | .read _ _ => loadsJtis selection = true
  | .raised _ _ | .published => False

section
variable (userId : String) (stage : VersionStage)

def Reads (users : UserTable) : Command → Prop
  | .sql (.findById id selection) => id = userId ∧ Rereads stage selection
  | .sql (.findOne filter selection) =>
    (∃ row, users.rows.find? filter.accepts = some row ∧ row.id.val = userId) ∧ Rereads stage selection
  | .sql (.save document) => document.id.val = userId ∧ document.modified .tokenVersion = false
  | _ => False

def Raises : Command → Prop
  | .sql (.save document) => document.id.val = userId ∧ document.modified .tokenVersion = true ∧
    stage.publishesFirst = false
  | .cacheSet key _ _ => key = floorKey userId ∧ stage.publishesFirst = true
  | _ => False

end

variable (env requests arrivals) in
/-- The version is raised only while no other request in progress has read it,
and read only while no other request has raised it in one place only. -/
def Serial (userId : String) (system : AccountSystem Index) (event : Index × Input) : Prop :=
  ∀ command, (system.processes event.1).pending = some command →
    (Reads userId (stagesOf env requests arrivals system event.1).version system.world.users command →
      ∀ other, other ≠ event.1 → ∀ value,
        (stagesOf env requests arrivals system other).version.phase ≠ .raised userId value) ∧
    (Raises userId (stagesOf env requests arrivals system event.1).version command →
      ∀ other, other ≠ event.1 → (system.processes other).pending.isSome = true → ∀ value,
        (stagesOf env requests arrivals system other).version.phase ≠ .read userId value ∧
        (stagesOf env requests arrivals system other).version.phase ≠ .raised userId value)

section
variable (hfollowing : Following env requests arrivals system)
  (hmirrors : Mirrors env requests arrivals userId system mirror)
include hfollowing hmirrors

theorem not_finished_raised (hraised : mirror.phase other = .raised floorFirst value) :
    (system.processes other).pending.isSome = true := by
  cases hprocess : system.processes other with
  | call command rest => rfl
  | done outcome =>
    have hsettled := settled_of_result hfollowing (show (system.processes other).result = some outcome by
      rw [hprocess]; rfl)
    have hsteady : Steady (stagesOf env requests arrivals system other) := by
      cases houtcome : outcome.1 with
      | ok response =>
        rw [houtcome] at hsettled
        exact hsettled.2
      | error error =>
        rw [houtcome] at hsettled
        exact hsettled
    have hfailed := hsteady userId value (raised_of_phase hmirrors hraised).1
    rw [hmirrors.sound other floorFirst value hraised] at hfailed
    contradiction

theorem alone_of_raises
    (hothers : ∀ other, other ≠ index → (system.processes other).pending.isSome = true → ∀ value,
      (stagesOf env requests arrivals system other).version.phase ≠ .read userId value ∧
      (stagesOf env requests arrivals system other).version.phase ≠ .raised userId value)
    (other : Index) (hother : other ≠ index) : mirror.phase other = .idle := by
  cases hphase : mirror.phase other with
  | idle => rfl
  | raised floorFirst value =>
    have hgoes := not_finished_raised hfollowing hmirrors hphase
    exact absurd (raised_of_phase hmirrors hphase).1 (hothers other hother hgoes value).2
  | read value =>
    rw [hmirrors.phase] at hphase
    by_cases hgoes : (system.processes other).pending.isSome = true
    · rw [if_pos hgoes] at hphase
      unfold phaseOf at hphase
      split at hphase
      next id version hstage =>
        split at hphase
        next hid =>
          cases hphase
          exact absurd (hid ▸ hstage) (hothers other hother hgoes value).1
        · contradiction
      · split at hphase <;> contradiction
      · contradiction
      · contradiction
    · rw [if_neg hgoes] at hphase
      cases hread : phaseOf userId (stagesOf env requests arrivals system other).version with
      | idle | read _ | raised _ _ =>
        rw [hread] at hphase
        contradiction

end

/-! ## Statements -/

variable {stage : VersionStage} {selection : Option Selection}

theorem open_of_rereads (hrereads : Rereads stage selection) : stage.phase.Open := by
  unfold Rereads at hrereads
  cases hphase : stage.phase with
  | unread | read _ _ => trivial
  | raised _ _ | published =>
    rw [hphase] at hrereads
    exact hrereads.elim

theorem loaded_of_rereads (hrereads : Rereads stage selection) (document : Document) :
    (stage.loaded selection document).phase = .read document.id.val (documentVersion document) := by
  unfold Rereads at hrereads
  unfold VersionStage.loaded
  cases hphase : stage.phase with
  | unread => rfl
  | read id version =>
    rw [hphase] at hrereads
    simp only [show loadsJtis selection = true from hrereads,if_true]
  | raised _ _ | published =>
    rw [hphase] at hrereads
    exact hrereads.elim

theorem loaded_of_not_rereads (hrereads : ¬Rereads stage selection) (document : Document) :
    stage.loaded selection document = stage := by
  obtain ⟨publishesFirst,phase,failed⟩ := stage
  unfold Rereads at hrereads
  unfold VersionStage.loaded
  cases phase with
  | unread => exact absurd trivial hrereads
  | read id version => simp only [if_neg hrereads]
  | raised _ _ | published => rfl

theorem tracked_loaded (hkeeps : Keeps env userId system.world input command)
    (hmirrors : Mirrors env requests arrivals userId system mirror) (hconsistent : Consistent mirror)
    (hpending : (system.processes index).pending = some command)
    (hfields : .tokenVersion ∈ resolveFields selection) (found : Option Row)
    (hrow : ∀ row ∈ found, system.world.users.lookup row.id.val = some row)
    (hnext : nextOf env requests arrivals system index input command =
      found.elim (stagesOf env requests arrivals system index).version fun row =>
        (stagesOf env requests arrivals system index).version.loaded selection
          (.load (resolveFields selection) row)) (hserial : ∀ row ∈ found, row.id.val = userId →
      Rereads (stagesOf env requests arrivals system index).version selection →
      ∀ other, other ≠ index → ∀ value,
        (stagesOf env requests arrivals system other).version.phase ≠ .raised userId value) :
    TrackedAfter env requests arrivals userId system index input command := by
  cases found with
  | none => exact tracked_unmoved hkeeps hmirrors hconsistent hpending hnext
  | some row =>
    dsimp only [Option.elim_some] at hnext
    by_cases hrereads : Rereads (stagesOf env requests arrivals system index).version selection
    · have hread := loaded_of_rereads hrereads (.load (resolveFields selection) row)
      rw [← hnext] at hread
      refine tracked_reading hkeeps hmirrors hconsistent (open_of_rereads hrereads) hread ?_
        fun hid => hserial row rfl hid hrereads
      intro hid
      rw [documentVersion_load hfields (hrow row rfl)]
      exact congrArg (columnOf system.world.users) hid
    · rw [loaded_of_not_rereads hrereads] at hnext
      exact tracked_unmoved hkeeps hmirrors hconsistent hpending hnext

section Cases
variable (hmirrors : Mirrors env requests arrivals userId system mirror)
  (hconsistent : Consistent mirror)
include hmirrors hconsistent

theorem tracked_other (hpending : (system.processes index).pending = some command)
    (husers : (exec env.session.hashPassword input system.world command).2.users = system.world.users)
    (hredis : (exec env.session.hashPassword input system.world command).2.redis.strings
      (floorKey userId) = system.world.redis.strings (floorKey userId))
    (hwrites : writes userId command = [])
    (hnext : ∀ answer, (stagesOf env requests arrivals system index).version.next command answer =
      (stagesOf env requests arrivals system index).version) :
    TrackedAfter env requests arrivals userId system index input command := by
  have hkeeps : Keeps env userId system.world input command :=
    ⟨by rw [husers],by rw [husers],hredis,hwrites⟩
  exact tracked_unmoved hkeeps hmirrors hconsistent hpending (by rw [nextOf,hnext])

variable (hhealthy : Healthy input)
include hhealthy

theorem tracked_index
    (hpending : (system.processes index).pending = some (.sql statement))
    (hopen : (stagesOf env requests arrivals system index).version.phase.Open)
    (husers : (execStatement env.session.hashPassword input.nowMs system.world statement).2.users =
      system.world.users)
    (hphase : ∀ answer, phaseOf userId ((stagesOf env requests arrivals system index).version.next
      (.sql statement) answer) = phaseOf userId (stagesOf env requests arrivals system index).version) :
    TrackedAfter env requests arrivals userId system index input (.sql statement) := by
  refine tracked_quiet (keeps_of_sameUsers hhealthy husers) hmirrors hconsistent hpending (hphase _) ?_
  intro floorFirst value hraised
  exact absurd hraised (not_raised_of_open hmirrors hopen floorFirst value)

variable (hfollowing : Following env requests arrivals system)
include hfollowing

theorem tracked_update {guard : Option Value}
    (hpending : (system.processes index).pending = some (.sql (.findOneAndUpdate id guard update))) :
    TrackedAfter env requests arrivals userId system index input (.sql (.findOneAndUpdate id guard update)) := by
  obtain ⟨⟨_,issued,_,hkind⟩,hopen⟩ := allowed_of_pending hfollowing hpending
  have hchanged : ∀ field ∈ update.changed, field = .refreshTokens ∨ field = .activeAccessJtis := by
    rcases hkind with rfl | ⟨storedKey,hashes,rfl,_⟩
    · exact changed_persistUpdate env.session issued
    · exact changed_rotateUpdate env.session storedKey issued
  obtain ⟨users,document,hok,hcolumn,hpresent⟩ :
      ∃ next document, applyUpdate input.nowMs system.world.users id update = .ok (next,document) ∧
        columnOf next userId = columnOf system.world.users userId ∧
        (next.lookup userId).isSome = (system.world.users.lookup userId).isSome :=
    applyUpdate_version hchanged
  have hkeeps : Keeps env userId system.world input (.sql (.findOneAndUpdate id guard update)) := by
    by_cases hfound : ((system.world.users.lookup id).any fun row =>
        guard.all (row.columns .tokenVersion = ·)) = true
    · refine keeps_sql hhealthy ?_ hpresent hcolumn
      simp only [execStatement,hfound,if_true,hok]
    · refine keeps_of_sameUsers hhealthy ?_
      simp only [execStatement,if_neg hfound]
  refine tracked_quiet hkeeps hmirrors hconsistent hpending ?_ ?_
  · rw [nextOf]
    cases (exec env.session.hashPassword input system.world (.sql (.findOneAndUpdate id guard update))).1 with
    | ok found | error error => rfl
  · intro floorFirst value hraised
    exact absurd hraised (not_raised_of_open hmirrors hopen floorFirst value)

variable {key : String}

theorem tracked_cacheGet (hpending : (system.processes index).pending = some (.cacheGet key)) :
    TrackedAfter env requests arrivals userId system index input (.cacheGet key) := by
  have hallowed := (allowed_of_pending hfollowing hpending).2
  have hkeeps : Keeps env userId system.world input (.cacheGet key) := ⟨rfl,rfl,rfl,rfl⟩
  refine tracked_quiet hkeeps hmirrors hconsistent hpending ?_ ?_
  · simp only [VersionStage.next,VersionStage.readBack]
    split <;> rfl
  · intro floorFirst value hraised
    obtain ⟨hstage,hfirst⟩ := raised_of_phase hmirrors hraised
    obtain ⟨hpublishes,rfl⟩ := hallowed userId value hstage
    rw [hpublishes] at hfirst
    subst hfirst
    have hfloor := hmirrors.floor
    rw [((hconsistent.half_of_raised hraised).floor_ahead rfl).1] at hfloor
    have hstrings : system.world.redis.strings (tvKeyPrefix ++ userId) = some (floorEntry value) := hfloor
    have hanswer : (exec env.session.hashPassword input system.world (.cacheGet (tvKeyPrefix ++ userId))).1 =
        some (some (toString value)) :=
      readCache_of_strings hhealthy.redisAvailable hhealthy.redis hstrings
    rw [nextOf,hanswer]
    simp only [VersionStage.next,VersionStage.readBack,hstage]
    simp [hmirrors.sound index true value hraised]

variable {document : Document}

theorem tracked_save_elsewhere (hpending : (system.processes index).pending = some (.sql (.save document)))
    (hmodified : document.modified .tokenVersion = true) (hother : document.id.val ≠ userId) :
    TrackedAfter env requests arrivals userId system index input (.sql (.save document)) := by
  obtain ⟨⟨hemail,hprovider,hproviderId⟩,version,_,hphase⟩ :=
    (allowed_of_pending hfollowing hpending).2.1 hmodified
  obtain ⟨users,saved,hsave,_⟩ := save_of_identityUnmodified env.session.hashPassword input.nowMs
    system.world.users hemail hprovider hproviderId
  have hexec := exec_save_ok hhealthy.database hsave
  refine tracked_quiet (keeps_save hhealthy hsave (by rw [columnOf,columnOf,lookup_save hsave,if_neg (Ne.symm hother)])) hmirrors hconsistent
    hpending ?_ ?_
  · rw [nextOf,hexec]
    rcases hphase with ⟨hfirst,hphase⟩ | ⟨hfirst,_,hphase⟩
    · simp [phaseOf,VersionStage.next,VersionStage.saved,hmodified,hphase,hother]
    · simp [phaseOf,VersionStage.next,VersionStage.saved,hmodified,hphase,hother]
  · intro floorFirst value hraised
    have hstage := (raised_of_phase hmirrors hraised).1
    rcases hphase with ⟨_,hphase⟩ | ⟨_,_,hphase⟩
    · cases hphase.symm.trans hstage
      exact absurd rfl hother
    · cases hphase.symm.trans hstage

variable (hserial : Serial env requests arrivals userId system (index,input))
include hserial

variable {selection : Option Selection}

theorem tracked_findById
    (hpending : (system.processes index).pending = some (.sql (.findById id selection))) :
    TrackedAfter env requests arrivals userId system index input (.sql (.findById id selection)) := by
  have hkeeps : Keeps env userId system.world input (.sql (.findById id selection)) :=
    keeps_of_sameUsers hhealthy rfl
  have hallowed := (allowed_of_pending hfollowing hpending).2
  have hanswer : (exec env.session.hashPassword input system.world (.sql (.findById id selection))).1 =
      .ok (findById system.world.users id selection) := by
    rw [exec_of_answered hhealthy.database]
    rfl
  refine tracked_loaded hkeeps hmirrors hconsistent hpending hallowed (system.world.users.lookup id) ?_ ?_ ?_
  · exact fun row hrow => Table.lookup_of_mem (Table.mem_of_lookup hrow).1
  · rw [nextOf,hanswer,findById]
    cases system.world.users.lookup id <;> rfl
  · intro row hrow howner hrereads
    exact (hserial _ hpending).1 ⟨(Table.mem_of_lookup hrow).2.symm.trans howner,hrereads⟩

theorem tracked_findOne {filter : RowFilter}
    (hpending : (system.processes index).pending = some (.sql (.findOne filter selection))) :
    TrackedAfter env requests arrivals userId system index input (.sql (.findOne filter selection)) := by
  have hkeeps : Keeps env userId system.world input (.sql (.findOne filter selection)) :=
    keeps_of_sameUsers hhealthy rfl
  have hallowed := (allowed_of_pending hfollowing hpending).2
  have hanswer : (exec env.session.hashPassword input system.world (.sql (.findOne filter selection))).1 =
      .ok ((system.world.users.rows.find? filter.accepts).map
        (.load (resolveFields selection))) := by
    rw [exec_of_answered hhealthy.database]
    rfl
  refine tracked_loaded hkeeps hmirrors hconsistent hpending hallowed
    (system.world.users.rows.find? filter.accepts) ?_ ?_ ?_
  · exact fun row hrow => Table.lookup_of_mem (List.mem_of_find?_eq_some hrow)
  · rw [nextOf,hanswer]
    cases system.world.users.rows.find? filter.accepts <;> rfl
  · intro row hrow howner hrereads
    exact (hserial _ hpending).1 ⟨⟨row,hrow,howner⟩,hrereads⟩

section
variable (hpending : (system.processes index).pending = some (.sql (.save document)))
include hpending

theorem tracked_save_unmodified (hunmodified : document.modified .tokenVersion = false) :
    TrackedAfter env requests arrivals userId system index input (.sql (.save document)) := by
  obtain ⟨version,hread⟩ := (allowed_of_pending hfollowing hpending).2.2 hunmodified
  cases hsave : document.save env.session.hashPassword input.nowMs system.world.users with
  | error message =>
    have hexec := exec_of_answered hhealthy.database env.session.hashPassword system.world (.save document)
    simp only [execStatement,hsave] at hexec
    have hkeeps : Keeps env userId system.world input (.sql (.save document)) := by
      refine ⟨?_,?_,?_,rfl⟩ <;> rw [hexec]
    refine tracked_quiet hkeeps hmirrors hconsistent hpending ?_ ?_
    · rw [nextOf,hexec]
      rfl
    · intro floorFirst value hraised
      exact absurd hraised (not_raised_of_open hmirrors (open_of_read hread) floorFirst value)
  | ok outcome =>
    obtain ⟨users,saved⟩ := outcome
    have hcolumn : columnOf users userId = columnOf system.world.users userId :=
      columnOf_save_of_unmodified hsave hunmodified
    have hexec := exec_save_ok hhealthy.database hsave
    have hpossible := exec_possible env.session.hashPassword input system.world (.sql (.save document))
    rw [hexec] at hpossible
    have hreread : ((stagesOf env requests arrivals system index).version.next (.sql (.save document))
        (exec env.session.hashPassword input system.world (.sql (.save document))).1).phase =
        .read saved.id.val (documentVersion saved) := by
      rw [hexec]
      exact saved_unmodified hread hunmodified saved
    refine tracked_reading (keeps_save hhealthy hsave hcolumn) hmirrors hconsistent (open_of_read hread)
      hreread ?_ ?_
    · intro hid
      have hpresent : (users.lookup userId).isSome = (system.world.users.lookup userId).isSome :=
        isSome_save hsave
      rw [hmirrors.present,← hid,id_of_saved hpossible] at hpresent
      rcases save_returns hsave with ⟨row,hrow,rfl⟩ | ⟨hgone,_⟩
      · rw [documentVersion_load (by decide) hrow,← id_of_saved hpossible,hid]
        exact hcolumn
      · rw [hgone] at hpresent
        contradiction
    · intro hid
      exact (hserial _ hpending).1 ⟨(id_of_saved hpossible).symm.trans hid,hunmodified⟩

theorem tracked_save_version (hmodified : document.modified .tokenVersion = true)
    (howner : document.id.val = userId) :
    TrackedAfter env requests arrivals userId system index input (.sql (.save document)) := by
  obtain ⟨⟨hemail,hprovider,hproviderId⟩,version,hversion,hphase⟩ :=
    (allowed_of_pending hfollowing hpending).2.1 hmodified
  obtain ⟨users,saved,hsave,_⟩ := save_of_identityUnmodified env.session.hashPassword input.nowMs
    system.world.users hemail hprovider hproviderId
  have hexec := exec_save_ok hhealthy.database hsave
  have hpresent : (users.lookup userId).isSome = true := by
    rw [isSome_save hsave]
    exact hmirrors.present
  have hcolumn : columnOf users userId = version := by
    rw [← howner]
    exact columnOf_save hsave hmodified hversion (by rw [howner]; exact hmirrors.present)
  have heffect : ∀ phase, phase = phaseOf userId
        ((stagesOf env requests arrivals system index).version.next (.sql (.save document)) (.ok saved)) →
      (∀ floorFirst value, phase = .raised floorFirst value →
        (stagesOf env requests arrivals system index).version.failed = false) →
      Effect env requests arrivals userId system mirror (mirror.store index version phase) index input
        (.sql (.save document)) := by
    intro phase hnext hsound
    refine ⟨?_,?_,?_,?_,?_,?_⟩
    · rw [hexec]
      exact hpresent
    · rw [hexec]
      exact hcolumn.symm
    · rw [hexec]
      exact hmirrors.floor
    · exact List.append_nil _
    · rw [hexec,← hnext]
      rfl
    · intro floorFirst value hraised
      simp only [Mirror.store,update_self] at hraised
      rw [hexec]
      exact hsound floorFirst value hraised
  have hcurrent := phase_of_pending hmirrors hpending
  rcases hphase with ⟨hfirst,hphase⟩ | ⟨hfirst,hfailed,hphase⟩
  · have hraised : mirror.phase index = .raised true version := by
      rw [hcurrent]
      simp [phaseOf,hphase,howner,hfirst]
    refine (heffect .idle ?_ fun _ _ hraised => by contradiction).tracked hmirrors
      (consistent_store_raised hconsistent hraised)
    simp [phaseOf,VersionStage.next,VersionStage.saved,hmodified,hphase]
  · have hread : mirror.phase index = .read (version - 1) := by
      rw [hcurrent]
      simp [phaseOf,hphase,howner]
    have halone := alone_of_raises hfollowing hmirrors
      ((hserial _ hpending).2 ⟨howner,hmodified,hfirst⟩)
    refine (heffect (.raised false version) ?_ fun _ _ _ => hfailed).tracked hmirrors
      (consistent_raise_column halone hconsistent hread)
    simp [phaseOf,VersionStage.next,VersionStage.saved,hmodified,hphase,howner,hfirst]

end

theorem tracked_cacheSet {value : String} {ttlSeconds : Option Nat}
    (hpending : (system.processes index).pending = some (.cacheSet key value ttlSeconds)) :
    TrackedAfter env requests arrivals userId system index input (.cacheSet key value ttlSeconds) := by
  obtain ⟨rfl,id,version,rfl,rfl,hphase⟩ := (allowed_of_pending hfollowing hpending).2
  have happlies : input.applies = true := by simp [Input.applies,hhealthy.redisAvailable,hhealthy.redis]
  have hexec : exec env.session.hashPassword input system.world
        (.cacheSet (tvKeyPrefix ++ id) (toString version) none) =
      (true,{ system.world with redis := system.world.redis.set (tvKeyPrefix ++ id) (toString version) }) := by
    simp only [exec,happlies,if_true,hhealthy.redisAvailable]
    rfl
  have hcurrent := phase_of_pending hmirrors hpending
  by_cases hid : id = userId
  · subst hid
    have heffect : ∀ phase, phase = phaseOf id
          ((stagesOf env requests arrivals system index).version.set true) →
        (∀ floorFirst value, phase = .raised floorFirst value →
          (stagesOf env requests arrivals system index).version.failed = false) →
        Effect env requests arrivals id system mirror (mirror.publish index version phase) index input
          (.cacheSet (tvKeyPrefix ++ id) (toString version) none) := by
      intro phase hnext hsound
      refine ⟨?_,?_,?_,?_,?_,?_⟩
      · rw [hexec]
        exact hmirrors.present
      · rw [hexec]
        exact hmirrors.column
      · rw [hexec]
        simp [Store.set,Store.put,floorKey,floorEntry,Mirror.publish]
      · simp [writes,floorKey,Mirror.publish]
      · rw [hexec,hnext]
        rfl
      · intro floorFirst value hraised
        simp only [Mirror.publish,update_self] at hraised
        rw [hexec]
        simp [VersionStage.next,VersionStage.set,hsound floorFirst value hraised]
    rcases hphase with ⟨hfirst,hfailed,hphase⟩ | ⟨hfirst,hphase | hphase⟩
    · have hread : mirror.phase index = .read (version - 1) := by
        rw [hcurrent]
        simp [phaseOf,hphase]
      have halone := alone_of_raises hfollowing hmirrors ((hserial _ hpending).2 ⟨rfl,hfirst⟩)
      refine (heffect (.raised true version) ?_ fun _ _ _ => hfailed).tracked hmirrors
        (consistent_raise_floor halone hconsistent hread)
      simp [phaseOf,VersionStage.set,hphase,hfirst]
    · have hraised : mirror.phase index = .raised false version := by
        rw [hcurrent]
        simp [phaseOf,hphase,hfirst]
      refine (heffect .idle ?_ fun _ _ hraised => by contradiction).tracked hmirrors
        (consistent_publish_raised hconsistent hraised)
      simp [phaseOf,VersionStage.set,hphase]
    · have hread : mirror.phase index = .read version := by
        rw [hcurrent]
        simp [phaseOf,hphase]
      refine (heffect .idle ?_ fun _ _ hraised => by contradiction).tracked hmirrors
        (consistent_publish hconsistent hread)
      simp [phaseOf,VersionStage.set,hphase,hfirst]
  · have hkey : floorKey userId ≠ tvKeyPrefix ++ id := fun heq => hid ((String.append_right_inj tvKeyPrefix).mp heq.symm)
    have hkeeps : Keeps env userId system.world input
        (.cacheSet (tvKeyPrefix ++ id) (toString version) none) := by
      refine ⟨?_,?_,?_,?_⟩
      · rw [hexec]
      · rw [hexec]
      · rw [hexec]
        simp [Store.set,Store.put,update_of_ne hkey]
      · simp [writes,hkey.symm]
    refine tracked_quiet hkeeps hmirrors hconsistent hpending ?_ ?_
    · rw [nextOf,hexec]
      rcases hphase with ⟨hfirst,hfailed,hphase⟩ | ⟨hfirst,hphase | hphase⟩ <;>
        simp [phaseOf,VersionStage.next,VersionStage.set,hphase,hfirst,hid]
    · intro floorFirst value hraised
      have hstage := (raised_of_phase hmirrors hraised).1
      rcases hphase with ⟨_,_,hphase⟩ | ⟨_,hphase | hphase⟩
      · cases hphase.symm.trans hstage
      · cases hphase.symm.trans hstage
        exact absurd rfl hid
      · cases hphase.symm.trans hstage

end Cases

/-- Every command that neither fails nor gets in the way keeps the mirror
consistent. -/
theorem tracked_perform (hhealthy : Healthy input)
    (hserial : Serial env requests arrivals userId system (index,input))
    (hfollowing : Following env requests arrivals system)
    (hprocess : system.processes index = .call command rest)
    (htracked : Tracked env requests arrivals userId system) :
    TrackedAfter env requests arrivals userId system index input command := by
  obtain ⟨mirror,hmirrors,hconsistent⟩ := htracked
  have hpending : (system.processes index).pending = some command := by
    rw [hprocess,Process.pending_call]
  have hallowed := allowed_of_pending hfollowing hpending
  cases command with
  | cacheGet key => exact tracked_cacheGet hmirrors hconsistent hhealthy hfollowing hpending
  | cacheSet key value ttlSeconds =>
    exact tracked_cacheSet hmirrors hconsistent hhealthy hfollowing hserial hpending
  | cacheDel key =>
    obtain ⟨formToken,rfl⟩ := hallowed.2
    refine tracked_other hmirrors hconsistent hpending ?_ ?_ rfl fun _ => rfl
    · simp only [exec]
      split <;> rfl
    · simp only [exec]
      split
      · simp [Store.del,update_of_ne (formKey_ne_floorKey formToken userId).symm]
      · rfl
  | memoryTake key | revoke jtis | memoryPut key payload ttlSeconds =>
    exact tracked_other hmirrors hconsistent hpending rfl rfl rfl fun _ => rfl
  | sendEmail mail =>
    refine tracked_other hmirrors hconsistent hpending ?_ ?_ rfl fun _ => rfl
    · simp only [exec]
      split <;> rfl
    · simp only [exec]
      split <;> rfl
  | sql statement =>
    cases statement with
    | findById id selection =>
      exact tracked_findById hmirrors hconsistent hhealthy hfollowing hserial hpending
    | findOne filter selection =>
      exact tracked_findOne hmirrors hconsistent hhealthy hfollowing hserial hpending
    | save document =>
      cases hmodified : document.modified .tokenVersion with
      | false =>
        exact tracked_save_unmodified hmirrors hconsistent hhealthy hfollowing hserial hpending hmodified
      | true =>
        by_cases howner : document.id.val = userId
        · exact tracked_save_version hmirrors hconsistent hhealthy hfollowing hserial hpending hmodified
            howner
        · exact tracked_save_elsewhere hmirrors hconsistent hhealthy hfollowing hpending hmodified howner
    | insert uuid data | findByIdAndDelete id => exact hallowed.1.elim
    | findOneAndUpdate id guard update =>
      exact tracked_update hmirrors hconsistent hhealthy hfollowing hpending
    | findIndex key | deleteIndex id keep =>
      exact tracked_index hmirrors hconsistent hhealthy hpending hallowed.2 rfl
        (phaseOf_index _ (fun _ => rfl) fun _ => rfl)
    | updateIndex key entry =>
      refine tracked_index hmirrors hconsistent hhealthy hpending hallowed.2 ?_
        (phaseOf_index _ (fun _ => rfl) fun _ => rfl)
      simp only [execStatement]
      split
      · rfl
      · split <;> rfl
    | insertIndex key entry =>
      refine tracked_index hmirrors hconsistent hhealthy hpending hallowed.2 ?_
        (phaseOf_index _ (fun _ => rfl) fun _ => rfl)
      simp only [execStatement]
      split <;> rfl

end Step

def Agrees (world : World) (userId : String) : Prop := world.redis.strings (floorKey userId) = none ∨
    world.redis.strings (floorKey userId) = some (floorEntry (columnOf world.users userId))

variable {world : World}

section
variable (hpresent : (world.users.lookup userId).isSome = true)
include hpresent

theorem mirrors_received (floor : Option Int)
    (hfloor : world.redis.strings (floorKey userId) = floor.map floorEntry) :
    Mirrors env requests arrivals userId (received env requests arrivals world)
      (.start (columnOf world.users userId) floor) := by
  refine ⟨hpresent,rfl,hfloor,rfl,?_,?_⟩
  · intro index
    have hidle : phaseOf userId
        (stagesOf env requests arrivals (received env requests arrivals world) index).version = .idle := rfl
    rw [hidle]
    split <;> rfl
  · intro index floorFirst value hraised
    cases hraised

theorem tracked_received (hagrees : Agrees world userId) :
    Tracked env requests arrivals userId (received env requests arrivals world) := by
  rcases hagrees with habsent | hequal
  · refine ⟨_,mirrors_received hpresent none habsent,consistent_start ?_⟩
    intro value hvalue
    cases hvalue
  · refine ⟨_,mirrors_received hpresent (some (columnOf world.users userId)) hequal,consistent_start ?_⟩
    intro value hvalue
    exact (some.inj hvalue).symm

end

/-- Without failures, and with requests that do not get in each other's way, the
floor never goes back, and it agrees with the column when nothing is in
progress. -/
theorem floor_follows_of_serial (env : AccountEnv) (requests : Index → AccountRequest)
    (arrivals : Index → Nat) (world : World) (events : List (Index × Input)) (userId : String)
    (hpresent : (world.users.lookup userId).isSome = true) (hagrees : Agrees world userId)
    (hserial : Along (.step (machine env.session.hashPassword)) (fun system event =>
      Healthy event.2 ∧ Serial env requests arrivals userId system event)
      (received env requests arrivals world) events) :
    (∃ versions : List Int,
      written (reached env requests arrivals world events) userId = versions.map toString ∧
        versions.Pairwise (· ≤ ·)) ∧
    ((∀ index, ((reached env requests arrivals world events).processes index).pending = none) →
      Agrees (reached env requests arrivals world events).world userId ∧
        (written (reached env requests arrivals world events) userId ≠ [] →
          (reached env requests arrivals world events).world.redis.strings (floorKey userId) ≠ none)) := by
  obtain ⟨hfollowing,mirror,hmirrors,hconsistent⟩ := run_invariant
    (Tracked env requests arrivals userId)
    (fun system index input command rest hfollowing hprocess hgood htracked =>
      tracked_perform hgood.1 hgood.2 hfollowing hprocess htracked rest)
    hserial (following_received env requests arrivals world) (tracked_received hpresent hagrees)
  refine ⟨⟨mirror.published,hmirrors.published,hconsistent.rising.sorted⟩,?_⟩
  intro hdone
  have hlevel : Level mirror := by
    rcases hconsistent.balance with hlevel | ⟨index,floorFirst,value,hhalf⟩
    · exact hlevel
    · have hgoes : ((reached env requests arrivals world events).processes index).pending.isSome = true :=
        not_finished_raised hfollowing hmirrors hhalf.raised
      rw [hdone index] at hgoes
      contradiction
  have hfloor : (reached env requests arrivals world events).world.redis.strings (floorKey userId) =
      mirror.floor.map floorEntry := hmirrors.floor
  have hcolumn : mirror.column = columnOf (reached env requests arrivals world events).world.users userId :=
    hmirrors.column
  have hpublished : written (reached env requests arrivals world events) userId =
      mirror.published.map toString := hmirrors.published
  cases hvalue : mirror.floor with
  | some value =>
    rw [hvalue,hlevel.equal value hvalue,hcolumn] at hfloor
    refine ⟨.inr hfloor,?_⟩
    intro _ hnone
    rw [hfloor] at hnone
    contradiction
  | none =>
    rw [hvalue] at hfloor
    refine ⟨.inl hfloor,?_⟩
    intro hwritten
    have hempty : mirror.published = [] := by
      apply List.eq_nil_iff_forall_not_mem.mpr
      intro version hmem
      obtain ⟨floor,hsome,_⟩ := hconsistent.rising.bounded version hmem
      rw [hvalue] at hsome
      contradiction
    rw [hpublished,hempty] at hwritten
    exact absurd rfl hwritten

end Systems

/-! ## A floor that goes back -/

def sampleRequests : Bool → AccountRequest
  | false => .refresh ⟨sampleToken 0,none,⟨sampleToken 2,none⟩⟩
  | true => .invalidate "u1"

def sampleEvents (indices : List Bool) : List (Bool × Input) :=
  indices.map fun index => (index,.healthy 1700000000000)

def sampleReached (indices : List Bool) : AccountSystem Bool :=
  reached sampleAccountEnv sampleRequests (fun _ => 1700000000000) (accountWorld [sampleDigest 0])
    (sampleEvents indices)

/-- The refresh exchanges its token and is about to publish the version it has
read; the invalidation raises the version and publishes it; then the refresh
publishes the old one. -/
theorem floor_goes_back :
    written (sampleReached [false,false,false,true,true,true,true,false,false]) "u1" = ["1","0"] ∧
      (∀ index, ((sampleReached [false,false,false,true,true,true,true,false,false]).processes
        index).pending = none) ∧
      columnOf (sampleReached [false,false,false,true,true,true,true,false,false]).world.users
        "u1" = 1 := by
  decide +kernel

def otherIdle (system : AccountSystem Bool) (event : Bool × Input) : Bool :=
  decide (event.2 = .healthy 1700000000000) &&
    match (stagesOf sampleAccountEnv sampleRequests (fun _ => 1700000000000) system
      (!event.1)).version.phase with
    | .unread | .published => true
    | .read _ _ | .raised _ _ => false

theorem serial_of_otherIdle {system : AccountSystem Bool} {event : Bool × Input}
    (hidle : otherIdle system event = true) : Healthy event.2 ∧
      Serial sampleAccountEnv sampleRequests (fun _ => 1700000000000) userId system event := by
  rw [otherIdle,and_eq_true,decide_eq_true_eq] at hidle
  have hother : ∀ other, other ≠ event.1 → other = !event.1 := by
    intro other hne
    exact eq_not_of_ne hne
  refine ⟨?_,?_⟩
  · rw [hidle.1]
    exact ⟨rfl,rfl,rfl⟩
  · intro command _
    refine ⟨?_,?_⟩
    · intro _ other hne value hraised
      rw [hother other hne] at hraised
      rw [hraised] at hidle
      exact absurd hidle.2 false_ne_true
    · intro _ other hne _ value
      rw [hother other hne]
      refine ⟨?_,?_⟩
      · intro hread
        rw [hread] at hidle
        exact absurd hidle.2 false_ne_true
      · intro hraised
        rw [hraised] at hidle
        exact absurd hidle.2 false_ne_true

theorem floor_follows_in_turn :
    written (sampleReached [false,false,false,false,false,true,true,true,true]) "u1" = ["0","1"] ∧
      Agrees (sampleReached [false,false,false,false,false,true,true,true,true]).world "u1" := by
  have hfollows := floor_follows_of_serial sampleAccountEnv sampleRequests (fun _ => 1700000000000)
    (accountWorld [sampleDigest 0]) (sampleEvents [false,false,false,false,false,true,true,true,true])
    "u1" rfl (.inl rfl) (along_of_check (fun _ _ hidle => serial_of_otherIdle hidle) (by decide +kernel))
  refine ⟨by decide +kernel,(hfollows.2 ?_).1⟩
  decide +kernel

end Routiq.Uam.VersionFloor
