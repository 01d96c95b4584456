import Routiq.ControlPlane.ServedRevisions

/-! Restarts of the control plane. The revision counter starts from the number
of configurations restored from the durable table, of which at most the history
limit are read. -/
namespace Routiq.ControlPlane.Restart
open Core.Runs Core.Processes Store Handlers Sidecar ServedRevisions List Option

variable {Snapshot Json : Type}

/-! ## Startup -/

/-- What startup reads: how a durable row is parsed, what is overridden from the
environment, the configuration of `conf.d`, and the depth of the history. -/
structure Boot (Snapshot Json : Type) where
  fromValue : Json → Option Snapshot
  restored : Snapshot → Snapshot
  loadInitialConfig : Snapshot
  emptyObject : Json
  historyLimit : Nat

def historySnapshots (revisions : List (Revision Json)) (limit : Nat) : List (Revision Json) :=
  revisions.drop (revisions.length - limit)

def restoredHistory (boot : Boot Snapshot Json) (revisions : List (Revision Json)) : List Snapshot :=
  (historySnapshots revisions boot.historyLimit).filterMap fun row =>
    (boot.fromValue row.snapshot).map boot.restored

section
variable (env : Env Snapshot Json) (boot : Boot Snapshot Json) (revisions : List (Revision Json))

/-- The rollback stack at startup and the durable table after it: an empty
history is seeded from `conf.d`. -/
def rebuildInitialState : ConfigStore Snapshot × List (Revision Json) :=
  if env.durable then
    match restoredHistory boot revisions with
    | first :: rest => (⟨first :: rest,boot.historyLimit,cons_ne_nil first rest⟩,revisions)
    | [] =>
      let initial := boot.loadInitialConfig
      let snapshot := (env.toValue initial).getD boot.emptyObject
      (.new initial boot.historyLimit,revisions ++ [⟨env.version initial,.seed,"",snapshot⟩])
  else (.new boot.loadInitialConfig boot.historyLimit,revisions)

def startup (nowSecs : Nat) : AppState Snapshot Json :=
  let rebuilt := rebuildInitialState env boot revisions
  let seedRevision := max rebuilt.1.history.length 1
  { live := rebuilt.1.current
    store := rebuilt.1
    storeLocked := false
    revision := seedRevision
    events := [newConfigEvent seedRevision (env.version rebuilt.1.current) nowSecs]
    broadcasts := []
    revisions := rebuilt.2 }

/-! ## Histories of requests and restarts -/

structure Service (Snapshot Json : Type) where
  app : AppState Snapshot Json
  published : List Nat

/-- Requests are handled one after another, at any times, and every durable
write succeeds. -/
inductive ServiceEvent (Snapshot : Type) where
  | request (request : Request Snapshot) (times : Nat → Nat)
  | restart (nowSecs : Nat)

/-- The revisions that the bumps of the counter in a log published. -/
def publishedBy (log : List (Entry (Command Snapshot Json) Answer)) : List Nat := log.filterMap fun entry =>
    match entry with
    | ⟨.fetchAddRevision,previous⟩ => some (previous + 1)
    | _ => none

def reachable (times : Nat → Nat) (position : Nat) : Input := ⟨times position,.stored⟩

def serviceStep (env : Env Snapshot Json) (boot : Boot Snapshot Json)
    (service : Service Snapshot Json) : ServiceEvent Snapshot → Service Snapshot Json
  | .request request times =>
    let execution := execute machine (handle env request) (reachable times) service.app
    ⟨execution.world,service.published ++ publishedBy execution.log⟩
  | .restart nowSecs => ⟨startup env boot service.app.revisions nowSecs,service.published⟩

def firstStart (nowSecs : Nat) : Service Snapshot Json := ⟨startup env boot revisions nowSecs,[]⟩

end

/-! ## What one request does to the counter -/

/-- A request either leaves the counter, the ring and the durable table alone,
or publishes the next revision and has it in both. -/
def Advanced (env : Env Snapshot Json) (before after : AppState Snapshot Json)
    (published : List Nat) : Prop :=
  (after.revision = before.revision ∧ after.revisions = before.revisions ∧
      after.events = before.events ∧ published = []) ∨
    (after.revision = before.revision + 1 ∧ published = [before.revision + 1] ∧
      (∃ row snapshot, env.toValue snapshot = some row.snapshot ∧
        after.revisions = before.revisions ++ [row]) ∧
      ∃ event, after.events.getLast? = some event ∧ event.revision = before.revision + 1)

section Requests
variable {env : Env Snapshot Json} (times : Nat → Nat) (app : AppState Snapshot Json)

variable (hdurable : env.durable = true) (htoValue : ∀ snapshot, (env.toValue snapshot).isSome = true)
include hdurable htoValue

theorem advanced_rollback (request : AdminRequest) :
    let execution := execute machine (rollbackConfig env request) (reachable times) app
    Advanced env app execution.world (publishedBy execution.log) := by
  unfold rollbackConfig
  cases refuseAdmin request with
  | some response => exact .inl ⟨rfl,rfl,rfl,rfl⟩
  | none =>
    obtain ⟨value,hvalue⟩ := isSome_iff_exists.mp (htoValue app.store.pop.current)
    refine .inr ⟨?_,?_,⟨⟨env.version app.store.pop.current,.rollback,request.actorIp,value⟩,
      app.store.pop.current,hvalue,?_⟩,?_⟩ <;>
    simp [perform,publishRevision,recordRevision,execute_call,machine,exec,reachable,hdurable,
      hvalue,publishedBy,getLast?_appendRing,newConfigEvent]

theorem advanced_post (request : PostRequest Snapshot) :
    let execution := execute machine (postConfig env request) (reachable times) app
    Advanced env app execution.world (publishedBy execution.log) := by
  unfold postConfig
  cases refuseAdmin request.admin with
  | some response => exact .inl ⟨rfl,rfl,rfl,rfl⟩
  | none =>
    cases request.body with
    | error message => exact .inl ⟨rfl,rfl,rfl,rfl⟩
    | ok parsed =>
      obtain ⟨value,hvalue⟩ := isSome_iff_exists.mp (htoValue (env.withJwtSecret parsed))
      cases hdryRun : request.dryRun with
      | true => refine .inl ⟨?_,?_,?_,?_⟩ <;> simp [perform,execute_call,machine,exec,publishedBy]
      | false =>
        cases hvalid : (env.validateConfig (env.withJwtSecret parsed)).valid with
        | false =>
          refine .inl ⟨?_,?_,?_,?_⟩ <;>
          simp [perform,execute_call,machine,exec,publishedBy,hvalid]
        | true =>
          refine .inr ⟨?_,?_,⟨⟨env.version (env.withJwtSecret parsed),.apply,
            request.admin.actorIp,value⟩,env.withJwtSecret parsed,hvalue,?_⟩,?_⟩ <;>
          simp [perform,applyConfig,publishRevision,recordRevision,execute_call,machine,exec,
            reachable,hdurable,hvalid,hvalue,publishedBy,getLast?_appendRing,newConfigEvent]

theorem advanced_handle (request : Request Snapshot) :
    let execution := execute machine (handle env request) (reachable times) app
    Advanced env app execution.world (publishedBy execution.log) := by
  cases request with
  | get readTokenValid =>
    cases readTokenValid with
    | false | true => exact .inl ⟨rfl,rfl,rfl,rfl⟩
  | post request => exact advanced_post times app hdurable htoValue request
  | rollback request => exact advanced_rollback times app hdurable htoValue request

end Requests

/-! ## The seed of the counter -/

section Seed
variable {env : Env Snapshot Json} {boot : Boot Snapshot Json} {revisions : List (Revision Json)}

theorem length_restoredHistory (hreadable : ∀ row ∈ revisions, (boot.fromValue row.snapshot).isSome = true) :
    (restoredHistory boot revisions).length = min boot.historyLimit revisions.length := by
  have hall : ∀ row ∈ historySnapshots revisions boot.historyLimit,
      ((boot.fromValue row.snapshot).map boot.restored).isSome = true := by
    intro row hrow
    rw [isSome_map]
    exact hreadable row (mem_of_mem_drop hrow)
  rw [restoredHistory,length_filterMap_eq_countP,countP_eq_length.mpr hall,
    historySnapshots,length_drop]
  omega

variable (hdurable : env.durable = true)
  (hreadable : ∀ row ∈ revisions, (boot.fromValue row.snapshot).isSome = true)
include hdurable hreadable

theorem revision_startup (nowSecs : Nat) : (startup env boot revisions nowSecs).revision =
      max (min boot.historyLimit revisions.length) 1 := by
  have hlength := length_restoredHistory hreadable
  unfold startup rebuildInitialState
  rw [if_pos hdurable]
  cases hhistory : restoredHistory boot revisions with
  | nil =>
    rw [hhistory] at hlength
    rw [← hlength]
    rfl
  | cons first rest =>
    rw [hhistory] at hlength
    dsimp only
    rw [hlength]

theorem revisions_startup (nowSecs : Nat) :
    (startup env boot revisions nowSecs).revisions = revisions ∧ 0 < revisions.length ∨
      ∃ row, row.snapshot = (env.toValue boot.loadInitialConfig).getD boot.emptyObject ∧
        (startup env boot revisions nowSecs).revisions = revisions ++ [row] := by
  have hlength := length_restoredHistory hreadable
  unfold startup rebuildInitialState
  rw [if_pos hdurable]
  cases hhistory : restoredHistory boot revisions with
  | nil => exact .inr ⟨_,rfl,rfl⟩
  | cons first rest =>
    refine .inl ⟨rfl,?_⟩
    rw [hhistory,length_cons] at hlength
    omega

end Seed

/-! ## Revisions across restarts -/

section
variable (env : Env Snapshot Json) (boot : Boot Snapshot Json)

/-- Third-party serialisation: every configuration can be written to a row and
read back from it. -/
def Codec : Prop :=
  ∀ snapshot, ∃ value, env.toValue snapshot = some value ∧ (boot.fromValue value).isSome = true

/-- Whatever is published next after the restart is greater than everything
published before it. -/
def RestartContinues (service : Service Snapshot Json) : ServiceEvent Snapshot → Prop
  | .restart nowSecs => ∀ revision ∈ service.published,
      revision < (startup env boot service.app.revisions nowSecs).revision + 1
  | .request _ _ => True

end

section
variable (boot : Boot Snapshot Json) (service : Service Snapshot Json)

/-- The counter has not passed the history limit when the control plane is
restarted. -/
def RestartWithinLimit :
    ServiceEvent Snapshot → Prop
  | .restart _ => service.app.revision ≤ max boot.historyLimit 1
  | .request _ _ => True

structure ServiceInv : Prop where
  readable : ∀ row ∈ service.app.revisions, (boot.fromValue row.snapshot).isSome = true
  recorded : service.app.revision ≤ service.app.revisions.length
  increasing : service.published.Pairwise (· < ·)
  bounded : ∀ revision ∈ service.published, revision ≤ service.app.revision
  origin : service.app.revision ∈ service.published ∨ service.app.revision ≤ max boot.historyLimit 1
  newest : ∃ event, service.app.events.getLast? = some event ∧ event.revision = service.app.revision

end

section Runs
variable {env : Env Snapshot Json} {boot : Boot Snapshot Json} {service : Service Snapshot Json}

theorem serviceInv_startup (hdurable : env.durable = true) (hcodec : Codec env boot)
    {revisions : List (Revision Json)}
    (hreadable : ∀ row ∈ revisions, (boot.fromValue row.snapshot).isSome = true) (nowSecs : Nat)
    {published : List Nat} (hincreasing : published.Pairwise (· < ·))
    (hbounded : ∀ revision ∈ published, revision ≤ (startup env boot revisions nowSecs).revision) :
    ServiceInv boot ⟨startup env boot revisions nowSecs,published⟩ := by
  have hrevision := revision_startup hdurable hreadable nowSecs
  constructor
  · rcases revisions_startup hdurable hreadable nowSecs with ⟨hsame,_⟩ | ⟨row,hrow,hseeded⟩
    · rw [hsame]
      exact hreadable
    · rw [hseeded]
      intro other hother
      rcases mem_append.mp hother with hother | hother
      · exact hreadable other hother
      · obtain ⟨value,hvalue,hparsed⟩ := hcodec boot.loadInitialConfig
        rw [mem_singleton.mp hother,hrow,hvalue]
        exact hparsed
  · dsimp only
    rw [hrevision]
    rcases revisions_startup hdurable hreadable nowSecs with ⟨hsame,hpos⟩ | ⟨row,_,hseeded⟩
    · rw [hsame]
      omega
    · rw [hseeded,length_append,length_singleton]
      omega
  · exact hincreasing
  · exact hbounded
  · right
    rw [hrevision]
    omega
  · exact ⟨_,rfl,rfl⟩

theorem serviceInv_advanced (hcodec : Codec env boot) (hinv : ServiceInv boot service)
    {after : AppState Snapshot Json} {published : List Nat}
    (hadvanced : Advanced env service.app after published) :
    ServiceInv boot ⟨after,service.published ++ published⟩ := by
  rcases hadvanced with ⟨hrevision,hrevisions,hevents,rfl⟩ |
    ⟨hrevision,rfl,⟨row,snapshot,hrow,hrevisions⟩,hnewest⟩
  · rw [append_nil]
    constructor
    · rw [hrevisions]
      exact hinv.readable
    · rw [hrevision,hrevisions]
      exact hinv.recorded
    · exact hinv.increasing
    · rw [hrevision]
      exact hinv.bounded
    · rw [hrevision]
      exact hinv.origin
    · rw [hrevision,hevents]
      exact hinv.newest
  · constructor
    · intro other hother
      rw [hrevisions] at hother
      rcases mem_append.mp hother with hother | hother
      · exact hinv.readable other hother
      · obtain ⟨value,hvalue,hparsed⟩ := hcodec snapshot
        rw [hrow] at hvalue
        rw [mem_singleton.mp hother,some.inj hvalue]
        exact hparsed
    · have hrecorded := hinv.recorded
      rw [hrevision,hrevisions,length_append,length_singleton]
      omega
    · rw [pairwise_append]
      refine ⟨hinv.increasing,pairwise_singleton _ _,?_⟩
      intro earlier hearlier later hlater
      rw [mem_singleton.mp hlater]
      exact Nat.lt_succ_of_le (hinv.bounded earlier hearlier)
    · intro revision hmem
      rw [hrevision]
      rcases mem_append.mp hmem with hmem | hmem
      · exact Nat.le_succ_of_le (hinv.bounded revision hmem)
      · exact Nat.le_of_eq (mem_singleton.mp hmem)
    · left
      rw [hrevision]
      simp
    · rw [hrevision]
      exact hnewest

theorem toValue_isSome (hcodec : Codec env boot) (snapshot : Snapshot) :
    (env.toValue snapshot).isSome = true := by
  obtain ⟨value,hvalue,_⟩ := hcodec snapshot
  rw [hvalue]
  rfl

variable {event : ServiceEvent Snapshot}

section
variable (hdurable : env.durable = true)
include hdurable

theorem serviceInv_step (hcodec : Codec env boot) (hcontinues : RestartContinues env boot service event)
    (hinv : ServiceInv boot service) : ServiceInv boot (serviceStep env boot service event) := by
  cases event with
  | request request times =>
    exact serviceInv_advanced hcodec hinv
      (advanced_handle times service.app hdurable (toValue_isSome hcodec) request)
  | restart nowSecs =>
    apply serviceInv_startup hdurable hcodec hinv.readable nowSecs hinv.increasing
    intro revision hrevision
    exact Nat.le_of_lt_succ (hcontinues revision hrevision)

/-- A restart continues the numbering exactly if the counter is within the
history limit. -/
theorem restartContinues_iff (hinv : ServiceInv boot service) (event : ServiceEvent Snapshot) :
    RestartContinues env boot service event ↔ RestartWithinLimit boot service event := by
  cases event with
  | request request times => exact Iff.rfl
  | restart nowSecs =>
    have hrecorded := hinv.recorded
    have hseed := revision_startup hdurable hinv.readable nowSecs
    constructor
    · intro hcontinues
      rcases hinv.origin with hpublished | hlimit
      · have hlt := hcontinues _ hpublished
        rw [hseed] at hlt
        unfold RestartWithinLimit
        omega
      · exact hlimit
    · intro hlimit revision hmem
      have hle := hinv.bounded revision hmem
      unfold RestartWithinLimit at hlimit
      rw [hseed]
      omega

def Ahead (earlier later : Service Snapshot Json) : Prop := earlier.app.revision ≤ later.app.revision ∧
    (later.published = earlier.published ∨ earlier.app.revision < later.app.revision)

theorem ahead_step (hcodec : Codec env boot) {earlier : Service Snapshot Json}
    (hlimit : RestartWithinLimit boot service event) (hinv : ServiceInv boot service)
    (hahead : Ahead earlier service) : Ahead earlier (serviceStep env boot service event) := by
  obtain ⟨hle,hgrown⟩ := hahead
  cases event with
  | request request times =>
    have hadvanced := advanced_handle times service.app hdurable (toValue_isSome hcodec) request
    rcases hadvanced with ⟨hrevision,_,_,hpublished⟩ | ⟨hrevision,_,_,_⟩
    · unfold Ahead serviceStep
      dsimp only
      rw [hrevision,hpublished,append_nil]
      exact ⟨hle,hgrown⟩
    · unfold Ahead serviceStep
      rw [hrevision]
      exact ⟨Nat.le_succ_of_le hle,.inr (Nat.lt_succ_of_le hle)⟩
  | restart nowSecs =>
    have hseed := revision_startup hdurable hinv.readable nowSecs
    have hrecorded := hinv.recorded
    have hkept : service.app.revision ≤ (startup env boot service.app.revisions nowSecs).revision := by
      unfold RestartWithinLimit at hlimit
      rw [hseed]
      omega
    refine ⟨Nat.le_trans hle hkept,?_⟩
    exact hgrown.imp id fun hlt => Nat.lt_of_lt_of_le hlt hkept

def Progress (boot : Boot Snapshot Json) (earlier later : Service Snapshot Json) : Prop :=
  ServiceInv boot later ∧ Ahead earlier later

theorem progress_run (hcodec : Codec env boot) {history : List (ServiceEvent Snapshot)}
    (hlimit : Along (serviceStep env boot) (RestartWithinLimit boot) service history)
    (hinv : ServiceInv boot service) :
    Progress boot service (run (serviceStep env boot) service history) := by
  have hstep : ∀ state event, RestartWithinLimit boot state event → Progress boot service state →
      Progress boot service (serviceStep env boot state event) := by
    intro state event hevent hstate
    have hcontinues := (restartContinues_iff hdurable hstate.1 event).mpr hevent
    exact ⟨serviceInv_step hdurable hcodec hcontinues hstate.1,
      ahead_step hdurable hcodec hevent hstate.1 hstate.2⟩
  exact invariant_run hstep hlimit ⟨hinv,Nat.le_refl _,.inl rfl⟩

end

theorem fetchAndApply_of_behind {view : JsonView Json} {agent : Agent Json} {json : Json} {revision : Nat}
    {version : String} (reason : String) (hvalid : validateSnapshot view json = .ok (revision,version))
    (hbehind : agent.sync.currentRevision < revision) :
    (fetchAndApply view agent reason (.ok json) (.ok ())).2 = ⟨⟨revision,version⟩,some json⟩ := by
  have hfetch : upToDate agent.sync revision version = false := by
    unfold upToDate
    by_cases hfirst : agent.sync.currentRevision = 0 ∧ agent.sync.lastVersion.isEmpty = true
    · rw [if_pos hfirst]
    · rw [if_neg hfirst,if_neg (by omega)]
      exact decide_eq_false (by omega)
  simp [fetchAndApply,hvalid,hfetch]

end Runs

/-- On reconnecting with `current`, an edge is told that it is stale or is
replayed an event that makes it fetch. -/
def SentToFetch (ring : List ConfigEvent) (current : Nat) : Prop :=
  (selectMissedEvents ring current eventRingCap).2 = true ∨
    ∃ event ∈ (selectMissedEvents ring current eventRingCap).1, decideRevision current event.revision = .fetch

/-- The numbering continues over every restart of a history iff the counter is
within the history limit at each of them; and then revisions increase over the
whole history, and an agent that was up to date at any point of it is sent to
fetch after every later publication, by replay or as stale, and activates the
configuration it is then served. -/
theorem revisions_continue_iff_withinLimit (env : Env Snapshot Json) (boot : Boot Snapshot Json)
    (hdurable : env.durable = true) (hcodec : Codec env boot) (revisions : List (Revision Json))
    (hreadable : ∀ row ∈ revisions, (boot.fromValue row.snapshot).isSome = true) (nowSecs : Nat)
    (history : List (ServiceEvent Snapshot)) :
    let start := firstStart env boot revisions nowSecs
    (Along (serviceStep env boot) (RestartContinues env boot) start history ↔
      Along (serviceStep env boot) (RestartWithinLimit boot) start history) ∧
    (Along (serviceStep env boot) (RestartWithinLimit boot) start history →
      (run (serviceStep env boot) start history).published.Pairwise (· < ·) ∧
      ∀ before after, history = before ++ after →
        let earlier := run (serviceStep env boot) start before
        let later := run (serviceStep env boot) start history
        later.published ≠ earlier.published →
        ∀ agent : Agent (SnapshotEnvelope Snapshot), agent.sync.currentRevision = earlier.app.revision →
          SentToFetch later.app.events agent.sync.currentRevision ∧
          ∀ version routes services times content activated reason,
            (execute machine (getConfig true : Handler Snapshot Json _) (reachable times)
              later.app).value = ⟨200,.envelope content⟩ →
            validateSnapshot (servedView version routes services) content =
              .ok (content.revision,activated) →
            (fetchAndApply (servedView version routes services) agent reason (.ok content)
              (.ok ())).2 = ⟨⟨later.app.revision,activated⟩,some content⟩ ∧
              content.snapshot = later.app.live) := by
  intro start
  have hstart : ServiceInv boot start :=
    serviceInv_startup hdurable hcodec hreadable nowSecs List.Pairwise.nil (by simp)
  refine ⟨?_,?_⟩
  · have hall : Along (serviceStep env boot) (fun _ _ => True) start history :=
      along_of_forall (fun _ _ => trivial) _ _
    exact along_congr
      (fun _ _ _ hcontinues hinv => serviceInv_step hdurable hcodec hcontinues hinv)
      (fun _ event _ hinv => restartContinues_iff hdurable hinv event) hall hstart
  · intro hlimit
    have hfinal := progress_run hdurable hcodec hlimit hstart
    refine ⟨hfinal.1.increasing,?_⟩
    rintro before after rfl earlier later hpublished agent hcurrent
    have hsplit := (along_append _ _ _ _ _).mp hlimit
    have hearlier := progress_run hdurable hcodec hsplit.1 hstart
    have hlater := progress_run hdurable hcodec hsplit.2 hearlier.1
    rw [← run_append] at hlater
    have hbehind : agent.sync.currentRevision < later.app.revision := by
      rw [hcurrent]
      exact hlater.2.2.resolve_left hpublished
    obtain ⟨newest,hnewest,hrevision⟩ := hfinal.1.newest
    refine ⟨?_,?_⟩
    · rw [← hrevision] at hbehind
      refine (selectMissedEvents_back hnewest hbehind eventRingCap).imp_right ?_
      intro hmem
      exact ⟨newest,hmem,if_pos hbehind⟩
    · intro version routes services times content activated reason hserved hvalid
      have hcontent : (⟨later.app.live,later.app.revision,times 2⟩ : SnapshotEnvelope Snapshot) =
          content := by
        have hbody := congrArg Response.body hserved
        exact Body.envelope.inj hbody
      subst hcontent
      exact ⟨fetchAndApply_of_behind reason hvalid hbehind,rfl⟩

/-! ## More changes than the default limit -/

def durableEnv : Env String String := { sampleEnv with durable := true }
def defaultBoot : Boot String String := ⟨some,id,"v1","",20⟩

def postEvent (version : String) : ServiceEvent String :=
  .request (.post ⟨⟨true,true,"10.0.0.1"⟩,.ok version,false⟩) fun _ => 7

theorem codec_durableEnv : Codec durableEnv defaultBoot := fun snapshot => ⟨snapshot,rfl,rfl⟩

theorem revisions_continue_oneRestart :
    (run (serviceStep durableEnv defaultBoot) (firstStart durableEnv defaultBoot [] 0)
      [postEvent "v2",.restart 0,postEvent "v3"]).published.Pairwise (· < ·) :=
  ((revisions_continue_iff_withinLimit durableEnv defaultBoot rfl codec_durableEnv [] (by simp) 0
    [postEvent "v2",.restart 0,postEvent "v3"]).2 ⟨trivial,(by decide : _ ≤ _),trivial,trivial⟩).1

def pastLimit : List (ServiceEvent String) :=
  List.replicate 20 (postEvent "v2") ++ [.restart 0,postEvent "v3"]

theorem revision_published_twice_past_limit :
    let service := run (serviceStep durableEnv defaultBoot) (firstStart durableEnv defaultBoot [] 0)
      pastLimit
    let agent : Agent (SnapshotEnvelope String) := ⟨⟨21,"v2"⟩,some ⟨"v2",21,7⟩⟩
    service.published[19]? = some 21 ∧ service.published[20]? = some 21 ∧ service.app.live = "v3" ∧
      selectMissedEvents service.app.events 21 eventRingCap = ([],false) ∧
      (fetchAndApply (servedView id (fun _ => 1) fun _ => 1) agent "reconcile"
        (.ok ⟨"v3",21,7⟩) (.ok ())).2 = agent := by
  decide +kernel

end Routiq.ControlPlane.Restart
