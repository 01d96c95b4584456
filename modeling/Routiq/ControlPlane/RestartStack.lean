import Routiq.ControlPlane.Restart
import Routiq.ControlPlane.Rejections
import Routiq.ControlPlane.Validation

/-! The rollback stack across a restart. In memory a rollback pops; the durable
table only grows, and has the rollback as one more row at its end. -/
namespace Routiq.ControlPlane.RestartStack
open Core Runs Processes Documents List Store Handlers Schema Validation Restart
open Rejections (Admitted refuseAdmin_of_admitted refuseAdmin_of_not_admitted)

/-! ## A control plane with Postgres -/

structure Deployment where
  jwtSecret : String
  maxConcurrency : UInt64
  /-- The configuration in `conf.d`. -/
  confD : ConfigSnapshot
  historyLimit : Nat
  diffReport : ConfigSnapshot → ConfigSnapshot → DiffReport

namespace Deployment

variable (deployment : Deployment)

def withJwtSecret (snapshot : ConfigSnapshot) : ConfigSnapshot :=
  { snapshot with jwtSecret := deployment.jwtSecret }

def restored (snapshot : ConfigSnapshot) : ConfigSnapshot := { snapshot with
    jwtSecret := deployment.jwtSecret, globalMaxConcurrency := deployment.maxConcurrency }

def env : Env ConfigSnapshot Json where
  version := ConfigSnapshot.version
  withJwtSecret := deployment.withJwtSecret
  validateConfig := validateConfig
  diffReport := deployment.diffReport
  toValue snapshot := some snapshot.toJson
  durable := true

def boot : Boot ConfigSnapshot Json where
  fromValue := ConfigSnapshot.fromJson
  restored := deployment.restored
  loadInitialConfig := deployment.restored deployment.confD
  emptyObject := .object []
  historyLimit := deployment.historyLimit

def reread (snapshot : ConfigSnapshot) : ConfigSnapshot := { snapshot with
    jwtSecret := deployment.jwtSecret, jwtKeys := .empty, globalMaxConcurrency := deployment.maxConcurrency }

end Deployment

abbrev Timed (Request : Type) := Request × (Nat → Nat)

section
variable (deployment : Deployment)

section
variable (app : AppState ConfigSnapshot Json)

def handled (request : Timed (Request ConfigSnapshot)) : AppState ConfigSnapshot Json :=
  (execute machine (handle deployment.env request.1) (reachable request.2) app).world

def rolledBack (rollbacks : List (Timed AdminRequest)) : AppState ConfigSnapshot Json :=
  run (handled deployment) app (rollbacks.map fun rollback => (.rollback rollback.1,rollback.2))

def stack : List ConfigSnapshot := app.store.history.reverse

end

section
variable (rows : List (Revision Json))

/-- The configurations of the table as a restart reads them, the newest first. -/
def table : List ConfigSnapshot :=
  (rows.filterMap fun row => (ConfigSnapshot.fromJson row.snapshot).map deployment.restored).reverse

def Written : Prop :=
  ∀ row ∈ rows, ∃ snapshot : ConfigSnapshot, row.snapshot = snapshot.toJson

def rowsSince (base : List (Revision Json)) (app : AppState ConfigSnapshot Json) : List (Revision Json) :=
  app.revisions.drop base.length

def postsSinceRollback : Nat :=
  (rows.reverse.takeWhile fun row => row.action = .apply).length

end

/-! ## What one request does -/

inductive Effect (request : Request ConfigSnapshot)
    (before after : AppState ConfigSnapshot Json) : Prop where
  | none (hstore : after.store = before.store) (hlive : after.live = before.live)
    (hrows : after.revisions = before.revisions)
  | posted (post : PostRequest ConfigSnapshot) (parsed : ConfigSnapshot) (row : Revision Json)
    (hrequest : request = .post post) (hbody : post.body = .ok parsed)
    (hrow : row.snapshot = (deployment.withJwtSecret parsed).toJson) (haction : row.action = .apply)
    (hstore : after.store = before.store.push (deployment.withJwtSecret parsed))
    (hlive : after.live = deployment.withJwtSecret parsed)
    (hrows : after.revisions = before.revisions ++ [row])
  | rolledBack (row : Revision Json) (hrow : row.snapshot = before.store.pop.current.toJson)
    (haction : row.action = .rollback) (hstore : after.store = before.store.pop)
    (hlive : after.live = before.store.pop.current) (hrows : after.revisions = before.revisions ++ [row])

end

section Requests
variable (deployment : Deployment) (times : Nat → Nat) (app : AppState ConfigSnapshot Json)

theorem effect_post (request : PostRequest ConfigSnapshot) :
    Effect deployment (.post request) app (handled deployment app (.post request,times)) := by
  unfold handled
  simp only [handle,postConfig]
  cases refuseAdmin request.admin with
  | some response => exact .none rfl rfl rfl
  | none =>
    cases hbody : request.body with
    | error message => exact .none rfl rfl rfl
    | ok parsed =>
      cases hdryRun : request.dryRun with
      | true => apply Effect.none <;> simp [perform,execute_call,machine,exec]
      | false =>
        cases hvalid : (validateConfig (deployment.withJwtSecret parsed)).valid with
        | false => apply Effect.none <;> simp [perform,execute_call,machine,exec,hvalid,Deployment.env]
        | true =>
          refine .posted request parsed ⟨(deployment.withJwtSecret parsed).version,.apply,
            request.admin.actorIp,(deployment.withJwtSecret parsed).toJson⟩ rfl hbody rfl rfl ?_ ?_ ?_ <;>
          simp [perform,applyConfig,publishRevision,recordRevision,execute_call,machine,exec,
            reachable,hvalid,Deployment.env]

theorem handled_rollback {request : AdminRequest} (hadmitted : Admitted request) :
    (handled deployment app (.rollback request,times)).store = app.store.pop ∧
    (handled deployment app (.rollback request,times)).live = app.store.pop.current ∧
    (handled deployment app (.rollback request,times)).revisions = app.revisions ++
      [⟨app.store.pop.current.version,.rollback,request.actorIp,app.store.pop.current.toJson⟩] := by
  unfold handled
  simp only [handle,rollbackConfig, refuseAdmin_of_admitted hadmitted]
  simp [perform,publishRevision,recordRevision,execute_call,machine,exec,reachable,Deployment.env]

theorem effect_handled (request : Timed (Request ConfigSnapshot)) :
    Effect deployment request.1 app (handled deployment app request) := by
  obtain ⟨request,times⟩ := request
  cases request with
  | get readTokenValid =>
    cases readTokenValid with
    | false | true => exact .none rfl rfl rfl
  | post request => exact effect_post deployment times app request
  | rollback request =>
    by_cases hadmitted : Admitted request
    · obtain ⟨hstore,hlive,hrows⟩ := handled_rollback deployment times app hadmitted
      exact .rolledBack _ rfl rfl hstore hlive hrows
    · obtain ⟨response,hrefused⟩ := refuseAdmin_of_not_admitted ConfigSnapshot hadmitted
      have hsame : handled deployment app (.rollback request,times) = app := by
        unfold handled
        simp only [handle,rollbackConfig,hrefused]
        rfl
      exact .none (congrArg _ hsame) (congrArg _ hsame) (congrArg _ hsame)

end Requests

/-! ## The stack and the table -/

variable {row : Revision Json} {snapshot : ConfigSnapshot}

section Stack
variable {deployment : Deployment} (store : ConfigStore ConfigSnapshot)

theorem stack_head : store.history.reverse.head? = some store.current := by
  rw [head?_reverse,getLast?_eq_some_getLast store.nonempty]
  rfl

theorem stack_push (snapshot : ConfigSnapshot) :
    (store.push snapshot).history.reverse <+: snapshot :: store.history.reverse := by
  have hsuffix := store.push_suffix snapshot
  rw [← reverse_prefix,reverse_append] at hsuffix
  exact hsuffix

theorem stack_pop {store : ConfigStore ConfigSnapshot} (hlong : 1 < store.history.length) :
    store.pop.history.reverse = store.history.reverse.tail := by
  rw [ConfigStore.pop_of_long hlong,tail_reverse]

theorem table_append (rows : List (Revision Json)) (hrow : row.snapshot = snapshot.toJson) :
    table deployment (rows ++ [row]) = deployment.reread snapshot :: table deployment rows := by
  unfold table
  simp [filterMap_append,hrow,ConfigSnapshot.fromJson_toJson,Deployment.restored,Deployment.reread]

variable {rows : List (Revision Json)}

theorem readable_of_written (hwritten : Written rows) :
    ∀ row ∈ rows, (ConfigSnapshot.fromJson row.snapshot).isSome = true := by
  intro row hrow
  obtain ⟨snapshot,hsnapshot⟩ := hwritten row hrow
  rw [hsnapshot,ConfigSnapshot.fromJson_toJson]
  rfl

theorem reread_of_mem_table (hwritten : Written rows)
    (hmem : snapshot ∈ table deployment rows) : deployment.reread snapshot = snapshot := by
  unfold table at hmem
  rw [mem_reverse,mem_filterMap] at hmem
  obtain ⟨row,hrow,hread⟩ := hmem
  obtain ⟨written,hsnapshot⟩ := hwritten row hrow
  rw [hsnapshot,ConfigSnapshot.fromJson_toJson,Option.map_some,Option.some.injEq] at hread
  rw [← hread]
  rfl

theorem filterMap_drop {Value Other : Type} {read : Value → Option Other} {values : List Value}
    (hread : ∀ value ∈ values, (read value).isSome = true) (count : Nat) :
    (values.drop count).filterMap read = (values.filterMap read).drop count := by
  induction values generalizing count with
  | nil => simp
  | cons value values ih =>
    obtain ⟨other,hother⟩ := Option.isSome_iff_exists.mp (hread value mem_cons_self)
    cases count with
    | zero => rfl
    | succ count =>
      rw [drop_succ_cons,filterMap_cons_some hother,drop_succ_cons]
      exact ih (fun later hlater => hread later (mem_cons_of_mem value hlater)) count

theorem restoredHistory_reverse (hwritten : Written rows) :
    (restoredHistory deployment.boot rows).reverse = (table deployment rows).take deployment.historyLimit := by
  have hread : ∀ row ∈ rows,
      ((ConfigSnapshot.fromJson row.snapshot).map deployment.restored).isSome = true := by
    intro row hrow
    rw [Option.isSome_map]
    exact readable_of_written hwritten row hrow
  have hlength : (rows.filterMap fun row =>
      (ConfigSnapshot.fromJson row.snapshot).map deployment.restored).length = rows.length := by
    rw [length_filterMap_eq_countP,countP_eq_length.mpr hread]
  have hrestored : restoredHistory deployment.boot rows = (rows.filterMap fun row =>
      (ConfigSnapshot.fromJson row.snapshot).map deployment.restored).drop
        (rows.length - deployment.historyLimit) := filterMap_drop hread _
  rw [hrestored,reverse_drop,hlength]
  unfold table
  rw [take_eq_take_iff,length_reverse,hlength]
  omega

section
variable (rows : List (Revision Json)) (nowSecs : Nat)

theorem startup_live : (startup deployment.env deployment.boot rows nowSecs).live =
      (startup deployment.env deployment.boot rows nowSecs).store.current := rfl

theorem startup_historyLimit :
    (startup deployment.env deployment.boot rows nowSecs).store.historyLimit = deployment.historyLimit := by
  unfold startup rebuildInitialState
  rw [if_pos (show deployment.env.durable = true from rfl)]
  cases restoredHistory deployment.boot rows with
  | nil | cons first rest => rfl

end

theorem startup_restored (hlimit : 0 < deployment.historyLimit) (hwritten : Written rows) (hrows : rows ≠ [])
    (nowSecs : Nat) : stack (startup deployment.env deployment.boot rows nowSecs) =
        (table deployment rows).take deployment.historyLimit ∧
      (startup deployment.env deployment.boot rows nowSecs).revisions = rows := by
  have hlength : (restoredHistory deployment.boot rows).length = min deployment.historyLimit rows.length :=
    length_restoredHistory (readable_of_written hwritten)
  have hpos := length_pos_iff.mpr hrows
  rw [← restoredHistory_reverse hwritten]
  unfold startup rebuildInitialState
  rw [if_pos (show deployment.env.durable = true from rfl)]
  cases hhistory : restoredHistory deployment.boot rows with
  | nil =>
    rw [hhistory,length_nil] at hlength
    omega
  | cons first rest => exact ⟨rfl,rfl⟩

theorem startup_seeded (deployment : Deployment) (nowSecs : Nat) :
    stack (startup deployment.env deployment.boot [] nowSecs) = [deployment.restored deployment.confD] ∧
      ∃ row : Revision Json, row.snapshot = (deployment.restored deployment.confD).toJson ∧
        (startup deployment.env deployment.boot [] nowSecs).revisions = [] ++ [row] := by
  have hnone : restoredHistory deployment.boot [] = [] := by simp [restoredHistory,historySnapshots]
  unfold startup rebuildInitialState
  rw [if_pos (show deployment.env.durable = true from rfl),hnone]
  exact ⟨rfl,_,rfl,rfl⟩

end Stack

/-! ## Rollbacks walk down the stack -/

theorem live_rolledBack (deployment : Deployment) {app : AppState ConfigSnapshot Json} (hlive : app.live = app.store.current)
    {rollbacks : List (Timed AdminRequest)} (hadmitted : ∀ rollback ∈ rollbacks, Admitted rollback.1)
    (hdepth : rollbacks.length < app.store.history.length) :
    some (rolledBack deployment app rollbacks).live = (stack app)[rollbacks.length]? := by
  induction rollbacks generalizing app with
  | nil =>
    rw [length_nil,← head?_eq_getElem?,stack,stack_head,← hlive]
    rfl
  | cons rollback rollbacks ih =>
    rw [length_cons] at hdepth
    obtain ⟨hstore,hpopped,_⟩ := handled_rollback deployment rollback.2 app
      (hadmitted rollback mem_cons_self)
    have hstack : stack (handled deployment app (.rollback rollback.1,rollback.2)) = (stack app).tail := by
      unfold stack
      rw [hstore,stack_pop (by omega)]
    have hlength : rollbacks.length <
        (handled deployment app (.rollback rollback.1,rollback.2)).store.history.length := by
      have htail := congrArg List.length hstack
      rw [length_tail,stack,stack,length_reverse,length_reverse] at htail
      omega
    have hrest := ih (by rw [hpopped,hstore])
      (fun later hlater => hadmitted later (mem_cons_of_mem rollback hlater)) hlength
    rw [hstack,getElem?_tail] at hrest
    exact hrest

/-! ## What a run keeps -/

section Runs
variable {deployment : Deployment} {base : List (Revision Json)} {app : AppState ConfigSnapshot Json}

/-- `base` is the table as the start left it. The configurations on top of the
stack that were posted since the last rollback, and the one below them, are on
top of the table; without a rollback the whole stack is. -/
structure StackInv (deployment : Deployment) (base : List (Revision Json))
    (app : AppState ConfigSnapshot Json) : Prop where
  live : app.live = app.store.current
  limit : app.store.historyLimit = deployment.historyLimit
  bounded : app.store.history.length ≤ deployment.historyLimit
  written : Written app.revisions
  grown : base <+: app.revisions
  covered : (stack app).length ≤ (table deployment app.revisions).length
  unrolled : (∀ row ∈ rowsSince base app, row.action ≠ .rollback) →
    (stack app).map deployment.reread <+: table deployment app.revisions
  recent : ((stack app).take (postsSinceRollback (rowsSince base app) + 1)).map deployment.reread <+:
    table deployment app.revisions

variable {after : AppState ConfigSnapshot Json} {row : Revision Json}

theorem rowsSince_append (hgrown : base <+: app.revisions)
    (hrows : after.revisions = app.revisions ++ [row]) :
    rowsSince base after = rowsSince base app ++ [row] := by
  unfold rowsSince
  rw [hrows,drop_append_of_le_length hgrown.length_le]

variable {rows : List (Revision Json)}

theorem written_append (hwritten : Written rows)
    (hrow : row.snapshot = snapshot.toJson) : Written (rows ++ [row]) := by
  intro other hother
  rcases mem_append.mp hother with hearlier | hlast
  · exact hwritten other hearlier
  · rw [mem_singleton.mp hlast]
    exact ⟨snapshot,hrow⟩

theorem postsSinceRollback_posted (haction : row.action = .apply) (rows : List (Revision Json)) :
    postsSinceRollback (rows ++ [row]) = postsSinceRollback rows + 1 := by
  simp [postsSinceRollback,haction]

theorem postsSinceRollback_rolledBack (haction : row.action = .rollback)
    (rows : List (Revision Json)) : postsSinceRollback (rows ++ [row]) = 0 := by
  simp [postsSinceRollback,haction]

variable {snapshots : List ConfigSnapshot}

section
variable {rows : List ConfigSnapshot} (hfront : snapshots.map deployment.reread <+: rows)
include hfront

theorem map_take_isPrefix (count : Nat) : (snapshots.take count).map deployment.reread <+: rows :=
  (( take_prefix count snapshots).map _).trans hfront

theorem length_le_of_map_isPrefix : snapshots.length ≤ rows.length := by
  have hlength := hfront.length_le
  rwa [length_map] at hlength

end

theorem map_reread_table (hwritten : Written rows) (count : Nat) :
    ((table deployment rows).take count).map deployment.reread = (table deployment rows).take count := by
  have hsame : ∀ snapshot ∈ (table deployment rows).take count, deployment.reread snapshot = id snapshot :=
    fun snapshot hmem => reread_of_mem_table hwritten (mem_of_mem_take hmem)
  rw [map_congr_left hsame,map_id]

theorem stackInv_startup (hlimit : 0 < deployment.historyLimit) (hwritten : Written rows) (nowSecs : Nat) :
    StackInv deployment (startup deployment.env deployment.boot rows nowSecs).revisions
      (startup deployment.env deployment.boot rows nowSecs) := by
  cases rows with
  | nil =>
    obtain ⟨hstack,row,hrow,hrows⟩ := startup_seeded deployment nowSecs
    have hfront : (stack (startup deployment.env deployment.boot [] nowSecs)).map deployment.reread <+:
        table deployment (startup deployment.env deployment.boot [] nowSecs).revisions := by
      rw [hstack,hrows,table_append [] hrow]
      exact cons_prefix_cons.mpr ⟨rfl, nil_prefix⟩
    refine ⟨startup_live [] nowSecs,startup_historyLimit [] nowSecs,?_,?_, prefix_rfl,
      length_le_of_map_isPrefix hfront,fun _ => hfront,map_take_isPrefix hfront _⟩
    · have hlength := congrArg List.length hstack
      rw [stack,length_reverse,length_singleton] at hlength
      omega
    · rw [hrows]
      exact written_append hwritten hrow
  | cons first rest =>
    obtain ⟨hstack,hrows⟩ := startup_restored hlimit hwritten (cons_ne_nil first rest) nowSecs
    have hfront : (stack (startup deployment.env deployment.boot (first :: rest) nowSecs)).map
        deployment.reread <+:
        table deployment (startup deployment.env deployment.boot (first :: rest) nowSecs).revisions := by
      rw [hstack,hrows,map_reread_table hwritten]
      exact take_prefix _ _
    refine ⟨startup_live _ nowSecs,startup_historyLimit _ nowSecs,?_,?_, prefix_rfl,
      length_le_of_map_isPrefix hfront,fun _ => hfront,map_take_isPrefix hfront _⟩
    · have hlength := congrArg List.length hstack
      rw [stack,length_reverse,length_take] at hlength
      omega
    · rw [hrows]
      exact hwritten

theorem stackInv_posted (hrow : row.snapshot = snapshot.toJson)
    (haction : row.action = .apply) (hstore : after.store = app.store.push snapshot)
    (hlive : after.live = snapshot) (hrows : after.revisions = app.revisions ++ [row])
    (hinv : StackInv deployment base app) : StackInv deployment base after := by
  have hsince := rowsSince_append hinv.grown hrows
  have hposts := postsSinceRollback_posted haction (rowsSince base app)
  have hstack : stack after <+: snapshot :: stack app := by
    unfold stack
    rw [hstore]
    exact stack_push app.store snapshot
  have htable : table deployment after.revisions =
      deployment.reread snapshot :: table deployment app.revisions := by
    rw [hrows,table_append _ hrow]
  constructor
  · rw [hlive,hstore,ConfigStore.current_push]
  · rw [hstore]
    exact hinv.limit
  · have hbounded := hinv.bounded
    rw [hstore]
    unfold ConfigStore.push ConfigStore.pushHistory
    dsimp only
    rw [hinv.limit]
    split
    · rw [length_tail,length_append,length_singleton]
      omega
    · omega
  · rw [hrows]
    exact written_append hinv.written hrow
  · rw [hrows]
    exact hinv.grown.trans (prefix_append _ _)
  · have hlength := hstack.length_le
    have hcovered := hinv.covered
    rw [htable,length_cons]
    rw [length_cons] at hlength
    omega
  · intro hnone
    rw [hsince] at hnone
    have hbefore := hinv.unrolled fun other hother => hnone other (mem_append_left _ hother)
    rw [htable]
    exact (hstack.map _).trans (cons_prefix_cons.mpr ⟨rfl,hbefore⟩)
  · rw [hsince,hposts,htable]
    have htake := hstack.take (postsSinceRollback (rowsSince base app) + 1 + 1)
    rw [take_succ_cons] at htake
    exact (htake.map _).trans (cons_prefix_cons.mpr ⟨rfl,hinv.recent⟩)

theorem stackInv_rolledBack (hrow : row.snapshot = app.store.pop.current.toJson)
    (haction : row.action = .rollback) (hstore : after.store = app.store.pop)
    (hlive : after.live = app.store.pop.current) (hrows : after.revisions = app.revisions ++ [row])
    (hinv : StackInv deployment base app) : StackInv deployment base after := by
  have hsince := rowsSince_append hinv.grown hrows
  have hposts := postsSinceRollback_rolledBack haction (rowsSince base app)
  constructor
  · rw [hlive,hstore]
  · rw [hstore]
    exact hinv.limit
  · have hbounded := hinv.bounded
    have hlength := app.store.length_pop_le
    rw [hstore]
    omega
  · rw [hrows]
    exact written_append hinv.written hrow
  · rw [hrows]
    exact hinv.grown.trans (prefix_append _ _)
  · have hcovered := hinv.covered
    have hlength := app.store.length_pop_le
    rw [hrows,table_append _ hrow,length_cons,stack,hstore,length_reverse]
    rw [stack,length_reverse] at hcovered
    omega
  · intro hnone
    rw [hsince] at hnone
    exact absurd haction (hnone row (mem_append_right _ mem_cons_self))
  · have htop : (stack after).take 1 = [app.store.pop.current] := by
      rw [take_one,stack,stack_head,hstore]
      rfl
    rw [hsince,hposts,Nat.zero_add,htop,hrows,table_append _ hrow]
    exact cons_prefix_cons.mpr ⟨rfl, nil_prefix⟩

theorem stackInv_handled (request : Timed (Request ConfigSnapshot)) (hinv : StackInv deployment base app) :
    StackInv deployment base (handled deployment app request) := by
  cases effect_handled deployment app request with
  | none hstore hlive hrows =>
    have hstack : stack (handled deployment app request) = stack app := congrArg (·.history.reverse) hstore
    have hsince : rowsSince base (handled deployment app request) = rowsSince base app :=
      congrArg (·.drop base.length) hrows
    constructor
    · rw [hlive,hstore]
      exact hinv.live
    · rw [hstore]
      exact hinv.limit
    · rw [hstore]
      exact hinv.bounded
    · rw [hrows]
      exact hinv.written
    · rw [hrows]
      exact hinv.grown
    · rw [hstack,hrows]
      exact hinv.covered
    · rw [hsince,hstack,hrows]
      exact hinv.unrolled
    · rw [hsince,hstack,hrows]
      exact hinv.recent
  | posted post parsed row hrequest hbody hrow haction hstore hlive hrows =>
    exact stackInv_posted hrow haction hstore hlive hrows hinv
  | rolledBack row hrow haction hstore hlive hrows =>
    exact stackInv_rolledBack hrow haction hstore hlive hrows hinv

theorem stackInv_run (requests : List (Timed (Request ConfigSnapshot))) (hinv : StackInv deployment base app) :
    StackInv deployment base (run (handled deployment) app requests) := by
  have hstep : ∀ state request, StackInv deployment base state →
      StackInv deployment base (handled deployment state request) :=
    fun state request hstate => stackInv_handled request hstate
  exact invariant_run_always hstep requests hinv

end Runs

/-! ## A restart -/

section
variable (deployment : Deployment)

/-- Nothing of a configuration is lost or overridden by writing it to the table
and reading it back, its secret apart. -/
def Plain (snapshot : ConfigSnapshot) : Prop :=
  snapshot.jwtKeys = .empty ∧ snapshot.globalMaxConcurrency = deployment.maxConcurrency

/-- Since the start with the table `base` nothing was rolled back, or enough was
posted after the last rollback to fill the stack above the configuration it
returned to. -/
structure Settled (base : List (Revision Json))
    (app : AppState ConfigSnapshot Json) : Prop where
  retained : 0 < deployment.historyLimit
  plain : ∀ snapshot ∈ app.store.history, Plain deployment snapshot
  refilled : (∀ row ∈ rowsSince base app, row.action ≠ .rollback) ∨
    app.store.history.length ≤ postsSinceRollback (rowsSince base app) + 1

/-- After a restart the live configuration and those that rollbacks return
through are the same as without it, apart from the secret. -/
def RestartTransparent (app : AppState ConfigSnapshot Json) (nowSecs : Nat) : Prop :=
  ∀ rollbacks : List (Timed AdminRequest), (∀ rollback ∈ rollbacks, Admitted rollback.1) →
    rollbacks.length < app.store.history.length →
    deployment.withJwtSecret (rolledBack deployment
        (startup deployment.env deployment.boot app.revisions nowSecs) rollbacks).live =
      deployment.withJwtSecret (rolledBack deployment app rollbacks).live

end

section Restart
variable {deployment : Deployment} {base : List (Revision Json)} {app : AppState ConfigSnapshot Json}

theorem withJwtSecret_reread_iff (snapshot : ConfigSnapshot) :
    deployment.withJwtSecret (deployment.reread snapshot) = deployment.withJwtSecret snapshot ↔
      Plain deployment snapshot := by
  constructor
  · intro hsame
    have hkeys := congrArg ConfigSnapshot.jwtKeys hsame
    have hconcurrency := congrArg ConfigSnapshot.globalMaxConcurrency hsame
    exact ⟨hkeys.symm,hconcurrency.symm⟩
  · rintro ⟨hkeys,hconcurrency⟩
    unfold Deployment.withJwtSecret Deployment.reread
    rw [← hkeys,← hconcurrency]

theorem map_stack_isPrefix_of_settled (hinv : StackInv deployment base app) (hsettled : Settled deployment base app) :
    (stack app).map deployment.reread <+: table deployment app.revisions := by
  rcases hsettled.refilled with hnone | hrefilled
  · exact hinv.unrolled hnone
  · have hrecent := hinv.recent
    rwa [take_of_length_le (by rwa [stack,length_reverse])] at hrecent

theorem restartTransparent_iff (hlimit : 0 < deployment.historyLimit) (hinv : StackInv deployment base app)
    (nowSecs : Nat) :
    RestartTransparent deployment app nowSecs ↔ ∀ depth < app.store.history.length,
        (table deployment app.revisions)[depth]?.map deployment.withJwtSecret =
          (stack app)[depth]?.map deployment.withJwtSecret := by
  have hcovered := hinv.covered
  have hbounded := hinv.bounded
  have hpos := length_pos_iff.mpr app.store.nonempty
  have hstackLength : (stack app).length = app.store.history.length := length_reverse
  have hrows : app.revisions ≠ [] := by
    intro hnil
    rw [hnil,show table deployment [] = [] from rfl,length_nil] at hcovered
    omega
  have hstack := (startup_restored hlimit hinv.written hrows nowSecs).1
  have hlength : app.store.history.length ≤
      (startup deployment.env deployment.boot app.revisions nowSecs).store.history.length := by
    have hrestarted := congrArg List.length hstack
    rw [stack,length_reverse,length_take] at hrestarted
    omega
  have hlives : ∀ rollbacks : List (Timed AdminRequest), (∀ rollback ∈ rollbacks, Admitted rollback.1) →
      rollbacks.length < app.store.history.length →
      some (rolledBack deployment (startup deployment.env deployment.boot app.revisions nowSecs)
          rollbacks).live = (table deployment app.revisions)[rollbacks.length]? ∧
      some (rolledBack deployment app rollbacks).live = (stack app)[rollbacks.length]? := by
    intro rollbacks hadmitted hdepth
    have hrestarted := live_rolledBack deployment (startup_live app.revisions nowSecs) hadmitted
      (Nat.lt_of_lt_of_le hdepth hlength)
    rw [hstack,getElem?_take_of_lt (by omega)] at hrestarted
    exact ⟨hrestarted,live_rolledBack deployment hinv.live hadmitted hdepth⟩
  constructor
  · intro htransparent depth hdepth
    have hadmitted : ∀ rollback ∈ List.replicate depth ((⟨true,true,""⟩,fun _ => 0) : Timed AdminRequest),
        Admitted rollback.1 := by
      intro rollback hmem
      rw [eq_of_mem_replicate hmem]
      exact ⟨rfl,rfl⟩
    have hshort : (List.replicate depth ((⟨true,true,""⟩,fun _ => 0) : Timed AdminRequest)).length <
        app.store.history.length := by rwa [length_replicate]
    obtain ⟨hrestarted,hrunning⟩ := hlives _ hadmitted hshort
    have hsame := htransparent _ hadmitted hshort
    rw [length_replicate] at hrestarted hrunning
    rw [← hrestarted,← hrunning,Option.map_some,Option.map_some,hsame]
  · intro hsame rollbacks hadmitted hdepth
    obtain ⟨hrestarted,hrunning⟩ := hlives rollbacks hadmitted hdepth
    have hdepths := hsame rollbacks.length hdepth
    rw [← hrestarted,← hrunning] at hdepths
    exact Option.some.inj hdepths

theorem restartTransparent_of_settled (hinv : StackInv deployment base app) (hsettled : Settled deployment base app)
    (nowSecs : Nat) : RestartTransparent deployment app nowSecs := by
  rw [restartTransparent_iff hsettled.retained hinv]
  intro depth hdepth
  obtain ⟨older,holder⟩ := map_stack_isPrefix_of_settled hinv hsettled
  have hlength : depth < (stack app).length := by rwa [stack,length_reverse]
  have hmem : (stack app)[depth] ∈ app.store.history := mem_reverse.mp (getElem_mem hlength)
  have hplain := (withJwtSecret_reread_iff _).mpr (hsettled.plain _ hmem)
  rw [← holder,getElem?_append_left (by rwa [length_map]),getElem?_map,
    getElem?_eq_getElem hlength,Option.map_some,Option.map_some,Option.map_some,hplain]

end Restart

/-! ## Only then -/

def Unseen (deployment : Deployment) (app : AppState ConfigSnapshot Json)
    (request : Timed (Request ConfigSnapshot)) : Prop :=
  ∀ post parsed, request.1 = .post post → post.body = .ok parsed →
    deployment.reread parsed ∉ table deployment app.revisions

/-- After a rollback the configuration it left is in the table right above
those that are below in the stack, and is none of them. -/
structure DistinctInv (deployment : Deployment) (base : List (Revision Json))
    (app : AppState ConfigSnapshot Json) : Prop where
  known : ∀ snapshot ∈ stack app, deployment.reread snapshot ∈ table deployment app.revisions
  nodup : ((stack app).map deployment.reread).Nodup
  left : ¬(∀ row ∈ rowsSince base app, row.action ≠ .rollback) →
    postsSinceRollback (rowsSince base app) + 1 < (stack app).length →
    ∃ other, (table deployment app.revisions)[postsSinceRollback (rowsSince base app) + 1]? = some other ∧
      other ∉ ((stack app).drop (postsSinceRollback (rowsSince base app) + 1)).map deployment.reread

section Distinct
variable {deployment : Deployment} {base : List (Revision Json)} {app after : AppState ConfigSnapshot Json}

theorem distinctInv_startup {start : AppState ConfigSnapshot Json}
    (hinv : StackInv deployment start.revisions start)
    (hnodup : ((stack start).map deployment.reread).Nodup) : DistinctInv deployment start.revisions start := by
  have hsince : rowsSince start.revisions start = [] := drop_length
  have hnone : ∀ row ∈ rowsSince start.revisions start, row.action ≠ .rollback := by
    rw [hsince]
    exact fun row hrow => absurd hrow not_mem_nil
  constructor
  · intro snapshot hmem
    exact (hinv.unrolled hnone).subset (mem_map_of_mem hmem)
  · exact hnodup
  · exact fun hrolled => absurd hnone hrolled

variable (hinv : StackInv deployment base app) (hdistinct : DistinctInv deployment base app)
include hinv hdistinct

theorem distinctInv_posted (hrow : row.snapshot = snapshot.toJson) (haction : row.action = .apply)
    (hstore : after.store = app.store.push snapshot) (hrows : after.revisions = app.revisions ++ [row])
    (hunseen : deployment.reread snapshot ∉ table deployment app.revisions) :
    DistinctInv deployment base after := by
  have hsince := rowsSince_append hinv.grown hrows
  have hposts := postsSinceRollback_posted haction (rowsSince base app)
  have hstack : stack after <+: snapshot :: stack app := by
    unfold stack
    rw [hstore]
    exact stack_push app.store snapshot
  have htable : table deployment after.revisions =
      deployment.reread snapshot :: table deployment app.revisions := by
    rw [hrows,table_append _ hrow]
  constructor
  · intro other hother
    rw [htable,mem_cons]
    rcases mem_cons.mp (hstack.subset hother) with rfl | hbelow
    · exact .inl rfl
    · exact .inr (hdistinct.known other hbelow)
  · have hcons : ((snapshot :: stack app).map deployment.reread).Nodup := by
      rw [map_cons,nodup_cons]
      refine ⟨fun hmem => ?_,hdistinct.nodup⟩
      obtain ⟨other,hother,hsame⟩ := mem_map.mp hmem
      exact hunseen (hsame ▸ hdistinct.known other hother)
    exact hcons.sublist (hstack.map _).sublist
  · rw [hsince,hposts,htable]
    intro hrolled hdeep
    have hlength := hstack.length_le
    rw [length_cons] at hlength
    have hearlier : ¬∀ row ∈ rowsSince base app, row.action ≠ .rollback := by
      intro hnone
      apply hrolled
      intro other hother
      rcases mem_append.mp hother with hother | hother
      · exact hnone other hother
      · rw [mem_singleton.mp hother,haction]
        decide
    obtain ⟨other,hother,hfresh⟩ := hdistinct.left hearlier (by omega)
    refine ⟨other,hother,fun hmem => hfresh ?_⟩
    exact ((hstack.drop _).map _).subset hmem

theorem distinctInv_rolledBack
    (hrow : row.snapshot = app.store.pop.current.toJson) (haction : row.action = .rollback)
    (hstore : after.store = app.store.pop) (hrows : after.revisions = app.revisions ++ [row]) :
    DistinctInv deployment base after := by
  have hsince := rowsSince_append hinv.grown hrows
  have hposts := postsSinceRollback_rolledBack haction (rowsSince base app)
  have htable : table deployment after.revisions =
      deployment.reread app.store.pop.current :: table deployment app.revisions := by
    rw [hrows,table_append _ hrow]
  have hpopped : stack after = (stack app).tail ∨ stack after = stack app ∧ app.store.history.length ≤ 1 := by
    unfold stack
    rw [hstore]
    by_cases hlong : 1 < app.store.history.length
    · exact .inl (stack_pop hlong)
    · refine .inr ⟨?_,Nat.le_of_not_lt hlong⟩
      unfold ConfigStore.pop
      dsimp only
      rw [if_neg hlong]
  have hsublist : (stack after).Sublist (stack app) := by
    rcases hpopped with htail | ⟨hsame,_⟩
    · rw [htail]
      exact tail_sublist _
    · rw [hsame]
  constructor
  · intro other hother
    rw [htable]
    exact mem_cons_of_mem _ (hdistinct.known other (hsublist.subset hother))
  · exact hdistinct.nodup.sublist (hsublist.map _)
  · rw [hsince,hposts,htable]
    intro _ hdeep
    rcases hpopped with htail | ⟨hsame,hshort⟩
    · have htop := hinv.recent
      have hnodup := hdistinct.nodup
      cases hstack : stack app with
      | nil =>
        rw [htail,hstack] at hdeep
        contradiction
      | cons top below =>
        rw [hstack,take_succ_cons,map_cons] at htop
        rw [hstack,map_cons,nodup_cons] at hnodup
        obtain ⟨rest,hrest⟩ := htop
        refine ⟨deployment.reread top,?_,?_⟩
        · rw [← hrest]
          rfl
        · rw [htail,hstack,tail_cons]
          intro hmem
          exact hnodup.1 (((drop_sublist _ below).map _).subset hmem)
    · rw [hsame,stack,length_reverse] at hdeep
      omega

theorem distinctInv_handled {request : Timed (Request ConfigSnapshot)} (hunseen : Unseen deployment app request) :
    DistinctInv deployment base (handled deployment app request) := by
  cases effect_handled deployment app request with
  | none hstore hlive hrows =>
    have hstack : stack (handled deployment app request) = stack app := congrArg (·.history.reverse) hstore
    have hsince : rowsSince base (handled deployment app request) = rowsSince base app :=
      congrArg (·.drop base.length) hrows
    constructor
    · rw [hstack,hrows]
      exact hdistinct.known
    · rw [hstack]
      exact hdistinct.nodup
    · rw [hsince,hstack,hrows]
      exact hdistinct.left
  | posted post parsed row hrequest hbody hrow haction hstore hlive hrows =>
    exact distinctInv_posted hinv hdistinct hrow haction hstore hrows (hunseen post parsed hrequest hbody)
  | rolledBack row hrow haction hstore hlive hrows =>
    exact distinctInv_rolledBack hinv hdistinct hrow haction hstore hrows

theorem distinctInv_run {requests : List (Timed (Request ConfigSnapshot))}
    (hunseen : Along (handled deployment) (Unseen deployment) app requests) :
    DistinctInv deployment base (run (handled deployment) app requests) := by
  have hstep : ∀ state request, Unseen deployment state request →
      (StackInv deployment base state ∧ DistinctInv deployment base state) →
      (StackInv deployment base (handled deployment state request) ∧
        DistinctInv deployment base (handled deployment state request)) :=
    fun state request hrequest hstate =>
      ⟨stackInv_handled request hstate.1,distinctInv_handled hstate.1 hstate.2 hrequest⟩
  exact (invariant_run hstep hunseen ⟨hinv,hdistinct⟩).2

theorem settled_of_restartTransparent (hlimit : 0 < deployment.historyLimit) {nowSecs : Nat}
    (htransparent : RestartTransparent deployment app nowSecs) : Settled deployment base app := by
  rw [restartTransparent_iff hlimit hinv] at htransparent
  have hread : ∀ depth (hdepth : depth < (stack app).length),
      (table deployment app.revisions)[depth]? = some (deployment.reread (stack app)[depth]) ∧
        Plain deployment (stack app)[depth] := by
    intro depth hdepth
    have hsame := htransparent depth (by rwa [stack,length_reverse] at hdepth)
    rw [getElem?_eq_getElem hdepth,Option.map_some] at hsame
    obtain ⟨snapshot,hsnapshot,hsecret⟩ := Option.map_eq_some_iff.mp hsame
    have hreread : deployment.reread (stack app)[depth] = snapshot := by
      rw [← reread_of_mem_table hinv.written (mem_of_getElem? hsnapshot)]
      exact (congrArg deployment.reread hsecret).symm
    refine ⟨by rw [hsnapshot,hreread],?_⟩
    rw [← withJwtSecret_reread_iff,hreread,hsecret]
  refine ⟨hlimit,?_,?_⟩
  · intro snapshot hmem
    obtain ⟨depth,hdepth,rfl⟩ := mem_iff_getElem.mp (mem_reverse.mpr hmem)
    exact (hread depth hdepth).2
  · by_contra hneither
    rw [not_or] at hneither
    obtain ⟨hrolled,hdeep⟩ := hneither
    have hdepth : postsSinceRollback (rowsSince base app) + 1 < (stack app).length := by
      rw [stack,length_reverse]
      omega
    obtain ⟨other,hother,hfresh⟩ := hdistinct.left hrolled hdepth
    rw [(hread _ hdepth).1,Option.some.injEq] at hother
    apply hfresh
    rw [← hother,drop_eq_getElem_cons hdepth,map_cons]
    exact mem_cons_self

end Distinct

/-- Since a start from any table, over any requests: a settled control plane can
be restarted without a trace. And if no configuration occurs twice, no other can. -/
theorem restart_transparent_of_settled (deployment : Deployment) (rows : List (Revision Json))
    (hwritten : Written rows) (startSecs restartSecs : Nat)
    (requests : List (Timed (Request ConfigSnapshot))) :
    let start := startup deployment.env deployment.boot rows startSecs
    let running := run (handled deployment) start requests
    (Settled deployment start.revisions running → RestartTransparent deployment running restartSecs) ∧
    (0 < deployment.historyLimit → ((stack start).map deployment.reread).Nodup →
      Along (handled deployment) (Unseen deployment) start requests →
      RestartTransparent deployment running restartSecs → Settled deployment start.revisions running) := by
  intro start running
  constructor
  · intro hsettled
    have hstart := stackInv_startup hsettled.retained hwritten startSecs
    exact restartTransparent_of_settled (stackInv_run requests hstart) hsettled restartSecs
  · intro hlimit hnodup hunseen htransparent
    have hstart := stackInv_startup hlimit hwritten startSecs
    exact settled_of_restartTransparent (stackInv_run requests hstart)
      (distinctInv_run hstart (distinctInv_startup hstart hnodup) hunseen) hlimit htransparent

/-! ## A rollback between two restarts -/

def bareConfig (version : String) (globalMaxConcurrency : UInt64) : ConfigSnapshot :=
  ⟨version,globalMaxConcurrency,"secret",.empty,"issuer","audience",.empty,[],none,none⟩

def bareDeployment : Deployment :=
  ⟨"secret",10000,bareConfig "v1" 10000,20,fun _ _ => ⟨[],[],[],[],[],[],[],false⟩⟩

def operator : AdminRequest := ⟨true,true,"10.0.0.1"⟩

def postOf (snapshot : ConfigSnapshot) : Timed (Request ConfigSnapshot) :=
  (.post ⟨operator,.ok snapshot,false⟩,fun _ => 7)

def rollbackOf : Timed (Request ConfigSnapshot) := (.rollback operator,fun _ => 7)

section
variable (requests : List (Timed (Request ConfigSnapshot)))

def afterRequests : AppState ConfigSnapshot Json :=
  run (handled bareDeployment) (startup bareDeployment.env bareDeployment.boot [] 0) requests

def afterRestart : AppState ConfigSnapshot Json :=
  startup bareDeployment.env bareDeployment.boot (afterRequests requests).revisions 0

end

theorem restart_transparent_twoPosts :
    RestartTransparent bareDeployment (afterRequests [postOf (bareConfig "v2" 10000),
      postOf (bareConfig "v3" 10000)]) 0 := by
  have hhistory : ((afterRequests [postOf (bareConfig "v2" 10000),
      postOf (bareConfig "v3" 10000)]).store.history.all fun snapshot =>
        snapshot.jwtKeys.entries.isEmpty && snapshot.globalMaxConcurrency == 10000) = true := by
    decide +kernel
  refine (restart_transparent_of_settled bareDeployment [] (by simp [Written]) 0 0 [postOf (bareConfig "v2" 10000),
    postOf (bareConfig "v3" 10000)]).1 ⟨by decide,?_,.inl (by decide +kernel)⟩
  intro snapshot hmem
  have hsnapshot := all_eq_true.mp hhistory snapshot hmem
  rw [Bool.and_eq_true,beq_iff_eq,List.isEmpty_iff] at hsnapshot
  exact ⟨Mapping.ext_entries hsnapshot.1,hsnapshot.2⟩

/-- The first rollback after the restart returns to the configuration that the
rollback before it had left; a limit that was posted is overridden. -/
theorem restart_changes_rollbacks :
    let requests := [postOf (bareConfig "v2" 10000),postOf (bareConfig "v3" 10000),rollbackOf]
    (rolledBack bareDeployment (afterRequests requests) [(operator,fun _ => 7)]).live.version = "v1" ∧
      (rolledBack bareDeployment (afterRestart requests) [(operator,fun _ => 7)]).live.version = "v3" ∧
      (afterRequests [postOf (bareConfig "v2" 500)]).live.globalMaxConcurrency = 500 ∧
      (afterRestart [postOf (bareConfig "v2" 500)]).live.globalMaxConcurrency = 10000 := by
  decide +kernel

end Routiq.ControlPlane.RestartStack
