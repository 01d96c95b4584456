import Routiq.Core.Actions
import Routiq.Fleet.Publishers
import Routiq.Uam.IdentityIndex
import Routiq.Uam.Session

/-! What a request of the user service waits for: a statement on the database,
a command to Redis, the in-process maps that stand in for Redis, a revocation
call, a mail. Each is one atomic step on the shared state. The environment
decides the time, which calls fail, and whether a failed one was applied. -/
namespace Routiq.Uam.Commands
open Core Redis KeyedTable Processes Actions Users IdentityIndex Function
open Fleet.Publishers (Fate)

/-! ## State -/

inductive EmailLinkKind where
  | verifyEmail | resetPassword | migrateCurrent | migrateNew
deriving DecidableEq

structure LinkPayload where
  kind : EmailLinkKind
  secret : String
  metadata : Option (List (String × String))
deriving DecidableEq

structure IssuedTokens where
  (accessToken refreshToken : String)
deriving DecidableEq

structure ExchangeRecord where
  tokens : IssuedTokens
  state : String
deriving DecidableEq

structure StateRecord where
  codeChallenge : String
  redirectUri : Option String
deriving DecidableEq

inductive CodePayload where
  | link (payload : LinkPayload)
  | exchange (record : ExchangeRecord)
  | state (record : StateRecord)
deriving DecidableEq

structure MemoryEntry where
  payload : CodePayload
  exp : Nat
deriving DecidableEq

structure Mail where
  (recipient subject code : String)
deriving DecidableEq

def noUsers : UserTable := ⟨[],.nil⟩

/-- The maps of the code services are kept as one, under the keys that Redis
would have. -/
structure World where
  users : UserTable
  index : Index
  redis : Store
  memory : String → Option MemoryEntry
  outbox : List Mail

/-! ## Commands -/

/-- A query for the row that carries a token digest which has not expired. -/
structure RowFilter where
  token : Field
  digest : String
  expires : Field
  after : Nat
  present : Option Field
deriving DecidableEq

def RowFilter.accepts (filter : RowFilter) (row : Row) : Bool :=
  row.columns filter.token = .text filter.digest &&
    isFuture filter.after (some (row.columns filter.expires)) &&
    filter.present.all fun field => row.columns field ≠ .null

/-- An exception: a unique constraint, with the address if it is the one on
`email`, or anything else that makes a statement fail. -/
inductive Failure where
  | duplicateKey (email : Option String)
  | rejected
deriving DecidableEq

inductive Statement where
  | findById (id : String) (selection : Option Selection)
  | findOne (filter : RowFilter) (selection : Option Selection)
  | save (document : Document)
  | insert (uuid : UserId) (data : Assignments)
  | findOneAndUpdate (id : String) (tokenVersion : Option Value) (update : UpdateDoc)
  | findByIdAndDelete (id : String)
  | findIndex (key : String)
  | updateIndex (key : String) (entry : IndexEntry)
  | insertIndex (key : String) (entry : IndexEntry)
  /-- The entries of a user, except under these keys. -/
  | deleteIndex (userId : String) (keep : List String)

def Statement.Out : Statement → Type
  | .findById _ _ | .findOne _ _ | .findOneAndUpdate _ _ _ | .findByIdAndDelete _ => Option Document
  | .save _ | .insert _ _ => Document
  | .findIndex _ => Option IndexEntry
  | .updateIndex _ _ | .insertIndex _ _ | .deleteIndex _ _ => Unit

inductive Command where
  | sql (statement : Statement)
  | cacheGet (key : String)
  | cacheSet (key value : String) (ttlSeconds : Option Nat)
  | cacheDel (key : String)
  | memoryTake (key : String)
  | memoryPut (key : String) (payload : CodePayload) (ttlSeconds : Nat)
  | revoke (jtis : List String)
  | sendEmail (mail : Mail)

/-- A read of the cache answers `none` when Redis is not available, and a write
answers whether it is. -/
def Result : Command → Type
  | .sql statement => Except Failure statement.Out
  | .cacheGet _ => Option (Option String)
  | .cacheSet _ _ _ => Bool
  | .cacheDel _ | .memoryPut _ _ _ | .revoke _ => Unit
  | .memoryTake _ => Option CodePayload
  | .sendEmail _ => Bool

inductive DatabaseFate where
  | answered
  | failed (applied : Bool)
deriving DecidableEq

structure Input where
  nowMs : Nat
  redisAvailable : Bool
  redis : Fate
  database : DatabaseFate
  delivered : Bool
deriving DecidableEq

def Input.healthy (nowMs : Nat) : Input := ⟨nowMs,true,.replied,.answered,true⟩
def Input.applies (input : Input) : Bool := input.redisAvailable &&
    match input.redis with
    | .replied => true
    | .failed applied _ => applied

/-! ## What commands do -/

/-- The error for a row that may not be written: the constraint on `email` is
checked before the one on the provider. -/
def collision (users : UserTable) (id : String) (email : Value) : Failure :=
  if users.rows.any fun other => other.id.val ≠ id && email ≠ .null && other.columns .email = email then
    .duplicateKey (some (textOf (some email)))
  else .duplicateKey none

def deleteEntries (index : Index) (userId : String) (keep : List String) : Index := fun key =>
  if key ∈ keep then index key else (index key).filter fun entry => entry.userId ≠ userId

def execStatement (hashPassword : String → String) (nowMs : Nat) (world : World) :
    (statement : Statement) → Except Failure statement.Out × World
  | .findById id selection => (.ok (findById world.users id selection),world)
  | .findOne filter selection =>
    (.ok ((world.users.rows.find? filter.accepts).map (.load (resolveFields selection))),world)
  | .save document =>
    match document.save hashPassword nowMs world.users with
    | .ok (users,saved) => (.ok saved,{ world with users := users })
    | .error _ =>
      (.error (collision world.users document.id.val
        ((document.assignments hashPassword nowMs .email).getD .null)),world)
  | .insert uuid data =>
    match create hashPassword nowMs uuid data world.users with
    | .ok (users,created) => (.ok created,{ world with users := users })
    | .error _ => (.error (collision world.users uuid.val ((data .email).getD .null)),world)
  | .findOneAndUpdate id tokenVersion update =>
    if ((world.users.lookup id).any fun row => tokenVersion.all (row.columns .tokenVersion = ·)) then
      match applyUpdate nowMs world.users id update with
      | .ok (users,updated) => (.ok updated,{ world with users := users })
      | .error _ =>
        (.error (collision world.users id
          (((update.set.find? fun entry => entry.1 = .email).map Prod.snd).getD .null)),world)
    else (.ok none,world)
  | .findByIdAndDelete id =>
    (.ok ((world.users.lookup id).map (.load allFields)),
      { world with users := world.users.delete id, index := deleteEntries world.index id [] })
  | .findIndex key => (.ok (world.index key),world)
  | .updateIndex key entry =>
    if (world.index key).isNone then (.ok (),world)
    else if (world.users.lookup entry.userId).isSome then
      (.ok (),{ world with index := update world.index key (some entry) })
    else (.error .rejected,world)
  | .insertIndex key entry =>
    if (world.index key).isNone && (world.users.lookup entry.userId).isSome then
      (.ok (),{ world with index := update world.index key (some entry) })
    else (.error .rejected,world)
  | .deleteIndex userId keep =>
    (.ok (),{ world with index := deleteEntries world.index userId keep })

def writeCache (nowMs : Nat) (store : Store) (key value : String) : Option Nat → Store
  | none | some 0 => store.set key value
  | some ttlSeconds => (store.setEx nowMs key value ttlSeconds).getD store

def readCache (input : Input) (store : Store) (key : String) : Option (Option String) :=
  if input.redisAvailable then
    match input.redis with
    | .replied => some (store.get input.nowMs key)
    | .failed _ _ => some none
  else none

variable {input : Input} {store : Store} {key : String}

theorem strings_of_readCache {text : String} (hread : readCache input store key = some (some text)) :
    store.strings key ≠ none := by
  intro habsent
  have hget : store.get input.nowMs key = none := by simp [Store.get,habsent]
  unfold readCache at hread
  cases havailable : input.redisAvailable with
  | false => simp [havailable] at hread
  | true => cases hfate : input.redis <;> simp [havailable,hfate,hget] at hread

variable {value : String}

theorem readCache_of_strings (havailable : input.redisAvailable = true) (hreplied : input.redis = .replied)
    (hstrings : store.strings key = some ⟨value,none⟩) : readCache input store key = some (some value) := by
  simp [readCache,havailable,hreplied,Store.get,hstrings,StringEntry.live,Option.filter]

variable {ttlSeconds : Option Nat}

theorem writeCache_of_ne {nowMs : Nat} {other : String} (hother : other ≠ key) :
    (writeCache nowMs store key value ttlSeconds).strings other = store.strings other := by
  have hput : ∀ entry, (store.put key entry).strings other = store.strings other := by
    intro entry
    simp [Store.put,update_of_ne hother]
  unfold writeCache
  split
  · exact hput _
  · exact hput _
  · unfold Store.setEx
    split
    · exact hput _
    · rfl

def exec (hashPassword : String → String) (input : Input) (world : World) :
    (command : Command) → Result command × World
  | .sql statement =>
    let outcome := execStatement hashPassword input.nowMs world statement
    match input.database with
    | .answered => outcome
    | .failed applied => (.error .rejected,if applied then outcome.2 else world)
  | .cacheGet key => (readCache input world.redis key,world)
  | .cacheSet key value ttlSeconds =>
    (input.redisAvailable,if input.applies then
        { world with redis := writeCache input.nowMs world.redis key value ttlSeconds }
      else world)
  | .cacheDel key =>
    ((),if input.applies then { world with redis := world.redis.del key } else world)
  | .memoryTake key =>
    (((world.memory key).filter fun entry => input.nowMs ≤ entry.exp).map MemoryEntry.payload,
      { world with memory := update world.memory key none })
  | .memoryPut key payload ttlSeconds =>
    ((),{ world with
      memory := update (fun other => (world.memory other).filter fun entry => input.nowMs < entry.exp)
        key (some ⟨payload,input.nowMs + ttlSeconds * 1000⟩) })
  | .revoke _ => ((),world)
  | .sendEmail mail =>
    (input.delivered,if input.delivered then { world with outbox := world.outbox ++ [mail] } else world)

theorem exec_of_answered (hanswered : input.database = .answered) (hashPassword : String → String)
    (world : World) (statement : Statement) : exec hashPassword input world (.sql statement) =
      execStatement hashPassword input.nowMs world statement := by
  unfold exec
  rw [hanswered]

variable {document saved : Document}

section
variable {hashPassword : String → String} {world : World}

theorem exec_save_ok {users : UserTable}
    (hanswered : input.database = .answered)
    (hsave : document.save hashPassword input.nowMs world.users = .ok (users,saved)) :
    exec hashPassword input world (.sql (.save document)) = (.ok saved,{ world with users := users }) := by
  rw [exec_of_answered hanswered]
  simp only [execStatement,hsave]
  rfl

end

theorem redis_execStatement (hashPassword : String → String) (nowMs : Nat) (world : World)
    (statement : Statement) : (execStatement hashPassword nowMs world statement).2.redis = world.redis := by
  unfold execStatement
  split <;> first | rfl | (split <;> first | rfl | (split <;> rfl))

section
variable (hashPassword : String → String) (nowMs : Nat) (id : String) (row : Option Row)

inductive RowEffect : Command → Option Row → Prop
  | same (command : Command) : RowEffect command row
  | saved (document : Document) (hid : document.id.val = id) :
    RowEffect (.sql (.save document)) (row.map (·.assign (document.assignments hashPassword nowMs)))
  | updated (tokenVersion : Option Value) (update : UpdateDoc) :
    RowEffect (.sql (.findOneAndUpdate id tokenVersion update))
      (row.map fun row => row.assign (update.assignments nowMs row))
  | inserted (uuid : UserId) (data : Assignments) (hid : uuid.val = id) (habsent : row = none) (created : Row) :
    RowEffect (.sql (.insert uuid data)) (some created)
  | deleted : RowEffect (.sql (.findByIdAndDelete id)) none

end

section Rows
variable {hashPassword : String → String} {nowMs : Nat} {world : World}

theorem rowEffect_save (document : Document) (id : String) :
    RowEffect hashPassword nowMs id (world.users.lookup id) (.sql (.save document))
      ((execStatement hashPassword nowMs world (.save document)).2.users.lookup id) := by
  simp only [execStatement]
  cases hsave : document.save hashPassword nowMs world.users with
  | error message => exact .same _
  | ok outcome =>
    have hlookup := lookup_save hsave id
    by_cases hid : id = document.id.val
    · subst hid
      rw [if_pos rfl] at hlookup
      rw [hlookup]
      exact .saved document rfl
    · rw [if_neg hid] at hlookup
      rw [hlookup]
      exact .same _

theorem rowEffect_insert (uuid : UserId) (data : Assignments) (id : String) :
    RowEffect hashPassword nowMs id (world.users.lookup id) (.sql (.insert uuid data))
      ((execStatement hashPassword nowMs world (.insert uuid data)).2.users.lookup id) := by
  simp only [execStatement]
  cases hcreate : create hashPassword nowMs uuid data world.users with
  | error message => exact .same _
  | ok outcome =>
    obtain ⟨row,hinsert,hkey⟩ := insert_of_create hcreate
    have hlookup := Table.lookup_insert hinsert id
    by_cases hid : id = uuid.val
    · subst hid
      rw [if_pos hkey.symm] at hlookup
      rw [hlookup]
      exact .inserted uuid data rfl (hkey ▸ Table.lookup_of_insert hinsert) row
    · rw [if_neg fun heq => hid (heq.trans hkey)] at hlookup
      rw [hlookup]
      exact .same _

theorem rowEffect_findOneAndUpdate (updated : String) (tokenVersion : Option Value) (update : UpdateDoc)
    (id : String) : RowEffect hashPassword nowMs id (world.users.lookup id)
      (.sql (.findOneAndUpdate updated tokenVersion update))
      ((execStatement hashPassword nowMs world (.findOneAndUpdate updated tokenVersion update)).2.users.lookup
        id) := by
  simp only [execStatement]
  split
  · cases hupdate : applyUpdate nowMs world.users updated update with
    | error message => exact .same _
    | ok outcome =>
      have hlookup := lookup_applyUpdate hupdate id
      by_cases hid : id = updated
      · subst hid
        rw [if_pos rfl] at hlookup
        rw [hlookup]
        exact .updated tokenVersion update
      · rw [if_neg hid] at hlookup
        rw [hlookup]
        exact .same _
  · exact .same _

end Rows

variable {statement : Statement}

section
variable (hashPassword : String → String)

theorem rowEffect_exec (input : Input) (world : World) (command : Command) (id : String) :
    RowEffect hashPassword input.nowMs id (world.users.lookup id) command
      ((exec hashPassword input world command).2.users.lookup id) := by
  cases command with
  | sql statement =>
    have heffect : RowEffect hashPassword input.nowMs id (world.users.lookup id) (.sql statement)
        ((execStatement hashPassword input.nowMs world statement).2.users.lookup id) := by
      cases statement with
      | save document => exact rowEffect_save document id
      | insert uuid data => exact rowEffect_insert uuid data id
      | findOneAndUpdate updated tokenVersion update =>
        exact rowEffect_findOneAndUpdate updated tokenVersion update id
      | findByIdAndDelete deleted =>
        simp only [execStatement]
        rw [Table.lookup_delete]
        split
        next hid =>
          subst hid
          exact .deleted
        · exact .same _
      | updateIndex key entry =>
        simp only [execStatement]
        split
        · exact .same _
        · split <;> exact .same _
      | insertIndex key entry =>
        simp only [execStatement]
        split <;> exact .same _
      | findById _ _ | findOne _ _ | findIndex _ | deleteIndex _ _ => exact .same _
    simp only [exec]
    cases input.database with
    | answered => exact heffect
    | failed applied =>
      cases applied with
      | true => exact heffect
      | false => exact .same _
  | cacheSet _ _ _ | cacheDel _ | sendEmail _ =>
    simp only [exec]
    split <;> exact .same _
  | cacheGet _ | memoryTake _ | memoryPut _ _ _ | revoke _ => exact .same _

def writesUsers : Command → Bool
  | .sql (.save _) => true
  | .sql (.insert _ _) => true
  | .sql (.findOneAndUpdate _ _ _) => true
  | .sql (.findByIdAndDelete _) => true
  | _ => false

theorem lookup_exec_of_not_writes {command : Command} (hwrites : writesUsers command = false)
    (hashPassword : String → String) (input : Input) (world : World) (id : String) :
    (exec hashPassword input world command).2.users.lookup id = world.users.lookup id := by
  have heffect := rowEffect_exec hashPassword input world command id
  generalize (exec hashPassword input world command).2.users.lookup id = after at heffect ⊢
  cases heffect with
  | same => rfl
  | saved document hid | updated tokenVersion update | inserted uuid data hid habsent created =>
    contradiction
  | deleted => contradiction

def machine : Machine Command (Timed Result) World Input where
  ready _ _ := true
  exec input world command :=
    (((exec hashPassword input world command).1,input.nowMs),(exec hashPassword input world command).2)

/-! ## Requests -/

abbrev UamAction := Action Command Result Failure

def outcomeOf (statement : Statement) :
    Result (.sql statement) → Except Failure statement.Out := fun answer => answer

def query (statement : Statement) : UamAction statement.Out :=
  .attempt (.sql statement) (outcomeOf statement)

section
variable (key : String)

def cacheGet : UamAction (Option (Option String)) := Action.perform (Command.cacheGet key)

def cacheSet (key value : String) (ttlSeconds : Option Nat) : UamAction Bool :=
  Action.perform (Command.cacheSet key value ttlSeconds)

def cacheDel : UamAction Unit := Action.perform (Command.cacheDel key)
def memoryTake : UamAction (Option CodePayload) := Action.perform (Command.memoryTake key)

def memoryPut (payload : CodePayload) (ttlSeconds : Nat) : UamAction Unit :=
  Action.perform (Command.memoryPut key payload ttlSeconds)

end

def revoke (jtis : List String) : UamAction Unit := Action.perform (Command.revoke jtis)
def sendEmail (mail : Mail) : UamAction Bool := Action.perform (Command.sendEmail mail)

/-- What the answers of the database are like: a document is loaded from a row
that was asked for. -/
def Possible : (command : Command) → Result command → Prop
  | .sql (.findById id selection), .ok (some document) =>
    ∃ row : Row, row.id.val = id ∧ document = .load (resolveFields selection) row
  | .sql (.findOne filter selection), .ok (some document) =>
    ∃ row : Row, filter.accepts row = true ∧ document = .load (resolveFields selection) row
  | .sql (.findOneAndUpdate id _ _), .ok (some document) =>
    ∃ row : Row, row.id.val = id ∧ document = .load allFields row
  | .sql (.save document), .ok saved =>
    (∃ row : Row, row.id = document.id ∧ saved = .load allFields row) ∨
      saved = { document with modified := fun _ => false }
  | _, _ => True

theorem possible_error (error : Failure) : Possible (.sql statement) (.error error) := by
  cases statement <;> trivial

theorem save_returns {hashPassword : String → String} {nowMs : Nat} {users next : UserTable} (hsave : document.save hashPassword nowMs users = .ok (next,saved)) :
    (∃ row, next.lookup document.id.val = some row ∧ saved = .load allFields row) ∨
      next.lookup document.id.val = none ∧ saved = { document with modified := fun _ => false } := by
  unfold Document.save at hsave
  cases hnext : users.modify document.id.val (·.assign (document.assignments hashPassword nowMs)) with
  | none => simp [hnext] at hsave
  | some table =>
    simp only [hnext,Except.ok.injEq,Prod.mk.injEq] at hsave
    obtain ⟨rfl,hsaved⟩ := hsave
    cases hrow : table.lookup document.id.val with
    | none =>
      rw [hrow] at hsaved
      exact .inr ⟨rfl,hsaved.symm⟩
    | some row =>
      rw [hrow] at hsaved
      exact .inl ⟨row,rfl,hsaved.symm⟩

theorem execStatement_possible (nowMs : Nat) (world : World) (statement : Statement) :
    Possible (.sql statement) (execStatement hashPassword nowMs world statement).1 := by
  cases statement with
  | findById id selection =>
    simp only [execStatement,findById]
    cases hrow : world.users.lookup id with
    | none => trivial
    | some row => exact ⟨row,(Table.mem_of_lookup hrow).2,rfl⟩
  | findOne filter selection =>
    simp only [execStatement]
    cases hrow : world.users.rows.find? filter.accepts with
    | none => trivial
    | some row => exact ⟨row,List.find?_some hrow,rfl⟩
  | save document =>
    simp only [execStatement]
    cases hsave : document.save hashPassword nowMs world.users with
    | error message => exact possible_error _
    | ok outcome =>
      rcases save_returns hsave with ⟨row,hrow,hsaved⟩ | ⟨_,hsaved⟩
      · exact .inl ⟨row,Subtype.ext (Table.mem_of_lookup hrow).2,hsaved⟩
      · exact .inr hsaved
  | findOneAndUpdate id tokenVersion update =>
    simp only [execStatement]
    split
    · cases hupdate : applyUpdate nowMs world.users id update with
      | error message => exact possible_error _
      | ok outcome =>
        obtain ⟨users,updated⟩ := outcome
        cases updated with
        | none => trivial
        | some document =>
          obtain ⟨row,hrow,hdocument⟩ := applyUpdate_some hupdate
          exact ⟨row,(Table.mem_of_lookup hrow).2,hdocument⟩
    · trivial
  | insert uuid data | findByIdAndDelete id | findIndex key | updateIndex key entry => trivial
  | insertIndex key entry | deleteIndex userId keep => trivial

theorem exec_possible (input : Input) (world : World)
    (command : Command) : Possible command (exec hashPassword input world command).1 := by
  cases command with
  | sql statement =>
    simp only [exec]
    cases input.database with
    | answered => exact execStatement_possible hashPassword input.nowMs world statement
    | failed applied => exact possible_error _
  | cacheGet _ | cacheSet _ _ _ | cacheDel _ | memoryTake _ | memoryPut _ _ _ | revoke _
  | sendEmail _ => trivial

end

theorem machine_serves {Stage : Type} (hashPassword : String → String)
    (next : Stage → (command : Command) → Result command → Stage) (allowed : Stage → Command → Prop) :
    Protocol.Serves (machine hashPassword) (untimed Possible next allowed) :=
  fun input world command => exec_possible hashPassword input world command

section Rules
variable {Stage Value : Type} {next : Stage → (command : Command) → Result command → Stage}
  {allowed : Stage → Command → Prop} {post : Stage → Except Failure Value → Prop} {stage : Stage}

theorem guides_query_bind {rest : statement.Out → UamAction Value} :
    Guides Possible next allowed post stage (query statement >>= rest) ↔ allowed stage (.sql statement) ∧
        (∀ value, Possible (.sql statement) (.ok value) →
          Guides Possible next allowed post (next stage (.sql statement) (.ok value)) (rest value)) ∧
        ∀ error, post (next stage (.sql statement) (.error error)) (.error error) := by
  refine guides_attempt_bind.trans ?_
  refine and_congr_right fun _ => ⟨fun hanswer => ?_,fun hanswer answer hpossible => ?_⟩
  · exact ⟨fun value => hanswer (.ok value),fun error => hanswer (.error error) (possible_error error)⟩
  · cases answer with
    | ok value => exact hanswer.1 value hpossible
    | error error => exact hanswer.2 error

variable {key : String}

theorem guides_cacheGet_bind {rest : Option (Option String) → UamAction Value} :
    Guides Possible next allowed post stage (cacheGet key >>= rest) ↔ allowed stage (.cacheGet key) ∧
        ∀ answer : Option (Option String),
          Guides Possible next allowed post (next stage (.cacheGet key) answer) (rest answer) := by
  refine guides_perform_bind.trans (and_congr_right fun _ => forall_congr' fun answer => ?_)
  exact forall_prop_of_true trivial

theorem guides_cacheSet_bind {rest : Bool → UamAction Value} :
    Guides Possible next allowed post stage (cacheSet key value ttlSeconds >>= rest) ↔
      allowed stage (.cacheSet key value ttlSeconds) ∧ ∀ available : Bool,
          Guides Possible next allowed post (next stage (.cacheSet key value ttlSeconds) available)
            (rest available) := by
  refine guides_perform_bind.trans (and_congr_right fun _ => forall_congr' fun answer => ?_)
  exact forall_prop_of_true trivial

variable {rest : Unit → UamAction Value}

theorem guides_cacheDel_bind : Guides Possible next allowed post stage (cacheDel key >>= rest) ↔
      allowed stage (.cacheDel key) ∧
        ∀ answer : Unit, Guides Possible next allowed post (next stage (.cacheDel key) answer) (rest answer) := by
  refine guides_perform_bind.trans (and_congr_right fun _ => forall_congr' fun answer => ?_)
  exact forall_prop_of_true trivial

theorem guides_memoryTake_bind {rest : Option CodePayload → UamAction Value} :
    Guides Possible next allowed post stage (memoryTake key >>= rest) ↔ allowed stage (.memoryTake key) ∧
        ∀ payload : Option CodePayload,
          Guides Possible next allowed post (next stage (.memoryTake key) payload) (rest payload) := by
  refine guides_perform_bind.trans (and_congr_right fun _ => forall_congr' fun answer => ?_)
  exact forall_prop_of_true trivial

theorem guides_revoke_bind {jtis : List String} :
    Guides Possible next allowed post stage (revoke jtis >>= rest) ↔ allowed stage (.revoke jtis) ∧
        ∀ answer : Unit, Guides Possible next allowed post (next stage (.revoke jtis) answer) (rest answer) := by
  refine guides_perform_bind.trans (and_congr_right fun _ => forall_congr' fun answer => ?_)
  exact forall_prop_of_true trivial

end Rules

/-! ## A request on its own -/

section Outcome
variable {Value : Type} {hashPassword : String → String} {nowMs : Nat} {inputs : Nat → Input}
  {world : World}

section
variable {statement : Statement} {rest : statement.Out → UamAction Value} {next : World}

theorem outcome_query_ok {value : statement.Out}
    (hexec : exec hashPassword (inputs 0) world (.sql statement) = (.ok value,next)) :
    outcome (machine hashPassword) (query statement >>= rest) nowMs inputs world =
      outcome (machine hashPassword) (rest value) (inputs 0).nowMs (later inputs) next := by
  refine outcome_attempt_bind.trans ?_
  simp only [machine,hexec]
  rfl

theorem outcome_query_error {error : Failure} (hexec : exec hashPassword (inputs 0) world (.sql statement) = (.error error,next)) :
    outcome (machine hashPassword) (query statement >>= rest) nowMs inputs world = (.error error,next) := by
  refine outcome_attempt_bind.trans ?_
  simp only [machine,hexec]
  rfl

end

variable {key : String}

theorem outcome_cacheGet_bind {rest : Option (Option String) → UamAction Value} :
    outcome (machine hashPassword) (cacheGet key >>= rest) nowMs inputs world =
      outcome (machine hashPassword) (rest (readCache (inputs 0) world.redis key)) (inputs 0).nowMs
        (later inputs) world := rfl

theorem outcome_cacheSet_bind {rest : Bool → UamAction Value} :
    outcome (machine hashPassword) (cacheSet key value ttlSeconds >>= rest) nowMs inputs world =
      outcome (machine hashPassword) (rest (inputs 0).redisAvailable) (inputs 0).nowMs (later inputs)
        (exec hashPassword (inputs 0) world (.cacheSet key value ttlSeconds)).2 := rfl

theorem outcome_cacheDel_bind {rest : Unit → UamAction Value} :
    outcome (machine hashPassword) (cacheDel key >>= rest) nowMs inputs world =
      outcome (machine hashPassword) (rest ()) (inputs 0).nowMs (later inputs)
        (exec hashPassword (inputs 0) world (.cacheDel key)).2 := rfl

theorem outcome_memoryTake_bind {key : String} {rest : Option CodePayload → UamAction Value} :
    outcome (machine hashPassword) (memoryTake key >>= rest) nowMs inputs world =
      outcome (machine hashPassword)
        (rest (((world.memory key).filter fun entry => (inputs 0).nowMs ≤ entry.exp).map MemoryEntry.payload))
        (inputs 0).nowMs (later inputs) { world with memory := update world.memory key none } := rfl

end Outcome

abbrev UamSystem (Index Response : Type) :=
  System Index Command (Timed Result) World (Except Failure Response × Nat)

def responseOf {Index Response : Type} (system : UamSystem Index Response) (index : Index) :
    Option Response :=
  (system.processes index).result.bind fun outcome => outcome.1.toOption

theorem result_of_response {Index Response : Type} {system : UamSystem Index Response} {index : Index}
    {response : Response} (hresponse : responseOf system index = some response) :
    ∃ nowMs, (system.processes index).result = some (.ok response,nowMs) := by
  obtain ⟨⟨result,nowMs⟩,hresult,hoption⟩ := Option.bind_eq_some_iff.mp hresponse
  cases result with
  | error error => contradiction
  | ok value =>
    obtain rfl : value = response := Option.some.inj hoption
    exact ⟨nowMs,hresult⟩

end Routiq.Uam.Commands
