import Routiq.Uam.Migration

/-! What the requests of a migration do to the columns that a migration goes
through: the address, the pending address, and for either mailbox the token and
the flag. Every request follows these stages: it redeems a token and sets the
flag, it sees both flags set and reads the pending address, it moves the
account. -/
namespace Routiq.Uam.MigrationStages
open Core Actions Users IdentityIndex Commands OneTimeCodes AccountRequests Migration
open Session (TokenPair persistUpdate changed_persistUpdate)

/-! ## What statements write -/

def migrationFields : List Field :=
  [.email,.newEmailPending,.currentEmailVerified,.newEmailVerified,.currentEmailToken,.newEmailToken,
    .migrationTokenExpires,.lastMigrationEmailSent]

inductive Change where
  | nothing
  | initiate (newEmail : String) (digest : Mailbox → String) (nowMs : Nat)
  | reissue (digest : Mailbox → String) (nowMs : Nat)
  | verify (mailbox : Mailbox)
  | move (newEmail : String)

def Change.columns : Change → Assignments
  | .nothing, _ => none
  | .initiate newEmail _ _, .newEmailPending => some (.text newEmail)
  | .initiate _ digest _, .currentEmailToken => some (.text (digest .current))
  | .initiate _ digest _, .newEmailToken => some (.text (digest .new))
  | .initiate _ _ _, .currentEmailVerified => some (.bool false)
  | .initiate _ _ _, .newEmailVerified => some (.bool false)
  | .initiate _ _ nowMs, .migrationTokenExpires => some (.date (nowMs + migrationTokenMs))
  | .initiate _ _ nowMs, .lastMigrationEmailSent => some (.date nowMs)
  | .initiate _ _ _, _ => none
  | .reissue digest _, .currentEmailToken => some (.text (digest .current))
  | .reissue digest _, .newEmailToken => some (.text (digest .new))
  | .reissue _ nowMs, .migrationTokenExpires => some (.date (nowMs + migrationTokenMs))
  | .reissue _ nowMs, .lastMigrationEmailSent => some (.date nowMs)
  | .reissue _ _, _ => none
  | .verify mailbox, field => if field = mailbox.verified then some (.bool true) else none
  | .move newEmail, .email => some (.text newEmail)
  | .move _, .newEmailPending => some .null
  | .move _, .currentEmailToken => some .null
  | .move _, .newEmailToken => some .null
  | .move _, .currentEmailVerified => some .null
  | .move _, .newEmailVerified => some .null
  | .move _, .migrationTokenExpires => some .null
  | .move _, _ => none

def Saves (document : Document) (change : Change) : Prop := ∀ hashPassword nowMs, ∀ field ∈ migrationFields,
    document.assignments hashPassword nowMs field = change.columns field

def Sets (update : UpdateDoc) (change : Change) : Prop :=
  ∀ nowMs row, ∀ field ∈ migrationFields, update.assignments nowMs row field = change.columns field

/-! ## Stages -/

inductive Phase where
  | idle
  | mailing (userId currentEmail newEmail : String)
  | redeemed (mailbox : Mailbox) (userId : String)
  | decided (userId : String)
  | moving (userId newEmail : String)
  | closed
deriving DecidableEq

structure Stage where
  phase : Phase
  placeholder : Option UserId
  drawn : Option DrawnTokens

def Stage.enter (stage : Stage) (phase : Phase) : Stage := { stage with phase := phase }

def mailboxOf : Field → Option Mailbox
  | .currentEmailToken => some .current
  | .newEmailToken => some .new
  | _ => none

def decides (selection : Option Selection) : Bool :=
  selection = verifiedSelection || selection = finalizeSelection

section
variable (env : MigrationEnv)

def Phase.found (selection : Option Selection) (user : Document) : Phase → Phase
  | .idle => if decides selection && bothVerified user then .decided user.id.val else .idle
  | .decided userId =>
    if selection = currentSelection then
      if (pendingEmail env user).isEmpty then .closed else .moving userId (pendingEmail env user)
    else .decided userId
  | phase => phase

/-- Where a request that has stored new tokens mails them. -/
def Phase.issued (document saved : Document) : Phase :=
  if document.modified .currentEmailToken then
    .mailing document.id.val (textOf (saved.values .email))
      (textOf (if document.modified .newEmailPending then document.values .newEmailPending
        else saved.values .newEmailPending))
  else .idle

def Phase.saved (document : Document) (answer : Except Failure Document) : Phase → Phase
  | .idle => (answer.toOption.map (.issued document)).getD .idle
  | .redeemed mailbox userId =>
    if document.modified mailbox.verified then .idle else .redeemed mailbox userId
  | .moving userId newEmail => if document.modified .email then .closed else .moving userId newEmail
  | phase => phase

def Phase.updated (update : UpdateDoc) : Phase → Phase
  | .moving userId newEmail =>
    if .email ∈ update.changed then .closed else .moving userId newEmail
  | phase => phase

def Phase.next (phase : Phase) : (command : Command) → Result command → Phase
  | .sql (.findOne filter _), .ok (some user) =>
    match mailboxOf filter.token with
    | some mailbox => .redeemed mailbox user.id.val
    | none => phase
  | .sql (.findById _ selection), .ok (some user) => phase.found env selection user
  | .sql (.save document), answer => phase.saved document answer
  | .sql (.findOneAndUpdate _ _ update), _ => phase.updated update
  | _, _ => phase

variable (stage : Stage)

def Stage.next (command : Command) (answer : Result command) : Stage :=
  { stage with phase := stage.phase.next env command answer }

def lowerCase : String → String := env.account.identity.toLowerCase

def digestOf (drawn : DrawnTokens) (mailbox : Mailbox) : String :=
  env.account.session.sha256Hex (drawn.secret mailbox)

/-- The saves a request makes at a stage; the tokens it stores are those it drew. -/
inductive SaveAllowed (document : Document) : Prop
  | quiet (hsaves : Saves document .nothing)
  | initiate (newEmail : String) (drawn : DrawnTokens) (nowMs : Nat) (hphase : stage.phase = .idle)
    (hdrawn : stage.drawn = some drawn) (hlower : lowerCase env newEmail = newEmail)
    (hsaves : Saves document (.initiate newEmail (digestOf env drawn) nowMs))
  | reissue (drawn : DrawnTokens) (nowMs : Nat) (hphase : stage.phase = .idle)
    (hdrawn : stage.drawn = some drawn) (hsaves : Saves document (.reissue (digestOf env drawn) nowMs))
  | verify (mailbox : Mailbox) (hphase : stage.phase = .redeemed mailbox document.id.val)
    (hsaves : Saves document (.verify mailbox))
  | move (newEmail : String) (hphase : stage.phase = .moving document.id.val newEmail)
    (hsaves : Saves document (.move newEmail))

inductive UpdateAllowed (phase : Phase) (id : String) (update : UpdateDoc) : Prop
  | quiet (hsets : Sets update .nothing)
  | move (newEmail : String) (hphase : phase = .moving id newEmail) (hsets : Sets update (.move newEmail))

def Stage.Mails (mail : Mail) : Prop :=
  ∃ drawn userId currentEmail newEmail, stage.drawn = some drawn ∧
    stage.phase = .mailing userId currentEmail newEmail ∧
    (mail.code = drawn.code .current ∧ mail.recipient = currentEmail ∨
      mail.code = drawn.code .new ∧ mail.recipient = newEmail)

def Stage.Allowed : Command → Prop
  | .sql (.save document) => SaveAllowed env stage document
  | .sql (.findOneAndUpdate id _ update) => UpdateAllowed stage.phase id update
  | .sql (.insert uuid _) => stage.placeholder = some uuid
  | .sql (.findOne filter selection) =>
    stage.phase = .idle ∧ selection = none ∧ ∃ mailbox : Mailbox, filter.token = mailbox.token
  | .sql (.findById id selection) => selection = currentSelection → stage.phase = .decided id
  | .sendEmail mail => stage.Mails mail
  | _ => True

end

abbrev Guided {Value : Type} (env : MigrationEnv) (post : Stage → Except Failure Value → Prop)
    (stage : Stage) (action : UamAction Value) : Prop :=
  Guides Possible (.next env) (Stage.Allowed env) post stage action

section
variable {Value : Type} (env : MigrationEnv) (stage : Stage) (action : UamAction Value)

abbrev Still : Prop := Guided env (fun after _ => after = stage) stage action
abbrev Staged : Prop := Guided env (fun _ _ => True) stage action

end

variable {id code : String} {selection : Option Selection} {user : Document} {drawn : DrawnTokens}
  {accountExists : Bool} {caller : Option Caller}

section Rules
variable {env : MigrationEnv} {stage : Stage} {Value Other : Type} {value : Value}

theorem still_pure : Still env stage (pure value : UamAction Value) := guides_pure.mpr rfl

theorem staged_pure : Staged env stage (pure value : UamAction Value) :=
  guides_pure.mpr trivial

theorem still_throw {error : Failure} : Still env stage (throw error : UamAction Value) :=
  guides_throw.mpr rfl

variable {action : UamAction Value} {rest : Value → UamAction Other}

section
variable (haction : Still env stage action)
include haction

theorem Still.bind (hrest : ∀ value, Still env stage (rest value)) : Still env stage (action >>= rest) := by
  refine Guides.bind (Guides.mono haction ?_)
  rintro after outcome rfl
  cases outcome with
  | ok value => exact hrest value
  | error error => rfl

theorem Still.staged_bind
    (hrest : ∀ value, Staged env stage (rest value)) : Staged env stage (action >>= rest) := by
  refine .bind (.mono haction ?_)
  rintro after outcome rfl
  cases outcome with
  | ok value => exact hrest value
  | error error => trivial

theorem Still.staged :
    Staged env stage action := .mono haction fun _ _ _ => trivial

end

variable {body : UamAction Value} {handler : Failure → UamAction Value}

theorem Staged.tryCatch
    (hbody : Staged env stage body) (hhandler : ∀ after error, Staged env after (handler error)) :
    Staged env stage (tryCatch body handler) := by
  refine Guides.tryCatch (Guides.mono hbody ?_)
  intro after outcome _
  cases outcome with
  | ok value => trivial
  | error error => exact hhandler after error

theorem Still.tryCatch (hbody : Still env stage body) (hhandler : ∀ error, Still env stage (handler error)) :
    Still env stage (tryCatch body handler) := by
  refine Guides.tryCatch (Guides.mono hbody ?_)
  rintro after outcome rfl
  cases outcome with
  | ok value => rfl
  | error error => exact hhandler error

variable {statement : Statement}

theorem still_query (hallowed : Stage.Allowed env stage (.sql statement))
    (hnext : ∀ answer, Possible (.sql statement) answer → stage.next env (.sql statement) answer = stage) :
    Still env stage (query statement) := by
  exact guides_attempt.mpr ⟨hallowed,hnext⟩

variable {rest : statement.Out → UamAction Value} {post : Stage → Except Failure Value → Prop}

theorem guided_query_bind (hallowed : Stage.Allowed env stage (.sql statement))
    (hrest : ∀ value, Possible (.sql statement) (.ok value) →
      ∃ after, stage.next env (.sql statement) (.ok value) = after ∧ Guided env post after (rest value))
    (herror : ∀ error, ∃ after, stage.next env (.sql statement) (.error error) = after ∧
      post after (.error error)) : Guided env post stage (query statement >>= rest) := by
  refine guides_query_bind.mpr ⟨hallowed,?_,?_⟩
  · intro value hpossible
    obtain ⟨after,hafter,hguides⟩ := hrest value hpossible
    subst hafter
    exact hguides
  · intro error
    obtain ⟨after,hafter,hpost⟩ := herror error
    subst hafter
    exact hpost

theorem staged_query_bind (hallowed : Stage.Allowed env stage (.sql statement))
    (hrest : ∀ value, Possible (.sql statement) (.ok value) →
      ∃ after, stage.next env (.sql statement) (.ok value) = after ∧ Staged env after (rest value)) :
    Staged env stage (query statement >>= rest) :=
  guided_query_bind hallowed hrest fun _ => ⟨_,rfl,trivial⟩

theorem still_now : Still env stage (.now : UamAction Nat) := fun _ => rfl

/-! ## Actions that leave the stage alone -/

variable {key : String}

theorem cacheGet_still : Still env stage (cacheGet key) :=
  fun _ => ⟨trivial,fun _ _ => rfl⟩

theorem cacheSet_still {value : String} {ttlSeconds : Option Nat} :
    Still env stage (cacheSet key value ttlSeconds) := fun _ => ⟨trivial,fun _ _ => rfl⟩

theorem cacheDel_still : Still env stage (cacheDel key) :=
  fun _ => ⟨trivial,fun _ _ => rfl⟩

theorem memoryTake_still : Still env stage (memoryTake key) :=
  fun _ => ⟨trivial,fun _ _ => rfl⟩

variable {payload : CodePayload}

theorem sendEmail_still {mail : Mail} (hmails : stage.Mails mail) : Still env stage (sendEmail mail) :=
  fun _ => ⟨hmails,fun _ _ => rfl⟩

theorem findIndex_still : Still env stage (query (.findIndex key)) := still_query trivial fun _ _ => rfl

variable {entry : IndexEntry}

variable {userId : String}

theorem deleteIndex_still {keep : List String} :
    Still env stage (query (.deleteIndex userId keep)) := still_query trivial fun _ _ => rfl

theorem findByIdAndDelete_still : Still env stage (query (.findByIdAndDelete id)) :=
  still_query trivial fun _ _ => rfl

theorem guided_findById_bind
    {rest : Option Document → UamAction Value} (hdecides : decides selection = false)
    (hcurrent : selection ≠ currentSelection) (herror : ∀ error, post stage (.error error))
    (hrest : ∀ found : Option Document, Possible (.sql (.findById id selection)) (.ok found) →
      Guided env post stage (rest found)) :
    Guided env post stage (query (.findById id selection) >>= rest) := by
  have hnext : ∀ answer, stage.next env (.sql (.findById id selection)) answer = stage := by
    intro answer
    cases answer with
    | error error => rfl
    | ok found =>
      cases found with
      | none => rfl
      | some user =>
        obtain ⟨phase,placeholder,drawn⟩ := stage
        cases phase with
        | idle => simp [Stage.next,Phase.next,Phase.found,hdecides]
        | decided userId => simp [Stage.next,Phase.next,Phase.found,hcurrent]
        | mailing userId currentEmail newEmail | redeemed mailbox userId | moving userId newEmail => rfl
        | closed => rfl
  exact guided_query_bind (fun hselection => absurd hselection hcurrent)
    (fun found hpossible => ⟨stage,hnext (.ok found),hrest found hpossible⟩)
    fun error => ⟨stage,hnext (.error error),herror error⟩

theorem upsertEntry_still : Still env stage (upsertEntry key entry) := by
  refine findIndex_still.bind ?_
  intro found
  cases found with
  | none => exact still_query trivial fun _ _ => rfl
  | some _ => exact still_query trivial fun _ _ => rfl

theorem upsertEntries_still (entries : List (String × IndexEntry)) :
    Still env stage (upsertEntries entries) := by
  induction entries with
  | nil => exact still_pure
  | cons entry entries ih => exact upsertEntry_still.bind fun _ => ih

variable {account : AccountEnv}

theorem sync_still : Still env stage (syncIdentityIndexesFromUser account user) := by
  refine still_now.bind ?_
  intro nowMs
  exact (upsertEntries_still _).bind fun _ => deleteIndex_still

variable {version : Int}

theorem publishTokenVersion_still : Still env stage (publishTokenVersion userId version) := by
  refine cacheSet_still.bind ?_
  intro available
  cases available with
  | true => exact cacheGet_still.bind fun _ => still_pure
  | false => exact still_pure

theorem sets_persistUpdate (account : AccountEnv) (issued : TokenPair) :
    Sets (persistUpdate account.session issued) .nothing := by
  intro nowMs row field hfield
  have hkept : field ∉ (persistUpdate account.session issued).changed := by
    intro hchanged
    rcases changed_persistUpdate account.session issued field hchanged with rfl | rfl <;>
      simp [migrationFields] at hfield
  have hupdated : field ≠ .updatedAt := by
    rintro rfl
    simp [migrationFields] at hfield
  simp [UpdateDoc.assignments,hupdated,hkept,Change.columns]

theorem persistSessionTokens_still {issued : TokenPair} :
    Still env stage (persistSessionTokens account userId issued version) := by
  refine Still.bind (still_query (.quiet (sets_persistUpdate account issued)) ?_) ?_
  · intro answer _
    have hkept : Field.email ∉ (persistUpdate account.session issued).changed := by
      intro hchanged
      rcases changed_persistUpdate account.session issued _ hchanged with hfield | hfield <;> cases hfield
    obtain ⟨phase,placeholder,drawn⟩ := stage
    cases phase <;> simp [Stage.next,Phase.next,Phase.updated,hkept]
  · intro _
    exact publishTokenVersion_still.bind fun _ => still_pure

theorem loadUser_still : Still env stage (loadUser userId) := by
  have hbind : loadUser userId = query (.findById userId none) >>= pure := (bind_pure _).symm
  rw [hbind]
  exact guided_findById_bind (by decide) (by decide) (fun _ => rfl) fun _ _ => still_pure

variable {email : String}

theorem findUserIdByPrimaryEmail_still : Still env stage (findUserIdByPrimaryEmail env email) :=
  findIndex_still.bind fun _ => still_now.bind fun _ => still_pure

theorem findUserByPrimaryEmail_still : Still env stage (findUserByPrimaryEmail env email) := by
  refine findUserIdByPrimaryEmail_still.bind ?_
  intro userId
  cases userId with
  | none => exact still_pure
  | some userId =>
    dsimp only
    split
    · exact still_pure
    · exact loadUser_still

theorem keepCode_still {memoryAllowed : Bool} {text : String}
    {ttlSecs : Nat} : Still env stage (keepCode memoryAllowed key text payload ttlSecs) := by
  refine cacheSet_still.bind ?_
  intro available
  cases available with
  | true => exact still_pure
  | false =>
    cases memoryAllowed with
    | true => exact fun _ => ⟨trivial,fun _ _ => rfl⟩
    | false => exact still_throw

variable {codes : CodeEnv}

theorem createEmailLinkCode_bind {payload : LinkPayload} {rest : String → UamAction Value}
    (hrest : Still env stage (rest code)) :
    Still env stage (createEmailLinkCode codes code payload >>= rest) := by
  unfold createEmailLinkCode
  rw [bind_assoc]
  exact keepCode_still.bind fun _ => hrest

theorem sendLinks_still {currentEmail newEmail suffix : String} (hdrawn : stage.drawn = some drawn)
    (hphase : stage.phase = .mailing userId currentEmail newEmail) :
    Still env stage (sendLinks env drawn accountExists currentEmail newEmail suffix) := by
  refine createEmailLinkCode_bind ?_
  refine createEmailLinkCode_bind ?_
  refine (sendEmail_still ⟨drawn,userId,currentEmail,newEmail,hdrawn,hphase,.inl ⟨rfl,rfl⟩⟩).bind ?_
  intro currentSent
  refine (sendEmail_still ⟨drawn,userId,currentEmail,newEmail,hdrawn,hphase,.inr ⟨rfl,rfl⟩⟩).bind ?_
  exact fun _ => still_pure

theorem takeCode_still {Payload : Type} {parse : String → Option Payload}
    {ofMemory : CodePayload → Option Payload} : Still env stage (takeCode key parse ofMemory) := by
  refine cacheGet_still.bind ?_
  intro answer
  cases answer with
  | none => exact memoryTake_still.bind fun _ => still_pure
  | some raw =>
    dsimp only
    cases raw.filter fun text => !text.isEmpty with
    | none => exact still_pure
    | some text => exact cacheDel_still.bind fun _ => still_pure

theorem consumeFormToken_still {formToken : String} {kind : EmailLinkKind} :
    Still env stage (consumeFormToken codes formToken kind) := by
  unfold consumeFormToken
  split
  · exact still_pure
  · refine takeCode_still.bind ?_
    intro payload
    cases payload with
    | none => exact still_pure
    | some payload =>
      dsimp only
      split
      · exact still_pure
      · exact still_pure

theorem authenticate_still : Still env stage (authenticate caller) := by
  refine .tryCatch ?_ fun _ => still_pure
  cases caller with
  | none => exact still_pure
  | some caller =>
    refine guided_findById_bind (by decide) (by decide) (fun _ => rfl) ?_
    intro found _
    cases found with
    | none => exact still_pure
    | some user =>
      dsimp only
      split
      · exact still_pure
      · split
        · exact still_pure
        · exact still_pure

theorem recoverDuplicate_still : Still env stage (recoverDuplicate env user email) := by
  unfold recoverDuplicate
  split
  · exact still_pure
  · refine findUserByPrimaryEmail_still.bind ?_
    intro found
    cases found with
    | none => exact still_pure
    | some duplicate =>
      dsimp only
      split
      · exact still_pure
      · exact deleteIndex_still.bind fun _ => findByIdAndDelete_still.bind fun _ => still_pure

theorem migrationFailed_still (failure : Failure) : Still env stage (migrationFailed env user failure) := by
  cases failure with
  | rejected => exact still_pure
  | duplicateKey email =>
    cases email with
    | none => exact still_pure
    | some email =>
      exact (Still.tryCatch recoverDuplicate_still fun _ => still_pure).bind fun _ => still_pure

end Rules

/-! ## What the requests save -/

def Fresh (document : Document) : Prop := document.modified = fun _ => false

theorem fresh_load (fields : List Field) (row : Row) : Fresh (.load fields row) := rfl

theorem fresh_found (hpossible : Possible (.sql (.findById id selection)) (.ok (some user))) :
    Fresh user ∧ user.id.val = id := by
  obtain ⟨row,hid,rfl⟩ := hpossible
  exact ⟨rfl,hid⟩

theorem forall_migrationFields {motive : Field → Prop} (hemail : motive .email)
    (hpending : motive .newEmailPending) (hcurrentVerified : motive .currentEmailVerified)
    (hnewVerified : motive .newEmailVerified) (hcurrentToken : motive .currentEmailToken)
    (hnewToken : motive .newEmailToken) (hexpires : motive .migrationTokenExpires)
    (hsent : motive .lastMigrationEmailSent) : ∀ field ∈ migrationFields, motive field := by
  intro field hfield
  simp only [migrationFields,List.mem_cons,List.not_mem_nil,or_false] at hfield
  rcases hfield with rfl | rfl | rfl | rfl | rfl | rfl | rfl | rfl <;> assumption

variable {document : Document} {change : Change}

theorem saves_iff : Saves document change ↔ ∀ field ∈ migrationFields,
      (if document.modified field then some ((document.values field).getD .null) else none) =
        change.columns field := by
  have hassigned : ∀ hashPassword nowMs, ∀ field ∈ migrationFields,
      document.assignments hashPassword nowMs field =
        if document.modified field then some ((document.values field).getD .null) else none := by
    intro hashPassword nowMs
    apply forall_migrationFields <;>
      simp [Document.assignments,Document.writeField,storedValue,columnValue,jsonbFields]
  constructor
  · intro hsaves field hfield
    exact (hassigned id 0 field hfield).symm.trans (hsaves id 0 field hfield)
  · intro hcolumns hashPassword nowMs field hfield
    exact (hassigned hashPassword nowMs field hfield).trans (hcolumns field hfield)

variable {field : Field}

theorem modified_of_saves (hsaves : Saves document change)
    (hfield : field ∈ migrationFields) : document.modified field = (change.columns field).isSome := by
  rw [← saves_iff.mp hsaves field hfield]
  cases document.modified field <;> rfl

section Documents
variable {env : MigrationEnv} {user : Document} {nowMs : Nat} (hfresh : Fresh user)
include hfresh

theorem saves_withHistory (history : List HistoryEntry) : Saves (withHistory env user history) .nothing := by
  obtain ⟨id,values,modified⟩ := user
  obtain rfl : modified = fun _ => false := hfresh
  exact saves_iff.mpr fun _ _ => rfl

theorem saves_initiated (newEmail : String) (drawn : DrawnTokens) :
    Saves (initiatedDocument env nowMs user newEmail drawn)
      (.initiate newEmail (digestOf env drawn) nowMs) := by
  obtain ⟨id,values,modified⟩ := user
  obtain rfl : modified = fun _ => false := hfresh
  exact saves_iff.mpr (forall_migrationFields rfl rfl rfl rfl rfl rfl rfl rfl)

theorem saves_resent (drawn : DrawnTokens) : Saves (resentDocument env nowMs user drawn)
      (.reissue (digestOf env drawn) nowMs) := by
  obtain ⟨id,values,modified⟩ := user
  obtain rfl : modified = fun _ => false := hfresh
  exact saves_iff.mpr (forall_migrationFields rfl rfl rfl rfl rfl rfl rfl rfl)

theorem saves_verified (mailbox : Mailbox) : Saves (user.set mailbox.verified (.bool true)) (.verify mailbox) := by
  obtain ⟨id,values,modified⟩ := user
  obtain rfl : modified = fun _ => false := hfresh
  cases mailbox with
  | current | new => exact saves_iff.mpr (forall_migrationFields rfl rfl rfl rfl rfl rfl rfl rfl)

variable (preserved : PreservedUserData)

theorem saves_moved (newEmail : String) :
    Saves (movedDocument env nowMs user preserved newEmail) (.move newEmail) := by
  obtain ⟨id,values,modified⟩ := user
  obtain rfl : modified = fun _ => false := hfresh
  exact saves_iff.mpr (forall_migrationFields rfl rfl rfl rfl rfl rfl rfl rfl)

theorem saves_applied (fromEmail newEmail : String) :
    Saves (completed env nowMs fromEmail newEmail (applyUserData env user preserved newEmail)) .nothing := by
  obtain ⟨id,values,modified⟩ := user
  obtain rfl : modified = fun _ => false := hfresh
  exact saves_iff.mpr (forall_migrationFields rfl rfl rfl rfl rfl rfl rfl rfl)

theorem saves_set (hother : field ∉ migrationFields) (value : Value) :
    Saves (user.set field value) .nothing := by
  refine saves_iff.mpr ?_
  intro written hwritten
  have hne : written ≠ field := fun heq => hother (heq ▸ hwritten)
  have hmodified : user.modified written = false := congrFun hfresh written
  simp [Document.set,hne,hmodified,Change.columns]

end Documents

theorem sets_migrationUpdate (nowMs : Nat) (currentUser : Document) (newEmail : String) :
    Sets (migrationUpdate nowMs currentUser newEmail) (.move newEmail) := by
  intro later row
  exact forall_migrationFields rfl rfl rfl rfl rfl rfl rfl rfl

/-! ## The requests -/

section Requests
variable {env : MigrationEnv} {stage : Stage}

theorem saved_of_unmodified (hunmodified : document.modified .currentEmailToken = false)
    (answer : Except Failure Document) : Phase.saved document answer .idle = .idle := by
  cases answer with
  | error error => rfl
  | ok saved => simp [Phase.saved,Except.toOption,Phase.issued,hunmodified]

theorem still_save (hsaves : Saves document .nothing)
    (hphase : stage.phase = .idle ∨ stage.phase = .closed) : Still env stage (query (.save document)) := by
  refine still_query (.quiet hsaves) ?_
  intro answer _
  obtain ⟨phase,placeholder,drawn⟩ := stage
  rcases hphase with hphase | hphase
  · obtain rfl : phase = .idle := hphase
    have hsaved := saved_of_unmodified (modified_of_saves hsaves (by decide)) answer
    exact congrArg (Stage.mk · placeholder drawn) hsaved
  · obtain rfl : phase = .closed := hphase
    rfl

theorem comparePassword_still {candidate : String} (hidle : stage.phase = .idle)
    (hfresh : Fresh user) : Still env stage (comparePassword env.account user candidate) := by
  have hsaves : Saves (user.set .password (.text candidate)) .nothing := saves_set hfresh (by decide) _
  unfold comparePassword
  split
  · split
    · exact still_pure
    · dsimp only
      split
      · exact .tryCatch ((still_save hsaves (.inl hidle)).bind fun _ => still_pure) fun _ => still_pure
      · exact still_pure
  · exact still_pure

theorem checkPassword_still {password : Option String}
    (hidle : stage.phase = .idle) : Still env stage (checkPassword env user password) := by
  unfold checkPassword
  split
  · exact still_pure
  · cases password.filter fun password => !password.isEmpty with
    | none => exact still_pure
    | some password =>
      refine guided_findById_bind (by decide) (by decide) (fun _ => rfl) ?_
      intro found hfound
      cases found with
      | none => exact still_pure
      | some withPassword =>
        refine (comparePassword_still hidle (fresh_found hfound).1).bind ?_
        intro compared
        split
        · exact still_pure
        · exact still_pure

variable {userId : String}

theorem checkBio_still {bio : String} (hclosed : stage.phase = .closed) :
    Still env stage (checkBio userId bio) := by
  refine guided_findById_bind (by decide) (by decide) (fun _ => rfl) ?_
  intro found hfound
  cases found with
  | none => exact still_pure
  | some user =>
    dsimp only
    split
    · exact still_pure
    · exact (still_save (saves_set (fresh_found hfound).1 (by decide) _) (.inr hclosed)).bind
        fun _ => still_pure

variable {currentUser : Document} {newEmail : String} {nowMs : Nat}

/-- Once the address is moved, the rest of the request runs in the closed stage. -/
theorem staged_migrationUpdate {version : Option Value} {rest : Option Document → UamAction Response}
    (hphase : stage.phase = .moving userId newEmail) (hnone : Staged env (stage.enter .closed) (rest none))
    (hsome : ∀ row, Staged env (stage.enter .closed) (rest (some (.load allFields row)))) : Staged env stage
      (query (.findOneAndUpdate userId version (migrationUpdate nowMs currentUser newEmail)) >>= rest) := by
  refine staged_query_bind (.move newEmail hphase (sets_migrationUpdate nowMs currentUser newEmail)) ?_
  intro found hfound
  refine ⟨stage.enter .closed,?_,?_⟩
  · obtain ⟨phase,placeholder,drawn⟩ := stage
    obtain rfl : phase = .moving userId newEmail := hphase
    rfl
  · cases found with
    | none => exact hnone
    | some updated =>
      obtain ⟨row,_,rfl⟩ := hfound
      exact hsome row

variable {issued : TokenPair}

theorem mergeAccounts_staged {existing : Document}
    (hphase : stage.phase = .moving currentUser.id.val newEmail) :
    Staged env stage (mergeAccounts env currentUser existing newEmail issued) := by
  refine deleteIndex_still.staged_bind ?_
  intro _
  refine findByIdAndDelete_still.staged_bind ?_
  intro _
  refine still_now.staged_bind ?_
  intro nowMs
  refine staged_migrationUpdate hphase staged_pure ?_
  intro row
  refine still_now.staged_bind ?_
  intro laterMs
  refine (still_save (saves_applied (fresh_load _ _) _ _ _) (.inr rfl)).staged_bind ?_
  intro saved
  refine sync_still.staged_bind ?_
  intro _
  refine (checkBio_still rfl).staged_bind ?_
  intro _
  exact persistSessionTokens_still.staged_bind fun _ => staged_pure

theorem updateAccount_staged (hphase : stage.phase = .moving currentUser.id.val newEmail) :
    Staged env stage (updateAccount env currentUser newEmail issued) := by
  refine still_now.staged_bind ?_
  intro nowMs
  refine staged_migrationUpdate hphase staged_pure ?_
  intro row
  refine still_now.staged_bind ?_
  intro laterMs
  refine (still_save (saves_withHistory (fresh_load _ _) _) (.inr rfl)).staged_bind ?_
  intro saved
  refine sync_still.staged_bind ?_
  intro _
  exact persistSessionTokens_still.staged_bind fun _ => staged_pure

variable {selection : Option Selection} {Value : Type}

theorem staged_findById_closed {rest : Option Document → UamAction Value} (hclosed : stage.phase = .closed)
    (hcurrent : selection ≠ currentSelection) (hrest : ∀ found, Staged env stage (rest found)) :
    Staged env stage (query (.findById id selection) >>= rest) := by
  refine staged_query_bind (fun hselection => absurd hselection hcurrent) ?_
  intro found _
  have hnext : stage.next env (.sql (.findById id selection)) (.ok found) = stage := by
    obtain ⟨phase,placeholder,drawn⟩ := stage
    obtain rfl : phase = .closed := hclosed
    cases found <;> rfl
  exact ⟨stage,hnext,hrest found⟩

theorem moveAccount_staged (hphase : stage.phase = .moving userId newEmail) :
    Staged env stage (moveAccount env userId newEmail issued) := by
  refine guided_findById_bind (by decide) (by decide) (fun _ => trivial) ?_
  intro found hfound
  cases found with
  | none => exact staged_pure
  | some user =>
    obtain ⟨hfresh,hid⟩ := fresh_found hfound
    refine still_now.staged_bind ?_
    intro nowMs
    have hmoving : stage.phase = .moving
        (movedDocument env nowMs user (extractUserData user) newEmail).id.val newEmail := by
      rw [hphase]
      exact congrArg (Phase.moving · newEmail) hid.symm
    refine staged_query_bind (.move newEmail hmoving (saves_moved hfresh _ newEmail)) ?_
    intro saved _
    have hnext : stage.next env (.sql (.save (movedDocument env nowMs user (extractUserData user) newEmail)))
        (.ok saved) = stage.enter .closed := by
      obtain ⟨phase,placeholder,drawn⟩ := stage
      obtain rfl : phase = .moving userId newEmail := hphase
      rfl
    refine ⟨stage.enter .closed,hnext,?_⟩
    refine sync_still.staged_bind ?_
    intro _
    refine (checkBio_still rfl).staged_bind ?_
    intro _
    refine staged_findById_closed rfl (by decide) ?_
    intro _
    refine persistSessionTokens_still.staged_bind ?_
    intro _
    refine staged_findById_closed rfl (by decide) ?_
    intro final
    cases final with
    | none | some final => exact staged_pure

theorem finalizeAddress_staged (hid : user.id = currentUser.id)
    (hphase : (pendingEmail env currentUser).isEmpty = false →
      stage.phase = .moving currentUser.id.val (pendingEmail env currentUser)) :
    Staged env stage (finalizeAddress env user currentUser issued) := by
  unfold finalizeAddress
  split
  · exact staged_pure
  next hpending =>
    have hmoving := hphase (Bool.eq_false_iff.mpr hpending)
    refine findUserByPrimaryEmail_still.staged_bind ?_
    intro found
    cases found with
    | none =>
      apply moveAccount_staged
      rw [hmoving,hid]
    | some existing =>
      dsimp only
      split
      · exact updateAccount_staged hmoving
      · exact mergeAccounts_staged hmoving

theorem finalizeMigrationInternal_staged (hphase : stage.phase = .decided user.id.val) :
    Staged env stage (finalizeMigrationInternal env user issued) := by
  refine Staged.tryCatch ?_ fun _ error => (migrationFailed_still error).staged
  split
  · exact staged_pure
  · refine staged_query_bind (fun _ => hphase) ?_
    intro found hfound
    refine ⟨_,rfl,?_⟩
    cases found with
    | none => exact staged_pure
    | some currentUser =>
      have hid : user.id = currentUser.id := Subtype.ext (fresh_found hfound).2.symm
      dsimp only
      split
      · exact staged_pure
      · apply finalizeAddress_staged hid
        intro hpending
        simp [Stage.next,Phase.next,hphase,Phase.found,hpending,hid]

/-! ### Verification -/

variable {mailbox : Mailbox} {saved : Document}

theorem recordVerification_still (hidle : stage.phase = .idle) :
    Still env stage (recordVerification env mailbox saved) := by
  refine guided_findById_bind (by decide) (by decide) (fun _ => rfl) ?_
  intro found hfound
  cases found with
  | none => exact still_pure
  | some user =>
    dsimp only
    cases (historyOf env user).getLast? with
    | none => exact still_pure
    | some latest =>
      dsimp only
      split
      · exact (still_save (saves_withHistory (fresh_found hfound).1 _) (.inl hidle)).bind fun _ => still_pure
      · exact still_pure

/-- After a read that decides, the migration is finalised if both flags are set. -/
theorem staged_decide_bind {rest : Option Document → UamAction Value} (hidle : stage.phase = .idle)
    (hdecides : decides selection = true) (hcurrent : selection ≠ currentSelection)
    (hnone : ∀ after, Staged env after (rest none))
    (hsome : ∀ user after, (bothVerified user = true → after.phase = .decided user.id.val) →
      Staged env after (rest (some user))) : Staged env stage (query (.findById id selection) >>= rest) := by
  refine staged_query_bind (fun hselection => absurd hselection hcurrent) ?_
  intro found _
  refine ⟨_,rfl,?_⟩
  cases found with
  | none => exact hnone _
  | some user =>
    apply hsome
    intro hboth
    simp [Stage.next,Phase.next,hidle,Phase.found,hdecides,hboth]

theorem markVerified_staged (hfresh : Fresh user) (hphase : stage.phase = .redeemed mailbox user.id.val) :
    Staged env stage (markVerified env mailbox user issued) := by
  refine staged_query_bind (.verify mailbox hphase (saves_verified hfresh mailbox)) ?_
  intro saved _
  refine ⟨stage.enter .idle,?_,?_⟩
  · simp [Stage.next,Phase.next,hphase,Phase.saved,Document.set,Stage.enter]
  refine (recordVerification_still rfl).staged_bind ?_
  intro _
  refine staged_decide_bind rfl (by decide) (by decide) (fun _ => staged_pure) ?_
  intro updated after hdecided
  dsimp only
  split
  next hboth => exact finalizeMigrationInternal_staged (hdecided hboth)
  · exact staged_pure

variable {placeholder : UserId}

theorem reservePlaceholder_still (hplaceholder : stage.placeholder = some placeholder) :
    Still env stage (reservePlaceholder env newEmail placeholder) := by
  refine findUserByPrimaryEmail_still.bind ?_
  intro found
  have hinsert : ∀ data, Still env stage (query (.insert placeholder data)) :=
    fun data => still_query hplaceholder fun _ _ => rfl
  cases found with
  | none => exact (hinsert _).bind fun _ => sync_still
  | some _ => exact still_pure

theorem staged_redeem_bind {secret : String} {rest : Option Document → UamAction Value}
    (hidle : stage.phase = .idle)
    (hnone : Staged env stage (rest none)) (hsome : ∀ user, Fresh user →
      Staged env (stage.enter (.redeemed mailbox user.id.val)) (rest (some user))) :
    Staged env stage (query (.findOne (tokenFilter env mailbox nowMs secret) none) >>= rest) := by
  refine staged_query_bind ⟨hidle,rfl,mailbox,rfl⟩ ?_
  intro found hfound
  cases found with
  | none => exact ⟨stage,rfl,hnone⟩
  | some user =>
    obtain ⟨row,_,rfl⟩ := hfound
    refine ⟨_,rfl,?_⟩
    have hmailbox : mailboxOf (tokenFilter env mailbox nowMs secret).token = some mailbox := by
      cases mailbox <;> rfl
    simpa [Stage.next,Phase.next,hmailbox,Stage.enter] using hsome _ (fresh_load _ row)

variable {formToken : String}

theorem verifyCurrentEmail_staged (hidle : stage.phase = .idle) :
    Staged env stage (verifyCurrentEmail env formToken issued) := by
  refine .tryCatch ?_ fun _ _ => staged_pure
  split
  · exact staged_pure
  · refine consumeFormToken_still.staged_bind ?_
    intro redeemed
    cases redeemed with
    | none => exact staged_pure
    | some redeemed =>
      refine still_now.staged_bind ?_
      intro nowMs
      refine staged_redeem_bind hidle staged_pure ?_
      intro user hfresh
      exact markVerified_staged hfresh rfl

theorem verifyNewEmail_staged (hidle : stage.phase = .idle)
    (hplaceholder : stage.placeholder = some placeholder) :
    Staged env stage (verifyNewEmail env formToken placeholder issued) := by
  refine Staged.tryCatch ?_ fun _ _ => staged_pure
  split
  · exact staged_pure
  · refine consumeFormToken_still.staged_bind ?_
    intro redeemed
    cases redeemed with
    | none => exact staged_pure
    | some redeemed =>
      refine still_now.staged_bind ?_
      intro nowMs
      refine staged_redeem_bind hidle staged_pure ?_
      intro user hfresh
      refine Still.staged_bind (reservePlaceholder_still hplaceholder) ?_
      intro _
      exact markVerified_staged hfresh rfl

/-! ### Authenticated requests -/

theorem authenticated_staged {refuse : Response → UamAction Value} {rest : Document → UamAction Value}
    (hrefuse : ∀ refusal, Staged env stage (refuse refusal))
    (hrest : ∀ user, Staged env stage (rest user)) : Staged env stage (authenticate caller >>= fun
      | .error refusal => refuse refusal
      | .ok user => rest user) := by
  refine authenticate_still.staged_bind ?_
  intro authenticated
  cases authenticated with
  | error refusal => exact hrefuse refusal
  | ok user => exact hrest user

section
variable (hlower : ∀ email, lowerCase env (lowerCase env email) = lowerCase env email)
  (hidle : stage.phase = .idle)
include hlower hidle

variable {request : InitiateRequest}

theorem initiateChecked_staged (hdrawn : stage.drawn = some request.drawn) :
    Staged env stage (initiateChecked env user request accountExists) := by
  refine (checkPassword_still hidle).staged_bind ?_
  intro refusal
  cases refusal with
  | some refusal => exact staged_pure
  | none =>
    refine guided_findById_bind (by decide) (by decide) (fun _ => trivial) ?_
    intro found hfound
    cases found with
    | none => exact staged_pure
    | some userDoc =>
      refine still_now.staged_bind ?_
      intro nowMs
      refine staged_query_bind (.initiate _ _ nowMs hidle hdrawn (hlower request.newEmail)
        (saves_initiated (fresh_found hfound).1 _ request.drawn)) ?_
      intro saved _
      refine ⟨stage.enter (.mailing userDoc.id.val (textOf (saved.values .email))
        (lowerCase env request.newEmail)),?_,?_⟩
      · simp only [Stage.next,Phase.next,hidle]
        rfl
      refine sync_still.staged_bind ?_
      intro _
      refine Still.staged_bind (sendLinks_still hdrawn rfl) ?_
      intro sent
      split
      · exact staged_pure
      · exact staged_pure

theorem initiateAuthenticated_staged (hdrawn : stage.drawn = some request.drawn) :
    Staged env stage (initiateAuthenticated env user request) := by
  refine .tryCatch ?_ fun _ _ => staged_pure
  split
  · exact staged_pure
  · refine still_now.staged_bind ?_
    intro nowMs
    cases initiationRefused nowMs user with
    | some refusal => exact staged_pure
    | none =>
      refine findUserByPrimaryEmail_still.staged_bind ?_
      intro found
      cases found with
      | none => exact initiateChecked_staged hlower hidle hdrawn
      | some existing =>
        dsimp only
        split
        · exact staged_pure
        · split
          · exact staged_pure
          · exact initiateChecked_staged hlower hidle hdrawn

end

theorem resendLinks_still (hdrawn : stage.drawn = some drawn)
    (hphase : stage.phase = .mailing userId (textOf (saved.values .email)) (textOf (saved.values .newEmailPending))) :
    Still env stage (resendLinks env saved drawn) := by
  unfold resendLinks
  split
  next pending hpending =>
    rw [hpending] at hphase
    refine findUserIdByPrimaryEmail_still.bind ?_
    intro accountExists
    refine (sendLinks_still hdrawn hphase).bind ?_
    intro sent
    split
    · exact still_pure
    · exact still_pure
  · exact still_throw

theorem resendAuthenticated_staged (hidle : stage.phase = .idle)
    (hdrawn : stage.drawn = some drawn) : Staged env stage (resendAuthenticated env user drawn) := by
  refine Staged.tryCatch ?_ fun _ _ => staged_pure
  refine guided_findById_bind (by decide) (by decide) (fun _ => trivial) ?_
  intro found hfound
  cases found with
  | none => exact staged_pure
  | some userDoc =>
    have hfresh := (fresh_found hfound).1
    refine still_now.staged_bind ?_
    intro nowMs
    cases resendRefused nowMs userDoc with
    | some refusal => exact staged_pure
    | none =>
      refine staged_query_bind (.reissue _ nowMs hidle hdrawn (saves_resent hfresh drawn)) ?_
      intro saved _
      refine ⟨stage.enter (.mailing userDoc.id.val (textOf (saved.values .email))
        (textOf (saved.values .newEmailPending))),?_,?_⟩
      · obtain ⟨id,values,modified⟩ := userDoc
        obtain rfl : modified = fun _ => false := hfresh
        simp only [Stage.next,Phase.next,hidle]
        rfl
      refine sync_still.staged_bind ?_
      intro _
      exact Still.staged (resendLinks_still hdrawn rfl)

theorem finalizeAuthenticated_staged (hidle : stage.phase = .idle) :
    Staged env stage (finalizeAuthenticated env user issued) := by
  refine .tryCatch ?_ fun _ _ => staged_pure
  refine staged_decide_bind hidle (by decide) (by decide) (fun _ => staged_pure) ?_
  intro userDoc after hdecided
  dsimp only
  split
  · exact staged_pure
  · split
    · exact staged_pure
    next hboth => exact finalizeMigrationInternal_staged (hdecided (by simpa using hboth))

theorem redeemEmailLink_staged : Staged env stage (redeemEmailLink env code formToken) := by
  refine Staged.tryCatch ?_ fun _ _ => staged_pure
  split
  · exact staged_pure
  · refine Still.staged_bind ?_ ?_
    · unfold redeemEmailLinkCode
      split
      · exact still_pure
      · refine takeCode_still.bind ?_
        intro payload
        cases payload with
        | none => exact still_pure
        | some payload => exact keepCode_still.bind fun _ => still_pure
    · intro redeemed
      cases redeemed with
      | none | some redeemed => exact staged_pure

end Requests

def placeholderOf : MigrationRequest → Option UserId
  | .verifyNew _ placeholder _ => some placeholder
  | _ => none

def drawnOf : MigrationRequest → Option DrawnTokens
  | .initiate _ request => some request.drawn
  | .resend _ drawn => some drawn
  | _ => none

def Stage.initial (request : MigrationRequest) : Stage := ⟨.idle,placeholderOf request,drawnOf request⟩

theorem handle_staged {env : MigrationEnv}
    (hlower : ∀ email, lowerCase env (lowerCase env email) = lowerCase env email)
    (request : MigrationRequest) : Staged env (.initial request) (handle env request) := by
  cases request with
  | initiate caller request =>
    exact authenticated_staged (fun _ => staged_pure) fun _ => initiateAuthenticated_staged hlower rfl rfl
  | resend caller drawn =>
    exact authenticated_staged (fun _ => staged_pure) fun _ => resendAuthenticated_staged rfl rfl
  | verifyCurrent formToken issued => exact verifyCurrentEmail_staged rfl
  | verifyNew formToken placeholder issued => exact verifyNewEmail_staged rfl rfl
  | finalize caller issued =>
    exact authenticated_staged (fun _ => staged_pure) fun _ => finalizeAuthenticated_staged rfl
  | redeem code formToken => exact redeemEmailLink_staged

end Routiq.Uam.MigrationStages
