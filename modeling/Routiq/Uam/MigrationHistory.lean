import Routiq.Uam.MigrationConsent

/-! Migrations over whole runs. The history of an account is what its saves and
redemptions leave behind, in the order in which the database takes them. Every
mail of a link goes to the address its token was issued for, and an address is
moved with the consent of both mailboxes as long as no initiation is stored
while another request on the account is under way. -/
namespace Routiq.Uam.MigrationHistory
open Core Function Runs Processes Actions Users IdentityIndex Commands AccountRequests Function List Option
  Migration MigrationStages MigrationConsent
open Session (sampleSessionEnv accountRow)

abbrev Call : Type := Process Command (Timed Result) (Except Failure Response × Nat)

section Systems
variable {Index : Type} {env : MigrationEnv} {requests : Index → MigrationRequest}
  {system : MigrationSystem Index}
  {index : Index} {input : Input} {command : Command} {next : Timed Result command → Call}

def seen (env : MigrationEnv) (userId : String) (system : MigrationSystem Index) (event : Index × Input) :
    List MailEvent :=
  match (system.processes event.1).pending with
  | some command => observed env.account.session.hashPassword userId event.2 system.world command
  | none => []

variable {value : Except Failure Response × Nat}

variable [DecidableEq Index]

abbrev advance (env : MigrationEnv) : MigrationSystem Index → Index × Input → MigrationSystem Index :=
  .step (machine env.account.session.hashPassword)

theorem advance_done (hprocess : system.processes index = .done value) :
    advance env system (index,input) = system := by
  simp only [advance,System.step,hprocess]

theorem advance_call (hprocess : system.processes index = .call command next) :
    advance env system (index,input) =
      system.perform (machine env.account.session.hashPassword) input index command next := by
  simp [advance,System.step,hprocess,machine]

def history (env : MigrationEnv) (userId : String) (system : MigrationSystem Index)
    (events : List (Index × Input)) : List MailEvent :=
  trail (advance env) (seen env userId) system events

/-! ## Stages of a system -/

def protocol (env : MigrationEnv) : Protocol Command (Timed Result) Stage :=
  untimed Possible (.next env) (Stage.Allowed env)

section
variable (env : MigrationEnv) (requests : Index → MigrationRequest) (system : MigrationSystem Index)

def reached : Index → Stage := (protocol env).stages (fun index => .initial (requests index)) system

def Follow : Prop :=
  (protocol env).Following (fun index => .initial (requests index)) (fun _ _ _ => True) system

end

theorem received_follow (hlower : ∀ email, lowerCase env (lowerCase env email) = lowerCase env email)
    (arrivals : Index → Nat) (world : World) : Follow env requests (received env requests arrivals world) :=
  fun index => handle_staged hlower (requests index) (arrivals index)

section
variable (hfollow : Follow env requests system) (hprocess : system.processes index = .call command next)
include hfollow hprocess

theorem Follow.perform :
    Follow env requests (system.perform (machine env.account.session.hashPassword) input index command next) :=
  Protocol.Following.perform (machine_serves env.account.session.hashPassword (Stage.next env) (Stage.Allowed env))
    hfollow hprocess input

theorem Follow.allowed : (reached env requests system index).Allowed env command :=
  Protocol.Following.allowed hfollow (by rw [hprocess,Process.pending_call])

end

theorem reached_perform (system : MigrationSystem Index) (index : Index) (input : Input) (command : Command)
    (next : Timed Result command → Call) :
    reached env requests (system.perform (machine env.account.session.hashPassword) input index command next) =
      update (reached env requests system) index ((reached env requests system index).next env command
        (exec env.account.session.hashPassword input system.world command).1) :=
  Protocol.stages_perform _ _ _ _ _ _ _ _

theorem invariant_history {good : MigrationSystem Index → Index × Input → Prop}
    {inv : MigrationSystem Index → (String → List MailEvent) → Prop}
    (hperform : ∀ (system : MigrationSystem Index) (index : Index) (input : Input) (command : Command)
      (next : Timed Result command → Call) (past : String → List MailEvent), Follow env requests system →
      system.processes index = .call command next → good system (index,input) → inv system past →
      inv (system.perform (machine env.account.session.hashPassword) input index command next)
        fun userId => past userId ++
          observed env.account.session.hashPassword userId input system.world command)
    {events : List (Index × Input)} (hgood : Along (advance env) good system events)
    (hfollow : Follow env requests system) (hinv : inv system fun _ => []) :
    Follow env requests (run (advance env) system events) ∧
      inv (run (advance env) system events) fun userId => history env userId system events := by
  have hstep : ∀ (system : MigrationSystem Index) (event : Index × Input) (past : String → List MailEvent),
      good system event → Follow env requests system ∧ inv system past →
      Follow env requests (advance env system event) ∧
        inv (advance env system event) fun userId => past userId ++ seen env userId system event := by
    intro system event past hevent hboth
    obtain ⟨index,input⟩ := event
    cases hprocess : system.processes index with
    | done value =>
      simp only [advance_done hprocess,seen,hprocess,Process.pending,append_nil]
      exact hboth
    | call command next =>
      simp only [advance_call hprocess,seen,hprocess]
      exact ⟨hboth.1.perform hprocess,hperform system index input command next past hboth.1 hprocess hevent hboth.2⟩
  have hrun := invariant_trail hstep hgood ⟨hfollow,hinv⟩
  simpa only [nil_append,history] using hrun

/-! ## Where links are mailed -/

def mailsOf (system : MigrationSystem Index) (index : Index) : List Mail :=
  (system.trace index).filterMap fun entry =>
    match entry.1 with
    | .sendEmail mail => some mail
    | _ => none

def Posted (env : MigrationEnv) (drawn : DrawnTokens) (past : String → List MailEvent) (mail : Mail) : Prop :=
  ∃ userId mailbox address, mail.code = drawn.code mailbox ∧ mail.recipient = textOf (some address) ∧
    .issued mailbox (digestOf env drawn mailbox) address ∈ past userId

/-- The addresses a request is about to mail to are those its tokens were issued for. -/
def Addressed (env : MigrationEnv) (stage : Stage) (past : String → List MailEvent) : Prop :=
  ∀ userId currentEmail newEmail, stage.phase = .mailing userId currentEmail newEmail →
    ∃ drawn currentAddress newAddress, stage.drawn = some drawn ∧
      currentEmail = textOf (some currentAddress) ∧ newEmail = textOf (some newAddress) ∧
      .issued .current (digestOf env drawn .current) currentAddress ∈ past userId ∧
      .issued .new (digestOf env drawn .new) newAddress ∈ past userId

variable {past : String → List MailEvent} {mail : Mail} {drawn : DrawnTokens}

theorem Posted.append (hposted : Posted env drawn past mail) (more : String → List MailEvent) :
    Posted env drawn (fun userId => past userId ++ more userId) mail := by
  obtain ⟨userId,mailbox,address,hcode,hrecipient,hissued⟩ := hposted
  exact ⟨userId,mailbox,address,hcode,hrecipient,mem_append_left _ hissued⟩

variable {stage : Stage}

theorem Addressed.append (haddressed : Addressed env stage past) (more : String → List MailEvent) :
    Addressed env stage fun userId => past userId ++ more userId := by
  intro userId currentEmail newEmail hphase
  obtain ⟨drawn,currentAddress,newAddress,hdrawn,hcurrent,hnew,hcurrentIssued,hnewIssued⟩ :=
    haddressed userId currentEmail newEmail hphase
  exact ⟨drawn,currentAddress,newAddress,hdrawn,hcurrent,hnew,mem_append_left _ hcurrentIssued,
    mem_append_left _ hnewIssued⟩

variable {userId currentEmail newEmail : String}

theorem mailing_of_next {phase : Phase} {answer : Result command}
    (hcommand : ∀ document, command ≠ .sql (.save document))
    (hnext : phase.next env command answer = .mailing userId currentEmail newEmail) :
    phase = .mailing userId currentEmail newEmail := by
  cases command with
  | sql statement =>
    cases statement with
    | save document => exact absurd rfl (hcommand document)
    | findById id selection =>
      cases answer with
      | error error => exact hnext
      | ok found =>
        cases found with
        | none => exact hnext
        | some user =>
          cases phase with
          | idle =>
            simp only [Phase.next,Phase.found] at hnext
            split at hnext <;> cases hnext
          | decided id =>
            simp only [Phase.next,Phase.found] at hnext
            split at hnext
            · split at hnext <;> cases hnext
            · cases hnext
          | mailing _ _ _ | redeemed _ _ | moving _ _ | closed => exact hnext
    | findOne filter selection =>
      cases answer with
      | error error => exact hnext
      | ok found =>
        cases found with
        | none => exact hnext
        | some user =>
          simp only [Phase.next] at hnext
          split at hnext
          · cases hnext
          · exact hnext
    | findOneAndUpdate id tokenVersion update =>
      cases phase with
      | moving id new =>
        simp only [Phase.next,Phase.updated] at hnext
        split at hnext <;> cases hnext
      | idle | decided _ | mailing _ _ _ | redeemed _ _ | closed => exact hnext
    | insert _ _ | findByIdAndDelete _ | findIndex _ | updateIndex _ _ | insertIndex _ _ | deleteIndex _ _ =>
      exact hnext
  | cacheGet _ | cacheSet _ _ _ | cacheDel _ | memoryTake _ | memoryPut _ _ _ | revoke _ | sendEmail _ =>
    exact hnext

variable {document : Document}

theorem mailing_of_saved {phase : Phase} {answer : Except Failure Document}
    (hsaved : phase.saved document answer = .mailing userId currentEmail newEmail) :
    phase = .mailing userId currentEmail newEmail ∨
      phase = .idle ∧ ∃ saved, answer = .ok saved ∧ Phase.issued document saved = .mailing userId currentEmail newEmail := by
  cases phase with
  | idle =>
    cases answer with
    | error error => cases hsaved
    | ok saved => exact .inr ⟨rfl,saved,rfl,hsaved⟩
  | redeemed mailbox id | moving id new =>
    simp only [Phase.saved] at hsaved
    split at hsaved <;> cases hsaved
  | mailing id current new => exact .inl hsaved
  | decided id | closed => cases hsaved

variable {world : World} {saved : Document}

section
variable {hashPassword : String → String}

theorem save_of_answered
    (hanswer : (exec hashPassword input world (.sql (.save document))).1 = Except.ok saved) :
    input.database = .answered ∧
      ∃ users, document.save hashPassword input.nowMs world.users = .ok (users,saved) := by
  cases hfate : input.database with
  | failed applied =>
    simp only [exec,hfate] at hanswer
    cases hanswer
  | answered =>
    rw [exec_of_answered hfate] at hanswer
    simp only [execStatement] at hanswer
    cases hsave : document.save hashPassword input.nowMs world.users with
    | error message =>
      rw [hsave] at hanswer
      cases hanswer
    | ok outcome =>
      obtain ⟨users,returned⟩ := outcome
      rw [hsave] at hanswer
      exact ⟨rfl,users,by rw [Except.ok.inj hanswer]⟩

theorem textOf_addressIn (saved : Document) (field : Field) :
    textOf (some (addressIn saved field)) = textOf (saved.values field) := by
  unfold addressIn
  cases saved.values field with
  | none | some value => rfl

theorem addressIn_saved {nowMs : Nat} {users after : UserTable} {change : Change} {field : Field}
    {value : Value} (hsave : document.save hashPassword nowMs users = .ok (after,saved))
    (hsaves : Saves document change) (hfield : field ∈ migrationFields)
    (hcolumn : change.columns field = some value) : addressIn saved field = value := by
  rcases save_returns hsave with ⟨row,hrow,rfl⟩ | ⟨_,rfl⟩
  · have hlookup := lookup_save hsave document.id.val
    rw [if_pos rfl,hrow] at hlookup
    obtain ⟨before,_,rfl⟩ := map_eq_some_iff.mp hlookup.symm
    have hchanged := changed_of_saves hsaves hashPassword nowMs before field hfield
    rw [hcolumn] at hchanged
    have hall : field ∈ allFields := by cases field <;> decide
    simp only [addressIn,Document.load,hall,if_true,getD_some]
    exact hchanged
  · have hassigned := saves_iff.mp hsaves field hfield
    rw [hcolumn] at hassigned
    split at hassigned
    · exact some.inj hassigned
    · cases hassigned

/-- The links of tokens that a save has stored go where the tokens were issued for. -/
theorem addressed_of_save (hallowed : SaveAllowed env stage document) (hidle : stage.phase = .idle)
    (hanswer : (exec hashPassword input world (.sql (.save document))).1 = Except.ok saved)
    (hissued : Phase.issued document saved = .mailing userId currentEmail newEmail) :
    ∃ drawn currentAddress newAddress, stage.drawn = some drawn ∧
      currentEmail = textOf (some currentAddress) ∧ newEmail = textOf (some newAddress) ∧
      Consent.Event.issued .current (digestOf env drawn .current) currentAddress ∈
        observed hashPassword userId input world (.sql (.save document)) ∧
      Consent.Event.issued .new (digestOf env drawn .new) newAddress ∈
        observed hashPassword userId input world (.sql (.save document)) := by
  obtain ⟨hanswered,users,hsave⟩ := save_of_answered hanswer
  unfold Phase.issued at hissued
  split at hissued
  next hmodified =>
    obtain ⟨rfl,rfl,rfl⟩ := Phase.mailing.inj hissued
    have hobserved : observed hashPassword document.id.val input world (.sql (.save document)) =
        savedEvents document saved := by
      simp [observed,hsave,hanswered]
    rw [hobserved]
    cases hallowed with
    | quiet hsaves =>
      rw [modified_of_saves hsaves (by decide)] at hmodified
      cases hmodified
    | initiate pending drawn savedMs _ hdrawn _ hsaves =>
      have hpending : document.modified .newEmailPending = true := modified_of_saves hsaves (by decide)
      have hvalue := saves_iff.mp hsaves .newEmailPending (by decide)
      rw [if_pos hpending] at hvalue
      refine ⟨drawn,addressIn saved .email,addressIn saved .newEmailPending,hdrawn,
        (textOf_addressIn saved .email).symm,?_,?_,?_⟩
      · rw [if_pos hpending,addressIn_saved hsave hsaves (by decide) rfl]
        exact (textOf_addressIn document .newEmailPending).symm.trans (congrArg textOf hvalue)
      · rw [savedEvents_of_saves hsaves]
        simp [Change.columns,textIn]
      · rw [savedEvents_of_saves hsaves]
        simp [Change.columns,textIn]
    | reissue drawn savedMs _ hdrawn hsaves =>
      have hpending : document.modified .newEmailPending = false := modified_of_saves hsaves (by decide)
      refine ⟨drawn,addressIn saved .email,addressIn saved .newEmailPending,hdrawn,
        (textOf_addressIn saved .email).symm,?_,?_,?_⟩
      · simp only [hpending,Bool.false_eq_true,if_false]
        exact (textOf_addressIn saved .newEmailPending).symm
      · rw [savedEvents_of_saves hsaves]
        simp [Change.columns,textIn]
      · rw [savedEvents_of_saves hsaves]
        simp [Change.columns,textIn]
    | verify mailbox hphase _ =>
      rw [hidle] at hphase
      cases hphase
    | move newEmail hphase _ =>
      rw [hidle] at hphase
      cases hphase
  · cases hissued

theorem addressed_exec (hallowed : stage.Allowed env command) (haddressed : Addressed env stage past) :
    Addressed env (stage.next env command (exec hashPassword input world command).1)
      fun userId => past userId ++ observed hashPassword userId input world command := by
  intro userId currentEmail newEmail hphase
  have hkept := haddressed.append fun userId => observed hashPassword userId input world command
  by_cases hsave : ∃ document, command = .sql (.save document)
  · obtain ⟨document,rfl⟩ := hsave
    rcases mailing_of_saved hphase with hsame | ⟨hidle,saved,hanswer,hissued⟩
    · exact hkept userId currentEmail newEmail hsame
    · obtain ⟨drawn,currentAddress,newAddress,hdrawn,hcurrent,hnew,hcurrentIssued,hnewIssued⟩ :=
        addressed_of_save hallowed hidle hanswer hissued
      exact ⟨drawn,currentAddress,newAddress,hdrawn,hcurrent,hnew,mem_append_right _ hcurrentIssued,
        mem_append_right _ hnewIssued⟩
  · have hcommand : ∀ document, command ≠ .sql (.save document) := fun document heq => hsave ⟨document,heq⟩
    exact hkept userId currentEmail newEmail (mailing_of_next hcommand hphase)

end

theorem posted_of_mails (haddressed : Addressed env stage past)
    (hdrawn : stage.drawn = some drawn) (hmails : stage.Mails mail) : Posted env drawn past mail := by
  obtain ⟨other,userId,currentEmail,newEmail,hother,hphase,hmail⟩ := hmails
  obtain rfl : drawn = other := some.inj (hdrawn.symm.trans hother)
  obtain ⟨issuing,currentAddress,newAddress,hissuing,rfl,rfl,hcurrent,hnew⟩ :=
    haddressed userId currentEmail newEmail hphase
  obtain rfl : drawn = issuing := some.inj (hdrawn.symm.trans hissuing)
  rcases hmail with ⟨hcode,hrecipient⟩ | ⟨hcode,hrecipient⟩
  · exact ⟨userId,.current,currentAddress,hcode,hrecipient,hcurrent⟩
  · exact ⟨userId,.new,newAddress,hcode,hrecipient,hnew⟩

/-- Every request mails its own links, to where their tokens were issued for. -/
structure Mailing (env : MigrationEnv) (requests : Index → MigrationRequest) (system : MigrationSystem Index)
    (past : String → List MailEvent) : Prop where
  drawn : ∀ index, (reached env requests system index).drawn = drawnOf (requests index)
  addressed : ∀ index, Addressed env (reached env requests system index) past
  posted : ∀ index, ∀ mail ∈ mailsOf system index,
    ∃ drawn, drawnOf (requests index) = some drawn ∧ Posted env drawn past mail

theorem mail_of_perform {other : Index}
    (hmem : mail ∈ mailsOf (system.perform (machine env.account.session.hashPassword) input index command next)
      other) : mail ∈ mailsOf system other ∨ other = index ∧ command = .sendEmail mail := by
  unfold mailsOf at hmem ⊢
  by_cases hother : other = index
  · subst hother
    rw [System.trace_perform_self,filterMap_append] at hmem
    rcases mem_append.mp hmem with hmem | hmem
    · exact .inl hmem
    · refine .inr ⟨rfl,?_⟩
      cases command with
      | sendEmail sent => rw [mem_singleton.mp hmem]
      | sql _ | cacheGet _ | cacheSet _ _ _ | cacheDel _ | memoryTake _ | memoryPut _ _ _ | revoke _ => cases hmem
  · rw [System.trace_perform_other _ _ _ _ _ hother] at hmem
    exact .inl hmem

theorem mailing_perform (hfollow : Follow env requests system)
    (hprocess : system.processes index = .call command next) (hmailing : Mailing env requests system past) :
    Mailing env requests (system.perform (machine env.account.session.hashPassword) input index command next)
      fun userId => past userId ++
        observed env.account.session.hashPassword userId input system.world command where
  drawn other := by
    rw [reached_perform]
    by_cases hother : other = index
    · rw [hother,update_self]
      exact hmailing.drawn index
    · rw [update_of_ne hother]
      exact hmailing.drawn other
  addressed other := by
    rw [reached_perform]
    by_cases hother : other = index
    · rw [hother,update_self]
      exact addressed_exec (hfollow.allowed hprocess) (hmailing.addressed index)
    · rw [update_of_ne hother]
      exact (hmailing.addressed other).append _
  posted other mail hmem := by
    rcases mail_of_perform hmem with hmem | ⟨rfl,rfl⟩
    · obtain ⟨drawn,hdrawn,hposted⟩ := hmailing.posted other mail hmem
      exact ⟨drawn,hdrawn,hposted.append _⟩
    · have hmails := hfollow.allowed hprocess
      obtain ⟨drawn,_,_,_,hdrawn,_⟩ := id hmails
      have hposted := posted_of_mails (hmailing.addressed other) hdrawn hmails
      exact ⟨drawn,(hmailing.drawn other).symm.trans hdrawn,hposted.append _⟩

/-- Over any run, a mail of a migration carries the link of a token that was
issued for its recipient. -/
theorem mails_posted (hlower : ∀ email, lowerCase env (lowerCase env email) = lowerCase env email)
    (arrivals : Index → Nat) (world : World) (events : List (Index × Input)) :
    Mailing env requests (run (advance env) (received env requests arrivals world) events)
      fun userId => history env userId (received env requests arrivals world) events := by
  have hstart : Mailing env requests (received env requests arrivals world) fun _ => [] := by
    refine ⟨fun _ => rfl,?_,?_⟩
    · intro index userId currentEmail newEmail hphase
      cases hphase
    · intro index mail hmem
      cases hmem
  have hgood : Along (advance env) (fun _ _ => True) (received env requests arrivals world) events :=
    along_of_forall (fun _ _ => trivial) _ _
  exact (invariant_history (fun _ _ _ _ _ _ hfollow hprocess _ hmailing =>
    mailing_perform hfollow hprocess hmailing) hgood (received_follow hlower arrivals world) hstart).2

/-! ## Who moves the address -/

def during (process : Call) (stage : Stage) : Stage :=
  if process.pending.isSome then stage else stage.enter .closed

section
variable (env : MigrationEnv) (requests : Index → MigrationRequest)

def stagesOf (system : MigrationSystem Index) (index : Index) : Stage :=
  during (system.processes index) (reached env requests system index)

/-- An initiation that is stored meets no other request on the account that is
under way. -/
def StoredAlone (userId : String) (system : MigrationSystem Index) (event : Index × Input) : Prop :=
  ∀ command, (system.processes event.1).pending = some command →
    Undisturbed userId (stagesOf env requests system) command

end

section
variable (hprocess : system.processes index = .call command next)
include hprocess

theorem stagesOf_call : stagesOf env requests system index = reached env requests system index := by
  simp [stagesOf,during,hprocess]

theorem stagesOf_perform :
    stagesOf env requests (system.perform (machine env.account.session.hashPassword) input index command next) =
      update (stagesOf env requests system) index
        (during (next ((exec env.account.session.hashPassword input system.world command).1,input.nowMs))
          ((stagesOf env requests system index).next env command
            (exec env.account.session.hashPassword input system.world command).1)) := by
  funext other
  rw [stagesOf_call hprocess]
  unfold stagesOf
  rw [reached_perform]
  by_cases hother : other = index
  · subst hother
    simp only [System.perform,update_self]
    rfl
  · simp only [System.perform,update_of_ne hother]

end

theorem sound_during {users : UserTable} {stages : Index → Stage} {events : List MailEvent}
    (hsound : Sound env userId users (update stages index stage) events) (process : Call) :
    Sound env userId users (update stages index (during process stage)) events := by
  unfold during
  split
  · exact hsound
  · have hplaceholder : (stage.enter .closed).placeholder = (update stages index stage index).placeholder := by
      rw [update_self]
      rfl
    have hclosed := hsound.leave rfl hplaceholder (.inr rfl)
    rwa [update_idem] at hclosed

def SoundAt (env : MigrationEnv) (requests : Index → MigrationRequest) (userId : String)
    (system : MigrationSystem Index) (past : String → List MailEvent) : Prop :=
  Sound env userId system.world.users (stagesOf env requests system) (past userId)

theorem sound_perform (hfollow : Follow env requests system)
    (hprocess : system.processes index = .call command next)
    (halone : StoredAlone env requests userId system (index,input))
    (hsound : SoundAt env requests userId system past) : SoundAt env requests userId
      (system.perform (machine env.account.session.hashPassword) input index command next)
      fun userId => past userId ++
        observed env.account.session.hashPassword userId input system.world command := by
  have hallowed := hfollow.allowed hprocess
  rw [← stagesOf_call hprocess] at hallowed
  have hpending : (system.processes index).pending = some command := by rw [hprocess,Process.pending_call]
  unfold SoundAt
  rw [stagesOf_perform hprocess]
  exact sound_during (sound_exec hsound hallowed (halone command hpending)) _

theorem sound_received
    (hplaceholder : ∀ index uuid, placeholderOf (requests index) = some uuid → uuid.val ≠ userId)
    (hsettled : ∀ row, world.users.lookup userId = some row → row.columns .newEmailPending = .null)
    (arrivals : Index → Nat) :
    SoundAt env requests userId (received env requests arrivals world) fun _ => [] := by
  have hidle : ∀ index, consentPhase userId (stagesOf env requests (received env requests arrivals world) index).phase =
      .idle := by
    intro index
    simp only [stagesOf,during]
    split <;> rfl
  refine ⟨?_,?_,?_⟩
  · intro row hrow
    refine ⟨?_,?_⟩
    · intro target hpending
      simp [ledgerOf,hsettled row hrow] at hpending
    · intro _ index target hmoving
      cases (hidle index).symm.trans hmoving
  · intro row hrow
    exact .inl (hsettled row hrow)
  · intro index uuid huuid
    refine hplaceholder index uuid ?_
    simp only [stagesOf,during] at huuid
    split at huuid <;> exact huuid

/-- An address is changed by a request that has read it as pending, for an
account of which it has seen both flags. -/
theorem moving_of_changed {row after : Row} (hfollow : Follow env requests system)
    (hprocess : system.processes index = .call command next)
    (hrow : system.world.users.lookup userId = some row)
    (hafter : (exec env.account.session.hashPassword input system.world command).2.users.lookup userId = some after)
    (hchange : after.columns .email ≠ row.columns .email) :
    ∃ newEmail, after.columns .email = .text newEmail ∧
      (stagesOf env requests system index).phase = .moving userId newEmail := by
  have hallowed := hfollow.allowed hprocess
  rw [← stagesOf_call hprocess] at hallowed
  have heffect := rowEffect_exec env.account.session.hashPassword input system.world command userId
  rw [hrow,hafter] at heffect
  generalize hbefore : some row = before at heffect
  generalize hlater : some after = later at heffect
  cases heffect with
  | same => exact absurd (congrArg (fun row => row.columns .email) (some.inj (hlater.trans hbefore.symm))) hchange
  | saved document hid =>
    subst hbefore
    obtain rfl := some.inj hlater
    have hemail : ∀ change, Saves document change → change.columns .email = none → False := by
      intro change hsaves hkept
      apply hchange
      rw [changed_of_saves hsaves env.account.session.hashPassword input.nowMs row .email (by decide),hkept]
      rfl
    cases hallowed with
    | quiet hsaves => exact (hemail _ hsaves rfl).elim
    | initiate newEmail drawn savedMs _ _ _ hsaves => exact (hemail _ hsaves rfl).elim
    | reissue drawn savedMs _ _ hsaves => exact (hemail _ hsaves rfl).elim
    | verify mailbox _ hsaves => exact (hemail _ hsaves (by cases mailbox <;> rfl)).elim
    | move newEmail hphase hsaves =>
      rw [hid] at hphase
      exact ⟨newEmail,
        changed_of_saves hsaves env.account.session.hashPassword input.nowMs row .email (by decide),hphase⟩
  | updated tokenVersion update =>
    subst hbefore
    obtain rfl := some.inj hlater
    cases hallowed with
    | quiet hsets => exact absurd (changed_of_sets hsets input.nowMs row .email (by decide)) hchange
    | move newEmail hphase hsets =>
      exact ⟨newEmail,changed_of_sets hsets input.nowMs row .email (by decide),hphase⟩
  | inserted uuid data hid habsent created => cases hbefore.trans habsent
  | deleted => cases hlater

/-- As long as an initiation is stored only while no other request on the account
is under way, the address of an account is moved only with the consent of both
mailboxes: since the migration to the new address was initiated, a token issued
for the old address and one issued for the new address were redeemed. The mails
with these tokens go to the addresses they were issued for. -/
theorem migration_authorised (env : MigrationEnv)
    (hlower : ∀ email, lowerCase env (lowerCase env email) = lowerCase env email)
    (requests : Index → MigrationRequest) (arrivals : Index → Nat) (world : World) (userId : String)
    (hplaceholder : ∀ index uuid, placeholderOf (requests index) = some uuid → uuid.val ≠ userId)
    (hsettled : ∀ row, world.users.lookup userId = some row → row.columns .newEmailPending = .null)
    (events : List (Index × Input)) (event : Index × Input)
    (halone : Along (advance env) (StoredAlone env requests userId) (received env requests arrivals world) events)
    {row after : Row}
    (hrow : (run (advance env) (received env requests arrivals world) events).world.users.lookup userId = some row)
    (hafter : (run (advance env) (received env requests arrivals world) (events ++ [event])).world.users.lookup
      userId = some after) (hchange : after.columns .email ≠ row.columns .email) :
    Consent.Consented mailTo (history env userId (received env requests arrivals world) events)
        (row.columns .email) (after.columns .email) ∧
      ∀ index, ∀ mail ∈ mailsOf (run (advance env) (received env requests arrivals world) events) index,
        ∃ drawn, drawnOf (requests index) = some drawn ∧
          Posted env drawn (fun userId => history env userId (received env requests arrivals world) events) mail := by
  refine ⟨?_,(mails_posted hlower arrivals world events).posted⟩
  obtain ⟨hfollow,hsound⟩ := invariant_history
    (fun _ _ _ _ _ _ hfollow hprocess hstored hsound => sound_perform hfollow hprocess hstored hsound) halone
    (received_follow hlower arrivals world) (sound_received hplaceholder hsettled arrivals)
  rw [run_append,run_cons,run_nil] at hafter
  obtain ⟨index,input⟩ := event
  generalize run (advance env) (received env requests arrivals world) events = system at hrow hafter hfollow hsound
  cases hprocess : system.processes index with
  | done value =>
    rw [advance_done hprocess,hrow] at hafter
    exact absurd (congrArg (fun row => row.columns .email) (some.inj hafter).symm) hchange
  | call command next =>
    rw [advance_call hprocess] at hafter
    obtain ⟨newEmail,hmoved,hphase⟩ := moving_of_changed hfollow hprocess hrow hafter hchange
    have hmoving : phasesOf userId (stagesOf env requests system) index = .moving (.text newEmail) := by
      simp [phasesOf,hphase,consentPhase]
    rw [hmoved] at hchange ⊢
    exact Consent.consented_of_moving (hsound.consistent row hrow) hmoving hchange.symm

def storedAlone {count : Nat} (env : MigrationEnv) (requests : Fin count → MigrationRequest) (userId : String)
    (system : MigrationSystem (Fin count)) (event : Fin count × Input) : Bool :=
  match (system.processes event.1).pending with
  | some (.sql (.save document)) =>
    (proposedBy document).isNone || decide (∀ other, ¬UnderWay userId (stagesOf env requests system other).phase)
  | _ => true

theorem storedAlone_of_check {count : Nat} {requests : Fin count → MigrationRequest}
    (system : MigrationSystem (Fin count)) (event : Fin count × Input)
    (hcheck : storedAlone env requests userId system event = true) :
    StoredAlone env requests userId system event := by
  rintro command hpending document rfl _ hproposed
  simp only [storedAlone,hpending,Bool.or_eq_true,isNone_iff_eq_none,decide_eq_true_eq] at hcheck
  exact hcheck.resolve_left hproposed

end Systems

/-! ## A sample account -/

def linkEnv : MigrationEnv := { sampleMigrationEnv with
    account := { sampleAccountEnv with
      session := { sampleSessionEnv with sha256Hex := id }
      codes := { sampleAccountEnv.codes with
        stringifyLink := fun payload =>
          match payload.kind with
          | .verifyEmail => "v" ++ payload.secret
          | .resetPassword => "r" ++ payload.secret
          | .migrateCurrent => "c" ++ payload.secret
          | .migrateNew => "n" ++ payload.secret
        parseLink := fun text =>
          match text.toList with
          | 'v' :: secret => some ⟨.verifyEmail,String.ofList secret,none⟩
          | 'r' :: secret => some ⟨.resetPassword,String.ofList secret,none⟩
          | 'c' :: secret => some ⟨.migrateCurrent,String.ofList secret,none⟩
          | 'n' :: secret => some ⟨.migrateNew,String.ofList secret,none⟩
          | _ => none } } }

def oauthRow : Row := { accountRow [] with columns := fun field =>
      match field with
      | .isEmailVerified => .bool true
      | .provider => .provider .google
      | .providerId => .text "1001"
      | field => (accountRow []).columns field }

def oauthWorld : World := { accountWorld [] with users := ⟨[oauthRow],pairwise_singleton _ _⟩ }
def longCode (digit : Char) : String := String.ofList (List.replicate 64 digit)

def drawnTokens (current new : Char) : DrawnTokens where
  secret
    | .current => String.singleton current
    | .new => String.singleton new
  code
    | .current => longCode current
    | .new => longCode new

def rivalRequests : Fin 6 → MigrationRequest
  | 0 => .initiate (some ⟨"u1",0⟩) ⟨"b@example.org",none,false,drawnTokens '1' '2'⟩
  | 1 => .initiate (some ⟨"u1",0⟩) ⟨"c@example.org",none,false,drawnTokens '3' '4'⟩
  | 2 => .redeem (longCode '1') (longCode '5')
  | 3 => .redeem (longCode '2') (longCode '6')
  | 4 => .verifyCurrent (longCode '5') ⟨"refresh",none⟩
  | 5 => .verifyNew (longCode '6') ⟨"u3",by decide⟩ ⟨"refresh",none⟩

def rivals : MigrationSystem (Fin 6) := received linkEnv rivalRequests (fun _ => 1700000000000) oauthWorld
def turn (index : Fin 6) : Fin 6 × Input := (index,.healthy 1700000000000)
def turns (index : Fin 6) (count : Nat) : List (Fin 6 × Input) := List.replicate count (turn index)

def emailAfter (events : List (Fin 6 × Input)) : Option Value :=
  ((run (advance linkEnv) rivals events).world.users.lookup "u1").map fun row => row.columns .email

def orderly : List (Fin 6 × Input) := turns 0 15 ++ turns 2 3 ++ turns 3 3 ++ turns 4 7 ++ turns 5 17

/-- A migration with nothing in between. -/
theorem migration_authorised_orderly :
    emailAfter orderly = some (.text "a@example.org") ∧ emailAfter (orderly ++ [turn 5]) = some (.text "b@example.org") ∧
      Consent.Consented mailTo (history linkEnv "u1" rivals orderly) (.text "a@example.org") (.text "b@example.org") := by
  obtain ⟨hbefore,hmoved,halone⟩ : emailAfter orderly = some (.text "a@example.org") ∧
      emailAfter (orderly ++ [turn 5]) = some (.text "b@example.org") ∧
      checkAlong (advance linkEnv) (storedAlone linkEnv rivalRequests "u1") rivals orderly = true := by
    decide +kernel
  unfold emailAfter rivals at *
  obtain ⟨row,hrow,hemail⟩ := map_eq_some_iff.mp hbefore
  obtain ⟨after,hafter,hnewEmail⟩ := map_eq_some_iff.mp hmoved
  refine ⟨hbefore,hmoved,?_⟩
  have hconsent := migration_authorised linkEnv (fun _ => rfl) rivalRequests (fun _ => 1700000000000) oauthWorld "u1"
    ?_ ?_ orderly (turn 5) (along_of_check storedAlone_of_check halone) hrow hafter ?_
  · rw [hemail,hnewEmail] at hconsent
    exact hconsent.1
  · decide
  · intro row hrow
    obtain rfl : oauthRow = row := some.inj hrow
    rfl
  · rw [hemail,hnewEmail]
    decide

/-- The second initiation has read the account before the first one, and is
stored when both tokens of the first are redeemed and neither flag is set. -/
def stale : List (Fin 6 × Input) :=
  turns 1 2 ++ turns 0 15 ++ turns 2 3 ++ turns 3 3 ++ turns 4 3 ++ turns 5 3 ++ turns 1 2 ++ turns 4 4 ++ turns 5 11

/-- The flags of a migration to one address finish the migration to another, of
which no token was redeemed. -/
theorem stale_initiation_is_not_authorised :
    emailAfter stale = some (.text "a@example.org") ∧ emailAfter (stale ++ [turn 5]) = some (.text "c@example.org") ∧
      ¬Consent.Consented mailTo (history linkEnv "u1" rivals stale) (.text "a@example.org") (.text "c@example.org") := by
  obtain ⟨hbefore,hmoved,hhistory⟩ : emailAfter stale = some (.text "a@example.org") ∧
      emailAfter (stale ++ [turn 5]) = some (.text "c@example.org") ∧
      history linkEnv "u1" rivals stale =
        [.proposed (.text "b@example.org"),.issued .current "1" (.text "a@example.org"),
          .issued .new "2" (.text "b@example.org"),.redeemed .current "1",.redeemed .new "2",
          .proposed (.text "c@example.org"),.issued .current "3" (.text "a@example.org"),
          .issued .new "4" (.text "c@example.org")] := by
    decide +kernel
  refine ⟨hbefore,hmoved,?_⟩
  rw [hhistory]
  rintro ⟨before,since,hevents,_,hgranted⟩
  obtain ⟨token,hissued,hredeemed⟩ := hgranted .new
  have hmem : ∀ event ∈ since, event ∈ before ++ .proposed (.text "c@example.org") :: since :=
    fun event hevent => mem_append_right before (mem_cons_of_mem _ hevent)
  have hissued' := hmem _ hissued
  have hredeemed' := hmem _ hredeemed
  rw [← hevents] at hissued' hredeemed'
  simp [mailTo] at hissued' hredeemed'
  rw [hissued'] at hredeemed'
  exact absurd hredeemed' (by decide)

end Routiq.Uam.MigrationHistory
