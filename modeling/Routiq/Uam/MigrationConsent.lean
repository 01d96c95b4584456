import Routiq.Core.Consent
import Routiq.Uam.MigrationStages

/-! Who has consented to the address of an account. The history of an account
says which migrations were initiated, to which addresses tokens were issued and
which of them were redeemed; the columns of its row and the phases of the
requests are a ledger over that history. A move of the address has the consent
of both mailboxes as long as no initiation comes in between. -/
namespace Routiq.Uam.MigrationConsent
open Core Function Actions Users IdentityIndex Commands Option List Bool Migration MigrationStages

/-! ## The history of an account -/

/-- Tokens are known by their digests, addresses are column values. -/
abbrev MailEvent := Consent.Event Mailbox String Value

def mailTo (email pending : Value) : Mailbox → Value
  | .current => email
  | .new => pending

def proposedBy (document : Document) : Option String :=
  if document.modified .newEmailPending then
    match document.values .newEmailPending with
    | some (.text newEmail) => some newEmail
    | _ => none
  else none

def digestBy (document : Document) (mailbox : Mailbox) : Option String :=
  if document.modified mailbox.token then
    match document.values mailbox.token with
    | some (.text digest) => some digest
    | _ => none
  else none

def addressIn (saved : Document) (field : Field) : Value := (saved.values field).getD .null

def issuedBy (document saved : Document) (mailbox : Mailbox) : List MailEvent :=
  ((digestBy document mailbox).map fun digest => .issued mailbox digest
    (mailTo (addressIn saved .email) (addressIn saved .newEmailPending) mailbox)).toList

/-- What a save does for the account: which migration it starts, and which tokens
it stores for which addresses. -/
def savedEvents (document saved : Document) : List MailEvent :=
  ((proposedBy document).map fun newEmail => .proposed (.text newEmail)).toList ++
    (issuedBy document saved .current ++ issuedBy document saved .new)

section
variable (userId : String) (filter : RowFilter)

def redeemedEvents (found : Option Document) : List MailEvent :=
  match found, mailboxOf filter.token with
  | some user, some mailbox => if user.id.val = userId then [.redeemed mailbox filter.digest] else []
  | _, _ => []

def foundEvents : Except Failure (Option Document) → List MailEvent
  | .ok found => redeemedEvents userId filter found
  | .error _ => []

end

/-- A save is seen if the database makes it, answered or not; a token is redeemed
when a request finds the account by it. -/
def observed (hashPassword : String → String) (userId : String) (input : Input) (world : World) :
    Command → List MailEvent
  | .sql (.save document) =>
    if document.id.val = userId ∧ input.database ≠ .failed false then
      match document.save hashPassword input.nowMs world.users with
      | .ok (_,saved) => savedEvents document saved
      | .error _ => []
    else []
  | .sql (.findOne filter selection) =>
    foundEvents userId filter (exec hashPassword input world (.sql (.findOne filter selection))).1
  | _ => []

/-! ## The ledger of an account -/

def consentPhase (userId : String) : Phase → Consent.Phase Mailbox Value
  | .redeemed mailbox id => if id = userId then .redeemed mailbox else .idle
  | .decided id => if id = userId then .decided else .idle
  | .moving id newEmail => if id = userId then .moving (.text newEmail) else .idle
  | _ => .idle

variable {digest : Mailbox → String} {document : Document} {update : UpdateDoc} {newEmail : String}
  {nowMs : Nat} {mailbox : Mailbox}

section
variable {Index : Type}

def phasesOf (userId : String) (stages : Index → Stage) (index : Index) : Consent.Phase Mailbox Value :=
  consentPhase userId (stages index).phase

def ledgerOf (row : Row) (phases : Index → Consent.Phase Mailbox Value) (events : List MailEvent) :
    Consent.Ledger Index Mailbox String Value where
  value := row.columns .email
  pending := if row.columns .newEmailPending = .null then none else some (row.columns .newEmailPending)
  token mailbox :=
    match row.columns mailbox.token with
    | .text digest => some digest
    | _ => none
  granted mailbox := row.columns mailbox.verified = .bool true
  phase := phases
  events := events

def Changed (change : Change) (row after : Row) : Prop :=
  ∀ field ∈ migrationFields, after.columns field = (change.columns field).getD (row.columns field)

theorem changed_of_saves {change : Change} (hsaves : Saves document change)
    (hashPassword : String → String) (nowMs : Nat) (row : Row) :
    Changed change row (row.assign (document.assignments hashPassword nowMs)) := by
  intro field hfield
  rw [← hsaves hashPassword nowMs field hfield]
  rfl

theorem changed_of_sets {change : Change} (hsets : Sets update change) (nowMs : Nat)
    (row : Row) : Changed change row (row.assign (update.assignments nowMs row)) := by
  intro field hfield
  rw [← hsets nowMs row field hfield]
  rfl

section Ledgers
variable {row after : Row} {phases : Index → Consent.Phase Mailbox Value} {events more : List MailEvent}

theorem ledgerOf_of_changed {change : Change} (hchanged : Changed change row after) :
    ledgerOf after phases events = ledgerOf (row.assign change.columns) phases events := by
  have hcolumn : ∀ field ∈ migrationFields, after.columns field = (row.assign change.columns).columns field :=
    hchanged
  unfold ledgerOf
  congr 1
  · exact hcolumn .email (by decide)
  · rw [hcolumn .newEmailPending (by decide)]
  · funext mailbox
    rw [hcolumn mailbox.token (by cases mailbox <;> decide)]
  · funext mailbox
    rw [hcolumn mailbox.verified (by cases mailbox <;> decide)]

theorem ledgerOf_nothing (hchanged : Changed .nothing row after) :
    ledgerOf after phases events = ledgerOf row phases events := ledgerOf_of_changed hchanged

theorem ledgerOf_initiate (hchanged : Changed (.initiate newEmail digest nowMs) row after) :
    ledgerOf after phases (events ++ .proposed (.text newEmail) :: more) =
      (ledgerOf row phases events).propose (.text newEmail) (fun mailbox => some (digest mailbox)) more := by
  rw [ledgerOf_of_changed hchanged]
  unfold ledgerOf Consent.Ledger.propose
  congr 1
  · funext mailbox
    cases mailbox <;> rfl
  · funext mailbox
    cases mailbox <;> rfl

theorem ledgerOf_reissue (hchanged : Changed (.reissue digest nowMs) row after) :
    ledgerOf after phases (events ++ more) =
      (ledgerOf row phases events).reissue (fun mailbox => some (digest mailbox)) more := by
  rw [ledgerOf_of_changed hchanged]
  unfold ledgerOf Consent.Ledger.reissue
  congr 1
  · funext mailbox
    cases mailbox <;> rfl
  · funext mailbox
    cases mailbox <;> rfl

variable [DecidableEq Index] {index : Index}

theorem ledgerOf_verify (hchanged : Changed (.verify mailbox) row after) :
    ledgerOf after (Function.update phases index .idle) events =
      (ledgerOf row phases events).grant index mailbox := by
  rw [ledgerOf_of_changed hchanged]
  unfold ledgerOf Consent.Ledger.grant
  congr 1
  · cases mailbox <;> rfl
  · cases mailbox <;> rfl
  · funext other
    cases mailbox <;> cases other <;> rfl
  · funext other
    cases mailbox <;> cases other <;> rfl

theorem ledgerOf_move (hchanged : Changed (.move newEmail) row after) :
    ledgerOf after (Function.update phases index .idle) events =
      (ledgerOf row phases events).move index (.text newEmail) := by
  rw [ledgerOf_of_changed hchanged]
  unfold ledgerOf Consent.Ledger.move
  congr 1
  · funext mailbox
    cases mailbox <;> rfl
  · funext mailbox
    cases mailbox <;> rfl

end Ledgers

end

/-! ## What a save leaves in the history -/

def textIn : Option Value → Option String
  | some (.text text) => some text
  | _ => none

theorem written_of_saves {change : Change} (hsaves : Saves document change)
    {field : Field} (hfield : field ∈ migrationFields) : (if document.modified field then
      match document.values field with
      | some (.text text) => some text
      | _ => none
    else none) = textIn (change.columns field) := by
  rw [← saves_iff.mp hsaves field hfield]
  cases document.modified field with
  | false => rfl
  | true =>
    cases document.values field with
    | none => rfl
    | some value => cases value <;> rfl

theorem savedEvents_of_saves {change : Change} (hsaves : Saves document change)
    (saved : Document) : savedEvents document saved =
      ((textIn (change.columns .newEmailPending)).map fun newEmail => .proposed (.text newEmail)).toList ++
        (((textIn (change.columns .currentEmailToken)).map fun digest =>
            .issued .current digest (addressIn saved .email)).toList ++
          ((textIn (change.columns .newEmailToken)).map fun digest =>
            .issued .new digest (addressIn saved .newEmailPending)).toList) := by
  have hproposed : proposedBy document = textIn (change.columns .newEmailPending) :=
    written_of_saves hsaves (by decide)
  have hcurrent : digestBy document .current = textIn (change.columns .currentEmailToken) :=
    written_of_saves hsaves (by decide)
  have hnew : digestBy document .new = textIn (change.columns .newEmailToken) :=
    written_of_saves hsaves (by decide)
  simp only [savedEvents,issuedBy,hproposed,hcurrent,hnew,mailTo]

theorem save_cases (hashPassword : String → String) (userId : String) (input : Input) (world : World)
    (document : Document) :
    ((exec hashPassword input world (.sql (.save document))).2.users.lookup userId = world.users.lookup userId ∧
        observed hashPassword userId input world (.sql (.save document)) = []) ∨
      document.id.val = userId ∧
        (exec hashPassword input world (.sql (.save document))).2.users.lookup userId =
          (world.users.lookup userId).map (·.assign (document.assignments hashPassword input.nowMs)) ∧
        ∃ saved, observed hashPassword userId input world (.sql (.save document)) = savedEvents document saved ∧
          ∀ row, (exec hashPassword input world (.sql (.save document))).2.users.lookup userId = some row →
            saved = .load allFields row := by
  by_cases hid : document.id.val = userId
  · cases hsave : document.save hashPassword input.nowMs world.users with
    | error message =>
      refine .inl ⟨?_,?_⟩
      · simp only [exec,execStatement,hsave]
        cases input.database with
        | answered => rfl
        | failed applied => cases applied <;> rfl
      · simp only [observed,hsave]
        split <;> rfl
    | ok outcome =>
      obtain ⟨users,saved⟩ := outcome
      have hlookup := lookup_save hsave userId
      rw [if_pos hid.symm,hid] at hlookup
      have hsaved : ∀ row, users.lookup userId = some row → saved = .load allFields row := by
        intro row hrow
        rcases save_returns hsave with ⟨found,hfound,hload⟩ | ⟨hnone,_⟩
        · rw [hid,hrow] at hfound
          rw [hload,some.inj hfound]
        · rw [hid,hrow] at hnone
          contradiction
      by_cases hfate : input.database = .failed false
      · refine .inl ⟨?_,?_⟩
        · simp only [exec,hfate]
          rfl
        · simp [observed,hfate]
      · have husers : (exec hashPassword input world (.sql (.save document))).2.users = users := by
          cases hdatabase : input.database with
          | answered => simp only [exec,hdatabase,execStatement,hsave]
          | failed applied =>
            cases applied with
            | true => simp only [exec,hdatabase,execStatement,hsave,if_true]
            | false => exact absurd hdatabase hfate
        rw [husers]
        refine .inr ⟨hid,hlookup,saved,?_,hsaved⟩
        simp [observed,hsave,hid,hfate]
  · have heffect := rowEffect_exec hashPassword input world (.sql (.save document)) userId
    refine .inl ⟨?_,by simp [observed,hid]⟩
    generalize hafter : (exec hashPassword input world (.sql (.save document))).2.users.lookup userId = after
      at heffect
    cases heffect with
    | same => rfl
    | saved document hsaved => exact absurd hsaved hid

/-! ## One command -/

section Steps
variable {Index : Type} [DecidableEq Index] {env : MigrationEnv} {userId : String}

theorem phasesOf_update (stages : Index → Stage) (index : Index) (stage : Stage) :
    phasesOf userId (Function.update stages index stage) =
      Function.update (phasesOf userId stages) index (consentPhase userId stage.phase) := by
  funext other
  by_cases hother : other = index
  · rw [hother,phasesOf,update_self,update_self]
  · rw [phasesOf,update_of_ne hother,update_of_ne hother]
    rfl

def LowerCase (env : MigrationEnv) (row : Row) : Prop := row.columns .newEmailPending = .null ∨
    ∃ pending, row.columns .newEmailPending = .text pending ∧ lowerCase env pending = pending

structure Sound (env : MigrationEnv) (userId : String) (users : UserTable) (stages : Index → Stage)
    (events : List MailEvent) : Prop where
  consistent : ∀ row, users.lookup userId = some row →
    Consent.Consistent mailTo (ledgerOf row (phasesOf userId stages) events)
  lower : ∀ row, users.lookup userId = some row → LowerCase env row
  placeholder : ∀ index uuid, (stages index).placeholder = some uuid → uuid.val ≠ userId

variable {users after : UserTable} {stages : Index → Stage} {events more : List MailEvent}
  {index : Index}
  {stage : Stage}

theorem placeholder_update (hplaceholder : ∀ index uuid, (stages index).placeholder = some uuid → uuid.val ≠ userId)
    (hstage : stage.placeholder = (stages index).placeholder) (other : Index) (uuid : UserId)
    (huuid : (Function.update stages index stage other).placeholder = some uuid) : uuid.val ≠ userId := by
  by_cases hother : other = index
  · rw [hother,update_self,hstage] at huuid
    exact hplaceholder index uuid huuid
  · rw [update_of_ne hother] at huuid
    exact hplaceholder other uuid huuid

section
variable (hsound : Sound env userId users stages events)
  (hlookup : after.lookup userId = users.lookup userId)
  (hstage : stage.placeholder = (stages index).placeholder)
include hsound hlookup hstage

theorem Sound.enter (henter : ∀ row, users.lookup userId = some row →
      Consent.Consistent mailTo (ledgerOf row (phasesOf userId stages) events) →
      Consent.Consistent mailTo ((ledgerOf row (phasesOf userId stages) events).enter index
        (consentPhase userId stage.phase) more)) :
    Sound env userId after (Function.update stages index stage) (events ++ more) where
  consistent row hrow := by
    rw [hlookup] at hrow
    rw [phasesOf_update]
    exact henter row hrow (hsound.consistent row hrow)
  lower row hrow := hsound.lower row (hlookup ▸ hrow)
  placeholder := placeholder_update hsound.placeholder hstage

theorem Sound.leave (hphase : consentPhase userId stage.phase = phasesOf userId stages index ∨
      consentPhase userId stage.phase = .idle) :
    Sound env userId after (Function.update stages index stage) events := by
  rw [← append_nil events]
  refine hsound.enter hlookup hstage ?_
  intro row _ hconsistent
  rcases hphase with hphase | hphase
  · rw [hphase]
    have hself := Consent.enter_self (ledgerOf row (phasesOf userId stages) events) index
    rw [show phasesOf userId stages index = (ledgerOf row (phasesOf userId stages) events).phase index from rfl,
      hself]
    exact hconsistent
  · rw [hphase]
    exact Consent.consistent_leave hconsistent

end

/-! ### Reads -/

variable {selection : Option Selection} {row : Row}

theorem bothVerified_load (hdecides : decides selection = true)
    (hboth : bothVerified (Document.load (resolveFields selection) row) = true) (mailbox : Mailbox) :
    row.columns mailbox.verified = .bool true := by
  have hfields : ∀ field : Field, field = .currentEmailVerified ∨ field = .newEmailVerified →
      field ∈ resolveFields selection := by
    intro field hfield
    simp only [decides,or_eq_true,decide_eq_true_eq] at hdecides
    rcases hdecides with rfl | rfl <;> rcases hfield with rfl | rfl <;> decide
  simp only [bothVerified,and_eq_true,Migration.isTrue,decide_eq_true_eq,Document.load,
    hfields .currentEmailVerified (.inl rfl),hfields .newEmailVerified (.inr rfl),if_true,
    some.injEq] at hboth
  cases mailbox with
  | current => exact hboth.1.1
  | new => exact hboth.1.2

variable {fields : List Field}

theorem pending_of_pendingEmail (hfields : Field.newEmailPending ∈ fields)
    (hlower : LowerCase env row) (hgiven : (pendingEmail env (Document.load fields row)).isEmpty = false) :
    row.columns .newEmailPending = .text (pendingEmail env (Document.load fields row)) := by
  rcases hlower with hnull | ⟨pending,hpending,hpendingLower⟩
  · have hempty : pendingEmail env (Document.load fields row) = "" := by
      simp [pendingEmail,Document.load,hfields,hnull]
    rw [hempty] at hgiven
    contradiction
  · have hread : pendingEmail env (Document.load fields row) = pending := by
      simp only [pendingEmail,Document.load,hfields,if_true,hpending]
      exact hpendingLower
    rw [hread,hpending]

/-- What a read of a document means to the account: nothing, that both flags are
seen, or the address to move to. -/
theorem consentPhase_found (phase : Phase) (selection : Option Selection) (user : Document) :
    (consentPhase userId (phase.found env selection user) = consentPhase userId phase ∨
      consentPhase userId (phase.found env selection user) = .idle) ∨
    (user.id.val = userId ∧ consentPhase userId (phase.found env selection user) = .decided ∧
      decides selection = true ∧ bothVerified user = true) ∨
    (selection = currentSelection ∧ phase = .decided userId ∧
      consentPhase userId (phase.found env selection user) = .moving (.text (pendingEmail env user)) ∧
      (pendingEmail env user).isEmpty = false) := by
  cases phase with
  | idle =>
    by_cases hboth : (decides selection && bothVerified user) = true
    · by_cases hself : user.id.val = userId
      · rw [Phase.found,if_pos hboth]
        rw [and_eq_true] at hboth
        exact .inr (.inl ⟨hself,by simp [consentPhase,hself],hboth⟩)
      · exact .inl (.inr (by simp [Phase.found,hboth,consentPhase,hself]))
    · exact .inl (.inr (by simp [Phase.found,hboth,consentPhase]))
  | decided id =>
    by_cases hselection : selection = currentSelection
    · by_cases hgiven : (pendingEmail env user).isEmpty = true
      · exact .inl (.inr (by simp [Phase.found,hselection,hgiven,consentPhase]))
      · by_cases hself : id = userId
        · refine .inr (.inr ⟨hselection,by rw [hself],?_,eq_false_iff.mpr hgiven⟩)
          simp [Phase.found,hselection,hgiven,consentPhase,hself]
        · exact .inl (.inr (by simp [Phase.found,hselection,hgiven,consentPhase,hself]))
    · exact .inl (.inl (by simp [Phase.found,hselection]))
  | mailing id currentEmail newEmail | redeemed mailbox id | moving id newEmail => exact .inl (.inl rfl)
  | closed => exact .inl (.inl rfl)

theorem sound_found {id : String} (hsound : Sound env userId users stages events)
    (hrow : users.lookup id = some row)
    (hallowed : selection = currentSelection → (stages index).phase = .decided id)
    (hstage : stage.placeholder = (stages index).placeholder) (hphase : stage.phase =
      (stages index).phase.found env selection (Document.load (resolveFields selection) row)) :
    Sound env userId users (Function.update stages index stage) events := by
  have hid : row.id.val = id := (KeyedTable.Table.mem_of_lookup hrow).2
  rcases consentPhase_found (stages index).phase selection (Document.load (resolveFields selection) row) with
    hnothing | ⟨hself,hdecided,hdecides,hboth⟩ | ⟨hselection,hdeciding,hmoving,hgiven⟩
  · rw [← hphase] at hnothing
    exact hsound.leave rfl hstage hnothing
  · rw [← hphase] at hdecided
    obtain rfl : id = userId := hid.symm.trans hself
    rw [← append_nil events]
    refine hsound.enter rfl hstage ?_
    intro found hfound hconsistent
    obtain rfl : row = found := some.inj (hrow.symm.trans hfound)
    rw [hdecided]
    refine Consent.consistent_decide hconsistent ?_
    intro mailbox
    exact decide_eq_true (bothVerified_load hdecides hboth mailbox)
  · rw [← hphase] at hmoving
    obtain rfl : userId = id := Phase.decided.inj (hdeciding.symm.trans (hallowed hselection))
    rw [← append_nil events]
    refine hsound.enter rfl hstage ?_
    intro found hfound hconsistent
    obtain rfl : row = found := some.inj (hrow.symm.trans hfound)
    have hpending := pending_of_pendingEmail (by rw [hselection]; decide) (hsound.lower row hrow) hgiven
    rw [hmoving,← hpending]
    refine Consent.consistent_read hconsistent ?_ ?_
    · have hset : row.columns .newEmailPending ≠ .null := by rw [hpending]; exact nofun
      simp [ledgerOf,hset]
    · simp [ledgerOf,phasesOf,hdeciding,consentPhase]

variable {filter : RowFilter}

theorem sound_redeemed (hsound : Sound env userId users stages events)
    (hmem : row ∈ users.rows) (haccepts : filter.accepts row = true) (htoken : filter.token = mailbox.token)
    (hstage : stage.placeholder = (stages index).placeholder)
    (hphase : stage.phase = .redeemed mailbox row.id.val) :
    Sound env userId users (Function.update stages index stage)
      (events ++ redeemedEvents userId filter (some (Document.load fields row))) := by
  have hmailbox : mailboxOf filter.token = some mailbox := by
    rw [htoken]
    cases mailbox <;> rfl
  by_cases hself : row.id.val = userId
  · have hevents : redeemedEvents userId filter (some (Document.load fields row)) =
        [.redeemed mailbox filter.digest] := by
      simp [redeemedEvents,hmailbox,Document.load,hself]
    rw [hevents]
    refine hsound.enter rfl hstage ?_
    intro found hfound hconsistent
    have hrow : users.lookup userId = some row := hself ▸ KeyedTable.Table.lookup_of_mem hmem
    obtain rfl : row = found := some.inj (hrow.symm.trans hfound)
    have hredeemed : consentPhase userId stage.phase = .redeemed mailbox := by
      rw [hphase]
      simp [consentPhase,hself]
    rw [hredeemed]
    refine Consent.consistent_redeem hconsistent ?_
    simp only [RowFilter.accepts,and_eq_true,decide_eq_true_eq] at haccepts
    rw [htoken] at haccepts
    simp [ledgerOf,haccepts.1.1]
  · have hevents : redeemedEvents userId filter (some (Document.load fields row)) = [] := by
      simp [redeemedEvents,hmailbox,Document.load,hself]
    rw [hevents,append_nil]
    refine hsound.leave rfl hstage (.inr ?_)
    rw [hphase]
    simp [consentPhase,hself]

/-! ### Writes -/

theorem lowerCase_of_changed {change : Change} {after : Row} (hchanged : Changed change row after)
    (hkept : change.columns .newEmailPending = none) (hlower : LowerCase env row) : LowerCase env after := by
  have hpending : after.columns .newEmailPending = row.columns .newEmailPending := by
    rw [hchanged .newEmailPending (by decide),hkept]
    rfl
  unfold LowerCase
  rw [hpending]
  exact hlower

theorem Sound.change {change : Row → Row} (hsound : Sound env userId users stages events)
    (hlookup : after.lookup userId = (users.lookup userId).map change)
    (hstage : stage.placeholder = (stages index).placeholder)
    (hconsistent : ∀ row, users.lookup userId = some row → LowerCase env row →
      Consent.Consistent mailTo (ledgerOf row (phasesOf userId stages) events) →
      LowerCase env (change row) ∧ Consent.Consistent mailTo (ledgerOf (change row)
        (Function.update (phasesOf userId stages) index (consentPhase userId stage.phase)) (events ++ more))) :
    Sound env userId after (Function.update stages index stage) (events ++ more) where
  consistent row hrow := by
    rw [hlookup] at hrow
    obtain ⟨before,hbefore,rfl⟩ := map_eq_some_iff.mp hrow
    rw [phasesOf_update]
    exact (hconsistent before hbefore (hsound.lower before hbefore) (hsound.consistent before hbefore)).2
  lower row hrow := by
    rw [hlookup] at hrow
    obtain ⟨before,hbefore,rfl⟩ := map_eq_some_iff.mp hrow
    exact (hconsistent before hbefore (hsound.lower before hbefore) (hsound.consistent before hbefore)).1
  placeholder := placeholder_update hsound.placeholder hstage

def UnderWay (userId : String) (phase : Phase) : Prop := consentPhase userId phase ≠ .idle

instance (userId : String) (phase : Phase) : Decidable (UnderWay userId phase) :=
  inferInstanceAs (Decidable (_ ≠ _))

section Changes
variable {change : Change} {row after : Row} {phases : Index → Consent.Phase Mailbox Value}
  {phase : Consent.Phase Mailbox Value}
  (hconsistent : Consent.Consistent mailTo (ledgerOf row phases events))
include hconsistent

theorem consistent_nothing (hchanged : Changed .nothing row after) (hphase : phase = phases index ∨ phase = .idle) :
    Consent.Consistent mailTo (ledgerOf after (Function.update phases index phase) events) := by
  rw [ledgerOf_nothing hchanged]
  rcases hphase with rfl | rfl
  · rw [update_eq_self]
    exact hconsistent
  · have hleave : Consent.Consistent mailTo ((ledgerOf row phases events).enter index .idle []) :=
      Consent.consistent_leave hconsistent
    simpa [Consent.Ledger.enter,ledgerOf] using hleave

omit hconsistent in
theorem consistent_initiated
    (hchanged : Changed (.initiate newEmail digest nowMs) row after) (hidle : ∀ other, phases other = .idle) :
    Consent.Consistent mailTo (ledgerOf after (Function.update phases index .idle)
      (events ++ [.proposed (.text newEmail),.issued .current (digest .current) (after.columns .email),
        .issued .new (digest .new) (after.columns .newEmailPending)])) := by
  have hsame : Function.update phases index .idle = phases := by rw [← hidle index,update_eq_self]
  rw [hsame,ledgerOf_initiate hchanged]
  refine Consent.consistent_propose hidle ?_ ?_
  · intro target hmem
    simp at hmem
  · intro mailbox issued hissued
    obtain rfl : digest mailbox = issued := some.inj hissued
    have hemail : after.columns .email = row.columns .email := hchanged .email (by decide)
    have hpending : after.columns .newEmailPending = .text newEmail := hchanged .newEmailPending (by decide)
    rw [hemail,hpending]
    cases mailbox <;> simp [ledgerOf,mailTo]

theorem consistent_reissued (hchanged : Changed (.reissue digest nowMs) row after)
    (hidle : phases index = .idle) :
    Consent.Consistent mailTo (ledgerOf after (Function.update phases index .idle)
      (events ++ [.issued .current (digest .current) (after.columns .email),
        .issued .new (digest .new) (after.columns .newEmailPending)])) := by
  have hsame : Function.update phases index .idle = phases := by rw [← hidle,update_eq_self]
  rw [hsame,ledgerOf_reissue hchanged]
  refine Consent.consistent_reissue hconsistent ?_ ?_
  · intro target hmem
    simp at hmem
  · intro target htarget mailbox issued hissued
    obtain rfl : digest mailbox = issued := some.inj hissued
    have hemail : after.columns .email = row.columns .email := hchanged .email (by decide)
    have hpending : after.columns .newEmailPending = row.columns .newEmailPending :=
      hchanged .newEmailPending (by decide)
    have hread : row.columns .newEmailPending = target := by
      simp only [ledgerOf] at htarget
      split at htarget
      · contradiction
      · exact some.inj htarget
    rw [hemail,hpending,hread]
    cases mailbox <;> simp [ledgerOf,mailTo]

theorem consistent_moved (hchanged : Changed (.move newEmail) row after)
    (hmoving : phases index = .moving (.text newEmail)) :
    Consent.Consistent mailTo (ledgerOf after (Function.update phases index .idle) events) := by
  rw [ledgerOf_move hchanged]
  exact Consent.consistent_move hconsistent hmoving

end Changes

theorem consentPhase_saved (phase : Phase) (document : Document) (answer : Except Failure Document) :
    consentPhase userId (phase.saved document answer) = consentPhase userId phase ∨
      consentPhase userId (phase.saved document answer) = .idle := by
  cases phase with
  | idle =>
    refine .inr ?_
    cases answer with
    | error error => rfl
    | ok saved =>
      simp only [Phase.saved,Except.toOption,map_some,getD_some,Phase.issued]
      split <;> rfl
  | redeemed mailbox id | moving id newEmail =>
    rw [Phase.saved]
    split
    · exact .inr rfl
    · exact .inl rfl
  | mailing id currentEmail newEmail | decided id | closed => exact .inl rfl

theorem consentPhase_saved_idle {phase : Phase} {answer : Except Failure Document}
    (hidle : consentPhase userId phase = .idle) : consentPhase userId (phase.saved document answer) = .idle := by
  rcases consentPhase_saved phase document answer with hsame | hdone
  · exact hsame.trans hidle
  · exact hdone

theorem consentPhase_updated (phase : Phase) (update : UpdateDoc) :
    consentPhase userId (phase.updated update) = consentPhase userId phase ∨
      consentPhase userId (phase.updated update) = .idle := by
  cases phase with
  | moving id newEmail =>
    rw [Phase.updated]
    split
    · exact .inr rfl
    · exact .inl rfl
  | idle | mailing id currentEmail newEmail | redeemed mailbox id | decided id | closed => exact .inl rfl

theorem sound_saved {saved : Document} {answer : Except Failure Document}
    {hashPassword : String → String} (hsound : Sound env userId users stages events)
    (hallowed : SaveAllowed env (stages index) document) (hid : document.id.val = userId)
    (hundisturbed : proposedBy document ≠ none → ∀ other, ¬UnderWay userId (stages other).phase)
    (hlookup : after.lookup userId =
      (users.lookup userId).map (·.assign (document.assignments hashPassword nowMs)))
    (hsaved : ∀ row, after.lookup userId = some row → saved = Document.load allFields row)
    (hstage : stage.placeholder = (stages index).placeholder)
    (hphase : stage.phase = (stages index).phase.saved document answer) :
    Sound env userId after (Function.update stages index stage) (events ++ savedEvents document saved) := by
  refine hsound.change hlookup hstage ?_
  intro row hrow hlower hconsistent
  obtain rfl := hsaved _ (by rw [hlookup,hrow,map_some])
  rw [hphase]
  cases hallowed with
  | quiet hsaves =>
    have hchanged := changed_of_saves hsaves hashPassword nowMs row
    rw [savedEvents_of_saves hsaves]
    refine ⟨lowerCase_of_changed hchanged rfl hlower,?_⟩
    simp only [textIn,Change.columns,map_none,toList_none,append_nil]
    exact consistent_nothing hconsistent hchanged (consentPhase_saved _ _ _)
  | initiate newEmail drawn savedMs _ _ hnewEmail hsaves =>
    have hchanged := changed_of_saves hsaves hashPassword nowMs row
    have hproposed : proposedBy document = some newEmail := written_of_saves hsaves (by decide)
    have hphases : ∀ other, phasesOf userId stages other = .idle := by
      intro other
      exact not_not.mp (hundisturbed (by simp [hproposed]) other)
    rw [savedEvents_of_saves hsaves,consentPhase_saved_idle (hphases index)]
    exact ⟨.inr ⟨newEmail,hchanged .newEmailPending (by decide),hnewEmail⟩,
      consistent_initiated hchanged hphases⟩
  | reissue drawn savedMs hidle _ hsaves =>
    have hchanged := changed_of_saves hsaves hashPassword nowMs row
    have hcurrent : phasesOf userId stages index = .idle := by
      rw [phasesOf,hidle]
      rfl
    rw [savedEvents_of_saves hsaves,consentPhase_saved_idle hcurrent]
    exact ⟨lowerCase_of_changed hchanged rfl hlower,consistent_reissued hconsistent hchanged hcurrent⟩
  | verify mailbox hredeemed hsaves =>
    have hchanged := changed_of_saves hsaves hashPassword nowMs row
    have hmodified : document.modified mailbox.verified = true := by
      rw [modified_of_saves hsaves (by cases mailbox <;> decide)]
      simp [Change.columns]
    have hnext : (stages index).phase.saved document answer = .idle := by
      rw [hredeemed]
      simp [Phase.saved,hmodified]
    have hphases : phasesOf userId stages index = .redeemed mailbox := by
      simp [phasesOf,hredeemed,consentPhase,hid]
    have hevents : ∀ saved, savedEvents document saved = [] := by
      intro saved
      rw [savedEvents_of_saves hsaves]
      cases mailbox <;> rfl
    rw [hevents,hnext,append_nil]
    refine ⟨lowerCase_of_changed hchanged (by cases mailbox <;> rfl) hlower,?_⟩
    erw [ledgerOf_verify hchanged]
    exact Consent.consistent_grant hconsistent hphases
  | move newEmail hmoving hsaves =>
    have hchanged := changed_of_saves hsaves hashPassword nowMs row
    have hmodified : document.modified .email = true := modified_of_saves hsaves (by decide)
    have hnext : (stages index).phase.saved document answer = .closed := by
      rw [hmoving]
      simp [Phase.saved,hmodified]
    have hphases : phasesOf userId stages index = .moving (.text newEmail) := by
      simp [phasesOf,hmoving,consentPhase,hid]
    have hevents : ∀ saved, savedEvents document saved = [] := savedEvents_of_saves hsaves
    rw [hevents,hnext,append_nil]
    exact ⟨.inl (hchanged .newEmailPending (by decide)),consistent_moved hconsistent hchanged hphases⟩

theorem email_mem_changed (hsets : Sets update (.move newEmail))
    (row : Row) : Field.email ∈ update.changed := by
  have hassigned := hsets 0 row .email (by decide)
  by_contra hkept
  simp [UpdateDoc.assignments,hkept,Change.columns] at hassigned

theorem sound_updated (hsound : Sound env userId users stages events)
    (hallowed : UpdateAllowed (stages index).phase userId update)
    (hlookup : after.lookup userId = (users.lookup userId).map fun row => row.assign (update.assignments nowMs row))
    (hstage : stage.placeholder = (stages index).placeholder)
    (hphase : stage.phase = (stages index).phase.updated update) :
    Sound env userId after (Function.update stages index stage) events := by
  rw [← append_nil events]
  refine hsound.change hlookup hstage ?_
  intro row hrow hlower hconsistent
  rw [hphase,append_nil]
  cases hallowed with
  | quiet hsets =>
    have hchanged := changed_of_sets hsets nowMs row
    exact ⟨lowerCase_of_changed hchanged rfl hlower,
      consistent_nothing hconsistent hchanged (consentPhase_updated _ _)⟩
  | move newEmail hmoving hsets =>
    have hchanged := changed_of_sets hsets nowMs row
    have hnext : (stages index).phase.updated update = .closed := by
      rw [hmoving]
      simp [Phase.updated,email_mem_changed hsets row]
    have hphases : phasesOf userId stages index = .moving (.text newEmail) := by
      simp [phasesOf,hmoving,consentPhase]
    rw [hnext]
    exact ⟨.inl (hchanged .newEmailPending (by decide)),consistent_moved hconsistent hchanged hphases⟩

/-! ### Any command -/

/-- An initiation is stored only while no request on the account is under way. -/
def Undisturbed (userId : String) (stages : Index → Stage) (command : Command) : Prop :=
  ∀ document, command = .sql (.save document) → document.id.val = userId → proposedBy document ≠ none →
    ∀ other, ¬UnderWay userId (stages other).phase

theorem redeemedEvents_none (filter : RowFilter) : redeemedEvents userId filter none = [] := by
  simp [redeemedEvents]

abbrev SoundAfter (env : MigrationEnv) (userId : String) (hashPassword : String → String) (input : Input)
    (world : World) (stages : Index → Stage) (index : Index) (events : List MailEvent) (command : Command) : Prop :=
  Sound env userId (exec hashPassword input world command).2.users
    (Function.update stages index ((stages index).next env command (exec hashPassword input world command).1))
    (events ++ observed hashPassword userId input world command)

section Commands
variable {hashPassword : String → String} {input : Input} {world : World} {command : Command}
  {id : String}
  {selection : Option Selection} (hsound : Sound env userId world.users stages events)

theorem soundAfter_of_unseen (hunseen : observed hashPassword userId input world command = [])
    (hafter : Sound env userId (exec hashPassword input world command).2.users (Function.update stages index
      ((stages index).next env command (exec hashPassword input world command).1)) events) :
    SoundAfter env userId hashPassword input world stages index events command := by
  rw [SoundAfter,hunseen,append_nil]
  exact hafter

include hsound

theorem soundAfter_quiet (hunseen : observed hashPassword userId input world command = [])
    (hlookup : (exec hashPassword input world command).2.users.lookup userId = world.users.lookup userId)
    (hnext : (stages index).phase.next env command (exec hashPassword input world command).1 =
      (stages index).phase) : SoundAfter env userId hashPassword input world stages index events command :=
  soundAfter_of_unseen hunseen (hsound.leave hlookup rfl (.inl (congrArg (consentPhase userId) hnext)))

theorem sound_findById (hallowed : selection = currentSelection → (stages index).phase = .decided id) :
    SoundAfter env userId hashPassword input world stages index events (.sql (.findById id selection)) := by
  cases hfate : input.database with
  | failed applied =>
    have hexec : exec hashPassword input world (.sql (.findById id selection)) = (.error .rejected,world) := by
      cases applied <;> simp [exec,hfate,execStatement]
    exact soundAfter_quiet hsound rfl (by rw [hexec]) (by rw [hexec]; rfl)
  | answered =>
    refine soundAfter_of_unseen rfl ?_
    rw [exec_of_answered hfate]
    simp only [execStatement,findById]
    cases hrow : world.users.lookup id with
    | none => exact hsound.leave rfl rfl (.inl rfl)
    | some row => exact sound_found hsound hrow hallowed rfl rfl

theorem sound_findOne (hallowed : ∃ mailbox : Mailbox, filter.token = mailbox.token) :
    SoundAfter env userId hashPassword input world stages index events (.sql (.findOne filter selection)) := by
  have hobserved : ∀ answer : Except Failure (Option Document),
      (exec hashPassword input world (.sql (.findOne filter selection))).1 = answer →
      observed hashPassword userId input world (.sql (.findOne filter selection)) =
        foundEvents userId filter answer := by
    rintro answer rfl
    rfl
  cases hfate : input.database with
  | failed applied =>
    have hexec : exec hashPassword input world (.sql (.findOne filter selection)) = (.error .rejected,world) := by
      cases applied <;> simp [exec,hfate,execStatement]
    exact soundAfter_quiet hsound (hobserved (.error .rejected) (congrArg Prod.fst hexec)) (by rw [hexec])
      (by rw [hexec]; rfl)
  | answered =>
    cases hfind : world.users.rows.find? filter.accepts with
    | none =>
      have hexec : exec hashPassword input world (.sql (.findOne filter selection)) = (.ok none,world) := by
        rw [exec_of_answered hfate]
        simp only [execStatement,hfind,map_none]
        rfl
      have hunseen := hobserved (.ok none) (congrArg Prod.fst hexec)
      rw [foundEvents,redeemedEvents_none] at hunseen
      exact soundAfter_quiet hsound hunseen (by rw [hexec]) (by rw [hexec]; rfl)
    | some row =>
      have hexec : exec hashPassword input world (.sql (.findOne filter selection)) =
          (.ok (some (Document.load (resolveFields selection) row)),world) := by
        rw [exec_of_answered hfate]
        simp only [execStatement,hfind,map_some]
        rfl
      obtain ⟨mailbox,htoken⟩ := hallowed
      have hmailbox : mailboxOf filter.token = some mailbox := by
        rw [htoken]
        cases mailbox <;> rfl
      rw [SoundAfter,hobserved (.ok (some (Document.load (resolveFields selection) row)))
        (congrArg Prod.fst hexec),hexec,foundEvents]
      refine sound_redeemed hsound (mem_of_find?_eq_some hfind) (find?_some hfind) htoken ?_ ?_
      · rfl
      · simp [Stage.next,Phase.next,hmailbox,Document.load]

theorem sound_save (hallowed : SaveAllowed env (stages index) document)
    (hundisturbed : Undisturbed userId stages (.sql (.save document))) :
    SoundAfter env userId hashPassword input world stages index events (.sql (.save document)) := by
  rcases save_cases hashPassword userId input world document with
    ⟨hlookup,hobserved⟩ | ⟨hid,hlookup,saved,hobserved,hsaved⟩
  · exact soundAfter_of_unseen hobserved (hsound.leave hlookup rfl (consentPhase_saved _ _ _))
  · rw [SoundAfter,hobserved]
    exact sound_saved hsound hallowed hid (hundisturbed document rfl hid) hlookup hsaved rfl rfl

theorem sound_findOneAndUpdate {tokenVersion : Option Value}
    (hallowed : UpdateAllowed (stages index).phase id update) :
    SoundAfter env userId hashPassword input world stages index events
      (.sql (.findOneAndUpdate id tokenVersion update)) := by
  have heffect := rowEffect_exec hashPassword input world (.sql (.findOneAndUpdate id tokenVersion update)) userId
  generalize hafter : (exec hashPassword input world
    (.sql (.findOneAndUpdate id tokenVersion update))).2.users.lookup userId = after at heffect
  refine soundAfter_of_unseen rfl ?_
  cases heffect with
  | same => exact hsound.leave hafter rfl (consentPhase_updated _ _)
  | updated tokenVersion update => exact sound_updated hsound hallowed hafter rfl rfl

theorem sound_findByIdAndDelete :
    SoundAfter env userId hashPassword input world stages index events (.sql (.findByIdAndDelete id)) := by
  have heffect := rowEffect_exec hashPassword input world (.sql (.findByIdAndDelete id)) userId
  generalize hafter : (exec hashPassword input world
    (.sql (.findByIdAndDelete id))).2.users.lookup userId = after at heffect
  cases heffect with
  | same => exact soundAfter_quiet hsound rfl hafter rfl
  | deleted =>
    refine soundAfter_of_unseen rfl ⟨?_,?_,placeholder_update hsound.placeholder rfl⟩
    · intro row hrow
      rw [hafter] at hrow
      contradiction
    · intro row hrow
      rw [hafter] at hrow
      contradiction

theorem sound_insert {uuid : UserId} {data : Assignments} (hallowed : (stages index).placeholder = some uuid) :
    SoundAfter env userId hashPassword input world stages index events (.sql (.insert uuid data)) := by
  have heffect := rowEffect_exec hashPassword input world (.sql (.insert uuid data)) userId
  generalize hafter : (exec hashPassword input world (.sql (.insert uuid data))).2.users.lookup userId = after
    at heffect
  cases heffect with
  | same => exact soundAfter_quiet hsound rfl hafter rfl
  | inserted uuid data hid habsent created => exact absurd hid (hsound.placeholder index uuid hallowed)

theorem sound_exec (hallowed : (stages index).Allowed env command)
    (hundisturbed : Undisturbed userId stages command) :
    SoundAfter env userId hashPassword input world stages index events command := by
  cases command with
  | sql statement =>
    cases statement with
    | findById id selection => exact sound_findById hsound hallowed
    | findOne filter selection => exact sound_findOne hsound hallowed.2.2
    | save document => exact sound_save hsound hallowed hundisturbed
    | insert uuid data => exact sound_insert hsound hallowed
    | findOneAndUpdate id tokenVersion update => exact sound_findOneAndUpdate hsound hallowed
    | findByIdAndDelete id => exact sound_findByIdAndDelete hsound
    | findIndex _ | updateIndex _ _ | insertIndex _ _ | deleteIndex _ _ =>
      exact soundAfter_quiet hsound rfl (lookup_exec_of_not_writes rfl hashPassword input world userId) rfl
  | cacheGet _ | cacheSet _ _ _ | cacheDel _ | memoryTake _ | memoryPut _ _ _ | revoke _ | sendEmail _ =>
    exact soundAfter_quiet hsound rfl (lookup_exec_of_not_writes rfl hashPassword input world userId) rfl

end Commands

end Steps

end Routiq.Uam.MigrationConsent
