import Mathlib
import Routiq.Uam.VersionFloor

/-! What a password reset that fails half way leaves behind. The form token is
consumed first, the raised version is published next and the account is saved
last; nothing is undone when a later step fails. -/
namespace Routiq.Uam.ResetFailure
open Routiq.Core Function KeyedTable Redis Actions Users IdentityIndex Commands List OneTimeCodes
  AccountRequests VersionFloor
open Edge.Revocation (tvKeyPrefix)
open Session (withSessions sampleSessionEnv accountRow)

/-! ## Attempts -/

section
variable (env : AccountEnv)

def resetOutcome (request : ResetRequest) (nowMs : Nat) (inputs : Nat → Input) (world : World) :
    Except Failure Response × World :=
  outcome (machine env.session.hashPassword) (resetPassword env request) nowMs inputs world

def succeeded (result : Except Failure Response) : Bool := result.toOption.map Response.status = some 200

/-- The reset from the emailed link on: the code is redeemed for a form token,
and the form is sent. -/
def resetByLink (code formToken password : String) : UamAction Response := do
  match ← redeemEmailLinkCode env.codes code formToken with
  | none => pure ⟨400,"Invalid or expired link",none,none,none⟩
  | some redeemed => resetPassword env ⟨redeemed.formToken,password⟩

variable (code : String) (request : ResetRequest)

/-- With nothing failing any more, the user gets through by sending the form
again or by following the link again. -/
def CanComplete (nowMs : Nat) (world : World) : Prop :=
  succeeded (resetOutcome env request nowMs (fun _ => .healthy nowMs) world).1 = true ∨
    ∃ formToken, succeeded (outcome (machine env.session.hashPassword)
      (resetByLink env code formToken request.password) nowMs (fun _ => .healthy nowMs) world).1 = true

def credentialsOf (users : UserTable) (userId : String) : Option (Value × Value × Value) :=
  (users.lookup userId).map fun row =>
    (row.columns .password,row.columns .tokenVersion,row.columns .refreshTokens)

/-- The attempt might as well not have been made: the account is as it was, the
floor agrees with it, and the reset can still be completed. -/
structure Intact (userId : String) (retryMs : Nat)
    (before after : World) : Prop where
  account : credentialsOf after.users userId = credentialsOf before.users userId
  floor : after.redis.strings (floorKey userId) = some (floorEntry (columnOf after.users userId))
  completable : CanComplete env code request retryMs after

/-- A reset that is under way: the link was exchanged for the form token, which
is good until `retryMs` at least, as is the token of the account, and the floor
agrees with the account. -/
structure LiveReset (retryMs : Nat) (world : World)
    (secret : String) (row : Row) : Prop where
  long : tooShort request.formToken = false
  session : ∃ entry metadata, world.redis.strings (formKey request.formToken) = some entry ∧
    entry.live retryMs = true ∧ entry.value.isEmpty = false ∧
    env.codes.parseLink entry.value = some ⟨.resetPassword,secret,metadata⟩
  memory : world.memory (formKey request.formToken) = none
  spent : world.redis.strings (linkKey code) = none
  stored : row ∈ world.users.rows
  token : row.columns .passwordResetToken = .text (env.session.sha256Hex secret)
  unexpired : isFuture retryMs (some (row.columns .passwordResetExpires)) = true
  own : ∀ other ∈ world.users.rows,
    other.columns .passwordResetToken = .text (env.session.sha256Hex secret) → other = row
  floor : world.redis.strings (floorKey row.id.val) = some (floorEntry (columnOf world.users row.id.val))

end

/-! ## The commands of an attempt -/

section
variable {env : AccountEnv} {code : String} {request : ResetRequest} {retryMs nowMs : Nat}
  {inputs : Nat → Input} {world : World} {secret : String} {row : Row}

def Answers (input : Input) : Prop := input.redisAvailable = true ∧ input.redis = .replied

instance (input : Input) : Decidable (Answers input) := inferInstanceAs (Decidable (_ ∧ _))

theorem resetOutcome_eq : resetOutcome env request nowMs inputs world =
    recovered (fun _ => resetFailed) (outcome (machine env.session.hashPassword) (do
      match ← consumeFormToken env.codes request.formToken .resetPassword with
      | none => pure invalidSession
      | some redeemed => resetAccount env request redeemed.secret) nowMs inputs world) := by
  exact outcome_tryCatch_pure

variable {input : Input} {key : String} {store : Store} {entry : StringEntry}

theorem readCache_of_absent (havailable : input.redisAvailable = true)
    (habsent : store.strings key = none) : readCache input store key = some none := by
  unfold readCache
  cases input.redis <;> simp [havailable,Store.get,habsent]

theorem resetOutcome_missed
    (hmissed : readCache (inputs 0) world.redis (formKey request.formToken) = some none) :
    resetOutcome env request nowMs inputs world = (.ok invalidSession,world) := by
  rw [resetOutcome_eq]
  cases hshort : tooShort request.formToken with
  | true =>
    simp only [consumeFormToken,hshort,if_true,pure_bind,outcome_pure]
    rfl
  | false =>
    simp only [consumeFormToken,hshort,takeCode,bind_assoc,outcome_cacheGet_bind,hmissed,
      Bool.false_eq_true,if_false,Option.filter_none,pure_bind,outcome_pure]
    rfl

section
variable (hlive : LiveReset env code request retryMs world secret row)
include hlive

theorem resetOutcome_unavailable (hunavailable : (inputs 0).redisAvailable = false) :
    resetOutcome env request nowMs inputs world = (.ok invalidSession,world) := by
  have hread : readCache (inputs 0) world.redis (formKey request.formToken) = none := by
    simp [readCache,hunavailable]
  have hmemory : Function.update world.memory (formKey request.formToken) none = world.memory :=
    Function.update_eq_self_iff.mpr hlive.memory.symm
  rw [resetOutcome_eq]
  simp only [consumeFormToken,hlive.long,takeCode,bind_assoc,outcome_cacheGet_bind,hread,
    Bool.false_eq_true,if_false,outcome_memoryTake_bind,hlive.memory,hmemory,Option.filter_none,
    Option.map_none,Option.bind_none,pure_bind,outcome_pure]
  rfl

theorem resetOutcome_unread (hunread : ¬Answers (inputs 0)) :
    resetOutcome env request nowMs inputs world = (.ok invalidSession,world) := by
  cases havailable : (inputs 0).redisAvailable with
  | false => exact resetOutcome_unavailable hlive havailable
  | true =>
    apply resetOutcome_missed
    cases hfate : (inputs 0).redis with
    | replied => exact absurd ⟨havailable,hfate⟩ hunread
    | failed applied message => simp [readCache,havailable,hfate]

end

variable {earlierMs laterMs : Nat}

theorem live_of_le (hle : earlierMs ≤ laterMs)
    (hlive : entry.live laterMs = true) : entry.live earlierMs = true := by
  unfold StringEntry.live at hlive ⊢
  cases hexpiry : entry.expiresAtMs with
  | none => rfl
  | some expiry =>
    simp only [hexpiry,decide_eq_true_eq] at hlive ⊢
    omega

theorem resetOutcome_read (nowMs : Nat) (hlive : LiveReset env code request retryMs world secret row)
    (hread : Answers (inputs 0))
    (htime : (inputs 0).nowMs ≤ retryMs) : resetOutcome env request nowMs inputs world =
      recovered (fun _ => resetFailed) (outcome (machine env.session.hashPassword) (resetAccount env request secret) (inputs 1).nowMs
        (later (later inputs))
        (exec env.session.hashPassword (inputs 1) world (.cacheDel (formKey request.formToken))).2) := by
  obtain ⟨entry,metadata,hentry,hexpiry,htext,hparse⟩ := hlive.session
  have hget : readCache (inputs 0) world.redis (formKey request.formToken) = some (some entry.value) := by
    simp [readCache,hread.1,hread.2,Store.get,hentry,Option.filter,live_of_le htime hexpiry]
  rw [resetOutcome_eq]
  simp only [consumeFormToken,hlive.long,takeCode,bind_assoc,outcome_cacheGet_bind,hget,
    Bool.false_eq_true,if_false,Option.filter_some,htext,Bool.not_false,if_true,
    outcome_cacheDel_bind,pure_bind,hparse,ne_eq,not_true]
  rfl

/-! ## After the form token -/

def resetUser (row : Row) : Document := .load (resolveFields withSessions) row
def raisedVersion (row : Row) : Int := versionOf (some (row.columns .tokenVersion)) + 1

theorem isFuture_of_le {value : Option Value} (hle : earlierMs ≤ laterMs)
    (hfuture : isFuture laterMs value = true) : isFuture earlierMs value = true := by
  unfold isFuture at hfuture ⊢
  cases hdate : dateOf value with
  | none =>
    rw [hdate] at hfuture
    contradiction
  | some date =>
    simp only [hdate,Option.any_some,decide_eq_true_eq] at hfuture ⊢
    omega

theorem find_of_live (hlive : LiveReset env code request retryMs world secret row) (htime : nowMs ≤ retryMs) :
    world.users.rows.find? (resetFilter env nowMs secret).accepts = some row := by
  have haccepts : (resetFilter env nowMs secret).accepts row = true := by
    have hfuture : isFuture nowMs (some (row.columns .passwordResetExpires)) = true :=
      isFuture_of_le htime hlive.unexpired
    simp [RowFilter.accepts,resetFilter,hlive.token,hfuture]
  cases hfind : world.users.rows.find? (resetFilter env nowMs secret).accepts with
  | none => exact absurd haccepts (find?_eq_none.mp hfind row hlive.stored)
  | some found =>
    have hfound := find?_some hfind
    simp only [RowFilter.accepts,resetFilter,Bool.and_eq_true] at hfound
    rw [hlive.own found (mem_of_find?_eq_some hfind) (of_decide_eq_true hfound.1.1)]

def published (world : World) (userId : String) (version : Int) : World :=
  { world with redis := world.redis.set (floorKey userId) (toString version) }

variable {input : Input}

section Publication
variable {Value : Type} {hashPassword : String → String} {userId : String} {version stored : Int}
  {rest : Bool → UamAction Value}

theorem exec_publish (hashPassword : String → String) (input : Input) (world : World) (userId : String)
    (version : Int) :
    (exec hashPassword input world (.cacheSet (tvKeyPrefix ++ userId) (toString version) none)).2 =
      if input.applies then published world userId version else world := rfl

theorem outcome_publish_confirmed (happlies : (inputs 0).applies = true) (hanswers : Answers (inputs 1)) :
    outcome (machine hashPassword) (publishTokenVersion userId version >>= rest) nowMs inputs world =
      outcome (machine hashPassword) (rest true) (inputs 1).nowMs (later (later inputs))
        (published world userId version) := by
  have hset := exec_publish hashPassword (inputs 0) world userId version
  rw [if_pos happlies] at hset
  have hread : readCache (later inputs 0) (published world userId version).redis (tvKeyPrefix ++ userId) =
      some (some (toString version)) :=
    readCache_of_strings hanswers.1 hanswers.2 (by simp [published,floorKey,Store.set,Store.put])
  simp only [publishTokenVersion,bind_assoc,outcome_cacheSet_bind,(Bool.and_eq_true_iff.mp happlies).1,
    if_true,hset,outcome_cacheGet_bind,hread,pure_bind,decide_true]
  rfl

theorem readCache_unconfirmed (hashPassword : String → String) {input' : Input}
    (hstored : world.redis.strings (floorKey userId) = some (floorEntry stored)) (hne : stored ≠ version)
    (hunconfirmed : ¬(input.applies = true ∧ Answers input')) :
    readCache input' (exec hashPassword input world
      (.cacheSet (tvKeyPrefix ++ userId) (toString version) none)).2.redis (tvKeyPrefix ++ userId) ≠
      some (some (toString version)) := by
  intro hread
  have hanswers : Answers input' := by
    unfold readCache at hread
    cases havailable : input'.redisAvailable with
    | false => simp [havailable] at hread
    | true =>
      cases hfate : input'.redis with
      | replied => exact ⟨havailable,hfate⟩
      | failed applied message => simp [havailable,hfate] at hread
  rw [exec_publish,if_neg fun happlies => hunconfirmed ⟨happlies,hanswers⟩] at hread
  have hold := readCache_of_strings hanswers.1 hanswers.2 hstored
  have heq := Option.some.inj (Option.some.inj (hold.symm.trans hread))
  exact hne (Int.repr_injective heq)

theorem outcome_publish_unconfirmed {response : Value}
    (hstored : world.redis.strings (floorKey userId) = some (floorEntry stored)) (hne : stored ≠ version)
    (hunconfirmed : ¬((inputs 0).applies = true ∧ Answers (inputs 1))) (hrest : rest false = pure response) :
    outcome (machine hashPassword) (publishTokenVersion userId version >>= rest) nowMs inputs world =
      (.ok response,if (inputs 0).applies then published world userId version else world) := by
  have hread : readCache (later inputs 0) (exec hashPassword (inputs 0) world
      (.cacheSet (tvKeyPrefix ++ userId) (toString version) none)).2.redis (tvKeyPrefix ++ userId) ≠
      some (some (toString version)) := readCache_unconfirmed hashPassword hstored hne hunconfirmed
  rw [← exec_publish hashPassword (inputs 0) world userId version]
  cases havailable : (inputs 0).redisAvailable with
  | false =>
    simp only [publishTokenVersion,bind_assoc,outcome_cacheSet_bind,havailable,Bool.false_eq_true,
      if_false,pure_bind,hrest,outcome_pure]
  | true =>
    simp only [publishTokenVersion,bind_assoc,outcome_cacheSet_bind,havailable,if_true,
      outcome_cacheGet_bind,pure_bind,decide_eq_false hread,hrest,outcome_pure]

end Publication

/-! ## How an attempt ends -/

def unconfirmed : Response :=
  ⟨503,"Password reset could not invalidate active sessions. Please try again.",none,none,none⟩

def resetDone : Response := ⟨200,"Password reset successfully",none,none,none⟩
def revocations (row : Row) : Nat := if (itemsOf (some (row.columns .activeAccessJtis))).isEmpty then 0 else 1

theorem outcome_revokeAll {Value : Type} {hashPassword : String → String} {jtis : List String}
    {action : UamAction Value} :
    ∃ laterMs, outcome (machine hashPassword) (revokeAllTrackedAccessJtis jtis >>= fun _ => action) nowMs
        inputs world =
      outcome (machine hashPassword) action laterMs
        (fun position => inputs (position + if jtis.isEmpty then 0 else 1)) world := by
  unfold revokeAllTrackedAccessJtis
  cases jtis.isEmpty with
  | true => exact ⟨nowMs,rfl⟩
  | false => exact ⟨(inputs 0).nowMs,rfl⟩

theorem save_resetDocument (hashPassword : String → String) (nowMs : Nat) (users : UserTable) (row : Row)
    (password : String) :
    ∃ next saved, (resetDocument (resetUser row) password).save hashPassword nowMs users =
      .ok (next,saved) := by
  have hemail : (resetDocument (resetUser row) password).modified .email = false := rfl
  obtain ⟨next,saved,hsave,_⟩ := save_of_identityUnmodified hashPassword nowMs users hemail rfl rfl
  exact ⟨next,saved,hsave⟩

section Account
variable (hfind : world.users.rows.find? (resetFilter env nowMs secret).accepts = some row)
include hfind

theorem exec_find (hanswered : input.database = .answered) :
    exec env.session.hashPassword input world
      (.sql (.findOne (resetFilter env nowMs secret) withSessions)) = (.ok (some (resetUser row)),world) := by
  rw [exec_of_answered hanswered]
  simp only [execStatement,hfind]
  rfl

omit hfind in
theorem exec_find_failed (hfailed : input.database ≠ .answered) :
    exec env.session.hashPassword input world
      (.sql (.findOne (resetFilter env nowMs secret) withSessions)) = (.error .rejected,world) := by
  cases hfate : input.database with
  | answered => exact absurd hfate hfailed
  | failed applied => cases applied <;> simp [exec,hfate,execStatement]

variable (request : ResetRequest)

theorem resetAccount_unconfirmed (inputs : Nat → Input) (hanswered : (inputs 0).database = .answered) {stored : Int}
    (hstored : world.redis.strings (floorKey row.id.val) = some (floorEntry stored))
    (hne : stored ≠ raisedVersion row) (hunconfirmed : ¬((inputs 1).applies = true ∧ Answers (inputs 2))) :
    outcome (machine env.session.hashPassword) (resetAccount env request secret) nowMs inputs world =
      (.ok unconfirmed,if (inputs 1).applies then published world row.id.val (raisedVersion row) else world) := by
  rw [resetAccount,outcome_now_bind,outcome_query_ok (exec_find hfind hanswered)]
  exact outcome_publish_unconfirmed hstored hne hunconfirmed rfl

theorem resetAccount_confirmed (hanswered : (inputs 0).database = .answered)
    (happlies : (inputs 1).applies = true) (hanswers : Answers (inputs 2)) :
    ∃ laterMs, outcome (machine env.session.hashPassword) (resetAccount env request secret) nowMs inputs world =
      outcome (machine env.session.hashPassword)
        (query (.save (resetDocument (resetUser row) request.password)) >>= fun _ => pure resetDone) laterMs
        (fun position => inputs (position + revocations row + 3))
        (published world row.id.val (raisedVersion row)) := by
  have hraised : versionOf ((resetUser row).values .tokenVersion) + 1 = raisedVersion row := rfl
  rw [resetAccount,outcome_now_bind,outcome_query_ok (exec_find hfind hanswered)]
  dsimp only
  rw [hraised,outcome_publish_confirmed happlies hanswers,if_pos rfl]
  exact outcome_revokeAll

theorem resetAccount_saved (inputs : Nat → Input) (hanswered : (inputs 0).database = .answered)
    (happlies : (inputs 1).applies = true) (hanswers : Answers (inputs 2))
    (hsaved : (inputs (revocations row + 3)).database = .answered) :
    ∃ after, outcome (machine env.session.hashPassword) (resetAccount env request secret) nowMs inputs world =
      (.ok resetDone,after) := by
  obtain ⟨laterMs,hconfirmed⟩ := resetAccount_confirmed hfind request hanswered happlies hanswers
  obtain ⟨next,saved,hsave⟩ := save_resetDocument env.session.hashPassword
    (inputs (0 + revocations row + 3)).nowMs (published world row.id.val (raisedVersion row)).users row
    request.password
  rw [← Nat.zero_add (revocations row)] at hsaved
  rw [hconfirmed,outcome_query_ok (exec_save_ok hsaved hsave),outcome_pure]
  exact ⟨_,rfl⟩

theorem resetAccount_unsaved (inputs : Nat → Input) (hrow : world.users.lookup row.id.val = some row)
    (hanswered : (inputs 0).database = .answered) (happlies : (inputs 1).applies = true)
    (hanswers : Answers (inputs 2)) (hunsaved : (inputs (revocations row + 3)).database ≠ .answered) :
    ∃ after, outcome (machine env.session.hashPassword) (resetAccount env request secret) nowMs inputs world =
        (.error .rejected,after) ∧
      after.redis = (published world row.id.val (raisedVersion row)).redis ∧
      (after.users = world.users ∨ columnOf after.users row.id.val = raisedVersion row) := by
  obtain ⟨laterMs,hconfirmed⟩ := resetAccount_confirmed hfind request hanswered happlies hanswers
  obtain ⟨next,saved,hsave⟩ := save_resetDocument env.session.hashPassword
    (inputs (0 + revocations row + 3)).nowMs world.users row request.password
  rw [← Nat.zero_add (revocations row)] at hunsaved
  rw [hconfirmed]
  cases hfate : (inputs (0 + revocations row + 3)).database with
  | answered => exact absurd hfate hunsaved
  | failed applied =>
    have hexec : exec env.session.hashPassword (inputs (0 + revocations row + 3))
        (published world row.id.val (raisedVersion row))
        (.sql (.save (resetDocument (resetUser row) request.password))) =
        (.error .rejected,if applied then
          { published world row.id.val (raisedVersion row) with users := next }
          else published world row.id.val (raisedVersion row)) := by
      simp only [exec,hfate,execStatement,published,hsave]
    rw [outcome_query_error hexec]
    refine ⟨_,rfl,?_,?_⟩
    · cases applied <;> rfl
    · cases applied with
      | false => exact .inl rfl
      | true =>
        right
        have hpresent : (world.users.lookup (resetDocument (resetUser row) request.password).id.val).isSome =
            true := Option.isSome_of_eq_some hrow
        exact columnOf_save hsave rfl rfl hpresent

end Account

/-! ## Failed attempts -/

def deleted (world : World) (formToken : String) : World :=
  { world with redis := world.redis.del (formKey formToken) }

section
variable (input : Input) (world : World)

def afterDel (formToken : String) : World :=
  if input.applies then deleted world formToken else world

theorem users_afterDel (formToken : String) : (afterDel input world formToken).users = world.users := by
  unfold afterDel
  split <;> rfl

theorem floor_afterDel (formToken userId : String) :
    (afterDel input world formToken).redis.strings (floorKey userId) =
      world.redis.strings (floorKey userId) := by
  unfold afterDel
  split
  · exact update_of_ne (formKey_ne_floorKey formToken userId).symm none world.redis.strings
  · rfl

end

/-- How an attempt ends whose form token is found: it fails before the raised
version is written, after that, or not at all. -/
inductive Ends (env : AccountEnv) (request : ResetRequest) (inputs : Nat → Input) (world : World) (row : Row)
    (result : Except Failure Response × World) : Prop
  | unpublished (response : Response) (hstatus : response.status ≠ 200)
    (hresult : result = (.ok response,afterDel (inputs 1) world request.formToken))
    (hinputs : (inputs 2).database ≠ .answered ∨ (inputs 3).applies = false)
  | unsaved (response : Response) (after : World) (hstatus : response.status ≠ 200)
    (hresult : result = (.ok response,after))
    (hredis : after.redis = (published (afterDel (inputs 1) world request.formToken) row.id.val
      (raisedVersion row)).redis)
    (husers : after.users = world.users ∨ columnOf after.users row.id.val = raisedVersion row)
    (hpublished : (inputs 2).database = .answered ∧ (inputs 3).applies = true)
    (hinputs : ¬(Answers (inputs 4) ∧ (inputs (revocations row + 5)).database = .answered))
  | saved (after : World) (hresult : result = (.ok resetDone,after))
    (hinputs : (inputs 2).database = .answered ∧ (inputs 3).applies = true ∧ Answers (inputs 4) ∧
      (inputs (revocations row + 5)).database = .answered)

section
variable (hlive : LiveReset env code request retryMs world secret row)
include hlive

theorem lookup_of_live :
    world.users.lookup row.id.val = some row := Table.lookup_of_mem hlive.stored

theorem raisedVersion_eq : raisedVersion row = columnOf world.users row.id.val + 1 := by
  rw [columnOf_of_lookup (lookup_of_live hlive)]
  rfl

end

theorem resetOutcome_ends (nowMs : Nat) (hlive : LiveReset env code request retryMs world secret row)
    (htimes : ∀ position, (inputs position).nowMs ≤ retryMs) (hread : Answers (inputs 0)) :
    Ends env request inputs world row (resetOutcome env request nowMs inputs world) := by
  have hresult := resetOutcome_read nowMs hlive hread (htimes 0)
  have hfind := find_of_live hlive (htimes 1)
  rw [← users_afterDel (inputs 1) world request.formToken] at hfind
  have hfloor := (floor_afterDel (inputs 1) world request.formToken row.id.val).trans hlive.floor
  have hne : columnOf world.users row.id.val ≠ raisedVersion row := by
    rw [raisedVersion_eq hlive]
    omega
  have hrow := lookup_of_live hlive
  rw [← users_afterDel (inputs 1) world request.formToken] at hrow
  have hdel : (exec env.session.hashPassword (inputs 1) world (.cacheDel (formKey request.formToken))).2 =
      afterDel (inputs 1) world request.formToken := rfl
  rw [hdel] at hresult
  by_cases hanswered : (inputs 2).database = .answered
  · by_cases hconfirmed : (inputs 3).applies = true ∧ Answers (inputs 4)
    · by_cases hsaved : (inputs (revocations row + 5)).database = .answered
      · obtain ⟨after,hafter⟩ := resetAccount_saved hfind request (later (later inputs)) hanswered hconfirmed.1
          hconfirmed.2 hsaved
        rw [hafter] at hresult
        exact .saved after hresult ⟨hanswered,hconfirmed.1,hconfirmed.2,hsaved⟩
      · obtain ⟨after,hafter,hredis,husers⟩ := resetAccount_unsaved hfind request (later (later inputs)) hrow hanswered
          hconfirmed.1 hconfirmed.2 hsaved
        rw [hafter] at hresult
        rw [users_afterDel] at husers
        exact .unsaved resetFailed after (by decide) hresult hredis husers ⟨hanswered,hconfirmed.1⟩
          fun hboth => hsaved hboth.2
    · have hafter := resetAccount_unconfirmed hfind request (later (later inputs)) hanswered hfloor hne hconfirmed
      rw [hafter] at hresult
      cases happlies : (inputs 3).applies with
      | true =>
        have happlies' : (later (later inputs) 1).applies = true := happlies
        rw [if_pos happlies'] at hresult
        exact .unsaved unconfirmed _ (by decide) hresult rfl (.inl (users_afterDel _ _ _))
          ⟨hanswered,happlies⟩ fun hboth => hconfirmed ⟨happlies,hboth.1⟩
      | false =>
        have happlies' : ¬(later (later inputs) 1).applies = true := by
          rw [Bool.not_eq_true]
          exact happlies
        rw [if_neg happlies'] at hresult
        exact .unpublished unconfirmed (by decide) hresult (.inr happlies)
  · have hfailed : exec env.session.hashPassword (later (later inputs) 0)
        (afterDel (inputs 1) world request.formToken)
        (.sql (.findOne (resetFilter env (inputs 1).nowMs secret) withSessions)) = (.error .rejected,_) :=
      exec_find_failed hanswered
    rw [resetAccount,outcome_now_bind,outcome_query_error hfailed] at hresult
    exact .unpublished resetFailed (by decide) hresult (.inl hanswered)

/-! ## What is left behind -/

theorem not_canComplete (hform : world.redis.strings (formKey request.formToken) = none)
    (hlink : world.redis.strings (linkKey code) = none) : ¬CanComplete env code request nowMs world := by
  rintro (hsend | ⟨formToken,hfollow⟩)
  · rw [resetOutcome_missed (readCache_of_absent rfl hform)] at hsend
    contradiction
  · have hmissed : readCache (Input.healthy nowMs) world.redis (linkKey code) = some none :=
      readCache_of_absent rfl hlink
    cases hshort : tooShort code with
    | true =>
      simp only [resetByLink,redeemEmailLinkCode,hshort,if_true,pure_bind,outcome_pure] at hfollow
      contradiction
    | false =>
      simp only [resetByLink,redeemEmailLinkCode,hshort,takeCode,bind_assoc,outcome_cacheGet_bind,
        hmissed,Bool.false_eq_true,if_false,Option.filter_none,pure_bind,outcome_pure] at hfollow
      contradiction

section
variable (hlive : LiveReset env code request retryMs world secret row)
include hlive

theorem canComplete_of_live : CanComplete env code request retryMs world := by
  left
  have htimes : ∀ position : Nat, ((fun _ => Input.healthy retryMs : Nat → Input) position).nowMs ≤ retryMs :=
    fun _ => Nat.le_refl retryMs
  have hends := resetOutcome_ends retryMs hlive htimes ⟨rfl,rfl⟩
  cases hends with
  | unpublished response _ _ hinputs =>
    rcases hinputs with hfailed | hfailed
    · exact absurd rfl hfailed
    · contradiction
  | unsaved response after _ _ _ _ _ hinputs => exact absurd ⟨⟨rfl,rfl⟩,rfl⟩ hinputs
  | saved after hresult _ =>
    rw [hresult]
    rfl

theorem intact_of_live : Intact env code request row.id.val retryMs world world :=
  ⟨rfl,hlive.floor,canComplete_of_live hlive⟩

end

theorem linkKey_ne_floorKey (code userId : String) : linkKey code ≠ floorKey userId :=
  append_ne_append 'u' (by decide +kernel) head_tvKeyPrefix (by decide) code userId

variable {userId : String}

theorem strings_published_of_ne {version : Int} (hne : key ≠ floorKey userId) :
    (published world userId version).redis.strings key = world.redis.strings key :=
  update_of_ne hne _ world.redis.strings

variable {after : World}

theorem not_canComplete_of_deleted (hlive : LiveReset env code request retryMs world secret row) (hredis : after.redis = (deleted world request.formToken).redis ∨
      after.redis = (published (deleted world request.formToken) row.id.val (raisedVersion row)).redis) :
    ¬CanComplete env code request retryMs after := by
  have hform : (deleted world request.formToken).redis.strings (formKey request.formToken) = none := by
    simp [deleted,Store.del]
  have hlink : (deleted world request.formToken).redis.strings (linkKey code) = none := by
    simp [deleted,Store.del,update_apply,hlive.spent]
  rcases hredis with hredis | hredis
  · exact not_canComplete (by rw [hredis,hform]) (by rw [hredis,hlink])
  · apply not_canComplete
    · rw [hredis,strings_published_of_ne (formKey_ne_floorKey _ _),hform]
    · rw [hredis,strings_published_of_ne (linkKey_ne_floorKey _ _),hlink]

theorem columnOf_of_credentials {before after : UserTable}
    (hcredentials : credentialsOf after userId = credentialsOf before userId) :
    columnOf after userId = columnOf before userId := by
  have hversion := congrArg (Option.map fun credentials => credentials.2.1) hcredentials
  simp only [credentialsOf,Option.map_map] at hversion
  exact congrArg versionOf hversion

/-- Once the raised version is published, an attempt that fails leaves the floor
ahead of the account, or the account changed. -/
theorem not_intact_of_published (hlive : LiveReset env code request retryMs world secret row) {before : World}
    (hredis : after.redis = (published before row.id.val (raisedVersion row)).redis)
    (husers : after.users = world.users ∨ columnOf after.users row.id.val = raisedVersion row) :
    ¬Intact env code request row.id.val retryMs world after := by
  intro hintact
  have hraised := raisedVersion_eq hlive
  have hcolumn := columnOf_of_credentials hintact.account
  rcases husers with husers | husers
  · have hfloor := hintact.floor
    rw [hredis,husers] at hfloor
    simp only [published,Store.set,Store.put,update_self,Option.some.injEq,floorEntry,
      StringEntry.mk.injEq,and_true] at hfloor
    have heq : raisedVersion row = columnOf world.users row.id.val := Int.repr_injective hfloor
    omega
  · omega

theorem not_succeeded {response : Response} (hstatus : response.status ≠ 200) :
    succeeded (.ok response) = false := by
  simp [succeeded,Except.toOption,hstatus]

/-- What must happen to the commands of an attempt: the form token is not read;
or it is not deleted and the attempt fails before it writes the raised version;
or nothing fails from the lookup of the account on. -/
def Harmless (row : Row) (inputs : Nat → Input) : Prop := ¬Answers (inputs 0) ∨
    (inputs 1).applies = false ∧ ((inputs 2).database ≠ .answered ∨ (inputs 3).applies = false) ∨
    (inputs 2).database = .answered ∧ (inputs 3).applies = true ∧ Answers (inputs 4) ∧
      (inputs (revocations row + 5)).database = .answered

/-- A reset is all or nothing exactly when its commands fail in one of these
ways. -/
theorem reset_allOrNothing_iff_harmless (nowMs : Nat)
    (hlive : LiveReset env code request retryMs world secret row)
    (htimes : ∀ position, (inputs position).nowMs ≤ retryMs) :
    (succeeded (resetOutcome env request nowMs inputs world).1 = false →
        Intact env code request row.id.val retryMs world
          (resetOutcome env request nowMs inputs world).2) ↔ Harmless row inputs := by
  by_cases hread : Answers (inputs 0)
  · cases resetOutcome_ends nowMs hlive htimes hread with
    | unpublished response hstatus hresult hinputs =>
      rw [hresult]
      constructor
      · intro hall
        have hintact := hall (not_succeeded hstatus)
        cases hdel : (inputs 1).applies with
        | true =>
          rw [afterDel,if_pos hdel] at hintact
          exact absurd hintact.completable (not_canComplete_of_deleted hlive (.inl rfl))
        | false => exact .inr (.inl ⟨hdel,hinputs⟩)
      · rintro (hunread | ⟨hkept,_⟩ | ⟨hanswered,happlies,_⟩) _
        · exact absurd hread hunread
        · rw [afterDel,hkept]
          exact intact_of_live hlive
        · rcases hinputs with hfailed | hunwritten
          · exact absurd hanswered hfailed
          · rw [happlies] at hunwritten
            contradiction
    | unsaved response after hstatus hresult hredis husers hpublished hinputs =>
      rw [hresult]
      constructor
      · intro hall
        exact absurd (hall (not_succeeded hstatus)) (not_intact_of_published hlive hredis husers)
      · rintro (hunread | ⟨_,hfailed | hunwritten⟩ | ⟨_,_,hconfirmed⟩) _
        · exact absurd hread hunread
        · exact absurd hpublished.1 hfailed
        · rw [hpublished.2] at hunwritten
          contradiction
        · exact absurd hconfirmed hinputs
    | saved after hresult hinputs =>
      rw [hresult]
      exact ⟨fun _ => .inr (.inr hinputs),fun _ hfailed => by contradiction⟩
  · rw [resetOutcome_unread hlive hread]
    exact ⟨fun _ => .inl hread,fun _ _ => intact_of_live hlive⟩

end

/-! ## A sample reset -/

def sampleFormToken : String := "c41d7be90a5f63821e4d9c07b8f2a65310d9e7c48b6a2f15e03c9d7481b5f6a2"
def sampleLinkCode : String := "0a7be3c19f52d8461b0e94c7d5a3f2681c7e90b4d36f58a2e19c04b7f8d2a653"
def sampleSecret : String := "9d1f4c7ab2e85306f7c1d94be8203a5c6e7f1b08d3a92c45f06b7e18c9d2a354"
def sampleSecretDigest : String := "df6b42b68b0aa02701abe3128fbd54bb7633db7c4f7bffa379b37d51479dc663"

def sampleFormText : String :=
  "\x7b\"kind\":\"reset-password\",\"secret\":\"9d1f4c7ab2e85306f7c1d94be8203a5c6e7f1b08d3a92c45f06b7e18c9d2a354\"\x7d"

def sampleResetEnv : AccountEnv := { sampleAccountEnv with
    session := { sampleSessionEnv with sha256Hex := fun text => if text = sampleSecret then sampleSecretDigest else "" }
    codes := { sampleAccountEnv.codes with
      stringifyLink := fun _ => sampleFormText
      parseLink := fun text =>
        if text = sampleFormText then some ⟨.resetPassword,sampleSecret,none⟩ else none } }

def resetRow : Row := { accountRow [] with columns := fun field =>
      match field with
      | .passwordResetToken => .text sampleSecretDigest
      | .passwordResetExpires => .date 1700003600000
      | field => (accountRow []).columns field }

def resetWorld : World where
  users := ⟨[resetRow],pairwise_singleton _ _⟩
  index _ := none
  redis := (Store.empty.put (formKey sampleFormToken) ⟨sampleFormText,some 1700000600000⟩).put
    (floorKey "u1") (floorEntry 0)
  memory _ := none
  outbox := []

def sampleReset : ResetRequest := ⟨sampleFormToken,"correct horse battery staple"⟩
def unsavedInputs : Nat → Input := fun position =>
  if position = 5 then { Input.healthy 1700000000000 with database := .failed false }
  else .healthy 1700000000000

def circuitOpen : Nat → Input := fun position =>
  if position = 0 then { Input.healthy 1700000000000 with redisAvailable := false }
  else .healthy 1700000000000

theorem resetWorld_live :
    LiveReset sampleResetEnv sampleLinkCode sampleReset 1700000060000 resetWorld sampleSecret resetRow where
  long := by decide +kernel
  session := ⟨⟨sampleFormText,some 1700000600000⟩,none,by decide +kernel⟩
  memory := rfl
  spent := by decide +kernel
  stored := mem_singleton_self _
  token := by decide +kernel
  unexpired := by decide +kernel
  own := fun other hother _ => mem_singleton.mp hother
  floor := by decide +kernel

/-- The save fails: the answer is 500, the floor is ahead of the account, and
the form token is gone. -/
theorem failed_reset_cannot_be_retried :
    LiveReset sampleResetEnv sampleLinkCode sampleReset 1700000060000 resetWorld sampleSecret resetRow ∧
      succeeded (resetOutcome sampleResetEnv sampleReset 1700000000000 unsavedInputs resetWorld).1 = false ∧
      columnOf (resetOutcome sampleResetEnv sampleReset 1700000000000 unsavedInputs resetWorld).2.users "u1" = 0 ∧
      (resetOutcome sampleResetEnv sampleReset 1700000000000 unsavedInputs resetWorld).2.redis.strings
        (floorKey "u1") = some (floorEntry 1) ∧
      ¬CanComplete sampleResetEnv sampleLinkCode sampleReset 1700000060000
        (resetOutcome sampleResetEnv sampleReset 1700000000000 unsavedInputs resetWorld).2 := by
  refine ⟨resetWorld_live,?_,?_,?_,not_canComplete ?_ ?_⟩ <;> decide +kernel

theorem reset_intact_circuitOpen :
    succeeded (resetOutcome sampleResetEnv sampleReset 1700000000000 circuitOpen resetWorld).1 = false ∧
      Intact sampleResetEnv sampleLinkCode sampleReset "u1" 1700000060000 resetWorld
        (resetOutcome sampleResetEnv sampleReset 1700000000000 circuitOpen resetWorld).2 := by
  have hfailed : succeeded (resetOutcome sampleResetEnv sampleReset 1700000000000 circuitOpen resetWorld).1 =
      false := by
    decide +kernel
  have htimes : ∀ position, (circuitOpen position).nowMs ≤ 1700000060000 := by
    intro position
    unfold circuitOpen
    split <;> decide
  refine ⟨hfailed,?_⟩
  exact (reset_allOrNothing_iff_harmless 1700000000000 resetWorld_live htimes).mpr (.inl (by decide)) hfailed

end Routiq.Uam.ResetFailure
