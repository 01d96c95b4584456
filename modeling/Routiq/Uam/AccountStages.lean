import Routiq.Uam.AccountRequests

/-! How far a request on an account has got. One part of its stage is about the
list of refresh tokens: the copy of the list the request holds, the token it is
still to issue, and what it has ended. The other is about the token version:
the version it has read, and whether it has raised it in one of the two places
and not yet in the other. -/
namespace Routiq.Uam.AccountStages
open Core Runs Processes Actions Users Commands OneTimeCodes AccountRequests
open Edge.Revocation (tvKeyPrefix)
open IdentityIndex hiding resolveEmailIdentity syncIdentityIndexesFromUser
open Session hiding persistSessionTokens removeRefreshToken refreshAccessToken logout

def hashesOf (document : Document) : List String := itemsOf (document.values .refreshTokens)
def documentVersion (document : Document) : Int := versionOf (document.values .tokenVersion)

/-! ## The list of refresh tokens -/

/-- What a request is going to end: nothing, one token of an account, or every
session of an account. -/
inductive Target where
  | nothing
  | token (userId hash : String)
  | account
deriving DecidableEq

structure SessionStage where
  target : Target
  /-- The hash of the token that is still to be issued. -/
  issues : Option String
  /-- The account and the hashes of the document that was read last. -/
  held : Option (String × List String)
  /-- The account on which the target has been ended. -/
  ended : Option String
  /-- The account that was saved without the target. -/
  cleared : Option String
  /-- The account and the token that was exchanged for the new one. -/
  exchanged : Option (String × String)

section
variable (stage : SessionStage)

/-- After a load: a token that is not in the list needs no further statement. -/
def SessionStage.loaded (document : Document) : SessionStage := { stage with
    held := some (document.id.val,hashesOf document)
    ended :=
      match stage.target with
      | .token _ hash =>
        if (document.values .refreshTokens).isSome ∧ hash ∉ hashesOf document then some document.id.val
        else stage.ended
      | _ => stage.ended }

def SessionStage.missing (userId : String) : SessionStage := { stage with
    held := none
    ended := if stage.target = .nothing then stage.ended else some userId }

def SessionStage.saved (saved : Document) : SessionStage := { stage with
    held := some (saved.id.val,hashesOf saved)
    ended := if stage.target = .nothing then stage.ended else some saved.id.val
    cleared := if stage.target = .nothing then stage.cleared else some saved.id.val }

def SessionStage.next : (command : Command) → Result command → SessionStage
  | .sql (.findById _ _), .ok (some document) => stage.loaded document
  | .sql (.findById userId _), .ok none => stage.missing userId
  | .sql (.findOne _ _), .ok (some document) =>
    { stage with held := some (document.id.val,hashesOf document) }
  | .sql (.save _), .ok saved => stage.saved saved
  | .sql (.findOneAndUpdate userId _ update), .ok (some _) =>
    { stage with
      held := none
      issues := none
      exchanged := update.pull.head?.map fun entry => (userId,entry.2) }
  | .sql (.findOneAndUpdate _ _ _), _ => { stage with held := none, issues := none }
  | .sql (.findIndex _), _ | .sql (.updateIndex _ _), _ | .sql (.insertIndex _ _), _
  | .sql (.deleteIndex _ _), _ => stage
  | _, _ => { stage with held := none }

end

/-- A saved list is part of the copy that was read last, and a rotated token is
in it. -/
def SessionStage.Allowed (env : SessionEnv) (stage : SessionStage) : Command → Prop
  | .sql (.save document) =>
    (document.values .refreshTokens).isSome = true ∧
      (∀ hash ∈ hashesOf document, ∃ hashes, stage.held = some (document.id.val,hashes) ∧ hash ∈ hashes) ∧
      match stage.target with
      | .nothing => True
      | .token userId hash => document.id.val = userId ∧ hash ∉ hashesOf document
      | .account => hashesOf document = []
  | .sql (.findOneAndUpdate userId guard update) =>
    guard = none ∧ ∃ issued : TokenPair, stage.issues = some (hashRefreshToken env issued.refreshToken) ∧
      (update = persistUpdate env issued ∨ ∃ storedKey hashes, update = rotateUpdate env storedKey issued ∧
          stage.held = some (userId,hashes) ∧ storedKey ∈ hashes)
  | .sql (.insert _ _) | .sql (.findByIdAndDelete _) => False
  | _ => True

/-! ## The token version -/

inductive VersionPhase where
  | unread
  | read (userId : String) (version : Int)
  /-- The new version is in one of the two places. -/
  | raised (userId : String) (version : Int)
  | published
deriving DecidableEq

def VersionPhase.Open : VersionPhase → Prop
  | .unread | .read _ _ => True
  | .raised _ _ | .published => False

structure VersionStage where
  /-- A reset publishes the new version before it saves it. -/
  publishesFirst : Bool
  phase : VersionPhase
  /-- A statement or a command has failed. -/
  failed : Bool

def loadsJtis (selection : Option Selection) : Bool :=
  selection.any fun selection => decide (.activeAccessJtis ∈ selection.additive)

section
variable (stage : VersionStage)

/-- A refresh keeps the version it read first, unless it goes on to invalidate
all sessions. -/
def VersionStage.loaded (selection : Option Selection) (document : Document) : VersionStage := { stage with
    phase :=
      match stage.phase with
      | .unread => .read document.id.val (documentVersion document)
      | .read userId version =>
        if loadsJtis selection then .read document.id.val (documentVersion document)
        else .read userId version
      | phase => phase }

def VersionStage.saved (document saved : Document) : VersionStage := { stage with
    phase :=
      match document.modified .tokenVersion, stage.phase with
      | true, .read userId version => .raised userId (version + 1)
      | true, .raised _ _ => .published
      | false, .read _ _ => .read saved.id.val (documentVersion saved)
      | _, phase => phase }

def VersionStage.set (available : Bool) : VersionStage := { stage with
    phase :=
      match stage.phase with
      | .read userId version => if stage.publishesFirst then .raised userId (version + 1) else .published
      | _ => .published
    failed := stage.failed || !available }

/-- A reset goes on only if it reads back what it published. -/
def VersionStage.readBack (answer : Option (Option String)) : VersionStage :=
  match stage.phase with
  | .raised _ version => { stage with failed := stage.failed || answer ≠ some (some (toString version)) }
  | _ => stage

def VersionStage.next : (command : Command) → Result command → VersionStage
  | .sql (.findById _ selection), .ok (some document) => stage.loaded selection document
  | .sql (.findOne _ selection), .ok (some document) => stage.loaded selection document
  | .sql (.save document), .ok saved => stage.saved document saved
  | .sql _, .error _ => { stage with failed := true }
  | .cacheSet _ _ _, available => stage.set available
  | .cacheGet _, answer => stage.readBack answer
  | _, _ => stage

/-- What is published or saved is the version that was read, or the next one. A
request that has raised the version in one place goes on to the other. -/
def VersionStage.Allowed : Command → Prop
  | .sql (.save document) =>
    (document.modified .tokenVersion = true →
      (document.modified .email = false ∧ document.modified .provider = false ∧
        document.modified .providerId = false) ∧
      ∃ version, document.values .tokenVersion = some (.int version) ∧
        (stage.publishesFirst = true ∧ stage.phase = .raised document.id.val version ∨
          stage.publishesFirst = false ∧ stage.failed = false ∧
            stage.phase = .read document.id.val (version - 1))) ∧
    (document.modified .tokenVersion = false → ∃ version, stage.phase = .read document.id.val version)
  | .sql (.findById _ selection) | .sql (.findOne _ selection) =>
    .tokenVersion ∈ resolveFields selection
  | .sql _ => stage.phase.Open
  | .cacheSet key value ttlSeconds =>
    ttlSeconds = none ∧ ∃ userId version, key = tvKeyPrefix ++ userId ∧ value = toString version ∧
      (stage.publishesFirst = true ∧ stage.failed = false ∧ stage.phase = .read userId (version - 1) ∨
        stage.publishesFirst = false ∧
          (stage.phase = .raised userId version ∨ stage.phase = .read userId version))
  | .cacheGet key => ∀ userId version, stage.phase = .raised userId version →
    stage.publishesFirst = true ∧ key = tvKeyPrefix ++ userId
  | .cacheDel key => ∃ formToken, key = formKey formToken
  | _ => True

end

/-! ## Both -/

structure Stage where
  sessions : SessionStage
  version : VersionStage

def Stage.next (stage : Stage) (command : Command) (answer : Result command) : Stage :=
  ⟨stage.sessions.next command answer,stage.version.next command answer⟩

section
variable (env : SessionEnv)

def Stage.Allowed (stage : Stage) (command : Command) : Prop :=
  stage.sessions.Allowed env command ∧ stage.version.Allowed command

def protocol : Protocol Command (Timed Result) Stage :=
  untimed Possible .next (Stage.Allowed env)

section
variable (env : AccountEnv)

def targetOf (arrival : Nat) : AccountRequest → Target
  | .login _ => .nothing
  | .logout call =>
    match logoutTarget env arrival call with
    | some (userId,hash) => .token userId hash
    | none => .nothing
  | .refresh _ | .reset _ | .invalidate _ => .account

def issuesOf : AccountRequest → Option String
  | .login request => some (hashRefreshToken env.session request.issued.refreshToken)
  | .refresh call => some (hashRefreshToken env.session call.issued.refreshToken)
  | _ => none

def isReset : AccountRequest → Bool
  | .reset _ => true
  | _ => false

def Stage.initial (arrival : Nat) (request : AccountRequest) : Stage where
  sessions := ⟨targetOf env arrival request,issuesOf env request,none,none,none,none⟩
  version := ⟨isReset request,.unread,false⟩

end

/-- The version is not left raised in one place only, unless something failed. -/
def Steady (stage : Stage) : Prop :=
  ∀ userId version, stage.version.phase = .raised userId version → stage.version.failed = true

def Completes (stage : SessionStage) : AccountRequest → Response → Prop
  | .logout _, response => response.status = 200 →
    ∀ userId hash, stage.target = .token userId hash → stage.ended = some userId
  | .reset _, response => response.status = 200 → stage.cleared.isSome = true
  | .invalidate userId, _ => stage.ended = some userId
  | .refresh call, response => response.status = 200 →
    ∃ payload, env.decodeRefresh call.presented = some payload ∧
      stage.exchanged = some (payload.userId,hashRefreshToken env call.presented)
  | .login _, _ => True

def Settled (request : AccountRequest) (stage : Stage) : Except Failure Response → Prop
  | .ok response => Completes env stage.sessions request response ∧ Steady stage
  | .error _ => Steady stage

end

/-! ## Every request follows the stages -/

abbrev Guided {Value : Type} (env : SessionEnv) (post : Stage → Except Failure Value → Prop) (stage : Stage)
    (action : UamAction Value) : Prop :=
  Guides Possible .next (Stage.Allowed env) post stage action

variable {stage : Stage}

theorem caught_guides {env : SessionEnv} {request : AccountRequest} {body : UamAction Response}
    {response : Response} (hfailed : ∀ stage, Completes env stage request response)
    (hbody : Guided env (Settled env request) stage body) :
    Guided env (Settled env request) stage (tryCatch body fun _ => pure response) := by
  refine .tryCatch (hbody.mono ?_)
  intro stage outcome houtcome
  cases outcome with
  | ok response => exact houtcome
  | error error => exact guides_pure.mpr ⟨hfailed stage.sessions,houtcome⟩

theorem steady_of_unread (hphase : stage.version.phase = .unread) : Steady stage := by
  intro userId version hraised
  rw [hphase] at hraised
  contradiction

theorem steady_of_published (hphase : stage.version.phase = .published) : Steady stage := by
  intro userId version hraised
  rw [hphase] at hraised
  contradiction

variable {version : Int}

theorem steady_of_read {userId : String}
    (hphase : stage.version.phase = .read userId version) : Steady stage := by
  intro userId version hraised
  rw [hphase] at hraised
  contradiction

theorem steady_of_failed (hfailed : stage.version.failed = true) : Steady stage :=
  fun _ _ _ => hfailed

section Parts
variable {env : SessionEnv} {stage : Stage} {userId : String} {version : Int}

def Published {Value : Type} (before after : Stage) (outcome : Except Failure Value) : Prop :=
  after.sessions = { before.sessions with held := none } ∧ after.version.phase = .published ∧
    ∃ value, outcome = .ok value

theorem publishTokenVersion_guides (hfirst : stage.version.publishesFirst = false)
    (hphase : stage.version.phase = .raised userId version ∨ stage.version.phase = .read userId version) :
    Guided env (Published stage) stage (publishTokenVersion userId version) := by
  have hset : ∀ available, (stage.version.set available).phase = .published := by
    intro available
    rcases hphase with hphase | hphase <;> simp [VersionStage.set,hphase,hfirst]
  have hallowed : stage.version.Allowed (.cacheSet (tvKeyPrefix ++ userId) (toString version) none) :=
    ⟨rfl,userId,version,rfl,rfl,.inr ⟨hfirst,hphase⟩⟩
  unfold publishTokenVersion
  simp only [guides_cacheSet_bind]
  refine ⟨⟨trivial,hallowed⟩,?_⟩
  intro available
  cases available with
  | false => exact guides_pure.mpr ⟨rfl,hset false,_,rfl⟩
  | true =>
    have hphase' := hset true
    simp only [if_true,guides_cacheGet_bind,guides_pure]
    refine ⟨⟨trivial,?_⟩,?_⟩
    · intro raisedId raised hraised
      cases hphase'.symm.trans hraised
    intro answer
    refine ⟨rfl,?_,_,rfl⟩
    simp only [Stage.next,VersionStage.next,VersionStage.readBack,hphase']

theorem publishTokenVersion_first_guides (hfirst : stage.version.publishesFirst = true)
    (hfailed : stage.version.failed = false) (hphase : stage.version.phase = .read userId (version - 1)) :
    Guided env (fun after outcome => after.sessions = { stage.sessions with held := none } ∧
        after.version.publishesFirst = true ∧ after.version.phase = .raised userId version ∧
        ∃ confirmed, outcome = .ok confirmed ∧ (confirmed = false → after.version.failed = true))
      stage (publishTokenVersion userId version) := by
  have hset : ∀ available, (stage.version.set available).phase = .raised userId version := by
    intro available
    simp [VersionStage.set,hphase,hfirst]
  have hallowed : stage.version.Allowed (.cacheSet (tvKeyPrefix ++ userId) (toString version) none) :=
    ⟨rfl,userId,version,rfl,rfl,.inl ⟨hfirst,hfailed,hphase⟩⟩
  unfold publishTokenVersion
  simp only [guides_cacheSet_bind]
  refine ⟨⟨trivial,hallowed⟩,?_⟩
  intro available
  cases available with
  | false =>
    refine guides_pure.mpr ⟨rfl,hfirst,hset false,false,rfl,?_⟩
    intro _
    simp [Stage.next,VersionStage.next,VersionStage.set]
  | true =>
    have hphase' := hset true
    simp only [if_true,guides_cacheGet_bind,guides_pure]
    refine ⟨⟨trivial,?_⟩,?_⟩
    · intro raisedId raised hraised
      cases hphase'.symm.trans hraised
      exact ⟨hfirst,rfl⟩
    intro answer
    refine ⟨rfl,?_,?_,_,rfl,?_⟩
    · simp only [Stage.next,VersionStage.next,VersionStage.readBack,hphase']
      exact hfirst
    · simp only [Stage.next,VersionStage.next,VersionStage.readBack,hphase']
    · intro hconfirmed
      simp only [Stage.next,VersionStage.next,VersionStage.readBack,hphase']
      simp_all

def Stage.holding (stage : Stage) (held : Option (String × List String)) : Stage :=
  { stage with sessions := { stage.sessions with held := held } }

variable {Value : Type} {post : Stage → Except Failure Value → Prop} {rest : Unit → UamAction Value}

theorem revoke_bind_guides {jtis : List String}
    (hrest : ∀ held, Guided env post (stage.holding held) (rest ())) :
    Guided env post stage (revokeAllTrackedAccessJtis jtis >>= rest) := by
  unfold revokeAllTrackedAccessJtis
  cases jtis.isEmpty with
  | true => exact hrest stage.sessions.held
  | false =>
    simp only [Bool.false_eq_true,if_false,guides_revoke_bind]
    exact ⟨⟨trivial,trivial⟩,fun _ => hrest none⟩

variable {account : AccountEnv}

theorem revokePrior_bind_guides {accessToken : Option String}
    (hrest : ∀ held, Guided env post (stage.holding held) (rest ())) :
    Guided env post stage (revokePrior account accessToken >>= rest) := by
  unfold revokePrior
  cases accessToken.filter fun token => !token.isEmpty && account.verifyAccess token with
  | none => exact hrest stage.sessions.held
  | some token =>
    simp only [guides_revoke_bind]
    exact ⟨⟨trivial,trivial⟩,fun _ => hrest none⟩

theorem open_of_read {phase : VersionPhase} (hread : phase = .read userId version) : phase.Open := by
  rw [hread]
  trivial

variable {phase : VersionStage}

theorem loaded_jtis (hopen : phase.phase.Open) {selection : Option Selection}
    (hselection : loadsJtis selection = true) (document : Document) :
    (phase.loaded selection document).phase = .read document.id.val (documentVersion document) := by
  unfold VersionStage.loaded
  cases hphase : phase.phase with
  | unread => rfl
  | read userId version => simp [hselection]
  | raised userId version | published =>
    rw [hphase] at hopen
    exact hopen.elim

theorem loads_tokenVersion {selection : Selection} (hadditive : selection.inclusion = []) :
    .tokenVersion ∈ resolveFields (some selection) := by
  simp only [resolveFields,hadditive,ne_eq,not_true_eq_false,if_false]
  exact List.mem_append_left _ (by decide)

variable {document : Document}

theorem id_of_saved {saved : Document}
    (hsaved : Possible (.sql (.save document)) (.ok saved)) : saved.id.val = document.id.val := by
  rcases hsaved with ⟨row,hrow,rfl⟩ | rfl
  · exact congrArg Subtype.val hrow
  · rfl

theorem allowed_clearing {sessions : SessionStage} (htarget : sessions.target = .account)
    (hempty : document.values .refreshTokens = some (.array [])) :
    sessions.Allowed env (.sql (.save document)) := by
  have hhashes : hashesOf document = [] := by
    unfold hashesOf
    rw [hempty]
    rfl
  refine ⟨by rw [hempty]; rfl,?_,?_⟩
  · intro hash hmem
    rw [hhashes] at hmem
    cases hmem
  · rw [htarget]
    exact hhashes

theorem allowed_raising
    (hmodified : document.modified .tokenVersion = true)
    (hidentity : document.modified .email = false ∧ document.modified .provider = false ∧
      document.modified .providerId = false)
    (hversion : document.values .tokenVersion = some (.int version))
    (hphase : phase.publishesFirst = true ∧ phase.phase = .raised document.id.val version ∨
      phase.publishesFirst = false ∧ phase.failed = false ∧
        phase.phase = .read document.id.val (version - 1)) : phase.Allowed (.sql (.save document)) := by
  refine ⟨fun _ => ⟨hidentity,version,hversion,hphase⟩,?_⟩
  intro hunmodified
  rw [hmodified] at hunmodified
  contradiction

def Invalidated (userId : String) (after : Stage) : Except Failure Unit → Prop
  | .ok _ => after.sessions.ended = some userId ∧ Steady after
  | .error _ => Steady after

theorem invalidateAllSessions_guides (htarget : stage.sessions.target = .account)
    (hfirst : stage.version.publishesFirst = false) (hfailed : stage.version.failed = false)
    (hopen : stage.version.phase.Open) :
    Guided env (Invalidated userId) stage (invalidateAllSessions userId) := by
  unfold invalidateAllSessions
  simp only [guides_query_bind]
  refine ⟨⟨trivial,loads_tokenVersion rfl⟩,?_,fun error => steady_of_failed rfl⟩
  intro found hpossible
  cases found with
  | none =>
    refine guides_pure.mpr ⟨?_,?_⟩
    · simp [Stage.next,SessionStage.next,SessionStage.missing,htarget]
    · intro user version hraised
      have hraised' : stage.version.phase = .raised user version := hraised
      rw [hraised'] at hopen
      exact hopen.elim
  | some user =>
    obtain ⟨row,hrow,huser⟩ := hpossible
    have hid : user.id.val = userId := by rw [huser]; exact hrow
    have hread := loaded_jtis hopen (show loadsJtis withSessions = true from rfl) user
    refine revoke_bind_guides ?_
    intro held
    simp only [guides_query_bind]
    refine ⟨⟨allowed_clearing htarget rfl,allowed_raising rfl (by rw [huser]; exact ⟨rfl,rfl,rfl⟩) rfl
      (.inr ⟨hfirst,hfailed,?_⟩)⟩,?_,fun error => steady_of_failed rfl⟩
    · rw [Int.add_sub_cancel]
      exact hread
    · intro saved hsaved
      have hraised : (stage.version.loaded withSessions user |>.saved (setAll user
          [(.refreshTokens,.array []),(.activeAccessJtis,.array []),
            (.tokenVersion,.int (versionOf (user.values .tokenVersion) + 1))]) saved).phase =
          .raised userId (versionOf (user.values .tokenVersion) + 1) := by
        unfold VersionStage.saved
        rw [hread,hid]
        rfl
      refine Guides.bind (Guides.mono (publishTokenVersion_guides ?_ (.inl ?_)) ?_)
      · exact hfirst
      · exact hraised
      rintro after outcome ⟨hsessions,hpublished,value,rfl⟩
      rw [Continues,guides_pure,Invalidated,hsessions]
      refine ⟨?_,steady_of_published hpublished⟩
      have hsavedId : saved.id.val = userId := (id_of_saved hsaved).trans hid
      simp [Stage.next,SessionStage.next,SessionStage.saved,SessionStage.loaded,Stage.holding,
        htarget,hsavedId]

/-- Where the exchange of a token leaves a refresh: finished, or with the
version it read at first. -/
def Rotated (exchanged : String × String) (version : VersionPhase) (after : Stage) :
    Except Failure Bool → Prop
  | .ok true => after.sessions.exchanged = some exchanged ∧ after.version.phase = .published
  | .ok false => after.sessions.target = .account ∧ after.version.publishesFirst = false ∧
      after.version.failed = false ∧ after.version.phase = version
  | .error _ => after.version.failed = true

variable {presented : String} {issued : TokenPair}

theorem rotateSessionTokens_guides (henv : account.session = env) (htarget : stage.sessions.target = .account)
    (hissues : stage.sessions.issues = some (hashRefreshToken env issued.refreshToken))
    (hfirst : stage.version.publishesFirst = false) (hfailed : stage.version.failed = false)
    (hread : stage.version.phase = .read userId version) :
    Guided env (Rotated (userId,hashRefreshToken env presented) (.read userId version)) stage
      (rotateSessionTokens account userId presented issued version) := by
  subst henv
  unfold rotateSessionTokens
  simp only [guides_query_bind]
  refine ⟨⟨trivial,loads_tokenVersion rfl⟩,?_,fun error => rfl⟩
  intro found hpossible
  cases found with
  | none =>
    have hmissed : findStoredRefreshToken account.session
        ((none : Option Document).bind fun user => user.values .refreshTokens) presented = none := by
      simp [findStoredRefreshToken,itemsOf]
    simp only [hmissed]
    exact guides_pure.mpr ⟨htarget,hfirst,hfailed,hread⟩
  | some user =>
    obtain ⟨row,hrow,huser⟩ := hpossible
    have hid : user.id.val = userId := by rw [huser]; exact hrow
    have hkept : (stage.version.loaded withRefreshTokens user).phase = .read userId version := by
      unfold VersionStage.loaded
      rw [hread]
      rfl
    simp only [Option.bind_some]
    cases hstored : findStoredRefreshToken account.session (user.values .refreshTokens) presented with
    | none => exact guides_pure.mpr ⟨htarget,hfirst,hfailed,hkept⟩
    | some storedKey =>
      obtain ⟨rfl,hmem⟩ := findStoredRefreshToken_eq_some account.session hstored
      simp only [guides_query_bind]
      refine ⟨⟨⟨rfl,issued,hissues,.inr ⟨_,hashesOf user,rfl,?_,hmem⟩⟩,open_of_read hkept⟩,?_,
        fun error => rfl⟩
      · rw [← hid]
        rfl
      · intro updated _
        cases updated with
        | none => exact guides_pure.mpr ⟨htarget,hfirst,hfailed,hkept⟩
        | some document =>
          refine Guides.bind (Guides.mono (publishTokenVersion_guides ?_ (.inr ?_)) ?_)
          · exact hfirst
          · exact hkept
          rintro after outcome ⟨hsessions,hpublished,value,rfl⟩
          rw [Continues,guides_pure,Rotated,hsessions]
          exact ⟨rfl,hpublished⟩

def Persisted (after : Stage) : Except Failure Unit → Prop
  | .ok _ => after.version.phase = .published
  | .error _ => after.version.failed = true

theorem persistSessionTokens_guides (henv : account.session = env)
    (hissues : stage.sessions.issues = some (hashRefreshToken env issued.refreshToken))
    (hfirst : stage.version.publishesFirst = false) (hread : stage.version.phase = .read userId version) :
    Guided env Persisted stage (persistSessionTokens account userId issued version) := by
  subst henv
  unfold persistSessionTokens
  simp only [guides_query_bind]
  refine ⟨⟨⟨rfl,issued,hissues,.inl rfl⟩,open_of_read hread⟩,?_,fun error => rfl⟩
  intro updated _
  refine .bind (.mono (publishTokenVersion_guides ?_ (.inr ?_)) ?_)
  · exact hfirst
  · exact hread
  rintro after outcome ⟨hsessions,hpublished,value,rfl⟩
  rw [Continues,guides_pure]
  exact hpublished

def Untouched {Value : Type} (before after : Stage) : Except Failure Value → Prop
  | .ok _ => after = before
  | .error _ => after.sessions = before.sessions ∧ after.version.failed = true

theorem Untouched.bind {Other : Type} {post : Stage → Except Failure Other → Prop} {action : UamAction Value}
    {rest : Value → UamAction Other} (haction : Guided env (Untouched stage) stage action)
    (hrest : ∀ value, Guided env post stage (rest value))
    (herror : ∀ after error, after.sessions = stage.sessions → after.version.failed = true →
      post after (.error error)) : Guided env post stage (action >>= rest) := by
  refine .bind (haction.mono ?_)
  intro after outcome huntouched
  cases outcome with
  | ok value =>
    have hsame : after = stage := huntouched
    subst hsame
    exact hrest value
  | error error => exact herror after error huntouched.1 huntouched.2

theorem query_untouched {statement : Statement} (hallowed : stage.Allowed env (.sql statement))
    (hok : ∀ value, stage.next (.sql statement) (.ok value) = stage)
    (herror : ∀ error, (stage.next (.sql statement) (.error error)).sessions = stage.sessions ∧
      (stage.next (.sql statement) (.error error)).version.failed = true) :
    Guided env (Untouched stage) stage (query statement) := by
  refine guides_attempt.mpr ⟨hallowed,?_⟩
  intro answer _
  cases answer with
  | ok value => exact hok value
  | error error => exact herror error

section
variable (hopen : stage.version.phase.Open)
include hopen

theorem findIndex_guides (key : String) : Guided env (Untouched stage) stage (query (.findIndex key)) :=
  query_untouched ⟨trivial,hopen⟩ (fun _ => rfl) fun _ => ⟨rfl,rfl⟩

theorem resolveEmailIdentity_guides (account : AccountEnv) (email : String) (kinds : List IndexKind) :
    Guided env (Untouched stage) stage (resolveEmailIdentity account email kinds) := by
  induction kinds with
  | nil => exact guides_pure.mpr rfl
  | cons kind kinds ih =>
    refine Untouched.bind (findIndex_guides hopen _) ?_ fun _ _ hsessions hfailed => ⟨hsessions,hfailed⟩
    intro entry
    refine guides_now_bind ?_
    intro nowMs
    cases entry.filter (isActive nowMs) with
    | none => exact ih
    | some entry => exact guides_pure.mpr rfl

theorem upsertEntry_guides (key : String) (entry : IndexEntry) :
    Guided env (Untouched stage) stage (upsertEntry key entry) := by
  refine Untouched.bind (findIndex_guides hopen key) ?_ fun _ _ hsessions hfailed => ⟨hsessions,hfailed⟩
  intro found
  cases found with
  | none | some found => exact query_untouched ⟨trivial,hopen⟩ (fun _ => rfl) fun _ => ⟨rfl,rfl⟩

theorem upsertEntries_guides (entries : List (String × IndexEntry)) :
    Guided env (Untouched stage) stage (upsertEntries entries) := by
  induction entries with
  | nil => exact guides_pure.mpr rfl
  | cons entry entries ih =>
    exact Untouched.bind (upsertEntry_guides hopen entry.1 entry.2) (fun _ => ih)
      fun _ _ hsessions hfailed => ⟨hsessions,hfailed⟩

theorem syncIdentityIndexesFromUser_guides (account : AccountEnv) (user : Document) :
    Guided env (Untouched stage) stage (syncIdentityIndexesFromUser account user) := by
  refine guides_now_bind ?_
  intro nowMs
  refine Untouched.bind (upsertEntries_guides hopen _) ?_
    fun _ _ hsessions hfailed => ⟨hsessions,hfailed⟩
  intro _
  exact query_untouched ⟨trivial,hopen⟩ (fun _ => rfl) fun _ => ⟨rfl,rfl⟩

end

theorem saved_unmodified (hread : phase.phase = .read userId version)
    (hmodified : document.modified .tokenVersion = false) (saved : Document) :
    (phase.saved document saved).phase = .read saved.id.val (documentVersion saved) := by
  unfold VersionStage.saved
  rw [hread,hmodified]

def Removed (userId : String) (before after : Stage) : Except Failure Unit → Prop
  | .ok _ => after.sessions.target = before.sessions.target ∧ Steady after ∧
      after.sessions.ended = some userId
  | .error _ => Steady after

theorem removeRefreshToken_guides (henv : account.session = env)
    (htarget : stage.sessions.target = .token userId (hashRefreshToken env presented))
    (hunread : stage.version.phase = .unread) :
    Guided env (Removed userId stage) stage (removeRefreshToken account userId presented) := by
  subst henv
  unfold removeRefreshToken
  simp only [guides_query_bind]
  refine ⟨⟨trivial,loads_tokenVersion rfl⟩,?_,fun error => steady_of_failed rfl⟩
  intro found hpossible
  cases found with
  | none =>
    refine guides_pure.mpr ⟨rfl,steady_of_unread hunread,?_⟩
    simp [Stage.next,SessionStage.next,SessionStage.missing,htarget]
  | some user =>
    obtain ⟨row,hrow,huser⟩ := hpossible
    have hid : user.id.val = userId := by rw [huser]; exact hrow
    have hread : (stage.version.loaded withRefreshTokens user).phase =
        .read user.id.val (documentVersion user) := by
      unfold VersionStage.loaded
      rw [hunread]
    dsimp only
    cases hstored : findStoredRefreshToken account.session (user.values .refreshTokens) presented with
    | none =>
      have habsent : hashRefreshToken account.session presented ∉ hashesOf user := by
        unfold findStoredRefreshToken at hstored
        split at hstored
        · contradiction
        · assumption
      refine guides_pure.mpr ⟨rfl,steady_of_read hread,?_⟩
      have htokens : (user.values .refreshTokens).isSome = true := by rw [huser]; rfl
      simp only [Stage.next,SessionStage.next,SessionStage.loaded,htarget]
      rw [if_pos ⟨htokens,habsent⟩,hid]
    | some storedKey =>
      obtain ⟨hkey,_⟩ := findStoredRefreshToken_eq_some account.session hstored
      have hunmodified : user.modified .tokenVersion = false := by rw [huser]; rfl
      simp only [guides_query_bind]
      refine ⟨⟨⟨rfl,?_,?_⟩,?_,?_⟩,?_,fun error => steady_of_failed rfl⟩
      · intro hash hmem
        exact ⟨hashesOf user,rfl,(List.mem_filter.mp hmem).1⟩
      · simp only [Stage.next,SessionStage.next,SessionStage.loaded,htarget]
        refine ⟨hid,?_⟩
        intro hmem
        have hne := (List.mem_filter.mp hmem).2
        simp [hkey] at hne
      · intro hmodified
        have hmodified' : user.modified .tokenVersion = true := hmodified
        rw [hunmodified] at hmodified'
        contradiction
      · intro _
        exact ⟨documentVersion user,hread⟩
      · intro saved hsaved
        have hsavedId : saved.id.val = userId := (id_of_saved hsaved).trans hid
        refine guides_pure.mpr ⟨rfl,steady_of_read (saved_unmodified hread hunmodified saved),?_⟩
        simp [Stage.next,SessionStage.next,SessionStage.saved,SessionStage.loaded,htarget,hsavedId]

/-! ## Login -/

section
variable (env : SessionEnv) (issued : TokenPair) (user : Document) (stage : Stage)

structure Ready : Prop where
  target : stage.sessions.target = .nothing
  issues : stage.sessions.issues = some (hashRefreshToken env issued.refreshToken)
  savesFirst : stage.version.publishesFirst = false
  read : stage.version.phase = .read user.id.val (documentVersion user)

structure Loaded : Prop
    extends Ready env issued user stage where
  tokens : (user.values .refreshTokens).isSome = true
  held : stage.sessions.held = some (user.id.val,hashesOf user)
  unmodified : user.modified .tokenVersion = false

end

variable {user : Document}

theorem Ready.settled {request : LoginRequest} (hready : Ready env request.issued user stage)
    (response : Response) :
    Settled env (.login request) stage (.ok response) := ⟨trivial,steady_of_read hready.read⟩

section Login
variable {account : AccountEnv} {issued : TokenPair} {user document : Document}

section
variable (hloaded : Loaded env issued user stage)
include hloaded

theorem Loaded.allowed (hid : document.id = user.id)
    (htokens : document.values .refreshTokens = user.values .refreshTokens)
    (hunmodified : document.modified .tokenVersion = false) : stage.Allowed env (.sql (.save document)) := by
  have hhashes : hashesOf document = hashesOf user := by
    unfold hashesOf
    rw [htokens]
  refine ⟨⟨by rw [htokens]; exact hloaded.tokens,?_,?_⟩,?_,?_⟩
  · intro hash hmem
    rw [hhashes] at hmem
    exact ⟨hashesOf user,by rw [hid]; exact hloaded.held,hmem⟩
  · rw [hloaded.target]
    trivial
  · intro hmodified
    rw [hunmodified] at hmodified
    contradiction
  · intro _
    exact ⟨documentVersion user,by rw [hid]; exact hloaded.read⟩

theorem Loaded.saved {saved : Document} (hsaved : Possible (.sql (.save document)) (.ok saved))
    (htokens : document.values .refreshTokens = user.values .refreshTokens)
    (hunmodified : document.modified .tokenVersion = false) :
    Loaded env issued saved (stage.next (.sql (.save document)) (.ok saved)) := by
  have hcopy : (saved.values .refreshTokens).isSome = true ∧ saved.modified .tokenVersion = false := by
    rcases hsaved with ⟨row,_,rfl⟩ | rfl
    · exact ⟨rfl,rfl⟩
    · exact ⟨by rw [htokens]; exact hloaded.tokens,rfl⟩
  exact
    { target := hloaded.target
      issues := hloaded.issues
      savesFirst := hloaded.savesFirst
      read := saved_unmodified hloaded.read hunmodified saved
      tokens := hcopy.1
      held := rfl
      unmodified := hcopy.2 }

theorem comparePassword_guides (candidate : String) :
    Guided env (fun after outcome => ∃ compared : Bool × Document, outcome = .ok compared ∧
        Ready env issued compared.2 after) stage (comparePassword account user candidate) := by
  have hsame : ∀ matched, ∃ compared : Bool × Document,
      (Except.ok (matched,user) : Except Failure (Bool × Document)) = .ok compared ∧
        Ready env issued compared.2 stage :=
    fun matched => ⟨(matched,user),rfl,hloaded.toReady⟩
  unfold comparePassword
  split
  · split
    · exact guides_pure.mpr (hsame false)
    · dsimp only
      split
      · refine .tryCatch ?_
        simp only [guides_query_bind,guides_pure]
        refine ⟨hloaded.allowed rfl rfl hloaded.unmodified,?_,?_⟩
        · intro saved hsaved
          exact ⟨_,rfl,(hloaded.saved hsaved rfl hloaded.unmodified).toReady⟩
        · intro error
          exact ⟨_,rfl,hloaded.target,hloaded.issues,hloaded.savesFirst,hloaded.read⟩
      · exact guides_pure.mpr (hsame _)
  · exact guides_pure.mpr (hsame false)

end

section
variable (henv : account.session = env) {request : LoginRequest}
  (hloaded : Loaded env request.issued user stage) (lowerEmail : String)
include henv hloaded

theorem loginAccount_guides :
    Guided env (Settled env (.login request)) stage (loginAccount account request lowerEmail user) := by
  refine guides_now_bind ?_
  intro nowMs
  split
  · exact guides_pure.mpr (hloaded.toReady.settled _)
  split
  · exact guides_pure.mpr (hloaded.toReady.settled _)
  refine Guides.bind (Guides.mono (comparePassword_guides hloaded request.password) ?_)
  rintro compared outcome ⟨⟨matched,user⟩,rfl,hready⟩
  dsimp only [Continues] at hready ⊢
  split
  · exact guides_pure.mpr (hready.settled _)
  split
  · exact guides_pure.mpr (hready.settled _)
  refine guides_now_bind ?_
  intro nowMs
  split
  · exact guides_pure.mpr (hready.settled _)
  refine Guides.bind (Guides.mono
    (persistSessionTokens_guides henv hready.issues hready.savesFirst hready.read) ?_)
  intro after outcome houtcome
  cases outcome with
  | error error => exact steady_of_failed houtcome
  | ok value =>
    simp only [Continues,guides_query_bind]
    refine ⟨⟨trivial,loads_tokenVersion rfl⟩,?_,fun error => steady_of_failed rfl⟩
    intro fresh _
    cases fresh with
    | none => exact guides_pure.mpr ⟨trivial,steady_of_published houtcome⟩
    | some fresh =>
      refine guides_pure.mpr ⟨trivial,steady_of_published ?_⟩
      have hpublished : after.version.phase = .published := houtcome
      simp only [Stage.next,VersionStage.next,VersionStage.loaded,hpublished]

theorem loginResolved_guides :
    Guided env (Settled env (.login request)) stage (loginResolved account request lowerEmail user) := by
  unfold loginResolved
  split
  · split
    · split
      · exact guides_pure.mpr (hloaded.toReady.settled _)
      refine guides_now_bind ?_
      intro nowMs
      simp only [guides_query_bind]
      refine ⟨hloaded.allowed rfl rfl hloaded.unmodified,?_,fun error => steady_of_failed rfl⟩
      intro saved hsaved
      have hsaved' := hloaded.saved hsaved rfl hloaded.unmodified
      refine Untouched.bind (syncIdentityIndexesFromUser_guides (open_of_read hsaved'.read) account saved) ?_
        fun _ _ _ hfailed => steady_of_failed hfailed
      intro _
      exact loginAccount_guides henv hsaved' lowerEmail
    · exact guides_pure.mpr (hloaded.toReady.settled _)
  · exact loginAccount_guides henv hloaded lowerEmail

end

theorem login_guides (account : AccountEnv) (arrival : Nat) (request : LoginRequest) :
    Guided account.session (Settled account.session (.login request))
      (Stage.initial account arrival (.login request)) (login account request) := by
  refine caught_guides (fun _ => trivial) ?_
  refine Untouched.bind (resolveEmailIdentity_guides ?_ account _ emailKinds) ?_
    fun _ _ _ hfailed => steady_of_failed hfailed
  · trivial
  intro resolved
  cases resolved with
  | none => exact guides_pure.mpr ⟨trivial,steady_of_unread rfl⟩
  | some resolved =>
    simp only [guides_query_bind]
    refine ⟨⟨trivial,loads_tokenVersion rfl⟩,?_,fun error => steady_of_failed rfl⟩
    intro found hpossible
    cases found with
    | none => exact guides_pure.mpr ⟨trivial,steady_of_unread rfl⟩
    | some user =>
      obtain ⟨row,hrow,rfl⟩ := hpossible
      exact loginResolved_guides rfl
        { target := rfl, issues := rfl, savesFirst := rfl, read := rfl, tokens := rfl, held := rfl
          unmodified := rfl } _

end Login

/-! ## Refresh, logout, reset and invalidation -/

variable (account : AccountEnv) (arrival : Nat)

theorem refreshAccessToken_guides (call : RefreshCall) :
    Guided account.session (Settled account.session (.refresh call))
      (.initial account arrival (.refresh call)) (refreshAccessToken account call) := by
  refine caught_guides (fun _ hstatus => absurd hstatus (by decide)) ?_
  refine guides_now_bind ?_
  intro nowMs
  split
  · exact guides_pure.mpr ⟨fun hstatus => absurd hstatus (by decide),steady_of_unread rfl⟩
  split
  · exact guides_pure.mpr ⟨fun hstatus => absurd hstatus (by decide),steady_of_unread rfl⟩
  rename_i payload hverified
  simp only [guides_query_bind]
  refine ⟨⟨trivial,loads_tokenVersion rfl⟩,?_,fun error => steady_of_failed rfl⟩
  intro found hpossible
  cases found with
  | none => exact guides_pure.mpr ⟨fun hstatus => absurd hstatus (by decide),steady_of_unread rfl⟩
  | some user =>
    obtain ⟨row,hrow,huser⟩ := hpossible
    have hid : user.id.val = payload.userId := by rw [huser]; exact hrow
    have hdecoded := ((verifyRefreshToken_eq_some account.session).mp hverified).1
    have hended : ∀ stage : Stage, stage.sessions.target = .account →
        stage.version.publishesFirst = false → stage.version.failed = false → stage.version.phase.Open →
        Guided account.session (Settled account.session (.refresh call)) stage
          (do invalidateAllSessions user.id.val; pure sessionEnded) := by
      intro stage htarget hfirst hfailed hopen
      refine .bind (.mono (invalidateAllSessions_guides htarget hfirst hfailed hopen) ?_)
      intro after outcome hinvalidated
      cases outcome with
      | error error => exact hinvalidated
      | ok value => exact guides_pure.mpr ⟨fun hstatus => absurd hstatus (by decide),hinvalidated.2⟩
    dsimp only
    cases findStoredRefreshToken account.session (user.values .refreshTokens) call.presented with
    | none => exact hended _ rfl rfl rfl trivial
    | some storedKey =>
      refine revokePrior_bind_guides ?_
      intro held
      refine .bind (.mono (rotateSessionTokens_guides rfl ?_ ?_ ?_ ?_ ?_) ?_)
      · rfl
      · rfl
      · rfl
      · rfl
      · rfl
      intro after outcome hrotated
      cases outcome with
      | error error => exact steady_of_failed hrotated
      | ok rotated =>
        cases rotated with
        | true =>
          rw [Continues]
          simp only [if_true,guides_pure]
          refine ⟨fun _ => ⟨payload,hdecoded,?_⟩,steady_of_published hrotated.2⟩
          rw [← hid]
          exact hrotated.1
        | false =>
          rw [Continues]
          simp only [Bool.false_eq_true,if_false]
          exact hended _ hrotated.1 hrotated.2.1 hrotated.2.2.1 (open_of_read hrotated.2.2.2)

def Ended (after : Stage) : Except Failure Unit → Prop
  | .ok _ => Steady after ∧ ∀ userId hash, after.sessions.target = .token userId hash →
      after.sessions.ended = some userId
  | .error _ => Steady after

theorem logoutToken_guides (call : LogoutCall) :
    Guided account.session Ended (Stage.initial account arrival (.logout call))
      (logoutToken account arrival call) := by
  have hnothing : logoutTarget account arrival call = none →
      Ended (Stage.initial account arrival (.logout call)) (.ok ()) := by
    intro hnone
    refine ⟨steady_of_unread rfl,?_⟩
    intro userId hash htoken
    simp only [Stage.initial,targetOf,hnone] at htoken
    contradiction
  unfold logoutToken
  cases hpresented : call.presented.filter fun token => !token.isEmpty with
  | none =>
    refine guides_pure.mpr (hnothing ?_)
    simp only [logoutTarget,hpresented,Option.bind_none]
  | some token =>
    dsimp only
    cases hverified : verifyRefreshToken account.session arrival token with
    | none =>
      refine guides_pure.mpr (hnothing ?_)
      simp only [logoutTarget,hpresented,Option.bind_some,hverified,Option.map_none]
    | some payload =>
      have htarget : (Stage.initial account arrival (.logout call)).sessions.target =
          .token payload.userId (hashRefreshToken account.session token) := by
        simp only [Stage.initial,targetOf,logoutTarget,hpresented,Option.bind_some,hverified,
          Option.map_some]
      refine Guides.mono (removeRefreshToken_guides rfl htarget rfl) ?_
      intro after outcome hremoved
      cases outcome with
      | error error => exact hremoved
      | ok value =>
        obtain ⟨htarget',hsteady,hended⟩ := hremoved
        refine ⟨hsteady,?_⟩
        intro userId hash htoken
        rw [htarget',htarget] at htoken
        cases htoken
        exact hended

theorem logout_follows (call : LogoutCall) : (protocol account.session).Follows
      (fun stage outcome => Settled account.session (.logout call) stage outcome.1)
      (.initial account arrival (.logout call)) (logout account call arrival) := by
  -- The clock is read before the first command, so that it shows the arrival.
  have hstart : logout account call arrival = (tryCatch (do
      logoutToken account arrival call
      revokePrior account call.accessToken
      pure ⟨200,"Logged out successfully",none,none,none⟩)
      fun _ => pure ⟨500,"Logout failed",none,none,none⟩ : UamAction Response) arrival := rfl
  rw [hstart]
  refine caught_guides ?_ ?_ arrival
  · intro stage hstatus
    contradiction
  refine .bind (.mono (logoutToken_guides account arrival call) ?_)
  intro after outcome hended
  cases outcome with
  | error error => exact hended
  | ok value =>
    refine revokePrior_bind_guides ?_
    intro held
    exact guides_pure.mpr ⟨fun _ => hended.2,hended.1⟩

def Consumed {Value : Type} (before after : Stage) (outcome : Except Failure Value) : Prop :=
  after = before ∧ ∃ value, outcome = .ok value

variable (request : ResetRequest)

theorem takeCode_guides :
    Guided account.session (Consumed (.initial account arrival (.reset request)))
      (.initial account arrival (.reset request))
      (takeCode (formKey request.formToken) account.codes.parseLink linkOf) := by
  unfold takeCode
  simp only [guides_cacheGet_bind]
  refine ⟨⟨trivial,fun _ _ hraised => by cases hraised⟩,?_⟩
  intro answer
  cases answer with
  | none =>
    simp only [guides_memoryTake_bind,guides_pure]
    exact ⟨⟨trivial,trivial⟩,fun payload => ⟨rfl,_,rfl⟩⟩
  | some raw =>
    dsimp only
    cases raw.filter fun text => !text.isEmpty with
    | none => exact guides_pure.mpr ⟨rfl,_,rfl⟩
    | some text =>
      simp only [guides_cacheDel_bind,guides_pure]
      exact ⟨⟨trivial,_,rfl⟩,fun _ => ⟨rfl,_,rfl⟩⟩

theorem consumeFormToken_guides :
    Guided account.session (Consumed (.initial account arrival (.reset request)))
      (.initial account arrival (.reset request))
      (consumeFormToken account.codes request.formToken .resetPassword) := by
  unfold consumeFormToken
  split
  · exact guides_pure.mpr ⟨rfl,_,rfl⟩
  refine .bind (.mono (takeCode_guides account arrival request) ?_)
  rintro after outcome ⟨rfl,payload,rfl⟩
  rw [Continues]
  cases payload with
  | none => exact guides_pure.mpr ⟨rfl,_,rfl⟩
  | some payload =>
    dsimp only
    split
    · exact guides_pure.mpr ⟨rfl,_,rfl⟩
    · exact guides_pure.mpr ⟨rfl,_,rfl⟩

theorem resetPassword_guides :
    Guided account.session (Settled account.session (.reset request))
      (Stage.initial account arrival (.reset request)) (resetPassword account request) := by
  refine caught_guides (fun _ hstatus => absurd hstatus (by decide)) ?_
  refine Guides.bind (Guides.mono (consumeFormToken_guides account arrival request) ?_)
  rintro after outcome ⟨rfl,redeemed,rfl⟩
  cases redeemed with
  | none => exact guides_pure.mpr ⟨fun hstatus => absurd hstatus (by decide),steady_of_unread rfl⟩
  | some redeemed =>
    refine guides_now_bind ?_
    intro nowMs
    simp only [guides_query_bind]
    refine ⟨⟨trivial,loads_tokenVersion rfl⟩,?_,fun error => steady_of_failed rfl⟩
    intro found hpossible
    cases found with
    | none => exact guides_pure.mpr ⟨fun hstatus => absurd hstatus (by decide),steady_of_unread rfl⟩
    | some user =>
      obtain ⟨row,hrow,huser⟩ := hpossible
      refine Guides.bind (Guides.mono (publishTokenVersion_first_guides ?_ ?_ ?_) ?_)
      · rfl
      · rfl
      · rw [Int.add_sub_cancel]
        rfl
      rintro after outcome ⟨hsessions,hfirst,hraised,confirmed,rfl,hconfirmed⟩
      have htarget : after.sessions.target = .account := by rw [hsessions]; rfl
      cases confirmed with
      | false =>
        exact guides_pure.mpr ⟨fun hstatus => absurd hstatus (by decide),steady_of_failed (hconfirmed rfl)⟩
      | true =>
        refine revoke_bind_guides ?_
        intro held
        simp only [guides_query_bind]
        refine ⟨⟨allowed_clearing htarget rfl,allowed_raising rfl (by rw [huser]; exact ⟨rfl,rfl,rfl⟩) rfl
          (.inl ⟨hfirst,hraised⟩)⟩,?_,fun error => steady_of_failed rfl⟩
        intro saved _
        refine guides_pure.mpr ⟨?_,steady_of_published ?_⟩
        · intro _
          simp [Stage.next,SessionStage.next,SessionStage.saved,Stage.holding,htarget]
        have hphase : (after.version.saved (resetDocument user request.password) saved).phase =
            .published := by
          unfold VersionStage.saved
          rw [hraised]
          rfl
        exact hphase

end Parts

theorem handle_follows (account : AccountEnv) (arrival : Nat) (request : AccountRequest) :
    (protocol account.session).Follows
      (fun stage outcome => Settled account.session request stage outcome.1)
      (Stage.initial account arrival request) (handle account request arrival) := by
  cases request with
  | login request => exact login_guides account arrival request arrival
  | refresh call => exact refreshAccessToken_guides account arrival call arrival
  | logout call => exact logout_follows account arrival call
  | reset request => exact resetPassword_guides account arrival request arrival
  | invalidate userId =>
    refine Guides.bind (Guides.mono (invalidateAllSessions_guides ?_ ?_ ?_ ?_) ?_) arrival
    · rfl
    · rfl
    · rfl
    · trivial
    intro after outcome hinvalidated
    cases outcome with
    | error error => exact hinvalidated
    | ok value => exact guides_pure.mpr hinvalidated

section Systems
variable {Index : Type} [DecidableEq Index] (account : AccountEnv) (requests : Index → AccountRequest)
  (arrivals : Index → Nat)

def stagesOf (system : AccountSystem Index) (index : Index) : Stage :=
  (protocol account.session).stages (fun index => .initial account (arrivals index) (requests index))
    system index

def Following (system : AccountSystem Index) : Prop := (protocol account.session).Following
    (fun index => .initial account (arrivals index) (requests index))
    (fun index stage outcome => Settled account.session (requests index) stage outcome.1) system

theorem following_received (world : World) :
    Following account requests arrivals (received account requests arrivals world) :=
  fun index => handle_follows account (arrivals index) (requests index)

def reached (world : World) (events : List (Index × Input)) : AccountSystem Index :=
  run (.step (machine account.session.hashPassword)) (received account requests arrivals world)
    events

variable {account requests arrivals} {system : AccountSystem Index}

/-- Every interleaving: what each command of a request that follows the stages
keeps holds at the end of a good run. -/
theorem run_invariant (inv : AccountSystem Index → Prop) {good : AccountSystem Index → Index × Input → Prop}
    (hperform : ∀ (system : AccountSystem Index) (index : Index) (input : Input) (command : Command)
      (next : Timed Result command → Process Command (Timed Result) (Except Failure Response × Nat)),
      Following account requests arrivals system → system.processes index = .call command next →
      good system (index,input) → inv system →
      inv (system.perform (machine account.session.hashPassword) input index command next))
    {events : List (Index × Input)}
    (hgood : Along (.step (machine account.session.hashPassword)) good system events)
    (hfollowing : Following account requests arrivals system) (hinv : inv system) :
    Following account requests arrivals
        (run (.step (machine account.session.hashPassword)) system events) ∧
      inv (run (.step (machine account.session.hashPassword)) system events) :=
  Protocol.Following.run_invariant (machine_serves _ _ _) hperform hgood hfollowing hinv

theorem following_reached (world : World) (events : List (Index × Input)) :
    Following account requests arrivals (reached account requests arrivals world events) := by
  have hgood : ∀ (system : AccountSystem Index) (event : Index × Input), True := fun _ _ => trivial
  exact (run_invariant (fun _ => True) (fun _ _ _ _ _ _ _ _ _ => trivial) (along_of_forall hgood _ events)
    (following_received account requests arrivals world) trivial).1

variable {index : Index}

theorem allowed_of_pending {command : Command} (hfollowing : Following account requests arrivals system)
    (hpending : (system.processes index).pending = some command) :
    Stage.Allowed account.session (stagesOf account requests arrivals system index) command :=
  Protocol.Following.allowed hfollowing hpending

theorem settled_of_result {outcome : Except Failure Response × Nat}
    (hfollowing : Following account requests arrivals system)
    (hresult : (system.processes index).result = some outcome) :
    Settled account.session (requests index) (stagesOf account requests arrivals system index) outcome.1 :=
  Protocol.Following.settled hfollowing hresult

theorem stagesOf_perform (input : Input) (system : AccountSystem Index) (index : Index) (command : Command)
    (next : Timed Result command → Process Command (Timed Result) (Except Failure Response × Nat)) :
    stagesOf account requests arrivals
        (system.perform (machine account.session.hashPassword) input index command next) =
      Function.update (stagesOf account requests arrivals system) index
        ((stagesOf account requests arrivals system index).next command
          (exec account.session.hashPassword input system.world command).1) :=
  Protocol.stages_perform (protocol account.session) _ _ input system index command next

end Systems

end Routiq.Uam.AccountStages
