import Routiq.Uam.AccountRequests

/-! The email migration of the user service, statement by statement. A request
names a new address for an account; a token goes to the mailbox of either
address, and once both are redeemed the account moves to the new address, over
any account that has it. Tokens, codes and ids are drawn when a request
arrives. -/
namespace Routiq.Uam.Migration
open Core Actions Users IdentityIndex Session Commands OneTimeCodes AccountRequests

/-! ## History -/

inductive HistoryStatus where
  | success | failed | pending | reverted
deriving DecidableEq

inductive Mailbox where
  | current | new
deriving DecidableEq

inductive PendingFrom where
  | mailbox (mailbox : Mailbox)
  | both
deriving DecidableEq

structure HistoryEntry where
  (fromEmail toEmail : String)
  status : HistoryStatus
  initiatedAt : Nat
  completedAt : Option Nat
  (currentEmailVerified newEmailVerified : Bool)
  pendingFrom : Option PendingFrom
deriving DecidableEq

/-- What the migration uses besides the account functions: the JSON of a history
entry, the avatar of an address, and what stands before its `@`. -/
structure MigrationEnv where
  account : AccountEnv
  parseEntry : String → HistoryEntry
  stringifyEntry : HistoryEntry → String
  (getAvatarUrl localPart : String → String)

def migrationTokenMs : Nat := 24 * 60 * 60 * 1000
def dayMs : Nat := 24 * 60 * 60 * 1000
def migrationCooldownMs : Nat := 10 * 24 * 60 * 60 * 1000
def resendCooldownMs : Nat := 30 * 1000

def Mailbox.token : Mailbox → Field
  | .current => .currentEmailToken
  | .new => .newEmailToken

def Mailbox.verified : Mailbox → Field
  | .current => .currentEmailVerified
  | .new => .newEmailVerified

def Mailbox.other : Mailbox → Mailbox
  | .current => .new
  | .new => .current

/-- `=== true`. -/
def isTrue (value : Option Value) : Bool := value = some (.bool true)

def bothVerified (user : Document) : Bool :=
  isTrue (user.values .currentEmailVerified) && isTrue (user.values .newEmailVerified) &&
    truthy (user.values .newEmailPending)

section

variable (env : MigrationEnv)

def historyOf (user : Document) : List HistoryEntry :=
  (itemsOf (user.values .migrationHistory)).map env.parseEntry

/-- The history is changed in place: the setter is not involved. -/
def withHistory (user : Document) (history : List HistoryEntry) : Document :=
  { user with values := user.values.put .migrationHistory (some (.array (history.map env.stringifyEntry))) }

def completeEntry (nowMs : Nat) (entry : HistoryEntry) : HistoryEntry :=
  { entry with status := .success
               completedAt := some nowMs
               currentEmailVerified := true
               newEmailVerified := true
               pendingFrom := none }

section
variable (nowMs : Nat) (fromEmail newEmail : String)

/-- The first pending entry for the address is completed, or a new one added. -/
def completeHistory (history : List HistoryEntry) : List HistoryEntry :=
  match history.findIdx? fun entry => entry.status = .pending && entry.toEmail = newEmail with
  | some position => history.modify position (completeEntry nowMs)
  | none => history ++ [⟨fromEmail,newEmail,.success,nowMs,some nowMs,true,true,none⟩]

def completed (user : Document) : Document :=
  withHistory env user (completeHistory nowMs fromEmail newEmail (historyOf env user))

end

section
variable (mailbox : Mailbox)

def verifyEntry (otherVerified : Bool) (entry : HistoryEntry) : HistoryEntry :=
  { entry with currentEmailVerified := entry.currentEmailVerified || mailbox = .current
               newEmailVerified := entry.newEmailVerified || mailbox = .new
               pendingFrom := if otherVerified then none else some (.mailbox mailbox.other) }

/-! ## Preserved data -/

structure PreservedUserData where
  bio : String
  (displayName avatar : Option Value)
  loginCount : Value
  (lastLogin provider providerId : Option Value)

def extractUserData (user : Document) : PreservedUserData where
  bio := textOf (user.values .bio)
  displayName := user.values .displayName
  avatar := user.values .avatar
  loginCount := if truthy (user.values .loginCount) then (user.values .loginCount).getD (.int 0) else .int 0
  lastLogin := user.values .lastLogin
  provider := user.values .provider
  providerId := user.values .providerId

def applyUserData (user : Document) (preserved : PreservedUserData) (newEmail : String) : Document :=
  setAll user
    [(.bio,.text preserved.bio),(.displayName,preserved.displayName.getD .null),
      (.avatar,if truthy preserved.avatar then preserved.avatar.getD .null
        else .text (env.getAvatarUrl newEmail)),
      (.loginCount,preserved.loginCount),(.lastLogin,preserved.lastLogin.getD .null),
      (.provider,preserved.provider.getD .null),(.providerId,preserved.providerId.getD .null)]

/-! ## Finalisation -/

def currentSelection : Option Selection :=
  some ⟨[.bio,.avatar,.displayName,.loginCount,.lastLogin,.provider,.providerId,.createdAt,.tokenVersion],[]⟩

def movedSelection : Option Selection :=
  some ⟨[.bio,.avatar,.displayName,.loginCount,.lastLogin,.provider,.providerId,.createdAt],[]⟩

def bioSelection : Option Selection := some ⟨[.bio],[]⟩
def verifiedSelection : Option Selection := some ⟨[.bio,.avatar,.displayName],[]⟩

def finalSelection : Option Selection :=
  some ⟨[.bio,.avatar,.displayName,.provider,.providerId,.previousEmail,.migrationExpiry,.createdAt],[]⟩

def finalizeSelection : Option Selection :=
  some ⟨[.currentEmailVerified,.newEmailVerified,.newEmailPending],[]⟩

def findUserIdByPrimaryEmail (email : String) : UamAction (Option String) := do
  let entry ← query (.findIndex (emailKey env.account.identity .primaryEmail email))
  let nowMs ← .now
  pure ((entry.filter (isActive nowMs)).map IndexEntry.userId)

def loadUser (userId : String) : UamAction (Option Document) := query (.findById userId none)
def findUserByPrimaryEmail (email : String) : UamAction (Option Document) := do
  match ← findUserIdByPrimaryEmail env email with
  | none => pure none
  | some userId => if userId.isEmpty then pure none else loadUser userId

def releaseUserIdentityIndexes (userId : String) : UamAction Unit := query (.deleteIndex userId [])

/-- The update that moves an account, on the condition that its version is the
one that was read. -/
def migrationUpdate (nowMs : Nat) (currentUser : Document) (newEmail : String) : UpdateDoc where
  set := [(.previousEmail,(currentUser.values .email).getD .null),(.email,.text newEmail),
    (.migrationExpiry,.date (nowMs + migrationGraceMs)),(.lastMigrationDate,.date nowMs),
    (.isEmailVerified,.bool true),(.newEmailPending,.null),(.migrationToken,.null),
    (.migrationTokenExpires,.null),(.currentEmailVerified,.null),(.newEmailVerified,.null),
    (.currentEmailToken,.null),(.newEmailToken,.null)]
  inc := [(.tokenVersion,1)]

/-- The same for a document that is saved whatever the version is. -/
def movedDocument (nowMs : Nat) (user : Document) (preserved : PreservedUserData) (newEmail : String) :
    Document :=
  let moved := setAll user
    [(.previousEmail,(user.values .email).getD .null),(.email,.text newEmail),
      (.migrationExpiry,.date (nowMs + migrationGraceMs)),(.lastMigrationDate,.date nowMs),
      (.isEmailVerified,.bool true)]
  let filled := completed env nowMs (textOf (user.values .email)) newEmail
    (applyUserData env moved preserved newEmail)
  setAll filled
    [(.migrationToken,.null),(.migrationTokenExpires,.null),(.newEmailPending,.null),
      (.currentEmailVerified,.null),(.newEmailVerified,.null),(.currentEmailToken,.null),
      (.newEmailToken,.null)]

/-- The bio is read back, and saved again if it is not the preserved one. -/
def checkBio (userId bio : String) : UamAction Unit := do
  match ← query (.findById userId bioSelection) with
  | none => pure ()
  | some user =>
    if user.values .bio = some (.text bio) then pure ()
    else do
      let _ ← query (.save (user.set .bio (.text bio)))
      pure ()

def concurrentModification : Response :=
  ⟨409,"Concurrent modification detected — please retry",none,none,none⟩

def noPendingMigration : Response := ⟨400,"No pending migration",none,none,none⟩
def userNotFound : Response := ⟨404,"User not found",none,none,none⟩

/-- The address belongs to another account, which is deleted first. -/
def mergeAccounts (currentUser existing : Document) (newEmail : String) (issued : TokenPair) :
    UamAction Response := do
  let preserved := extractUserData currentUser
  releaseUserIdentityIndexes existing.id.val
  let _ ← query (.findByIdAndDelete existing.id.val)
  let nowMs ← .now
  match ← query (.findOneAndUpdate currentUser.id.val (currentUser.values .tokenVersion)
      (migrationUpdate nowMs currentUser newEmail)) with
  | none => pure concurrentModification
  | some updated => do
    let nowMs ← .now
    let applied := applyUserData env updated preserved newEmail
    let fromEmail := if truthy (applied.values .previousEmail) then textOf (applied.values .previousEmail)
      else textOf (applied.values .email)
    let saved ← query (.save (completed env nowMs fromEmail newEmail applied))
    syncIdentityIndexesFromUser env.account saved
    checkBio saved.id.val preserved.bio
    persistSessionTokens env.account saved.id.val issued (versionOf (saved.values .tokenVersion))
    pure ⟨200,"Migration completed successfully",none,some issued,some saved⟩

/-- The index names the account itself for the address. -/
def updateAccount (currentUser : Document) (newEmail : String) (issued : TokenPair) : UamAction Response := do
  let nowMs ← .now
  match ← query (.findOneAndUpdate currentUser.id.val (currentUser.values .tokenVersion)
      (migrationUpdate nowMs currentUser newEmail)) with
  | none => pure concurrentModification
  | some updated => do
    let nowMs ← .now
    let saved ← query (.save (completed env nowMs (textOf (updated.values .email)) newEmail updated))
    syncIdentityIndexesFromUser env.account saved
    persistSessionTokens env.account saved.id.val issued (versionOf (saved.values .tokenVersion))
    pure ⟨200,"Migration completed successfully",none,some issued,some saved⟩

def moveAccount (userId : String) (newEmail : String) (issued : TokenPair) : UamAction Response := do
  match ← query (.findById userId movedSelection) with
  | none => pure userNotFound
  | some user => do
    let nowMs ← .now
    let preserved := extractUserData user
    let saved ← query (.save (movedDocument env nowMs user preserved newEmail))
    syncIdentityIndexesFromUser env.account saved
    checkBio saved.id.val preserved.bio
    let _ ← query (.findById saved.id.val verifiedSelection)
    persistSessionTokens env.account saved.id.val issued (versionOf (saved.values .tokenVersion))
    match ← query (.findById saved.id.val finalSelection) with
    | none => pure ⟨500,"Failed to retrieve migrated user data",none,none,none⟩
    | some final =>
      pure ⟨200,"Account migrated successfully! You can login with both emails for 5 days.",none,
        some issued,some final⟩

section
variable (user : Document)

/-- The handler of a duplicate address: whoever the index names for it is
deleted, unless that is the account itself. -/
def recoverDuplicate (email : String) : UamAction Unit :=
  if email.isEmpty then pure ()
  else do
    match ← findUserByPrimaryEmail env email with
    | none => pure ()
    | some duplicate =>
      if duplicate.id = user.id then pure ()
      else do
        releaseUserIdentityIndexes duplicate.id.val
        let _ ← query (.findByIdAndDelete duplicate.id.val)
        pure ()

def migrationFailed : Failure → UamAction Response
  | .duplicateKey (some email) => do
    tryCatch (recoverDuplicate env user email) fun _ => pure ()
    pure ⟨500,"Migration failed due to duplicate email. Please try again or contact support.",
      some "DUPLICATE_EMAIL_ERROR",none,none⟩
  | _ => pure ⟨500,"Migration failed",none,none,none⟩

def pendingEmail : String :=
  match user.values .newEmailPending with
  | some (.text pending) => env.account.identity.toLowerCase pending
  | _ => ""

def finalizeAddress (user currentUser : Document) (issued : TokenPair) : UamAction Response :=
  if (pendingEmail env currentUser).isEmpty then pure noPendingMigration
  else do
    match ← findUserByPrimaryEmail env (pendingEmail env currentUser) with
    | some existing =>
      if existing.id = currentUser.id then
        updateAccount env currentUser (pendingEmail env currentUser) issued
      else mergeAccounts env currentUser existing (pendingEmail env currentUser) issued
    | none => moveAccount env user.id.val (pendingEmail env currentUser) issued

def finalizeMigrationInternal (issued : TokenPair) : UamAction Response :=
  tryCatch (
    if !truthy (user.values .newEmailPending) then pure noPendingMigration
    else do
      match ← query (.findById user.id.val currentSelection) with
      | none => pure userNotFound
      | some currentUser =>
        if currentUser.values .tokenVersion ≠ user.values .tokenVersion then pure concurrentModification
        else finalizeAddress env user currentUser issued)
    (migrationFailed env user)

end

/-! ## Authenticated requests -/

structure Caller where
  userId : String
  tokenVersion : Int

section
variable (caller : Option Caller)

def authenticate : UamAction (Except Response Document) :=
  tryCatch (do
    match caller with
    | none => pure (.error ⟨401,"Invalid or expired access token",none,none,none⟩)
    | some caller =>
      match ← query (.findById caller.userId none) with
      | none => pure (.error ⟨401,"User not found",none,none,none⟩)
      | some user =>
        if caller.tokenVersion ≠ versionOf (user.values .tokenVersion) then
          pure (.error ⟨401,"Session expired — please sign in again",none,none,none⟩)
        else if !truthy (user.values .isEmailVerified) then
          pure (.error ⟨403,"Email verification required",some "EMAIL_NOT_VERIFIED",none,none⟩)
        else pure (.ok user))
    fun _ => pure (.error ⟨500,"Authentication error",none,none,none⟩)

structure DrawnTokens where
  (secret code : Mailbox → String)

structure InitiateRequest where
  newEmail : String
  password : Option String
  confirmOverride : Bool
  drawn : DrawnTokens

def tokenDigest (drawn : DrawnTokens) (mailbox : Mailbox) : Value :=
  .text (env.account.session.sha256Hex (drawn.secret mailbox))

/-- The links are stored and mailed to the two addresses. Whether a mail got out
is the answer. -/
def sendLinks (drawn : DrawnTokens) (accountExists : Bool) (currentEmail newEmail suffix : String) :
    UamAction Bool := do
  let currentCode ← createEmailLinkCode env.account.codes (drawn.code .current)
    ⟨.migrateCurrent,drawn.secret .current,none⟩
  let newCode ← createEmailLinkCode env.account.codes (drawn.code .new)
    ⟨.migrateNew,drawn.secret .new,some [("redirect",if accountExists then "login" else "signup")]⟩
  let currentSent ← sendEmail
    ⟨currentEmail,"Verify Current Email - Account Migration" ++ suffix,currentCode⟩
  let newSent ← sendEmail ⟨newEmail,"Verify New Email - Account Migration" ++ suffix,newCode⟩
  pure (currentSent || newSent)

def initiatedDocument (nowMs : Nat) (user : Document) (newEmail : String) (drawn : DrawnTokens) : Document :=
  let initiated := setAll user
    [(.newEmailPending,.text newEmail),(.currentEmailToken,tokenDigest env drawn .current),
      (.newEmailToken,tokenDigest env drawn .new),(.currentEmailVerified,.bool false),
      (.newEmailVerified,.bool false),(.migrationTokenExpires,.date (nowMs + migrationTokenMs)),
      (.lastMigrationEmailSent,.date nowMs)]
  withHistory env initiated (historyOf env initiated ++
    [⟨textOf (user.values .email),newEmail,.pending,nowMs,none,false,false,some .both⟩])

def checkPassword (user : Document) (password : Option String) : UamAction (Option Response) :=
  if providerOf (user.values .provider) ≠ some .localAccount then pure none
  else
    match password.filter fun password => !password.isEmpty with
    | none => pure (some ⟨400,"Password is required",none,none,none⟩)
    | some password => do
      match ← query (.findById user.id.val (some ⟨[.password],[]⟩)) with
      | none => pure (some ⟨401,"Invalid password",none,none,none⟩)
      | some withPassword =>
        let compared ← comparePassword env.account withPassword password
        if compared.1 then pure none else pure (some ⟨401,"Invalid password",none,none,none⟩)

def initiationRefused (nowMs : Nat) (user : Document) : Option Response :=
  if truthy (user.values .newEmailPending) then
    some ⟨400,"You already have a pending migration. Please complete or cancel it first.",
      some "PENDING_MIGRATION_EXISTS",none,none⟩
  else if truthy (user.values .previousEmail) && isFuture nowMs (user.values .migrationExpiry) then
    some ⟨400,"You are currently in a migration grace period. Please wait until the grace period ends before migrating again.",
      some "MIGRATION_IN_PROGRESS",none,none⟩
  else
    match dateOf (user.values .lastMigrationDate) with
    | none => none
    | some last =>
      if nowMs < last + migrationCooldownMs then
        some ⟨429,"Migration cooldown active. Try again in " ++
          toString ((last + migrationCooldownMs - nowMs + (dayMs - 1)) / dayMs) ++ " day(s).",
          some "MIGRATION_COOLDOWN",none,none⟩
      else none

section
variable (user : Document) (request : InitiateRequest)

def initiateChecked (accountExists : Bool) : UamAction Response := do
  match ← checkPassword env user request.password with
  | some refusal => pure refusal
  | none =>
    match ← query (.findById user.id.val none) with
    | none => pure userNotFound
    | some userDoc => do
      let nowMs ← .now
      let newEmail := env.account.identity.toLowerCase request.newEmail
      let saved ← query (.save (initiatedDocument env nowMs userDoc newEmail request.drawn))
      syncIdentityIndexesFromUser env.account saved
      if ← sendLinks env request.drawn accountExists (textOf (saved.values .email)) newEmail "" then
        pure ⟨200,"Verification links sent to both email addresses",none,none,none⟩
      else
        pure ⟨500,"Failed to send verification emails. Please check your email configuration and try again later.",
          none,none,none⟩

def initiateAuthenticated : UamAction Response :=
  tryCatch (
    if request.newEmail.isEmpty then pure ⟨400,"New email is required",none,none,none⟩
    else do
      let nowMs ← .now
      match initiationRefused nowMs user with
      | some refusal => pure refusal
      | none =>
        match ← findUserByPrimaryEmail env (env.account.identity.toLowerCase request.newEmail) with
        | none => initiateChecked env user request false
        | some existing =>
          if existing.id = user.id then
            pure ⟨400,"This is already your current email address",none,none,none⟩
          else if !request.confirmOverride then
            pure ⟨409,"An account with this email already exists",some "EMAIL_EXISTS",none,none⟩
          else initiateChecked env user request true)
    fun _ => pure ⟨500,"Failed to initiate migration",none,none,none⟩

end

def initiateMigration (request : InitiateRequest) : UamAction Response := do
  match ← authenticate caller with
  | .error refusal => pure refusal
  | .ok user => initiateAuthenticated env user request

def resentDocument (nowMs : Nat) (user : Document) (drawn : DrawnTokens) : Document :=
  setAll user
    [(.currentEmailToken,tokenDigest env drawn .current),(.newEmailToken,tokenDigest env drawn .new),
      (.migrationTokenExpires,.date (nowMs + migrationTokenMs)),(.lastMigrationEmailSent,.date nowMs)]

/-- After the save the address is read from the row: if there is none any more,
taking it to lower case throws. -/
def resendLinks (saved : Document) (drawn : DrawnTokens) : UamAction Response := do
  match saved.values .newEmailPending with
  | some (.text pending) =>
    let accountExists ← findUserIdByPrimaryEmail env (env.account.identity.toLowerCase pending)
    if ← sendLinks env drawn accountExists.isSome (textOf (saved.values .email)) pending " (Resent)" then
      pure ⟨200,"Verification emails resent to both email addresses",none,none,none⟩
    else pure ⟨500,"Failed to resend verification emails. Please try again later.",none,none,none⟩
  | _ => throw .rejected

def resendRefused (nowMs : Nat) (user : Document) : Option Response :=
  if !truthy (user.values .newEmailPending) ||
      !((dateOf (user.values .migrationTokenExpires)).any (nowMs ≤ ·)) then
    some ⟨400,"No pending migration found",none,none,none⟩
  else
    match dateOf (user.values .lastMigrationEmailSent) with
    | none => none
    | some last =>
      if nowMs < last + resendCooldownMs then
        some ⟨429,"Please wait " ++ toString ((last + resendCooldownMs - nowMs + 999) / 1000) ++
          " more second(s) before resending.",none,none,none⟩
      else none

def resendAuthenticated (user : Document) (drawn : DrawnTokens) : UamAction Response :=
  tryCatch (do
    match ← query (.findById user.id.val none) with
    | none => pure userNotFound
    | some userDoc => do
      let nowMs ← .now
      match resendRefused nowMs userDoc with
      | some refusal => pure refusal
      | none => do
        let saved ← query (.save (resentDocument env nowMs userDoc drawn))
        syncIdentityIndexesFromUser env.account saved
        resendLinks env saved drawn)
    fun _ => pure ⟨500,"Failed to resend emails",none,none,none⟩

def resendMigrationEmails (drawn : DrawnTokens) : UamAction Response := do
  match ← authenticate caller with
  | .error refusal => pure refusal
  | .ok user => resendAuthenticated env user drawn

def finalizeAuthenticated (user : Document) (issued : TokenPair) : UamAction Response :=
  tryCatch (do
    match ← query (.findById user.id.val finalizeSelection) with
    | none => pure userNotFound
    | some userDoc =>
      if !truthy (userDoc.values .newEmailPending) then
        pure ⟨400,"No pending migration found",none,none,none⟩
      else if !bothVerified userDoc then
        pure ⟨400,"Both emails must be verified before finalizing migration",none,none,none⟩
      else finalizeMigrationInternal env userDoc issued)
    fun _ => pure ⟨500,"Failed to finalize migration",none,none,none⟩

def finalizeMigration (issued : TokenPair) : UamAction Response := do
  match ← authenticate caller with
  | .error refusal => pure refusal
  | .ok user => finalizeAuthenticated env user issued

end

/-! ## Verification -/

def tokenFilter (nowMs : Nat) (secret : String) : RowFilter :=
  ⟨mailbox.token,env.account.session.sha256Hex secret,.migrationTokenExpires,nowMs,
    match mailbox with
    | .current => none
    | .new => some .newEmailPending⟩

def recordVerification (saved : Document) : UamAction Unit := do
  match ← query (.findById saved.id.val none) with
  | none => pure ()
  | some user =>
    match (historyOf env user).getLast? with
    | none => pure ()
    | some latest =>
      if latest.status = .pending &&
          (saved.values .newEmailPending).any (fun pending =>
            pending ≠ .null && latest.toEmail = env.account.identity.toLowerCase (textOf (some pending))) then do
        let _ ← query (.save (withHistory env user ((historyOf env user).dropLast ++
          [verifyEntry mailbox (truthy (saved.values mailbox.other.verified)) latest])))
        pure ()
      else pure ()

def verifiedMessage (user : Document) : String :=
  match mailbox with
  | .current =>
    if truthy (user.values .newEmailVerified) then
      "Current email verified! Both emails are now verified. Migration will finalize automatically."
    else "Current email verified successfully! Please verify your new email to complete migration."
  | .new => "New email verified successfully! Status updated in real-time."

def markVerified (user : Document) (issued : TokenPair) : UamAction Response := do
  let saved ← query (.save (user.set mailbox.verified (.bool true)))
  recordVerification env mailbox saved
  match ← query (.findById saved.id.val verifiedSelection) with
  | none => pure ⟨404,"User not found after verification",none,none,none⟩
  | some updated =>
    if bothVerified updated then finalizeMigrationInternal env updated issued
    else pure ⟨200,verifiedMessage mailbox updated,none,none,none⟩

end

def invalidToken : Response := ⟨400,"Invalid or expired token",none,none,none⟩
def invalidVerification : Response := ⟨400,"Invalid or expired verification session",none,none,none⟩
def verificationFailed : Response := ⟨500,"Verification failed",none,none,none⟩

/-- Where nobody has the new address, an account is made to hold it. -/
def reservePlaceholder (newEmail : String) (placeholder : UserId) : UamAction Unit := do
  match ← findUserByPrimaryEmail env newEmail with
  | some _ => pure ()
  | none => do
    let created ← query (.insert placeholder fun field =>
      match field with
      | .email => some (.text newEmail)
      | .displayName => some (.text ("User " ++ env.localPart newEmail))
      | .provider => some (.provider .localAccount)
      | .isEmailVerified => some (.bool false)
      | _ => none)
    syncIdentityIndexesFromUser env.account created

def formTokenRequired : Response := ⟨400,"formToken is required",none,none,none⟩

def verifyCurrentEmail (formToken : String) (issued : TokenPair) : UamAction Response :=
  tryCatch (if formToken.isEmpty then pure formTokenRequired else do
    match ← consumeFormToken env.account.codes formToken .migrateCurrent with
    | none => pure invalidVerification
    | some redeemed => do
      let nowMs ← .now
      match ← query (.findOne (tokenFilter env .current nowMs redeemed.secret) none) with
      | none => pure invalidToken
      | some user => markVerified env .current user issued)
    fun _ => pure verificationFailed

def verifyNewEmail (formToken : String) (placeholder : UserId) (issued : TokenPair) : UamAction Response :=
  tryCatch (if formToken.isEmpty then pure formTokenRequired else do
    match ← consumeFormToken env.account.codes formToken .migrateNew with
    | none => pure invalidVerification
    | some redeemed => do
      let nowMs ← .now
      match ← query (.findOne (tokenFilter env .new nowMs redeemed.secret) none) with
      | none => pure invalidToken
      | some user => do
        reservePlaceholder env (pendingEmail env user) placeholder
        markVerified env .new user issued)
    fun _ => pure verificationFailed

def redeemEmailLink (code formToken : String) : UamAction Response :=
  tryCatch (if code.isEmpty then pure ⟨400,"Link code is required",none,none,none⟩ else do
    match ← redeemEmailLinkCode env.account.codes code formToken with
    | none => pure ⟨400,"Invalid or expired link",none,none,none⟩
    | some _ => pure ⟨200,"",none,none,none⟩)
    fun _ => pure ⟨500,"Failed to redeem link",none,none,none⟩

/-! ## Requests -/

inductive MigrationRequest where
  | initiate (caller : Option Caller) (request : InitiateRequest)
  | resend (caller : Option Caller) (drawn : DrawnTokens)
  | verifyCurrent (formToken : String) (issued : TokenPair)
  | verifyNew (formToken : String) (placeholder : UserId) (issued : TokenPair)
  | finalize (caller : Option Caller) (issued : TokenPair)
  | redeem (code formToken : String)

def handle : MigrationRequest → UamAction Response
  | .initiate caller request => initiateMigration env caller request
  | .resend caller drawn => resendMigrationEmails env caller drawn
  | .verifyCurrent formToken issued => verifyCurrentEmail env formToken issued
  | .verifyNew formToken placeholder issued => verifyNewEmail env formToken placeholder issued
  | .finalize caller issued => finalizeMigration env caller issued
  | .redeem code formToken => redeemEmailLink env code formToken

abbrev MigrationSystem (Index : Type) := UamSystem Index Response

def received {Index : Type} (requests : Index → MigrationRequest) (arrivals : Index → Nat)
    (world : World) : MigrationSystem Index :=
  .start world fun index => handle env (requests index) (arrivals index)

end

/-! ## A sample account -/

def sampleMigrationEnv : MigrationEnv where
  account := sampleAccountEnv
  parseEntry toEmail := ⟨"",toEmail,.pending,0,none,false,false,none⟩
  stringifyEntry entry := entry.toEmail
  getAvatarUrl email := email
  localPart email := email

variable (tokenVersion : Int)

def verifiedRow : Row :=
  { accountRow [] with columns := fun field =>
      match field with
      | .isEmailVerified => .bool true
      | .tokenVersion => .int tokenVersion
      | .newEmailPending => .text "b@example.org"
      | .currentEmailVerified => .bool true
      | .newEmailVerified => .bool true
      | .migrationTokenExpires => .date 1700086400000
      | field => (accountRow []).columns field }

def holderRow : Row where
  id := otherUserId
  columns := fun field =>
    match field with
    | .email => .text "b@example.org"
    | field => defaultColumns 0 field

theorem verifiedRow_apart : [verifiedRow tokenVersion,holderRow].Pairwise userConstraints.Apart := by
  simp [Core.KeyedTable.Constraints.Apart,userConstraints,sameIdentity,verifiedRow,holderRow,accountRow,
    sampleUserId,otherUserId,defaultColumns]

def holderWorld : World where
  users := ⟨[verifiedRow tokenVersion,holderRow],verifiedRow_apart tokenVersion⟩
  index := Function.update (fun _ => none) (emailKey sampleMigrationEnv.account.identity .primaryEmail "b@example.org")
    (some ⟨.primaryEmail,"u2",none,some true,none⟩)
  redis := .empty
  memory _ := none
  outbox := []

end Routiq.Uam.Migration
