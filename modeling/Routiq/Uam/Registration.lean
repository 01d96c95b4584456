import Routiq.Uam.Migration

/-! Registration, statement by statement. An address that nobody has verified
yet may be registered again, and the account is then taken over as it stands.
Tokens, codes and ids are drawn when a request arrives. -/
namespace Routiq.Uam.Registration
open Core.Actions Users IdentityIndex Session Commands OneTimeCodes AccountRequests Migration

structure RegisterRequest where
  (email password : String)
  displayName : Option String
  (verificationToken linkCode pollToken : String)
  uuid : UserId
  issued : TokenPair

def verificationMs : Nat := 24 * 60 * 60 * 1000
def pollTtlSecs : Nat := 86400

variable (env : MigrationEnv) (autoVerifyEmail : Bool)

/-- An entry without an expiry does not count here. -/
def findPendingMigrationHolder (email : String) : UamAction (Option String) := do
  let nowMs ← Action.now
  let entry ← query (.findIndex (emailKey env.account.identity .pendingMigration email))
  pure ((entry.filter fun entry => entry.expiresAt.any (nowMs < ·)).map IndexEntry.userId)

section
variable (nowMs : Nat) (request : RegisterRequest)

def registeredFields : List (Field × Value) :=
  [(.password,.text request.password),(.displayName,(request.displayName.map Value.text).getD .null),
    (.provider,.provider .localAccount)] ++
    if autoVerifyEmail then
      [(.isEmailVerified,.bool true),(.emailVerificationToken,.null),(.emailVerificationExpires,.null)]
    else
      [(.isEmailVerified,.bool false),
        (.emailVerificationToken,.text (env.account.session.sha256Hex request.verificationToken)),
        (.emailVerificationExpires,.date (nowMs + verificationMs))]

def newAccount (lowerEmail : String) : Assignments :=
  fun field =>
    (((.email,.text lowerEmail) :: registeredFields env autoVerifyEmail nowMs request).find?
      fun entry => entry.1 = field).map Prod.snd

end

variable (request : RegisterRequest)

def sendVerificationEmail (lowerEmail : String) : UamAction Unit := do
  let code ← createEmailLinkCode env.account.codes request.linkCode
    ⟨.verifyEmail,request.verificationToken,none⟩
  let _ ← sendEmail ⟨lowerEmail,"Verify Your Email Address",code⟩
  pure ()

/-- Where Redis is missing the token goes to a map of its own, except in
production. -/
def createVerificationPollToken (userId pollToken : String) : UamAction Unit := do
  if ← cacheSet ("uam:verify-poll:" ++ pollToken) userId (some pollTtlSecs) then pure ()
  else if env.account.codes.production then throw .rejected
  else pure ()

def finishRegistration (lowerEmail : String) (user : Document) : UamAction Response := do
  syncIdentityIndexesFromUser env.account user
  if autoVerifyEmail then
    persistSessionTokens env.account user.id.val request.issued (versionOf (user.values .tokenVersion))
    pure ⟨201,"Registration successful",none,some request.issued,some user⟩
  else
    tryCatch (sendVerificationEmail env request lowerEmail) fun _ => pure ()
    createVerificationPollToken env user.id.val request.pollToken
    pure ⟨201,"Registration successful. Please check your email to verify your account.",none,none,
      some user⟩

def registrationFailed : Failure → Response
  | .duplicateKey _ => ⟨400,"Email already registered",none,none,none⟩
  | .rejected => ⟨500,"Registration failed",none,none,none⟩

def register : UamAction Response := tryCatch (do
    let lowerEmail := env.account.identity.toLowerCase request.email
    match ← findPendingMigrationHolder env lowerEmail with
    | some _ =>
      pure ⟨400,"This email is pending migration from another account. Please complete the migration process first.",
        some "PENDING_MIGRATION",none,none⟩
    | none =>
      match ← findUserByPrimaryEmail env lowerEmail with
      | some user =>
        if truthy (user.values .isEmailVerified) then
          pure ⟨400,"Email already registered",none,none,none⟩
        else do
          let nowMs ← Action.now
          let saved ← query (.save (setAll user (registeredFields env autoVerifyEmail nowMs request)))
          finishRegistration env autoVerifyEmail request lowerEmail saved
      | none => do
        let nowMs ← Action.now
        let created ← query (.insert request.uuid (newAccount env autoVerifyEmail nowMs request lowerEmail))
        finishRegistration env autoVerifyEmail request lowerEmail created)
    fun error => pure (registrationFailed error)

end Routiq.Uam.Registration
