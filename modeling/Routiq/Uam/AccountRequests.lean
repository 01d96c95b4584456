import Routiq.Uam.OneTimeCodes

/-! The requests that open, renew and end the sessions of an account, statement
by statement: login, refresh, logout, password reset, and the invalidation of
all sessions. The pair of tokens a request issues is drawn when it arrives. -/
namespace Routiq.Uam.AccountRequests
open Core Users IdentityIndex Session Commands OneTimeCodes
open Edge.Revocation (tvKeyPrefix)

/-- The functions the controllers call besides the database and Redis:
`verifyPassword` returns whether the candidate matches and whether the stored
hash is a legacy one, `midnight` the start of a day in local time. -/
structure AccountEnv where
  session : SessionEnv
  identity : IdentityEnv
  codes : CodeEnv
  verifyPassword : String → String → Bool × Bool
  verifyAccess : String → Bool
  midnight : Nat → Nat
  maxDailyLogins : Int

structure Response where
  status : Nat
  message : String
  code : Option String := none
  tokens : Option TokenPair := none
  user : Option Document := none

def setAll (document : Document) (assigned : List (Field × Value)) : Document :=
  assigned.foldl (fun document entry => document.set entry.1 entry.2) document

def versionOf : Option Value → Int
  | some (.int version) => version
  | _ => 0

def migrationGraceMs : Nat := 5 * 24 * 60 * 60 * 1000

section

variable (env : AccountEnv)

/-! ## Services -/

def resolveEmailIdentity (email : String) : List IndexKind → UamAction (Option ResolvedEmailIdentity)
  | [] => pure none
  | kind :: kinds => do
    let entry ← query (.findIndex (emailKey env.identity kind (normalizeEmail env.identity email)))
    let nowMs ← .now
    match entry.filter (isActive nowMs) with
    | some entry => pure (some ⟨entry.userId,kind,entry.verified⟩)
    | none => resolveEmailIdentity email kinds

def upsertEntry (key : String) (entry : IndexEntry) : UamAction Unit := do
  match ← query (.findIndex key) with
  | some _ => query (.updateIndex key entry)
  | none => query (.insertIndex key entry)

def upsertEntries : List (String × IndexEntry) → UamAction Unit
  | [] => pure ()
  | (key,entry) :: entries => do
    upsertEntry key entry
    upsertEntries entries

def syncIdentityIndexesFromUser (user : Document) : UamAction Unit := do
  let nowMs ← .now
  let implied := impliedEntries env.identity nowMs user
  upsertEntries implied
  query (.deleteIndex user.id.val (implied.map Prod.fst))

def publishTokenVersion (userId : String) (version : Int) : UamAction Bool := do
  let key := tvKeyPrefix ++ userId
  if ← cacheSet key (toString version) none then
    let stored ← cacheGet key
    pure (stored = some (some (toString version)))
  else pure false

def revokeAllTrackedAccessJtis (jtis : List String) : UamAction Unit :=
  if jtis.isEmpty then pure () else revoke jtis

def invalidateAllSessions (userId : String) : UamAction Unit := do
  match ← query (.findById userId withSessions) with
  | none => pure ()
  | some user =>
    revokeAllTrackedAccessJtis (itemsOf (user.values .activeAccessJtis))
    let newVersion := versionOf (user.values .tokenVersion) + 1
    let _ ← query (.save (setAll user
      [(.refreshTokens,.array []),(.activeAccessJtis,.array []),(.tokenVersion,.int newVersion)]))
    let _ ← publishTokenVersion userId newVersion
    pure ()

def rotateSessionTokens (userId presented : String) (issued : TokenPair) (version : Int) :
    UamAction Bool := do
  let user ← query (.findById userId withRefreshTokens)
  match findStoredRefreshToken env.session (user.bind fun user => user.values .refreshTokens) presented with
  | none => pure false
  | some storedKey =>
    match ← query (.findOneAndUpdate userId none (rotateUpdate env.session storedKey issued)) with
    | none => pure false
    | some _ =>
      let _ ← publishTokenVersion userId version
      pure true

def persistSessionTokens (userId : String) (issued : TokenPair) (version : Int) : UamAction Unit := do
  let _ ← query (.findOneAndUpdate userId none (persistUpdate env.session issued))
  let _ ← publishTokenVersion userId version
  pure ()

def removeRefreshToken (userId presented : String) : UamAction Unit := do
  match ← query (.findById userId withRefreshTokens) with
  | none => pure ()
  | some user =>
    match findStoredRefreshToken env.session (user.values .refreshTokens) presented with
    | none => pure ()
    | some storedKey =>
      let remaining := (itemsOf (user.values .refreshTokens)).filter fun token => token ≠ storedKey
      let _ ← query (.save (user.set .refreshTokens (.array remaining)))
      pure ()

/-- A match against a legacy hash stores the password under the current scheme;
a failure to do so is ignored. -/
def comparePassword (user : Document) (candidate : String) : UamAction (Bool × Document) :=
  match user.values .password with
  | some (.text stored) =>
    if stored.isEmpty then pure (false,user)
    else
      let verdict := env.verifyPassword candidate stored
      if verdict.1 && verdict.2 then
        tryCatch (do
          let saved ← query (.save (user.set .password (.text candidate)))
          pure (true,saved)) fun _ => pure (true,user.set .password (.text candidate))
      else pure (verdict.1,user)
  | _ => pure (false,user)

/-! ## Login -/

structure LoginRequest where
  (email password : String)
  issued : TokenPair

def loginSelection : Option Selection :=
  some ⟨[.password,.refreshTokens,.loginCount,.lastLogin,.bio,.avatar,.displayName,.provider,
    .providerId,.previousEmail,.migrationExpiry,.newEmailPending,.currentEmailVerified,.newEmailVerified],[]⟩

def freshSelection : Option Selection :=
  some ⟨[.bio,.avatar,.displayName,.provider,.providerId,.previousEmail,.migrationExpiry,.createdAt],[]⟩

def invalidCredentials : Response := ⟨401,"Invalid email or password",none,none,none⟩
def authFailed : Response := ⟨401,"Invalid email or password",some "AUTH_FAILED",none,none⟩

/-- The columns a login under the pending address sets to finish the migration. -/
def finalizedAtLogin (nowMs : Nat) (user : Document) (pendingEmail : String) : Document := setAll user
    [(.previousEmail,(user.values .email).getD .null),(.email,.text pendingEmail),
      (.migrationExpiry,.date (nowMs + migrationGraceMs)),(.lastMigrationDate,.date nowMs),
      (.isEmailVerified,.bool true),(.newEmailPending,.null),(.currentEmailVerified,.null),
      (.newEmailVerified,.null),(.currentEmailToken,.null),(.newEmailToken,.null)]

def overDailyLimit (nowMs : Nat) (user : Document) : Bool :=
  (dateOf (user.values .lastLogin)).any (fun last => env.midnight last = env.midnight nowMs) &&
    env.maxDailyLogins ≤ versionOf (user.values .loginCount)

section
variable (request : LoginRequest) (lowerEmail : String) (user : Document)

def loginAccount : UamAction Response := do
  let nowMs ← .now
  if user.values .previousEmail = some (.text lowerEmail) &&
      (dateOf (user.values .migrationExpiry)).any (· < nowMs) then
    pure ⟨403,"This email is no longer valid for this account. Please use your new email address.",
      none,none,none⟩
  else if providerOf (user.values .provider) ≠ some .localAccount then pure authFailed
  else do
    let compared ← comparePassword env user request.password
    let user := compared.2
    if !compared.1 then pure invalidCredentials
    else if !truthy (user.values .isEmailVerified) then pure authFailed
    else do
      let nowMs ← .now
      if overDailyLimit env nowMs user then
        pure ⟨429,"Daily login limit exceeded. Please try again tomorrow.",none,none,none⟩
      else do
        persistSessionTokens env user.id.val request.issued (versionOf (user.values .tokenVersion))
        match ← query (.findById user.id.val freshSelection) with
        | none => pure ⟨500,"Failed to load user data",none,none,none⟩
        | some fresh => pure ⟨200,"Login successful",none,some request.issued,some fresh⟩

def loginResolved : UamAction Response :=
  if user.values .newEmailPending = some (.text lowerEmail) then
    if truthy (user.values .currentEmailVerified) && truthy (user.values .newEmailVerified) then
      if lowerEmail.isEmpty then pure ⟨500,"Migration state invalid",none,none,none⟩
      else do
        let nowMs ← .now
        let user ← query (.save (finalizedAtLogin nowMs user lowerEmail))
        syncIdentityIndexesFromUser env user
        loginAccount env request lowerEmail user
    else
      pure ⟨403,"Please verify both email addresses before logging in with the new email.",none,none,none⟩
  else loginAccount env request lowerEmail user

end

def login (request : LoginRequest) : UamAction Response := tryCatch (do
    let lowerEmail := env.identity.toLowerCase request.email
    match ← resolveEmailIdentity env lowerEmail emailKinds with
    | none => pure invalidCredentials
    | some resolved =>
      match ← query (.findById resolved.userId loginSelection) with
      | none => pure invalidCredentials
      | some user => loginResolved env request lowerEmail user)
    fun _ => pure ⟨500,"Login failed",none,none,none⟩

/-! ## Refresh and logout -/

structure RefreshCall where
  presented : String
  priorAccess : Option String
  issued : TokenPair

def revokePrior (accessToken : Option String) : UamAction Unit :=
  match accessToken.filter fun token => !token.isEmpty && env.verifyAccess token with
  | some token => revoke [token]
  | none => pure ()

def sessionEnded : Response := ⟨401,sessionInvalidated,none,none,none⟩
def refreshAccessToken (call : RefreshCall) : UamAction Response := tryCatch (do
    let nowMs ← .now
    if call.presented.isEmpty then pure ⟨401,"Refresh token is required",none,none,none⟩
    else match verifyRefreshToken env.session nowMs call.presented with
    | none => pure ⟨401,"Invalid refresh token",none,none,none⟩
    | some payload => do
      match ← query (.findById payload.userId withRefreshTokens) with
      | none => pure ⟨401,"User not found",none,none,none⟩
      | some user =>
        match findStoredRefreshToken env.session (user.values .refreshTokens) call.presented with
        | none =>
          invalidateAllSessions user.id.val
          pure sessionEnded
        | some _ =>
          revokePrior env call.priorAccess
          if ← rotateSessionTokens env user.id.val call.presented call.issued
              (versionOf (user.values .tokenVersion)) then
            pure ⟨200,"",none,some call.issued,none⟩
          else
            invalidateAllSessions user.id.val
            pure sessionEnded)
    fun _ => pure ⟨500,"Token refresh failed",none,none,none⟩

structure LogoutCall where
  (presented accessToken : Option String)

def logoutTarget (nowMs : Nat) (call : LogoutCall) : Option (String × String) :=
  (call.presented.filter fun token => !token.isEmpty).bind fun token =>
    (verifyRefreshToken env.session nowMs token).map fun payload =>
      (payload.userId,hashRefreshToken env.session token)

def logoutToken (nowMs : Nat) (call : LogoutCall) : UamAction Unit :=
  match call.presented.filter fun token => !token.isEmpty with
  | none => pure ()
  | some token =>
    match verifyRefreshToken env.session nowMs token with
    | none => pure ()
    | some payload => removeRefreshToken env payload.userId token

def logout (call : LogoutCall) : UamAction Response := tryCatch (do
    let nowMs ← .now
    logoutToken env nowMs call
    revokePrior env call.accessToken
    pure ⟨200,"Logged out successfully",none,none,none⟩)
    fun _ => pure ⟨500,"Logout failed",none,none,none⟩

/-! ## Password reset -/

structure ResetRequest where
  (formToken password : String)

def resetFilter (nowMs : Nat) (secret : String) : RowFilter :=
  ⟨.passwordResetToken,env.session.sha256Hex secret,.passwordResetExpires,nowMs,none⟩

def resetDocument (user : Document) (password : String) : Document := setAll user
    [(.password,.text password),(.passwordResetToken,.null),(.passwordResetExpires,.null),
      (.refreshTokens,.array []),(.activeAccessJtis,.array []),
      (.tokenVersion,.int (versionOf (user.values .tokenVersion) + 1))]

def invalidSession : Response := ⟨400,"Invalid or expired reset session",none,none,none⟩
def resetFailed : Response := ⟨500,"Password reset failed",none,none,none⟩
def resetAccount (request : ResetRequest) (secret : String) : UamAction Response := do
  let nowMs ← .now
  match ← query (.findOne (resetFilter env nowMs secret) withSessions) with
  | none => pure ⟨400,"Invalid or expired reset token",none,none,none⟩
  | some user =>
    if ← publishTokenVersion user.id.val (versionOf (user.values .tokenVersion) + 1) then
      revokeAllTrackedAccessJtis (itemsOf (user.values .activeAccessJtis))
      let _ ← query (.save (resetDocument user request.password))
      pure ⟨200,"Password reset successfully",none,none,none⟩
    else
      pure ⟨503,"Password reset could not invalidate active sessions. Please try again.",none,none,none⟩

def resetPassword (request : ResetRequest) : UamAction Response := tryCatch (do
    match ← consumeFormToken env.codes request.formToken .resetPassword with
    | none => pure invalidSession
    | some redeemed => resetAccount env request redeemed.secret) fun _ => pure resetFailed

/-! ## Requests on accounts -/

inductive AccountRequest where
  | login (request : LoginRequest)
  | refresh (call : RefreshCall)
  | logout (call : LogoutCall)
  | reset (request : ResetRequest)
  | invalidate (userId : String)

def handle : AccountRequest → UamAction Response
  | .login request => login env request
  | .refresh call => refreshAccessToken env call
  | .logout call => logout env call
  | .reset request => resetPassword env request
  | .invalidate userId => do
    invalidateAllSessions userId
    pure ⟨200,"",none,none,none⟩

abbrev AccountSystem (Index : Type) := UamSystem Index Response

def received {Index : Type} (requests : Index → AccountRequest) (arrivals : Index → Nat) (world : World) :
    AccountSystem Index :=
  .start world fun index => handle env (requests index) (arrivals index)

end

/-! ## A sample account -/

def sampleAccountEnv : AccountEnv where
  session := sampleSessionEnv
  identity := ⟨id,id,id⟩
  codes := ⟨fun _ => "",fun _ => none,fun _ => "",fun _ => none,fun _ => "",fun _ => none,id,true⟩
  verifyPassword _ _ := (false,false)
  verifyAccess _ := false
  midnight nowMs := nowMs - nowMs % 86400000
  maxDailyLogins := 50

def accountWorld (stored : List String) : World where
  users := accountTable stored
  index _ := none
  redis := .empty
  memory _ := none
  outbox := []

end Routiq.Uam.AccountRequests
