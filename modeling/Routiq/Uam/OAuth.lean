import Routiq.Uam.IdentityIndex
import Routiq.Uam.Session

/-! OAuth logins. A login resolves to an account through the identity index,
may take a local account over, and ends in an error or in a session. -/
namespace Routiq.Uam.OAuth
open Users IdentityIndex Session

structure OAuthEnv where
  identity : IdentityEnv
  session : SessionEnv

structure Accounts where
  users : UserTable
  index : Index

structure OAuthProfile where
  id : String
  (displayName username photo : Option String)
deriving DecidableEq

structure GitHubEmailEntry where
  email : String
  (primary verified : Bool)
deriving DecidableEq

def nonEmptyText (text : Option String) : Option String := text.filter fun value => !value.isEmpty

variable (env : OAuthEnv) (nowMs : Nat)

/-! ## The guards -/

/-- Null when safe, the error message when blocked. -/
def oauthProviderConflict (user : Document) (incoming : Provider) : Option String :=
  if user.values .provider ≠ some (.provider .localAccount) ∧
      user.values .provider ≠ some (.provider incoming) then
    some ("This email is registered with " ++
      ((providerOf (user.values .provider)).map Provider.name).getD "undefined" ++
      ". Use that provider to sign in.")
  else if user.values .provider = some (.provider .localAccount) ∧
      truthy (user.values .isEmailVerified) ∧ truthy (user.values .password) then
    some "This email uses password login. Sign in with your password, then link OAuth in settings."
  else none

def canOAuthTakeOverLocalAccount (user : Document) : Bool :=
  !truthy (user.values .password) || !truthy (user.values .isEmailVerified)

/-! ## Resolution -/

def findLinked (users : UserTable) (id : Option String) : Option Document :=
  (nonEmptyText id).bind fun id => findById users id none

/-- Whether the resolved account is handed back as it is, or goes through the
takeover check first. -/
inductive Route where
  | returned | checked
deriving DecidableEq

section
variable (accounts : Accounts) (email : String) (provider : Provider) (providerId : String)

/-- The lookups of `findUserForOAuth`: the provider id, then the email, where
an address given up in a migration belongs to its new owner once the migration
has expired. -/
def resolveOAuthUser : Option (Document × Route) :=
  match findLinked accounts.users (findUserIdByOAuth accounts.index provider providerId) with
  | some user => some (user,.returned)
  | none =>
      let normalized := normalizeEmail env.identity email
      match resolveEmailIdentity env.identity nowMs accounts.index normalized with
      | none => none
      | some resolved =>
          match findById accounts.users resolved.userId none with
          | none => none
          | some user =>
              if user.values .previousEmail = some (.text normalized) ∧
                  user.values .email ≠ some (.text normalized) then
                if isFuture nowMs (user.values .migrationExpiry) then some (user,.returned)
                else
                  let newOwner := findLinked accounts.users
                    (findUserIdByPrimaryEmail env.identity nowMs accounts.index normalized)
                  some (newOwner.getD user,.checked)
              else some (user,.checked)

/-! ## The strategies -/

/-- `save` and then `syncIdentityIndexesFromUser`; a failed save ends the
strategy with its error. -/
def saveAndSync (accounts : Accounts) (user : Document) : Except String Document × Accounts :=
  match user.save env.session.hashPassword nowMs accounts.users with
  | .error message => (.error message,accounts)
  | .ok (users,saved) =>
      (.ok saved,⟨users,syncIdentityIndexesFromUser env.identity nowMs saved accounts.index⟩)

def takeOver (user : Document) (provider : Provider) (providerId : String) : Document :=
  ((user.set .provider (.provider provider)).set .providerId (.text providerId)).set
    .isEmailVerified (.bool true)

def findUserForOAuth : Except String (Option Document) × Accounts :=
  match resolveOAuthUser env nowMs accounts email provider providerId with
  | none => (.ok none,accounts)
  | some (user,.returned) => (.ok (some user),accounts)
  | some (user,.checked) =>
      if user.values .provider = some (.provider .localAccount) then
        if canOAuthTakeOverLocalAccount user then
          let saved := saveAndSync env nowMs accounts (takeOver user provider providerId)
          (saved.1.map some,saved.2)
        else (.ok none,accounts)
      else (.ok (some user),accounts)

end

section
variable (user : Document) (provider : Provider)

/-- The avatar is refreshed when there is none or the account is the
provider's own. -/
def avatarChange (photo : Option String) : Option String :=
  (nonEmptyText photo).filter fun picture =>
    (!truthy (user.values .avatar) || user.values .provider = some (.provider provider)) &&
      user.values .avatar ≠ some (.text picture)

def nameChange (name : Option String) : Option String :=
  (nonEmptyText name).filter fun name =>
    user.values .provider = some (.provider provider) && user.values .displayName ≠ some (.text name)

end

def setText (user : Document) (field : Field) : Option String → Document
  | none => user
  | some text => user.set field (.text text)

def signIn (accounts : Accounts) (user : Document) (provider : Provider) (name photo : Option String) :
    Except String Document × Accounts :=
  match oauthProviderConflict user provider with
  | some conflict => (.error conflict,accounts)
  | none =>
      let avatar := avatarChange user provider photo
      let displayName := nameChange user provider name
      if avatar.isSome || displayName.isSome then
        saveAndSync env nowMs accounts
          (setText (setText user .avatar avatar) .displayName displayName)
      else (.ok user,accounts)

def localPart (email : String) : String := String.ofList (email.toList.takeWhile fun char => char ≠ '@')

def signUp (uuid : UserId) (accounts : Accounts) (email : String) (provider : Provider)
    (providerId : String) (name photo : Option String) : Except String Document × Accounts :=
  let data : Assignments
    | .email => some (.text email)
    | .displayName => some (.text ((nonEmptyText name).getD (localPart email)))
    | .avatar => photo.map Value.text
    | .provider => some (.provider provider)
    | .providerId => some (.text providerId)
    | .isEmailVerified => some (.bool true)
    | _ => none
  match create env.session.hashPassword nowMs uuid data accounts.users with
  | .error message => (.error message,accounts)
  | .ok (users,user) =>
      (.ok user,⟨users,syncIdentityIndexesFromUser env.identity nowMs user accounts.index⟩)

def oauthStrategy (provider : Provider) (noEmail : String) (email name : Option String)
    (profile : OAuthProfile) (uuid : UserId) (accounts : Accounts) : Except String Document × Accounts :=
  match nonEmptyText email with
  | none => (.error noEmail,accounts)
  | some email =>
      match findUserForOAuth env nowMs accounts email provider profile.id with
      | (.error message,accounts) => (.error message,accounts)
      | (.ok (some user),accounts) => signIn env nowMs accounts user provider name profile.photo
      | (.ok none,accounts) =>
          signUp env nowMs uuid accounts email provider profile.id name profile.photo

def fetchGitHubVerifiedPrimaryEmail (reply : Option (List GitHubEmailEntry)) : Option String :=
  reply.bind fun emails =>
    match nonEmptyText ((emails.find? fun entry => entry.primary && entry.verified).map
        GitHubEmailEntry.email) with
    | some email => some (env.identity.toLowerCase email)
    | none => (emails.find? fun entry => entry.verified).map fun entry =>
        env.identity.toLowerCase entry.email

def googleStrategy (profile : OAuthProfile) (email : Option String) :
    UserId → Accounts → Except String Document × Accounts :=
  oauthStrategy env nowMs .google "No email found in Google profile"
    (email.map env.identity.toLowerCase) profile.displayName profile

def githubStrategy (profile : OAuthProfile) (reply : Option (List GitHubEmailEntry)) :
    UserId → Accounts → Except String Document × Accounts :=
  oauthStrategy env nowMs .github "No verified email found in GitHub profile"
    (fetchGitHubVerifiedPrimaryEmail env reply)
    ((nonEmptyText profile.displayName).or profile.username) profile

inductive OAuthLogin where
  | google (profile : OAuthProfile) (email : Option String)
  | github (profile : OAuthProfile) (reply : Option (List GitHubEmailEntry))

def strategy : OAuthLogin → UserId → Accounts → Except String Document × Accounts
  | .google profile email => googleStrategy env nowMs profile email
  | .github profile reply => githubStrategy env nowMs profile reply

/-- A session for the user of a successful strategy, if the state came back. -/
def handleOAuthSuccess (state : String) (tokens : TokenPair) (user : Document) (accounts : Accounts) :
    Option TokenPair × Accounts :=
  if state.isEmpty then (none,accounts)
  else
    match persistSessionTokens env.session nowMs user.id.val tokens accounts.users with
    | .error _ => (none,accounts)
    | .ok users => (some tokens,{ accounts with users := users })

structure CallbackResult where
  verdict : Except String Document
  session : Option TokenPair
  accounts : Accounts

def oauthCallback (login : OAuthLogin) (uuid : UserId) (state : String) (tokens : TokenPair)
    (accounts : Accounts) : CallbackResult :=
  match strategy env nowMs login uuid accounts with
  | (.error message,accounts) => ⟨.error message,none,accounts⟩
  | (.ok user,accounts) =>
      let issued := handleOAuthSuccess env nowMs state tokens user accounts
      ⟨.ok user,issued.1,issued.2⟩

/-! ## What a login presents -/

def OAuthLogin.provider : OAuthLogin → Provider
  | .google _ _ => .google
  | .github _ _ => .github

theorem OAuthLogin.provider_foreign (login : OAuthLogin) : login.provider ≠ .localAccount := by
  cases login <;> exact nofun

def OAuthLogin.providerId : OAuthLogin → String
  | .google profile _ | .github profile _ => profile.id

def OAuthLogin.email : OAuthLogin → Option String
  | .google _ email => nonEmptyText (email.map env.identity.toLowerCase)
  | .github _ reply => nonEmptyText (fetchGitHubVerifiedPrimaryEmail env reply)

end Routiq.Uam.OAuth
