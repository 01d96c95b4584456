import Routiq.Uam.OAuth

/-! Which OAuth logins take an account over. The guard against taking over an
account with a password reads the password from a document whose projection
leaves it out, so only the uniqueness of provider identities is in the way. -/
namespace Routiq.Uam.Takeover
open Core.KeyedTable Users IdentityIndex Session Option OAuth

section

variable (env : OAuthEnv) (nowMs : Nat)

section
variable (login : OAuthLogin) (accounts : Accounts)

def resolveLogin : Option (Document × Route) :=
  (login.email env).bind fun email =>
    resolveOAuthUser env nowMs accounts email login.provider login.providerId

structure VerifiedPassword (row : Row) : Prop where
  provider : row.columns .provider = .provider .localAccount
  verified : row.columns .isEmailVerified = .bool true
  password : ∃ hash, row.columns .password = .text hash ∧ hash ≠ ""

/-- The login ends in an error, leaves the credentials of the account alone
and issues no session. -/
structure Refused (accounts : Accounts) (userId : String) (result : CallbackResult) : Prop where
  error : ∃ message, result.verdict = .error message
  unchanged : ∀ field ∈ [.provider,.providerId,.password],
    (result.accounts.users.lookup userId).map (fun row => row.columns field) =
      (accounts.users.lookup userId).map fun row => row.columns field
  noSession : result.session = none

def Linked : Prop :=
  (findLinked accounts.users (findUserIdByOAuth accounts.index login.provider login.providerId)).isSome = true

/-- The account found under the address of the login is giving it up in a
migration that has not expired. -/
def MigrationOpen : Prop :=
  ∃ email resolved owner, login.email env = some email ∧
    resolveEmailIdentity env.identity nowMs accounts.index (normalizeEmail env.identity email) =
      some resolved ∧
    accounts.users.lookup resolved.userId = some owner ∧
    owner.columns .previousEmail = .text (normalizeEmail env.identity email) ∧
    owner.columns .email ≠ .text (normalizeEmail env.identity email) ∧
    isFuture nowMs (some (owner.columns .migrationExpiry)) = true

def IdentityTaken (row : Row) : Prop :=
  ∃ other ∈ accounts.users.rows, other.id ≠ row.id ∧
    other.columns .provider = .provider login.provider ∧
    other.columns .providerId = .text login.providerId

end

variable {env nowMs} {accounts : Accounts} {users : UserTable} {user : Document}

theorem load_of_findById {id : String} (hfound : findById users id none = some user) :
    ∃ row, users.lookup user.id.val = some row ∧ user = .load defaultFields row := by
  obtain ⟨row,hrow,rfl⟩ := map_eq_some_iff.mp hfound
  have hid : row.id.val = id := (Table.mem_of_lookup hrow).2
  refine ⟨row,?_,rfl⟩
  change users.lookup row.id.val = some row
  rwa [hid]

theorem load_of_findLinked {id : Option String} (hfound : findLinked users id = some user) :
    ∃ row, users.lookup user.id.val = some row ∧ user = .load defaultFields row := by
  obtain ⟨found,-,hfound⟩ := bind_eq_some_iff.mp hfound
  exact load_of_findById hfound

variable {email : String} {provider : Provider} {route : Route}

theorem load_of_resolved {providerId : String}
    (hresolved : resolveOAuthUser env nowMs accounts email provider providerId = some (user,route)) :
    ∃ row, accounts.users.lookup user.id.val = some row ∧ user = .load defaultFields row := by
  unfold resolveOAuthUser at hresolved
  split at hresolved
  next found hfound =>
    cases hresolved
    exact load_of_findLinked hfound
  dsimp only at hresolved
  split at hresolved
  · contradiction
  split at hresolved
  · contradiction
  rename_i found hfound
  split at hresolved
  · split at hresolved
    · cases hresolved
      exact load_of_findById hfound
    · cases hresolved
      cases hnew : findLinked accounts.users (findUserIdByPrimaryEmail env.identity nowMs accounts.index
          (normalizeEmail env.identity email)) with
      | none => exact load_of_findById hfound
      | some newOwner => exact load_of_findLinked hnew
  · cases hresolved
    exact load_of_findById hfound

theorem password_unloaded (row : Row) : (Document.load defaultFields row).values .password = none :=
  rfl

theorem loaded (row : Row) {field : Field} (hfield : field ∈ defaultFields) :
    (Document.load defaultFields row).values field = some (row.columns field) := if_pos hfield

variable {row : Row}

theorem noConflict_loaded (hlocal : row.columns .provider = .provider .localAccount)
    (incoming : Provider) : oauthProviderConflict (Document.load defaultFields row) incoming = none := by
  have hprovider := loaded row (show Field.provider ∈ defaultFields by decide)
  simp [oauthProviderConflict,password_unloaded,hprovider,hlocal,truthy]

theorem noConflict_own {incoming : Provider} (hprovider : user.values .provider = some (.provider incoming))
    (hforeign : incoming ≠ .localAccount) : oauthProviderConflict user incoming = none := by
  simp [oauthProviderConflict,hprovider,hforeign]

def providerColumn (users : UserTable) (id : String) : Option Value :=
  (users.lookup id).map fun row => row.columns .provider

/-- Once an account is found whose identity columns were not written and which
raises no conflict, the login succeeds. -/
theorem signIn_succeeds {name photo : Option String} (hconflict : oauthProviderConflict user provider = none)
    (hmodified : ∀ field, user.modified field = false) :
    ∃ saved next, signIn env nowMs accounts user provider name photo = (.ok saved,next) ∧
      ∀ id, providerColumn next.users id = providerColumn accounts.users id := by
  simp only [signIn,hconflict]
  split
  · have hunmodified : ∀ field, field ≠ .avatar → field ≠ .displayName →
        (setText (setText user .avatar (avatarChange user provider photo)) .displayName
          (nameChange user provider name)).modified field = false := by
      intro field havatar hname
      unfold setText
      split <;> split <;> simp [Document.set,hmodified,havatar,hname]
    have hprovider := hunmodified .provider (by decide) (by decide)
    obtain ⟨next,saved,hsaved,hlookup⟩ := save_of_identityUnmodified env.session.hashPassword nowMs
      accounts.users (hunmodified .email (by decide) (by decide)) hprovider
      (hunmodified .providerId (by decide) (by decide))
    simp only [saveAndSync,hsaved]
    refine ⟨_,_,rfl,fun id => ?_⟩
    unfold providerColumn
    rw [hlookup]
    split
    next heq =>
      rw [heq,map_map]
      congr 1
      funext row
      simp [Row.assign,Document.assignments,Document.writeField,hprovider,jsonbFields]
    · rfl
  · exact ⟨_,_,rfl,fun _ => rfl⟩

section
variable (env : OAuthEnv) (nowMs : Nat) (row : Row) (provider : Provider) (providerId : String)

def takenOver : Row :=
  row.assign ((takeOver (.load defaultFields row) provider providerId).assignments
    env.session.hashPassword nowMs)

theorem takenOver_columns :
    (takenOver env nowMs row provider providerId).columns .provider = .provider provider ∧
      (takenOver env nowMs row provider providerId).columns .providerId = .text providerId ∧
      (takenOver env nowMs row provider providerId).columns .email = row.columns .email := by
  simp [takenOver,takeOver,Row.assign,Document.assignments,Document.writeField,Document.set,
    Document.load,Values.put,storedValue,columnValue,jsonbFields]

end

theorem sameIdentity_takenOver (env : OAuthEnv) (nowMs : Nat) {other : Row} (hrow : row ∈ accounts.users.rows)
    (hother : other ∈ accounts.users.rows) (hne : other.id ≠ row.id) (provider : Provider)
    (providerId : String) : sameIdentity (takenOver env nowMs row provider providerId) other = true ↔
      other.columns .provider = .provider provider ∧ other.columns .providerId = .text providerId := by
  obtain ⟨hprovider,hproviderId,hemail⟩ := takenOver_columns env nowMs row provider providerId
  have hapart : sameIdentity row other = false :=
    (Table.apart_of_mem hrow hother (fun heq => hne (Subtype.ext heq.symm))).2
  have hemails : ¬(row.columns .email ≠ .null ∧ row.columns .email = other.columns .email) := by
    intro hsame
    simp [sameIdentity,hsame] at hapart
    exact hsame.1 (hsame.2.trans hapart.1)
  unfold sameIdentity
  rw [hprovider,hproviderId,hemail]
  simp only [Bool.or_eq_true,Bool.and_eq_true,decide_eq_true_eq,hemails,false_or]
  constructor
  · rintro ⟨⟨-,hsameProvider⟩,hsameId⟩
    exact ⟨hsameProvider.symm,hsameId.symm⟩
  · rintro ⟨hsameProvider,hsameId⟩
    exact ⟨⟨⟨by simp,by simp⟩,hsameProvider.symm⟩,hsameId.symm⟩

theorem strategy_of_email (nowMs : Nat) {login : OAuthLogin} (hemail : login.email env = some email) :
    ∃ name photo, ∀ uuid accounts, strategy env nowMs login uuid accounts =
      match findUserForOAuth env nowMs accounts email login.provider login.providerId with
      | (.error message,accounts) => (.error message,accounts)
      | (.ok (some user),accounts) => signIn env nowMs accounts user login.provider name photo
      | (.ok none,accounts) =>
          signUp env nowMs uuid accounts email login.provider login.providerId name photo := by
  cases login with
  | google profile address =>
    refine ⟨profile.displayName,profile.photo,?_⟩
    intro uuid accounts
    simp only [strategy,googleStrategy,oauthStrategy]
    rw [show nonEmptyText (address.map env.identity.toLowerCase) = some email from hemail]
    rfl
  | github profile reply =>
    refine ⟨(nonEmptyText profile.displayName).or profile.username,profile.photo,?_⟩
    intro uuid accounts
    simp only [strategy,githubStrategy,oauthStrategy]
    rw [show nonEmptyText (fetchGitHubVerifiedPrimaryEmail env reply) = some email from hemail]
    rfl

section

variable {login : OAuthLogin} {user : Document} {row : Row}

theorem resolveLogin_eq_some (hresolved : resolveLogin env nowMs login accounts = some (user,route)) :
    ∃ email, login.email env = some email ∧
      resolveOAuthUser env nowMs accounts email login.provider login.providerId = some (user,route) :=
  bind_eq_some_iff.mp hresolved

/-- The lookups of a migration are functions, so it is one of the account the
address leads to. -/
theorem migrationOpen_iff {resolved : ResolvedEmailIdentity} {owner : Row}
    (hemail : login.email env = some email)
    (hidentity : resolveEmailIdentity env.identity nowMs accounts.index
      (normalizeEmail env.identity email) = some resolved)
    (howner : accounts.users.lookup resolved.userId = some owner) : MigrationOpen env nowMs login accounts ↔
      (owner.columns .previousEmail = .text (normalizeEmail env.identity email) ∧
        owner.columns .email ≠ .text (normalizeEmail env.identity email)) ∧
        isFuture nowMs (some (owner.columns .migrationExpiry)) = true := by
  constructor
  · rintro ⟨email',resolved',owner',hemail',hidentity',howner',hprevious,hcurrent,hfuture⟩
    obtain rfl := some.inj (hemail.symm.trans hemail')
    obtain rfl := some.inj (hidentity.symm.trans hidentity')
    obtain rfl := some.inj (howner.symm.trans howner')
    exact ⟨⟨hprevious,hcurrent⟩,hfuture⟩
  · rintro ⟨⟨hprevious,hcurrent⟩,hfuture⟩
    exact ⟨email,resolved,owner,hemail,hidentity,howner,hprevious,hcurrent,hfuture⟩

/-- Which way a login goes is settled by the two states that bypass the
takeover check. -/
theorem returned_iff (hresolved : resolveLogin env nowMs login accounts = some (user,route)) :
    route = .returned ↔ Linked login accounts ∨ MigrationOpen env nowMs login accounts := by
  obtain ⟨email,hemail,hlookup⟩ := resolveLogin_eq_some hresolved
  unfold resolveOAuthUser at hlookup
  cases hlinked : findLinked accounts.users
      (findUserIdByOAuth accounts.index login.provider login.providerId) with
  | some found =>
    rw [hlinked] at hlookup
    cases hlookup
    simp [Linked,hlinked]
  | none =>
    have hunlinked : ¬Linked login accounts := by simp [Linked,hlinked]
    rw [or_iff_right hunlinked]
    simp only [hlinked] at hlookup
    cases hidentity : resolveEmailIdentity env.identity nowMs accounts.index
        (normalizeEmail env.identity email) with
    | none =>
      rw [hidentity] at hlookup
      contradiction
    | some resolved =>
      simp only [hidentity] at hlookup
      cases howner : accounts.users.lookup resolved.userId with
      | none =>
        simp only [findById,howner,map_none] at hlookup
        contradiction
      | some owner =>
        rw [migrationOpen_iff hemail hidentity howner]
        simp only [findById,howner,map_some,resolveFields,
          loaded owner (show Field.previousEmail ∈ defaultFields by decide),
          loaded owner (show Field.email ∈ defaultFields by decide),
          loaded owner (show Field.migrationExpiry ∈ defaultFields by decide),
          some.injEq,ne_eq] at hlookup
        split at hlookup
        next hmigrated =>
          split at hlookup
          next hfuture =>
            cases hlookup
            exact iff_of_true rfl ⟨hmigrated,hfuture⟩
          next hpast =>
            cases hlookup
            exact iff_of_false (by decide) fun hopen => hpast hopen.2
        next hsettled =>
          cases hlookup
          exact iff_of_false (by decide) fun hopen => hsettled hopen.1

theorem strategy_of_returned (hresolved : resolveLogin env nowMs login accounts = some (user,.returned))
    (hrow : accounts.users.lookup user.id.val = some row)
    (hlocal : row.columns .provider = .provider .localAccount) (uuid : UserId) :
    ∃ saved next, strategy env nowMs login uuid accounts = (.ok saved,next) := by
  obtain ⟨email,hemail,hlookup⟩ := resolveLogin_eq_some hresolved
  obtain ⟨name,photo,hstrategy⟩ := strategy_of_email nowMs hemail
  obtain ⟨found,hfound,huser⟩ := load_of_resolved hlookup
  obtain rfl := some.inj (hrow.symm.trans hfound)
  rw [hstrategy]
  simp only [findUserForOAuth,hlookup,huser]
  obtain ⟨saved,next,hsaved,-⟩ :=
    signIn_succeeds (noConflict_loaded hlocal login.provider) (fun _ => rfl)
  exact ⟨saved,next,hsaved⟩

/-- Past the check, the login fails and changes nothing when the identity is
taken; otherwise the account is taken over and signed in. -/
theorem strategy_of_checked (hresolved : resolveLogin env nowMs login accounts = some (user,.checked))
    (hrow : accounts.users.lookup user.id.val = some row)
    (hlocal : row.columns .provider = .provider .localAccount) (uuid : UserId) :
    IdentityTaken login accounts row ∧
        strategy env nowMs login uuid accounts = (.error duplicateKeyError,accounts) ∨
      ¬IdentityTaken login accounts row ∧
        ∃ saved next, strategy env nowMs login uuid accounts = (.ok saved,next) ∧
          providerColumn next.users user.id.val = some (.provider login.provider) := by
  obtain ⟨email,hemail,hlookup⟩ := resolveLogin_eq_some hresolved
  obtain ⟨name,photo,hstrategy⟩ := strategy_of_email nowMs hemail
  obtain ⟨found,hfound,rfl⟩ := load_of_resolved hlookup
  obtain rfl := some.inj (hrow.symm.trans hfound)
  have hcollision : ∀ other ∈ accounts.users.rows, other.id ≠ row.id →
      (sameIdentity (takenOver env nowMs row login.provider login.providerId) other = true ↔
        other.columns .provider = .provider login.provider ∧
          other.columns .providerId = .text login.providerId) := by
    intro other hother hne
    exact sameIdentity_takenOver env nowMs (Table.mem_of_lookup hrow).1 hother hne _ _
  have hstored : accounts.users.lookup
      (takeOver (Document.load defaultFields row) login.provider login.providerId).id.val = some row := hrow
  have hlocal' := loaded row (show .provider ∈ defaultFields by decide)
  rw [hlocal] at hlocal'
  simp only [hstrategy,findUserForOAuth,hlookup,hlocal',canOAuthTakeOverLocalAccount,password_unloaded,truthy,
    ↓reduceIte]
  rcases save_cases env.session.hashPassword nowMs hstored with
    ⟨hfailed,other,hother,hne,hcollides⟩ | ⟨users,hsaved,hlookup,hclear⟩
  · left
    refine ⟨⟨other,hother,hne,(hcollision other hother hne).mp hcollides⟩,?_⟩
    simp only [saveAndSync,hfailed]
    rfl
  · right
    constructor
    · rintro ⟨other,hother,hne,hidentity⟩
      have hcollides := (hcollision other hother hne).mpr hidentity
      exact absurd (hcollides.symm.trans (hclear other hother hne)) (by decide)
    · have hcolumn := (takenOver_columns env nowMs row login.provider login.providerId).1
      have hprovider : (Document.load allFields (takenOver env nowMs row login.provider
          login.providerId)).values .provider = some (.provider login.provider) := congrArg some hcolumn
      simp only [saveAndSync,hsaved]
      obtain ⟨saved,next,hsignedIn,hkept⟩ := signIn_succeeds
        (noConflict_own hprovider login.provider_foreign) (fun _ => rfl)
      refine ⟨saved,next,hsignedIn,?_⟩
      have htaken := hlookup (Document.load defaultFields row).id.val
      rw [if_pos (show (Document.load defaultFields row).id.val = (takeOver (Document.load defaultFields
        row) login.provider login.providerId).id.val from rfl)] at htaken
      rw [hkept,providerColumn,htaken]
      exact congrArg some hcolumn

end

/-! ## What a callback leaves behind -/

section

variable {login : OAuthLogin} {uuid : UserId} {saved : Document} {next : Accounts}

section
variable (hstrategy : strategy env nowMs login uuid accounts = (.ok saved,next))
include hstrategy

theorem not_refused_of_ok (userId state : String) (tokens : TokenPair) :
    ¬Refused accounts userId (oauthCallback env nowMs login uuid state tokens accounts) := by
  rintro ⟨⟨message,hmessage⟩,-,-⟩
  simp [oauthCallback,hstrategy] at hmessage

end

end

/-- A login that resolves to a verified account with a password is refused
only by the uniqueness of provider identities: when it reaches the takeover
check and another row has the identity already. -/
theorem oauth_refused_iff_identityTaken {login : OAuthLogin} {user : Document} {route : Route} {row : Row}
    (hresolved : resolveLogin env nowMs login accounts = some (user,route))
    (hrow : accounts.users.lookup user.id.val = some row) (hverified : VerifiedPassword row) (uuid : UserId)
    (state : String) (tokens : TokenPair) :
    Refused accounts user.id.val (oauthCallback env nowMs login uuid state tokens accounts) ↔
      ¬Linked login accounts ∧ ¬MigrationOpen env nowMs login accounts ∧
        IdentityTaken login accounts row := by
  have hreturned := returned_iff hresolved
  cases route with
  | returned =>
    obtain ⟨saved,next,hstrategy⟩ := strategy_of_returned hresolved hrow hverified.provider uuid
    refine iff_of_false (not_refused_of_ok hstrategy _ _ _) ?_
    rintro ⟨hunlinked,hclosed,-⟩
    exact (hreturned.mp rfl).elim hunlinked hclosed
  | checked =>
    have hchecked : ¬(Linked login accounts ∨ MigrationOpen env nowMs login accounts) :=
      fun hbypass => absurd (hreturned.mpr hbypass) (by decide)
    rcases strategy_of_checked hresolved hrow hverified.provider uuid with
      ⟨htaken,hstrategy⟩ | ⟨huntaken,saved,next,hstrategy,-⟩
    · refine iff_of_true ?_ ⟨fun h => hchecked (.inl h),fun h => hchecked (.inr h),htaken⟩
      simp only [oauthCallback,hstrategy]
      exact ⟨⟨_,rfl⟩,fun _ _ => rfl,rfl⟩
    · exact iff_of_false (not_refused_of_ok hstrategy _ _ _) fun h => huntaken h.2.2

end

/-! ## A Google login with the address of a password account -/

/-- The address is in lower case and unpadded; its digest is under the
default secret. -/
def sampleOAuthEnv : OAuthEnv where
  identity :=
    { trim := fun text => text
      toLowerCase := fun text => text
      hmacHex := fun text =>
        if text = "a@example.org" then
          "c569ba63c0e4886db865c56b53a35f00fd885f91158113b08494b649fb3d9f97"
        else "" }
  session := sampleSessionEnv

def passwordRow : Row where
  id := sampleUserId
  columns := fun field =>
    match field with
    | .email => .text "a@example.org"
    | .password => .text "$2b$12$abcdefghijklmnopqrstuuFDJRuYeKkCzo3Wy7h8SxhBSHBAHiPK2"
    | .isEmailVerified => .bool true
    | field => defaultColumns 0 field

def googleRow : Row where
  id := otherUserId
  columns := fun field =>
    match field with
    | .email => .text "b@example.org"
    | .isEmailVerified => .bool true
    | .provider => .provider .google
    | .providerId => .text "1001"
    | field => defaultColumns 0 field

def sampleIndex : Index := fun key =>
  if key = emailKey sampleOAuthEnv.identity .primaryEmail "a@example.org" then
    some ⟨.primaryEmail,"u1",none,some true,none⟩
  else none

def passwordAccounts : Accounts := ⟨⟨[passwordRow],List.pairwise_singleton _ _⟩,sampleIndex⟩
def rivalAccounts : Accounts := ⟨⟨[passwordRow,googleRow],by decide⟩,sampleIndex⟩
def googleLogin : OAuthLogin := .google ⟨"1001",some "A",none,none⟩ (some "a@example.org")
def googleTokens : TokenPair := ⟨sampleToken 0,some "00000000-0000-4000-8000-000000000101"⟩

theorem verifiedPassword_passwordRow : VerifiedPassword passwordRow where
  provider := rfl
  verified := rfl
  password := ⟨_,rfl,by decide⟩

theorem oauthKey_ne_primaryKey (env : IdentityEnv) (provider : Provider) (providerId email : String) :
    oauthKey provider providerId ≠ emailKey env .primaryEmail email := by
  intro heq
  have hhead := congrArg (fun key => key.toList.head?) heq
  simp [oauthKey,emailKey,IndexKind.name] at hhead

theorem resolveEmailIdentity_sample : resolveEmailIdentity sampleOAuthEnv.identity 0 sampleIndex
    "a@example.org" = some ⟨"u1",.primaryEmail,some true⟩ := by
  have hentry : sampleIndex (emailKey sampleOAuthEnv.identity .primaryEmail "a@example.org") =
      some ⟨.primaryEmail,"u1",none,some true,none⟩ := if_pos rfl
  have hnormal : normalizeEmail sampleOAuthEnv.identity "a@example.org" = "a@example.org" := rfl
  simp [resolveEmailIdentity,emailKinds,activeEntry,hnormal,hentry,isActive]

theorem resolveLogin_sample {users : UserTable} (hrow : users.lookup "u1" = some passwordRow) :
    resolveLogin sampleOAuthEnv 0 googleLogin ⟨users,sampleIndex⟩ =
      some (Document.load defaultFields passwordRow,.checked) := by
  have hemail : googleLogin.email sampleOAuthEnv = some "a@example.org" := by decide
  have hunlinked : sampleIndex (oauthKey googleLogin.provider googleLogin.providerId) = none :=
    if_neg (oauthKey_ne_primaryKey _ _ _ _)
  have hnormal : normalizeEmail sampleOAuthEnv.identity "a@example.org" = "a@example.org" := rfl
  have hunmoved : (Document.load defaultFields passwordRow).values .previousEmail ≠
      some (.text "a@example.org") := by decide
  simp [resolveLogin,hemail,resolveOAuthUser,findUserIdByOAuth,hunlinked,findLinked,nonEmptyText,
    hnormal,resolveEmailIdentity_sample,findById,hrow,resolveFields,hunmoved]

theorem oauth_refused_iff_rivalIdentity :
    VerifiedPassword passwordRow ∧ rivalAccounts.users.lookup "u1" = some passwordRow ∧
      Refused rivalAccounts "u1"
        (oauthCallback sampleOAuthEnv 0 googleLogin ⟨"u3",by decide⟩ "state" googleTokens rivalAccounts) := by
  have hrow : rivalAccounts.users.lookup "u1" = some passwordRow := rfl
  have hresolved := resolveLogin_sample hrow
  have hchecked := mt (returned_iff hresolved).mpr (by decide)
  have htaken : IdentityTaken googleLogin rivalAccounts passwordRow :=
    ⟨googleRow,List.mem_cons_of_mem _ (List.mem_singleton_self _),by decide,rfl,rfl⟩
  refine ⟨verifiedPassword_passwordRow,hrow,?_⟩
  exact (oauth_refused_iff_identityTaken hresolved hrow verifiedPassword_passwordRow ⟨"u3",by decide⟩
    "state" googleTokens).mpr ⟨fun h => hchecked (.inl h),fun h => hchecked (.inr h),htaken⟩

/-- A Google login with the address of a verified password account: the row
becomes a Google account, and the login ends in a session. -/
theorem password_account_taken_over :
    VerifiedPassword passwordRow ∧ passwordAccounts.users.lookup "u1" = some passwordRow ∧
      resolveLogin sampleOAuthEnv 0 googleLogin passwordAccounts =
        some (.load defaultFields passwordRow,.checked) ∧
      ∃ result, oauthCallback sampleOAuthEnv 0 googleLogin ⟨"u3",by decide⟩ "state" googleTokens
          passwordAccounts = result ∧
        providerColumn result.accounts.users "u1" = some (.provider .google) ∧
        result.session = some googleTokens ∧ ¬Refused passwordAccounts "u1" result := by
  have hrow : passwordAccounts.users.lookup "u1" = some passwordRow := rfl
  have hresolved := resolveLogin_sample hrow
  have huntaken : ¬IdentityTaken googleLogin passwordAccounts passwordRow := by
    rintro ⟨other,hother,hne,-⟩
    exact hne (congrArg Row.id (List.mem_singleton.mp hother))
  obtain ⟨-,saved,next,hstrategy,-⟩ := (strategy_of_checked hresolved hrow
    verifiedPassword_passwordRow.provider ⟨"u3",by decide⟩).resolve_left fun h => huntaken h.1
  exact ⟨verifiedPassword_passwordRow,hrow,hresolved,_,rfl,by decide +kernel,by decide +kernel,
    not_refused_of_ok hstrategy _ _ _⟩

end Routiq.Uam.Takeover
