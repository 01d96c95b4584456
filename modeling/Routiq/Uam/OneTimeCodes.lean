import Routiq.Uam.Commands

/-! The one-time codes of the user service: email link codes, form tokens,
OAuth states and OAuth exchange codes. Each is kept in Redis, or in a map of
the process while Redis is not available, and is consumed by a read followed by
a deletion whose failure is ignored. -/
namespace Routiq.Uam.OneTimeCodes
open Commands

def codeBytes : Nat := 32
def linkTtlSecs : Nat := 86400
def formTtlSecs : Nat := 600
def codeTtlSecs : Nat := 120
def stateTtlSecs : Nat := 600

/-- `JSON.stringify` and `JSON.parse` of the records, the S256 transformation
of a code verifier, and whether the service runs in production. -/
structure CodeEnv where
  stringifyLink : LinkPayload → String
  parseLink : String → Option LinkPayload
  stringifyExchange : ExchangeRecord → String
  parseExchange : String → Option ExchangeRecord
  stringifyState : StateRecord → String
  parseState : String → Option StateRecord
  s256 : String → String
  production : Bool

variable (env : CodeEnv)

section
variable (code : String)

def linkKey : String := "uam:email-link:" ++ code
def formKey (formToken : String) : String := "uam:email-form:" ++ formToken
def exchangeKey : String := "uam:oauth:" ++ code
def stateKey (state : String) : String := "uam:oauth-state:" ++ state
def tooShort : Bool := code.length < codeBytes * 2

/-- Keep a code in Redis, or in memory where that is permitted. -/
def keepCode (memoryAllowed : Bool) (key text : String) (payload : CodePayload) (ttlSecs : Nat) :
    UamAction Unit := do
  if ← cacheSet key text (some ttlSecs) then pure ()
  else if memoryAllowed then memoryPut key payload ttlSecs
  else throw .rejected

def takeCode {Payload : Type} (key : String) (parse : String → Option Payload)
    (ofMemory : CodePayload → Option Payload) : UamAction (Option Payload) := do
  match ← cacheGet key with
  | some raw =>
    match raw.filter fun text => !text.isEmpty with
    | none => pure none
    | some text =>
      cacheDel key
      pure (parse text)
  | none =>
    let payload ← memoryTake key
    pure (payload.bind ofMemory)

def linkOf : CodePayload → Option LinkPayload
  | .link payload => some payload
  | _ => none

def exchangeOf : CodePayload → Option ExchangeRecord
  | .exchange record => some record
  | _ => none

def stateOf : CodePayload → Option StateRecord
  | .state record => some record
  | _ => none

/-! ## Creation -/

def createEmailLinkCode (payload : LinkPayload) : UamAction String := do
  keepCode (!env.production) (linkKey code) (env.stringifyLink payload) (.link payload) linkTtlSecs
  pure code

def createOAuthExchangeCode (record : ExchangeRecord) : UamAction String :=
  if record.state.isEmpty then throw .rejected
  else do
    keepCode (!env.production) (exchangeKey code) (env.stringifyExchange record) (.exchange record)
      codeTtlSecs
    pure code

end

def createOAuthState (state : String) (record : StateRecord) : UamAction String :=
  if record.codeChallenge.length < 43 || 128 < record.codeChallenge.length then throw .rejected
  else do
    keepCode (!env.production) (stateKey state) (env.stringifyState record) (.state record) stateTtlSecs
    pure state

/-! ## Consumption -/

structure RedeemedLink where
  kind : EmailLinkKind
  formToken : String
  metadata : Option (List (String × String))
deriving DecidableEq

structure RedeemedForm where
  secret : String
  metadata : Option (List (String × String))
deriving DecidableEq

def redeemEmailLinkCode (code formToken : String) : UamAction (Option RedeemedLink) :=
  if tooShort code then pure none
  else do
    match ← takeCode (linkKey code) env.parseLink linkOf with
    | none => pure none
    | some payload =>
      keepCode true (formKey formToken) (env.stringifyLink payload) (.link payload) formTtlSecs
      pure (some ⟨payload.kind,formToken,payload.metadata⟩)

def consumeFormToken (formToken : String) (expectedKind : EmailLinkKind) : UamAction (Option RedeemedForm) :=
  if tooShort formToken then pure none
  else do
    match ← takeCode (formKey formToken) env.parseLink linkOf with
    | none => pure none
    | some payload =>
      if payload.kind ≠ expectedKind then pure none
      else pure (some ⟨payload.secret,payload.metadata⟩)

def consumeOAuthExchangeCode (code state : String) : UamAction (Option IssuedTokens) :=
  if tooShort code || state.isEmpty then pure none
  else do
    match ← takeCode (exchangeKey code) env.parseExchange exchangeOf with
    | none => pure none
    | some record => if record.state ≠ state then pure none else pure (some record.tokens)

def verifyPkceChallenge (codeVerifier codeChallenge : String) : Bool := env.s256 codeVerifier = codeChallenge

def consumeOAuthState (state codeVerifier : String) : UamAction Bool :=
  if state.isEmpty || codeVerifier.isEmpty then pure false
  else do
    match ← takeCode (stateKey state) env.parseState stateOf with
    | none => pure false
    | some record => pure (verifyPkceChallenge env codeVerifier record.codeChallenge)

end Routiq.Uam.OneTimeCodes
