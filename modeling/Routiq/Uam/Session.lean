import Routiq.Uam.Users

/-! Refresh tokens of the user service. An account stores the hashes of its
live refresh tokens; a login adds one, a refresh exchanges one, a logout drops
one, and a presented token that is not stored ends every session. A refresh
request is given statement by statement, as the database sees it. -/
namespace Routiq.Uam.Session
open Core.KeyedTable Users Option

def maxRefresh : Int := 5
def maxJtis : Int := 20

inductive TokenType where
  | access | refresh
deriving DecidableEq

/-- The claims of a token that its verification reads; `exp` is in seconds. -/
structure TokenPayload where
  userId : String
  type : TokenType
  exp : Option Nat
deriving DecidableEq

/-- The hash of stored tokens, the hash of passwords, and the claims of a token
whose algorithm, signature, issuer and audience are those of refresh tokens. -/
structure SessionEnv where
  (sha256Hex hashPassword : String → String)
  decodeRefresh : String → Option TokenPayload

structure TokenPair where
  refreshToken : String
  jti : Option String
deriving DecidableEq

section

variable (env : SessionEnv)

def hashRefreshToken (token : String) : String := env.sha256Hex token

def findStoredRefreshToken (stored : Option Value) (presented : String) : Option String :=
  if hashRefreshToken env presented ∈ itemsOf stored then some (hashRefreshToken env presented)
  else none

def TokenPayload.expired (payload : TokenPayload) (nowMs : Nat) : Bool :=
  payload.exp.any fun exp => exp ≤ nowMs / 1000

def verifyRefreshToken (nowMs : Nat) (token : String) : Option TokenPayload :=
  match env.decodeRefresh token with
  | none => none
  | some payload =>
      if payload.expired nowMs then none
      else if payload.type ≠ .refresh then none
      else some payload

def withRefreshTokens : Option Selection := some ⟨[.refreshTokens],[]⟩
def withSessions : Option Selection := some ⟨[.refreshTokens,.activeAccessJtis],[]⟩

def trackPair (tokens : TokenPair) : List (Field × PushSpec) :=
  (.refreshTokens,.each [hashRefreshToken env tokens.refreshToken] (some (-maxRefresh))) ::
    match tokens.jti.filter fun jti => !jti.isEmpty with
    | some jti => [(.activeAccessJtis,.each [jti] (some (-maxJtis)))]
    | none => []

def persistUpdate (tokens : TokenPair) : UpdateDoc := { push := trackPair env tokens }

def rotateUpdate (storedKey : String) (tokens : TokenPair) : UpdateDoc :=
  { pull := [(.refreshTokens,storedKey)], push := trackPair env tokens }

def persistSessionTokens (nowMs : Nat) (userId : String) (tokens : TokenPair) (users : UserTable) :
    Except String UserTable :=
  (applyUpdate nowMs users userId (persistUpdate env tokens)).map Prod.fst

def removeRefreshToken (nowMs : Nat) (userId presented : String) (users : UserTable) :
    Except String UserTable :=
  match findById users userId withRefreshTokens with
  | none => .ok users
  | some user =>
      match findStoredRefreshToken env (user.values .refreshTokens) presented with
      | none => .ok users
      | some storedKey =>
          let remaining := (itemsOf (user.values .refreshTokens)).filter fun token => token ≠ storedKey
          ((user.set .refreshTokens (.array remaining)).save env.hashPassword nowMs users).map Prod.fst

/-- A token that does not verify, an expired one in particular, is left alone. -/
def logout (nowMs : Nat) (presented : String) (users : UserTable) : Except String UserTable :=
  if presented.isEmpty then .ok users
  else
  match verifyRefreshToken env nowMs presented with
  | none => .ok users
  | some payload => removeRefreshToken env nowMs payload.userId presented users

def clearedSessions (row : Row) : Document :=
  let user := Document.load (resolveFields withSessions) row
  ((user.set .refreshTokens (.array [])).set .activeAccessJtis (.array [])).set .tokenVersion
    (incremented 1 (user.values .tokenVersion))

/-! ## The refresh request -/

structure RefreshRequest where
  presented : String
  issued : TokenPair

inductive Phase where
  | received
  /-- The controller has seen the presented token among the stored ones. -/
  | checked (userId : String)
  /-- `rotateSessionTokens` has seen it again and is about to update. -/
  | rotating (userId storedKey : String)
  /-- `invalidateAllSessions` is about to read the account. -/
  | invalidating (userId : String)
  /-- It has read the account and is about to save it without sessions. -/
  | clearing (row : Row)
  | succeeded
  | refused (message : String)
  | failed (message : String)

instance decidableSucceeded (phase : Phase) : Decidable (phase = .succeeded) :=
  match phase with
  | .succeeded => isTrue rfl
  | .received | .checked _ | .rotating _ _ | .invalidating _ | .clearing _ | .refused _ | .failed _ =>
      isFalse (by simp)

instance decidableRefused (phase : Phase) (message : String) : Decidable (phase = .refused message) :=
  match phase with
  | .refused other => decidable_of_iff (other = message) (by simp)
  | .received | .checked _ | .rotating _ _ | .invalidating _ | .clearing _ | .succeeded | .failed _ =>
      isFalse (by simp)

def sessionInvalidated : String := "Session invalidated — please sign in again"

section
variable (nowMs : Nat) (request : RefreshRequest) (users : UserTable)

def advance : Phase → UserTable × Phase
  | .received =>
      if request.presented.isEmpty then (users,.refused "Refresh token is required")
      else
      match verifyRefreshToken env nowMs request.presented with
      | none => (users,.refused "Invalid refresh token")
      | some payload =>
          match findById users payload.userId withRefreshTokens with
          | none => (users,.refused "User not found")
          | some user =>
              match findStoredRefreshToken env (user.values .refreshTokens) request.presented with
              | none => (users,.invalidating user.id.val)
              | some _ => (users,.checked user.id.val)
  | .checked userId =>
      match findStoredRefreshToken env
          ((findById users userId withRefreshTokens).bind fun user => user.values .refreshTokens)
          request.presented with
      | none => (users,.invalidating userId)
      | some storedKey => (users,.rotating userId storedKey)
  | .rotating userId storedKey =>
      match applyUpdate nowMs users userId (rotateUpdate env storedKey request.issued) with
      | .error message => (users,.failed message)
      | .ok (users,none) => (users,.invalidating userId)
      | .ok (users,some _) => (users,.succeeded)
  | .invalidating userId =>
      match users.lookup userId with
      | none => (users,.refused sessionInvalidated)
      | some row => (users,.clearing row)
  | .clearing row =>
      match (clearedSessions row).save env.hashPassword nowMs users with
      | .error message => (users,.failed message)
      | .ok (users,_) => (users,.refused sessionInvalidated)
  | .succeeded => (users,.succeeded)
  | .refused message => (users,.refused message)
  | .failed message => (users,.failed message)

def advanceMany : Nat → UserTable × Phase → UserTable × Phase
  | 0, state => state
  | count + 1, state => advanceMany count (advance env nowMs request state.1 state.2)

def refreshAccessToken : UserTable × Phase := advanceMany env nowMs request 5 (users,.received)

end

/-! ## The stored hashes -/

def storedHashes (users : UserTable) (userId : String) : List String :=
  itemsOf ((users.lookup userId).map fun row => row.columns .refreshTokens)

variable {users : UserTable} {userId : String}

theorem storedHashes_of_lookup {row : Row} (hrow : users.lookup userId = some row) :
    storedHashes users userId = itemsOf (some (row.columns .refreshTokens)) := by
  simp [storedHashes,hrow]

theorem storedHashes_of_lookups {next : UserTable} {change : Row → Row}
    (hnext : ∀ other, next.lookup other =
      if other = userId then (users.lookup userId).map change else users.lookup other)
    (other : String) : storedHashes next other =
      if other = userId then
        itemsOf ((users.lookup userId).map fun row => (change row).columns .refreshTokens)
      else storedHashes users other := by
  unfold storedHashes
  rw [hnext]
  split
  · rw [map_map]
    rfl
  · rfl

def pushedHashes (stored : List String) (newHash : String) : List String :=
  sliceItems (stored ++ [newHash]) (-maxRefresh)

def rotatedHashes (stored : List String) (storedKey newHash : String) : List String :=
  (pushedHashes stored newHash).filter fun token => token ≠ storedKey

variable (tokens : TokenPair)

theorem changed_trackPair (field : Field) (hfield : field ∈ (trackPair env tokens).map Prod.fst) :
    field = .refreshTokens ∨ field = .activeAccessJtis := by
  unfold trackPair at hfield
  split at hfield <;> simp_all

theorem changed_persistUpdate (field : Field) (hfield : field ∈ (persistUpdate env tokens).changed) :
    field = .refreshTokens ∨ field = .activeAccessJtis := by
  simp only [UpdateDoc.changed,persistUpdate,List.map_nil,List.append_nil] at hfield
  exact changed_trackPair env tokens field hfield

theorem changed_rotateUpdate (storedKey : String) (tokens : TokenPair) (field : Field)
    (hfield : field ∈ (rotateUpdate env storedKey tokens).changed) :
    field = .refreshTokens ∨ field = .activeAccessJtis := by
  simp only [UpdateDoc.changed,rotateUpdate,List.map_nil,List.append_nil,List.mem_append,
    List.map_cons,List.mem_singleton] at hfield
  rcases hfield with hpushed | hpulled
  · exact changed_trackPair env tokens field hpushed
  · exact Or.inl hpulled

variable (nowMs : Nat)

section
variable {users : UserTable} {userId : String} {row : Row}

def Rehashed (users next : UserTable) (userId : String) (f : List String → List String) : Prop :=
  (next.lookup userId).isSome = true ∧ ∀ other, storedHashes next other =
    if other = userId then f (storedHashes users userId) else storedHashes users other

theorem applyUpdate_hashes {update : UpdateDoc} {f : List String → List String}
    (hrow : users.lookup userId = some row)
    (hchanged : ∀ field ∈ update.changed, field = .refreshTokens ∨ field = .activeAccessJtis)
    (htouched : .refreshTokens ∈ update.changed)
    (happly : ∀ values : Values, update.apply values .refreshTokens =
      some (.array (f (itemsOf (values .refreshTokens))))) :
    ∃ next document, applyUpdate nowMs users userId update = .ok (next,some document) ∧
      Rehashed users next userId f := by
  have hquiet : ∀ field ∈ update.changed, field ≠ .email ∧ field ≠ .provider ∧ field ≠ .providerId := by
    intro field hfield
    rcases hchanged field hfield with rfl | rfl <;> decide
  obtain ⟨next,hok,hlookup⟩ := applyUpdate_of_quiet nowMs users userId hquiet
  have hself := hlookup userId
  rw [if_pos rfl,hrow,map_some] at hself
  refine ⟨next,_,by rw [hok,hself]; rfl,by rw [hself]; rfl,?_⟩
  have hassigned : update.assignments nowMs row .refreshTokens =
      some (.array (f (itemsOf (some (row.columns .refreshTokens))))) := by
    have hvalue := happly fun field => some (row.columns field)
    simp [UpdateDoc.assignments,htouched,hvalue,columnValue,jsonbFields]
  intro other
  rw [storedHashes_of_lookups hlookup,storedHashes_of_lookup hrow,hrow]
  simp only [map_some,Row.assign,hassigned,getD_some]
  rfl

theorem applyUpdate_rotate (nowMs : Nat) (hrow : users.lookup userId = some row) (storedKey : String)
    (tokens : TokenPair) :
    ∃ next document, applyUpdate nowMs users userId (rotateUpdate env storedKey tokens) =
        .ok (next,some document) ∧ Rehashed users next userId fun stored =>
          rotatedHashes stored storedKey (hashRefreshToken env tokens.refreshToken) := by
  have htouched : .refreshTokens ∈ (rotateUpdate env storedKey tokens).changed := by
    simp [UpdateDoc.changed,rotateUpdate,trackPair]
  refine applyUpdate_hashes nowMs hrow (changed_rotateUpdate env storedKey tokens) htouched fun values => ?_
  unfold UpdateDoc.apply rotateUpdate trackPair
  split <;> simp [Values.put,PushSpec.apply,rotatedHashes,pushedHashes,itemsOf]

theorem applyUpdate_persist (nowMs : Nat) (hrow : users.lookup userId = some row) (tokens : TokenPair) :
    ∃ next document, applyUpdate nowMs users userId (persistUpdate env tokens) = .ok (next,some document) ∧
      Rehashed users next userId fun stored =>
        pushedHashes stored (hashRefreshToken env tokens.refreshToken) := by
  have htouched : .refreshTokens ∈ (persistUpdate env tokens).changed := by
    simp [UpdateDoc.changed,persistUpdate,trackPair]
  refine applyUpdate_hashes nowMs hrow (changed_persistUpdate env tokens) htouched fun values => ?_
  unfold UpdateDoc.apply persistUpdate trackPair
  split <;> simp [Values.put,PushSpec.apply,pushedHashes]

end

theorem save_hashes (users : UserTable) {document : Document} {items : List String}
    (hemail : document.modified .email = false) (hprovider : document.modified .provider = false)
    (hproviderId : document.modified .providerId = false)
    (hitems : document.values .refreshTokens = some (.array items)) :
    ∃ next saved, document.save env.hashPassword nowMs users = .ok (next,saved) ∧
      (∀ other, (next.lookup other).isSome = (users.lookup other).isSome) ∧
      ∀ other, storedHashes next other =
        if other = document.id.val then
          if (users.lookup document.id.val).isSome then items else []
        else storedHashes users other := by
  obtain ⟨next,saved,hok,hlookup⟩ :=
    save_of_identityUnmodified env.hashPassword nowMs users hemail hprovider hproviderId
  refine ⟨next,saved,hok,?_,?_⟩
  · intro other
    rw [hlookup]
    split
    next heq => rw [heq,isSome_map]
    · rfl
  · intro other
    rw [storedHashes_of_lookups hlookup]
    have hassigned : document.assignments env.hashPassword nowMs .refreshTokens = some (.array items) := by
      simp [Document.assignments,Document.writeField,hitems,storedValue,columnValue,jsonbFields]
    cases hrow : users.lookup document.id.val with
    | none => simp [itemsOf]
    | some row => simp [Row.assign,hassigned,itemsOf]

theorem save_clearedSessions (users : UserTable) (row : Row) :
    ∃ next saved, (clearedSessions row).save env.hashPassword nowMs users = .ok (next,saved) ∧
      ∀ other, storedHashes next other =
        if other = row.id.val then [] else storedHashes users other := by
  have hitems : (clearedSessions row).values .refreshTokens = some (.array []) := by
    simp [clearedSessions,Document.set,Values.put]
  obtain ⟨next,saved,hok,-,hstored⟩ := save_hashes env nowMs users
    (rfl : (clearedSessions row).modified .email = false) rfl rfl hitems
  refine ⟨next,saved,hok,?_⟩
  intro other
  rw [hstored,ite_self]
  rfl

/-! ## A request on its own -/

variable {presented : String} {stored : Option Value}

theorem findStoredRefreshToken_eq_some {key : String}
    (hfound : findStoredRefreshToken env stored presented = some key) :
    key = hashRefreshToken env presented ∧ key ∈ itemsOf stored := by
  unfold findStoredRefreshToken at hfound
  split at hfound
  · cases hfound
    exact ⟨rfl,‹_›⟩
  · contradiction

theorem refreshTokens_findById (users : UserTable) (userId : String) :
    ((findById users userId withRefreshTokens).bind fun user => user.values .refreshTokens) =
      (users.lookup userId).map fun row => row.columns .refreshTokens := by
  unfold findById
  cases users.lookup userId with
  | none | some row => rfl

theorem verifyRefreshToken_eq_some {nowMs : Nat} {token : String} {payload : TokenPayload} :
    verifyRefreshToken env nowMs token = some payload ↔
      env.decodeRefresh token = some payload ∧ payload.expired nowMs = false ∧ payload.type = .refresh := by
  unfold verifyRefreshToken
  cases env.decodeRefresh token with
  | none => simp
  | some decoded =>
    simp only [some.injEq]
    constructor
    · intro hsome
      split at hsome
      · contradiction
      split at hsome
      · contradiction
      · cases hsome
        simp_all
    · rintro ⟨rfl,hexpired,htype⟩
      simp [hexpired,htype]

theorem findStoredRefreshToken_of_stored
    (hstored : hashRefreshToken env presented ∈ storedHashes users userId) :
    findStoredRefreshToken env ((users.lookup userId).map fun row => row.columns .refreshTokens)
      presented = some (hashRefreshToken env presented) := if_pos hstored

variable {users : UserTable} {userId : String} {row : Row} {request : RefreshRequest}
  {payload : TokenPayload} {nowMs : Nat}

theorem advance_received (hgiven : request.presented.isEmpty = false)
    (hverified : verifyRefreshToken env nowMs request.presented = some payload)
    (hrow : users.lookup payload.userId = some row)
    (hstored : hashRefreshToken env request.presented ∈ storedHashes users payload.userId) :
    advance env nowMs request users .received = (users,.checked payload.userId) := by
  have hfound := findStoredRefreshToken_of_stored env hstored
  rw [← refreshTokens_findById] at hfound
  have huser : findById users payload.userId withRefreshTokens =
      some (Document.load (resolveFields withRefreshTokens) row) := by simp [findById,hrow]
  rw [huser,bind_some] at hfound
  have hid : row.id.val = payload.userId := (Table.mem_of_lookup hrow).2
  simp only [advance,hgiven,hverified,huser,hfound,Bool.false_eq_true,↓reduceIte]
  exact congrArg (fun id => (users,Phase.checked id)) hid

theorem advance_checked (nowMs : Nat)
    (hstored : hashRefreshToken env request.presented ∈ storedHashes users userId) :
    advance env nowMs request users (.checked userId) =
      (users,.rotating userId (hashRefreshToken env request.presented)) := by
  simp only [advance,refreshTokens_findById,findStoredRefreshToken_of_stored env hstored]

theorem refreshAccessToken_of_stored (request : RefreshRequest) (hgiven : request.presented.isEmpty = false)
    (hverified : verifyRefreshToken env nowMs request.presented = some payload)
    (hrow : users.lookup payload.userId = some row)
    (hstored : hashRefreshToken env request.presented ∈ storedHashes users payload.userId) :
    ∃ next, refreshAccessToken env nowMs request users = (next,.succeeded) ∧
      (next.lookup payload.userId).isSome = true ∧
      storedHashes next payload.userId = rotatedHashes (storedHashes users payload.userId)
        (hashRefreshToken env request.presented) (hashRefreshToken env request.issued.refreshToken) := by
  obtain ⟨next,document,hok,hsome,hhashes⟩ := applyUpdate_rotate env nowMs hrow
    (hashRefreshToken env request.presented) request.issued
  have hrotated : advance env nowMs request users (.rotating payload.userId
      (hashRefreshToken env request.presented)) = (next,.succeeded) := by
    simp only [advance,hok]
  refine ⟨next,?_,hsome,by rw [hhashes,if_pos rfl]⟩
  simp only [refreshAccessToken,advanceMany,advance_received env hgiven hverified hrow hstored,
    advance_checked env nowMs hstored,hrotated]
  rfl

variable {presented : String}

theorem removeRefreshToken_of_stored (nowMs : Nat) (hrow : users.lookup userId = some row)
    (hstored : hashRefreshToken env presented ∈ storedHashes users userId) :
    ∃ next, removeRefreshToken env nowMs userId presented users = .ok next ∧
      (next.lookup userId).isSome = true ∧
      storedHashes next userId =
        (storedHashes users userId).filter fun token => token ≠ hashRefreshToken env presented := by
  have hfound := findStoredRefreshToken_of_stored env hstored
  rw [hrow,map_some] at hfound
  let user := Document.load (resolveFields withRefreshTokens) row
  let kept := (itemsOf (some (row.columns .refreshTokens))).filter
    fun token => token ≠ hashRefreshToken env presented
  have hitems : (user.set .refreshTokens (.array kept)).values .refreshTokens =
      some (.array kept) := by simp [Document.set,Values.put]
  obtain ⟨next,saved,hok,hrows,hhashes⟩ := save_hashes env nowMs users
    (rfl : (user.set .refreshTokens (.array kept)).modified .email = false) rfl rfl hitems
  have hid : row.id.val = userId := (Table.mem_of_lookup hrow).2
  have huser : findById users userId withRefreshTokens = some user := by simp [findById,hrow,user]
  have htokens : user.values .refreshTokens = some (row.columns .refreshTokens) := rfl
  refine ⟨next,?_,?_,?_⟩
  · simp only [removeRefreshToken,huser,htokens,hfound]
    exact congrArg (Except.map Prod.fst) hok
  · rw [hrows,hrow]
    rfl
  · have hself := hhashes userId
    rw [show (user.set .refreshTokens (.array kept)).id.val = userId from hid,if_pos rfl,hrow]
      at hself
    rw [hself,storedHashes_of_lookup hrow]
    rfl

end

/-! ## Sample tokens and accounts -/

/-- What distinguishes the sample tokens, and the digest of each. -/
structure SampleParts where
  (jtiEnd signatureStart : String)
  (signatureEnd digestStart : Char)
  digestRest : String

def sampleParts : Fin 7 → SampleParts
  | 0 => ⟨"MDAx","u8G7160mViFIXyPNEQ9gcPZ4jkRxsZH8XauM2B3kvj",'0',
      '1',"8ac26b23a7a3c5fbcab7821eea9ee65d1572ec58cf7eb092741d1a4b91a6ca4"⟩
  | 1 => ⟨"MDAy","cHV_g_U38CHkbz27qlt_cBXT4wD47jO92M9_iVIOXo",'k',
      'd',"3153a4f17e4a0e3bc5e87c1e7b6a37bdbb0c58b1e9177f6c10385fe593be2b7"⟩
  | 2 => ⟨"MDAz","yFWCjtWQayJGld-l9FlQf3MkTkkU-WsT9unsjAdC5D",'A',
      'b',"2e5b5d5f65ef3fbf06f9e2ef8945a6ae609444b07bb5c610aaa09413a9d9ab8"⟩
  | 3 => ⟨"MDA0","oVyF9WCUpoGWN5ZTsYcbMsW5OHryp65xQFs8kL57N3",'w',
      '9',"5dcb7a2cdb46b445f1135cf51a6ed1d82a342704fa665d0b35e3d878364d355"⟩
  | 4 => ⟨"MDA2","_IEFHORY8LqLJoMM3bcC1d22wcLFTAtfD-gvGbsplm",'s',
      '7',"14bdf4c56d150c0d648b05dd7fe2c4c1163d0a0da825359a4bab69df15ed435"⟩
  | 5 => ⟨"MDEx","XsdELjV22giMB1MZmxU5RfZAOEeZ1akQYNmU4QsQ75",'8',
      '6',"9879bd425c41272e1770d6118a1664d320de5bf89373ea1a1383a0f205ce426"⟩
  | 6 => ⟨"MDE0","pb8HGi-nEzVMFuDp5ZAXg0brlI68ckxTMuVtRi8OOy",'Q',
      '3',"d7f1db7f41644c70f3c020bd6234b7d2113bf16be29aa46e66e6a480f382831"⟩

instance sampleCount_neZero : @NeZero Nat .ofOfNat0 7 := ⟨by decide⟩

@[irreducible] def sampleToken (index : Fin 7) : String :=
  "eyJhbGciOiJIUzI1NiIsInR5cCI6IkpXVCJ9.eyJ1c2VySWQiOiJ1MSIsImVtYWlsIjoiYUBleGFtcGxlLm9yZyIsInR5cGUiOiJyZWZyZXNoIiwianRpIjoiMDAwMDAwMDAtMDAwMC00MDAwLTgwMDAtMDAwMDAwMDAw" ++
    (sampleParts index).jtiEnd ++
    "IiwiaWF0IjoxNzAwMDAwMDAwLCJleHAiOjE3MDA2MDQ4MDAsImF1ZCI6ImFwaS1nYXRld2F5LWNsaWVudHMiLCJpc3MiOiJhcGktZ2F0ZXdheS1hdXRoLXNlcnZlciJ9" ++
    "." ++ (sampleParts index).signatureStart ++ String.singleton (sampleParts index).signatureEnd

@[irreducible] def sampleDigest (index : Fin 7) : String :=
  String.singleton (sampleParts index).digestStart ++ (sampleParts index).digestRest

def samplePayload : TokenPayload := ⟨"u1",.refresh,some 1700604800⟩

def sampleSessionEnv : SessionEnv where
  sha256Hex := fun token =>
    match (List.finRange 7).find? fun index => token = sampleToken index with
    | some index => sampleDigest index
    | none => ""
  hashPassword := fun password => password
  decodeRefresh := fun token =>
    if ∃ index, token = sampleToken index then some samplePayload else none

def sampleUserId : UserId := ⟨"u1",by decide⟩
def otherUserId : UserId := ⟨"u2",by decide⟩

section
variable (stored : List String)

def accountRow : Row where
  id := sampleUserId
  columns := fun field =>
    match field with
    | .email => .text "a@example.org"
    | .refreshTokens => .array stored
    | field => defaultColumns 0 field

def accountTable : UserTable := ⟨[accountRow stored],List.pairwise_singleton _ _⟩

theorem lookup_accountTable :
    (accountTable stored).lookup "u1" = some (accountRow stored) := by
  simp [accountTable,Table.lookup,userConstraints,accountRow,sampleUserId]

theorem storedHashes_accountTable (userId : String) :
    storedHashes (accountTable stored) userId = if userId = "u1" then stored else [] := by
  by_cases hid : userId = "u1"
  · rw [if_pos hid,hid,storedHashes_of_lookup (lookup_accountTable stored)]
    rfl
  · have hmissing : (accountTable stored).lookup userId = none := by
      simp [accountTable,Table.lookup,userConstraints,accountRow,sampleUserId,Ne.symm hid]
    simp [storedHashes,hmissing,hid,itemsOf]

end

/-! ## What a save leaves alone -/

def KeepsOthers (document : Document) (users next : UserTable) : Prop :=
  ∀ field, document.modified field = false → field ≠ .updatedAt →
    (next.lookup document.id.val).map (·.columns field) =
      (users.lookup document.id.val).map (·.columns field)

section
variable {document saved : Document} {hashPassword : String → String} {nowMs : Nat}

theorem assignments_of_unmodified {field : Field} (hfield : document.modified field = false)
    (hstamp : field ≠ .updatedAt) : document.assignments hashPassword nowMs field =
      if field ∈ jsonbFields then (document.values field).map fun value => columnValue field (some value)
      else none := by
  simp only [Document.assignments,Document.writeField,if_neg hstamp,hfield]
  by_cases harray : field ∈ jsonbFields
  · have hplain : storedValue hashPassword field (document.values field) =
        columnValue field (document.values field) := by
      cases field <;> first | rfl | simp [jsonbFields] at harray
    have hcreated : field ≠ .createdAt := by
      rintro rfl
      simp [jsonbFields] at harray
    cases hvalue : document.values field with
    | none => simp [harray]
    | some value =>
      rw [hvalue] at hplain
      simp [harray,hcreated,hstamp,hplain]
  · simp [harray]

end

def editedBio : Document := .set (.load allFields (accountRow [])) .bio (.text "hi")

/-- The stored hashes when a session is added between the load and the save of
a profile text, and those after that save. -/
def savedOverSession : Option (List String × List String) := do
  let user ← findById (accountTable []) "u1" withSessions
  let (users,_) ← (applyUpdate 1 (accountTable []) "u1"
    { push := [(.refreshTokens,.item "hash")] }).toOption
  let (next,_) ← ((user.set .bio (.text "hi")).save (fun text => text) 2 users).toOption
  pure (storedHashes users "u1",storedHashes next "u1")

end Routiq.Uam.Session
