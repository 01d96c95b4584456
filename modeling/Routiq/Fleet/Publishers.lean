import Routiq.Edge.Auth

/-! The two services that publish revocation data to the shared Redis: the
control plane's `POST /revoke` and the token-version floor of the user
service. Both are given the fate of every Redis command they send. -/
namespace Routiq.Fleet.Publishers
open Core.Redis Edge.Revocation Edge.Auth List Option

inductive RedisCallOutcome where
  | success | redisError | timeout | circuitOpen | concurrencyRejected
deriving DecidableEq

def RedisCallOutcome.debug : RedisCallOutcome → String
  | .success => "Success"
  | .redisError => "RedisError"
  | .timeout => "Timeout"
  | .circuitOpen => "CircuitOpen"
  | .concurrencyRejected => "ConcurrencyRejected"

/-- A command is replied to, or it fails, and then it may still have been
applied. -/
inductive Fate where
  | replied
  | failed (applied : Bool) (outcome : RedisCallOutcome)
deriving DecidableEq

/-! ## The control plane -/

def defaultRevokeTtl : Nat := 3600

structure RevokeRequest where
  (jti token : Option String)
  ttlSecs : Nat := defaultRevokeTtl
deriving DecidableEq

def nonEmpty (field : Option String) : Option String := field.filter fun text => !text.isEmpty

def revocationKeysForRequest (codecs : Codecs) (request : RevokeRequest) : Except String (List String) :=
  match nonEmpty request.jti, nonEmpty request.token with
  | none, none => .error "provide jti and/or token"
  | jti, token =>
      .ok ((jti.map jtiKey).toList ++ (token.map fun text => tokenKey (tokenHashHex codecs text)).toList)

structure WriteFates where
  (acquire connect : Except RedisCallOutcome Unit)
  set : Nat → Fate

def setKeys (nowMs ttlSecs : Nat) (fates : Nat → Fate) :
    Nat → List String → Store → Except RedisCallOutcome Unit × Store
  | _, [], store => (.ok (),store)
  | index, key :: keys, store =>
      match fates index with
      | .failed applied outcome =>
          (.error outcome,
            if applied then (store.setEx nowMs key "1" ttlSecs).getD store else store)
      | .replied =>
          match store.setEx nowMs key "1" ttlSecs with
          | none => (.error .redisError,store)
          | some store => setKeys nowMs ttlSecs fates (index + 1) keys store

def redisUnavailable (outcome : RedisCallOutcome) : String := "redis unavailable: " ++ outcome.debug

def writeRevocationKeys (nowMs : Nat) (fates : WriteFates) (keys : List String) (ttlSecs : Nat)
    (store : Store) : Except String Unit × Store :=
  match fates.acquire with
  | .error outcome => (.error (redisUnavailable outcome),store)
  | .ok () =>
      match fates.connect with
      | .error outcome => (.error (redisUnavailable outcome),store)
      | .ok () =>
          let written := setKeys nowMs ttlSecs fates.set 0 keys store
          (written.1.mapError redisUnavailable,written.2)

inductive RevokeResponse where
  | ok (keys : List String) (ttlSecs : Nat)
  | badRequest (body : String)
  | unauthorized (body : String)
  | tooManyRequests (body : String)
  | serviceUnavailable (body : String)
deriving DecidableEq

/-- What `post_revoke` is given besides the store: the verdicts of the rate
limiter and the signature check, and the parsed body. -/
structure RevokeCall where
  (withinRate signatureValid : Bool)
  body : Except String RevokeRequest
  fates : WriteFates

def postRevoke (codecs : Codecs) (nowMs : Nat) (call : RevokeCall) (store : Store) : RevokeResponse × Store :=
  if !call.withinRate then (.tooManyRequests "Admin rate limit exceeded",store)
  else if !call.signatureValid then (.unauthorized "Missing or invalid X-Admin-Signature",store)
  else
    match call.body with
    | .error message => (.badRequest ("Invalid JSON: " ++ message),store)
    | .ok request =>
        match revocationKeysForRequest codecs request with
        | .error message => (.badRequest message,store)
        | .ok keys =>
            match writeRevocationKeys nowMs call.fates keys request.ttlSecs store with
            | (.ok (),store) => (.ok keys request.ttlSecs,store)
            | (.error message,store) => (.serviceUnavailable message,store)

/-! ## The user service -/

abbrev SafeNat := { value : Nat // value < 2^53 }

structure CacheFates where
  available : Bool
  set : Fate
  get : Bool

def cacheSet (fates : CacheFates) (key value : String) (store : Store) : Store :=
  match fates.set with
  | .replied => store.set key value
  | .failed applied _ => if applied then store.set key value else store

def cacheGet (fates : CacheFates) (nowMs : Nat) (key : String) (store : Store) : Option String :=
  if fates.get then store.get nowMs key else none

def publishTokenVersion (nowMs : Nat) (fates : CacheFates) (userId : String) (version : SafeNat)
    (store : Store) : Bool × Store :=
  if !fates.available then (false,store)
  else
    let key := tvKeyPrefix ++ userId
    let store := cacheSet fates key version.val.repr store
    (cacheGet fates nowMs key store = some version.val.repr,store)

/-! ## What they write -/

structure OnlyStrings (written : String → Prop) (before after : Store) : Prop where
  sortedSets : after.sortedSets = before.sortedSets
  strings : ∀ key, ¬written key → after.strings key = before.strings key

theorem OnlyStrings.refl (written : String → Prop) (store : Store) :
    OnlyStrings written store store := ⟨rfl,fun _ _ => rfl⟩

variable {written : String → Prop}

theorem OnlyStrings.trans {first second third : Store} (hfirst : OnlyStrings written first second)
    (hsecond : OnlyStrings written second third) : OnlyStrings written first third :=
  ⟨hsecond.sortedSets.trans hfirst.sortedSets,
    fun key hkey => (hsecond.strings key hkey).trans (hfirst.strings key hkey)⟩

theorem onlyStrings_put (store : Store) {key : String} (hkey : written key) (entry : StringEntry) :
    OnlyStrings written store (store.put key entry) := by
  refine ⟨rfl,?_⟩
  intro other hother
  have hne : other ≠ key := fun heq => hother (heq ▸ hkey)
  exact Function.update_of_ne hne _ _

variable {ttlSecs : Nat} {store : Store} {nowMs : Nat}

theorem onlyStrings_setEx {next : Store} {key value : String}
    (hkey : written key) (hset : store.setEx nowMs key value ttlSecs = some next) :
    OnlyStrings written store next := by
  rw [(Store.setEx_eq_some hset).2]
  exact onlyStrings_put store hkey _

variable {keys : List String}

theorem onlyStrings_setKeys (hkeys : ∀ key ∈ keys, written key) (nowMs ttlSecs : Nat)
    (fates : Nat → Fate) (index : Nat) (store : Store) :
    OnlyStrings written store (setKeys nowMs ttlSecs fates index keys store).2 := by
  induction keys generalizing index store with
  | nil => exact .refl written store
  | cons key keys ih =>
    have hkey := hkeys key (mem_cons_self ..)
    unfold setKeys
    split
    · dsimp only
      split
      · cases hset : store.setEx nowMs key "1" ttlSecs with
        | none => exact .refl written store
        | some next => exact onlyStrings_setEx hkey hset
      · exact .refl written store
    · split
      · exact .refl written store
      next next hset =>
        exact (onlyStrings_setEx hkey hset).trans
          (ih (fun other hother => hkeys other (mem_cons_of_mem key hother)) (index + 1) next)

theorem ttl_pos_of_setKeys {index : Nat} {fates : Nat → Fate}
    (hkeys : keys ≠ []) (hok : (setKeys nowMs ttlSecs fates index keys store).1 = .ok ()) : 0 < ttlSecs := by
  cases keys with
  | nil => contradiction
  | cons key keys =>
    unfold setKeys at hok
    split at hok
    · contradiction
    · split at hok
      · contradiction
      next hset => exact (Store.setEx_eq_some hset).1

variable {codecs : Codecs}

section
variable {request : RevokeRequest} (hkeys : revocationKeysForRequest codecs request = .ok keys)
include hkeys

theorem keys_ne_nil_of_request : keys ≠ [] := by
  unfold revocationKeysForRequest at hkeys
  split at hkeys
  · contradiction
  · cases hkeys
    rename_i hgiven
    intro hnil
    simp only [append_eq_nil_iff,toList_eq_nil_iff,map_eq_none_iff] at hnil
    exact hgiven hnil.1 hnil.2

def RevocationKey (key : String) : Prop := (∃ jti, key = jtiKey jti) ∨ ∃ hash, key = tokenKey hash

theorem revocationKey_of_request : ∀ key ∈ keys, RevocationKey key := by
  unfold revocationKeysForRequest at hkeys
  split at hkeys
  · contradiction
  · cases hkeys
    intro key hkey
    rcases mem_append.mp hkey with hjti | htoken
    · obtain ⟨jti,-,heq⟩ := map_eq_some_iff.mp (mem_toList.mp hjti)
      exact Or.inl ⟨jti,heq.symm⟩
    · obtain ⟨token,-,heq⟩ := map_eq_some_iff.mp (mem_toList.mp htoken)
      exact Or.inr ⟨_,heq.symm⟩

end

section
variable (codecs : Codecs) (nowMs : Nat) (call : RevokeCall) (store : Store)

/-- A revoke request is turned away before it writes, or it sends its `SET`s
and answers with their outcome. -/
theorem postRevoke_cases : (postRevoke codecs nowMs call store).2 = store ∧
        (∀ keys ttlSecs, (postRevoke codecs nowMs call store).1 ≠ .ok keys ttlSecs) ∨
      ∃ request keys, call.body = .ok request ∧ revocationKeysForRequest codecs request = .ok keys ∧
        (postRevoke codecs nowMs call store).2 =
          (setKeys nowMs request.ttlSecs call.fates.set 0 keys store).2 ∧
        (∀ keys' ttlSecs, (postRevoke codecs nowMs call store).1 = .ok keys' ttlSecs →
          ttlSecs = request.ttlSecs ∧ keys' = keys ∧
            (setKeys nowMs request.ttlSecs call.fates.set 0 keys store).1 = .ok ()) := by
  unfold postRevoke
  split
  · simp
  split
  · simp
  split
  · simp
  rename_i request hbody
  cases hkeys : revocationKeysForRequest codecs request with
  | error message => simp
  | ok keys =>
    cases hacquire : call.fates.acquire with
    | error outcome => simp [writeRevocationKeys,hacquire]
    | ok admitted =>
      cases hconnect : call.fates.connect with
      | error outcome => simp [writeRevocationKeys,hacquire,hconnect]
      | ok connected =>
        refine Or.inr ⟨request,keys,hbody,hkeys,?_⟩
        cases hset : setKeys nowMs request.ttlSecs call.fates.set 0 keys store with
        | mk result next =>
          cases result with
          | error outcome => simp [writeRevocationKeys,hacquire,hconnect,hset,Except.mapError]
          | ok written => simp [writeRevocationKeys,hacquire,hconnect,hset,Except.mapError,eq_comm]

theorem onlyStrings_postRevoke : OnlyStrings RevocationKey store (postRevoke codecs nowMs call store).2 := by
  rcases postRevoke_cases codecs nowMs call store with
    ⟨hunchanged,-⟩ | ⟨request,keys,-,hkeys,hwritten,-⟩
  · rw [hunchanged]
    exact .refl _ store
  · rw [hwritten]
    exact onlyStrings_setKeys (revocationKey_of_request hkeys) ..

end

theorem postRevoke_ttl {call : RevokeCall}
    (hok : (postRevoke codecs nowMs call store).1 = .ok keys ttlSecs) : 0 < ttlSecs := by
  rcases postRevoke_cases codecs nowMs call store with
    ⟨-,hrefused⟩ | ⟨request,sent,-,hkeys,-,hanswer⟩
  · exact absurd hok (hrefused keys ttlSecs)
  · obtain ⟨rfl,-,hset⟩ := hanswer keys ttlSecs hok
    exact ttl_pos_of_setKeys (keys_ne_nil_of_request hkeys) hset

theorem onlyStrings_publishTokenVersion (nowMs : Nat) (fates : CacheFates) (userId : String)
    (version : SafeNat) (store : Store) : OnlyStrings (fun key => key = tvKeyPrefix ++ userId) store
      (publishTokenVersion nowMs fates userId version store).2 := by
  have hset : OnlyStrings (fun key => key = tvKeyPrefix ++ userId) store
      (store.set (tvKeyPrefix ++ userId) version.val.repr) := onlyStrings_put store (by rfl) _
  unfold publishTokenVersion
  split
  · exact .refl _ store
  · dsimp only
    unfold cacheSet
    split
    · exact hset
    · split
      · exact hset
      · exact .refl _ store

end Routiq.Fleet.Publishers
