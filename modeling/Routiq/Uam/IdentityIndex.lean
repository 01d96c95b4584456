import Routiq.Uam.Users

/-! The inverted identity index of the user service. It maps keyed digests of
email addresses, and provider ids, to the user they belong to; every lookup
of an account by email or by provider goes through it. -/
namespace Routiq.Uam.IdentityIndex
open Users

inductive IndexKind where
  | primaryEmail | previousEmail | pendingMigration | oauth
deriving DecidableEq

def IndexKind.name : IndexKind → String
  | .primaryEmail => "primary_email"
  | .previousEmail => "previous_email"
  | .pendingMigration => "pending_migration"
  | .oauth => "oauth"

structure IndexEntry where
  kind : IndexKind
  userId : String
  provider : Option Provider
  verified : Option Bool
  expiresAt : Option Nat
deriving DecidableEq

abbrev Index := String → Option IndexEntry

structure IdentityEnv where
  (trim toLowerCase hmacHex : String → String)

section

variable (env : IdentityEnv)

def normalizeEmail (email : String) : String := env.toLowerCase (env.trim email)

def emailKey (kind : IndexKind) (email : String) : String :=
  kind.name ++ ":" ++ env.hmacHex (normalizeEmail env email)

def oauthKey (provider : Provider) (providerId : String) : String :=
  "oauth:" ++ provider.name ++ ":" ++ providerId

def isActive (nowMs : Nat) (entry : IndexEntry) : Bool :=
  match entry.expiresAt with
  | none => true
  | some expiry => nowMs < expiry

def activeEntry (nowMs : Nat) (index : Index) (key : String) : Option IndexEntry :=
  (index key).filter (isActive nowMs)

def emailKinds : List IndexKind := [.primaryEmail,.previousEmail,.pendingMigration]

structure ResolvedEmailIdentity where
  userId : String
  matched : IndexKind
  verified : Option Bool
deriving DecidableEq

variable (nowMs : Nat)

def resolveEmailIdentity (index : Index) (email : String) : Option ResolvedEmailIdentity :=
  emailKinds.findSome? fun kind =>
    (activeEntry nowMs index (emailKey env kind (normalizeEmail env email))).map fun entry =>
      ⟨entry.userId,kind,entry.verified⟩

def findUserIdByPrimaryEmail (index : Index) (email : String) : Option String :=
  (activeEntry nowMs index (emailKey env .primaryEmail email)).map IndexEntry.userId

def findUserIdByOAuth (index : Index) (provider : Provider) (providerId : String) : Option String :=
  (index (oauthKey provider providerId)).map IndexEntry.userId

/-! ## Synchronisation from a user document -/

def textOf : Option Value → String
  | some (.text text) => text
  | _ => ""

def dateOf : Option Value → Option Nat
  | some (.date ms) => some ms
  | _ => none

def isFuture (value : Option Value) : Bool := (dateOf value).any (nowMs < ·)

def providerOf : Option Value → Option Provider
  | some (.provider provider) => some provider
  | _ => none

/-- The entries a document implies, in the order they are upserted. An upsert
sets every column of an entry, or clears it. -/
def impliedEntries (user : Document) : List (String × IndexEntry) :=
  let userId := user.id.val
  [(emailKey env .primaryEmail (textOf (user.values .email)),
      ⟨.primaryEmail,userId,none,some (user.values .isEmailVerified = some (.bool true)),none⟩)] ++
    (if truthy (user.values .previousEmail) && isFuture nowMs (user.values .migrationExpiry) then
      [(emailKey env .previousEmail (textOf (user.values .previousEmail)),
        ⟨.previousEmail,userId,none,none,dateOf (user.values .migrationExpiry)⟩)]
    else []) ++
    (if truthy (user.values .newEmailPending) && isFuture nowMs (user.values .migrationTokenExpires) then
      [(emailKey env .pendingMigration (textOf (user.values .newEmailPending)),
        ⟨.pendingMigration,userId,none,none,dateOf (user.values .migrationTokenExpires)⟩)]
    else []) ++
    (match providerOf (user.values .provider) with
    | some provider =>
        if provider ≠ .localAccount && truthy (user.values .providerId) then
          [(oauthKey provider (textOf (user.values .providerId)),⟨.oauth,userId,some provider,none,none⟩)]
        else []
    | none => [])

def syncIdentityIndexesFromUser (user : Document) (index : Index) : Index :=
  let implied := impliedEntries env nowMs user
  let upserted : Index :=
    implied.foldl (fun index entry key => if key = entry.1 then some entry.2 else index key) index
  fun key =>
    if key ∈ implied.map Prod.fst then upserted key
    else (upserted key).filter fun entry => entry.userId ≠ user.id.val

end

/-! ## The synchronised index -/

variable (env : IdentityEnv) (nowMs : Nat) (user : Document) (index : Index)

theorem nodup_impliedKeys : ((impliedEntries env nowMs user).map Prod.fst).Nodup := by
  -- the third characters of the four prefixes differ
  refine List.Pairwise.of_map (S := (· ≠ ·)) (fun key => key.toList[2]?) (fun _ _ hne heq => hne (by rw [heq])) ?_
  have hemail : ∀ kind email, (emailKey env kind email).toList[2]? = kind.name.toList[2]? := by
    intro kind email
    cases kind <;> simp [emailKey,IndexKind.name]
  have hoauth : ∀ provider providerId, (oauthKey provider providerId).toList[2]? = some 'u' := by
    simp [oauthKey]
  unfold impliedEntries
  cases providerOf (user.values .provider) <;> dsimp only <;> split <;> split <;> (try split) <;>
    simp [hemail,hoauth,IndexKind.name]

section
variable {entries : List (String × IndexEntry)} {key : String}

theorem foldl_upsert_of_notMem (hkey : key ∉ entries.map Prod.fst) :
    entries.foldl (fun index entry key => if key = entry.1 then some entry.2 else index key) index key =
      index key := by
  induction entries generalizing index with
  | nil => rfl
  | cons entry entries ih =>
    rw [List.map_cons,List.mem_cons,not_or] at hkey
    rw [List.foldl_cons,ih _ hkey.2,if_neg hkey.1]

theorem foldl_upsert_of_mem {entry : IndexEntry} (hkeys : (entries.map Prod.fst).Nodup)
    (hentry : (key,entry) ∈ entries) :
    entries.foldl (fun index entry key => if key = entry.1 then some entry.2 else index key) index key =
      some entry := by
  induction entries generalizing index with
  | nil => contradiction
  | cons head entries ih =>
    rw [List.map_cons,List.nodup_cons] at hkeys
    rw [List.foldl_cons]
    rcases List.mem_cons.mp hentry with rfl | hentry
    · rw [foldl_upsert_of_notMem _ hkeys.1,if_pos rfl]
    · exact ih _ hkeys.2 hentry

end

theorem userId_of_implied : ∀ entry ∈ impliedEntries env nowMs user, entry.2.userId = user.id.val := by
  unfold impliedEntries
  grind

structure Synced (implied : List (String × IndexEntry)) (userId : String) (index synced : Index) : Prop where
  owned : ∀ key entry, synced key = some entry ∧ entry.userId = userId ↔ (key,entry) ∈ implied
  others : ∀ key ∉ implied.map Prod.fst, (∀ entry ∈ index key, entry.userId ≠ userId) → synced key = index key

theorem syncIdentityIndexesFromUser_exact :
    Synced (impliedEntries env nowMs user) user.id.val index (syncIdentityIndexesFromUser env nowMs user index) ∧
      syncIdentityIndexesFromUser env nowMs user (syncIdentityIndexesFromUser env nowMs user index) =
        syncIdentityIndexesFromUser env nowMs user index := by
  have hkeys := nodup_impliedKeys env nowMs user
  have howner := userId_of_implied env nowMs user
  unfold syncIdentityIndexesFromUser
  generalize impliedEntries env nowMs user = implied at *
  refine ⟨⟨fun key entry => ⟨?_,?_⟩,?_⟩,?_⟩
  · rintro ⟨hsynced,hmine⟩
    split at hsynced
    next hkey =>
      obtain ⟨⟨_,found⟩,hfound,rfl⟩ := List.mem_map.mp hkey
      rw [foldl_upsert_of_mem index hkeys hfound] at hsynced
      exact Option.some.inj hsynced ▸ hfound
    · simp [Option.filter_eq_some_iff,hmine] at hsynced
  · intro hentry
    rw [if_pos (List.mem_map_of_mem hentry),foldl_upsert_of_mem index hkeys hentry]
    exact ⟨rfl,howner _ hentry⟩
  · intro key hkey hforeign
    rw [if_neg hkey,foldl_upsert_of_notMem index hkey]
    cases hentry : index key with
    | none => rfl
    | some entry => simp [hforeign entry hentry]
  · funext key
    by_cases hkey : key ∈ implied.map Prod.fst
    · obtain ⟨⟨_,found⟩,hfound,rfl⟩ := List.mem_map.mp hkey
      rw [if_pos hkey,if_pos hkey,foldl_upsert_of_mem _ hkeys hfound,foldl_upsert_of_mem _ hkeys hfound]
    · rw [if_neg hkey,if_neg hkey,foldl_upsert_of_notMem _ hkey,if_neg hkey,Option.filter_filter]
      simp

end Routiq.Uam.IdentityIndex
