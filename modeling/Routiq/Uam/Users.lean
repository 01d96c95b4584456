import Routiq.Core.KeyedTable

/-! The document layer of the user service over its `users` table. A query
loads only the fields its projection names, a document remembers which fields
were written, and `save` sends those and every loaded array. Values are
JavaScript's: an unloaded field reads as `undefined`, here `none`. The id is
in every projection and never written, so it is kept beside the fields. -/
namespace Routiq.Uam.Users
open Core.KeyedTable

/-! ## Rows -/

inductive Field where
  | email | previousEmail | password | displayName | avatar | bio | isEmailVerified | loginCount
  | lastLogin | emailVerificationToken | emailVerificationExpires | passwordResetToken
  | passwordResetExpires | provider | providerId | refreshTokens | activeAccessJtis | tokenVersion
  | migrationExpiry | migrationToken | migrationTokenExpires | newEmailPending | lastMigrationDate
  | currentEmailVerified | newEmailVerified | currentEmailToken | newEmailToken
  | lastMigrationEmailSent | migrationHistory | createdAt | updatedAt
deriving DecidableEq

def allFields : List Field :=
  [.email,.previousEmail,.password,.displayName,.avatar,.bio,.isEmailVerified,.loginCount,
    .lastLogin,.emailVerificationToken,.emailVerificationExpires,.passwordResetToken,
    .passwordResetExpires,.provider,.providerId,.refreshTokens,.activeAccessJtis,.tokenVersion,
    .migrationExpiry,.migrationToken,.migrationTokenExpires,.newEmailPending,.lastMigrationDate,
    .currentEmailVerified,.newEmailVerified,.currentEmailToken,.newEmailToken,
    .lastMigrationEmailSent,.migrationHistory,.createdAt,.updatedAt]

def sensitiveFields : List Field := [.password,.refreshTokens,.activeAccessJtis]

/-- Array columns, written back whole. -/
def jsonbFields : List Field := [.refreshTokens,.activeAccessJtis,.migrationHistory]

inductive Provider where
  | localAccount | google | github
deriving DecidableEq

def Provider.name : Provider → String
  | .localAccount => "local"
  | .google => "google"
  | .github => "github"

inductive Value where
  | null
  | text (text : String)
  | bool (value : Bool)
  | int (value : Int)
  | date (ms : Nat)
  | array (items : List String)
  | provider (provider : Provider)
deriving DecidableEq

def truthy : Option Value → Bool
  | none | some .null => false
  | some (.text text) => !text.isEmpty
  | some (.bool value) => value
  | some (.int value) => value ≠ 0
  | some (.date _) | some (.array _) | some (.provider _) => true

/-- Ids are generated where a document has none, so no row has an empty one. -/
abbrev UserId := { id : String // id ≠ "" }

structure Row where
  id : UserId
  columns : Field → Value

/-- `UNIQUE (email)` and `UNIQUE (provider, provider_id)`; nulls are distinct. -/
def sameIdentity (first second : Row) : Bool :=
  first.columns .email ≠ .null && first.columns .email = second.columns .email ||
    first.columns .provider ≠ .null && first.columns .providerId ≠ .null &&
      first.columns .provider = second.columns .provider &&
      first.columns .providerId = second.columns .providerId

theorem sameIdentity_symm (first second : Row) : sameIdentity first second = sameIdentity second first := by
  unfold sameIdentity
  grind

def userConstraints : Constraints Row String where
  key := fun row => row.id.val
  conflicts := sameIdentity
  symm := sameIdentity_symm

abbrev UserTable := Table userConstraints
abbrev Assignments := Field → Option Value

def Row.assign (row : Row) (assignments : Assignments) : Row :=
  { row with columns := fun field => (assignments field).getD (row.columns field) }

theorem key_assign (assignments : Row → Assignments) (row : Row) :
    userConstraints.key (row.assign (assignments row)) = userConstraints.key row := rfl

def duplicateKeyError : String := "E11000 duplicate key error"

/-! ## Documents -/

abbrev Values := Field → Option Value

def Values.put (values : Values) (field : Field) (value : Option Value) : Values :=
  fun other => if other = field then value else values other

structure Document where
  id : UserId
  values : Values
  modified : Field → Bool

def Document.load (fields : List Field) (row : Row) : Document where
  id := row.id
  values := fun field => if field ∈ fields then some (row.columns field) else none
  modified := fun _ => false

def Document.set (document : Document) (field : Field) (value : Value) : Document :=
  { document with values := document.values.put field (some value)
                  modified := fun other => other = field || document.modified other }

/-- The tokens of a `select` call: those with a plus sign, and the others. -/
structure Selection where
  (additive inclusion : List Field)
deriving DecidableEq

def defaultFields : List Field := allFields.filter fun field => field ∉ sensitiveFields

def resolveFields : Option Selection → List Field
  | none => defaultFields
  | some selection =>
      if selection.inclusion ≠ [] then selection.inclusion
      else defaultFields ++ selection.additive

def findById (users : UserTable) (id : String) (selection : Option Selection) : Option Document :=
  (users.lookup id).map (.load (resolveFields selection))

def columnValue (field : Field) (raw : Option Value) : Value :=
  if field ∈ jsonbFields then
    match raw with
    | none | some .null => .array []
    | some value => value
  else raw.getD .null

section
variable (hashPassword : String → String)

def storedValue (field : Field) (raw : Option Value) : Value :=
  match field, raw with
  | .password, some (.text text) => if text.isEmpty then .text text else .text (hashPassword text)
  | field, raw => columnValue field raw

def Document.writeField (document : Document) (field : Field) : Bool :=
  (document.modified field || field ∈ jsonbFields && (document.values field).isSome) &&
    field ≠ .createdAt && field ≠ .updatedAt

variable (nowMs : Nat)

def Document.assignments (document : Document) :
    Assignments := fun field =>
  if field = .updatedAt then some (.date nowMs)
  else if document.writeField field then some (storedValue hashPassword field (document.values field))
  else none

/-- `save` of a loaded document: one `UPDATE … RETURNING *`. -/
def Document.save (users : UserTable) (document : Document) : Except String (UserTable × Document) :=
  match users.modify document.id.val (·.assign (document.assignments hashPassword nowMs)) with
  | none => .error duplicateKeyError
  | some users =>
      .ok (users,
        match users.lookup document.id.val with
        | some row => .load allFields row
        | none => { document with modified := fun _ => false })

def defaultColumns : Field → Value
  | .isEmailVerified => .bool false
  | .loginCount | .tokenVersion => .int 0
  | .provider => .provider .localAccount
  | .refreshTokens | .activeAccessJtis | .migrationHistory => .array []
  | .createdAt | .updatedAt => .date nowMs
  | _ => .null

/-- `User.create`: one `INSERT … RETURNING *` under a generated id. -/
def create (uuid : UserId) (data : Assignments) (users : UserTable) : Except String (UserTable × Document) :=
  let row : Row :=
    { id := uuid
      columns := fun field =>
        if field = .createdAt || field = .updatedAt then defaultColumns nowMs field
        else
          match data field with
          | none => defaultColumns nowMs field
          | some value => storedValue hashPassword field (some value) }
  match users.insert row with
  | none => .error duplicateKeyError
  | some users => .ok (users,.load allFields row)

end

/-! ## Update documents -/

inductive PushSpec where
  | each (items : List String) (slice : Option Int)
  | item (value : String)
deriving DecidableEq

structure UpdateDoc where
  push : List (Field × PushSpec) := []
  pull : List (Field × String) := []
  set : List (Field × Value) := []
  unset : List Field := []
  inc : List (Field × Int) := []
deriving DecidableEq

def itemsOf : Option Value → List String
  | some (.array items) => items
  | _ => []

def sliceItems (items : List String) (slice : Int) : List String :=
  if slice < 0 then items.drop (items.length - slice.natAbs) else items.take slice.toNat

def PushSpec.apply (spec : PushSpec) (items : List String) : List String :=
  match spec with
  | .each pushed (some slice) => sliceItems (items ++ pushed) slice
  | .each pushed none => items ++ pushed
  | .item value => items ++ [value]

def incremented (amount : Int) : Option Value → Value
  | some (.int value) => .int (value + amount)
  | _ => .int amount

section
variable (update : UpdateDoc)

/-- The operators in the order `applyUpdate` takes them: push, pull, set,
unset, inc. -/
def UpdateDoc.apply (values : Values) : Values :=
  let values := update.push.foldl (fun values entry =>
    values.put entry.1 (some (.array (entry.2.apply (itemsOf (values entry.1)))))) values
  let values := update.pull.foldl (fun values entry =>
    values.put entry.1
      (some (.array ((itemsOf (values entry.1)).filter fun item => item ≠ entry.2)))) values
  let values := update.set.foldl (fun values entry => values.put entry.1 (some entry.2)) values
  let values := update.unset.foldl (fun values field => values.put field none) values
  update.inc.foldl (fun values entry =>
    values.put entry.1 (some (incremented entry.2 (values entry.1)))) values

def UpdateDoc.changed : List Field :=
  update.push.map Prod.fst ++ update.pull.map Prod.fst ++ update.set.map Prod.fst ++ update.unset ++
    update.inc.map Prod.fst

def UpdateDoc.assignments (nowMs : Nat) (row : Row) : Assignments := fun field =>
  if field = .updatedAt then some (.date nowMs)
  else if field ∈ update.changed then
    some (columnValue field (update.apply (fun field => some (row.columns field)) field))
  else none

end

/-- `findByIdAndUpdate`: one transaction that locks the row, or nothing when
there is no such row. -/
def applyUpdate (nowMs : Nat) (users : UserTable) (id : String) (update : UpdateDoc) :
    Except String (UserTable × Option Document) :=
  match users.lookup id with
  | none => .ok (users,none)
  | some _ =>
      match users.modify id fun row => row.assign (update.assignments nowMs row) with
      | none => .error duplicateKeyError
      | some users => .ok (users,(users.lookup id).map (.load allFields))

variable {nowMs : Nat} {users next : UserTable} {update : UpdateDoc} {document : Document}

theorem applyUpdate_cases {id : String} {updated : Option Document}
    (hupdate : applyUpdate nowMs users id update = .ok (next,updated)) :
    (users.lookup id = none ∧ next = users ∧ updated = none) ∨
      users.modify id (fun row => row.assign (update.assignments nowMs row)) = some next ∧
        updated = (next.lookup id).map (.load allFields) := by
  unfold applyUpdate at hupdate
  split at hupdate
  next hrow =>
    cases hupdate
    exact .inl ⟨hrow,rfl,rfl⟩
  · split at hupdate
    · contradiction
    next hnext =>
      cases hupdate
      exact .inr ⟨hnext,rfl⟩

theorem applyUpdate_some {id : String}
    (hupdate : applyUpdate nowMs users id update = .ok (next,some document)) :
    ∃ row, next.lookup id = some row ∧ document = .load allFields row := by
  rcases applyUpdate_cases hupdate with ⟨-,-,hnone⟩ | ⟨-,hdocument⟩
  · contradiction
  · obtain ⟨found,hfound,rfl⟩ := Option.map_eq_some_iff.mp hdocument.symm
    exact ⟨found,hfound,rfl⟩

/-! ## What statements do -/

structure Quiet (row : Row) (assigned : Row) : Prop where
  id : assigned.id = row.id
  email : assigned.columns .email = row.columns .email
  provider : assigned.columns .provider = row.columns .provider
  providerId : assigned.columns .providerId = row.columns .providerId

variable {row : Row}

theorem sameIdentity_of_quiet {assigned : Row} (hquiet : Quiet row assigned) (other : Row) :
    sameIdentity assigned other = sameIdentity row other := by
  unfold sameIdentity
  rw [hquiet.email,hquiet.provider,hquiet.providerId]

theorem modify_of_quiet (users : UserTable) (id : String) {change : Row → Row}
    (hquiet : ∀ row, Quiet row (change row)) : ∃ next, users.modify id change = some next ∧
      ∀ other, next.lookup other =
        if other = id then (users.lookup id).map change else users.lookup other := by
  have hkey : ∀ row, userConstraints.key (change row) = userConstraints.key row :=
    fun row => congrArg Subtype.val (hquiet row).id
  cases hnext : users.modify id change with
  | some next => exact ⟨next,rfl,Table.lookup_modify hkey hnext⟩
  | none =>
    obtain ⟨row,other,hrow,hother,hotherKey,hconflict⟩ := (Table.modify_eq_none_iff hkey).mp hnext
    have hconflict' : sameIdentity row other = true :=
      (sameIdentity_of_quiet (hquiet row) other).symm.trans hconflict
    obtain ⟨hmem,hrowKey⟩ := Table.mem_of_lookup hrow
    have hapart := Table.apart_of_mem hmem hother (fun heq => hotherKey (heq ▸ hrowKey))
    exact absurd hconflict' (by simp [show sameIdentity row other = false from hapart.2])

theorem quiet_assign {assignments : Assignments} (hemail : assignments .email = none)
    (hprovider : assignments .provider = none) (hproviderId : assignments .providerId = none) :
    Quiet row (row.assign assignments) := by
  refine ⟨rfl,?_,?_,?_⟩
  · simp [Row.assign,hemail]
  · simp [Row.assign,hprovider]
  · simp [Row.assign,hproviderId]

/-- `save` fails exactly when the saved row would collide with another one;
otherwise only that row changes, and the document holds all of it. -/
theorem save_cases (hashPassword : String → String) (nowMs : Nat)
    (hrow : users.lookup document.id.val = some row) :
    (document.save hashPassword nowMs users = .error duplicateKeyError ∧
        ∃ other ∈ users.rows, other.id ≠ row.id ∧
          sameIdentity (row.assign (document.assignments hashPassword nowMs)) other = true) ∨
      ∃ next, document.save hashPassword nowMs users =
          .ok (next,Document.load allFields (row.assign (document.assignments hashPassword nowMs))) ∧
        (∀ id, next.lookup id = if id = document.id.val then
          some (row.assign (document.assignments hashPassword nowMs)) else users.lookup id) ∧
        ∀ other ∈ users.rows, other.id ≠ row.id →
          sameIdentity (row.assign (document.assignments hashPassword nowMs)) other = false := by
  have hrowKey : row.id.val = document.id.val := (Table.mem_of_lookup hrow).2
  have hkey := key_assign fun _ => document.assignments hashPassword nowMs
  unfold Document.save
  cases hnext : users.modify document.id.val (·.assign (document.assignments hashPassword nowMs)) with
  | none =>
    obtain ⟨found,other,hfound,hother,hotherKey,hconflict⟩ := (Table.modify_eq_none_iff hkey).mp hnext
    obtain rfl := Option.some.inj (hrow.symm.trans hfound)
    refine Or.inl ⟨rfl,other,hother,?_,hconflict⟩
    intro heq
    exact hotherKey ((congrArg Subtype.val heq).trans hrowKey)
  | some next =>
    have hlookup := Table.lookup_modify hkey hnext
    rw [hrow] at hlookup
    refine Or.inr ⟨next,?_,hlookup,?_⟩
    · simp [hlookup]
    · intro other hother hne
      rw [← Bool.not_eq_true]
      intro hconflict
      have hotherKey : userConstraints.key other ≠ document.id.val :=
        fun heq => hne (Subtype.ext (heq.trans hrowKey.symm))
      have hbroken := (Table.modify_eq_none_iff hkey).mpr
        ⟨row,other,hrow,hother,hotherKey,hconflict⟩
      rw [hnext] at hbroken
      contradiction

variable {hashPassword : String → String}

theorem lookup_save {saved : Document}
    (hsave : document.save hashPassword nowMs users = .ok (next,saved)) (id : String) :
    next.lookup id = if id = document.id.val then
      (users.lookup document.id.val).map (·.assign (document.assignments hashPassword nowMs))
      else users.lookup id := by
  unfold Document.save at hsave
  cases hnext : users.modify document.id.val (·.assign (document.assignments hashPassword nowMs)) with
  | none => simp [hnext] at hsave
  | some table =>
    simp only [hnext,Except.ok.injEq,Prod.mk.injEq] at hsave
    rw [← hsave.1]
    exact Table.lookup_modify (key_assign _) hnext id

theorem lookup_applyUpdate {id : String} {updated : Option Document}
    (hupdate : applyUpdate nowMs users id update = .ok (next,updated)) (other : String) :
    next.lookup other = if other = id then
      (users.lookup id).map fun row => row.assign (update.assignments nowMs row) else users.lookup other := by
  rcases applyUpdate_cases hupdate with ⟨hrow,rfl,-⟩ | ⟨hnext,-⟩
  · split
    next heq =>
      rw [heq,hrow]
      rfl
    · rfl
  · exact Table.lookup_modify (key_assign _) hnext other

theorem insert_of_create {uuid : UserId} {data : Assignments}
    {created : Document} (hcreate : create hashPassword nowMs uuid data users = .ok (next,created)) :
    ∃ row, users.insert row = some next ∧ userConstraints.key row = uuid.val := by
  unfold create at hcreate
  dsimp only at hcreate
  split at hcreate
  · contradiction
  next table hinsert =>
    simp only [Except.ok.injEq,Prod.mk.injEq] at hcreate
    rw [hcreate.1] at hinsert
    exact ⟨_,hinsert,rfl⟩

theorem save_of_identityUnmodified (hashPassword : String → String) (nowMs : Nat) (users : UserTable)
    (hemail : document.modified .email = false) (hprovider : document.modified .provider = false)
    (hproviderId : document.modified .providerId = false) :
    ∃ next saved, document.save hashPassword nowMs users = .ok (next,saved) ∧
      ∀ id, next.lookup id = if id = document.id.val then
        (users.lookup document.id.val).map (·.assign (document.assignments hashPassword nowMs))
        else users.lookup id := by
  have hquiet : ∀ row : Row, Quiet row (row.assign (document.assignments hashPassword nowMs)) := by
    intro row
    apply quiet_assign
    · simp [Document.assignments,Document.writeField,hemail,jsonbFields]
    · simp [Document.assignments,Document.writeField,hprovider,jsonbFields]
    · simp [Document.assignments,Document.writeField,hproviderId,jsonbFields]
  obtain ⟨next,hnext,hlookup⟩ := modify_of_quiet users document.id.val hquiet
  unfold Document.save
  rw [hnext]
  exact ⟨next,_,rfl,hlookup⟩

theorem applyUpdate_of_quiet (nowMs : Nat) (users : UserTable) (id : String)
    (hquiet : ∀ field ∈ update.changed, field ≠ .email ∧ field ≠ .provider ∧ field ≠ .providerId) :
    ∃ next, applyUpdate nowMs users id update =
        .ok (next,(next.lookup id).map (.load allFields)) ∧
      ∀ other, next.lookup other = if other = id then
        (users.lookup id).map fun row => row.assign (update.assignments nowMs row)
        else users.lookup other := by
  have hrows : ∀ row : Row, Quiet row (row.assign (update.assignments nowMs row)) := by
    intro row
    apply quiet_assign
    · exact if_neg fun hmem => (hquiet _ hmem).1 rfl
    · exact if_neg fun hmem => (hquiet _ hmem).2.1 rfl
    · exact if_neg fun hmem => (hquiet _ hmem).2.2 rfl
  unfold applyUpdate
  cases hrow : users.lookup id with
  | none =>
    refine ⟨users,by simp [hrow],?_⟩
    intro other
    split
    next heq =>
      rw [heq]
      exact hrow
    · rfl
  | some row =>
    obtain ⟨next,hnext,hlookup⟩ := modify_of_quiet users id hrows
    rw [hrow] at hlookup
    exact ⟨next,by simp [hnext],hlookup⟩

end Routiq.Uam.Users
