import Mathlib.Algebra.Order.Ring.Nat
import Routiq.Uam.Registration

/-! Profile edits. `updateBio` takes the first row that has the caller's id,
address or previous address, in whatever order the database returns them. -/
namespace Routiq.Uam.Profile
open Core KeyedTable Actions Users Session Commands AccountRequests Migration List Registration

/-- The rows of a table in the order in which a query happens to meet them. -/
abbrev Scan (users : UserTable) := { rows : List Row // rows.Perm users.rows }

/-- `String.prototype.length`. -/
def utf16Length (text : String) : Nat := (text.toList.map fun char => if char.val < 0x10000 then 1 else 2).sum

def bioTooLong : Option Value → Bool
  | some (.text text) => 500 < utf16Length text
  | some (.array items) => 500 < items.length
  | _ => false

/-- An equation of a filter is never true of null. -/
def columnIs (field : Field) (value : Value) (row : Row) : Bool := value ≠ .null && row.columns field = value

def ownerFilter (user : Document) (row : Row) : Bool :=
  row.id = user.id || columnIs .email ((user.values .email).getD .null) row ||
    columnIs .previousEmail ((user.values .email).getD .null) row

def bioDocument (row : Row) (bio : Option Value) : Document :=
  (Document.load (resolveFields none) row).set .bio (if truthy bio then bio.getD .null else .null)

def updateFailed : Response := ⟨500,"Failed to update bio",none,none,none⟩

section

variable (hashPassword : String → String) {users : UserTable}

def updateBio (nowMs : Nat) (reading writing : DatabaseFate) (scan : Scan users) (user : Document)
    (bio : Option Value) : Response × UserTable :=
  if bioTooLong bio then (⟨400,"Bio must be 500 characters or less",none,none,none⟩,users)
  else
    match reading with
    | .failed _ => (updateFailed,users)
    | .answered =>
      match scan.val.find? (ownerFilter user) with
      | none => (userNotFound,users)
      | some row =>
        match (bioDocument row bio).save hashPassword nowMs users with
        | .error _ => (updateFailed,users)
        | .ok (next,saved) =>
          match writing with
          | .answered => (⟨200,"Bio updated successfully",none,none,some saved⟩,next)
          | .failed applied => (updateFailed,if applied then next else users)

/-- The middleware has loaded the account, and no edit of it touches another row. -/
def OwnRowOnly (users : UserTable) (account : Row) : Prop :=
  ∀ nowMs reading writing (scan : Scan users) bio id, id ≠ account.id.val →
    (updateBio hashPassword nowMs reading writing scan (Document.load (resolveFields none) account)
      bio).2.lookup id = users.lookup id

variable {hashPassword}

theorem ownerFilter_load {account row : Row} :
    ownerFilter (Document.load (resolveFields none) account) row = true ↔
      row.id = account.id ∨ account.columns .email ≠ .null ∧ (row.columns .email = account.columns .email ∨
          row.columns .previousEmail = account.columns .email) := by
  have hloaded : (Document.load (resolveFields none) account).values .email =
      some (account.columns .email) := rfl
  unfold ownerFilter columnIs
  rw [hloaded]
  simp only [Option.getD_some,Bool.or_eq_true,Bool.and_eq_true,decide_eq_true_eq]
  rw [or_assoc,← and_or_left]
  rfl

theorem save_bioDocument (hashPassword : String → String) (users : UserTable) (nowMs : Nat)
    (row : Row) (bio : Option Value) :
    ∃ next saved, (bioDocument row bio).save hashPassword nowMs users = .ok (next,saved) ∧
      ∀ id, next.lookup id = if id = row.id.val then
        (users.lookup row.id.val).map (·.assign ((bioDocument row bio).assignments hashPassword nowMs))
        else users.lookup id :=
  save_of_identityUnmodified hashPassword nowMs users rfl rfl rfl

theorem lookup_updateBio {nowMs : Nat} {reading writing : DatabaseFate} {scan : Scan users}
    {user : Document} {bio : Option Value} {id : String}
    (hother : ∀ row, scan.val.find? (ownerFilter user) = some row → id ≠ row.id.val) :
    (updateBio hashPassword nowMs reading writing scan user bio).2.lookup id = users.lookup id := by
  unfold updateBio
  split
  · rfl
  cases reading with
  | failed applied => rfl
  | answered =>
    dsimp only
    cases hfound : scan.val.find? (ownerFilter user) with
    | none => rfl
    | some row =>
      obtain ⟨next,saved,hsave,hlookup⟩ := save_bioDocument hashPassword users nowMs row bio
      have hkept : next.lookup id = users.lookup id := by rw [hlookup,if_neg (hother row hfound)]
      dsimp only
      rw [hsave]
      cases writing with
      | answered => exact hkept
      | failed applied =>
        cases applied with
        | true => exact hkept
        | false => rfl

/-- A row that the query may find first can be changed: at the least its
`updatedAt` is. -/
theorem exists_changing_edit {row : Row} (hrow : row ∈ users.rows) {user : Document}
    (haccepts : ownerFilter user row = true) :
    ∃ nowMs, ∃ scan : Scan users,
      (updateBio hashPassword nowMs .answered .answered scan user none).2.lookup row.id.val ≠
        users.lookup row.id.val := by
  have hfound : users.lookup row.id.val = some row := Table.lookup_of_mem hrow
  obtain ⟨nowMs,hnow⟩ : ∃ nowMs, row.columns .updatedAt ≠ .date nowMs := by
    by_contra hall
    push Not at hall
    have hdates := (hall 0).symm.trans (hall 1)
    contradiction
  obtain ⟨front,back,hsplit⟩ := append_of_mem hrow
  refine ⟨nowMs,⟨row :: (front ++ back),hsplit ▸ perm_middle.symm⟩,?_⟩
  obtain ⟨next,saved,hsave,hlookup⟩ := save_bioDocument hashPassword users nowMs row none
  have hfirst : (row :: (front ++ back)).find? (ownerFilter user) = some row :=
    find?_cons_of_pos haccepts
  unfold updateBio
  rw [if_neg (by decide)]
  dsimp only
  rw [hfirst]
  dsimp only
  rw [hsave]
  dsimp only
  rw [hlookup,if_pos rfl,hfound]
  intro hsame
  have hrows := congrArg (fun row : Row => row.columns .updatedAt) (Option.some.inj hsame)
  exact hnow hrows.symm

end

theorem own_row_only_iff (hashPassword : String → String) (users : UserTable)
    (account : { row // row ∈ users.rows }) : OwnRowOnly hashPassword users account ↔
      ∀ other ∈ users.rows, other.id ≠ account.val.id → account.val.columns .email ≠ .null →
        other.columns .previousEmail ≠ account.val.columns .email := by
  constructor
  · intro hown other hother hid hemail hprevious
    obtain ⟨nowMs,scan,hchanged⟩ := exists_changing_edit hother
      (ownerFilter_load.mpr (Or.inr ⟨hemail,Or.inr hprevious⟩))
    exact hchanged (hown nowMs .answered .answered scan none other.id.val (fun heq => hid (Subtype.ext heq)))
  · intro hnobody nowMs reading writing scan bio id hid
    refine lookup_updateBio fun row hfound heq => ?_
    have hrow : row ∈ users.rows := scan.property.mem_iff.mp (mem_of_find?_eq_some hfound)
    have hne : row.id ≠ account.val.id := fun hsame => hid (heq.trans (congrArg Subtype.val hsame))
    rcases ownerFilter_load.mp (find?_some hfound) with hsame | ⟨hemail,hshared | hprevious⟩
    · exact hne hsame
    · -- two rows never share an address
      have hapart := (Table.apart_of_mem hrow account.property fun hsame => hne (Subtype.ext hsame)).2
      have hconflict : sameIdentity row account.val = true := by
        unfold sameIdentity
        simp [hshared,hemail]
      exact absurd (hconflict.symm.trans hapart) (by decide)
    · exact hnobody row hrow hne hemail hprevious

/-- Redis is away, so links are kept in memory; every password is accepted. -/
def profileEnv : MigrationEnv := { sampleMigrationEnv with
    account := { sampleAccountEnv with
      session := ⟨id,id,fun _ => none⟩
      codes := { sampleAccountEnv.codes with production := false }
      verifyPassword := fun _ _ => (true,false) } }

def after (action : UamAction Response) (world : World) : World :=
  (outcome (machine id) action 0 (fun _ => ⟨0,false,.replied,.answered,true⟩) world).2

def sampleRegistration (email : String) (uuid : UserId) : RegisterRequest :=
  ⟨email,"pw",none,"","","",uuid,⟨"",none⟩⟩

def sampleCode (char : Char) : String := String.ofList (List.replicate 64 char)

def sampleLinks : DrawnTokens where
  secret mailbox := if mailbox = .current then "current" else "new"
  code mailbox := if mailbox = .current then sampleCode 'c' else sampleCode 'n'

/-- The first account moves from one address to another, and the second account
is registered under the address that it left. -/
def reusedWorld : World := [register profileEnv true (sampleRegistration "x" sampleUserId),
    initiateMigration profileEnv (some ⟨"u1",0⟩) ⟨"y",some "pw",false,sampleLinks⟩,
    redeemEmailLink profileEnv (sampleCode 'c') (sampleCode 'd'),
    verifyCurrentEmail profileEnv (sampleCode 'd') ⟨"",none⟩,
    redeemEmailLink profileEnv (sampleCode 'n') (sampleCode 'm'),
    verifyNewEmail profileEnv (sampleCode 'm') ⟨"u4",by decide⟩ ⟨"",none⟩,
    register profileEnv true (sampleRegistration "x" otherUserId)].foldl
    (fun world action => after action world)
    ⟨noUsers,fun _ => none,.empty,fun _ => none,[]⟩

/-- The other account says hello, and the query meets the row of the first one
before its own. -/
def greeted (account : Document) : UserTable :=
  (updateBio id 1 .answered .answered ⟨reusedWorld.users.rows.reverse,reverse_perm _⟩ account
    (some (.text "hello"))).2

theorem bio_of_former_owner_changes : ∃ account, reusedWorld.users.lookup "u2" = some account ∧
      ((greeted (Document.load (resolveFields none) account)).lookup "u1").map (·.columns .bio) =
        some (.text "hello") ∧
      (reusedWorld.users.lookup "u1").map (·.columns .bio) = some (.text "") ∧
      ¬OwnRowOnly id reusedWorld.users account := by
  obtain ⟨hid,hbefore,hafter⟩ : (reusedWorld.users.lookup "u2").map (·.id.val) = some "u2" ∧
      (reusedWorld.users.lookup "u1").map (·.columns .bio) = some (.text "") ∧
      (findById reusedWorld.users "u2" none).map (fun account =>
        ((greeted account).lookup "u1").map (·.columns .bio)) = some (some (.text "hello")) := by
    decide +kernel
  obtain ⟨account,haccount,hname⟩ := Option.map_eq_some_iff.mp hid
  unfold findById at hafter
  rw [haccount,Option.map_some,Option.map_some,Option.some.injEq] at hafter
  refine ⟨account,haccount,hafter,hbefore,fun hown => ?_⟩
  have hsame := hown 1 .answered .answered ⟨reusedWorld.users.rows.reverse,reverse_perm _⟩
    (some (.text "hello")) "u1" (by rw [hname]; decide)
  unfold greeted at hafter
  rw [hsame,hbefore] at hafter
  exact absurd hafter (by decide)

end Routiq.Uam.Profile
