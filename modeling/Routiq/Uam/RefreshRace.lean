import Routiq.Core.Runs
import Routiq.Uam.Session

/-! Concurrent refresh requests. Every request takes its database statements
one at a time, in any interleaving with the others. The update of a rotation
does not repeat the check it relies on, so a token stays single use as long as
no two requests for it are between the check and the update at once. -/
namespace Routiq.Uam.RefreshRace
open Core.Runs Core.KeyedTable Users Session List Option

structure Server (ι : Type) where
  users : UserTable
  phases : ι → Phase

section

variable {ι : Type} [DecidableEq ι] (env : SessionEnv) (requests : ι → RefreshRequest)

section
variable (server : Server ι)

def Server.put (request : ι) (users : UserTable) (phase : Phase) : Server ι :=
  ⟨users,fun other => if other = request then phase else server.phases other⟩

def serverStep (event : Nat × ι) : Server ι :=
  let moved := advance env event.1 (requests event.2) server.users (server.phases event.2)
  server.put event.2 moved.1 moved.2

def Server.initial (users : UserTable) : Server ι := ⟨users,fun _ => .received⟩

def SingleUse : Prop :=
  ∀ first second, server.phases first = .succeeded → server.phases second = .succeeded →
    (requests first).presented = (requests second).presented → first = second

/-- A request that is about to make the rotation's check finds no other one
for the same token between that check and its update. -/
def NoRival (event : Nat × ι) : Prop :=
  ∀ userId, server.phases event.2 = .checked userId →
    ∀ other, other ≠ event.2 → (requests other).presented = (requests event.2).presented →
      ∀ rivalId storedKey, server.phases other ≠ .rotating rivalId storedKey

end

def tokenOwner (token : String) : Option String := (env.decodeRefresh token).map TokenPayload.userId
def issuedHash (request : ι) : String := hashRefreshToken env (requests request).issued.refreshToken

/-- New refresh tokens are random: their hashes differ from each other and
from every stored one. -/
structure Fresh (users : UserTable) : Prop where
  distinct : Function.Injective (issuedHash env requests)
  unstored : ∀ request userId, issuedHash env requests request ∉ storedHashes users userId

/-! ## What one statement does -/

def late : Phase → Bool
  | .rotating _ _ | .succeeded => true
  | _ => false

/-- A statement stores no new hash, or sees the presented one, or rotates. -/
inductive Moved (request : RefreshRequest) (users : UserTable) (before : Phase) (next : UserTable)
    (after : Phase) : Prop where
  | settled (hfewer : ∀ userId, storedHashes next userId ⊆ storedHashes users userId)
      (hlate : late after = true → after = before)
      (hdone : before = .succeeded → after = .succeeded)
      (hchecked : ∀ userId, after = .checked userId → tokenOwner env request.presented = some userId)
  | seen (userId : String) (hbefore : before = .checked userId) (hsame : next = users)
      (hafter : after = .rotating userId (hashRefreshToken env request.presented))
      (hstored : hashRefreshToken env request.presented ∈ storedHashes users userId)
  | rotated (userId storedKey : String) (hbefore : before = .rotating userId storedKey)
      (hafter : after = .succeeded)
      (hhashes : ∀ other, storedHashes next other =
        if other = userId then rotatedHashes (storedHashes users userId) storedKey
          (hashRefreshToken env request.issued.refreshToken)
        else storedHashes users other)

theorem Moved.unchanged {request : RefreshRequest} {users : UserTable} {before after : Phase}
    (hlate : late after = false) (hdone : before ≠ .succeeded)
    (hchecked : ∀ userId, after = .checked userId → tokenOwner env request.presented = some userId) :
    Moved env request users before users after :=
  .settled (fun _ _ hmem => hmem) (fun htrue => by simp [hlate] at htrue)
    (fun heq => absurd heq hdone) hchecked

variable (nowMs : Nat) (request : RefreshRequest) (users : UserTable)

theorem moved_received : Moved env request users .received (advance env nowMs request users .received).1
      (advance env nowMs request users .received).2 := by
  simp only [advance]
  split
  · exact .unchanged env rfl (by simp) (by simp)
  split
  · exact .unchanged env rfl (by simp) (by simp)
  rename_i payload hverified
  split
  · exact .unchanged env rfl (by simp) (by simp)
  rename_i user huser
  split
  · exact .unchanged env rfl (by simp) (by simp)
  · refine .unchanged env rfl (by simp) ?_
    intro other hother
    obtain ⟨row,hrow,rfl⟩ := map_eq_some_iff.mp huser
    have hid : row.id.val = payload.userId := (Table.mem_of_lookup hrow).2
    rw [tokenOwner,((verifyRefreshToken_eq_some env).mp hverified).1,map_some,← hid]
    exact congrArg some (Phase.checked.inj hother)

theorem moved_checked (userId : String) :
    Moved env request users (.checked userId) (advance env nowMs request users (.checked userId)).1
      (advance env nowMs request users (.checked userId)).2 := by
  simp only [advance,refreshTokens_findById]
  split
  · exact .unchanged env rfl (by simp) (by simp)
  next storedKey hfound =>
    obtain ⟨rfl,hstored⟩ := findStoredRefreshToken_eq_some env hfound
    exact .seen userId rfl rfl rfl hstored

theorem moved_rotating (userId storedKey : String) : Moved env request users (.rotating userId storedKey)
      (advance env nowMs request users (.rotating userId storedKey)).1
      (advance env nowMs request users (.rotating userId storedKey)).2 := by
  simp only [advance]
  cases hrow : users.lookup userId with
  | none =>
    rw [show applyUpdate nowMs users userId (rotateUpdate env storedKey request.issued) =
      .ok (users,none) by simp [applyUpdate,hrow]]
    exact .unchanged env rfl (by simp) (by simp)
  | some row =>
    obtain ⟨next,document,hok,-,hhashes⟩ := applyUpdate_rotate env nowMs hrow storedKey request.issued
    rw [hok]
    exact .rotated userId storedKey rfl rfl hhashes

theorem moved_clearing (row : Row) :
    Moved env request users (.clearing row) (advance env nowMs request users (.clearing row)).1
      (advance env nowMs request users (.clearing row)).2 := by
  obtain ⟨next,saved,hok,hhashes⟩ := save_clearedSessions env nowMs users row
  simp only [advance,hok]
  refine .settled ?_ (by simp [late]) (by simp) (by simp)
  intro userId
  rw [hhashes]
  split
  · exact nil_subset _
  · exact .refl _

theorem moved_advance (phase : Phase) :
    Moved env request users phase (advance env nowMs request users phase).1
      (advance env nowMs request users phase).2 := by
  cases phase with
  | received => exact moved_received env nowMs request users
  | checked userId => exact moved_checked env nowMs request users userId
  | rotating userId storedKey => exact moved_rotating env nowMs request users userId storedKey
  | invalidating userId =>
    simp only [advance]
    split
    · exact .unchanged env rfl (by simp) (by simp)
    · exact .unchanged env rfl (by simp) (by simp)
  | clearing row => exact moved_clearing env nowMs request users row
  | succeeded => exact .settled (fun _ _ hmem => hmem) (fun _ => rfl) (fun _ => rfl) (by simp [advance])
  | refused message | failed message => exact .unchanged env rfl (by simp) (by simp [advance])

/-! ## The invariant -/

theorem mem_rotatedHashes {stored : List String} {storedKey newHash token : String}
    (hmem : token ∈ rotatedHashes stored storedKey newHash) :
    (token ∈ stored ∨ token = newHash) ∧ token ≠ storedKey := by
  obtain ⟨hpushed,hkept⟩ := mem_filter.mp hmem
  have hany : token ∈ stored ++ [newHash] := by
    unfold pushedHashes sliceItems at hpushed
    split at hpushed
    · exact drop_subset _ _ hpushed
    · exact take_subset _ _ hpushed
  exact ⟨by simpa using hany,by simpa using hkept⟩

section
variable (server : Server ι)

structure RaceInv : Prop where
  checked : ∀ request userId, server.phases request = .checked userId →
    tokenOwner env (requests request).presented = some userId
  rotating : ∀ request userId storedKey, server.phases request = .rotating userId storedKey →
    tokenOwner env (requests request).presented = some userId ∧
      storedKey = hashRefreshToken env (requests request).presented
  /-- An exchanged token is no longer stored. -/
  spent : ∀ request userId, server.phases request = .succeeded →
    tokenOwner env (requests request).presented = some userId →
      hashRefreshToken env (requests request).presented ∉ storedHashes server.users userId
  /-- At most one request for a token has passed the rotation's check. -/
  alone : ∀ first second, late (server.phases first) = true → late (server.phases second) = true →
    (requests first).presented = (requests second).presented → first = second
  /-- A token that has not been handed out is neither stored nor presented. -/
  unissued : ∀ request, server.phases request ≠ .succeeded →
    (∀ userId, issuedHash env requests request ∉ storedHashes server.users userId) ∧
      ∀ other, late (server.phases other) = true →
        hashRefreshToken env (requests other).presented ≠ issuedHash env requests request

omit [DecidableEq ι] in
theorem raceInv_initial {users : UserTable} (hfresh : Fresh env requests users) :
    RaceInv env requests (.initial users) := by
  refine ⟨?_,?_,?_,?_,?_⟩
  · intro request userId hphase
    contradiction
  · intro request userId storedKey hphase
    contradiction
  · intro request userId hphase
    contradiction
  · intro first second hlate
    contradiction
  · intro request _
    refine ⟨hfresh.unstored request,?_⟩
    intro other hlate
    contradiction

@[simp] theorem phases_put_self (request : ι) (users : UserTable)
    (phase : Phase) : (server.put request users phase).phases request = phase := if_pos rfl

theorem phases_put_of_ne {request other : ι} (users : UserTable) (phase : Phase)
    (hne : other ≠ request) : (server.put request users phase).phases other = server.phases other :=
  if_neg hne

end

theorem phases_put_eq {server : Server ι} {request other : ι} {users : UserTable} {phase target : Phase}
    (hphase : (server.put request users phase).phases other = target) :
    other = request ∧ phase = target ∨ other ≠ request ∧ server.phases other = target := by
  by_cases hsame : other = request
  · rw [hsame,phases_put_self] at hphase
    exact Or.inl ⟨hsame,hphase⟩
  · rw [phases_put_of_ne _ _ _ hsame] at hphase
    exact Or.inr ⟨hsame,hphase⟩

section

variable {env requests} {server : Server ι} {request : ι} {next : UserTable} {after : Phase}

variable (hinv : RaceInv env requests server)
include hinv

theorem raceInv_settled (hfewer : ∀ userId, storedHashes next userId ⊆ storedHashes server.users userId)
    (hlate : late after = true → after = server.phases request)
    (hdone : server.phases request = .succeeded → after = .succeeded)
    (hchecked : ∀ userId, after = .checked userId →
      tokenOwner env (requests request).presented = some userId) :
    RaceInv env requests (server.put request next after) := by
  have hbefore : ∀ other, late ((server.put request next after).phases other) = true →
      (server.put request next after).phases other = server.phases other := by
    intro other hother
    rcases phases_put_eq (rfl : (server.put request next after).phases other = _) with
      ⟨rfl,hmoved⟩ | ⟨-,hold⟩
    · rw [← hmoved] at hother ⊢
      exact hlate hother
    · exact hold.symm
  refine ⟨?_,?_,?_,?_,?_⟩
  · intro other userId hphase
    rcases phases_put_eq hphase with ⟨rfl,hmoved⟩ | ⟨-,hold⟩
    · exact hchecked userId hmoved
    · exact hinv.checked other userId hold
  · intro other userId storedKey hphase
    have hold := hbefore other (by rw [hphase]; rfl)
    exact hinv.rotating other userId storedKey (hold.symm.trans hphase)
  · intro other userId hphase hverified hstored
    have hold := hbefore other (by rw [hphase]; rfl)
    exact hinv.spent other userId (hold.symm.trans hphase) hverified (hfewer userId hstored)
  · intro first second hfirst hsecond
    rw [hbefore first hfirst] at hfirst
    rw [hbefore second hsecond] at hsecond
    exact hinv.alone first second hfirst hsecond
  · intro other hphase
    have hold : server.phases other ≠ .succeeded := by
      intro hsucceeded
      by_cases hsame : other = request
      · subst hsame
        exact hphase ((phases_put_self ..).trans (hdone hsucceeded))
      · exact hphase ((phases_put_of_ne server next after hsame).trans hsucceeded)
    obtain ⟨hunstored,hunused⟩ := hinv.unissued other hold
    refine ⟨fun userId hstored => hunstored userId (hfewer userId hstored),?_⟩
    intro third hthird
    rw [hbefore third hthird] at hthird
    exact hunused third hthird

theorem raceInv_seen {userId : String} (hphase : server.phases request = .checked userId)
    (hstored : hashRefreshToken env (requests request).presented ∈ storedHashes server.users userId)
    (hrival : ∀ other, other ≠ request → (requests other).presented = (requests request).presented →
      ∀ rivalId storedKey, server.phases other ≠ .rotating rivalId storedKey) :
    RaceInv env requests (server.put request server.users
      (.rotating userId (hashRefreshToken env (requests request).presented))) := by
  have hverified := hinv.checked request userId hphase
  have hclear : ∀ other, other ≠ request → (requests other).presented = (requests request).presented →
      late (server.phases other) = false := by
    intro other hne htoken
    cases hother : server.phases other with
    | rotating rivalId storedKey => exact absurd hother (hrival other hne htoken rivalId storedKey)
    | succeeded =>
      rw [← htoken] at hverified hstored
      exact absurd hstored (hinv.spent other userId hother hverified)
    | received | checked | invalidating | clearing | refused | failed => rfl
  refine ⟨?_,?_,?_,?_,?_⟩
  · intro other otherId hother
    rcases phases_put_eq hother with ⟨-,hmoved⟩ | ⟨-,hold⟩
    · contradiction
    · exact hinv.checked other otherId hold
  · intro other otherId storedKey hother
    rcases phases_put_eq hother with ⟨rfl,hmoved⟩ | ⟨-,hold⟩
    · cases hmoved
      exact ⟨hverified,rfl⟩
    · exact hinv.rotating other otherId storedKey hold
  · intro other otherId hother
    rcases phases_put_eq hother with ⟨-,hmoved⟩ | ⟨-,hold⟩
    · contradiction
    · exact hinv.spent other otherId hold
  · intro first second hfirst hsecond htoken
    by_cases hsameFirst : first = request
    · by_cases hsameSecond : second = request
      · exact hsameFirst.trans hsameSecond.symm
      · rw [phases_put_of_ne _ _ _ hsameSecond,
          hclear second hsameSecond (htoken.symm.trans (congrArg _ (congrArg _ hsameFirst)))] at hsecond
        contradiction
    · rw [phases_put_of_ne _ _ _ hsameFirst] at hfirst
      by_cases hsameSecond : second = request
      · subst hsameSecond
        rw [hclear first hsameFirst htoken] at hfirst
        contradiction
      · rw [phases_put_of_ne _ _ _ hsameSecond] at hsecond
        exact hinv.alone first second hfirst hsecond htoken
  · intro other hother
    have hold : server.phases other ≠ .succeeded := by
      intro hsucceeded
      by_cases hsame : other = request
      · subst hsame
        rw [hphase] at hsucceeded
        contradiction
      · exact hother ((phases_put_of_ne _ _ _ hsame).trans hsucceeded)
    obtain ⟨hunstored,hunused⟩ := hinv.unissued other hold
    refine ⟨hunstored,?_⟩
    intro third hthird
    by_cases hsame : third = request
    · subst hsame
      intro heq
      exact hunstored userId (heq ▸ hstored)
    · rw [phases_put_of_ne _ _ _ hsame] at hthird
      exact hunused third hthird

theorem raceInv_rotated (hfresh : Function.Injective (issuedHash env requests)) {userId storedKey : String}
    (hphase : server.phases request = .rotating userId storedKey)
    (hhashes : ∀ other, storedHashes next other =
      if other = userId then
        rotatedHashes (storedHashes server.users userId) storedKey (issuedHash env requests request)
      else storedHashes server.users other) :
    RaceInv env requests (server.put request next .succeeded) := by
  obtain ⟨hverified,hkey⟩ := hinv.rotating request userId storedKey hphase
  have hsubset : ∀ otherId token, token ∈ storedHashes next otherId →
      token ∈ storedHashes server.users otherId ∨ token = issuedHash env requests request := by
    intro otherId token hmem
    rw [hhashes] at hmem
    split at hmem
    next heq =>
      rw [heq]
      exact (mem_rotatedHashes hmem).1
    · exact Or.inl hmem
  have hlateBefore : ∀ other, late ((server.put request next .succeeded).phases other) = true →
      late (server.phases other) = true := by
    intro other hother
    by_cases hsame : other = request
    · rw [hsame,hphase]
      rfl
    · rwa [phases_put_of_ne _ _ _ hsame] at hother
  have hissuing := hinv.unissued request (by rw [hphase]; exact fun heq => nomatch heq)
  refine ⟨?_,?_,?_,?_,?_⟩
  · intro other otherId hother
    rcases phases_put_eq hother with ⟨-,hmoved⟩ | ⟨-,hold⟩
    · contradiction
    · exact hinv.checked other otherId hold
  · intro other otherId otherKey hother
    rcases phases_put_eq hother with ⟨-,hmoved⟩ | ⟨-,hold⟩
    · contradiction
    · exact hinv.rotating other otherId otherKey hold
  · intro other otherId hother hotherVerified hmem
    rcases phases_put_eq hother with ⟨rfl,-⟩ | ⟨-,hold⟩
    · obtain rfl := some.inj (hverified.symm.trans hotherVerified)
      change _ ∈ storedHashes next userId at hmem
      rw [hhashes,if_pos rfl] at hmem
      exact (mem_rotatedHashes hmem).2 hkey.symm
    · rcases hsubset otherId _ hmem with hstored | hissued
      · exact hinv.spent other otherId hold hotherVerified hstored
      · exact hissuing.2 other (by rw [hold]; rfl) hissued
  · intro first second hfirst hsecond
    exact hinv.alone first second (hlateBefore first hfirst) (hlateBefore second hsecond)
  · intro other hother
    have hne : other ≠ request := by
      intro hsame
      subst hsame
      exact hother (phases_put_self ..)
    rw [phases_put_of_ne _ _ _ hne] at hother
    obtain ⟨hunstored,hunused⟩ := hinv.unissued other hother
    refine ⟨?_,fun third hthird => hunused third (hlateBefore third hthird)⟩
    intro otherId hmem
    rcases hsubset otherId _ hmem with hstored | hissued
    · exact hunstored otherId hstored
    · exact hne (hfresh hissued)

end

theorem raceInv_step (hfresh : Function.Injective (issuedHash env requests)) (server : Server ι)
    (event : Nat × ι) (hrival : NoRival requests server event) (hinv : RaceInv env requests server) :
    RaceInv env requests (serverStep env requests server event) := by
  rcases moved_advance env event.1 (requests event.2) server.users (server.phases event.2) with
    ⟨hfewer,hlate,hdone,hchecked⟩ | ⟨userId,hbefore,hsame,hafter,hstored⟩ |
    ⟨userId,storedKey,hbefore,hafter,hhashes⟩
  · exact raceInv_settled hinv hfewer hlate hdone hchecked
  · have hput := raceInv_seen hinv hbefore hstored (hrival userId hbefore)
    unfold serverStep
    dsimp only
    rwa [hsame,hafter]
  · have hput := raceInv_rotated hinv hfresh hbefore hhashes
    unfold serverStep
    dsimp only
    rwa [hafter]

/-- In every interleaving of any number of refresh requests in which no
request makes the rotation's check while another one for the same token is
between that check and its update, every token is exchanged at most once. -/
theorem refresh_singleUse_of_noRival (users : UserTable) (events : List (Nat × ι))
    (hfresh : Fresh env requests users)
    (hrival : Along (serverStep env requests) (NoRival requests) (.initial users) events) :
    SingleUse requests (run (serverStep env requests) (.initial users) events) := by
  have hinv := invariant_run (raceInv_step env requests hfresh.distinct) hrival
    (raceInv_initial env requests hfresh)
  intro first second hfirst hsecond htoken
  exact hinv.alone first second (by rw [hfirst]; rfl) (by rw [hsecond]; rfl) htoken

/-! ## Two rivals -/

def alternating (nowMs : Nat) (first second : ι) : List (Nat × ι) :=
  [(nowMs,first),(nowMs,second),(nowMs,first),(nowMs,second),(nowMs,first),(nowMs,second)]

variable {env requests} {first : ι}

variable {server : Server ι} (halone : ∀ other, other ≠ first → server.phases other = .received)
include halone

omit [DecidableEq ι] in
theorem noRival_alone (nowMs : Nat) : NoRival requests server (nowMs,first) := by
  intro _ _ other hother _ rivalId storedKey hphase
  rw [halone other hother] at hphase
  contradiction

theorem along_noRival_alone (times : List Nat) :
    Along (serverStep env requests) (NoRival requests) server (times.map fun nowMs => (nowMs,first)) := by
  induction times generalizing server with
  | nil => trivial
  | cons nowMs times ih =>
    refine ⟨noRival_alone halone nowMs,ih ?_⟩
    intro other hother
    exact (phases_put_of_ne _ _ _ hother).trans (halone other hother)

end

def sampleRivals (request : Fin 2) : RefreshRequest where
  presented := sampleToken 0
  issued := ⟨sampleToken (if request = 0 then 1 else 2),some "00000000-0000-4000-8000-000000000000"⟩

theorem fresh_sampleRivals : Fresh sampleSessionEnv sampleRivals (accountTable [sampleDigest 0]) := by
  constructor
  · intro first second
    revert first second
    decide +kernel
  · intro request userId
    rw [storedHashes_accountTable]
    split
    · revert request
      decide +kernel
    · simp

theorem refresh_singleUse_sampleRivals :
    SingleUse sampleRivals (run (serverStep sampleSessionEnv sampleRivals)
      (.initial (accountTable [sampleDigest 0])) [(1700000000000,0),(1700000000000,0),(1700000000000,0)]) :=
  refresh_singleUse_of_noRival sampleSessionEnv sampleRivals (accountTable [sampleDigest 0])
    [(1700000000000,0),(1700000000000,0),(1700000000000,0)] fresh_sampleRivals
    (along_noRival_alone (fun _ _ => rfl) [1700000000000,1700000000000,1700000000000])

/-- Two requests with the one stored token, statement by statement in turn,
both get a new pair. -/
theorem token_exchanged_twice : Fresh sampleSessionEnv sampleRivals (accountTable [sampleDigest 0]) ∧
      ¬SingleUse sampleRivals (run (serverStep sampleSessionEnv sampleRivals)
        (.initial (accountTable [sampleDigest 0])) (alternating 1700000000000 0 1)) := by
  refine ⟨fresh_sampleRivals,?_⟩
  intro hsingle
  have hsame : (0 : Fin 2) = 1 := hsingle 0 1 (by decide +kernel) (by decide +kernel) rfl
  contradiction

end Routiq.Uam.RefreshRace
