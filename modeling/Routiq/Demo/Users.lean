import Mathlib.Logic.Function.Basic
import Routiq.Core.Runs

/-! Registration in the demo backend. A call reads the whole store, waits for
its hash, and writes back the store it has read with its own user added. -/
namespace Routiq.Demo.Users
open Core.Runs Function

structure UserRecord where
  (passwordHash homeRegion createdAt : String)

abbrev UserStore := String → Option UserRecord

/-- A password is a sequence of UTF-16 units. -/
structure Registration where
  username : String
  password : List UInt16
  (homeRegion pepper : String)

/-- The properties an object without any has from its prototype. -/
def inherited : List String := ["constructor","hasOwnProperty","isPrototypeOf","propertyIsEnumerable",
  "toLocaleString","toString","valueOf","__proto__","__defineGetter__","__defineSetter__","__lookupGetter__",
  "__lookupSetter__"]

def validateUsername (username : String) : Option String :=
  if 3 ≤ username.length ∧ username.length ≤ 64 ∧
    username.toList.all fun mark => mark.isAlphanum || mark ∈ ['.','_','-'] then none
  else some "username must be 3–64 chars (letters, digits, . _ -)"

def validatePassword (password : List UInt16) : Option String :=
  if password.length < 8 ∨ password.length > 128 then some "password must be 8–128 characters" else none

/-- The failures before a call waits for its hash. -/
def refusal (store : UserStore) (call : Registration) : Option (Nat × String) :=
  match validateUsername call.username, validatePassword call.password with
  | some error, _ | none, some error => some (400,error)
  | none, none =>
    if call.pepper = "" then some (500,"PASSWORD_PEPPER not configured")
    else if (store call.username).isSome ∨ call.username ∈ inherited then some (409,"username already exists")
    else none

inductive Progress where
  | waiting
  | hashing (store : UserStore)
  | refused (status : Nat) (error : String)
  | registered (homeRegion : String)

structure Backend (Index : Type) where
  store : UserStore
  calls : Index → Progress

section
variable {Index : Type} [DecidableEq Index] (calls : Index → Registration) (backend : Backend Index)

/-- What the event loop runs of one call, with the hash and the date of its record. -/
def registerUser (event : Index × String × String) : Backend Index :=
  let call := calls event.1
  match backend.calls event.1 with
  | .waiting =>
    { backend with calls := update backend.calls event.1 (match refusal backend.store call with
      | some (status,error) => .refused status error
      | none => .hashing backend.store) }
  | .hashing store =>
    let homeRegion := if call.homeRegion = "" then "US" else call.homeRegion
    ⟨update store call.username (some ⟨event.2.1,homeRegion,event.2.2⟩),
      update backend.calls event.1 (.registered homeRegion)⟩
  | .refused .. | .registered .. => backend

/-- Every name is registered at most once, and a registered name is in the store. -/
structure Kept : Prop where
  once : ∀ first second region other, backend.calls first = .registered region →
    backend.calls second = .registered other → (calls first).username = (calls second).username → first = second
  present : ∀ index region, backend.calls index = .registered region →
    (backend.store (calls index).username).isSome

/-- And a valid name that is not in the store can be registered. -/
structure Linearized : Prop extends Kept calls backend where
  available : ∀ index, backend.calls index = .waiting → validateUsername (calls index).username = none →
    validatePassword (calls index).password = none → (calls index).pepper ≠ "" →
    backend.store (calls index).username = none → ∀ hash date, ∃ region,
      (run (registerUser calls) backend [(index,hash,date),(index,hash,date)]).calls index = .registered region

/-- No call goes on to its hash while another one waits for its own. -/
def Alone (event : Index × String × String) : Prop :=
  backend.calls event.1 = .waiting → refusal backend.store (calls event.1) = none →
    ∀ other store, backend.calls other ≠ .hashing store

structure Intact : Prop extends Kept calls backend where
  current : ∀ index store, backend.calls index = .hashing store →
    store = backend.store ∧ store (calls index).username = none
  single : ∀ first second store other, backend.calls first = .hashing store →
    backend.calls second = .hashing other → first = second

variable {calls backend}

theorem intact_registerUser {event : Index × String × String} (halone : Alone calls backend event)
    (hintact : Intact calls backend) : Intact calls (registerUser calls backend event) := by
  obtain ⟨⟨honce,hpresent⟩,hcurrent,hsingle⟩ := id hintact
  unfold Alone at halone
  unfold registerUser
  cases hcall : backend.calls event.1 with
  | waiting =>
    have hfree : refusal backend.store (calls event.1) = none →
        backend.store (calls event.1).username = none := by
      unfold refusal
      cases backend.store (calls event.1).username <;> grind
    refine ⟨⟨?_,?_⟩,?_,?_⟩ <;> grind [update_apply]
  | hashing store => refine ⟨⟨?_,?_⟩,?_,?_⟩ <;> grind [update_apply]
  | refused | registered => exact hintact

theorem linearized_of_alone (store : UserStore) {events : List (Index × String × String)}
    (hnames : ∀ index, (calls index).username ∉ inherited)
    (halone : Along (registerUser calls) (Alone calls) ⟨store,fun _ => .waiting⟩ events) :
    Linearized calls (run (registerUser calls) ⟨store,fun _ => .waiting⟩ events) := by
  have hintact := invariant_run (fun _ _ => intact_registerUser) halone ⟨⟨by simp,by simp⟩,by simp,by simp⟩
  refine ⟨hintact.toKept,?_⟩
  generalize run (registerUser calls) _ events = backend
  intro index hwaiting husername hpassword hpepper hfree hash date
  have hpasses : refusal backend.store (calls index) = none := by
    simp [refusal,husername,hpassword,hpepper,hfree,hnames index]
  simp [registerUser,hwaiting,hpasses]

end

def sampleCalls (first second : String) (later : Bool) : Registration :=
  ⟨if later then second else first,.replicate 8 97,"","pepper"⟩

def registered (first second : String) (order : List Bool) : Backend Bool :=
  run (registerUser (sampleCalls first second)) ⟨fun _ => none,fun _ => .waiting⟩ (order.map (·,"hash","date"))

theorem linearized_in_turn :
    Linearized (sampleCalls "ann" "bob") (registered "ann" "bob" [false,false,true,true]) := by
  refine linearized_of_alone _ (by decide +kernel) ⟨?_,?_,?_,?_,trivial⟩
  · exact fun _ _ _ _ hhashing => nomatch hhashing
  · exact fun hwaiting => nomatch hwaiting
  · intro _ _ other store hhashing
    cases other <;> cases hhashing
  · exact fun hwaiting => nomatch hwaiting

/-- Of two calls in progress the later one drops the user of the other or
registers the same name again, and a name of the prototype is refused. -/
theorem overlapping_not_linearized :
    ¬Linearized (sampleCalls "ann" "bob") (registered "ann" "bob" [false,true,false,true]) ∧
      ¬Linearized (sampleCalls "ann" "ann") (registered "ann" "ann" [false,true,false,true]) ∧
      ¬Linearized (sampleCalls "constructor" "bob") (registered "constructor" "bob" []) := by
  refine ⟨?_,?_,?_⟩
  · intro hlinearized
    have hpresent := hlinearized.present false "US" rfl
    contradiction
  · intro hlinearized
    have hsame := hlinearized.once false true "US" "US" rfl rfl rfl
    contradiction
  · intro hlinearized
    obtain ⟨region,hregion⟩ := hlinearized.available false rfl rfl rfl (by decide) rfl "hash" "date"
    cases hregion

end Routiq.Demo.Users
