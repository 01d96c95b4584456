import Mathlib.Data.List.Basic
import Mathlib.Data.List.Nodup
import Mathlib.Order.Defs.PartialOrder
import Mathlib.Algebra.Group.Nat.Defs

/-! The part of Redis that publishers and subscribers of a change feed share:
string keys with an optional expiry, and sorted sets of members with integer
scores. Scores stand for doubles in their exact integer range. -/
namespace Routiq.Core.Redis
open Function Option List

/-! ## Range bounds -/

inductive Bound where
  | negInf
  | score (value : Int)
deriving DecidableEq

namespace Bound

instance : LE Bound where
  le first second :=
    match first, second with
    | .negInf, _ => True
    | .score _, .negInf => False
    | .score first, .score second => first ≤ second

theorem negInf_le (bound : Bound) : negInf ≤ bound := trivial

theorem score_le_score {first second : Int} : score first ≤ score second ↔ first ≤ second := Iff.rfl

instance : DecidableLE Bound
  | .negInf, _ => .isTrue trivial
  | .score _, .negInf => .isFalse id
  | .score first, .score second => inferInstanceAs (Decidable (first ≤ second))

instance : Preorder Bound where
  le_refl bound := by
    cases bound with
    | negInf => trivial
    | score value => exact Int.le_refl value
  le_trans first second third hfirst hsecond := by
    cases first with
    | negInf => trivial
    | score value =>
      cases second with
      | negInf => contradiction
      | score middle =>
        cases third with
        | negInf => contradiction
        | score upper => exact Int.le_trans (score_le_score.mp hfirst) (score_le_score.mp hsecond)

instance : DecidableLT Bound := decidableLTOfDecidableLE

def lowered : Bound → Int → Bound
  | .negInf, _ => .negInf
  | .score value, amount => .score (value - amount)

theorem lowered_mono {first second : Bound} (hle : first ≤ second) (amount : Int) :
    first.lowered amount ≤ second.lowered amount := by
  cases first with
  | negInf => trivial
  | score value =>
    cases second with
    | negInf => contradiction
    | score upper => exact Int.sub_le_sub_right (score_le_score.mp hle) amount

end Bound

/-! ## Sorted sets -/

structure SortedSet where
  entries : List (String × Int)
  nodup : (entries.map Prod.fst).Nodup

namespace SortedSet

def empty : SortedSet := ⟨[],nodup_nil⟩

def score (set : SortedSet) (member : String) : Option Int :=
  (set.entries.find? fun entry => entry.1 = member).map Prod.snd

variable (set : SortedSet)

theorem mem_entries_iff (member : String) (value : Int) :
    (member,value) ∈ set.entries ↔ set.score member = some value := by
  obtain ⟨entries,hnodup⟩ := set
  unfold score
  induction entries with
  | nil => simp
  | cons entry entries ih =>
    simp only [map_cons,nodup_cons] at hnodup
    rw [mem_cons,find?_cons]
    by_cases hkey : entry.1 = member
    · have habsent : (member,value) ∉ entries := by
        intro hmem
        exact hnodup.1 (hkey ▸ mem_map_of_mem hmem)
      simp only [hkey,decide_true,map_some,some.injEq,habsent,or_false]
      constructor
      · intro heq
        rw [← heq]
      · intro heq
        exact Prod.ext hkey.symm heq.symm
    · have hne : (member,value) ≠ entry := fun heq => hkey (heq ▸ rfl)
      simp only [hkey,decide_false,hne,false_or]
      exact ih hnodup.2

def retain (set : SortedSet) (test : Int → Bool) : SortedSet where
  entries := set.entries.filter fun entry => test entry.2
  nodup := set.nodup.sublist (filter_sublist.map Prod.fst)

theorem score_retain (test : Int → Bool) (member : String) :
    (set.retain test).score member = (set.score member).filter test := by
  apply Option.ext
  intro value
  rw [← mem_entries_iff,retain,mem_filter,mem_entries_iff]
  simp [filter_eq_some_iff]

/-- `ZADD`: insert a member or move it to a new score. -/
def add (set : SortedSet) (member : String) (value : Int) : SortedSet where
  entries := (member,value) :: set.entries.filter fun entry => entry.1 ≠ member
  nodup := by
    rw [map_cons,nodup_cons]
    constructor
    · intro hmem
      obtain ⟨entry,hentry,hkey⟩ := mem_map.mp hmem
      simp [hkey] at hentry
    · exact set.nodup.sublist (filter_sublist.map Prod.fst)

theorem score_add (member : String) (value : Int) (other : String) : (set.add member value).score other =
      if other = member then some value else set.score other := by
  apply Option.ext
  intro found
  rw [← mem_entries_iff]
  by_cases hother : other = member
  · subst hother
    simp [add,eq_comm]
  · simp [add,hother,mem_entries_iff]

/-- `ZRANGEBYSCORE from +inf WITHSCORES`. The order of the reply is not part
of the model: every reader folds it into a map over distinct members. -/
def rangeFrom (set : SortedSet) (lower : Bound) : List (String × Int) :=
  set.entries.filter fun entry => lower ≤ .score entry.2

/-- `ZREMRANGEBYSCORE -inf upper`. -/
def removeUpTo (set : SortedSet) (upper : Int) : SortedSet := set.retain fun value => upper < value

theorem score_removeUpTo (upper : Int) (member : String) : (set.removeUpTo upper).score member =
      (set.score member).filter fun value => upper < value :=
  score_retain set _ member

end SortedSet

/-! ## The store -/

structure StringEntry where
  value : String
  expiresAtMs : Option Nat
deriving DecidableEq

structure Store where
  strings : String → Option StringEntry
  sortedSets : String → SortedSet

def StringEntry.live (nowMs : Nat) (entry : StringEntry) : Bool :=
  match entry.expiresAtMs with
  | none => true
  | some expiry => nowMs < expiry

namespace Store

def empty : Store := ⟨fun _ => none,fun _ => .empty⟩

section
variable (store : Store)

/-- `GET`: an expired key reads as absent. -/
def get (nowMs : Nat) (key : String) : Option String :=
  ((store.strings key).filter (StringEntry.live nowMs)).map StringEntry.value

def put (key : String) (entry : StringEntry) : Store :=
  { store with strings := update store.strings key (some entry) }

/-- `SET key value`: no expiry. -/
def set (key value : String) : Store := store.put key ⟨value,none⟩

/-- The expiry times `SET … EX` accepts: a positive number of seconds whose
deadline fits a signed 64-bit millisecond clock. -/
def expireAllowed (nowMs ttlSecs : Nat) : Bool := 0 < ttlSecs && nowMs + ttlSecs * 1000 < 2^63

section
variable (nowMs : Nat) (key value : String) (ttlSecs : Nat)

/-- `SET key value EX ttl`, or no effect and an error reply. -/
def setEx : Option Store :=
  if expireAllowed nowMs ttlSecs then
    some (store.put key ⟨value,some (nowMs + ttlSecs * 1000)⟩)
  else none

/-- `SET key value NX EX ttl`, for a positive `ttl` in range: whether the key was
absent, and then it is set. -/
def setNxEx : Bool × Store :=
  if (store.get nowMs key).isSome then (false,store)
  else (true,store.put key ⟨value,some (nowMs + ttlSecs * 1000)⟩)

end

/-- `DEL key`. -/
def del (key : String) : Store := { store with strings := update store.strings key none }

def updateSortedSet (key : String) (f : SortedSet → SortedSet) : Store :=
  { store with sortedSets := update store.sortedSets key (f (store.sortedSets key)) }

end

variable (store : Store)

@[simp] theorem get_put_self (nowMs : Nat) (key : String) (entry : StringEntry) :
    (store.put key entry).get nowMs key =
      ((some entry).filter (StringEntry.live nowMs)).map StringEntry.value := by
  simp [get,put]

@[simp] theorem get_set_self (nowMs : Nat) (key value : String) :
    (store.set key value).get nowMs key = some value := by
  simp [set,StringEntry.live,Option.filter]

@[simp] theorem sortedSets_updateSortedSet_self (name : String) (f : SortedSet → SortedSet) :
    (store.updateSortedSet name f).sortedSets name = f (store.sortedSets name) := by
  simp [updateSortedSet]

theorem sortedSets_updateSortedSet_of_ne {name other : String} (f : SortedSet → SortedSet)
    (hne : other ≠ name) : (store.updateSortedSet name f).sortedSets other = store.sortedSets other := by
  simp [updateSortedSet,update_of_ne hne]

variable {nowMs : Nat} {key : String}

theorem setEx_eq_some {store next : Store} {ttlSecs : Nat} {value : String}
    (hset : store.setEx nowMs key value ttlSecs = some next) :
    0 < ttlSecs ∧ next = store.put key ⟨value,some (nowMs + ttlSecs * 1000)⟩ := by
  unfold setEx expireAllowed at hset
  split at hset
  next hallowed =>
    simp only [Bool.and_eq_true,decide_eq_true_eq] at hallowed
    exact ⟨hallowed.1,(some.inj hset).symm⟩
  · contradiction

section
variable {store : Store} {entry : StringEntry} (hentry : store.strings key = some entry)
  (hlive : entry.live nowMs = true)
include hentry hlive

theorem strings_setNxEx_of_live (other value : String) (ttlSecs : Nat) :
    (store.setNxEx nowMs other value ttlSecs).2.strings key = some entry := by
  unfold setNxEx
  by_cases hpresent : (store.get nowMs other).isSome = true
  · rw [if_pos hpresent]
    exact hentry
  · rw [if_neg hpresent]
    have hother : key ≠ other := by
      intro hsame
      rw [← hsame] at hpresent
      exact hpresent (by simp [get,hentry,Option.filter,hlive])
    simp only [put,update_of_ne hother]
    exact hentry

theorem setNxEx_of_live (value : String)
    (ttlSecs : Nat) : (store.setNxEx nowMs key value ttlSecs).1 = false := by
  simp [setNxEx,get,hentry,Option.filter,hlive]

end

end Store

end Routiq.Core.Redis
