import Mathlib.Data.List.Basic
import Mathlib.Data.List.Nodup

/-! A bounded cache with least-recently-used eviction. The entry list is in
recency order, newest first; the structure carries that its keys are distinct
and that it never outgrows its capacity. -/
namespace Routiq.Core
open List

structure LruCache (Key Value : Type) where
  capacity : Nat
  entries : List (Key × Value)
  nodup : (entries.map Prod.fst).Nodup
  bounded : entries.length ≤ capacity

namespace LruCache

variable {Key Value : Type}

def empty (capacity : Nat) : LruCache Key Value where
  capacity := capacity
  entries := []
  nodup := nodup_nil
  bounded := Nat.zero_le _

variable [DecidableEq Key]

def without (entries : List (Key × Value)) (key : Key) : List (Key × Value) :=
  entries.filter fun entry => entry.1 ≠ key

variable {key : Key} {entry : Key × Value} {entries : List (Key × Value)}

theorem mem_without : entry ∈ without entries key ↔ entry ∈ entries ∧ entry.1 ≠ key := by
  simp [without]

theorem without_sublist (entries : List (Key × Value)) (key : Key) : (without entries key).Sublist entries :=
  filter_sublist

theorem nodup_front (hnodup : (entries.map Prod.fst).Nodup) (key : Key) (value : Value) :
    (((key,value) :: without entries key).map Prod.fst).Nodup := by
  rw [map_cons,nodup_cons]
  constructor
  · intro hmem
    obtain ⟨entry,hentry,hkey⟩ := mem_map.mp hmem
    exact (mem_without.mp hentry).2 hkey
  · exact hnodup.sublist ((without_sublist entries key).map Prod.fst)

section
variable (cache : LruCache Key Value) (key : Key)

def put (value : Value) : LruCache Key Value where
  capacity := cache.capacity
  entries := ((key,value) :: without cache.entries key).take cache.capacity
  nodup := (nodup_front cache.nodup key value).sublist
    ((take_sublist _ _).map Prod.fst)
  bounded := length_take_le _ _

def pop : LruCache Key Value where
  capacity := cache.capacity
  entries := without cache.entries key
  nodup := cache.nodup.sublist ((without_sublist _ key).map Prod.fst)
  bounded := Nat.le_trans (without_sublist _ key).length_le cache.bounded

def get : Option Value × LruCache Key Value :=
  match cache.entries.find? (fun entry => entry.1 = key) with
  | none => (none,cache)
  | some entry => (some entry.2,cache.put key entry.2)

end

variable {cache : LruCache Key Value}

theorem mem_put {value : Value} (hentry : entry ∈ (cache.put key value).entries) :
    entry = (key,value) ∨ entry ∈ cache.entries := by
  have hfront := mem_of_mem_take hentry
  rcases mem_cons.mp hfront with heq | hold
  · exact Or.inl heq
  · exact Or.inr (mem_without.mp hold).1

theorem mem_of_get {value : Value} (hget : (cache.get key).1 = some value) : (key,value) ∈ cache.entries := by
  unfold get at hget
  split at hget
  · contradiction
  next entry hfind =>
    have hmem := mem_of_find?_eq_some hfind
    have hkey : entry.1 = key := by simpa using find?_some hfind
    have hvalue : entry.2 = value := by simpa using hget
    rwa [← hkey,← hvalue]

theorem mem_of_mem_get (hentry : entry ∈ (cache.get key).2.entries) : entry ∈ cache.entries := by
  unfold get at hentry
  split at hentry
  · exact hentry
  next found hfind =>
    have hmem := mem_of_find?_eq_some hfind
    have hkey : found.1 = key := by simpa using find?_some hfind
    rcases mem_put hentry with heq | hold
    · rw [heq,← hkey]
      exact hmem
    · exact hold

theorem mem_of_mem_pop (hentry : entry ∈ (cache.pop key).entries) : entry ∈ cache.entries :=
  (mem_without.mp hentry).1

end LruCache

end Routiq.Core
