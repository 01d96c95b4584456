import Mathlib.Data.List.Basic
import Mathlib.Data.List.Pairwise

/-! Keyed tables with uniqueness constraints. A table is a list of rows in
which no two rows share the key or conflict; a statement that would break
this fails and leaves the table as it was. -/
namespace Routiq.Core.KeyedTable
open List

/-- How rows of a table exclude each other: by their key, and by the other
constraints of the table. -/
structure Constraints (Row Key : Type) where
  key : Row → Key
  conflicts : Row → Row → Bool
  symm : ∀ first second, conflicts first second = conflicts second first

variable {Row Key : Type} [DecidableEq Key] {constraints : Constraints Row Key}

def Constraints.Apart (constraints : Constraints Row Key) (first second : Row) : Prop :=
  constraints.key first ≠ constraints.key second ∧ constraints.conflicts first second = false

instance : DecidableRel constraints.Apart :=
  fun first second =>
    inferInstanceAs (Decidable (constraints.key first ≠ constraints.key second ∧
      constraints.conflicts first second = false))

variable {first second : Row}

omit [DecidableEq Key] in
theorem Constraints.Apart.symm (hapart : constraints.Apart first second) : constraints.Apart second first :=
  ⟨hapart.1.symm,(constraints.symm second first).trans hapart.2⟩

structure Table (constraints : Constraints Row Key) where
  rows : List Row
  apart : rows.Pairwise constraints.Apart

namespace Table

section
variable (table : Table constraints)

/-- `SELECT … WHERE key = …`. -/
def lookup (key : Key) : Option Row := table.rows.find? fun row => constraints.key row = key

/-- `UPDATE … WHERE key = …`: nothing when a constraint would be broken. -/
def modify (key : Key) (change : Row → Row) : Option (Table constraints) :=
  let rows := table.rows.map fun row => if constraints.key row = key then change row else row
  if hapart : rows.Pairwise constraints.Apart then some ⟨rows,hapart⟩ else none

/-- `INSERT`. -/
def insert (row : Row) : Option (Table constraints) :=
  if hapart : (row :: table.rows).Pairwise constraints.Apart then some ⟨row :: table.rows,hapart⟩
  else none

/-- `DELETE … WHERE key = …`. -/
def delete (key : Key) : Table constraints where
  rows := table.rows.filter fun row => constraints.key row ≠ key
  apart := table.apart.sublist filter_sublist

end

variable {row : Row}

section
variable {table : Table constraints} {key : Key}

theorem mem_of_lookup (hfound : table.lookup key = some row) : row ∈ table.rows ∧ constraints.key row = key :=
  ⟨mem_of_find?_eq_some hfound,by simpa using find?_some hfound⟩

theorem lookup_of_mem (hmem : row ∈ table.rows) : table.lookup (constraints.key row) = some row := by
  obtain ⟨rows,hapart⟩ := table
  unfold lookup
  dsimp only at hmem ⊢
  induction rows with
  | nil => simp at hmem
  | cons head rows ih =>
    rw [pairwise_cons] at hapart
    rw [find?_cons]
    rcases mem_cons.mp hmem with rfl | htail
    · simp
    · have hne := (hapart.1 row htail).1
      simp only [hne,decide_false]
      exact ih hapart.2 htail

theorem lookup_eq_some_iff : table.lookup key = some row ↔ row ∈ table.rows ∧ constraints.key row = key := by
  constructor
  · exact mem_of_lookup
  · rintro ⟨hmem,rfl⟩
    exact lookup_of_mem hmem

omit [DecidableEq Key] in
theorem apart_of_mem (hfirst : first ∈ table.rows) (hsecond : second ∈ table.rows)
    (hkeys : constraints.key first ≠ constraints.key second) : constraints.Apart first second := by
  have hsymm : Std.Symm constraints.Apart := ⟨fun _ _ hapart => hapart.symm⟩
  exact table.apart.forall hfirst hsecond (fun heq => hkeys (congrArg constraints.key heq))

end

theorem lookup_delete (table : Table constraints) (key other : Key) :
    (table.delete key).lookup other = if other = key then none else table.lookup other := by
  apply Option.ext
  intro found
  rw [lookup_eq_some_iff]
  by_cases hother : other = key
  · rw [if_pos hother]
    simp [delete,hother]
  · rw [if_neg hother,lookup_eq_some_iff]
    constructor
    · rintro ⟨hmem,hkey⟩
      exact ⟨(mem_filter.mp hmem).1,hkey⟩
    · rintro ⟨hmem,hkey⟩
      exact ⟨mem_filter.mpr ⟨hmem,by simpa [hkey] using hother⟩,hkey⟩

variable {table next : Table constraints}

theorem lookup_insert (hnext : table.insert row = some next) (other : Key) : next.lookup other =
      if other = constraints.key row then some row else table.lookup other := by
  unfold insert at hnext
  split at hnext
  · cases hnext
    by_cases hother : other = constraints.key row
    · simp [lookup,hother]
    · simp [lookup,hother,Ne.symm hother]
  · contradiction

theorem lookup_of_insert (hnext : table.insert row = some next) :
    table.lookup (constraints.key row) = none := by
  cases hfound : table.lookup (constraints.key row) with
  | none => rfl
  | some other =>
    obtain ⟨hmem,hkey⟩ := mem_of_lookup hfound
    unfold insert at hnext
    split at hnext
    next hapart => exact absurd hkey.symm ((pairwise_cons.mp hapart).1 other hmem).1
    · contradiction

variable {table next : Table constraints} {key : Key} {change : Row → Row}

theorem rows_of_modify (hnext : table.modify key change = some next) :
    next.rows = table.rows.map fun row => if constraints.key row = key then change row else row := by
  unfold modify at hnext
  dsimp only at hnext
  split at hnext
  · cases hnext
    rfl
  · contradiction

variable (hkey : ∀ row, constraints.key (change row) = constraints.key row)
include hkey

theorem lookup_modify (hnext : table.modify key change = some next) (other : Key) :
    next.lookup other = if other = key then (table.lookup key).map change else table.lookup other := by
  have hrows := rows_of_modify hnext
  apply Option.ext
  intro found
  rw [lookup_eq_some_iff,hrows,mem_map]
  constructor
  · rintro ⟨⟨row,hmem,rfl⟩,hfound⟩
    by_cases haddressed : constraints.key row = key
    · rw [if_pos haddressed,hkey] at hfound
      rw [if_pos haddressed,if_pos (hfound.symm.trans haddressed),← haddressed,lookup_of_mem hmem]
      rfl
    · rw [if_neg haddressed] at hfound
      rw [if_neg haddressed,if_neg (fun heq => haddressed (hfound.trans heq)),← hfound]
      exact lookup_of_mem hmem
  · intro hlookup
    by_cases haddressed : other = key
    · rw [if_pos haddressed] at hlookup
      obtain ⟨row,hrow,rfl⟩ := Option.map_eq_some_iff.mp hlookup
      obtain ⟨hmem,hrowKey⟩ := mem_of_lookup hrow
      exact ⟨⟨row,hmem,if_pos hrowKey⟩,(hkey row).trans (hrowKey.trans haddressed.symm)⟩
    · rw [if_neg haddressed] at hlookup
      obtain ⟨hmem,hfound⟩ := mem_of_lookup hlookup
      exact ⟨⟨found,hmem,if_neg (fun heq => haddressed (hfound.symm.trans heq))⟩,hfound⟩

theorem modify_eq_none_iff : table.modify key change = none ↔
      ∃ row other, table.lookup key = some row ∧ other ∈ table.rows ∧ constraints.key other ≠ key ∧
        constraints.conflicts (change row) other = true := by
  unfold modify
  simp only [dite_eq_right_iff,reduceCtorEq,imp_false,pairwise_map]
  constructor
  · intro hbroken
    by_contra hnone
    refine hbroken (table.apart.imp_of_mem ?_)
    intro first second hfirst hsecond hapart
    by_cases hfirstKey : constraints.key first = key
    · have hsecondKey : constraints.key second ≠ key := fun heq => hapart.1 (hfirstKey.trans heq.symm)
      rw [if_pos hfirstKey,if_neg hsecondKey]
      refine ⟨by rw [hkey]; exact hapart.1,?_⟩
      rw [← Bool.not_eq_true]
      intro hconflict
      exact hnone ⟨first,second,lookup_eq_some_iff.mpr ⟨hfirst,hfirstKey⟩,hsecond,hsecondKey,hconflict⟩
    · by_cases hsecondKey : constraints.key second = key
      · rw [if_neg hfirstKey,if_pos hsecondKey]
        refine ⟨by rw [hkey]; exact hapart.1,?_⟩
        rw [← Bool.not_eq_true,constraints.symm]
        intro hconflict
        exact hnone ⟨second,first,lookup_eq_some_iff.mpr ⟨hsecond,hsecondKey⟩,hfirst,hfirstKey,
          hconflict⟩
      · rw [if_neg hfirstKey,if_neg hsecondKey]
        exact hapart
  · rintro ⟨row,other,hrow,hother,hotherKey,hconflict⟩ hapart
    obtain ⟨hmem,hrowKey⟩ := mem_of_lookup hrow
    have hne : row ≠ other := fun heq => hotherKey (heq ▸ hrowKey)
    have hsymm : Std.Symm fun first second : Row => constraints.Apart
        (if constraints.key first = key then change first else first)
        (if constraints.key second = key then change second else second) :=
      ⟨fun _ _ hstep => hstep.symm⟩
    have hstep := hapart.forall hmem hother hne
    rw [if_pos hrowKey,if_neg hotherKey] at hstep
    rw [hstep.2] at hconflict
    contradiction

end Table

end Routiq.Core.KeyedTable
