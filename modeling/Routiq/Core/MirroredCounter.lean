import Mathlib.Data.List.Sort
import Mathlib.Logic.Function.Basic

/-! A counter that is kept in a column and mirrored by a published floor.
Requests read the column and publish what they have read; some raise the
counter by one, in the column first or in the floor first. As long as nobody
raises it past a request that has read it, and nobody reads it half raised, the
floor never goes back and ends at the column. -/
namespace Routiq.Core.MirroredCounter
open Function List Option

variable {Index : Type}

/-- Where a request stands: nothing to publish, the value it has read, or the
value it has raised in one place and not yet in the other. -/
inductive Phase where
  | idle
  | read (value : Int)
  | raised (floorFirst : Bool) (value : Int)
deriving DecidableEq

structure Mirror (Index : Type) where
  column : Int
  floor : Option Int
  published : List Int
  phase : Index → Phase

section
variable (mirror : Mirror Index)

structure Level : Prop where
  whole : ∀ index floorFirst value, mirror.phase index ≠ .raised floorFirst value
  current : ∀ index value, mirror.phase index = .read value → value = mirror.column
  equal : ∀ value, mirror.floor = some value → value = mirror.column

structure Half (index : Index) (floorFirst : Bool) (value : Int) : Prop where
  raised : mirror.phase index = .raised floorFirst value
  alone : ∀ other, other ≠ index → mirror.phase other = .idle
  floor_ahead : floorFirst = true → mirror.floor = some value ∧ mirror.column = value - 1
  column_ahead : floorFirst = false → mirror.column = value ∧
    ∀ floor, mirror.floor = some floor → floor = value - 1

structure Rising : Prop where
  sorted : mirror.published.Pairwise (· ≤ ·)
  bounded : ∀ value ∈ mirror.published, ∃ floor, mirror.floor = some floor ∧ value ≤ floor

structure Consistent : Prop where
  rising : Rising mirror
  balance : Level mirror ∨ ∃ index floorFirst value, Half mirror index floorFirst value

end

def Mirror.start (column : Int) (floor : Option Int) : Mirror Index := ⟨column,floor,[],fun _ => .idle⟩

theorem consistent_start {column : Int} {floor : Option Int}
    (hequal : ∀ value, floor = some value → value = column) :
    Consistent (.start column floor : Mirror Index) := by
  refine ⟨⟨.nil,?_⟩,.inl ⟨?_,?_,hequal⟩⟩
  · intro value hmem
    cases hmem
  · intro index floorFirst value hraised
    cases hraised
  · intro index value hread
    cases hread

variable [DecidableEq Index]

section
variable (mirror : Mirror Index) (index : Index)

def Mirror.enter (phase : Phase) : Mirror Index := { mirror with phase := update mirror.phase index phase }
def Mirror.publish (value : Int) (phase : Phase) : Mirror Index := { mirror with
    floor := some value
    published := mirror.published ++ [value]
    phase := update mirror.phase index phase }

def Mirror.store (value : Int) (phase : Phase) : Mirror Index := { mirror with
    column := value
    phase := update mirror.phase index phase }

end

variable {mirror : Mirror Index} {index : Index} {value : Int}

theorem rising_publish {phase : Phase} (hrising : Rising mirror)
    (hfloor : ∀ floor, mirror.floor = some floor → floor ≤ value) :
    Rising (mirror.publish index value phase) := by
  have hbelow : ∀ earlier ∈ mirror.published, earlier ≤ value := by
    intro earlier hmem
    obtain ⟨floor,hsome,hle⟩ := hrising.bounded earlier hmem
    exact le_trans hle (hfloor floor hsome)
  constructor
  · apply pairwise_append.mpr
    refine ⟨hrising.sorted,pairwise_singleton _ _,?_⟩
    intro earlier hmem last hlast
    rw [mem_singleton.mp hlast]
    exact hbelow earlier hmem
  · intro earlier hmem
    refine ⟨value,rfl,?_⟩
    rcases mem_append.mp hmem with hmem | hmem
    · exact hbelow earlier hmem
    · exact le_of_eq (mem_singleton.mp hmem)

theorem Consistent.level_of_read (hconsistent : Consistent mirror)
    (hread : mirror.phase index = .read value) : Level mirror := by
  rcases hconsistent.balance with hlevel | ⟨other,floorFirst,raised,hhalf⟩
  · exact hlevel
  · by_cases hother : index = other
    · rw [hother,hhalf.raised] at hread
      contradiction
    · rw [hhalf.alone index hother] at hread
      contradiction

theorem Consistent.half_of_raised (hconsistent : Consistent mirror) {floorFirst : Bool}
    (hraised : mirror.phase index = .raised floorFirst value) : Half mirror index floorFirst value := by
  rcases hconsistent.balance with hlevel | ⟨other,first,raised,hhalf⟩
  · exact absurd hraised (hlevel.whole index floorFirst value)
  · by_cases hother : index = other
    · rw [hother,hhalf.raised] at hraised
      cases hraised
      rw [hother]
      exact hhalf
    · rw [hhalf.alone index hother] at hraised
      contradiction

theorem enter_self (mirror : Mirror Index) (index : Index) :
    mirror.enter index (mirror.phase index) = mirror := by
  simp [Mirror.enter,update_eq_self]

section
variable (hconsistent : Consistent mirror)
include hconsistent

theorem consistent_leave (hwhole : ∀ floorFirst value, mirror.phase index ≠ .raised floorFirst value) :
    Consistent (mirror.enter index .idle) := by
  refine ⟨⟨hconsistent.rising.sorted,hconsistent.rising.bounded⟩,?_⟩
  rcases hconsistent.balance with hlevel | ⟨other,floorFirst,raised,hhalf⟩
  · refine .inl ⟨?_,?_,hlevel.equal⟩
    · intro other floorFirst value
      by_cases hother : other = index
      · simp [Mirror.enter,hother]
      · simpa [Mirror.enter,update_of_ne hother] using hlevel.whole other floorFirst value
    · intro other value hread
      by_cases hother : other = index
      · simp [Mirror.enter,hother] at hread
      · exact hlevel.current other value (by simpa [Mirror.enter,update_of_ne hother] using hread)
  · have hother : other ≠ index := by
      rintro rfl
      exact hwhole floorFirst raised hhalf.raised
    refine .inr ⟨other,floorFirst,raised,?_,?_,hhalf.floor_ahead,hhalf.column_ahead⟩
    · simpa [Mirror.enter,update_of_ne hother] using hhalf.raised
    · intro third hthird
      by_cases hindex : third = index
      · simp [Mirror.enter,hindex]
      · simpa [Mirror.enter,update_of_ne hindex] using hhalf.alone third hthird

def Phase.left : Phase → Phase
  | .read _ => .idle
  | phase => phase

theorem consistent_left (index : Index) : Consistent (mirror.enter index (mirror.phase index).left) := by
  cases hphase : mirror.phase index with
  | read value =>
    apply consistent_leave hconsistent
    intro floorFirst raised hraised
    rw [hphase] at hraised
    contradiction
  | idle =>
    rw [show .left .idle = mirror.phase index from hphase.symm,enter_self]
    exact hconsistent
  | raised floorFirst value =>
    rw [show .left (.raised floorFirst value) = mirror.phase index from hphase.symm,enter_self]
    exact hconsistent

theorem consistent_read (hwhole : ∀ other floorFirst value, mirror.phase other ≠ .raised floorFirst value) :
    Consistent (mirror.enter index (.read mirror.column)) := by
  refine ⟨⟨hconsistent.rising.sorted,hconsistent.rising.bounded⟩,.inl ?_⟩
  rcases hconsistent.balance with hlevel | ⟨other,floorFirst,raised,hhalf⟩
  · refine ⟨?_,?_,hlevel.equal⟩
    · intro other floorFirst value
      by_cases hother : other = index
      · simp [Mirror.enter,hother]
      · simpa [Mirror.enter,update_of_ne hother] using hwhole other floorFirst value
    · intro other value hread
      by_cases hother : other = index
      · simp only [Mirror.enter,hother,update_self,Phase.read.injEq] at hread
        exact hread.symm
      · exact hlevel.current other value (by simpa [Mirror.enter,update_of_ne hother] using hread)
  · exact absurd hhalf.raised (hwhole other floorFirst raised)

theorem consistent_publish
    (hread : mirror.phase index = .read value) : Consistent (mirror.publish index value .idle) := by
  have hlevel := hconsistent.level_of_read hread
  have hvalue : value = mirror.column := hlevel.current index value hread
  refine ⟨rising_publish hconsistent.rising ?_,.inl ⟨?_,?_,?_⟩⟩
  · intro floor hfloor
    exact le_of_eq ((hlevel.equal floor hfloor).trans hvalue.symm)
  · intro other floorFirst raised
    by_cases hother : other = index
    · simp [Mirror.publish,hother]
    · simpa [Mirror.publish,update_of_ne hother] using hlevel.whole other floorFirst raised
  · intro other earlier hearlier
    by_cases hother : other = index
    · simp [Mirror.publish,hother] at hearlier
    · exact hlevel.current other earlier
        (by simpa [Mirror.publish,update_of_ne hother] using hearlier)
  · intro floor hfloor
    rw [← some.inj hfloor]
    exact hvalue

end

section Alone
variable (halone : ∀ other, other ≠ index → mirror.phase other = .idle)
include halone

theorem level_alone {next : Mirror Index} (hphase : next.phase = update mirror.phase index .idle)
    (hequal : ∀ value, next.floor = some value → value = next.column) : Level next := by
  have hidle : ∀ other, next.phase other = .idle := by
    intro other
    rw [hphase]
    by_cases hother : other = index
    · simp [hother]
    · rw [update_of_ne hother]
      exact halone other hother
  refine ⟨?_,?_,hequal⟩
  · intro other floorFirst value hraised
    rw [hidle other] at hraised
    contradiction
  · intro other value hread
    rw [hidle other] at hread
    contradiction

variable (hconsistent : Consistent mirror) (hread : mirror.phase index = .read (value - 1))
include hconsistent hread

theorem consistent_raise_floor : Consistent (mirror.publish index value (.raised true value)) := by
  have hlevel := hconsistent.level_of_read hread
  have hvalue := hlevel.current index _ hread
  refine ⟨rising_publish hconsistent.rising ?_,.inr ⟨index,true,value,?_,?_,?_,?_⟩⟩
  · intro floor hfloor
    have hequal := hlevel.equal floor hfloor
    omega
  · simp [Mirror.publish]
  · intro other hother
    simpa [Mirror.publish,update_of_ne hother] using halone other hother
  · intro _
    exact ⟨rfl,hvalue.symm⟩
  · intro hcontra
    contradiction

theorem consistent_raise_column : Consistent (mirror.store index value (.raised false value)) := by
  have hlevel := hconsistent.level_of_read hread
  have hvalue := hlevel.current index _ hread
  refine ⟨⟨hconsistent.rising.sorted,hconsistent.rising.bounded⟩,.inr ⟨index,false,value,?_,?_,?_,?_⟩⟩
  · simp [Mirror.store]
  · intro other hother
    simpa [Mirror.store,update_of_ne hother] using halone other hother
  · intro hcontra
    contradiction
  · intro _
    refine ⟨rfl,?_⟩
    intro floor hfloor
    exact (hlevel.equal floor hfloor).trans hvalue.symm

end Alone

theorem consistent_publish_raised (hconsistent : Consistent mirror)
    (hraised : mirror.phase index = .raised false value) : Consistent (mirror.publish index value .idle) := by
  have hhalf := hconsistent.half_of_raised hraised
  obtain ⟨hcolumn,hfloor⟩ := hhalf.column_ahead rfl
  refine ⟨rising_publish hconsistent.rising ?_,.inl (level_alone hhalf.alone rfl ?_)⟩
  · intro floor hsome
    have hbelow := hfloor floor hsome
    omega
  · intro floor hsome
    rw [← some.inj hsome]
    exact hcolumn.symm

theorem consistent_store_raised (hconsistent : Consistent mirror)
    (hraised : mirror.phase index = .raised true value) : Consistent (mirror.store index value .idle) := by
  have hhalf := hconsistent.half_of_raised hraised
  obtain ⟨hfloor,_⟩ := hhalf.floor_ahead rfl
  refine ⟨⟨hconsistent.rising.sorted,hconsistent.rising.bounded⟩,.inl (level_alone hhalf.alone rfl ?_)⟩
  intro floor hsome
  exact some.inj (hsome.symm.trans hfloor)

end Routiq.Core.MirroredCounter
