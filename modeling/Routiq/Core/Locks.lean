import Mathlib.Tactic.Basic

/-! A mutex as one thread sees it. Locking a mutex that the thread holds does
not return: the call waits for its own guard, or panics. `none` stands for a
computation that does not return. -/
namespace Routiq.Core.Locks

structure Mutex (Value : Type) where
  value : Value
  held : Bool

abbrev Locking (Value Result : Type) := StateT (Mutex Value) Option Result

variable {Value Result Next : Type}

def lock : Locking Value Unit := fun mutex =>
  if mutex.held then none else some ((),{ mutex with held := true })

def unlock : Locking Value Unit := fun mutex => some ((),{ mutex with held := false })
def update (change : Value → Value) : Locking Value Unit := fun mutex =>
  some ((),{ mutex with value := change mutex.value })

/-- Through a guard of its own, dropped at the end of the expression. -/
def peek (read : Value → Result) : Locking Value Result := do
  lock
  let mutex ← get
  unlock
  pure (read mutex.value)

variable {mutex : Mutex Value}

theorem lock_of_held (hheld : mutex.held = true) : lock.run mutex = none := by
  simp [lock,StateT.run,hheld]

theorem lock_of_free (hfree : mutex.held = false) : lock.run mutex = some ((),{ mutex with held := true }) := by
  simp [lock,StateT.run,hfree]

variable {first : Locking Value Result}

theorem bind_of_none (hnone : first.run mutex = none) (next : Result → Locking Value Next) :
    (first >>= next).run mutex = none := by
  rw [StateT.run_bind,hnone]
  rfl

theorem peek_of_held (hheld : mutex.held = true) (read : Value → Result) : (peek read).run mutex = none :=
  bind_of_none (lock_of_held hheld) _

/-- Whatever comes after, a thread that looks again under its own guard does
not return. -/
theorem lock_peek (mutex : Mutex Value) (read : Value → Result) (next : Result → Locking Value Next) :
    (do lock; let result ← peek read; next result).run mutex = none := by
  cases hheld : mutex.held with
  | true => exact bind_of_none (lock_of_held hheld) _
  | false =>
    rw [StateT.run_bind,lock_of_free hheld]
    exact bind_of_none (@peek_of_held _ _ { mutex with held := true } rfl read) next

end Routiq.Core.Locks
