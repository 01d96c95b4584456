import Mathlib.Data.List.Basic
import Mathlib.Algebra.Group.Nat.Defs

/-! Unsigned 64-bit integers as decimal text: what a parser accepts, and that it
reads back what was printed. -/
namespace Routiq.Core.Decimal
open Nat

def withoutPlus (text : List Char) : List Char :=
  if text.head? = some '+' then text.tail else text

/-- An optional plus sign and at least one digit, in the range of 64 bits. -/
def parseU64 (text : List Char) : Option Nat :=
  let digits := withoutPlus text
  if digits.isEmpty || !digits.all Char.isDigit then none
  else
    let value := ofDigitChars 10 digits 0
    if value < 2^64 then some value else none

theorem isDigit_of_mem_repr {value : Nat} {character : Char} (hmem : character ∈ value.repr.toList) :
    character.isDigit = true := by
  rw [toList_repr] at hmem
  exact isDigit_of_mem_toDigits (by decide) (by decide) hmem

theorem repr_ne_nil (value : Nat) : value.repr.toList ≠ [] := by
  rw [toList_repr]
  exact toDigits_ne_nil

theorem withoutPlus_repr (value : Nat) : withoutPlus value.repr.toList = value.repr.toList := by
  unfold withoutPlus
  rw [if_neg]
  intro hplus
  have hdigit := isDigit_of_mem_repr (List.mem_of_head? hplus)
  contradiction

theorem parseU64_repr {value : Nat} (hrange : value < 2^64) : parseU64 value.repr.toList = some value := by
  have hall : value.repr.toList.all Char.isDigit = true := by
    rw [List.all_eq_true]
    exact fun character hmem => isDigit_of_mem_repr hmem
  have hnonempty : value.repr.toList.isEmpty = false := by
    rw [List.isEmpty_eq_false_iff]
    exact repr_ne_nil value
  have hvalue : ofDigitChars 10 value.repr.toList 0 = value := by
    rw [toList_repr]
    exact ofDigitChars_toDigits (by decide) (by decide)
  unfold parseU64
  rw [withoutPlus_repr]
  dsimp only
  rw [hall,hnonempty,hvalue]
  exact if_pos hrange

end Routiq.Core.Decimal
