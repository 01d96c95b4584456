import Routiq.Core.Strings

/-! Rust's lossy UTF-8 decoding: well-formed characters are kept, and every
longest beginning of a character that does not go on as one is replaced by
U+FFFD. -/
namespace Routiq.Core.Utf8Lossy
open Strings List

def replacement : Char := '�'
def decodeFirst (bytes : List UInt8) : Option Char := bytes.toByteArray.utf8DecodeChar? 0
def isTail (byte : UInt8) : Bool := 0x80 ≤ byte && byte ≤ 0xBF

/-- The second bytes that may follow the first byte of a character of three or
four. -/
def secondFits (first second : UInt8) : Bool :=
  if first = 0xE0 then 0xA0 ≤ second && second ≤ 0xBF
  else if first = 0xED then 0x80 ≤ second && second ≤ 0x9F
  else if first = 0xF0 then 0x90 ≤ second && second ≤ 0xBF
  else if first = 0xF4 then 0x80 ≤ second && second ≤ 0x8F
  else isTail second

/-- How many bytes one replacement stands for, where no character begins. -/
def brokenWidth : List UInt8 → Nat
  | first :: second :: rest =>
      if (0xE0 ≤ first && first ≤ 0xF4) && secondFits first second then
        match rest with
        | third :: _ => if 0xF0 ≤ first && isTail third then 3 else 2
        | [] => 2
      else 1
  | _ => 1

/-- The number bounds the characters; every one takes a byte at least. -/
def lossyWithin : Nat → List UInt8 → Text
  | 0, _ => []
  | _ + 1, [] => []
  | fuel + 1, byte :: bytes =>
      match decodeFirst (byte :: bytes) with
      | some character => character :: lossyWithin fuel ((byte :: bytes).drop character.utf8Size)
      | none => replacement :: lossyWithin fuel ((byte :: bytes).drop (brokenWidth (byte :: bytes)))

def lossy (bytes : List UInt8) : Text := lossyWithin bytes.length bytes

/-! ## Well-formed bytes -/

theorem length_utf8_cons (character : Char) (text : Text) :
    (utf8 (character :: text)).length = character.utf8Size + (utf8 text).length := by
  simp [utf8]

/-! ## Lengths -/

theorem utf8Size_le_of_decodeFirst {bytes : List UInt8} {character : Char}
    (hfirst : decodeFirst bytes = some character) : character.utf8Size ≤ bytes.length := by
  have hsize := ByteArray.le_size_of_utf8DecodeChar?_eq_some hfirst
  rw [size_toByteArray] at hsize
  omega

variable (bytes : List UInt8)

theorem brokenWidth_le : brokenWidth bytes ≤ 3 := by
  unfold brokenWidth
  split
  · split
    · split
      · split
        · exact le_refl 3
        · decide
      · decide
    · decide
  · decide

theorem brokenWidth_pos : 0 < brokenWidth bytes := by
  unfold brokenWidth
  split
  · split
    · split
      · split
        · decide
        · decide
      · decide
    · decide
  · decide

/-- A decoding is as long as the bytes if all of them are decoded, and at most
three times as long. -/
theorem length_lossyWithin (fuel : Nat) (bytes : List UInt8) :
    (bytes.length ≤ fuel → bytes.length ≤ (utf8 (lossyWithin fuel bytes)).length) ∧
      (utf8 (lossyWithin fuel bytes)).length ≤ 3 * bytes.length := by
  induction fuel generalizing bytes with
  | zero => exact ⟨fun hfuel => by omega,Nat.zero_le _⟩
  | succ fuel ih =>
    cases bytes with
    | nil => exact ⟨fun _ => Nat.zero_le _,Nat.zero_le _⟩
    | cons byte rest =>
      rw [lossyWithin]
      split
      next character hfirst =>
        have hsize := utf8Size_le_of_decodeFirst hfirst
        have hpositive := character.utf8Size_pos
        have hrest := ih ((byte :: rest).drop character.utf8Size)
        rw [length_drop] at hrest
        rw [length_utf8_cons]
        omega
      · have hwidth := brokenWidth_le (byte :: rest)
        have hpositive := brokenWidth_pos (byte :: rest)
        have hreplacement : replacement.utf8Size = 3 := by decide
        have hrest := ih ((byte :: rest).drop (brokenWidth (byte :: rest)))
        rw [length_drop,length_cons] at hrest
        rw [length_utf8_cons,hreplacement,length_cons]
        omega

theorem length_lossy_le : (utf8 (lossy bytes)).length ≤ 3 * bytes.length :=
  (length_lossyWithin bytes.length bytes).2

theorem length_le_length_lossy : bytes.length ≤ (utf8 (lossy bytes)).length :=
  (length_lossyWithin bytes.length bytes).1 (le_refl _)

end Routiq.Core.Utf8Lossy
