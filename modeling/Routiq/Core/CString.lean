import Mathlib.Data.List.Basic
import Mathlib.Data.List.TakeWhile

/-! NUL-terminated byte strings in fixed buffers, as they cross a C ABI. A
store copies at most one byte less than the buffer and terminates it, and
leaves the bytes behind the terminator as they were; a load stops at the first
NUL. The two are inverse exactly when the text fits and holds no NUL. -/
namespace Routiq.Core.CString

abbrev Buffer (size : Nat) := Vector UInt8 size
def zeroed (size : Nat) : Buffer size := Vector.replicate size 0
def copyLength (text : List UInt8) (size : Nat) : Nat := min text.length (size - 1)

open List

section
variable {size : Nat} (text : List UInt8) (buffer : Buffer size)

def store : Buffer size := Vector.ofFn fun i =>
    if i.val < copyLength text size then text.getD i.val 0
    else if i.val = copyLength text size then 0
    else buffer[i.val]

def load {size : Nat} (buffer : Buffer size) : List UInt8 := buffer.toList.takeWhile (· ≠ 0)

theorem toList_store_of_fits (hfits : text.length < size) :
    (store text buffer).toList = text ++ 0 :: buffer.toList.drop (text.length + 1) := by
  have hcopy : copyLength text size = text.length := by
    unfold copyLength
    omega
  apply ext_getElem
  · simp
    omega
  · intro i hleft hright
    have hi : i < size := by simpa using hleft
    simp only [store,hcopy,Vector.getElem_toList,Vector.getElem_ofFn]
    by_cases hcopied : i < text.length
    · simp [hcopied,getElem_append_left]
    · by_cases hend : i = text.length
      · subst hend
        simp
      · have hbehind : i - text.length = (i - (text.length + 1)) + 1 := by omega
        have hindex : text.length + 1 + (i - (text.length + 1)) = i := by omega
        rw [getElem_append_right (by omega)]
        simp only [hcopied,hend,↓reduceIte,hbehind,getElem_cons_succ,
          getElem_drop,hindex,Vector.getElem_toList]

theorem store_take : store (text.take (size - 1)) buffer = store text buffer := by
  have hcopy : copyLength (text.take (size - 1)) size = copyLength text size := by
    unfold copyLength
    rw [length_take]
    omega
  unfold store
  rw [hcopy]
  congr 1
  funext i
  refine ite_congr rfl (fun hcopied => ?_) fun _ => rfl
  have hkept : i.val < size - 1 := by
    unfold copyLength at hcopied
    omega
  simp [getD_eq_getElem?_getD,hkept]

theorem load_store_eq {size : Nat} (hsize : 0 < size) (text : List UInt8) (buffer : Buffer size) :
    load (store text buffer) = (text.take (size - 1)).takeWhile (· ≠ 0) := by
  have hfits : (text.take (size - 1)).length < size := by
    rw [length_take]
    omega
  unfold load
  rw [← store_take,toList_store_of_fits _ buffer hfits,takeWhile_append]
  split
  next hwhole =>
    rw [( takeWhile_prefix _).eq_of_length hwhole]
    simp
  · rfl

theorem load_store (hfits : text.length < size) (hnul : 0 ∉ text) : load (store text buffer) = text := by
  rw [load_store_eq (Nat.zero_lt_of_lt hfits),take_of_length_le (by omega),takeWhile_eq_self_iff]
  intro byte hbyte
  have hne : byte ≠ 0 := fun heq => hnul (heq ▸ hbyte)
  simpa using hne

end

/-! ## Text encodings -/

def utf8 (text : String) : List UInt8 := text.toByteArray.data.toList
def hexDigit (value : Nat) : Char := "0123456789abcdef".toList.getD value '0'

section
variable (bytes : List UInt8)

def hex : String :=
  String.ofList (bytes.flatMap fun byte => [hexDigit (byte.toNat / 16),hexDigit (byte.toNat % 16)])

def hexPad (width value : Nat) : String := String.ofList (leftpad width '0' (Nat.toDigits 16 value))
def fromUtf8 : Option String := String.fromUTF8? ⟨bytes.toArray⟩

/-- A C string as text: up to the first NUL, and empty when not UTF-8. -/
def decode : String := (fromUtf8 (bytes.takeWhile (· ≠ 0))).getD ""

end

theorem fromUtf8_utf8 (text : String) : fromUtf8 (utf8 text) = some text := by
  have hvalid := text.isValidUTF8
  unfold fromUtf8 utf8 String.fromUTF8?
  rw [Array.toArray_toList,dif_pos hvalid]
  rfl

theorem utf8_injective {left right : String} (heq : utf8 left = utf8 right) : left = right := by
  have hread := congrArg fromUtf8 heq
  rw [fromUtf8_utf8,fromUtf8_utf8] at hread
  exact Option.some.inj hread

theorem utf8_eq_flatMap (text : String) : utf8 text = text.toList.flatMap String.utf8EncodeChar := by
  unfold utf8
  rw [← String.utf8Encode_toList]
  simp [utf8Encode]

theorem zero_mem_utf8EncodeChar {character : Char} (hzero : 0 ∈ String.utf8EncodeChar character) :
    character = '\x00' := by
  have hvalid : character.val.toNat < 1114112 := by
    rcases character.valid with hlow | hhigh
    · exact Nat.lt_trans hlow (by decide)
    · exact hhigh.2
  unfold String.utf8EncodeChar at hzero
  dsimp only at hzero
  split at hzero
  · have hbyte : (0 : UInt8) = UInt8.ofNat character.val.toNat := by simpa using hzero
    have hval : character.val.toNat = 0 := by
      have := congrArg UInt8.toNat hbyte
      simp only [UInt8.toNat_ofNat'] at this
      have hmod : character.val.toNat % 2 ^ 8 = character.val.toNat := Nat.mod_eq_of_lt (by omega)
      rw [hmod] at this
      simpa using this.symm
    apply Char.ext
    exact UInt32.toNat_inj.mp hval
  all_goals
    exfalso
    repeat' split at hzero
    all_goals
      simp only [mem_cons,not_mem_nil,or_false,← UInt8.toNat_inj,
        UInt8.toNat_ofNat',UInt8.toNat_zero] at hzero
      omega

/-- The encoding of a text holds a NUL byte only if the text holds the NUL
character: every other byte of UTF-8 is non-zero. -/
theorem zero_not_mem_utf8 {text : String} (hnul : '\x00' ∉ text.toList) : 0 ∉ utf8 text := by
  intro hzero
  rw [utf8_eq_flatMap] at hzero
  obtain ⟨character,hmem,hbyte⟩ := mem_flatMap.mp hzero
  exact hnul (zero_mem_utf8EncodeChar hbyte ▸ hmem)

end Routiq.Core.CString
