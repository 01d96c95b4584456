import Mathlib.Data.List.DropRight

/-! The operations of Rust's `str` that the services use, on lists of
characters: white space, trimming, lines and UTF-8. -/
namespace Routiq.Core.Strings
open List

abbrev Text := List Char

/-! ## White space -/

/-- `char::is_whitespace`: the Unicode property White_Space. -/
def isWhitespace (character : Char) : Bool :=
  let code := character.toNat
  (9 ≤ code && code ≤ 13) || code == 32 || code == 0x85 || code == 0xA0 || code == 0x1680 ||
    (0x2000 ≤ code && code ≤ 0x200A) || code == 0x2028 || code == 0x2029 || code == 0x202F ||
    code == 0x205F || code == 0x3000

def trimStart (text : Text) : Text := text.dropWhile isWhitespace
def trim (text : Text) : Text := (trimStart text).rdropWhile isWhitespace

variable {text : Text}

theorem trimStart_blank {first : Char} {rest : Text} (htext : text = first :: rest)
    (hfirst : isWhitespace first = false) : trimStart (' ' :: text) = text := by
  subst htext
  unfold trimStart
  rw [dropWhile_cons_of_pos (by decide),dropWhile_cons_of_neg (by simp [hfirst])]

theorem isWhitespace_of_isDigit {character : Char} (hdigit : character.isDigit = true) :
    isWhitespace character = false := by
  rw [Char.isDigit,Bool.and_eq_true,decide_eq_true_eq,decide_eq_true_eq] at hdigit
  have hlower : 48 ≤ character.toNat := hdigit.1
  have hupper : character.toNat ≤ 57 := hdigit.2
  simp only [isWhitespace,Bool.or_eq_false_iff,Bool.and_eq_false_iff,decide_eq_false_iff_not,
    beq_eq_false_iff_ne]
  omega

/-! ## Lines -/

/-- `split_inclusive('\n')`: every line with its line feed; nothing after a last
one. -/
def splitInclusive : Text → List Text
  | [] => []
  | character :: rest =>
    if character = '\n' then ['\n'] :: splitInclusive rest
    else
      match splitInclusive rest with
      | [] => [[character]]
      | line :: lines => (character :: line) :: lines

/-- A line without its line feed and the carriage return before it. -/
def stripLineEnding (line : Text) : Text :=
  if line.getLast? = some '\n' then
    if line.dropLast.getLast? = some '\r' then line.dropLast.dropLast else line.dropLast
  else line

def lines (text : Text) : List Text := (splitInclusive text).map stripLineEnding
def OneLine (text : Text) : Prop := '\n' ∉ text ∧ '\r' ∉ text

theorem OneLine.append {first second : Text} (hfirst : OneLine first) (hsecond : OneLine second) :
    OneLine (first ++ second) := by
  constructor
  · rw [mem_append]
    exact not_or.mpr ⟨hfirst.1,hsecond.1⟩
  · rw [mem_append]
    exact not_or.mpr ⟨hfirst.2,hsecond.2⟩

def unlines (lines : List Text) : Text := (lines.map (· ++ ['\n'])).flatten

variable {line : Text}

@[simp] theorem unlines_nil : unlines [] = [] := rfl

@[simp] theorem unlines_cons (line : Text) (lines : List Text) :
    unlines (line :: lines) = line ++ '\n' :: unlines lines := by
  simp [unlines]

@[simp] theorem unlines_append (first second : List Text) :
    unlines (first ++ second) = unlines first ++ unlines second := by
  simp [unlines]

theorem splitInclusive_line (rest : Text) (hline : '\n' ∉ line) :
    splitInclusive (line ++ '\n' :: rest) = (line ++ ['\n']) :: splitInclusive rest := by
  induction line with
  | nil => exact if_pos rfl
  | cons character line ih =>
    obtain ⟨hcharacter,hrest⟩ := not_or.mp fun hmem => hline (mem_cons.mpr hmem)
    rw [cons_append,splitInclusive,if_neg (Ne.symm hcharacter),ih hrest]
    rfl

theorem splitInclusive_last (hline : '\n' ∉ line) (hne : line ≠ []) : splitInclusive line = [line] := by
  induction line with
  | nil => contradiction
  | cons character line ih =>
    obtain ⟨hcharacter,hrest⟩ := not_or.mp fun hmem => hline (mem_cons.mpr hmem)
    rw [splitInclusive,if_neg (Ne.symm hcharacter)]
    cases line with
    | nil => rfl
    | cons next line => rw [ih hrest (cons_ne_nil next line)]

/-- A text is one line without a line feed, or begins with a line that has one. -/
theorem line_induction {motive : Text → Prop} (last : ∀ text, '\n' ∉ text → motive text)
    (line : ∀ line rest, '\n' ∉ line → motive rest → motive (line ++ '\n' :: rest)) (text : Text) :
    motive text := by
  induction hlength : text.length using Nat.strongRecOn generalizing text with
  | _ length ih =>
    by_cases hfeed : '\n' ∈ text
    · obtain ⟨first,rest,rfl,hfirst⟩ := eq_append_cons_of_mem hfeed
      apply line first rest hfirst
      apply ih rest.length _ rest rfl
      rw [← hlength,length_append,length_cons]
      omega
    · exact last text hfeed

theorem splitInclusive_append (first second : Text) :
    splitInclusive (first ++ '\n' :: second) = splitInclusive (first ++ ['\n']) ++ splitInclusive second := by
  induction first using line_induction with
  | last first hfirst =>
    rw [splitInclusive_line second hfirst,splitInclusive_line [] hfirst]
    rfl
  | line line rest hline ih =>
    rw [append_assoc,append_assoc,cons_append,cons_append,
      splitInclusive_line _ hline,splitInclusive_line _ hline,ih]
    rfl

theorem flatten_splitInclusive (text : Text) : (splitInclusive text).flatten = text := by
  induction text using line_induction with
  | last text hfeed =>
    cases text with
    | nil => rfl
    | cons first rest =>
      rw [splitInclusive_last hfeed (cons_ne_nil first rest)]
      simp
  | line line rest hline ih =>
    rw [splitInclusive_line rest hline,flatten_cons,ih]
    simp

theorem ne_nil_of_mem_splitInclusive {piece : Text} (hpiece : piece ∈ splitInclusive text) : piece ≠ [] := by
  induction text using line_induction with
  | last text hfeed =>
    cases text with
    | nil => contradiction
    | cons first rest =>
      rw [splitInclusive_last hfeed (cons_ne_nil first rest)] at hpiece
      rw [mem_singleton.mp hpiece]
      exact cons_ne_nil first rest
  | line line rest hline ih =>
    rw [splitInclusive_line rest hline] at hpiece
    rcases mem_cons.mp hpiece with rfl | hlater
    · simp
    · exact ih hlater

theorem stripLineEnding_line (hline : OneLine line) : stripLineEnding (line ++ ['\n']) = line := by
  have hreturn : ¬line.getLast? = some '\r' := fun hlast => hline.2 (mem_of_getLast? hlast)
  unfold stripLineEnding
  rw [getLast?_concat,if_pos rfl,dropLast_concat,if_neg hreturn]

theorem stripLineEnding_last (hline : OneLine line) : stripLineEnding line = line :=
  if_neg fun hlast => hline.1 (mem_of_getLast? hlast)

theorem lines_unlines_append {written : List Text} {last : Text}
    (hwritten : ∀ line ∈ written, OneLine line) (hlast : OneLine last) (hne : last ≠ []) :
    lines (unlines written ++ last) = written ++ [last] := by
  unfold lines
  induction written with
  | nil =>
    rw [unlines_nil,nil_append,splitInclusive_last hlast.1 hne]
    simp [stripLineEnding_last hlast]
  | cons line written ih =>
    have hline := hwritten line mem_cons_self
    rw [unlines_cons,append_assoc,cons_append,splitInclusive_line _ hline.1,map_cons,
      stripLineEnding_line hline,ih fun other hother => hwritten other (mem_cons_of_mem line hother)]
    rfl

/-! ## UTF-8 -/

def utf8 (text : Text) : List UInt8 := text.flatMap String.utf8EncodeChar
def fromUtf8 (bytes : List UInt8) : Option Text := bytes.toByteArray.utf8Decode?.map Array.toList

theorem fromUtf8_utf8 (text : Text) : fromUtf8 (utf8 text) = some text := by
  have hdecode : (utf8 text).toByteArray.utf8Decode? = some text.toArray := utf8Decode?_utf8Encode
  unfold fromUtf8
  rw [hdecode]
  rfl

@[simp] theorem utf8_append (first second : Text) : utf8 (first ++ second) = utf8 first ++ utf8 second :=
  flatMap_append

theorem utf8_ne_nil (hne : text ≠ []) : utf8 text ≠ [] := by
  cases text with
  | nil => contradiction
  | cons character rest =>
    intro hnil
    exact String.utf8EncodeChar_ne_nil (append_eq_nil_iff.mp hnil).1

theorem lineFeed_ne_high {byte : Nat} (hlower : 128 ≤ byte) (hupper : byte < 256) :
    (10 : UInt8) ≠ UInt8.ofNat byte := by
  intro hfeed
  have hvalue : 10 = byte % 2 ^ 8 := by simpa using congrArg UInt8.toNat hfeed
  omega

theorem eq_lineFeed_of_mem_utf8EncodeChar {character : Char}
    (hmem : 10 ∈ String.utf8EncodeChar character) : character = '\n' := by
  unfold String.utf8EncodeChar at hmem
  dsimp only at hmem
  split at hmem
  · have hvalue : 10 = character.val.toNat % 2 ^ 8 := by
      simpa using congrArg UInt8.toNat (mem_singleton.mp hmem)
    apply Char.toNat_inj.mp
    change character.val.toNat = 10
    omega
  -- every byte of a longer encoding has its high bit set
  split at hmem
  next =>
    simp only [mem_cons,not_mem_nil,or_false] at hmem
    rcases hmem with hbyte | hbyte <;> exact absurd hbyte (lineFeed_ne_high (by omega) (by omega))
  split at hmem
  next =>
    simp only [mem_cons,not_mem_nil,or_false] at hmem
    rcases hmem with hbyte | hbyte | hbyte <;>
      exact absurd hbyte (lineFeed_ne_high (by omega) (by omega))
  next =>
    simp only [mem_cons,not_mem_nil,or_false] at hmem
    rcases hmem with hbyte | hbyte | hbyte | hbyte <;>
      exact absurd hbyte (lineFeed_ne_high (by omega) (by omega))

theorem lineFeed_not_mem_utf8 (hfeed : '\n' ∉ text) : 10 ∉ utf8 text := by
  intro hmem
  obtain ⟨character,hcharacter,hbyte⟩ := mem_flatMap.mp hmem
  rw [eq_lineFeed_of_mem_utf8EncodeChar hbyte] at hcharacter
  exact hfeed hcharacter

end Routiq.Core.Strings
