import Mathlib.Algebra.Ring.Nat
import Mathlib.Algebra.BigOperators.Group.List.Basic

/-!
# Quoted text and JSON strings

What Go's `%q` verb and `encoding/json` write for a string, and how far it can grow on the way.
Which characters are printable is a parameter.
-/

namespace Bacchus.Text

open List

/-- Bytes of a text in UTF-8. -/
def byteLength (text : List Char) : Nat := (text.map Char.utf8Size).sum

@[simp] theorem byteLength_nil : byteLength [] = 0 := rfl

/-- One more character. -/
@[simp] theorem byteLength_cons (char : Char) (text : List Char) :
    byteLength (char :: text) = char.utf8Size + byteLength text := by
  simp [byteLength]

/-- Two texts in a row. -/
@[simp] theorem byteLength_append (left right : List Char) :
    byteLength (left ++ right) = byteLength left + byteLength right := by
  simp [byteLength]

/-- A lower-case hexadecimal digit. -/
def hexDigit (value : Nat) : Char :=
  if value < 10 then Char.ofNat (value + '0'.toNat) else Char.ofNat (value - 10 + 'a'.toNat)

/-- The `width` lowest hexadecimal digits of a number, most significant first. -/
def hexDigits : Nat → Nat → List Char
  | 0, _ => []
  | width + 1, value => hexDigits width (value / 16) ++ [hexDigit (value % 16)]

/-- As many digits as asked for. -/
@[simp] theorem length_hexDigits (width value : Nat) : (hexDigits width value).length = width := by
  induction width generalizing value with
  | zero => rfl
  | succ width ih => simp [hexDigits, ih]

theorem utf8Size_hexDigit {value : Nat} (small : value < 16) : (hexDigit value).utf8Size = 1 := by
  have every : ∀ digit < 16, (hexDigit digit).utf8Size = 1 := by decide
  exact every value small

theorem byteLength_hexDigits (width value : Nat) : byteLength (hexDigits width value) = width := by
  induction width generalizing value with
  | zero => rfl
  | succ width ih => simp [hexDigits, ih, utf8Size_hexDigit (Nat.mod_lt value (by decide : 0 < 16))]

/-- One character between the quotes that `strconv.Quote` writes. -/
def quoteChar (isPrint : Char → Bool) (char : Char) : List Char :=
  if char = '"' ∨ char = '\\' then ['\\', char]
  else if isPrint char then [char]
  else
    match char.toNat with
    | 0x07 => ['\\', 'a']
    | 0x08 => ['\\', 'b']
    | 0x0c => ['\\', 'f']
    | 0x0a => ['\\', 'n']
    | 0x0d => ['\\', 'r']
    | 0x09 => ['\\', 't']
    | 0x0b => ['\\', 'v']
    | code =>
      if code < 0x20 ∨ code = 0x7f then '\\' :: 'x' :: hexDigits 2 code
      else if code < 0x10000 then '\\' :: 'u' :: hexDigits 4 code
      else '\\' :: 'U' :: hexDigits 8 code

/-- `strconv.Quote`, the rendering of `%q`. -/
def quote (isPrint : Char → Bool) (text : String) : List Char :=
  '"' :: text.toList.flatMap (quoteChar isPrint) ++ ['"']

theorem length_quoteChar_le (isPrint : Char → Bool) (char : Char) :
    (quoteChar isPrint char).length ≤ 10 := by
  unfold quoteChar
  split_ifs
  · simp
  · simp
  · split
    all_goals first | simp | skip
    split_ifs <;> simp

/-- Quoting grows a string by at most a factor of ten, and the two quotes. -/
theorem length_quote_le (isPrint : Char → Bool) (text : String) :
    (quote isPrint text).length ≤ 10 * text.length + 2 := by
  have inner : ∀ chars : List Char,
      (chars.flatMap (quoteChar isPrint)).length ≤ 10 * chars.length := by
    intro chars
    induction chars with
    | nil => simp
    | cons char chars ih =>
      have head := length_quoteChar_le isPrint char
      simp only [flatMap_cons, length_append, length_cons]
      omega
  have chars := inner text.toList
  simp only [quote, length_cons, length_append, length_nil, ← String.length_toList]
  omega

/-- One character of a JSON string as `json.Marshal` escapes it, HTML characters
included. -/
def jsonChar (char : Char) : List Char :=
  if char = '"' ∨ char = '\\' then ['\\', char]
  else if char.toNat = 0x08 then ['\\', 'b']
  else if char.toNat = 0x0c then ['\\', 'f']
  else if char.toNat = 0x0a then ['\\', 'n']
  else if char.toNat = 0x0d then ['\\', 'r']
  else if char.toNat = 0x09 then ['\\', 't']
  else if char.toNat < 0x20 ∨ char = '<' ∨ char = '>' ∨ char = '&' ∨ char.toNat = 0x2028 ∨
      char.toNat = 0x2029 then
    '\\' :: 'u' :: hexDigits 4 char.toNat
  else [char]

/-- A JSON string literal. -/
def jsonString (text : List Char) : List Char := '"' :: text.flatMap jsonChar ++ ['"']

theorem byteLength_jsonChar_le (char : Char) : byteLength (jsonChar char) ≤ 6 := by
  have size := char.utf8Size_le_four
  have slash : ('\\' : Char).utf8Size = 1 := by decide
  unfold jsonChar
  split_ifs with special
  · simp only [byteLength_cons, byteLength_nil]
    omega
  all_goals first
    | decide
    | (simp only [byteLength_cons, byteLength_hexDigits, byteLength_nil]
       have letter : ('u' : Char).utf8Size = 1 := by decide
       omega)

/-- A JSON string takes at most six bytes per character, and the two quotes. -/
theorem byteLength_jsonString_le (text : List Char) :
    byteLength (jsonString text) ≤ 6 * text.length + 2 := by
  have inner : byteLength (text.flatMap jsonChar) ≤ 6 * text.length := by
    induction text with
    | nil => simp
    | cons char text ih =>
      have head := byteLength_jsonChar_le char
      simp only [flatMap_cons, byteLength_append, length_cons]
      omega
  have quoteSize : ('"' : Char).utf8Size = 1 := by decide
  simp only [jsonString, byteLength_cons, byteLength_append, byteLength_nil, quoteSize]
  omega

end Bacchus.Text
