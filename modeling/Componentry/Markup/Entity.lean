import Componentry.Markup.EntityTable
import Componentry.Numeral.Integer

/-!
# Character references

Named and numeric references to characters. Running text and attribute values read them by different
rules: in text a name counts with and without its semicolon and an unknown one loses it, in a value
the longest known beginning of a name counts and code points that are no characters vanish.
-/

namespace Componentry.Markup

/-- The characters that the code points from 0x80 to 0x9F stand for in references. Five of them keep
their own meaning. -/
def legacyChars : List Nat := [
  0x20AC, 0x81, 0x201A, 0x192, 0x201E, 0x2026, 0x2020, 0x2021, 0x2C6, 0x2030, 0x160, 0x2039, 0x152,
  0x8D, 0x17D, 0x8F, 0x90, 0x2018, 0x2019, 0x201C, 0x201D, 0x2022, 0x2013, 0x2014, 0x2DC, 0x2122,
  0x161, 0x203A, 0x153, 0x9D, 0x17E, 0x178]

/-- The replacement character. -/
def replacement : Char := '\uFFFD'

/-- The character for the code point of a reference: the replacement character for zero, surrogates
and what lies beyond the last code point. -/
def referredChar (n : Nat) : Char :=
  if n = 0 || (0xD800 ≤ n && n < 0xE000) || 0x10FFFF < n then replacement
  else if 0x80 ≤ n && n < 0xA0 then Char.ofNat (legacyChars.getD (n - 0x80) n)
  else Char.ofNat n

/-- A code point that stands for nothing in an attribute value: control characters other than blank
ones, and those that are no characters. -/
def isVoidCode (n : Nat) : Bool :=
  (1 ≤ n && n ≤ 8) || n = 0xB || (0xE ≤ n && n ≤ 0x1F) || n = 0x7F || (0xFDD0 ≤ n && n ≤ 0xFDEF) ||
    (n ≤ 0x10FFFF && 0xFFFE ≤ n % 0x10000)

/-- A hexadecimal digit. -/
def isHexDigit (c : Char) : Bool := (Numeral.hexValue? c).isSome

/-- The value of hexadecimal digits. -/
def hexNumber (digits : Text) : Nat :=
  digits.foldl (fun n c => 16 * n + (Numeral.hexValue? c).getD 0) 0

/-- The digits of a numeric reference. -/
inductive Digits
  /-- Decimal digits. -/
  | decimal (digits : Text)
  /-- Hexadecimal digits, after an `x`. -/
  | hexadecimal (digits : Text)

/-- The number that digits write. Only decimal digits are bounded in number. -/
def Digits.value : Digits → Except Numeral.IntegerError Nat
  | .decimal digits => Numeral.readNatural digits digits
  | .hexadecimal digits => .ok (hexNumber digits)

/-- The digits after a number sign, if there are any, and what follows them. -/
def numericDigits? : Text → Option (Digits × Text)
  | [] => none
  | c :: rest =>
    if c.isDigit then
      some (.decimal ((c :: rest).takeWhile Char.isDigit), (c :: rest).dropWhile Char.isDigit)
    else if c = 'x' || c = 'X' then
      let digits := rest.takeWhile isHexDigit
      if digits.isEmpty then none else some (.hexadecimal digits, rest.dropWhile isHexDigit)
    else none

/-! ### References in running text -/

/-- The text of a named reference in running text, where a name is known with and without a
semicolon after it. -/
def namedText (name : Text) : Text := (entity? name).getD ('&' :: name)

/-- A character that a name of a reference in running text may have after its first. -/
def isEntityChar (c : Char) : Bool := c.isAlphanum || c = '-' || c = '.'

/-- The name at the start of a text that follows an ampersand, and what follows the name. A name has
to be ended by a character that is no letter and no digit; at the end of the text, that can only be
the last hyphen or point of the name itself. -/
def entityName? : Text → Option (Text × Text)
  | [] => none
  | c :: rest =>
    if c.isAlpha then
      let run := rest.takeWhile isEntityChar
      match rest.dropWhile isEntityChar with
      | [] =>
        let tail := run.reverse.takeWhile Char.isAlphanum
        if tail.length = run.length then none
        else
          let length := run.length - tail.length - 1
          some (c :: run.take length, run.drop length)
      | after => some (c :: run, after)
    else none

/-- What follows a reference, which a semicolon belongs to. -/
def skipSemicolon : Text → Text
  | ';' :: rest => rest
  | rest => rest

/-! ### References in attribute values -/

/-- A character that a name of a reference in an attribute value may have. -/
def isValueNameChar (c : Char) : Bool :=
  !(c = '\t' || c = '\n' || c = '\x0c' || c = ' ' || c = '<' || c = '&' || c = '#' || c = ';')

/-- The text of a numeric reference in an attribute value. -/
def numericValue (n : Nat) : Text :=
  if n = 0xD then ['\r']
  else if isVoidCode n then []
  else [referredChar n]

/-- The text that a name without a semicolon after it stands for in an attribute value. -/
def bareEntity? (name : Text) : Option Text :=
  if bareEntities.any (·.toList = name) then entity? name else none

/-- The text for the longest beginning of `name` that is known without a semicolon, among those of
two to `length` characters, with the rest of `name` after it. -/
def longestKnown? (name : Text) : Nat → Option Text
  | 0 => none
  | length + 1 =>
    if length = 0 then none
    else
      match bareEntity? (name.take (length + 1)) with
      | some text => some (text ++ name.drop (length + 1))
      | none => longestKnown? name length

/-- The text of a named reference in an attribute value. `closed` says that a semicolon follows the
name; it stays if the name is not known. -/
def namedValue (name : Text) (closed : Bool) : Text :=
  match if closed then entity? name else bareEntity? name with
  | some text => text
  | none =>
    let written := if closed then name ++ ";" else name
    (longestKnown? written (written.length - 1)).getD ('&' :: written)

/-- The reference that follows an ampersand in an attribute value: its text and its length. -/
def valueReference? (rest : Text) : Option (Except Numeral.IntegerError Text × Nat) :=
  match rest with
  | '#' :: body =>
    (numericDigits? body).map fun (digits, after) =>
      (digits.value.map numericValue, rest.length - (skipSemicolon after).length)
  | _ =>
    let name := (rest.takeWhile isValueNameChar).take 32
    if name.isEmpty then none
    else if (rest.drop name.length).head? = some ';' then
      some (.ok (namedValue name true), name.length + 1)
    else some (.ok (namedValue name false), name.length)

/-- An attribute value without its first `skip` characters and with its references resolved. -/
def resolveFrom (skip : Nat) : Text → Except Numeral.IntegerError Text
  | [] => .ok []
  | c :: rest =>
    match skip with
    | skip + 1 => resolveFrom skip rest
    | 0 =>
      if c = '&' then
        match valueReference? rest with
        | some (.error error, _) => .error error
        | some (.ok text, length) => (resolveFrom length rest).map (text ++ ·)
        | none => (resolveFrom 0 rest).map ('&' :: ·)
      else (resolveFrom 0 rest).map (c :: ·)

/-- An attribute value with its references resolved. -/
def resolveReferences (value : Text) : Except Numeral.IntegerError Text := resolveFrom 0 value

end Componentry.Markup
