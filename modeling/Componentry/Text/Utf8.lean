import Componentry.Text.Quoted

/-!
# UTF-8

Reading and writing texts as bytes. The reader takes one byte at a time and keeps what it has of an
unfinished character. Bytes that cannot start a character, and the longest unfinished beginning of a
character, are each one ill-formed item; a lenient reading replaces every such item, a strict one
stops at the first.
-/

namespace Componentry.Utf8

/-- What is wrong with an ill-formed item. -/
inductive Fault
  /-- No character starts with this byte. -/
  | start
  /-- A character was begun and the next byte does not continue it. -/
  | continuation
  /-- The bytes end inside a character. -/
  | truncated
  deriving DecidableEq, Repr

/-- A fault in words. -/
def Fault.message : Fault → Text
  | .start => "invalid start byte"
  | .continuation => "invalid continuation byte"
  | .truncated => "unexpected end of data"

/-- A character or an ill-formed item. -/
inductive Item
  /-- A character that takes `width` bytes. -/
  | char (c : Char) (width : Nat)
  /-- Ill-formed bytes, which are `width` many and start with `first`. -/
  | illFormed (fault : Fault) (first : UInt8) (width : Nat)
  deriving DecidableEq, Repr

/-- The bytes that an item takes. -/
def Item.width : Item → Nat
  | .char _ width => width
  | .illFormed _ _ width => width

/-- A character of which some bytes are still owed. -/
structure Pending where
  /-- Its first byte. -/
  first : UInt8
  /-- The bytes read so far. -/
  read : Nat
  /-- The bytes still owed, at least one. -/
  owed : Nat
  /-- The least byte that may come next. -/
  low : UInt8
  /-- The greatest byte that may come next. -/
  high : UInt8
  /-- The bits read so far. -/
  bits : Nat

/-- What a byte at the start of a character leads to: an item or a character to finish. The ranges
of the second byte leave out overlong forms, surrogates and what lies beyond the last code point. -/
def start (b : UInt8) : Item ⊕ Pending :=
  let n := b.toNat
  if n < 0x80 then .inl (.char (Char.ofNat n) 1)
  else if n < 0xC2 then .inl (.illFormed .start b 1)
  else if n < 0xE0 then .inr ⟨b, 1, 1, 0x80, 0xBF, n - 0xC0⟩
  else if n < 0xF0 then
    .inr ⟨b, 1, 2, if n = 0xE0 then 0xA0 else 0x80, if n = 0xED then 0x9F else 0xBF, n - 0xE0⟩
  else if n < 0xF5 then
    .inr ⟨b, 1, 3, if n = 0xF0 then 0x90 else 0x80, if n = 0xF4 then 0x8F else 0xBF, n - 0xF0⟩
  else .inl (.illFormed .start b 1)

/-- The items of `bytes` that follow an unfinished character, if any. -/
def itemsAfter : Option Pending → List UInt8 → List Item
  | none, [] => []
  | some p, [] => [.illFormed .truncated p.first p.read]
  | none, b :: bytes =>
    match start b with
    | .inl item => item :: itemsAfter none bytes
    | .inr p => itemsAfter (some p) bytes
  | some p, b :: bytes =>
    if p.low ≤ b && b ≤ p.high then
      let bits := p.bits * 64 + (b.toNat - 0x80)
      if p.owed ≤ 1 then .char (Char.ofNat bits) (p.read + 1) :: itemsAfter none bytes
      else itemsAfter (some ⟨p.first, p.read + 1, p.owed - 1, 0x80, 0xBF, bits⟩) bytes
    else
      .illFormed .continuation p.first p.read ::
        match start b with
        | .inl item => item :: itemsAfter none bytes
        | .inr q => itemsAfter (some q) bytes

/-- The items of `bytes`. -/
def items (bytes : List UInt8) : List Item := itemsAfter none bytes

/-- The text of `bytes`, with the replacement character for each ill-formed item. -/
def decodeLenient (bytes : List UInt8) : Text :=
  (items bytes).map fun
    | .char c _ => c
    | .illFormed .. => Char.ofNat 0xFFFD

/-- Where and why bytes are not UTF-8. -/
structure Error where
  /-- What is wrong. -/
  fault : Fault
  /-- The first of the ill-formed bytes. -/
  first : UInt8
  /-- The number of bytes before the ill-formed ones. -/
  position : Nat
  /-- The number of ill-formed bytes. -/
  width : Nat
  deriving DecidableEq, Repr

/-- The error in words. -/
def Error.message (e : Error) : Text :=
  "'utf-8' codec can't decode " ++
    (if e.width ≤ 1 then
      "byte 0x" ++ Text.hexDigits 2 e.first.toNat ++ " in position " ++ Text.ofNat e.position
    else
      "bytes in position " ++ Text.ofNat e.position ++ "-" ++
        Text.ofNat (e.position + e.width - 1)) ++
    ": " ++ e.fault.message

/-- The characters of `items`, which `position` bytes precede, or the first ill-formed item. -/
def charsOfItems (position : Nat) : List Item → Except Error Text
  | [] => .ok []
  | .char c width :: items => (charsOfItems (position + width) items).map (c :: ·)
  | .illFormed fault first width :: _ => .error ⟨fault, first, position, width⟩

/-- The text of `bytes`, if they are UTF-8. -/
def decode (bytes : List UInt8) : Except Error Text := charsOfItems 0 (items bytes)

/-- The bytes of a text. -/
def encode (t : Text) : List UInt8 := t.flatMap String.utf8EncodeChar

end Componentry.Utf8
