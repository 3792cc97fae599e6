import Componentry.Json.Value
import Componentry.Numeral.Integer

/-!
# Reading values

The text of a settings file is read into a value. A failure knows the text that was left when it
arose, so that its place can be told by counting from the start.
-/

namespace Componentry.Json

/-- What a text lacks to be a value. -/
inductive Fault
  /-- A value does not start here. -/
  | value
  /-- The key of an object does not start here. -/
  | key
  /-- The colon after a key does not stand here. -/
  | colon
  /-- The comma or the end of a list or object does not stand here. -/
  | comma
  /-- The literal that starts here does not end. -/
  | unterminated
  /-- A control character stands here inside a literal. -/
  | control
  /-- An escape that starts here is none of those that there are. -/
  | escape
  /-- A unit escape that starts here has not four hexadecimal digits. -/
  | unit
  /-- A value has ended here and text follows. -/
  | extra
  /-- A byte order mark starts the text. -/
  | byteOrderMark
  deriving DecidableEq, Repr

/-- The fault in words. -/
def Fault.message : Fault → Text
  | .value => "Expecting value"
  | .key => "Expecting property name enclosed in double quotes"
  | .colon => "Expecting ':' delimiter"
  | .comma => "Expecting ',' delimiter"
  | .unterminated => "Unterminated string starting at"
  | .control => "Invalid control character at"
  | .escape => "Invalid \\escape"
  | .unit => "Invalid \\uXXXX escape"
  | .extra => "Extra data"
  | .byteOrderMark => "Unexpected UTF-8 BOM (decode using utf-8-sig)"

/-- What values nest in. -/
inductive Nesting
  /-- A list. -/
  | array
  /-- An object. -/
  | object
  deriving DecidableEq, Repr

/-- The name of what values nest in. -/
def Nesting.name : Nesting → Text
  | .array => "array"
  | .object => "object"

/-- Why reading stopped. -/
inductive Failure
  /-- The text has a fault where `rest` begins. -/
  | fault (fault : Fault) (rest : Text)
  /-- An integer has too many digits. -/
  | integer (error : Numeral.IntegerError)
  /-- A list or object starts too deep inside others. -/
  | tooDeep (nesting : Nesting)
  deriving DecidableEq, Repr

/-- A text without the leading characters that may stand between the parts of a value. -/
def skipSpace (t : Text) : Text :=
  t.dropWhile fun c => c = ' ' || c = '\t' || c = '\n' || c = '\r'

/-- The value of four hexadecimal digits. -/
def unit? (a b c d : Char) : Option Nat := do
  let a ← Numeral.hexValue? a
  let b ← Numeral.hexValue? b
  let c ← Numeral.hexValue? c
  let d ← Numeral.hexValue? d
  some (((a * 16 + b) * 16 + c) * 16 + d)

/-- The character that a one character escape stands for. -/
def escaped? (c : Char) : Option Char :=
  if c = '"' || c = '\\' || c = '/' then some c
  else if c = 'b' then some '\x08'
  else if c = 'f' then some '\x0c'
  else if c = 'n' then some '\n'
  else if c = 'r' then some '\r'
  else if c = 't' then some '\t'
  else none

/-- What precedes the rest of a literal. -/
inductive Lead
  /-- Nothing that matters. -/
  | none
  /-- The first unit of a character of two, which has not been written yet. -/
  | unit (high : Nat)

/-- A first unit without its second. -/
def Lead.flush : Lead → Text
  | .none => []
  | .unit high => [Char.ofNat high]

/-- The characters of a literal after its opening quotation mark, and what follows the closing one.
`whole` is the text from the opening mark on. -/
def literalBody (whole : Text) (lead : Lead) : Text → Except Failure (Text × Text)
  | [] => .error (.fault .unterminated whole)
  | '"' :: rest => .ok (lead.flush, rest)
  | ['\\'] => .error (.fault .unterminated whole)
  | '\\' :: 'u' :: a :: b :: c :: d :: e :: rest =>
    match unit? a b c d with
    | none => .error (.fault .unit ('u' :: a :: b :: c :: d :: e :: rest))
    | some n =>
      match lead with
      | .unit high =>
        if 0xDC00 ≤ n && n < 0xE000 then
          let c := Char.ofNat (0x10000 + (high - 0xD800) * 0x400 + (n - 0xDC00))
          (literalBody whole .none (e :: rest)).map fun (text, after) => (c :: text, after)
        else if 0xD800 ≤ n && n < 0xDC00 then
          (literalBody whole (.unit n) (e :: rest)).map fun (text, after) =>
            (lead.flush ++ text, after)
        else
          (literalBody whole .none (e :: rest)).map fun (text, after) =>
            (lead.flush ++ Char.ofNat n :: text, after)
      | .none =>
        if 0xD800 ≤ n && n < 0xDC00 then literalBody whole (.unit n) (e :: rest)
        else
          (literalBody whole .none (e :: rest)).map fun (text, after) =>
            (Char.ofNat n :: text, after)
  | '\\' :: c :: rest =>
    if c = 'u' then .error (.fault .unit (c :: rest))
    else
      match escaped? c with
      | none => .error (.fault .escape ('\\' :: c :: rest))
      | some e =>
        (literalBody whole .none rest).map fun (text, after) => (lead.flush ++ e :: text, after)
  | c :: rest =>
    if c.toNat < 0x20 then .error (.fault .control (c :: rest))
    else (literalBody whole .none rest).map fun (text, after) => (lead.flush ++ c :: text, after)

/-- The literal whose opening quotation mark precedes `rest`. -/
def readLiteral (rest : Text) : Except Failure (Text × Text) :=
  literalBody ('"' :: rest) .none rest

/-- The exponent part of a number, or nothing if what follows is none. -/
def exponentPart : Text → Text × Text
  | [] => ([], [])
  | e :: rest =>
    if e = 'e' || e = 'E' then
      let (sign, body) : Text × Text :=
        match rest with
        | '-' :: body => (['-'], body)
        | '+' :: body => (['+'], body)
        | body => ([], body)
      let digits := body.takeWhile Char.isDigit
      if digits.isEmpty then ([], e :: rest)
      else (e :: sign ++ digits, body.dropWhile Char.isDigit)
    else ([], e :: rest)

/-- The fraction part of a number, or nothing if what follows is none. -/
def fractionPart : Text → Text × Text
  | '.' :: rest =>
    let digits := rest.takeWhile Char.isDigit
    if digits.isEmpty then ([], '.' :: rest)
    else ('.' :: digits, rest.dropWhile Char.isDigit)
  | rest => ([], rest)

/-- An unsigned number; `whole` is the text from the sign on. It has a single zero or digits that
start with another one, then perhaps a fraction and an exponent. -/
def readUnsigned (whole : Text) (sign : Text) (body : Text) : Except Failure (Json × Text) :=
  match body with
  | [] => .error (.fault .value whole)
  | c :: rest =>
    if c.isDigit then
      let digits := if c = '0' then ['0'] else body.takeWhile Char.isDigit
      let rest := if c = '0' then rest else body.dropWhile Char.isDigit
      let (fraction, rest) := fractionPart rest
      let (exponent, rest) := exponentPart rest
      if fraction.isEmpty && exponent.isEmpty then
        match Numeral.readInteger (sign ++ digits) with
        | .ok n => .ok (.int n, rest)
        | .error error => .error (.integer error)
      else
        match Numeral.Double.read? (sign ++ digits ++ fraction ++ exponent) with
        | some x => .ok (.float x, rest)
        | none => .error (.fault .value whole)
    else .error (.fault .value whole)

/-- The values that are written as words. -/
def words : List (Text × Json) := [
  ("null", .null), ("true", .bool true), ("false", .bool false), ("NaN", .float .nan),
  ("Infinity", .float (.infinite false)), ("-Infinity", .float (.infinite true))]

/-- A word or a number. -/
def readAtom (t : Text) : Except Failure (Json × Text) :=
  match words.findSome? fun (word, value) => (Text.dropPrefix? word t).map ((value, ·)) with
  | some (value, rest) => .ok (value, rest)
  | none =>
    match t with
    | '-' :: body => readUnsigned t ['-'] body
    | body => readUnsigned t [] body

mutual

/-- A value at the start of a text, and what follows it. Lists and objects nest in it at most `room`
levels deep. -/
def readValue (room : Nat) : Nat → Text → Except Failure (Json × Text)
  | 0, t => .error (.fault .value t)
  | fuel + 1, t =>
    match t with
    | '"' :: rest => (readLiteral rest).map fun (text, after) => (.string text, after)
    | '[' :: rest =>
      if room = 0 then .error (.tooDeep .array)
      else
        match skipSpace rest with
        | ']' :: after => .ok (.array [], after)
        | inner =>
          (readElements (room - 1) fuel inner).map fun (elements, after) =>
            (.array elements, after)
    | '{' :: rest =>
      if room = 0 then .error (.tooDeep .object)
      else
        match skipSpace rest with
        | '}' :: after => .ok (.object [], after)
        | inner =>
          (readFields (room - 1) fuel inner).map fun (fields, after) =>
            (.object (ofPairs fields), after)
    | _ => readAtom t

/-- The elements of a list up to its end, of which there is at least one. -/
def readElements (room : Nat) : Nat → Text → Except Failure (List Json × Text)
  | 0, t => .error (.fault .value t)
  | fuel + 1, t => do
    let (value, rest) ← readValue room fuel t
    match skipSpace rest with
    | ']' :: after => .ok ([value], after)
    | ',' :: more =>
      let (values, after) ← readElements room fuel (skipSpace more)
      .ok (value :: values, after)
    | rest => .error (.fault .comma rest)

/-- The keys and values of an object up to its end, of which there is at least one pair. -/
def readFields (room : Nat) : Nat → Text → Except Failure (Fields × Text)
  | 0, t => .error (.fault .key t)
  | fuel + 1, t =>
    match t with
    | '"' :: rest => do
      let (key, rest) ← readLiteral rest
      match skipSpace rest with
      | ':' :: rest =>
        let (value, rest) ← readValue room fuel (skipSpace rest)
        match skipSpace rest with
        | '}' :: after => .ok ([(key, value)], after)
        | ',' :: more =>
          let (fields, after) ← readFields room fuel (skipSpace more)
          .ok ((key, value) :: fields, after)
        | rest => .error (.fault .comma rest)
      | rest => .error (.fault .colon rest)
    | _ => .error (.fault .key t)

end

/-- The value of a whole text. Every bracket and every element takes at least one character, which
bounds how long reading goes on. -/
def readAll (room : Nat) (t : Text) : Except Failure Json :=
  match t with
  | '\uFEFF' :: _ => .error (.fault .byteOrderMark t)
  | _ => do
    let (value, rest) ← readValue room (2 * t.length + 2) (skipSpace t)
    match skipSpace rest with
    | [] => .ok value
    | extra => .error (.fault .extra extra)

/-- Where and why a text is not a value. -/
inductive Error
  /-- There is a fault after `position` characters, the last `column - 1` of them in `line`. -/
  | fault (fault : Fault) (position line column : Nat)
  /-- An integer has too many digits. -/
  | integer (error : Numeral.IntegerError)
  /-- A list or object is too deep inside others. -/
  | tooDeep (nesting : Nesting)
  deriving DecidableEq, Repr

/-- The error in words. -/
def Error.message : Error → Text
  | .fault cause position line column =>
    cause.message ++ ": line " ++ Text.ofNat line ++ " column " ++ Text.ofNat column ++ " (char " ++
      Text.ofNat position ++ ")"
  | .integer error => error.message
  | .tooDeep nesting =>
    "maximum recursion depth exceeded while decoding a JSON " ++ nesting.name ++
      " from a unicode string"

/-- A failure with its place in the whole text. -/
def Failure.locate (whole : Text) : Failure → Error
  | .integer error => .integer error
  | .tooDeep nesting => .tooDeep nesting
  | .fault cause rest =>
    let position := whole.length - rest.length
    let before := whole.take position
    let column := (before.reverse.takeWhile (· ≠ '\n')).length + 1
    .fault cause position (before.count '\n' + 1) column

/-- The value that a text writes, in which lists and objects nest at most `room` levels deep. -/
def parse (room : Nat) (t : Text) : Except Error Json :=
  match readAll room t with
  | .ok value => .ok value
  | .error failure => .error (failure.locate t)

end Componentry.Json
