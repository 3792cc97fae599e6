import Componentry.Json.Literal
import Componentry.Json.Value
import Componentry.Numeral.Shortest

/-!
# Writing values

Two texts of a value: the indented text of a settings file, and the one-line text in which messages
show a value.
-/

namespace Componentry.Json

/-- A line feed and the indentation of `depth` levels. -/
def lineStart (depth : Nat) : Text := '\n' :: List.replicate (2 * depth) ' '

/-- A number as a settings file writes it. -/
def numberText : Numeral.Double → Text
  | .nan => "NaN"
  | .infinite false => "Infinity"
  | .infinite true => "-Infinity"
  | x => x.toText

/-- A key as a settings file writes it. -/
def Key.name : Key → Text
  | .null => "null"
  | .bool true => "true"
  | .bool false => "false"
  | .int n => Text.ofInt n
  | .float x => numberText x
  | .text t => t

mutual

/-- The text of a value that starts inside `depth` sections. -/
def indentedAt (depth : Nat) : Json → Text
  | .null => "null"
  | .bool true => "true"
  | .bool false => "false"
  | .int n => Text.ofInt n
  | .float x => numberText x
  | .string t => asciiLiteral t
  | .array [] => "[]"
  | .array (element :: elements) =>
    "[" ++ lineStart (depth + 1) ++ indentedAt (depth + 1) element ++
      indentedElements (depth + 1) elements ++ lineStart depth ++ "]"
  | .object [] => "\x7b\x7d"
  | .object ((key, value) :: fields) =>
    "\x7b" ++ lineStart (depth + 1) ++ asciiLiteral key.name ++ ": " ++
      indentedAt (depth + 1) value ++ indentedFields (depth + 1) fields ++ lineStart depth ++ "\x7d"

/-- The elements of a list after its first one. -/
def indentedElements (depth : Nat) : List Json → Text
  | [] => []
  | element :: elements =>
    "," ++ lineStart depth ++ indentedAt depth element ++ indentedElements depth elements

/-- The fields of an object after its first one. -/
def indentedFields (depth : Nat) : List (Key × Json) → Text
  | [] => []
  | (key, value) :: fields =>
    "," ++ lineStart depth ++ asciiLiteral key.name ++ ": " ++ indentedAt depth value ++
      indentedFields depth fields

end

/-- The text of a value over several lines, with two blanks of indentation for each level. -/
def indented (value : Json) : Text := indentedAt 0 value

/-- A key inside a message. -/
def Key.shown : Key → Text
  | .null => "None"
  | .bool true => "True"
  | .bool false => "False"
  | .int n => Text.ofInt n
  | .float x => x.toText
  | .text t => t.quoted

mutual

/-- A value inside a message, with texts between quotation marks. -/
def shown : Json → Text
  | .null => "None"
  | .bool true => "True"
  | .bool false => "False"
  | .int n => Text.ofInt n
  | .float x => x.toText
  | .string t => t.quoted
  | .array [] => "[]"
  | .array (element :: elements) => "[" ++ shown element ++ shownElements elements ++ "]"
  | .object [] => "\x7b\x7d"
  | .object ((key, value) :: fields) =>
    "\x7b" ++ key.shown ++ ": " ++ shown value ++ shownFields fields ++ "\x7d"

/-- The elements of a list after its first one, inside a message. -/
def shownElements : List Json → Text
  | [] => []
  | element :: elements => ", " ++ shown element ++ shownElements elements

/-- The fields of an object after its first one, inside a message. -/
def shownFields : List (Key × Json) → Text
  | [] => []
  | (key, value) :: fields => ", " ++ key.shown ++ ": " ++ shown value ++ shownFields fields

end

/-- A value as a message names it: texts as they are, all else as `shown`. -/
def display : Json → Text
  | .string t => t
  | value => value.shown

/-- The name of a value's type in messages. -/
def typeName : Json → Text
  | .null => "NoneType"
  | .bool _ => "bool"
  | .int _ => "int"
  | .float _ => "float"
  | .string _ => "str"
  | .array _ => "list"
  | .object _ => "dict"

end Componentry.Json
