import Componentry.Numeral.Lenient
import Componentry.Validation

/-!
# Themes

The accent colour of a component, in three channels. Channels are read leniently from the values of
a settings file: truth values count as one and zero, and texts and fractions count if they are
whole.
-/

namespace Componentry

/-- An accent colour. -/
structure Theme where
  /-- The hue in degrees. -/
  hue : Nat
  /-- The saturation in percent. -/
  saturation : Nat
  /-- The lightness in percent. -/
  lightness : Nat
  deriving DecidableEq, Repr, Inhabited

namespace Theme

/-- The theme that is used where none is given. -/
def default : Theme := ⟨217, 91, 60⟩

/-- The greatest hue. -/
def maxHue : Nat := 360

/-- The greatest saturation and lightness. -/
def maxPercent : Nat := 100

/-- The channels of a theme are in their ranges. -/
def Valid (t : Theme) : Prop :=
  t.hue ≤ maxHue ∧ t.saturation ≤ maxPercent ∧ t.lightness ≤ maxPercent

/-- Why a value is not a channel. -/
inductive ChannelFault
  /-- It is neither a number nor a text nor a truth value. -/
  | notNumber
  /-- It is a text that does not write a whole number. -/
  | unparsable
  /-- It has a fractional part. -/
  | fractional
  /-- It is an infinity or not a number. -/
  | notFinite
  /-- It is too long to be read. -/
  | tooLong
  /-- It is greater than the limit. -/
  | above (limit : Nat)
  /-- It is negative. -/
  | negative
  deriving DecidableEq, Repr

/-- The kind of a fault. -/
def ChannelFault.kind : ChannelFault → Text
  | .notNumber => "int_type"
  | .unparsable => "int_parsing"
  | .fractional => "int_from_float"
  | .notFinite => "finite_number"
  | .tooLong => "int_parsing_size"
  | .above _ => "less_than_equal"
  | .negative => "greater_than_equal"

/-- A fault in words. -/
def ChannelFault.message : ChannelFault → Text
  | .notNumber => "Input should be a valid integer"
  | .unparsable => "Input should be a valid integer, unable to parse string as an integer"
  | .fractional => "Input should be a valid integer, got a number with a fractional part"
  | .notFinite => "Input should be a finite number"
  | .tooLong => "Unable to parse input string as an integer, exceeded maximum size"
  | .above limit => "Input should be less than or equal to " ++ Text.ofNat limit
  | .negative => "Input should be greater than or equal to 0"

/-- The whole number that a text writes. -/
def readText (t : Text) : Except ChannelFault Int :=
  match Numeral.readLenient t with
  | .ok n => .ok n
  | .error .malformed => .error .unparsable
  | .error .tooLong => .error .tooLong

/-- Fractions without a fractional part stand for whole numbers of a magnitude below this one. -/
def maxFraction : Nat := Nat.pow 2 63

/-- The whole number that a value stands for. -/
def wholeNumber : Json → Except ChannelFault Int
  | .int n => .ok n
  | .bool true => .ok 1
  | .bool false => .ok 0
  | .string t => readText t
  | .float x =>
    match x with
    | .finite .. =>
      match x.toInt? with
      | some n => if n.natAbs < maxFraction then .ok n else .error .tooLong
      | none => .error .fractional
    | _ => .error .notFinite
  | _ => .error .notNumber

/-- The channel that a value stands for, which is at most `limit`. -/
def channel (limit : Nat) (value : Json) : Except ChannelFault Nat :=
  match wholeNumber value with
  | .error fault => .error fault
  | .ok n =>
    if (limit : Int) < n then .error (.above limit)
    else if n < 0 then .error .negative
    else .ok n.toNat

/-- The channel under `name` in `fields`, or `fallback` if there is none, with the issue of a value
that is no channel. -/
def channelField (fields : Json.Fields) (name : Text) (limit fallback : Nat) :
    Nat × List Issue :=
  match Json.find? name fields with
  | none => (fallback, [])
  | some value =>
    match channel limit value with
    | .ok n => (n, [])
    | .error fault => (fallback, [⟨name, fault.kind, fault.message, value⟩])

/-- The record that themes are validated against. -/
def record : Text := "ThemeParams"

/-- The theme that fields give. Missing channels are those of the default theme, and fields of other
names count for nothing. -/
def ofFields (fields : Json.Fields) : Except ValidationError Theme :=
  let (hue, hueIssues) := channelField fields "hue" maxHue default.hue
  let (saturation, saturationIssues) :=
    channelField fields "saturation" maxPercent default.saturation
  let (lightness, lightnessIssues) := channelField fields "lightness" maxPercent default.lightness
  match hueIssues ++ saturationIssues ++ lightnessIssues with
  | [] => .ok ⟨hue, saturation, lightness⟩
  | issues => .error ⟨record, issues⟩

/-- The theme whose channels are three values. -/
def ofChannels (hue saturation lightness : Json) : Except ValidationError Theme :=
  ofFields [("hue", hue), ("saturation", saturation), ("lightness", lightness)]

/-- The theme that a value stands for, which has to be an object. -/
def ofValue (value : Json) : Except ValidationError Theme :=
  match value with
  | .object fields => ofFields fields
  | value =>
    .error ⟨record, [⟨[], "model_type",
      "Input should be a valid dictionary or instance of ThemeParams", value⟩]⟩

end Theme

end Componentry
