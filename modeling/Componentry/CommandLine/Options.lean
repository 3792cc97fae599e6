import Componentry.Text.Word

/-!
# Options

Arguments of a command are words and options. An option starts with a dash, may be shortened as long
as one option only is meant, and may carry its value after an equals sign. Two dashes alone end the
options. What looks like an option but is none of those that the command knows is told apart from a
word, and so is what cannot be read at all.
-/

namespace Componentry.CommandLine

/-- An option that a command knows besides the one for help. -/
structure OptionForm where
  /-- Its name after the two dashes. -/
  name : Text
  /-- It takes a value. -/
  takesValue : Bool
  deriving DecidableEq, Repr

/-- How an argument is read. -/
inductive Argued
  /-- A word. -/
  | word (word : Text)
  /-- Two dashes alone, before the words `words`. -/
  | endOfOptions (words : List Text)
  /-- The option for help. -/
  | help
  /-- An option, with the value after its equals sign if it has one. -/
  | option (form : OptionForm) (value? : Option Text)
  /-- An option that is not known. -/
  | unknown
  /-- The option for help with something after it that does not belong there. -/
  | malformed
  deriving DecidableEq, Repr

/-- What ends the options. -/
def endMark : Text := "--"

/-- The long name of the option for help. -/
def helpName : Text := "help"

/-- A text is a negative number, as far as options are concerned: a minus sign, digits, and perhaps
more digits after a point. A line feed may end it. -/
def isNegativeNumber (t : Text) : Bool :=
  match t with
  | '-' :: rest =>
    let whole := rest.takeWhile isDecimalDigit
    match rest.drop whole.length with
    | '.' :: fraction =>
      let digits := fraction.takeWhile isDecimalDigit
      !digits.isEmpty && endsHere (fraction.drop digits.length)
    | after => !whole.isEmpty && endsHere after
  | _ => false
where
  /-- Nothing but perhaps a line feed follows. -/
  endsHere (t : Text) : Bool := t = [] || t = ['\n']

/-- An argument that is no option, though it starts with a dash: it is a negative number or holds a
space. Anything else is an option that is not known. -/
def wordOrUnknown (argument : Text) : Argued :=
  if isNegativeNumber argument || argument.contains ' ' then .word argument else .unknown

/-- What follows `-h` in an argument: only more of the same, perhaps after an equals sign. -/
def readShortHelp : Text → Argued
  | [] => .help
  | '=' :: rest => if !rest.isEmpty && rest.all (· = 'h') then .help else .malformed
  | rest => if rest.all (· = 'h') then .help else .malformed

/-- The name before the first equals sign, and the value after it if there is one. -/
def cutValue (t : Text) : Text × Option Text :=
  match Text.cut? '=' t with
  | some (name, value) => (name, some value)
  | none => (t, none)

/-- What `name` is short for, among the option for help, which is `none`, and the options `forms`. A
full name is short for itself alone. -/
def meanings (forms : List OptionForm) (name : Text) : List (Option OptionForm) :=
  match forms.find? (·.name = name) with
  | some form => [some form]
  | none =>
    if name = helpName then [none]
    else
      (if Text.startsWith helpName name then [none] else []) ++
        (forms.filter fun form => Text.startsWith form.name name).map some

/-- How an argument that starts with two dashes is read; none if it can mean more than one option.
-/
def readLong? (forms : List OptionForm) (argument body : Text) : Option Argued :=
  let (name, value?) := cutValue body
  match meanings forms name with
  | [] => some (wordOrUnknown argument)
  | [none] => some (if value?.isSome then .malformed else .help)
  | [some form] => some (.option form value?)
  | _ => none

/-- How one argument is read; none if it can mean more than one option. -/
def readArgument? (forms : List OptionForm) (argument : Text) : Option Argued :=
  match argument with
  | '-' :: '-' :: body => readLong? forms argument body
  | '-' :: 'h' :: rest => some (readShortHelp rest)
  | ['-'] => some (.word argument)
  | '-' :: _ => some (wordOrUnknown argument)
  | _ => some (.word argument)

/-- How arguments are read; none if one of them can mean more than one option. -/
def readArguments? (forms : List OptionForm) : List Text → Option (List Argued)
  | [] => some []
  | argument :: arguments =>
    if argument = endMark then some [.endOfOptions arguments]
    else
      match readArgument? forms argument, readArguments? forms arguments with
      | some first, some rest => some (first :: rest)
      | _, _ => none

end Componentry.CommandLine
