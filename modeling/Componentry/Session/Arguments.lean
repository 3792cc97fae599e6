import Componentry.CommandLine.Options

/-!
# Arguments of the conversion command

The conversion command converts files or shows the last conversion. Its arguments are read from left
to right: asking for help ends the reading at once, and anything that is left over is refused in the
end.
-/

namespace Componentry.Session

open CommandLine

/-- What is to be converted, and how. -/
structure RunOptions where
  /-- The files, of which there is at least one. -/
  files : List Text
  /-- The name of the component. -/
  name? : Option Text
  /-- The file with the styles that replace those of the documents. -/
  styles? : Option Text
  /-- The theme. -/
  theme? : Option Text
  /-- The directory for the components. -/
  directory? : Option Text
  /-- Components are printed and not written to files. -/
  prints : Bool
  deriving DecidableEq, Repr, Inhabited

/-- A page of help. -/
inductive Page
  /-- About the command as a whole. -/
  | overview
  /-- About converting files. -/
  | run
  /-- About showing the last conversion. -/
  | last
  deriving DecidableEq, Repr

/-- What the arguments of the conversion command ask for. -/
inductive Inquiry
  /-- Files are to be converted. -/
  | run (options : RunOptions)
  /-- The last conversion is to be shown. -/
  | last
  /-- A page of help is to be shown. -/
  | help (page : Page)
  /-- The arguments are refused. -/
  | refused
  deriving DecidableEq, Repr

/-- The option for the name. -/
def nameForm : OptionForm := ⟨"name", true⟩

/-- The option for the styles. -/
def stylesForm : OptionForm := ⟨"css", true⟩

/-- The option for the theme. -/
def themeForm : OptionForm := ⟨"theme", true⟩

/-- The option for the directory. -/
def directoryForm : OptionForm := ⟨"out", true⟩

/-- The option for printing. -/
def printForm : OptionForm := ⟨"stdout", false⟩

/-- The options for converting files. -/
def runForms : List OptionForm := [nameForm, stylesForm, themeForm, directoryForm, printForm]

/-- No options are given yet. -/
def RunOptions.empty : RunOptions := ⟨[], none, none, none, none, false⟩

/-- An option is given; of repeated ones the last counts. One that takes a value and is given none
is as if it had not been given at all. -/
def RunOptions.give (o : RunOptions) (form : OptionForm) (value? : Option Text) : RunOptions :=
  if form = nameForm then { o with name? := value? }
  else if form = stylesForm then { o with styles? := value? }
  else if form = themeForm then { o with theme? := value? }
  else if form = directoryForm then { o with directory? := value? }
  else { o with prints := true }

/-- The value that an option has after its equals sign. Two dashes alone are none there. -/
def attached? (value : Text) : Option Text := if value = endMark then none else some value

/-- Whether files can still be given: they have to stand next to each other. -/
inductive Gathering
  /-- No file has been given. -/
  | awaited
  /-- The last argument was a file. -/
  | going
  /-- Something has followed the files. -/
  | over
  deriving DecidableEq, Repr

/-- Something that is no file follows. -/
def Gathering.interrupted : Gathering → Gathering
  | .awaited => .awaited
  | _ => .over

/-- What the arguments for converting files ask for, after the options `o`. The option `waiting?`
takes the next word as its value, and something is left over already if `surplus` holds. -/
def readRun (o : RunOptions) (files : Gathering) (surplus : Bool) (waiting? : Option OptionForm) :
    List Argued → Inquiry
  | [] => if waiting?.isSome || surplus || o.files.isEmpty then .refused else .run o
  | argued :: rest =>
    match waiting?, argued with
    | some form, .word value => readRun (o.give form (some value)) files surplus none rest
    | some _, _ => .refused
    | none, .help => .help .run
    | none, .malformed => .refused
    | none, .unknown => readRun o files.interrupted true none rest
    | none, .option form none =>
      if form.takesValue then readRun o files.interrupted surplus (some form) rest
      else readRun (o.give form none) files.interrupted surplus none rest
    | none, .option form (some value) =>
      if form.takesValue then
        readRun (o.give form (attached? value)) files.interrupted surplus none rest
      else .refused
    | none, .word file =>
      if files = .over then readRun o .over true none rest
      else readRun { o with files := o.files ++ [file] } .going surplus none rest
    | none, .endOfOptions words =>
      if files = .over then readRun o .over true none rest
      else readRun { o with files := o.files ++ words } .going surplus none rest

/-- What the arguments for showing the last conversion ask for. -/
def readLast (surplus : Bool) : List Argued → Inquiry
  | [] => if surplus then .refused else .last
  | .help :: _ => .help .last
  | .malformed :: _ => .refused
  | _ :: rest => readLast true rest

/-- An inquiry is refused if something is left over, unless it is for help. -/
def Inquiry.unless (surplus : Bool) : Inquiry → Inquiry
  | .help page => .help page
  | inquiry => if surplus then .refused else inquiry

/-- What arguments ask for that start with the word `word`. -/
def readCommand (word : Text) (arguments : List Text) : Inquiry :=
  if word = "run" then
    match readArguments? runForms arguments with
    | some argued => readRun RunOptions.empty .awaited false none argued
    | none => .refused
  else if word = "last" then
    match readArguments? [] arguments with
    | some argued => readLast false argued
    | none => .refused
  else .refused

/-- What the arguments of the conversion command ask for. -/
def readInquiry (surplus : Bool) : List Text → Inquiry
  | [] => .refused
  | argument :: arguments =>
    if argument = endMark then .refused
    else
      match readArgument? [] argument with
      | some .help => .help .overview
      | some .unknown => readInquiry true arguments
      | some (.word word) => (readCommand word arguments).unless surplus
      | _ => .refused

/-- A page of help. -/
def Page.text : Page → Text
  | .overview => Text.ofLines [
      "usage: convert [-h] \x7brun,last\x7d ...",
      "",
      "Convert markup artifacts into components.",
      "",
      "positional arguments:",
      "  \x7brun,last\x7d  Sub-command help",
      "    run       Convert one or more markup documents.",
      "    last      Show the last conversion.",
      "",
      "options:",
      "  -h, --help  show this help message and exit",
      ""]
  | .run => Text.ofLines [
      "usage: convert run [-h] [--name NAME] [--css CSS] [--theme THEME] [--out OUT]",
      "                   [--stdout]",
      "                   FILE [FILE ...]",
      "",
      "positional arguments:",
      "  FILE           Markup document(s) to convert.",
      "",
      "options:",
      "  -h, --help     show this help message and exit",
      "  --name NAME    Component name (single file only; defaults to the file name).",
      "  --css CSS      Style file that replaces the document's own styles.",
      "  --theme THEME  Accent theme as 'hue,saturation,lightness'.",
      "  --out OUT      Output directory (default: next to the source).",
      "  --stdout       Print the component instead of writing a file.",
      ""]
  | .last => Text.ofLines [
      "usage: convert last [-h]",
      "",
      "options:",
      "  -h, --help  show this help message and exit",
      ""]

end Componentry.Session
