import Componentry.Component.Conversion
import Componentry.Disk.Basic
import Componentry.Json.Printer
import Componentry.Text.Utf8

/-!
# Exporting components

A component is written to a file that is named after it, in the directory of its document or in
another one, which is made if it is not there.
-/

namespace Componentry

/-- Where components are written. -/
structure Export where
  /-- The directory; that of the document if none is given. -/
  directory? : Option Text
  /-- The extension of the files, which is a text unless the configuration is at fault. -/
  extension : Json
  /-- Files that are there may be replaced. -/
  overwrite : Bool
  deriving Inhabited

/-- Why a component is not written. -/
inductive ExportError
  /-- The disk refuses it. -/
  | disk (error : DiskError)
  /-- There is a file that may not be replaced. -/
  | occupied (target : Path)
  /-- The extension is a value of this type and no text. -/
  | extension (type : Text)
  /-- The directory is in the home of a user who is not known. -/
  | home
  deriving DecidableEq, Repr

/-- The error in words. -/
def ExportError.message : ExportError → Text
  | .disk error => error.message
  | .occupied target => target.toText ++ " already exists (export.overwrite is off)."
  | .extension type => "'" ++ type ++ "' object has no attribute 'startswith'"
  | .home => "Could not determine home directory."

namespace Export

/-- The absolute path of a location. -/
def absolute (at_ : Location) : Path := ⟨['/'], at_⟩

/-- The home of a user who is known to the disk; that of its own user for the empty name. -/
def homeOf (disk : Disk) (user : Text) : Except ExportError Location :=
  if user.isEmpty then .ok disk.home
  else if user.contains '\x00' then .error (.disk .nullInPath)
  else
    match disk.homes.lookup user with
    | some home => .ok home
    | none => .error .home

/-- A path in which a tilde at the start, perhaps with the name of a user after it, stands for the
home of the user. -/
def expandHome (disk : Disk) (p : Path) : Except ExportError Path :=
  match p.isAbsolute, p.names with
  | false, ('~' :: user) :: names =>
    (homeOf disk user).map fun home => absolute (home ++ names)
  | _, _ => .ok p

/-- The directory that the component of the document `source` is written to. -/
def directory (e : Export) (disk : Disk) (source : Path) : Except ExportError Path :=
  match e.directory?.getD [] with
  | [] =>
    match disk.locate source with
    | .ok at_ => .ok (absolute at_.dropLast)
    | .error error => .error (.disk error)
  | given => expandHome disk (Path.parse given)

/-- The extension with its dot. -/
def suffix (e : Export) : Except ExportError Text :=
  match e.extension with
  | .string t => .ok (if Text.startsWith t "." then t else '.' :: t)
  | value => .error (.extension value.typeName)

/-- A component is written to the file `target`. -/
def writeTo (e : Export) (conversion : Conversion) (target : Path) (disk : Disk) :
    Except ExportError Disk :=
  match disk.holds target with
  | .error error => .error (.disk error)
  | .ok there =>
    if there && !e.overwrite then .error (.occupied target)
    else
      match disk.write target (Utf8.encode conversion.source) with
      | .error error => .error (.disk error)
      | .ok written => .ok written

/-- The component of the document `source` is written: where to, or why not, and the disk after it.
Directories that were made stay. -/
def write (e : Export) (conversion : Conversion) (source : Path) (disk : Disk) :
    Except ExportError Path × Disk :=
  match e.suffix with
  | .error error => (.error error, disk)
  | .ok suffix =>
    match e.directory disk source with
    | .error error => (.error error, disk)
    | .ok directory =>
      match disk.makeAll directory with
      | (made, some error) => (.error (.disk error), made)
      | (made, none) =>
        let target := directory.join (conversion.name ++ suffix)
        match e.writeTo conversion target made with
        | .error error => (.error error, made)
        | .ok written => (.ok target, written)

end Export

end Componentry
