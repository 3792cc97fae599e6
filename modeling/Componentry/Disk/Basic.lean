import Componentry.Disk.Path
import Componentry.Text.Quoted

/-!
# Disk

The files and directories that commands work on. What is on a disk is known by its location, which
is the list of names on the way from the root. A path is followed name by name, and every name on
the way has to be that of a directory.
-/

namespace Componentry

/-- Why a file or directory is not accessible. -/
inductive DiskFault
  /-- There is nothing at the path. -/
  | notFound
  /-- There is something at the path already. -/
  | exists
  /-- Something on the way is a file. -/
  | notDirectory
  /-- There is a directory at the path. -/
  | isDirectory
  /-- A name or the whole path is too long. -/
  | nameTooLong
  deriving DecidableEq, Repr

/-- A fault in words. -/
def DiskFault.message : DiskFault → Text
  | .notFound => "[Errno 2] No such file or directory"
  | .exists => "[Errno 17] File exists"
  | .notDirectory => "[Errno 20] Not a directory"
  | .isDirectory => "[Errno 21] Is a directory"
  | .nameTooLong => "[Errno 36] File name too long"

/-- A path that is not accessible. -/
inductive DiskError
  /-- There is a fault at the path. -/
  | fault (fault : DiskFault) (path : Path)
  /-- The path holds the null character, which no path may. -/
  | nullInPath
  deriving DecidableEq, Repr

/-- The error in words. -/
def DiskError.message : DiskError → Text
  | .fault cause path => cause.message ++ ": " ++ Text.quoted path.toText
  | .nullInPath => "embedded null byte"

/-- A place on a disk: the names on the way from its root. -/
abbrev Location := List Text

/-- What is at a location. -/
inductive DiskEntry
  /-- A file with its bytes. -/
  | file (data : List UInt8)
  /-- A directory. -/
  | directory
  deriving DecidableEq, Repr

/-- A disk. -/
structure Disk where
  /-- What is on it, except for its root, by location. The first entry of a location counts. -/
  entries : List (Location × DiskEntry)
  /-- Where relative paths start. -/
  workplace : Location
  /-- What a tilde at the start of a path stands for. -/
  home : Location
  /-- What a tilde with the name of a user after it stands for, by that name. -/
  homes : List (Text × Location)
  deriving DecidableEq, Repr, Inhabited

namespace Disk

/-- What is at a location. The root is a directory. -/
def find? (d : Disk) (at_ : Location) : Option DiskEntry :=
  if at_.isEmpty then some .directory else d.entries.lookup at_

/-- Entries in which `at_` holds `entry`. -/
def putEntry (at_ : Location) (entry : DiskEntry) :
    List (Location × DiskEntry) → List (Location × DiskEntry)
  | [] => [(at_, entry)]
  | e :: entries => if e.1 = at_ then (at_, entry) :: entries else e :: putEntry at_ entry entries

/-- A disk on which `at_` holds `entry`. -/
def put (d : Disk) (at_ : Location) (entry : DiskEntry) : Disk :=
  { d with entries := putEntry at_ entry d.entries }

/-- The greatest number of bytes in a name. -/
def maxNameBytes : Nat := 255

/-- A name is too long. -/
def isTooLong (name : Text) : Bool := maxNameBytes < Text.byteCount name

/-- The location under `name` in the directory at `at_`, which need not hold anything. -/
def enter (d : Disk) (at_ : Location) (name : Text) : Except DiskFault Location :=
  match d.find? at_ with
  | none => .error .notFound
  | some (.file _) => .error .notDirectory
  | some .directory =>
    if name = ".." then .ok at_.dropLast
    else if isTooLong name then .error .nameTooLong
    else .ok (at_ ++ [name])

/-- The location that names lead to from `at_`, which need not hold anything. -/
def follow (d : Disk) (at_ : Location) : List Text → Except DiskFault Location
  | [] => .ok at_
  | name :: names =>
    match d.enter at_ name with
    | .error fault => .error fault
    | .ok next => follow d next names

/-- The least number of bytes that no path can have. -/
def pathLimit : Nat := 4096

/-- The location that a path leads to, which need not hold anything. -/
def locate (d : Disk) (p : Path) : Except DiskError Location :=
  if p.names.any (·.contains '\x00') then .error .nullInPath
  else if pathLimit ≤ Text.byteCount p.toText then .error (.fault .nameTooLong p)
  else
    match d.follow (if p.isAbsolute then [] else d.workplace) p.names with
    | .error fault => .error (.fault fault p)
    | .ok at_ => .ok at_

/-- What is at a path. -/
def entryAt (d : Disk) (p : Path) : Except DiskError DiskEntry :=
  match d.locate p with
  | .error error => .error error
  | .ok at_ =>
    match d.find? at_ with
    | none => .error (.fault .notFound p)
    | some entry => .ok entry

/-- The bytes of the file at a path. -/
def read (d : Disk) (p : Path) : Except DiskError (List UInt8) :=
  match d.entryAt p with
  | .error error => .error error
  | .ok .directory => .error (.fault .isDirectory p)
  | .ok (.file data) => .ok data

/-- There is something at a path. Paths that lead through a file or hold the null character lead to
nothing; one with too long a name is an error. -/
def holds (d : Disk) (p : Path) : Except DiskError Bool :=
  match d.entryAt p with
  | .ok _ => .ok true
  | .error (.fault .nameTooLong q) => .error (.fault .nameTooLong q)
  | .error _ => .ok false

/-- There is a directory at a path. -/
def isDirectory (d : Disk) (p : Path) : Bool :=
  match d.entryAt p with
  | .ok .directory => true
  | _ => false

/-- The disk with a file of the given bytes at a path. -/
def write (d : Disk) (p : Path) (data : List UInt8) : Except DiskError Disk :=
  match d.locate p with
  | .error error => .error error
  | .ok at_ =>
    match d.find? at_ with
    | some .directory => .error (.fault .isDirectory p)
    | _ => .ok (d.put at_ (.file data))

/-- The disk with a new directory at a path. -/
def makeDirectory (d : Disk) (p : Path) : Except DiskError Disk :=
  match d.locate p with
  | .error error => .error error
  | .ok at_ =>
    match d.find? at_ with
    | some _ => .error (.fault .exists p)
    | none => .ok (d.put at_ .directory)

/-- A new directory is made at a path unless there is one. -/
def ensureDirectory (d : Disk) (p : Path) : Except DiskError Disk :=
  match d.makeDirectory p with
  | .ok made => .ok made
  | .error (.fault cause q) => if d.isDirectory p then .ok d else .error (.fault cause q)
  | .error error => .error error

/-- New directories are made at a path and above it, as far as there are none. `depth` counts the
names of the path. What has been made stays made if the rest fails. -/
def ensureDirectories (root : Text) (names : List Text) :
    Nat → Disk → Disk × Option DiskError
  | 0, d =>
    match d.ensureDirectory ⟨root, names.take 0⟩ with
    | .ok made => (made, none)
    | .error error => (d, some error)
  | depth + 1, d =>
    let p : Path := ⟨root, names.take (depth + 1)⟩
    match d.makeDirectory p with
    | .ok made => (made, none)
    | .error (.fault .notFound _) =>
      match ensureDirectories root names depth d with
      | (made, some error) => (made, some error)
      | (made, none) =>
        match made.ensureDirectory p with
        | .ok all => (all, none)
        | .error error => (made, some error)
    | .error _ =>
      match d.ensureDirectory p with
      | .ok made => (made, none)
      | .error error => (d, some error)

/-- New directories are made at a path and above it, as far as there are none. -/
def makeAll (d : Disk) (p : Path) : Disk × Option DiskError :=
  ensureDirectories p.root p.names p.names.length d

end Disk

end Componentry
