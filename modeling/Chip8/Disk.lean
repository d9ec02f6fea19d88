import Chip8.Text.Encoding
import Chip8.Text.Quoted

/-!
# Files

A disk holds files and directories under names, which are bytes. Names count from the working
directory or, if the first of them is a slash, from the root. A path is a text; its bytes are walked
name by name: a name under something that is no directory, a missing name, a name that is too long
and a directory where a file is wanted are different failures. A path that has no bytes, or a zero
byte among them, is refused before it is walked. Any entry may have a fault, which is what the
system reports when a directory is entered or a file is read. The directories above the working
directory have no names of their own here.
-/

namespace Chip8

inductive Entry where
  | directory
  | file (data : List UInt8)
  deriving DecidableEq, Repr

inductive DiskFailure where
  | missing | isDirectory | notDirectory | taken | tooLong | denied | zeroByte
  | noBytes (e : Text.EncodeError)
  /-- Anything else that the system reports; the path is `named` when a file is opened, and not when
  it is being read. -/
  | other (number : Nat) (text : String) (named : Bool)
  deriving DecidableEq, Repr

structure DiskError where
  failure : DiskFailure
  path : Text
  deriving DecidableEq, Repr

namespace DiskFailure

def message (path : Text) : DiskFailure → String
  | missing => "[Errno 2] No such file or directory: " ++ path.quoted
  | isDirectory => "[Errno 21] Is a directory: " ++ path.quoted
  | notDirectory => "[Errno 20] Not a directory: " ++ path.quoted
  | taken => "[Errno 17] File exists: " ++ path.quoted
  | tooLong => "[Errno 36] File name too long: " ++ path.quoted
  | denied => "[Errno 13] Permission denied: " ++ path.quoted
  | other number text named =>
    "[Errno " ++ toString number ++ "] " ++ text ++ if named then ": " ++ path.quoted else ""
  | zeroByte => "embedded null byte"
  | noBytes e => e.message

/-- Whether the disk itself reports the failure; a path without usable bytes never reaches it. -/
def reported : DiskFailure → Bool
  | zeroByte => false
  | noBytes _ => false
  | _ => true

end DiskFailure

def DiskError.message (e : DiskError) : String := e.failure.message e.path

abbrev Name := List UInt8

namespace Name

def slash : UInt8 := 47

def here : Name := [46]

def above : Name := [46, 46]

def root : Name := [slash]

def pieces : List UInt8 → List Name
  | [] => [[]]
  | b :: rest =>
    if b = slash then [] :: pieces rest
    else
      match pieces rest with
      | [] => [[b]]
      | piece :: others => (b :: piece) :: others

/-- The names of a path, empty ones left out; a slash at the end asks for a directory. -/
def ofPath (path : List UInt8) : List Name :=
  let names := (pieces path).filter (· ≠ [])
  if path.getLast? = some slash then names ++ [here] else names

def top (path : List UInt8) : List Name := if path.head? = some slash then [root] else []

-- No names at all lead to the working directory itself.
def isAbove (names : List Name) : Bool := names.all (· = above)

/-- The directory above; the root is above itself. -/
def parent (names : List Name) : List Name :=
  if names = [root] then names
  else if isAbove names then above :: names
  else names.dropLast

end Name

/-- The entries of a disk by their names; the root, the working directory and those above it are not
listed. -/
structure Disk where
  entries : List (List Name × Entry)
  faults : List (List Name × DiskFailure) := []
  deriving DecidableEq, Repr

namespace Disk

def empty : Disk := { entries := [] }

def entry? (d : Disk) (names : List Name) : Option Entry :=
  if Name.isAbove names ∨ names = [Name.root] then some .directory
  else (d.entries.find? fun e => e.1 = names).map (·.2)

def erase (d : Disk) (names : List Name) : Disk :=
  { d with entries := d.entries.filter fun e => e.1 ≠ names }

def insert (d : Disk) (names : List Name) (e : Entry) : Disk :=
  { d with entries := (names, e) :: (d.erase names).entries }

def maxName : Nat := 255

def maxPath : Nat := 4095

/-- One name further; the place itself is known to be a directory. -/
def descend (d : Disk) (name : Name) (place : List Name) : Except DiskFailure (List Name) :=
  if maxName < name.length then .error .tooLong
  else if name = Name.here then .ok place
  else if name = Name.above then .ok (Name.parent place)
  else if (d.entry? (place ++ [name])).isSome then .ok (place ++ [name])
  else .error .missing

def walk (d : Disk) : List Name → List Name → Except DiskFailure (List Name)
  | place, [] => .ok place
  | place, name :: rest =>
    match d.entry? place with
    | some .directory =>
      match d.faults.lookup place with
      | some f => .error f
      | none =>
        match d.descend name place with
        | .ok there => d.walk there rest
        | .error f => .error f
    | some (.file _) => .error .notDirectory
    | none => .error .missing

def pathBytes (path : Text) : Except DiskFailure (List UInt8) :=
  match path.encode with
  | .error e => .error (.noBytes e)
  | .ok bytes =>
    if bytes.contains 0 then .error .zeroByte
    else if bytes = [] then .error .missing
    else if maxPath < bytes.length then .error .tooLong
    else .ok bytes

def find (d : Disk) (path : Text) : Except DiskFailure (List Name) :=
  match pathBytes path with
  | .error f => .error f
  | .ok bytes => d.walk (Name.top bytes) (Name.ofPath bytes)

def look (d : Disk) (path : Text) : Except DiskFailure Entry :=
  match d.find path with
  | .error f => .error f
  | .ok place =>
    match d.entry? place with
    | some e => .ok e
    | none => .error .missing

def read (d : Disk) (path : Text) : Except DiskError (List UInt8) :=
  match d.find path with
  | .error f => .error ⟨f, path⟩
  | .ok place =>
    -- What the system reports comes before the kind of the entry.
    match d.faults.lookup place, d.entry? place with
    | some f, _ => .error ⟨f, path⟩
    | none, some (.file data) => .ok data
    | none, some .directory => .error ⟨.isDirectory, path⟩
    | none, none => .error ⟨.missing, path⟩

def isFile (d : Disk) (path : Text) : Bool :=
  match d.look path with
  | .ok (.file _) => true
  | _ => false

def isDirectory (d : Disk) (path : Text) : Bool :=
  match d.look path with
  | .ok .directory => true
  | _ => false

end Disk

def baseName (path : Text) : Text :=
  ⟨(path.codes.reverse.takeWhile (· ≠ '/'.toNat)).reverse⟩

/-- A path without the slashes at its end; one of slashes only stays as it is. -/
def trimSlashes (path : Text) : Text :=
  match path.codes.reverse.dropWhile (· = '/'.toNat) with
  | [] => path
  | codes => ⟨codes.reverse⟩

def directoryName (path : Text) : Text :=
  trimSlashes ⟨(path.codes.reverse.dropWhile (· ≠ '/'.toNat)).reverse⟩

/-- A name without its extension: what stands before the last dot, unless that is only dots. -/
def stem (name : Text) : Text :=
  let dot := '.'.toNat
  let front := ((name.codes.reverse.dropWhile (· ≠ dot)).drop 1).reverse
  if front.any (· ≠ dot) then ⟨front⟩ else name

structure Homes where
  own : Text
  named : List (Text × Text) := []

/-- A home followed by the rest of a path; slashes at the home's end are left out. -/
def underHome (home : Text) (rest : List Nat) : Text :=
  match (home.codes.reverse.dropWhile (· = '/'.toNat)).reverse ++ rest with
  | [] => "/"
  | codes => ⟨codes⟩

/-- A path whose leading tilde, with the user's name after it, is replaced by a home. A user that
nobody knows stays as written; a name without bytes, or with a zero byte, cannot be looked up. -/
def Homes.expand (h : Homes) (path : Text) : Except DiskFailure Text :=
  if path.startsWith "~" then
    let rest := path.codes.drop 1
    let user : Text := ⟨rest.takeWhile (· ≠ '/'.toNat)⟩
    let tail := rest.dropWhile (· ≠ '/'.toNat)
    if user.codes = [] then .ok (underHome h.own tail)
    else
      match user.encode with
      | .error e => .error (.noBytes e)
      | .ok bytes =>
        if bytes.contains 0 then .error .zeroByte
        else
          match h.named.lookup user with
          | some home => .ok (underHome home tail)
          | none => .ok path
  else .ok path

end Chip8
