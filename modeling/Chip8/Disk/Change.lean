import Chip8.Disk

/-!
# Changes of files

A file is written, a directory made, or a file removed. Writing makes the directories that the path
goes through, one after the other, so some may have been made when a later step fails; nothing else
is changed by a change that fails.
-/

namespace Chip8

structure DiskChange where
  path : Text
  entry : Option Entry
  deriving DecidableEq, Repr

namespace Disk

/-- The names under which something new can stand at a path, if its directory is there. -/
def vacancy? (d : Disk) (path : Text) : Option (List Name) :=
  match pathBytes path with
  | .error _ => none
  | .ok bytes =>
    let names := Name.ofPath bytes
    match names.getLast?, d.walk (Name.top bytes) names.dropLast with
    | some name, .ok place =>
      if d.entry? place = some .directory then some (place ++ [name]) else none
    | _, _ => none

def putNew (d : Disk) (path : Text) (e : Entry) : Except DiskFailure Disk :=
  match d.vacancy? path with
  | some names => .ok (d.insert names e)
  | none => .error .missing

def makeDirectory (d : Disk) (path : Text) : Except DiskFailure Disk :=
  match d.find (trimSlashes path) with
  | .ok _ => .error .taken
  | .error .missing => d.putNew (trimSlashes path) .directory
  | .error f => .error f

/-- Directories made one after the other; where something stands already, nothing is made. -/
def makeEach (d : Disk) : List Text → Disk × Option DiskError
  | [] => (d, none)
  | path :: rest =>
    match d.makeDirectory path with
    | .ok d' => d'.makeEach rest
    | .error .taken => d.makeEach rest
    | .error f => (d, some ⟨f, path⟩)

def ancestors (path : Text) : List Text :=
  let codes := (trimSlashes path).codes
  let ends := (List.range codes.length).filter fun i => codes[i]? = some '/'.toNat ∧ i ≠ 0
  ends.map fun i => trimSlashes ⟨codes.take i⟩

def stands (d : Disk) (path : Text) : Bool := (d.find path).toBool

/-- Whether a path names a directory that is not there as that directory's own dot. -/
def isNewDot (d : Disk) (path : Text) : Bool :=
  let head := directoryName (trimSlashes path)
  baseName (trimSlashes path) = "." && head.codes ≠ [] && !d.stands head

/-- A directory made together with those that its path goes through. One that is there already is
all right if it is `wanted` only, and else it is in the way. -/
def makeDirectories (d : Disk) (path : Text) (wanted : Bool) : Disk × Option DiskError :=
  match d.makeEach (ancestors path) with
  | (d', some e) => (d', some e)
  | (d', none) =>
    if d.isNewDot path then (d', none)
    else
      match d'.makeDirectory path with
      | .ok d'' => (d'', none)
      | .error f =>
        if wanted && d'.isDirectory path then (d', none) else (d', some ⟨f, path⟩)

def overwrite (d : Disk) (path : Text) (data : List UInt8) : Except DiskFailure Disk :=
  match d.find path with
  | .ok place =>
    if d.entry? place = some .directory then .error .isDirectory
    else .ok (d.insert place (.file data))
  | .error .missing => d.putNew path (.file data)
  | .error f => .error f

def write (d : Disk) (path : Text) (data : List UInt8) : Disk × Option DiskError :=
  let way := if (directoryName path).codes = [] then (d, none)
    else d.makeDirectories (directoryName path) true
  match way.2 with
  | some e => (way.1, some e)
  | none =>
    match way.1.overwrite path data with
    | .ok d' => (d', none)
    | .error f => (way.1, some ⟨f, path⟩)

def remove (d : Disk) (path : Text) : Except DiskFailure Disk :=
  match d.find path with
  | .ok place =>
    if d.entry? place = some .directory then .error .isDirectory else .ok (d.erase place)
  | .error f => .error f

def change (d : Disk) (c : DiskChange) : Disk × Option DiskError :=
  match c.entry with
  | some (.file data) => d.write c.path data
  | some .directory => d.makeDirectories c.path false
  | none =>
    match d.remove c.path with
    | .ok d' => (d', none)
    | .error f => (d, some ⟨f, c.path⟩)

end Disk

end Chip8
