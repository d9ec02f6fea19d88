import Chip8.Disk
import Chip8.Journal
import Chip8.Machine.Load
import Chip8.Machine.Report

/-!
# Cartridges

A cartridge is a file of at least one and at most 3584 program bytes. It can be read, described,
listed, and put into a new or a running machine. Reading comes first, so a cartridge that cannot be
read leaves a running machine alone.
-/

namespace Chip8

structure Logged (α : Type) where
  records : List Record
  value : α

def Logged.map {α β : Type} (f : α → β) (r : Logged α) : Logged β := ⟨r.records, f r.value⟩

inductive CartridgeError where
  | unreadable (e : DiskError)
  | empty (name : Text)
  | tooLarge (name : Text) (size : Nat)
  | refused (e : LoadError)

namespace CartridgeError

def message : CartridgeError → Text
  | unreadable e => e.message
  | empty name => name ++ " is empty"
  | tooLarge name size =>
    name ++ " is " ++ toString size ++ " bytes; the largest CHIP-8 program is "
      ++ toString Layout.maxProgramSize ++ " bytes"
  | refused e => e.message

end CartridgeError

namespace Cartridge

def validate (data : List UInt8) (name : Text) : Except CartridgeError Unit :=
  if data.isEmpty then .error (.empty name)
  else if Layout.maxProgramSize < data.length then .error (.tooLarge name data.length)
  else .ok ()

def defaultName : Text := "ROM"

def bytes (disk : Disk) (path : Text) : Except CartridgeError (List UInt8) :=
  match disk.read path with
  | .error e => .error (.unreadable e)
  | .ok data =>
    match validate data (baseName path) with
    | .error e => .error e
    | .ok () => .ok data

def read (disk : Disk) (path : Text) : Logged (Except CartridgeError (List UInt8)) :=
  match bytes disk path with
  | .error e => ⟨[], .error e⟩
  | .ok data =>
    ⟨[⟨.info, .cartridge, "Read ROM " ++ path ++ " (" ++ toString data.length ++ " bytes)"⟩],
      .ok data⟩

structure Summary where
  title : Text
  size : Nat
  freeBytes : Nat
  endAddress : Nat
  preview : List Line

def previewWords : Nat := 8

def summary (path : Text) (data : List UInt8) : Summary where
  title := stem (baseName path)
  size := data.length
  freeBytes := Layout.maxProgramSize - data.length
  endAddress := Layout.programStart + data.length - 1
  preview := listing (data.take (2 * previewWords)) Layout.programStart

def describe (disk : Disk) (path : Text) : Logged (Except CartridgeError Summary) :=
  (read disk path).map (Except.map (summary path))

def programLines (data : List UInt8) : List String :=
  (listing data Layout.programStart).map Line.render

def disassembly (disk : Disk) (path : Text) : Logged (Except CartridgeError (List String)) :=
  (read disk path).map (Except.map programLines)

def Summary.facts (s : Summary) : List (String × Text) :=
  [("title", s.title), ("rom_size", toString s.size), ("free_bytes", toString s.freeBytes),
   ("end_address", "$" ++ Text.hexNat 3 s.endAddress),
   ("entry", (s.preview.head?.map Line.text).getD "")]

def facts (disk : Disk) (path : Text) : Logged (Except CartridgeError (List (String × Text))) :=
  (describe disk path).map (Except.map Summary.facts)

def install (m : Machine) (data : List UInt8) : Logged (Except CartridgeError Machine) :=
  match m.load (.bytes data) with
  | .error e => ⟨[], .error (.refused e)⟩
  | .ok r => ⟨Signal.records r.2, .ok r.1⟩

/-- An installation followed by one more record if it succeeds. -/
def installWith (m : Machine) (data : List UInt8) (last : Machine → Record) :
    Logged (Except CartridgeError Machine) :=
  let r := install m data
  match r.value with
  | .error e => ⟨r.records, .error e⟩
  | .ok m' => ⟨r.records ++ [last m'], .ok m'⟩

def boot (disk : Disk) (path : Text) (noise : Noise) (coupled : Bool) :
    Logged (Except CartridgeError Machine) :=
  let loading : Record := ⟨.info, .builder, "Loading ROM: " ++ path⟩
  let r := read disk path
  match r.value with
  | .error e => ⟨loading :: r.records, .error e⟩
  | .ok data =>
    let i := installWith (Machine.powerOn noise coupled) data fun m =>
      ⟨.info, .builder, "Machine created: " ++ m.describe⟩
    ⟨loading :: r.records ++ i.records, i.value⟩

/-- A running machine reset and given the cartridge at a path: the machine afterwards, and what went
wrong. A program that is refused is refused after the reset. -/
def reload (disk : Disk) (path : Text) (m : Machine) : Logged (Machine × Option CartridgeError) :=
  let r := read disk path
  match r.value with
  | .error e => ⟨r.records, (m, some e)⟩
  | .ok data =>
    let i := installWith m.reset data fun _ =>
      ⟨.info, .builder, "Machine reset and reloaded from " ++ path⟩
    match i.value with
    | .error e => ⟨r.records ++ i.records, (m.reset, some e)⟩
    | .ok m' => ⟨r.records ++ i.records, (m', none)⟩

end Cartridge

end Chip8
