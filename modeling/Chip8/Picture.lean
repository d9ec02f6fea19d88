import Chip8.Display
import Chip8.Grid
import Chip8.Journal
import Chip8.Slot

/-!
# Pictures in colour

A frame of pixel bytes becomes a picture in two colours: a zero byte takes the off colour and any
other byte the on colour. The colours may also be rows of a table; a picture then has such a row for
every pixel. A renderer keeps its two colours, the last frame it was given and the surface that it
draws on; a frame of the wrong size is refused and changes nothing.
-/

namespace Chip8

structure Colour where
  red : UInt8
  green : UInt8
  blue : UInt8
  deriving DecidableEq, Repr

namespace Colour

def black : Colour := ⟨0, 0, 0⟩

def white : Colour := ⟨255, 255, 255⟩

end Colour

inductive ColourError where
  | grid (e : GridError)
  /-- There are neither three parts nor one. -/
  | wrongLength (length : Nat)
  deriving DecidableEq, Repr

def ColourError.message : ColourError → String
  | grid e => e.message
  | wrongLength n => "could not broadcast input array from shape (" ++ toString n
      ++ ",) into shape (3,)"

namespace Colour

def bytes (c : Colour) : List UInt8 := [c.red, c.green, c.blue]

def ofBytes? : List UInt8 → Option Colour
  | [r, g, b] => some ⟨r, g, b⟩
  | _ => none

def grey (b : UInt8) : Colour := ⟨b, b, b⟩

def storeParts (c : Colour) (red green blue : Value) : Colour × Option ItemError :=
  match Grid.item red, Grid.item green, Grid.item blue with
  | .error e, _, _ => (c, some e)
  | .ok r, .error e, _ => ({ c with red := r }, some e)
  | .ok r, .ok g, .error e => ({ c with red := r, green := g }, some e)
  | .ok r, .ok g, .ok b => (⟨r, g, b⟩, none)

/-- Any number of parts stored: one stands for all three, and three are stored one by one; of any
other number all are looked at before the first is stored. -/
def storeAll (c : Colour) : List Value → Colour × Option ColourError
  | [r, g, b] =>
    let s := c.storeParts r g b
    (s.1, s.2.map fun e => .grid (.item e))
  | vs =>
    match Grid.items vs with
    | .error e => (c, some (.grid (.item e)))
    | .ok [b] => (grey b, none)
    | .ok bs => (c, some (.wrongLength bs.length))

/-- New parts for a colour, in a list or, if it is one for all three, by itself. A list among the
parts is found before anything is stored. -/
def store (c : Colour) (given : Value) : Colour × Option ColourError :=
  match Grid.shapeOf 1 given with
  | .error e => (c, some (.grid e))
  | .ok _ =>
    match given with
    | .list vs => c.storeAll vs
    | v => c.storeAll [v]

end Colour

structure Palette where
  off : Colour := Colour.black
  on : Colour := Colour.white
  deriving DecidableEq, Repr

namespace Palette

def colour (p : Palette) (b : UInt8) : Colour := if b = 0 then p.off else p.on

end Palette

inductive ShapeError where
  | mismatch (size : Nat) (height width : Int)
  | bothOpen
  | hugeSide
  | truthValue
  | operand (e : OperandError)
  deriving DecidableEq, Repr

namespace ShapeError

/-- The asked shape in a message: an open height is left out, an open width is named. -/
def shapeText (height width : Int) : String :=
  if height < 0 then "(" ++ toString width ++ ")"
  else "(" ++ toString height ++ "," ++ (if width < 0 then "newaxis" else toString width) ++ ")"

def message : ShapeError → String
  | mismatch size height width =>
    "cannot reshape array of size " ++ toString size ++ " into shape " ++ shapeText height width
  | bothOpen => "can only specify one unknown dimension"
  | hugeSide => "Maximum allowed dimension exceeded"
  | truthValue => "an integer is required"
  | operand e => e.message

end ShapeError

/-- The height and width that a number of pixels has; a negative side is open and is worked out from
the other. -/
def shape (size : Nat) (height width : Int) : Except ShapeError (Nat × Nat) :=
  let h := height.toNat
  let w := width.toNat
  if ¬(Extent.fits height ∧ Extent.fits width) then .error .hugeSide
  else if height < 0 ∧ width < 0 then .error .bothOpen
  else if height < 0 then
    if w ≠ 0 ∧ size % w = 0 then .ok (size / w, w) else .error (.mismatch size height width)
  else if width < 0 then
    if h ≠ 0 ∧ size % h = 0 then .ok (h, size / h) else .error (.mismatch size height width)
  else if size = h * w then .ok (h, w)
  else .error (.mismatch size height width)

def side (v : Value) : Except ShapeError Int :=
  match v with
  | .bool _ => .error .truthValue
  | _ =>
    match v.count with
    | .error e => .error (.operand e)
    | .ok n => if Extent.fits n then .ok n else .error .hugeSide

/-- The height and width that a number of pixels has when two values ask for them; the height is
looked at first. -/
def shapeFor (size : Nat) (height width : Value) : Except ShapeError (Nat × Nat) :=
  match side height, side width with
  | .error e, _ => .error e
  | .ok _, .error e => .error e
  | .ok h, .ok w => shape size h w

inductive PaintError where
  | shape (e : ShapeError)
  | noRows
  | extent (e : ExtentError)
  | noStride
  | rowMissing (row rows : Nat)
  deriving DecidableEq, Repr

def PaintError.message : PaintError → String
  | shape e => e.message
  | noRows => "too many indices for array: array is 0-dimensional, but 1 were indexed"
  | extent e => e.message
  | noStride =>
    "automatically allocated output array specified with an inconsistent axis mapping; the axis "
      ++ "mapping is missing an entry for dimension 0."
  | rowMissing row rows =>
    "index " ++ toString row ++ " is out of bounds for axis 0 with size " ++ toString rows

def paintRow (pixel : UInt8) : Nat := if pixel = 0 then 0 else 1

def Palette.table (p : Palette) : Grid := ⟨[2, 3], p.off.bytes ++ p.on.bytes⟩

theorem row_table (p : Palette) (b : UInt8) : p.table.row (paintRow b) = (p.colour b).bytes := by
  by_cases h : b = 0 <;>
    simp [Palette.table, Grid.row, Grid.rowSize, paintRow, Palette.colour, Colour.bytes, h]

/-- The distance of rows, in bytes, that no picture of single bytes can have. -/
def strideLimit : Nat := 0x7FFFFFFFFFFFFFFF

/-- A frame of known shape painted with the rows of a colour table, a row for every pixel. -/
def paintShaped (table : Grid) (pixels : List UInt8) (height width : Nat) :
    Except PaintError Grid :=
  match table.shape with
  | [] => .error .noRows
  | rows :: rest =>
    match Extent.problem? (height :: width :: rest) .byte with
    | some e => .error (.extent e)
    | none =>
      if rest = [] ∧ width = strideLimit then .error .noStride
      else
        match pixels.find? fun p => rows ≤ paintRow p with
        | some p => .error (.rowMissing (paintRow p) rows)
        | none =>
          .ok ⟨height :: width :: rest, pixels.flatMap fun p => table.row (paintRow p)⟩

def paint (table : Grid) (pixels : List UInt8) (height width : Value) : Except PaintError Grid :=
  match shapeFor pixels.length height width with
  | .error e => .error (.shape e)
  | .ok s => paintShaped table pixels s.1 s.2

def pixelPosition (x y : Value) : Except ArithmeticError Value :=
  match y.times (.int Layout.displayWidth) with
  | .error e => .error e
  | .ok rows => rows.plus x

def storePixel (frame : Vector UInt8 2048) (x y byte : Value) :
    Except StoreError (Vector UInt8 2048) :=
  match pixelPosition x y with
  | .error e => .error (.arithmetic e)
  | .ok position =>
    (Slot.locate 2048 position byte).map fun s => frame.set s.1.val s.2 s.1.isLt

/-- What a renderer is built on: how a value is stored in a row of its colour table, and surfaces of
64 by 32 pixels that an array of colours is transferred to. The first index of that array is the
column of a pixel, the second its row. -/
structure Toolkit (σ : Type) where
  assign : Colour → Value → Colour × Option ColourError
  blank : σ
  blit : σ → Grid → σ
  pixel : σ → Nat → Nat → Colour

namespace Toolkit

/-- Surfaces that are known by their pixels. -/
def plain : Toolkit (Nat → Nat → Colour) where
  assign := Colour.store
  blank := fun _ _ => Colour.black
  blit := fun _ g x y => ((g.cell x y).bind Colour.ofBytes?).getD Colour.black
  pixel := id

end Toolkit

inductive RenderError where
  | size (pixels : Nat)
  | paint (e : PaintError)
  deriving DecidableEq, Repr

def RenderError.message : RenderError → String
  | size pixels => "frame must have 2048 pixels, got " ++ toString pixels
  | paint e => e.message

structure Renderer (σ : Type) where
  palette : Palette
  surface : σ
  lastFrame : Option (List UInt8)

namespace Renderer

def width : Nat := Layout.displayWidth

def height : Nat := Layout.displayHeight

def created : Record :=
  ⟨.info, .renderer, "FrameRenderer: " ++ toString width ++ "x" ++ toString height⟩

def defaultOff : Value := .list [.int 0, .int 0, .int 0]

def defaultOn : Value := .list [.int 255, .int 255, .int 255]

variable {σ : Type} (t : Toolkit σ)

/-- Two colours stored one after the other: what was stored stays when a later one is refused. -/
def store (p : Palette) (off on : Value) : Palette × Option ColourError :=
  let first := t.assign p.off off
  let q := { p with off := first.1 }
  match first.2 with
  | some e => (q, some e)
  | none =>
    let second := t.assign q.on on
    ({ q with on := second.1 }, second.2)

def new (off on : Value) : Except ColourError (Renderer σ) :=
  match store t ⟨Colour.black, Colour.black⟩ off on with
  | (_, some e) => .error e
  | (p, none) => .ok ⟨p, t.blank, none⟩

/-- Two new colours; the surface is not redrawn. -/
def setColours (r : Renderer σ) (off on : Value) : Renderer σ × Option ColourError :=
  let s := store t r.palette off on
  ({ r with palette := s.1 }, s.2)

def render (r : Renderer σ) (pixels : List UInt8) : Except RenderError (Renderer σ) :=
  if pixels.length ≠ width * height then .error (.size pixels.length)
  else
    match paint r.palette.table pixels (.int height) (.int width) with
    | .error e => .error (.paint e)
    | .ok picture =>
      .ok { r with surface := t.blit r.surface picture.transpose, lastFrame := some pixels }

def redraw (r : Renderer σ) : Except RenderError (Renderer σ) :=
  match r.lastFrame with
  | some pixels => r.render t pixels
  | none => .ok r

end Renderer

end Chip8
