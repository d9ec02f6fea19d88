import Chip8.Memory
import Chip8.Operand

/-!
# Display

64 by 32 pixels in rows, each lit or dark, and a flag that says whether the picture has been drawn
on since it was last handed out. Drawing flips the pixels that a sprite covers; coordinates wrap at
the edges. The pixels that a sprite covers are a list, in drawing order, so a drawing is a fold of
`flip` and its effect on a pixel depends only on how often the pixel occurs in the list.
-/

namespace Chip8

abbrev Frame := Vector Bool 2048

namespace Frame

def dark : Frame := Vector.replicate 2048 false

/-- The place of a pixel in the frame; both coordinates wrap. -/
def place (x y : Int) : Fin 2048 := ⟨((y % 32) * 64 + x % 64).toNat, by omega⟩

def pixel (f : Frame) (x y : Int) : Bool := f[(place x y).val]

def rows (f : Frame) : List (List Bool) :=
  (List.range 32).map fun (y : Nat) => (List.range 64).map fun (x : Nat) => f.pixel x y

def pixelChar (lit : Bool) : Char := if lit then '#' else '.'

def picture (f : Frame) : String :=
  "\n".intercalate (f.rows.map fun row => String.ofList (row.map pixelChar))

def litCount (f : Frame) : Nat := f.toList.count true

def flip (f : Frame) (k : Fin 2048) : Frame := f.set k.val (!f[k.val]) k.isLt

theorem get_flip (f : Frame) (k p : Fin 2048) :
    (f.flip k)[p.val] = if k = p then !f[p.val] else f[p.val] := by
  simp only [flip, Vector.getElem_set, Fin.ext_iff]
  split
  · rename_i h
    simp only [h]
  · rfl

def setColumns (row : UInt8) : List Nat :=
  (List.range 8).filter fun c => row.toNat.testBit (7 - c)

def rowPlaces (x y : Int) (row : UInt8) : List (Fin 2048) :=
  (setColumns row).map fun (c : Nat) => place (x + c) y

def places (x y : Int) : List UInt8 → List (Fin 2048)
  | [] => []
  | row :: rest => rowPlaces x y row ++ places x (y + 1) rest

/-- The frame after flipping pixels in order, and whether a lit pixel went dark on the way. -/
def flipAll (f : Frame) : List (Fin 2048) → Frame × Bool
  | [] => (f, false)
  | k :: rest =>
    let hit := f[k.val]
    let r := (f.flip k).flipAll rest
    (r.1, hit || r.2)

end Frame

/-- The picture and whether it was drawn on since it was last taken. -/
structure Display where
  frame : Frame
  dirty : Bool

namespace Display

def blank : Display := ⟨Frame.dark, false⟩

def reset (d : Display) : Display := { d with frame := Frame.dark, dirty := false }

theorem reset_eq (d : Display) : d.reset = blank := rfl

/-- All pixels dark; counts as a drawing. -/
def clear (_ : Display) : Display := ⟨Frame.dark, true⟩

def draw (d : Display) (x y : Int) (sprite : List UInt8) : Display × Bool :=
  let r := d.frame.flipAll (Frame.places x y sprite)
  (⟨r.1, true⟩, r.2)

/-- The picture, handed out; nothing is new afterwards. -/
def consume (d : Display) : Frame × Display := (d.frame, { d with dirty := false })

inductive PixelError where
  | offScreen (x y : Value)
  | operand (e : OperandError)

def PixelError.message : PixelError → Text
  | offScreen x y =>
    "pixel (" ++ x.shown ++ ", " ++ y.shown ++ ") out of range [0, 64) x [0, 32)"
  | operand e => e.message

/-- Whether two values lie on the display; the second is looked at only if the first does. -/
def covers (x y : Value) : Except OperandError Bool :=
  match x.within 64 with
  | .error e => .error e
  | .ok false => .ok false
  | .ok true => y.within 32

def readPixel (d : Display) (x y : Value) : Except PixelError Bool :=
  match covers x y with
  | .error e => .error (.operand e)
  | .ok false => .error (.offScreen x y)
  | .ok true =>
    match x.toInt?, y.toInt? with
    | some a, some b => .ok (d.frame.pixel a b)
    | _, _ => .error (.operand (.badIndex "float"))

/-- The display with the rows of a sprite drawn at the position that two values stand for, up to the
first row that is refused; whether a lit pixel went dark, or why a row was refused. -/
def drawValues (f : Frame) (x y : Value) (row : Nat) (hit : Bool) :
    List Value → Frame × Except OperandError Bool
  | [] => (f, .ok hit)
  | v :: rest =>
    match y.plus row, v.bits ">>" with
    | .error e, _ => (f, .error e)
    | .ok _, .error e => (f, .error e)
    | .ok y', .ok n =>
      match Frame.setColumns (byteOf n) with
      | [] => drawValues f x y (row + 1) hit rest
      | column :: _ =>
        match x.plus column, x.toInt?, y'.toInt? with
        | .error e, _, _ => (f, .error e)
        | .ok _, some a, some b =>
          let r := f.flipAll (Frame.rowPlaces a b (byteOf n))
          drawValues r.1 x y (row + 1) (hit || r.2) rest
        | .ok _, _, _ => (f, .error (.badIndex "float"))

/-- The display after a sprite handed over as values; only a whole drawing makes it dirty. -/
def drawSprite (d : Display) (x y sprite : Value) : Display × Except OperandError Bool :=
  match sprite.items with
  | .error e => (d, .error e)
  | .ok rows =>
    let r := drawValues d.frame x y 0 false rows
    (⟨r.1, d.dirty || r.2.toOption.isSome⟩, r.2)

end Display

end Chip8
