import Chip8.Extent
import Chip8.Memory
import Chip8.Operand

/-!
# Grids of bytes

A grid holds bytes in rows of equal length, to any depth: its shape is the list of its sides,
outermost first. Nested lists make a grid if all lists of one depth are equally long and all items
stand at one depth. The shape is found before any item is looked at, and the items are then read in
order.
-/

namespace Chip8

inductive ItemError where
  | integer (e : IntegerError)
  | tooLarge
  | outOfRange (n : Int)
  deriving DecidableEq, Repr

def ItemError.message : ItemError → String
  | integer e => e.message
  | tooLarge => "Python int too large to convert to C long"
  | outOfRange n => "Python integer " ++ toString n ++ " out of bounds for uint8"

inductive GridError where
  | item (e : ItemError)
  /-- The lists are uneven below the sides that they have in common. -/
  | uneven (shape : List Nat)
  | tooDeep (limit : Nat)
  deriving DecidableEq, Repr

def GridError.message : GridError → String
  | item e => e.message
  | uneven shape =>
    "setting an array element with a sequence. The requested array has an inhomogeneous shape "
      ++ "after " ++ toString shape.length ++ " dimensions. The detected shape was "
      ++ Extent.shapeText shape ++ " + inhomogeneous part."
  | tooDeep limit =>
    "setting an array element with a sequence. The requested array would exceed the maximum number "
      ++ "of dimension of " ++ toString limit ++ "."

structure Grid where
  shape : List Nat
  bytes : List UInt8
  deriving DecidableEq, Repr

namespace Grid

def item (v : Value) : Except ItemError UInt8 :=
  match v.integer with
  | .error e => .error (.integer e)
  | .ok n =>
    if ¬Extent.fits n then .error .tooLarge
    else if 0 ≤ n ∧ n < 256 then .ok (byteOf n)
    else .error (.outOfRange n)

/-- The bytes of values; the first that is refused decides. -/
def items : List Value → Except ItemError (List UInt8)
  | [] => .ok []
  | v :: rest =>
    match item v with
    | .error e => .error e
    | .ok b => (items rest).map (b :: ·)

/-! ### Shapes -/

/-- What a walk through nested lists has seen of their shape. -/
structure Survey where
  /-- The depth at which items are taken to stand. -/
  depth : Nat
  sides : List Nat
  /-- Whether an item, or a list without any, has been met. -/
  bottom : Bool
  uneven : Bool

namespace Survey

def start (limit : Nat) : Survey := ⟨limit, [], false, false⟩

def meetItem (s : Survey) (depth : Nat) : Survey :=
  { s with depth := depth, bottom := true, uneven := s.uneven || (s.bottom && depth != s.depth) }

mutual

def meet (s : Survey) (depth : Nat) : Value → Survey
  | .list vs =>
    if depth = s.depth then { s.meetItem depth with uneven := true }
    else if s.bottom ∧ s.sides[depth]? ≠ some vs.length then
      { s with depth := depth, uneven := true }
    else
      let s := if s.bottom then s else { s with sides := s.sides ++ [vs.length] }
      let t := meetAll s (depth + 1) vs
      if vs.isEmpty then { s with depth := depth + 1, bottom := true } else t
  | _ => s.meetItem depth

def meetAll (s : Survey) (depth : Nat) : List Value → Survey
  | [] => s
  | v :: rest => meetAll (meet s depth v) depth rest

end

end Survey

def shapeOf (limit : Nat) (v : Value) : Except GridError (List Nat) :=
  let s := (Survey.start limit).meet 0 v
  let shape := s.sides.take s.depth
  if s.uneven then .error (if s.depth = limit then .tooDeep limit else .uneven shape)
  else .ok shape

mutual

def leaves : Value → List Value
  | .list vs => leavesAll vs
  | v => [v]

def leavesAll : List Value → List Value
  | [] => []
  | v :: rest => leaves v ++ leavesAll rest

end

def maxDepth : Nat := 64

def ofValue (v : Value) : Except GridError Grid :=
  match shapeOf maxDepth v with
  | .error e => .error e
  | .ok shape =>
    match items (leaves v) with
    | .error e => .error (.item e)
    | .ok bytes => .ok ⟨shape, bytes⟩

/-! ### Rows -/

def rowSize (g : Grid) : Nat := g.shape.tail.foldl (· * ·) 1

def row (g : Grid) (i : Nat) : List UInt8 := (g.bytes.drop (i * g.rowSize)).take g.rowSize

/-! ### Cells -/

def cell (g : Grid) (row column : Nat) : Option (List UInt8) :=
  match g.shape with
  | [rows, columns, depth] =>
    if row < rows ∧ column < columns then
      some ((g.bytes.drop ((row * columns + column) * depth)).take depth)
    else none
  | _ => none

/-- Rows and columns exchanged: of any three sides the first two. -/
def transpose (g : Grid) : Grid :=
  match g.shape with
  | [rows, columns, depth] =>
    ⟨[columns, rows, depth],
      (List.range (columns * rows)).flatMap fun k => (g.cell (k % rows) (k / rows)).getD []⟩
  | _ => g

end Grid

end Chip8
