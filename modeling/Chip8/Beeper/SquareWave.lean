import Chip8.Arithmetic

/-!
# Square waves

Samples of a square wave in signed sixteen-bit numbers. Sample `k` stands at time `k / rate`; it is
the amplitude in the first half of each period and its negative in the second. All times and phases
are double-precision numbers. A wave that is too long, or whose numbers do not fit or are none, has
no samples.
-/

namespace Chip8.SquareWave

/-- The shape of a wave: frequency in hertz, length in seconds, samples in a second, amplitude. -/
structure Shape where
  frequency : Value := .float 440.0
  seconds : Value := .float 0.1
  sampleRate : Value := .int 44100
  amplitude : Value := .int 8000

inductive WaveError where
  | noLength (e : IntegerError)
  | arithmetic (e : ArithmeticError)
  | tooLong
  | extent (e : ExtentError)
  | tooLarge
  | noQuotient
  deriving DecidableEq, Repr

def WaveError.message : WaveError → String
  | noLength e => e.message
  | arithmetic e => e.message
  | tooLong => "Maximum allowed size exceeded"
  | extent e => e.message
  | tooLarge => "Python int too large to convert to C long"
  | noQuotient =>
    "ufunc 'divide' not supported for the input types, and the inputs could not be safely coerced "
      ++ "to any supported types according to the casting rule ''safe''"

def toDouble (q : Quantity) : Except WaveError Float :=
  match q.toDouble? with
  | some x => .ok x
  | none => .error (.arithmetic .noDouble)

def wrap16 (n : Int) : Int := n.bmod 65536

/-- Whether a number's floor is even; a number without a floor counts as even. -/
def evenFloor (x : Float) : Bool :=
  match (Double.ofFloat x).floor? with
  | some n => n % 2 = 0
  | none => true

def total (s : Shape) : Except WaveError Int :=
  match s.sampleRate.times s.seconds with
  | .error e => .error (.arithmetic e)
  | .ok p =>
    match p.integer with
    | .ok n => .ok n
    | .error e => .error (.noLength e)

/-- How many samples a total means: it is rounded to a double and must then lie between `-2 ^ 63`
and `2 ^ 63`. A negative total means none, and so does the upper end, which is one too many for a
signed number of sixty-four bits. -/
def countOf (total : Int) : Except WaveError Nat :=
  match Double.roundInt? total with
  | none => .error .tooLong
  | some n =>
    if n < -0x8000000000000000 ∨ 0x8000000000000000 < n then .error .tooLong
    else .ok (n.bmod 0x10000000000000000).toNat

def count (s : Shape) : Except WaveError Nat :=
  match total s with
  | .error e => .error e
  | .ok total =>
    match countOf total with
    | .error e => .error e
    | .ok n =>
      match Extent.problem? [n] .double with
      | some e => .error (.extent e)
      | none => .ok n

def rateOf (v : Value) : Except WaveError Float :=
  match v.quantity? with
  | some q => toDouble q
  | none => .error .noQuotient

def frequencyOf (v : Value) : Except WaveError Float :=
  match v.quantity? with
  | some q => toDouble q
  | none =>
    .error (.arithmetic (.operand (if v.isSequence then .repetition "float"
      else .unsupported "*" "float" v.kindName)))

/-- The highs and lows of a wave. An integer and its negative must both fit in sixty-four bits, with
a sign or without; of both, and of the whole part of a floating-point number, the low sixteen bits
are kept. -/
def levels (amplitude : Value) : Except WaveError (Int × Int) :=
  match amplitude.quantity? with
  | some (.whole n) =>
    if -0x8000000000000000 ≤ n ∧ n ≤ 0x8000000000000000 then .ok (wrap16 n, wrap16 (-n))
    else .error .tooLarge
  | some (.real x) => .ok (wrap16 (Quantity.narrow x), wrap16 (Quantity.narrow (-x)))
  | none => .error (.arithmetic (.operand (.unary "unary -" amplitude.kindName)))

def sample (frequency rate : Float) (levels : Int × Int) (k : Nat) : Int :=
  let time := Float.ofNat k / rate
  let phase := 2.0 * frequency * time
  if evenFloor phase then levels.1 else levels.2

/-- All samples of a wave. The length is looked at first, then the rate, the frequency and the
amplitude. -/
def samples (s : Shape) : Except WaveError (List Int) :=
  match count s, rateOf s.sampleRate, frequencyOf s.frequency, levels s.amplitude with
  | .error e, _, _, _ => .error e
  | .ok _, .error e, _, _ => .error e
  | .ok _, .ok _, .error e, _ => .error e
  | .ok _, .ok _, .ok _, .error e => .error e
  | .ok n, .ok rate, .ok frequency, .ok levels =>
    .ok ((List.range n).map (sample frequency rate levels))

end Chip8.SquareWave
