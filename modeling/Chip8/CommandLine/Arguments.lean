import Chip8.Layout
import Chip8.Value
import Chip8.Text.Numeral
import Chip8.Text.Quoted

/-!
# Command-line arguments

One positional argument, the cartridge, and options in any order. A long option may be shortened to
any beginning that fits no other; its value follows or stands after an equals sign. Short options
without a value may be written together, and a short option's value may follow it directly. Two
dashes end the options; written as an attached value they leave the value out. What looks like a
negative number, or holds a blank, is no option.

The arguments are first classified one by one, then taken from left to right; the first problem met
is the one reported, a missing cartridge before arguments that nothing asked for.
-/

namespace Chip8.CommandLine

inductive Opt where
  | help | scale | cpuHz | legacyTiming | noAudio | beep | info | debug | verbose
  deriving DecidableEq, Repr

namespace Opt

/-- All spellings, in the order in which they are searched. -/
def spellings : List (String × Opt) :=
  [("-h", help), ("--help", help), ("--scale", scale), ("-s", scale), ("--cpu-hz", cpuHz),
   ("--legacy-timing", legacyTiming), ("--no-audio", noAudio), ("--beep", beep), ("--info", info),
   ("--debug", debug), ("--verbose", verbose), ("-v", verbose)]

def takesValue : Opt → Bool
  | scale => true
  | cpuHz => true
  | beep => true
  | debug => true
  | _ => false

def label (o : Opt) : String :=
  "/".intercalate ((spellings.filter fun s => s.2 = o).map (·.1))

def ofSpelling? (t : Text) : Option Opt :=
  (spellings.find? fun e => Text.ofString e.1 = t).map (·.2)

end Opt

inductive UsageError where
  | required
  | unrecognized (arguments : List Text)
  | expectedValue (o : Opt)
  | invalidInt (o : Opt) (text : Text)
  | ignoredValue (o : Opt) (text : Text)
  | ambiguous (argument : Text) (candidates : List String)
  deriving DecidableEq, Repr

namespace UsageError

def message : UsageError → Text
  | required => "the following arguments are required: rom"
  | unrecognized arguments => "unrecognized arguments: " ++ Text.join " " arguments
  | expectedValue o => "argument " ++ o.label ++ ": expected one argument"
  | invalidInt o text => "argument " ++ o.label ++ ": invalid int value: " ++ text.quoted
  | ignoredValue o text =>
    "argument " ++ o.label ++ ": ignored explicit argument " ++ text.quoted
  | ambiguous argument candidates =>
    "ambiguous option: " ++ argument ++ " could match " ++ ", ".intercalate candidates

end UsageError

/-- What an option is given: a value, or nothing where the value was left out. -/
inductive Given (α : Type) where
  | value (a : α)
  | nothing
  deriving DecidableEq, Repr

/-- What an integer option is given, as a value; an empty list stands for nothing. -/
def Given.toValue : Given Int → Value
  | value n => .int n
  | nothing => .list []

inductive Token where
  /-- A known option; a short one may carry further options. -/
  | option (o : Opt) (short : Bool) (attached : Option Text)
  | unknown (text : Text)
  | argument (text : Text)
  | dashes
  deriving DecidableEq, Repr

def allDigits (cs : List Char) : Bool := !cs.isEmpty && cs.all Text.isDigit

/-- Whether a text reads like a negative number; a line break at its end is overlooked. -/
def looksNegative (t : Text) : Bool :=
  match t.chars? with
  | none => false
  | some cs =>
    match if cs.getLast? = some '\n' then cs.dropLast else cs with
    | '-' :: rest =>
      allDigits rest || (match rest.dropWhile Text.isDigit with
        | '.' :: fraction => allDigits fraction
        | _ => false)
    | _ => false

def splitEquals (t : Text) : Text × Option Text :=
  match t.codes.dropWhile (· ≠ '='.toNat) with
  | [] => (t, none)
  | _ :: value => (⟨t.codes.takeWhile (· ≠ '='.toNat)⟩, some ⟨value⟩)

/-- The options that a text could be: its spelling, the option and what is attached. -/
def candidates (t : Text) : List (String × Token) :=
  if t.startsWith "--" then
    let r := splitEquals t
    (Opt.spellings.filter fun e => r.1.codes.isPrefixOf (Text.ofString e.1).codes).map fun e =>
      (e.1, .option e.2 false r.2)
  else
    (Opt.spellings.filter fun e => (Text.ofString e.1).codes = t.codes.take 2).map fun e =>
      (e.1, .option e.2 true (some ⟨t.codes.drop 2⟩))

def isShort (spelling : Text) : Bool := !spelling.startsWith "--"

def classify (t : Text) : Except UsageError Token :=
  if !t.startsWith "-" || t = "-" then .ok (.argument t)
  else
    match Opt.ofSpelling? t with
    | some o => .ok (.option o (isShort t) none)
    | none =>
      let r := splitEquals t
      match Opt.ofSpelling? r.1, r.2 with
      | some o, some v => .ok (.option o (isShort r.1) (some v))
      | _, _ =>
        match candidates t with
        | [c] => .ok c.2
        | [] => .ok (if looksNegative t || t.contains ' ' then .argument t else .unknown t)
        | cs => .error (.ambiguous t (cs.map (·.1)))

def classifyAll : List Text → Except UsageError (List Token)
  | [] => .ok []
  | t :: rest =>
    if t = "--" then .ok (.dashes :: rest.map .argument)
    else
      match classify t with
      | .error e => .error e
      | .ok token =>
        match classifyAll rest with
        | .error e => .error e
        | .ok tokens => .ok (token :: tokens)

structure Settings where
  rom : Option Text := none
  scale : Given Int := .value 10
  cpuHz : Given Int := .value Layout.defaultCpuHz
  legacyTiming : Bool := false
  noAudio : Bool := false
  beep : Option (Given Text) := none
  info : Bool := false
  debug : Option (Given Int) := none
  verbosity : Nat := 0
  extras : List Text := []
  deriving DecidableEq, Repr

inductive Stop where
  | help
  | wrong (e : UsageError)
  deriving DecidableEq, Repr

namespace Settings

def storeInt (o : Opt) (given : Given Text) (store : Given Int → Settings) :
    Except Stop Settings :=
  match given with
  | .nothing => .ok (store .nothing)
  | .value text =>
    match text.integer with
    | .ok n => .ok (store (.value n))
    | .error _ => .error (.wrong (.invalidInt o text))

def give (s : Settings) (o : Opt) (given : Given Text) : Except Stop Settings :=
  match o with
  | .scale => storeInt o given fun n => { s with scale := n }
  | .cpuHz => storeInt o given fun n => { s with cpuHz := n }
  | .debug => storeInt o given fun n => { s with debug := some n }
  | .beep => .ok { s with beep := some given }
  | _ => .ok s

def switch (s : Settings) (o : Opt) : Except Stop Settings :=
  match o with
  | .help => .error .help
  | .legacyTiming => .ok { s with legacyTiming := true }
  | .noAudio => .ok { s with noAudio := true }
  | .info => .ok { s with info := true }
  | .verbose => .ok { s with verbosity := s.verbosity + 1 }
  | _ => .ok s

def extra (s : Settings) (text : Text) : Settings := { s with extras := s.extras ++ [text] }

def switchAll (s : Settings) : List Opt → Except Stop Settings
  | [] => .ok s
  | o :: rest =>
    match s.switch o with
    | .error e => .error e
    | .ok s' => s'.switchAll rest

end Settings

structure Group where
  switches : List Opt
  valued : Option (Opt × Given Text) := none
  open? : Option Opt := none
  deriving DecidableEq, Repr

def Group.after (o : Opt) (g : Group) : Group := { g with switches := o :: g.switches }

def Group.last (o : Opt) : Group :=
  if o.takesValue then { switches := [], open? := some o } else { switches := [o] }

/-- A value attached to its option; two dashes leave it out. -/
def attachedValue (t : Text) : Given Text := if t = "--" then .nothing else .value t

def Group.withValue (o : Opt) (t : Text) : Group :=
  { switches := [], valued := some (o, attachedValue t) }

/-- The options written together in one argument: a short option and the code points after it. -/
def group (o : Opt) : List Nat → Except UsageError Group
  | [] => .ok (Group.last o)
  | c :: rest =>
    if o.takesValue then .ok (Group.withValue o ⟨c :: rest⟩)
    else
      match Opt.ofSpelling? ("-" ++ Text.mk [c]) with
      | none => .error (.ignoredValue o ⟨c :: rest⟩)
      | some o' => (group o' rest).map (Group.after o)

/-- The group of a classified option; only a short option may carry further ones. -/
def groupOf (o : Opt) (short : Bool) : Option Text → Except UsageError Group
  | none => .ok (Group.last o)
  | some t =>
    if o.takesValue then .ok (Group.withValue o t)
    else if short && !t.codes.isEmpty then group o t.codes
    else .error (.ignoredValue o t)

def applyGroup (s : Settings) (g : Group) : Except Stop Settings :=
  match s.switchAll g.switches with
  | .error e => .error e
  | .ok s' =>
    match g.valued with
    | some (o, given) => s'.give o given
    | none => .ok s'

def take (s : Settings) : List Token → Except Stop Settings
  | [] => .ok s
  | .unknown text :: rest => take (s.extra text) rest
  | .dashes :: .argument text :: rest =>
    if s.rom.isNone then take { s with rom := some text } rest
    else take ((s.extra "--").extra text) rest
  | .dashes :: rest => take (s.extra "--") rest
  | .argument text :: .dashes :: rest =>
    if s.rom.isNone then take { s with rom := some text } rest
    else take ((s.extra text).extra "--") rest
  | .argument text :: rest =>
    if s.rom.isNone then take { s with rom := some text } rest else take (s.extra text) rest
  | .option o short attached :: .argument text :: rest =>
    match groupOf o short attached with
    | .error e => .error (.wrong e)
    | .ok g =>
      match applyGroup s g with
      | .error e => .error e
      | .ok s' =>
        match g.open? with
        | none => take s' (.argument text :: rest)
        | some o' =>
          match s'.give o' (.value text) with
          | .error e => .error e
          | .ok s'' => take s'' rest
  | .option o short attached :: rest =>
    match groupOf o short attached with
    | .error e => .error (.wrong e)
    | .ok g =>
      match g.open? with
      | some o' => .error (.wrong (.expectedValue o'))
      | none =>
        match applyGroup s g with
        | .error e => .error e
        | .ok s' => take s' rest
termination_by tokens => tokens.length

def parse (arguments : List Text) : Except Stop (Settings × Text) :=
  match classifyAll arguments with
  | .error e => .error (.wrong e)
  | .ok tokens =>
    match take {} tokens with
    | .error e => .error e
    | .ok s =>
      match s.rom, s.extras with
      | none, _ => .error (.wrong .required)
      | some rom, [] => .ok (s, rom)
      | some _, extras => .error (.wrong (.unrecognized extras))

end Chip8.CommandLine
