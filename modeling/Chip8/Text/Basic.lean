/-!
# Texts

Arguments, file names and messages are texts: lists of code points. A text from outside may hold
surrogates that stand alone, which no `String` can, so whatever may contain such a text is a text
itself. A `String` is a text wherever one is wanted.
-/

namespace Chip8

structure Text where
  codes : List Nat
  deriving DecidableEq, Repr, Inhabited

namespace Text

def ofString (s : String) : Text := ⟨s.toList.map Char.toNat⟩

instance : Coe String Text := ⟨ofString⟩

instance : Append Text := ⟨fun a b => ⟨a.codes ++ b.codes⟩⟩

instance : HAppend String Text Text := ⟨fun s t => ofString s ++ t⟩

instance : HAppend Text String Text := ⟨fun t s => t ++ ofString s⟩

def join (separator : Text) : List Text → Text
  | [] => ⟨[]⟩
  | [t] => t
  | t :: rest => t ++ separator ++ join separator rest

def unlines (lines : List Text) : Text := ⟨lines.flatMap fun l => l.codes ++ ['\n'.toNat]⟩

def startsWith (t : Text) (s : String) : Bool := (ofString s).codes.isPrefixOf t.codes

def contains (t : Text) (c : Char) : Bool := t.codes.contains c.toNat

def isSurrogate (n : Nat) : Bool := 0xD800 ≤ n && n < 0xE000

def chars? (t : Text) : Option (List Char) :=
  if t.codes.any isSurrogate then none else some (t.codes.map Char.ofNat)

/-- A text for the screen; a surrogate is shown as the replacement character. -/
def display (t : Text) : String :=
  String.ofList (t.codes.map fun n => if isSurrogate n then Char.ofNat 0xFFFD else Char.ofNat n)

end Text

end Chip8
