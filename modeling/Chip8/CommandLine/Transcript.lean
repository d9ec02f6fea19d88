import Chip8.Text.Numeral

/-!
# Transcripts

A transcript of the error output does not depend on the time of day or on where the program is
installed: a time stamp at the beginning of a line is masked, and of the report of a crash neither
the headline nor the indented lines below it are kept. A line is what stands between two line
breaks; the last one, which no line break ends, is always kept.
-/

namespace Chip8.CommandLine.Transcript

def lines : List Nat → List (List Nat)
  | [] => [[]]
  | c :: rest =>
    if c = '\n'.toNat then [] :: lines rest
    else
      match lines rest with
      | [] => [[c]]
      | line :: others => (c :: line) :: others

def unlines : List (List Nat) → List Nat
  | [] => []
  | [line] => line
  | line :: rest => line ++ '\n'.toNat :: unlines rest

def mask : Text := "HH:MM:SS"

def isStamped (line : List Nat) : Bool :=
  let digit := fun (n : Nat) => !Text.isSurrogate n && Text.isDigit (Char.ofNat n)
  let colon := fun (n : Nat) => n = ':'.toNat
  match line with
  | a :: b :: c :: d :: e :: f :: g :: h :: i :: j :: _ =>
    digit a && digit b && colon c && digit d && digit e && colon f && digit g && digit h
      && i = ' '.toNat && j = '['.toNat
  | _ => false

def maskStamp (line : List Nat) : List Nat :=
  if isStamped line then mask.codes ++ line.drop mask.codes.length else line

def headline : Text := "Traceback (most recent call last):"

/-- Lines without the reports of crashes; `inReport` says whether the lines before belong to one. -/
def withoutReports (inReport : Bool) : List (List Nat) → List (List Nat)
  | [] => []
  | [line] => [line]
  | line :: rest =>
    if line = headline.codes then withoutReports true rest
    else if inReport ∧ line.head? = some ' '.toNat then withoutReports true rest
    else line :: withoutReports false rest

def ofText (t : Text) : Text := ⟨unlines ((withoutReports false (lines t.codes)).map maskStamp)⟩

end Chip8.CommandLine.Transcript
