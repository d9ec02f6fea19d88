/-!
# Hexadecimal numerals

Addresses, words and register values are written in upper-case hexadecimal, padded with zeros to a
given width. A negative number is a minus sign and its magnitude, and the sign counts in the width.
The lemmas say that a fixed number of digits loses nothing below the corresponding power of sixteen.
-/

namespace Chip8.Text

def hexDigit (d : Nat) : Char :=
  if d < 10 then Char.ofNat (48 + d) else Char.ofNat (55 + d)

def hexValue (c : Char) : Nat :=
  if c.toNat < 58 then c.toNat - 48 else c.toNat - 55

theorem hexValue_hexDigit {d : Nat} (h : d < 16) : hexValue (hexDigit d) = d := by
  have : ∀ d : Fin 16, hexValue (hexDigit d.val) = d.val := by decide
  exact this ⟨d, h⟩

def hexDigits : Nat → Nat → List Char
  | 0, _ => []
  | k + 1, n => hexDigits k (n / 16) ++ [hexDigit (n % 16)]

def hexNumber (cs : List Char) : Nat :=
  cs.foldl (fun n c => 16 * n + hexValue c) 0

theorem hexNumber_hexDigits (k n : Nat) (h : n < Nat.pow 16 k) : hexNumber (hexDigits k n) = n := by
  induction k generalizing n with
  | zero => simp at h; simp [h, hexDigits, hexNumber]
  | succ k ih =>
    have hk : n / 16 < Nat.pow 16 k := by
      have hpow : Nat.pow 16 (k + 1) = Nat.pow 16 k * 16 := rfl
      rw [hpow] at h
      omega
    have hd : n % 16 < 16 := Nat.mod_lt _ (by omega)
    have hi := ih (n / 16) hk
    simp only [hexNumber] at hi ⊢
    simp only [hexDigits, List.foldl_append, List.foldl_cons, List.foldl_nil, hi,
      hexValue_hexDigit hd]
    omega

/-- How many hexadecimal digits a number needs; zero needs one. -/
def hexLength (n : Nat) : Nat := n.log2 / 4 + 1

def hexNat (width n : Nat) : String :=
  String.ofList (hexDigits (max width (hexLength n)) n)

/-- At least `width` characters, of which a minus sign is one. -/
def hex (width : Nat) (n : Int) : String :=
  if n < 0 then "-" ++ hexNat (width - 1) n.natAbs else hexNat width n.natAbs

end Chip8.Text
