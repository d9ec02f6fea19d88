import Chip8.Text.Hex
import Chip8.Value

/-!
# Keypad

Sixteen keys, each held or not. A key is named by an integer from 0 to 15; any other value is
refused and shown in the message.
-/

namespace Chip8

structure Keypad where
  held : Vector Bool 16
  deriving DecidableEq

namespace Keypad

structure NoSuchKey where
  index : Value

def NoSuchKey.message (e : NoSuchKey) : String :=
  "key index " ++ e.index.literal ++ " out of range [0, 16)"

def key? (index : Value) : Except NoSuchKey (Fin 16) :=
  match index.toInt? with
  | some n => if h : 0 ≤ n ∧ n < 16 then .ok ⟨n.toNat, by omega⟩ else .error ⟨index⟩
  | none => .error ⟨index⟩

def released : Keypad := ⟨Vector.replicate 16 false⟩

def isDown (k : Keypad) (key : Fin 16) : Bool := k.held[key.val]

def press (k : Keypad) (key : Fin 16) (down : Bool) : Keypad := ⟨k.held.set key.val down key.isLt⟩

theorem isDown_press (k : Keypad) (a b : Fin 16) (down : Bool) :
    (k.press a down).isDown b = if a = b then down else k.isDown b := by
  simp only [isDown, press, Vector.getElem_set, Fin.ext_iff]

theorem isDown_released (b : Fin 16) : released.isDown b = false := by
  simp only [isDown, released, Vector.getElem_replicate]

theorem ext_isDown {k l : Keypad} (h : ∀ key, k.isDown key = l.isDown key) : k = l := by
  obtain ⟨held⟩ := k
  obtain ⟨other⟩ := l
  congr 1
  ext i hi
  exact h ⟨i, hi⟩

theorem isDown_foldl_press (k : Keypad) (keys : List (Fin 16)) (down : Bool) (b : Fin 16) :
    (keys.foldl (fun k key => k.press key down) k).isDown b = true ↔
      (b ∈ keys ∧ down = true) ∨ (b ∉ keys ∧ k.isDown b = true) := by
  induction keys generalizing k with
  | nil => simp
  | cons first rest ih =>
    rw [List.foldl_cons, ih, isDown_press, List.mem_cons]
    by_cases hfirst : first = b
    · by_cases hrest : b ∈ rest <;> simp [hfirst, hrest]
    · simp [hfirst, Ne.symm hfirst]

/-- One key after the other let go. -/
@[irreducible]
def clearAll (k : Keypad) : Keypad :=
  (List.finRange 16).foldl (fun k key => k.press key false) k

theorem clearAll_eq (k : Keypad) : k.clearAll = released := by
  refine ext_isDown fun key => ?_
  have hkey : key ∈ List.finRange 16 := List.mem_finRange key
  rw [Bool.eq_iff_iff, clearAll, isDown_foldl_press, isDown_released]
  simp [hkey]

def heldKeys (k : Keypad) : List (Fin 16) := (List.finRange 16).filter k.isDown

def lowest? (k : Keypad) : Option (Fin 16) := (List.finRange 16).find? k.isDown

def set (k : Keypad) (index pressed : Value) : Except NoSuchKey Keypad :=
  match key? index with
  | .ok key => .ok (k.press key pressed.truthy)
  | .error e => .error e

theorem set_key (k : Keypad) (key : Fin 16) (down : Bool) :
    k.set (.int key.val) (.bool down) = .ok (k.press key down) := by
  have hkey : key? (.int key.val) = .ok key := by
    have hlt := key.isLt
    have hrange : 0 ≤ (key.val : Int) ∧ (key.val : Int) < 16 := by omega
    simp [key?, Value.toInt?, hrange]
  rw [set, hkey]
  rfl

def down? (k : Keypad) (index : Value) : Except NoSuchKey Bool :=
  match key? index with
  | .ok key => .ok (k.isDown key)
  | .error e => .error e

def describe (k : Keypad) : String :=
  "Keypad(held=[" ++ ",".intercalate (k.heldKeys.map fun key => Text.hexNat 1 key.val) ++ "])"

end Keypad

end Chip8
