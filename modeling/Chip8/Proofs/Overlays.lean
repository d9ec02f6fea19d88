import Mathlib.Algebra.BigOperators.Group.List.Basic
import Chip8.Proofs.Sprites

/-!
# Overlays

Sprites drawn one on top of the other leave a picture that depends only on how often each pixel is
covered in all, and of that number only on its parity. So their order does not matter, positions
count up to the size of the screen, and two sprites that cover the same pixels undo each other,
whatever is drawn before, between and after them.
-/

namespace Chip8

theorem Frame.places_congr {x y x' y' : Int} (hx : x % 64 = x' % 64) (hy : y % 32 = y' % 32)
    (sprite : List UInt8) : places x y sprite = places x' y' sprite := by
  induction sprite generalizing y y' with
  | nil => rfl
  | cons row rest ih =>
    have hrow : rowPlaces x y row = rowPlaces x' y' row := by
      refine List.map_congr_left ?_
      intro c _
      rw [place_eq_iff]
      omega
    have hnext : (y + 1) % 32 = (y' + 1) % 32 := by omega
    rw [places, places, hrow, ih hnext]

namespace Sprite

/- Sprites at the same place of the screen whose rows agree in the bits that are drawn. -/
structure Alike (s t : Sprite) : Prop where
  x : s.x % 64 = t.x % 64
  y : s.y % 32 = t.y % 32
  rows : s.rows.map (· % 256) = t.rows.map (· % 256)

/- A sprite moved by whole screens, to the right and down. -/
def shift (s : Sprite) (right down : Int) : Sprite :=
  { s with x := s.x + 64 * right, y := s.y + 32 * down }

theorem shift_alike (s : Sprite) (right down : Int) : (s.shift right down).Alike s where
  x := by simp only [shift]; omega
  y := by simp only [shift]; omega
  rows := rfl

theorem bytes_eq_low (s : Sprite) : s.bytes = (s.rows.map (· % 256)).map byteOf := by
  rw [bytes, List.map_map]
  refine List.map_congr_left ?_
  intro n _
  exact (byteOf_emod n).symm

theorem Alike.coverage {s t : Sprite} (h : s.Alike t) (px py : Int) :
    s.coverage px py = t.coverage px py := by
  have hbytes : s.bytes = t.bytes := by rw [bytes_eq_low, bytes_eq_low, h.rows]
  rw [← count_places, ← count_places, hbytes, Frame.places_congr h.x h.y]

end Sprite

namespace Display

/- Sprites drawn one after the other. -/
def plotAll (d : Display) (sprites : List Sprite) : Display :=
  sprites.foldl (fun d s => (d.plot s).1) d

/- How many rows of the sprites have a bit on a pixel. -/
def coverageOf (sprites : List Sprite) (px py : Int) : Nat :=
  (sprites.map fun s => s.coverage px py).sum

theorem coverageOf_append (ss ts : List Sprite) (px py : Int) :
    coverageOf (ss ++ ts) px py = coverageOf ss px py + coverageOf ts px py := by
  rw [coverageOf, List.map_append, List.sum_append]
  rfl

theorem coverageOf_cons (s : Sprite) (ss : List Sprite) (px py : Int) :
    coverageOf (s :: ss) px py = s.coverage px py + coverageOf ss px py := by
  rw [coverageOf, List.map_cons, List.sum_cons]
  rfl

theorem plot_pixel (d : Display) (s : Sprite) (px py : Int) :
    (d.plot s).1.frame.pixel px py = (d.frame.pixel px py ^^ (s.coverage px py).bodd) := by
  rw [plot_eq]
  exact stamp_pixel d s px py

theorem plotAll_pixel (d : Display) (sprites : List Sprite) (px py : Int) :
    (d.plotAll sprites).frame.pixel px py =
      (d.frame.pixel px py ^^ (coverageOf sprites px py).bodd) := by
  induction sprites generalizing d with
  | nil => simp [plotAll, coverageOf]
  | cons s rest ih =>
    have hrest : d.plotAll (s :: rest) = (d.plot s).1.plotAll rest := rfl
    rw [hrest, ih, plot_pixel, coverageOf_cons, Nat.bodd_add, Bool.xor_assoc]

/-- Lists of sprites that cover every pixel equally often, up to an even number, give one picture.
-/
theorem plotAll_frame_congr (d : Display) {ss ts : List Sprite}
    (h : ∀ px py, (coverageOf ss px py).bodd = (coverageOf ts px py).bodd) :
    (d.plotAll ss).frame = (d.plotAll ts).frame := by
  apply Frame.ext_pixel
  intro px py
  rw [plotAll_pixel, plotAll_pixel, h]

/-- The picture that sprites leave is the same in every order; it stays the same if a sprite is
moved by whole screens, and if two sprites that are alike are left out, wherever they stand. -/
theorem overlay_laws (d : Display) :
    (∀ ss ts : List Sprite, ss.Perm ts → (d.plotAll ss).frame = (d.plotAll ts).frame) ∧
    (∀ (before after : List Sprite) (s : Sprite) (right down : Int),
      (d.plotAll (before ++ s.shift right down :: after)).frame =
        (d.plotAll (before ++ s :: after)).frame) ∧
    ∀ (before between after : List Sprite) (s t : Sprite), s.Alike t →
      (d.plotAll (before ++ s :: between ++ t :: after)).frame =
        (d.plotAll (before ++ between ++ after)).frame := by
  refine ⟨?_, ?_, ?_⟩
  · intro ss ts hperm
    refine plotAll_frame_congr d ?_
    intro px py
    rw [coverageOf, (hperm.map _).sum_eq, coverageOf]
  · intro before after s right down
    refine plotAll_frame_congr d ?_
    intro px py
    rw [coverageOf_append, coverageOf_append, coverageOf_cons, coverageOf_cons,
      (s.shift_alike right down).coverage]
  · intro before between after s t halike
    refine plotAll_frame_congr d ?_
    intro px py
    simp only [coverageOf_append, coverageOf_cons, Nat.bodd_add, halike.coverage px py]
    -- the coverage of the pair occurs twice in the sum
    cases (t.coverage px py).bodd <;> simp

end Display

end Chip8
