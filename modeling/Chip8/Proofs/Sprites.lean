import Mathlib.Data.Int.Bitwise
import Mathlib.Data.List.Nodup
import Chip8.Display

/-!
# Sprites

A sprite flips the pixels under its bits, so a drawing does to a pixel what the parity of the number
of bits on it says: rows that wrap around the screen cancel out in pairs. A flip that meets a lit
pixel is a collision, and costs two lit pixels against the number of bits. As long as the rows do
not come round to the first one, no pixel is flipped twice, and a collision is a bit on a lit pixel.
-/

namespace Chip8

namespace Frame

/-! ### Places -/

theorem place_eq_iff (x y px py : Int) :
    place x y = place px py ↔ x % 64 = px % 64 ∧ y % 32 = py % 32 := by
  rw [Fin.ext_iff]
  simp only [place]
  omega

theorem place_val (k : Fin 2048) : place (k.val % 64 : Nat) (k.val / 64 : Nat) = k := by
  have hk := k.isLt
  apply Fin.ext
  simp only [place]
  omega

theorem exists_place_iff {p : Fin 2048 → Prop} : (∃ k, p k) ↔ ∃ px py, p (place px py) := by
  constructor
  · rintro ⟨k, hk⟩
    refine ⟨(k.val % 64 : Nat), (k.val / 64 : Nat), ?_⟩
    rw [place_val]
    exact hk
  · rintro ⟨px, py, h⟩
    exact ⟨_, h⟩

/-- Two frames with the same pixels are the same. -/
theorem ext_pixel {f g : Frame} (h : ∀ px py, f.pixel px py = g.pixel px py) : f = g := by
  apply Vector.ext
  intro i hi
  have hpixel := h (i % 64 : Nat) (i / 64 : Nat)
  simpa only [pixel, place_val ⟨i, hi⟩] using hpixel

/-! ### Flipping one pixel after the other -/

theorem flipAll_append (f : Frame) (ks ls : List (Fin 2048)) :
    f.flipAll (ks ++ ls) =
      (((f.flipAll ks).1.flipAll ls).1, (f.flipAll ks).2 || ((f.flipAll ks).1.flipAll ls).2) := by
  induction ks generalizing f with
  | nil => rfl
  | cons k rest ih =>
    rw [List.cons_append, flipAll, ih, flipAll]
    simp only [Bool.or_assoc]

theorem flip_get (f : Frame) (k p : Fin 2048) :
    (f.flip k).get p = if k = p then !f.get p else f.get p := get_flip f k p

theorem get_flipAll (f : Frame) (ks : List (Fin 2048)) (p : Fin 2048) :
    (f.flipAll ks).1.get p = (f.get p ^^ (ks.count p).bodd) := by
  induction ks generalizing f with
  | nil => simp [flipAll]
  | cons k rest ih =>
    rw [flipAll, ih, flip_get]
    by_cases h : k = p
    · simp [h]
    · simp [h]

/- How many of the flips meet a lit pixel. -/
def hits (f : Frame) : List (Fin 2048) → Nat
  | [] => 0
  | k :: rest => (f.get k).toNat + (f.flip k).hits rest

theorem flipAll_hit (f : Frame) (ks : List (Fin 2048)) :
    (f.flipAll ks).2 = false ↔ f.hits ks = 0 := by
  induction ks generalizing f with
  | nil => simp [flipAll, hits]
  | cons k rest ih =>
    rw [flipAll, hits, Bool.or_eq_false_iff, ih, Nat.add_eq_zero_iff, Bool.toNat_eq_zero]
    rfl

theorem litCount_flip (f : Frame) (k : Fin 2048) :
    (f.flip k).litCount + 2 * (f.get k).toNat = f.litCount + 1 := by
  show _ + 2 * f[k.val].toNat = _
  have hset : (f.flip k).litCount =
      (f.toList.count true - if f[k.val] = true then 1 else 0) +
        if (!f[k.val]) = true then 1 else 0 := by
    rw [litCount, flip, Vector.toList_set, List.count_set (by simp), Vector.getElem_toList]
    simp only [beq_iff_eq]
  rw [hset, litCount]
  cases hlit : f[k.val] with
  | false => simp
  | true =>
    have hmem : true ∈ f.toList := by
      rw [← hlit, Vector.mem_toList_iff]
      exact Vector.getElem_mem _
    have hpos := List.count_pos_iff.mpr hmem
    simp only [Bool.not_true, Bool.false_eq_true, if_true, if_false, Bool.toNat_true]
    omega

/-- Each flip lights one pixel more, or one less if it meets a lit pixel. -/
theorem litCount_flipAll (f : Frame) (ks : List (Fin 2048)) :
    (f.flipAll ks).1.litCount + 2 * f.hits ks = f.litCount + ks.length := by
  induction ks generalizing f with
  | nil => rfl
  | cons k rest ih =>
    have hrest := ih (f.flip k)
    have hfirst := litCount_flip f k
    simp only [flipAll, hits, List.length_cons]
    omega

theorem flipAll_hit_of_nodup (f : Frame) {ks : List (Fin 2048)} (h : ks.Nodup) :
    (f.flipAll ks).2 = true ↔ ∃ k ∈ ks, f.get k = true := by
  induction ks generalizing f with
  | nil => simp [flipAll]
  | cons k rest ih =>
    obtain ⟨hk, hrest⟩ := List.nodup_cons.mp h
    -- the later pixels are as they were, since none of them is the first one
    have hsame : ∀ j ∈ rest, (f.flip k).get j = f.get j := by
      intro j hj
      have hne : k ≠ j := fun he => hk (he ▸ hj)
      rw [flip_get, if_neg hne]
    have hlater : (∃ j ∈ rest, (f.flip k).get j = true) ↔ ∃ j ∈ rest, f.get j = true :=
      exists_congr fun j => and_congr_right fun hj => by rw [hsame j hj]
    rw [flipAll, Bool.or_eq_true, ih _ hrest, hlater, List.exists_mem_cons_iff]
    rfl

/-! ### The places of a sprite -/

theorem mem_setColumns (row : UInt8) (c : Nat) :
    c ∈ setColumns row ↔ c < 8 ∧ row.toNat.testBit (7 - c) = true := by
  rw [setColumns, List.mem_filter, List.mem_range]

theorem rowPlaces_nodup (x y : Int) (row : UInt8) : (rowPlaces x y row).Nodup := by
  refine List.Nodup.map_on ?_ (List.nodup_range.filter _)
  intro c hc d hd h
  have hc8 := (mem_setColumns row c).mp hc
  have hd8 := (mem_setColumns row d).mp hd
  rw [place_eq_iff] at h
  omega

theorem mem_rowPlaces (x y : Int) (row : UInt8) (px py : Int) :
    place px py ∈ rowPlaces x y row ↔
      y % 32 = py % 32 ∧ ((px - x) % 64).toNat < 8 ∧
        row.toNat.testBit (7 - ((px - x) % 64).toNat) = true := by
  rw [rowPlaces, List.mem_map]
  constructor
  · rintro ⟨c, hc, hplace⟩
    obtain ⟨hc8, hbit⟩ := (mem_setColumns row c).mp hc
    rw [place_eq_iff] at hplace
    have hcolumn : ((px - x) % 64).toNat = c := by omega
    rw [hcolumn]
    exact ⟨hplace.2, hc8, hbit⟩
  · rintro ⟨hy, hcolumn⟩
    refine ⟨_, (mem_setColumns row _).mpr hcolumn, ?_⟩
    rw [place_eq_iff]
    omega

theorem row_of_mem_places {x y px py : Int} {sprite : List UInt8}
    (h : place px py ∈ places x y sprite) : ∃ r < sprite.length, (y + r) % 32 = py % 32 := by
  induction sprite generalizing y with
  | nil => simp [places] at h
  | cons row rest ih =>
    rw [places, List.mem_append] at h
    rcases h with h | h
    · have hy := ((mem_rowPlaces x y row px py).mp h).1
      exact ⟨0, by simp, by omega⟩
    · obtain ⟨r, hr, hy⟩ := ih h
      refine ⟨r + 1, by simpa using hr, ?_⟩
      omega

/-- Rows that do not come round to the first one cover no pixel twice. -/
theorem places_nodup (x y : Int) {sprite : List UInt8} (h : sprite.length ≤ 32) :
    (places x y sprite).Nodup := by
  induction sprite generalizing y with
  | nil => exact List.nodup_nil
  | cons row rest ih =>
    rw [List.length_cons] at h
    refine (rowPlaces_nodup x y row).append (ih (y + 1) (by omega)) ?_
    intro k hrow hrest
    rw [← place_val k] at hrow hrest
    have hy := ((mem_rowPlaces x y row _ _).mp hrow).1
    obtain ⟨r, hr, hy'⟩ := row_of_mem_places hrest
    omega

end Frame

/-! ### How often a sprite covers a pixel -/

/- A sprite at its position; neither the position nor the rows are reduced. -/
structure Sprite where
  x : Int
  y : Int
  rows : List Int

theorem byteOf_testBit (n : Int) {k : Nat} (hk : k < 8) :
    (byteOf n).toNat.testBit k = n.testBit k := by
  have hlow (m : Nat) : (m % 2 ^ 8).testBit k = m.testBit k := by
    rw [Nat.testBit_mod_two_pow, decide_eq_true hk, Bool.true_and]
  rw [byteOf_toNat]
  cases n with
  | ofNat m =>
    have hbyte : ((Int.ofNat m) % 256).toNat = m % 2 ^ 8 := by
      show ((m : Int) % 256).toNat = m % 2 ^ 8
      omega
    rw [hbyte, hlow]
    rfl
  | negSucc m =>
    -- the bits of a negative integer are those of its complement, turned over
    have hbyte : (Int.negSucc m % 256).toNat = 2 ^ 8 - (m % 2 ^ 8 + 1) := by
      rw [Int.negSucc_eq]
      omega
    rw [hbyte, Nat.testBit_two_pow_sub_succ (Nat.mod_lt m (by decide)), decide_eq_true hk,
      Bool.true_and, hlow]
    rfl

namespace Sprite

/- The column of a sprite, counted from the left, in which a pixel lies; only eight have bits. -/
def column (s : Sprite) (px : Int) : Nat := ((px - s.x) % 64).toNat

/- Whether a row, given with its number, has a bit on a pixel. -/
def Inks (s : Sprite) (px py : Int) (row : Int × Nat) : Prop :=
  (s.y + row.2) % 32 = py % 32 ∧ s.column px < 8 ∧ row.1.testBit (7 - s.column px) = true

instance (s : Sprite) (px py : Int) : DecidablePred (s.Inks px py) :=
  fun _ => inferInstanceAs (Decidable (_ ∧ _ ∧ _))

/- How many rows have a bit on a pixel. -/
def coverage (s : Sprite) (px py : Int) : Nat := s.rows.zipIdx.countP (s.Inks px py ·)

/- How many bits of the sprite are set; the rows count with their low eight bits. -/
def weight (s : Sprite) : Nat := (s.rows.map fun n => (List.range 8).countP n.testBit).sum

theorem coverage_cons (x y n : Int) (rest : List Int) (px py : Int) :
    coverage ⟨x, y, n :: rest⟩ px py =
      coverage ⟨x, y + 1, rest⟩ px py + if Inks ⟨x, y, n :: rest⟩ px py (n, 0) then 1 else 0 := by
  have hnext (row : Int × Nat) :
      Inks ⟨x, y, n :: rest⟩ px py (row.1, row.2 + 1) ↔ Inks ⟨x, y + 1, rest⟩ px py row := by
    have hrow : y + ((row.2 + 1 : Nat) : Int) = y + 1 + row.2 := by omega
    simp only [Inks, column, hrow]
  simp only [coverage, List.zipIdx_cons, List.zipIdx_succ, List.countP_cons, List.countP_map,
    Function.comp_def, hnext, decide_eq_true_eq]

/- What is drawn of the rows. -/
def bytes (s : Sprite) : List UInt8 := s.rows.map byteOf

theorem places_cons (x y n : Int) (rest : List Int) :
    Frame.places x y (bytes ⟨x, y, n :: rest⟩) =
      Frame.rowPlaces x y (byteOf n) ++ Frame.places x (y + 1) (bytes ⟨x, y + 1, rest⟩) := rfl

/-- The pixels that are flipped are those covered, each as often as it is covered. -/
theorem count_places (s : Sprite) (px py : Int) :
    (Frame.places s.x s.y s.bytes).count (Frame.place px py) = s.coverage px py := by
  obtain ⟨x, y, rows⟩ := s
  induction rows generalizing y with
  | nil => rfl
  | cons n rest ih =>
    have hrow : Frame.place px py ∈ Frame.rowPlaces x y (byteOf n) ↔
        Inks ⟨x, y, n :: rest⟩ px py (n, 0) := by
      simp only [Frame.mem_rowPlaces, Inks, column, Nat.cast_zero, Int.add_zero]
      refine and_congr_right fun _ => and_congr_right fun _ => ?_
      rw [byteOf_testBit n (by omega)]
    rw [places_cons, List.count_append, ih, coverage_cons,
      (Frame.rowPlaces_nodup x y (byteOf n)).count, if_congr hrow rfl rfl, Nat.add_comm]

theorem length_setColumns (n : Int) :
    (Frame.setColumns (byteOf n)).length = (List.range 8).countP n.testBit := by
  have hreverse : ((List.range 8).map fun c => 7 - c).Perm (List.range 8) := by decide
  have hbits : ∀ c ∈ List.range 8, (byteOf n).toNat.testBit (7 - c) = n.testBit (7 - c) := by
    intro c _
    exact byteOf_testBit n (by omega)
  calc (Frame.setColumns (byteOf n)).length
      = (List.range 8).countP fun c => (byteOf n).toNat.testBit (7 - c) :=
        List.countP_eq_length_filter.symm
    _ = (List.range 8).countP fun c => n.testBit (7 - c) :=
        List.countP_congr fun c hc => by rw [hbits c hc]
    _ = ((List.range 8).map fun c => 7 - c).countP n.testBit := by
        rw [List.countP_map]
        rfl
    _ = (List.range 8).countP n.testBit := hreverse.countP_eq _

theorem length_places (s : Sprite) : (Frame.places s.x s.y s.bytes).length = s.weight := by
  obtain ⟨x, y, rows⟩ := s
  induction rows generalizing y with
  | nil => rfl
  | cons n rest ih =>
    have hrow : (Frame.rowPlaces x y (byteOf n)).length = (List.range 8).countP n.testBit := by
      rw [Frame.rowPlaces, List.length_map, length_setColumns]
    rw [places_cons, List.length_append, ih, hrow]
    simp only [weight, List.map_cons, List.sum_cons]

theorem places_nodup_of_short {s : Sprite} (h : s.rows.length ≤ 32) :
    (Frame.places s.x s.y s.bytes).Nodup := by
  have hlength : s.bytes.length ≤ 32 := by rwa [bytes, List.length_map]
  exact Frame.places_nodup s.x s.y hlength

end Sprite

/-! ### Drawing -/

namespace Display

/- A sprite drawn the way a host asks for it, with integers. -/
def plot (d : Display) (s : Sprite) : Display × Except OperandError Bool :=
  d.drawSprite (.int s.x) (.int s.y) (.list (s.rows.map .int))

/- A sprite drawn the way a program asks for it, with bytes. -/
def stamp (d : Display) (s : Sprite) : Display × Bool := d.draw s.x s.y s.bytes

theorem drawValues_ints (f : Frame) (x y : Int) (row : Nat) (hit : Bool) (rows : List Int) :
    drawValues f (.int x) (.int y) row hit (rows.map .int) =
      ((f.flipAll (Frame.places x (y + row) (rows.map byteOf))).1,
        .ok (hit || (f.flipAll (Frame.places x (y + row) (rows.map byteOf))).2)) := by
  induction rows generalizing f row hit with
  | nil => simp [drawValues, Frame.places, Frame.flipAll]
  | cons n rest ih =>
    have hnext : y + ((row + 1 : Nat) : Int) = y + row + 1 := by omega
    simp only [List.map_cons, drawValues, Value.plus, Value.bits, Value.toInt?, Frame.places,
      Frame.flipAll_append]
    cases hcolumns : Frame.setColumns (byteOf n) with
    | nil =>
      have hempty : Frame.rowPlaces x (y + row) (byteOf n) = [] := by
        rw [Frame.rowPlaces, hcolumns]
        rfl
      simp only [ih, hnext, hempty, Frame.flipAll, Bool.false_or]
    | cons column others => simp only [ih, hnext, Bool.or_assoc]

/-- Integers are never refused, and only their low eight bits are drawn. -/
theorem plot_eq (d : Display) (s : Sprite) : d.plot s = ((d.stamp s).1, .ok (d.stamp s).2) := by
  have hstart : s.y + ((0 : Nat) : Int) = s.y := by omega
  simp only [plot, drawSprite, Value.items, drawValues_ints, hstart, Bool.false_or, stamp, draw,
    Sprite.bytes, Except.toOption, Option.isSome_some, Bool.or_true]

theorem stamp_pixel (d : Display) (s : Sprite) (px py : Int) :
    (d.stamp s).1.frame.pixel px py = (d.frame.pixel px py ^^ (s.coverage px py).bodd) := by
  rw [← Sprite.count_places]
  exact Frame.get_flipAll _ _ _

theorem stamp_hit (d : Display) (s : Sprite) :
    (d.stamp s).2 = false ↔ (d.stamp s).1.frame.litCount = d.frame.litCount + s.weight := by
  have hlit := d.frame.litCount_flipAll (Frame.places s.x s.y s.bytes)
  have hhit := d.frame.flipAll_hit (Frame.places s.x s.y s.bytes)
  rw [Sprite.length_places] at hlit
  simp only [stamp, draw]
  rw [hhit]
  omega

theorem stamp_hit_of_short (d : Display) {s : Sprite} (h : s.rows.length ≤ 32) :
    (d.stamp s).2 = true ↔ ∃ px py, d.frame.pixel px py = true ∧ 0 < s.coverage px py := by
  have hhit : (d.stamp s).2 = true ↔
      ∃ k ∈ Frame.places s.x s.y s.bytes, d.frame.get k = true :=
    d.frame.flipAll_hit_of_nodup (Sprite.places_nodup_of_short h)
  rw [hhit, Frame.exists_place_iff]
  refine exists_congr fun px => exists_congr fun py => ?_
  rw [← Sprite.count_places, List.count_pos_iff, and_comm]
  rfl

/-- A sprite of any rows at any position is drawn. Every pixel becomes its old value turned over
once for each row that has a bit on it. No collision is reported if and only if there are as many
more lit pixels as the sprite has bits; and if it has at most 32 rows, a collision is reported if
and only if it has a bit on a pixel that was lit. -/
theorem drawSprite_flips (d : Display) (s : Sprite) :
    ∃ frame hit,
      d.drawSprite (.int s.x) (.int s.y) (.list (s.rows.map .int)) = (⟨frame, true⟩, .ok hit) ∧
      (∀ px py, frame.pixel px py = (d.frame.pixel px py ^^ (s.coverage px py).bodd)) ∧
      (hit = false ↔ frame.litCount = d.frame.litCount + s.weight) ∧
      (s.rows.length ≤ 32 →
        (hit = true ↔ ∃ px py, d.frame.pixel px py = true ∧ 0 < s.coverage px py)) :=
  ⟨_, _, plot_eq d s, stamp_pixel d s, stamp_hit d s, stamp_hit_of_short d⟩

end Display

end Chip8
