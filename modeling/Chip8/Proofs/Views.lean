import Chip8.Machine.Report
import Chip8.Picture
import Chip8.Proofs.Sprites

/-!
# Views of the picture

A picture can be asked for one pixel, taken as rows, handed out as bytes, printed as text and
painted in two colours. All of these number the pixels row by row, so they show the same pixel at
the same position; the count of lit pixels is that of the marks in the text.
-/

namespace Chip8

namespace Frame

/- The picture as it is handed out. -/
def bytes (f : Frame) : List UInt8 := f.toList.map fun lit => if lit then 1 else 0

def lines (f : Frame) : List (List Char) := f.picture.toList.splitOn '\n'

theorem toList_getElem? (f : Frame) {x y : Nat} (hx : x < 64) (hy : y < 32) :
    f.toList[y * 64 + x]? = some (f.pixel x y) := by
  have hplace : (place x y).val = y * 64 + x := by
    simp only [place]
    omega
  have hlt : y * 64 + x < f.toList.length := by
    rw [Vector.length_toList]
    omega
  rw [List.getElem?_eq_getElem hlt, Vector.getElem_toList]
  simp only [pixel, hplace]

theorem bytes_length (f : Frame) : f.bytes.length = 2048 := by
  rw [bytes, List.length_map, Vector.length_toList]

theorem bytes_getElem? (f : Frame) {x y : Nat} (hx : x < 64) (hy : y < 32) :
    f.bytes[y * 64 + x]? = some (if f.pixel x y then 1 else 0) := by
  rw [bytes, List.getElem?_map, f.toList_getElem? hx hy]
  rfl

theorem bytes_sum (f : Frame) : (f.bytes.map UInt8.toNat).sum = f.litCount := by
  rw [bytes, litCount]
  induction f.toList with
  | nil => rfl
  | cons lit rest ih =>
    simp only [List.map_cons, List.sum_cons, ih, List.count_cons]
    cases lit <;> simp [Nat.add_comm]

/-! ### Rows and lines -/

theorem rows_getElem? (f : Frame) {x y : Nat} (hx : x < 64) (hy : y < 32) :
    f.rows[y]?.bind (·[x]?) = some (f.pixel x y) := by
  simp [rows, hx, hy]

theorem flatten_ranges {α : Type} (g : Nat → α) (width height : Nat) :
    ((List.range height).map fun y => (List.range width).map fun x => g (y * width + x)).flatten =
      (List.range (height * width)).map g := by
  induction height with
  | zero => simp
  | succ height ih =>
    rw [List.range_succ, List.map_append, List.flatten_append, ih, Nat.succ_mul, List.range_add,
      List.map_append]
    simp [Function.comp_def]

theorem rows_flatten (f : Frame) : f.rows.flatten = f.toList := by
  have hrows : f.rows = (List.range 32).map fun y =>
      (List.range 64).map fun x => f.toList[y * 64 + x]?.getD false := by
    refine List.map_congr_left fun y hy => List.map_congr_left fun x hx => ?_
    rw [f.toList_getElem? (List.mem_range.mp hx) (List.mem_range.mp hy)]
    rfl
  rw [hrows, flatten_ranges fun i => f.toList[i]?.getD false]
  apply List.ext_getElem
  · simp
  · intro i hi hi'
    rw [List.getElem_map, List.getElem_range, List.getElem?_eq_getElem hi']
    rfl

theorem picture_toList (f : Frame) :
    f.picture.toList = ['\n'].intercalate (f.rows.map (List.map pixelChar)) := by
  rw [picture, String.toList_intercalate, List.map_map]
  simp [Function.comp_def]

theorem lines_eq (f : Frame) : f.lines = f.rows.map (List.map pixelChar) := by
  rw [lines, picture_toList]
  refine List.splitOn_intercalate '\n' ?_ (by simp [rows])
  intro line hline hbreak
  obtain ⟨row, -, rfl⟩ := List.mem_map.mp hline
  obtain ⟨lit, -, hlit⟩ := List.mem_map.mp hbreak
  cases lit <;> cases hlit

theorem count_intercalate {c sep : Char} (h : sep ≠ c) (ls : List (List Char)) :
    ([sep].intercalate ls).count c = ls.flatten.count c := by
  induction ls with
  | nil => rfl
  | cons l rest ih =>
    cases rest with
    | nil => simp
    | cons l' rest =>
      rw [List.intercalate_cons_cons, List.count_append, List.count_append, ih,
        List.count_singleton, List.flatten_cons, List.count_append]
      simp [h]

theorem picture_count (f : Frame) : f.picture.toList.count '#' = f.litCount := by
  have hmark (row : List Bool) : (row.map pixelChar).count '#' = row.count true := by
    induction row with
    | nil => rfl
    | cons lit rest ih =>
      rw [List.map_cons, List.count_cons, List.count_cons, ih]
      cases lit <;> rfl
  rw [picture_toList, count_intercalate (by decide), ← List.map_flatten, hmark, rows_flatten,
    litCount]

end Frame

/-! ### Paint -/

theorem take_drop_flatMap {α : Type} {g : α → List UInt8} {n : Nat} {items : List α}
    (hg : ∀ a ∈ items, (g a).length = n) {i : Nat} {a : α} (h : items[i]? = some a) :
    ((items.flatMap g).drop (i * n)).take n = g a := by
  induction i generalizing items with
  | zero =>
    cases items with
    | nil => cases h
    | cons first rest =>
      cases h
      have ha := hg a List.mem_cons_self
      rw [Nat.zero_mul, List.drop_zero, List.flatMap_cons, List.take_left' ha]
  | succ i ih =>
    cases items with
    | nil => cases h
    | cons first rest =>
      have hfirst := hg first List.mem_cons_self
      rw [List.flatMap_cons, Nat.succ_mul, Nat.add_comm, ← List.drop_drop, List.drop_left' hfirst]
      exact ih (fun a ha => hg a (List.mem_cons_of_mem first ha)) h

namespace Grid

variable {g : Grid} {rows columns depth row column : Nat}

theorem cell_eq (hs : g.shape = [rows, columns, depth]) (hr : row < rows) (hc : column < columns) :
    g.cell row column = some ((g.bytes.drop ((row * columns + column) * depth)).take depth) := by
  simp only [cell, hs, hr, hc, and_self, if_true]

theorem cell_length (hs : g.shape = [rows, columns, depth])
    (hb : g.bytes.length = rows * columns * depth) (hr : row < rows) (hc : column < columns) :
    ((g.cell row column).getD []).length = depth := by
  have hrow : (row + 1) * columns ≤ rows * columns := Nat.mul_le_mul_right columns hr
  have hplace : row * columns + column + 1 ≤ rows * columns := by
    rw [Nat.succ_mul] at hrow
    omega
  have hend := Nat.mul_le_mul_right depth hplace
  rw [Nat.succ_mul, ← hb] at hend
  rw [cell_eq hs hr hc, Option.getD_some, List.length_take, List.length_drop]
  omega

/-- What stands in a row and a column stands in that column and that row afterwards. -/
theorem cell_transpose (hs : g.shape = [rows, columns, depth])
    (hb : g.bytes.length = rows * columns * depth) (hr : row < rows) (hc : column < columns) :
    g.transpose.cell column row = g.cell row column := by
  have hdiv (k : Nat) (hk : k < columns * rows) : k % rows < rows ∧ k / rows < columns :=
    ⟨Nat.mod_lt k (by omega), Nat.div_lt_of_lt_mul (by rwa [Nat.mul_comm])⟩
  have hshape : g.transpose.shape = [columns, rows, depth] := by simp only [transpose, hs]
  have hsize : ∀ k ∈ List.range (columns * rows),
      ((g.cell (k % rows) (k / rows)).getD []).length = depth := by
    intro k hk
    obtain ⟨hmod, hquot⟩ := hdiv k (List.mem_range.mp hk)
    exact cell_length hs hb hmod hquot
  have hcolumn : (column + 1) * rows ≤ columns * rows := Nat.mul_le_mul_right rows hc
  have hplace : column * rows + row < columns * rows := by
    rw [Nat.succ_mul] at hcolumn
    omega
  have hmod : (column * rows + row) % rows = row := by
    rw [Nat.add_comm, Nat.add_mul_mod_self_right, Nat.mod_eq_of_lt hr]
  have hquot : (column * rows + row) / rows = column := by
    rw [Nat.add_comm, Nat.add_mul_div_right _ _ (by omega), Nat.div_eq_of_lt hr, Nat.zero_add]
  have hitem : (List.range (columns * rows))[column * rows + row]? = some (column * rows + row) :=
    List.getElem?_range hplace
  rw [cell_eq hshape hc hr]
  simp only [transpose, hs]
  rw [take_drop_flatMap hsize hitem, hmod, hquot, cell_eq hs hr hc]
  rfl

end Grid

theorem paint_table (p : Palette) {pixels : List UInt8} (h : pixels.length = 2048) :
    paint p.table pixels (.int 32) (.int 64) =
      .ok ⟨[32, 64, 3], pixels.flatMap fun b => (p.colour b).bytes⟩ := by
  have hshape : shapeFor pixels.length (.int 32) (.int 64) = .ok (32, 64) := by
    rw [h]
    rfl
  have hfound : pixels.find? (fun b => decide (2 ≤ paintRow b)) = none := by
    rw [List.find?_eq_none]
    intro b _ hrow
    have hle : paintRow b ≤ 1 := by
      unfold paintRow
      split <;> omega
    have hge := of_decide_eq_true hrow
    omega
  have hextent : Extent.problem? [32, 64, 3] .byte = none := by decide
  have htable : p.table.shape = [2, 3] := rfl
  simp only [paint, hshape, paintShaped, htable, hextent, hfound, row_table]
  exact if_neg (by simp)

theorem cell_paint (p : Palette) {pixels : List UInt8} {x y : Nat} (hx : x < 64) (hy : y < 32)
    {b : UInt8} (h : pixels[y * 64 + x]? = some b) :
    Grid.cell ⟨[32, 64, 3], pixels.flatMap fun b => (p.colour b).bytes⟩ y x =
      some (p.colour b).bytes := by
  have hsize : ∀ b ∈ pixels, (p.colour b).bytes.length = 3 := fun _ _ => rfl
  rw [Grid.cell_eq rfl hy hx, take_drop_flatMap hsize h]

/-! ### The display -/

theorem Value.within_int (limit : Nat) (n : Int) :
    (Value.int n).within limit = .ok (decide (0 ≤ n ∧ n < limit)) := by
  simp [within, toInt?]

namespace Display

theorem readPixel_int (d : Display) (x y : Int) : d.readPixel (.int x) (.int y) =
    if (0 ≤ x ∧ x < 64) ∧ 0 ≤ y ∧ y < 32 then .ok (d.frame.pixel x y)
    else .error (.offScreen (.int x) (.int y)) := by
  by_cases hx : 0 ≤ x ∧ x < 64
  · by_cases hy : 0 ≤ y ∧ y < 32
    · simp [readPixel, covers, Value.within_int, hx, hy, Value.toInt?]
    · simp [readPixel, covers, Value.within_int, hx, hy]
  · simp [readPixel, covers, Value.within_int, hx]

/- What each view shows of the pixel in column `x` of row `y`, if it is lit or not. -/
structure ShowsPixel (d : Display) (p : Palette) (g : Grid) (x y : Nat) (lit : Bool) : Prop where
  read : d.readPixel (.int x) (.int y) = .ok lit
  row : d.frame.rows[y]?.bind (·[x]?) = some lit
  byte : d.consume.1.bytes[y * 64 + x]? = some (if lit then 1 else 0)
  char : d.frame.lines[y]?.bind (·[x]?) = some (if lit then '#' else '.')
  colour : g.cell y x = some (if lit then p.on else p.off).bytes

theorem showsPixel (d : Display) (p : Palette) {x y : Nat} (hx : x < 64) (hy : y < 32) :
    ShowsPixel d p ⟨[32, 64, 3], d.consume.1.bytes.flatMap fun b => (p.colour b).bytes⟩ x y
      (d.frame.pixel x y) where
  read := by
    rw [readPixel_int, if_pos (by omega)]
  row := d.frame.rows_getElem? hx hy
  byte := d.frame.bytes_getElem? hx hy
  char := by
    obtain ⟨row, hrow, hpixel⟩ := Option.bind_eq_some_iff.mp (d.frame.rows_getElem? hx hy)
    rw [Frame.lines_eq, List.getElem?_map, hrow, Option.map_some, Option.bind_some,
      List.getElem?_map, hpixel]
    rfl
  colour := by
    have hbyte := d.frame.bytes_getElem? hx hy
    refine (cell_paint p hx hy hbyte).trans ?_
    cases d.frame.pixel x y <;> rfl

/-- Whatever was drawn on a display, all views of it show the same pixel at each position, the rows
put together are the picture that is handed out, and the description counts the marks of the text;
off the screen there is no pixel to be read. -/
theorem views_agree (d : Display) (p : Palette) :
    (∃ g, paint p.table d.consume.1.bytes (.int 32) (.int 64) = .ok g ∧ g.shape = [32, 64, 3] ∧
      ∀ x y : Nat, x < 64 → y < 32 → ∃ lit, ShowsPixel d p g x y lit) ∧
    (d.frame.lines.length = 32 ∧ ∀ line ∈ d.frame.lines, line.length = 64) ∧
    d.frame.rows.flatten = d.consume.1.toList ∧
    (∃ n : Nat, d.describe = "FrameBuffer(width=64, height=32, lit=" ++ toString n ++ ", dirty="
        ++ Value.boolText d.dirty ++ ")" ∧
      n = d.frame.picture.toList.count '#' ∧ n = (d.consume.1.bytes.map UInt8.toNat).sum) ∧
    ∀ x y : Int, ¬((0 ≤ x ∧ x < 64) ∧ 0 ≤ y ∧ y < 32) →
      d.readPixel (.int x) (.int y) = .error (.offScreen (.int x) (.int y)) := by
  refine ⟨⟨_, paint_table p d.frame.bytes_length, rfl, ?_⟩, ⟨?_, ?_⟩, d.frame.rows_flatten,
    ⟨_, rfl, d.frame.picture_count.symm, d.frame.bytes_sum.symm⟩, ?_⟩
  · intro x y hx hy
    exact ⟨_, d.showsPixel p hx hy⟩
  · simp [Frame.lines_eq, Frame.rows]
  · intro line hline
    rw [Frame.lines_eq] at hline
    obtain ⟨row, hrow, rfl⟩ := List.mem_map.mp hline
    obtain ⟨y, -, rfl⟩ := List.mem_map.mp hrow
    simp
  · intro x y hout
    rw [readPixel_int, if_neg hout]

end Display

end Chip8
