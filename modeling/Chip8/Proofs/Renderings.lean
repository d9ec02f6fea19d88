import Chip8.Proofs.Views
import Mathlib.Data.List.Induction

/-!
# Renderings

A renderer is told to draw frames, to draw the last one again and to change its colours, in any
order, and some of it is refused. `rendered` and `inForce` read off such a history which frame was
accepted last and which colours hold. Of the toolkit it is assumed that a value either replaces a
colour as a whole or is refused and changes nothing, and that an array is put on a surface element
by element. Then the surface shows the last accepted frame in the colours that held when it was last
drawn.
-/

namespace Chip8

/-- What is assumed of a toolkit. `reads` tells the values that stand for colours; three bytes do.
-/
structure Toolkit.Faithful {σ : Type} (t : Toolkit σ) (reads : Value → Option Colour) : Prop where
  bytes : ∀ c : Colour, reads (.list (c.bytes.map fun b => .int b.toNat)) = some c
  stored : ∀ v c, reads v = some c → ∀ old, t.assign old v = (c, none)
  refused : ∀ v, reads v = none → ∀ old, ∃ e, t.assign old v = (old, some e)
  blank : ∀ x y, x < 64 → y < 32 → t.pixel t.blank x y = Colour.black
  copied : ∀ s (g : Grid) x y (c : Colour), g.shape = [64, 32, 3] → g.cell x y = some c.bytes →
    t.pixel (t.blit s g) x y = c

namespace Renderer

inductive Command where
  | render (pixels : List UInt8)
  | redraw
  | colours (off on : Value)

inductive Refusal where
  | frame (e : RenderError)
  | colours (e : ColourError)

section Commands

variable {σ : Type}

/- What is refused leaves the renderer as it was. -/
def settle (r : Renderer σ) : Except RenderError (Renderer σ) → Renderer σ × Option Refusal
  | .ok drawn => (drawn, none)
  | .error e => (r, some (.frame e))

variable (t : Toolkit σ)

def perform (r : Renderer σ) : Command → Renderer σ × Option Refusal
  | .render pixels => r.settle (r.render t pixels)
  | .redraw => r.settle (r.redraw t)
  | .colours off on => ((r.setColours t off on).1, (r.setColours t off on).2.map .colours)

def after (r : Renderer σ) (cs : List Command) : Renderer σ :=
  cs.foldl (fun r c => (r.perform t c).1) r

theorem after_concat (r : Renderer σ) (cs : List Command) (c : Command) :
    r.after t (cs ++ [c]) = ((r.after t cs).perform t c).1 := by
  simp [after]

def blank (p : Palette) : Renderer σ := ⟨p, t.blank, none⟩

/-! ### Single commands -/

/- A frame in colours, row after row. -/
def picture (p : Palette) (f : List UInt8) : Grid :=
  ⟨[32, 64, 3], f.flatMap fun b => (p.colour b).bytes⟩

theorem perform_render (r : Renderer σ) {pixels : List UInt8} (h : pixels.length = 2048) :
    r.perform t (.render pixels) =
      ({ r with surface := t.blit r.surface (picture r.palette pixels).transpose,
                lastFrame := some pixels }, none) := by
  have hsize : ¬pixels.length ≠ width * height := not_not_intro h
  have hpaint : paint r.palette.table pixels (.int height) (.int width) =
      .ok (picture r.palette pixels) := paint_table r.palette h
  simp only [perform, render, if_neg hsize, hpaint, settle]

theorem perform_misfit (r : Renderer σ) {pixels : List UInt8} (h : pixels.length ≠ 2048) :
    r.perform t (.render pixels) = (r, some (.frame (.size pixels.length))) := by
  have hsize : pixels.length ≠ width * height := h
  simp only [perform, render, if_pos hsize, settle]

variable {t} {r : Renderer σ}

theorem perform_redraw_none (h : r.lastFrame = none) : r.perform t .redraw = (r, none) := by
  simp only [perform, redraw, h, settle]

theorem perform_redraw_some {pixels : List UInt8} (h : r.lastFrame = some pixels) :
    r.perform t .redraw = r.perform t (.render pixels) := by
  simp only [perform, redraw, h]

end Commands

/-! ### Histories -/

section Histories

variable {α : Type} (reads : Value → Option Colour)

/- The latest of what commands give. -/
def latest (give : Command → Option α) (cs : List Command) : Option α := cs.reverse.findSome? give

theorem latest_concat (give : Command → Option α) (cs : List Command) (c : Command) :
    latest give (cs ++ [c]) = (give c).or (latest give cs) := by
  rw [latest, List.reverse_append, List.reverse_singleton, List.singleton_append,
    List.findSome?_cons]
  cases give c <;> rfl

/- The frame of a render that is accepted. -/
def Command.frame? : Command → Option (List UInt8)
  | render pixels => if pixels.length = 2048 then some pixels else none
  | _ => none

def Command.off? : Command → Option Colour
  | colours off _ => reads off
  | _ => none

/- The second colour is not looked at if the first is refused. -/
def Command.on? : Command → Option Colour
  | colours off on => if reads off = none then none else reads on
  | _ => none

def rendered (cs : List Command) : Option (List UInt8) := latest Command.frame? cs

/-- The colours that hold after commands: each is the latest one that was accepted. -/
def inForce (p : Palette) (cs : List Command) : Palette :=
  ⟨(latest (Command.off? reads) cs).getD p.off, (latest (Command.on? reads) cs).getD p.on⟩

theorem inForce_concat (p : Palette) (cs : List Command) (c : Command) :
    inForce reads p (cs ++ [c]) = inForce reads (inForce reads p cs) [c] := by
  have hlast (give : Command → Option Colour) (old : Colour) :
      (latest give (cs ++ [c])).getD old = (latest give [c]).getD ((latest give cs).getD old) := by
    rw [latest_concat, ← List.nil_append [c], latest_concat]
    cases give c <;> rfl
  simp only [inForce, hlast]

theorem rendered_length {cs : List Command} {f : List UInt8} (h : rendered cs = some f) :
    f.length = 2048 := by
  obtain ⟨c, -, hc⟩ := List.exists_of_findSome?_eq_some h
  cases c with
  | render pixels =>
    simp only [Command.frame?, Option.ite_none_right_eq_some, Option.some.injEq] at hc
    rw [← hc.2, hc.1]
  | redraw => cases hc
  | colours off on => cases hc

/- Whether a command draws, after others. -/
def Command.Draws (before : List Command) : Command → Prop
  | render pixels => pixels.length = 2048
  | redraw => rendered before ≠ none
  | colours _ _ => False

/- `before` is what came before the last command that drew. -/
def LastDrawn (cs before : List Command) : Prop :=
  ∃ c rest, cs = before ++ c :: rest ∧ c.Draws before ∧
    ∀ first d later, rest = first ++ d :: later → ¬d.Draws (before ++ c :: first)

theorem LastDrawn.now {cs : List Command} {c : Command} (h : c.Draws cs) :
    LastDrawn (cs ++ [c]) cs := by
  refine ⟨c, [], rfl, h, ?_⟩
  intro first d later hcut
  simp at hcut

theorem LastDrawn.still {cs before : List Command} {c : Command} (h : LastDrawn cs before)
    (hc : ¬c.Draws cs) : LastDrawn (cs ++ [c]) before := by
  obtain ⟨drawing, rest, rfl, hdraws, hrest⟩ := h
  refine ⟨drawing, rest ++ [c], by simp, hdraws, ?_⟩
  intro first d later hcut
  rcases List.eq_nil_or_concat later with rfl | ⟨middle, last, rfl⟩
  · obtain ⟨rfl, rfl⟩ : rest = first ∧ c = d := by simpa using hcut
    exact hc
  · have hinit : rest = first ++ d :: middle := by
      rw [List.concat_eq_append, ← List.cons_append, ← List.append_assoc] at hcut
      exact (List.append_inj' hcut rfl).1
    exact hrest first d middle hinit

theorem LastDrawn.eq_nil {cs before more : List Command} (h : LastDrawn cs before)
    (hmore : LastDrawn cs (before ++ more)) : more = [] := by
  obtain ⟨c, rest, rfl, -, hrest⟩ := h
  obtain ⟨d, later, hcut, hdraws, -⟩ := hmore
  cases more with
  | nil => rfl
  | cons first middle =>
    obtain ⟨rfl, hmiddle⟩ : c = first ∧ rest = middle ++ d :: later := by simpa using hcut
    exact absurd hdraws (hrest middle d later hmiddle)

theorem LastDrawn.unique {cs a b : List Command} (ha : LastDrawn cs a) (hb : LastDrawn cs b) :
    a = b := by
  have hstart {before : List Command} (h : LastDrawn cs before) : before <+: cs := by
    obtain ⟨c, rest, hcs, -⟩ := h
    exact ⟨c :: rest, hcs.symm⟩
  rcases List.prefix_or_prefix_of_prefix (hstart ha) (hstart hb) with ⟨more, rfl⟩ | ⟨more, rfl⟩
  · rw [ha.eq_nil hb, List.append_nil]
  · rw [hb.eq_nil ha, List.append_nil]

end Histories

variable {σ : Type} {t : Toolkit σ} {reads : Value → Option Colour}

/-! ### Colours -/

/- What two values leave of two colours, and whether one of them was refused. -/
theorem store_faithful (ht : t.Faithful reads) (p : Palette) (off on : Value) :
    (store t p off on).1 = inForce reads p [.colours off on] ∧
      ((store t p off on).2 = none ↔ reads off ≠ none ∧ reads on ≠ none) := by
  cases hoff : reads off with
  | none =>
    obtain ⟨e, he⟩ := ht.refused off hoff p.off
    simp [store, he, inForce, latest, Command.off?, Command.on?, hoff]
  | some dark =>
    have hdark := ht.stored off dark hoff p.off
    cases hon : reads on with
    | none =>
      obtain ⟨e, he⟩ := ht.refused on hon p.on
      simp [store, hdark, he, inForce, latest, Command.off?, Command.on?, hoff, hon]
    | some lit =>
      have hlit := ht.stored on lit hon p.on
      simp [store, hdark, hlit, inForce, latest, Command.off?, Command.on?, hoff, hon]

theorem perform_colours (ht : t.Faithful reads) (r : Renderer σ) (off on : Value) :
    (r.perform t (.colours off on)).1 =
        { r with palette := inForce reads r.palette [.colours off on] } ∧
      ((r.perform t (.colours off on)).2 = none ↔ reads off ≠ none ∧ reads on ≠ none) := by
  obtain ⟨hpalette, hrefusal⟩ := store_faithful ht r.palette off on
  simp only [perform, setColours, hpalette, Option.map_eq_none_iff, hrefusal, and_self]

theorem new_ok (ht : t.Faithful reads) {off on : Value} {dark lit : Colour}
    (hoff : reads off = some dark) (hon : reads on = some lit) :
    new t off on = .ok (blank t ⟨dark, lit⟩) := by
  simp only [new, store, ht.stored off dark hoff, ht.stored on lit hon]
  rfl

/-! ### The surface -/

theorem picture_length (p : Palette) {f : List UInt8} (h : f.length = 2048) :
    (picture p f).bytes.length = 32 * 64 * 3 := by
  have hthree (l : List UInt8) : (l.flatMap fun b => (p.colour b).bytes).length = l.length * 3 := by
    induction l with
    | nil => rfl
    | cons b rest ih =>
      rw [List.flatMap_cons, List.length_append, ih, List.length_cons, Nat.succ_mul]
      exact Nat.add_comm 3 _
  rw [picture, hthree, h]

/- The array is turned on its side and back again: its rows are the columns of the surface. -/
theorem pixel_blit (ht : t.Faithful reads) (s : σ) (p : Palette) {f : List UInt8}
    (hf : f.length = 2048) {x y : Nat} (hx : x < 64) (hy : y < 32) {b : UInt8}
    (hb : f[y * 64 + x]? = some b) :
    t.pixel (t.blit s (picture p f).transpose) x y = p.colour b := by
  refine ht.copied s _ x y _ rfl ?_
  rw [Grid.cell_transpose rfl (picture_length p hf) hy hx]
  exact cell_paint p hx hy hb

/- What a history leaves behind. -/
structure Recalls (t : Toolkit σ) (reads : Value → Option Colour) (p : Palette)
    (cs : List Command) (r : Renderer σ) : Prop where
  palette : r.palette = inForce reads p cs
  frame : r.lastFrame = rendered cs
  dark : rendered cs = none → r.surface = t.blank
  drawn : ∀ f, rendered cs = some f → ∃ before s, LastDrawn cs before ∧
    r.surface = t.blit s (picture (inForce reads p before) f).transpose

variable {p : Palette} {cs : List Command} {r : Renderer σ}

theorem Recalls.draw (h : Recalls t reads p cs r) {c : Command} {f : List UInt8}
    (hc : c.Draws cs) (hf : rendered (cs ++ [c]) = some f)
    (hp : inForce reads p (cs ++ [c]) = inForce reads p cs)
    (hr : r.perform t c = r.perform t (.render f)) :
    Recalls t reads p (cs ++ [c]) (r.perform t c).1 := by
  rw [hr, perform_render t r (rendered_length hf)]
  constructor
  · rw [hp]
    exact h.palette
  · exact hf.symm
  · intro hnone
    rw [hnone] at hf
    cases hf
  · intro g hg
    cases hg.symm.trans hf
    refine ⟨cs, r.surface, .now hc, ?_⟩
    rw [h.palette]

theorem Recalls.pass (h : Recalls t reads p cs r) {c : Command} (hc : ¬c.Draws cs)
    (hf : rendered (cs ++ [c]) = rendered cs)
    (hr : (r.perform t c).1 = { r with palette := inForce reads p (cs ++ [c]) }) :
    Recalls t reads p (cs ++ [c]) (r.perform t c).1 := by
  rw [hr]
  constructor
  · rfl
  · rw [hf]
    exact h.frame
  · rw [hf]
    exact h.dark
  · intro f hsome
    rw [hf] at hsome
    obtain ⟨before, s, hlast, hsurface⟩ := h.drawn f hsome
    exact ⟨before, s, hlast.still hc, hsurface⟩

theorem Recalls.perform (ht : t.Faithful reads) (h : Recalls t reads p cs r) (c : Command) :
    Recalls t reads p (cs ++ [c]) (r.perform t c).1 := by
  have hrendered : rendered (cs ++ [c]) = c.frame?.or (rendered cs) := latest_concat _ cs c
  have hforce := inForce_concat reads p cs c
  cases c with
  | render pixels =>
    by_cases hsize : pixels.length = 2048
    · rw [Command.frame?, if_pos hsize] at hrendered
      exact h.draw hsize hrendered hforce rfl
    · rw [Command.frame?, if_neg hsize] at hrendered
      refine h.pass hsize hrendered ?_
      rw [perform_misfit t r hsize, hforce, ← h.palette]
      rfl
  | redraw =>
    cases hlast : rendered cs with
    | none =>
      refine h.pass (fun hdraws => hdraws hlast) hrendered ?_
      rw [perform_redraw_none (h.frame.trans hlast), hforce, ← h.palette]
      rfl
    | some f =>
      have hdraws : Command.Draws cs .redraw := by
        intro hnone
        rw [hnone] at hlast
        cases hlast
      exact h.draw hdraws (hrendered.trans hlast) hforce
        (perform_redraw_some (h.frame.trans hlast))
  | colours off on =>
    refine h.pass id hrendered ?_
    rw [(perform_colours ht r off on).1, hforce, ← h.palette]

theorem blank_recalls (ht : t.Faithful reads) (p : Palette) (cs : List Command) :
    Recalls t reads p cs ((blank t p).after t cs) := by
  induction cs using List.reverseRecOn with
  | nil => exact ⟨rfl, rfl, fun _ => rfl, by simp [rendered, latest]⟩
  | append_singleton cs c ih =>
    rw [after_concat]
    exact ih.perform ht c

theorem Recalls.pixel_drawn (ht : t.Faithful reads) (h : Recalls t reads p cs r) {f : List UInt8}
    {before : List Command} (hf : rendered cs = some f) (hlast : LastDrawn cs before) {x y : Nat}
    (hx : x < 64) (hy : y < 32) : ∃ b, f[y * 64 + x]? = some b ∧
      t.pixel r.surface x y = (inForce reads p before).colour b := by
  obtain ⟨earlier, s, hearlier, hsurface⟩ := h.drawn f hf
  have hlt : y * 64 + x < f.length := by
    rw [rendered_length hf]
    omega
  have hb := List.getElem?_eq_getElem hlt
  refine ⟨_, hb, ?_⟩
  rw [hsurface, hearlier.unique hlast]
  exact pixel_blit ht s _ (rendered_length hf) hx hy hb

def changing (changes : List (Value × Value)) : List Command :=
  changes.map fun c => .colours c.1 c.2

theorem after_changing (r : Renderer σ) (changes : List (Value × Value)) :
    (r.after t (changing changes)).lastFrame = r.lastFrame := by
  induction changes generalizing r with
  | nil => rfl
  | cons change rest ih => exact ih _

/- What holds of a renderer that began with the palette `p`, after the commands `cs`. -/
structure Follows (t : Toolkit σ) (reads : Value → Option Colour) (p : Palette)
    (cs : List Command) (r : Renderer σ) : Prop where
  remembered : r.lastFrame = rendered cs
  palette : r.palette = inForce reads p cs
  black : rendered cs = none → ∀ x y, x < 64 → y < 32 → t.pixel r.surface x y = Colour.black
  drawn : rendered cs ≠ none → ∃ before, LastDrawn cs before
  picture : ∀ f before, rendered cs = some f → LastDrawn cs before →
    ∀ x y, x < 64 → y < 32 → ∃ b, f[y * 64 + x]? = some b ∧ t.pixel r.surface x y =
      if b = 0 then (inForce reads p before).off else (inForce reads p before).on
  fitting : ∀ pixels, pixels.length = 2048 → (r.perform t (.render pixels)).2 = none
  misfit : ∀ pixels, pixels.length ≠ 2048 →
    r.perform t (.render pixels) = (r, some (.frame (.size pixels.length)))
  recoloured : ∀ off on, (r.perform t (.colours off on)).1 =
    { r with palette := inForce reads p (cs ++ [.colours off on]) }
  accepted : ∀ off on, (r.perform t (.colours off on)).2 = none ↔
    reads off ≠ none ∧ reads on ≠ none
  idle : rendered cs = none → r.perform t .redraw = (r, none)
  afresh : ∀ f changes, rendered cs = some f →
    ((r.after t (changing changes)).perform t .redraw).2 = none ∧
      ∀ x y, x < 64 → y < 32 →
        t.pixel ((r.after t (changing changes)).perform t .redraw).1.surface x y =
          t.pixel ((blank t (r.after t (changing changes)).palette).perform t
            (.render f)).1.surface x y

/-- After any commands, accepted or refused, the surface shows the last accepted frame in the
colours that held when it was last drawn. A frame of another size changes nothing, a refused colour
is not stored, and drawing the frame again after new colours is like drawing it for the first time.
-/
theorem surface_follows (ht : t.Faithful reads) {off on : Value} {dark lit : Colour}
    (hoff : reads off = some dark) (hon : reads on = some lit) :
    ∃ r, new t off on = .ok r ∧ ∀ cs, Follows t reads ⟨dark, lit⟩ cs (r.after t cs) := by
  refine ⟨_, new_ok ht hoff hon, ?_⟩
  intro cs
  have h := blank_recalls ht ⟨dark, lit⟩ cs
  constructor
  case remembered => exact h.frame
  case palette => exact h.palette
  case black =>
    intro hnone x y hx hy
    rw [h.dark hnone]
    exact ht.blank x y hx hy
  case drawn =>
    intro hsome
    obtain ⟨f, hf⟩ := Option.ne_none_iff_exists'.mp hsome
    obtain ⟨before, -, hlast, -⟩ := h.drawn f hf
    exact ⟨before, hlast⟩
  case picture =>
    intro f before hf hlast x y hx hy
    exact h.pixel_drawn ht hf hlast hx hy
  case fitting =>
    intro pixels hsize
    rw [perform_render t _ hsize]
  case misfit =>
    intro pixels hsize
    exact perform_misfit t _ hsize
  case recoloured =>
    intro off on
    rw [(perform_colours ht _ off on).1, h.palette, inForce_concat]
  case accepted =>
    intro off on
    exact (perform_colours ht _ off on).2
  case idle =>
    intro hnone
    exact perform_redraw_none (h.frame.trans hnone)
  case afresh =>
    intro f changes hf
    have hsize := rendered_length hf
    have hframe := (after_changing (t := t) ((blank t ⟨dark, lit⟩).after t cs) changes).trans
      (h.frame.trans hf)
    rw [perform_redraw_some hframe, perform_render t _ hsize, perform_render t _ hsize]
    refine ⟨rfl, ?_⟩
    intro x y hx hy
    have hlt : y * 64 + x < f.length := by omega
    have hb := List.getElem?_eq_getElem hlt
    exact (pixel_blit ht _ _ hsize hx hy hb).trans (pixel_blit ht _ _ hsize hx hy hb).symm

end Renderer

/-! ### A toolkit that takes bytes only -/

namespace Toolkit

def read? : Value → Option Colour
  | .list [.int red, .int green, .int blue] =>
    if [red, green, blue].all fun n => 0 ≤ n ∧ n < 256 then
      some ⟨byteOf red, byteOf green, byteOf blue⟩
    else none
  | _ => none

def strict : Toolkit (Nat → Nat → Colour) :=
  { plain with
    assign := fun old v =>
      match read? v with
      | some c => (c, none)
      | none => (old, some (.wrongLength 0)) }

theorem strict_faithful : strict.Faithful read? where
  bytes := by
    intro c
    have hred := c.red.toNat_lt
    have hgreen := c.green.toNat_lt
    have hblue := c.blue.toNat_lt
    simp only [Colour.bytes, List.map_cons, List.map_nil, read?, byteOf_natCast_toNat]
    exact if_pos (by simp; omega)
  stored := by
    intro v c hv old
    simp only [strict, hv]
  refused := by
    intro v hv old
    exact ⟨.wrongLength 0, by simp only [strict, hv]⟩
  blank := by
    intro x y _ _
    rfl
  copied := by
    intro s g x y c _ hcell
    show ((g.cell x y).bind Colour.ofBytes?).getD Colour.black = c
    rw [hcell]
    rfl

end Toolkit

namespace Renderer

open Toolkit (strict strict_faithful)

/- A frame drawn, one that is refused, two new colours, and two of which the second is refused. -/
def recoloured (f : List UInt8) : List Command :=
  [.render f, .render [], .colours (.list [.int 1, .int 2, .int 3])
    (.list [.int 4, .int 5, .int 6]), .colours (.list [.int 7, .int 8, .int 9]) .null]

theorem rendered_recoloured {f : List UInt8} (h : f.length = 2048) :
    rendered (recoloured f) = some f := by
  simp [rendered, latest, recoloured, List.findSome?_cons, Command.frame?, h]

theorem recoloured_lit :
    ∃ r, new strict defaultOff defaultOn = .ok r ∧
      strict.pixel (r.after strict
        (recoloured (List.replicate 2048 7) ++ [.redraw])).surface 63 31 = ⟨4, 5, 6⟩ := by
  have hdark : Toolkit.read? defaultOff = some Colour.black := rfl
  have hlit : Toolkit.read? defaultOn = some Colour.white := rfl
  obtain ⟨r, hnew, hall⟩ := surface_follows strict_faithful hdark hlit
  refine ⟨r, hnew, ?_⟩
  have hsize : (List.replicate 2048 (7 : UInt8)).length = 2048 := List.length_replicate
  have hpixel : (List.replicate 2048 (7 : UInt8))[31 * 64 + 63]? = some 7 :=
    List.getElem?_replicate.trans (if_pos (by decide))
  generalize List.replicate 2048 (7 : UInt8) = f at hsize hpixel ⊢
  have hrendered := rendered_recoloured hsize
  have hlast : LastDrawn (recoloured f ++ [.redraw]) (recoloured f) := by
    refine .now ?_
    show rendered (recoloured f) ≠ none
    rw [hrendered]
    exact Option.some_ne_none f
  have hagain : rendered (recoloured f ++ [.redraw]) = some f :=
    (latest_concat _ (recoloured f) .redraw).trans hrendered
  obtain ⟨b, hb, hcolour⟩ := (hall (recoloured f ++ [.redraw])).picture f
    (recoloured f) hagain hlast 63 31 (by decide) (by decide)
  cases hpixel.symm.trans hb
  exact hcolour

end Renderer

end Chip8
