import Mathlib.Data.List.Induction
import Chip8.Proofs.HostLoop
import Chip8.Proofs.TimerAccount

/-!
# The screen

A window shows the picture that its machine last handed out, and asks for it only when the machine
has noted that it is new. A drawing makes the note; a reset darkens the picture and drops the note.
So the screen shows what the last drawing left, and the machine's own picture only as long as no
reset has come after that drawing.
-/

namespace Chip8

open Instruction (decode?)

/- Clearing counts as drawing. -/
def Instruction.draws : Instruction → Bool
  | clear => true
  | draw _ _ _ => true
  | _ => false

namespace Machine

/-! ### What one deed does to the picture -/

def Deed.draws (d : Deed) : Bool :=
  match d.act with
  | .execute => (decode? d.before.nextWord).any Instruction.draws
  | _ => false

/- The acts after which nothing about the picture is new. -/
def Act.settles : Act → Bool
  | .reset => true
  | .consume => true
  | _ => false

theorem Deed.execute_of_draws {d : Deed} (h : d.draws = true) : d.act = .execute := by
  unfold draws at h
  split at h
  · assumption
  · cases h

theorem draws_of_touches {w : Word} (h : Touches w .display) :
    (decode? w).any Instruction.draws = true := by
  cases h with
  | clear => rfl
  | draw x y height =>
    exact congrArg (Option.any Instruction.draws) (Instruction.decode?_encode (.draw x y height))

theorem execute_marks {m : Machine} (h : (decode? m.nextWord).any Instruction.draws = true) :
    m.execute.1.display = ⟨m.execute.1.display.frame, true⟩ := by
  obtain ⟨i, hi, hdraws⟩ := (Option.any_eq_true _ _).mp h
  rw [execute_eq_carryOut hi]
  cases i with
  | clear => rfl
  | draw x y height => rfl
  | _ => cases hdraws

theorem execute_display (m : Machine) :
    m.execute.1.display =
      if (decode? m.nextWord).any Instruction.draws then ⟨m.execute.1.display.frame, true⟩
      else m.display := by
  split
  · rename_i hdraws
    exact execute_marks hdraws
  · rename_i hdraws
    by_cases hsame : m.execute.1.display = m.display
    · exact hsame
    · exact absurd (draws_of_touches ((execute_confined m).display hsame)) hdraws

theorem deed_display (d : Deed) :
    d.after.display =
      if d.act.isReset then .blank
      else if d.draws then ⟨d.after.display.frame, true⟩
      else { d.before.display with dirty := !d.act.settles && d.before.display.dirty } := by
  obtain ⟨m, a⟩ := d
  cases a with
  | execute => exact execute_display m
  | tick =>
    rw [Deed.after, act, tick_eq]
    rfl
  | reset => rfl
  | place _ => rfl
  | countFrame => rfl
  | keys _ => rfl
  | consume => rfl

/-! ### The account of the picture -/

/- There was a reset, and nothing has been drawn since. -/
def wiped (deeds : List Deed) : Bool :=
  deeds.any (·.act.isReset) && !(lately deeds).any Deed.draws

/- The picture that the last drawing left, before or after a reset. -/
def lastDrawn (deeds : List Deed) : Frame :=
  ((deeds.reverse.find? Deed.draws).map (·.after.display.frame)).getD .dark

/- Something has been drawn that neither was taken nor fell to a reset. -/
def news (deeds : List Deed) : Bool :=
  (deeds.reverse.takeWhile fun d => !d.act.settles).any Deed.draws

theorem wiped_concat (past : List Deed) (d : Deed) :
    wiped (past ++ [d]) = (d.act.isReset || (wiped past && !d.draws)) := by
  unfold wiped
  rw [lately_concat, List.any_append, List.any_cons, List.any_nil, Bool.or_false]
  cases d.act.isReset with
  | true => simp
  | false => cases hd : d.draws <;> simp [hd]

theorem lastDrawn_concat (past : List Deed) (d : Deed) :
    lastDrawn (past ++ [d]) = if d.draws then d.after.display.frame else lastDrawn past := by
  unfold lastDrawn
  rw [List.reverse_concat, List.find?_cons]
  cases d.draws <;> rfl

theorem news_concat (past : List Deed) (d : Deed) :
    news (past ++ [d]) = (!d.act.settles && (d.draws || news past)) := by
  unfold news
  rw [List.reverse_concat, List.takeWhile_cons]
  cases d.act.settles with
  | true => rfl
  | false => rw [Bool.not_false, if_pos rfl, List.any_cons, Bool.true_and]

theorem not_wiped_of_news {deeds : List Deed} (h : news deeds = true) : wiped deeds = false := by
  induction deeds using List.reverseRecOn with
  | nil => rfl
  | append_singleton past d ih =>
    rw [news_concat] at h
    have hreset : d.act.isReset = false := by
      cases ha : d.act <;> simp_all [Act.settles, Act.isReset]
    rw [wiped_concat, hreset]
    cases hd : d.draws with
    | true => simp
    | false =>
      have hpast : wiped past = false := ih (by simp_all)
      simp [hpast]

theorem lastDrawn_append {later : List Deed} (h : ∀ d ∈ later, d.draws = false)
    (past : List Deed) : lastDrawn (past ++ later) = lastDrawn past := by
  have hnone : later.reverse.find? Deed.draws = none := by
    rw [List.find?_eq_none]
    intro d hd
    simp [h d (List.mem_reverse.mp hd)]
  unfold lastDrawn
  rw [List.reverse_append, List.find?_append, hnone, Option.none_or]

theorem news_append {later : List Deed} (h : ∀ d ∈ later, d.act.settles = false)
    (past : List Deed) : news (past ++ later) = (later.any Deed.draws || news past) := by
  have hall : ∀ d ∈ later.reverse, (!d.act.settles) = true := by
    intro d hd
    rw [h d (List.mem_reverse.mp hd)]
    rfl
  unfold news
  rw [List.reverse_append, List.takeWhile_append_of_pos hall, List.any_append, List.any_reverse]

/-- The display of a machine, told from what has happened to it. -/
def Pictured (past : List Deed) (m : Machine) : Prop :=
  m.display = ⟨if wiped past then .dark else lastDrawn past, news past⟩

theorem Pictured.act {past : List Deed} {m : Machine} (h : Pictured past m) (a : Act) :
    Pictured (past ++ [⟨m, a⟩]) (m.act a) := by
  have hdeed := deed_display ⟨m, a⟩
  unfold Pictured at h ⊢
  rw [wiped_concat, lastDrawn_concat, news_concat]
  cases hd : Deed.draws ⟨m, a⟩ with
  | true =>
    cases Deed.execute_of_draws hd
    rw [hd] at hdeed
    refine hdeed.trans ?_
    simp [Act.isReset, Act.settles]
  | false =>
    rw [hd] at hdeed
    cases a with
    | reset => rfl
    | _ =>
      refine hdeed.trans ?_
      rw [h]
      simp [Act.isReset, Act.settles]

theorem Pictured.after {past : List Deed} {m : Machine} (h : Pictured past m) (ops : List Op) :
    Pictured (past ++ m.deeds ops) (m.after ops) :=
  after_keeps (P := Pictured) (fun _ _ a hm => hm.act a) h ops

/-! ### Operations that do not draw -/

theorem act_mem_acts {m : Machine} {ops : List Op} {d : Deed} (h : d ∈ m.deeds ops) :
    d.act ∈ m.acts ops := by
  rw [← map_act_inTurn m (m.acts ops)]
  exact List.mem_map_of_mem h

def Op.runs : Op → Bool
  | .step => true
  | .frame _ => true
  | _ => false

theorem execute_not_mem {ops : List Op} (h : ∀ op ∈ ops, op.runs = false) (m : Machine) :
    Act.execute ∉ m.acts ops := by
  induction ops generalizing m with
  | nil => simp [acts]
  | cons op rest ih =>
    have hrest := ih (fun o ho => h o (List.mem_cons_of_mem op ho)) (m.perform op).machine
    have hop := h op List.mem_cons_self
    have hfirst : Act.execute ∉ m.actsOf op := by
      cases op with
      | step => cases hop
      | frame _ => cases hop
      | load data =>
        rw [actsOf]
        split <;> simp
      | setKey index pressed =>
        rw [actsOf]
        split <;> simp
      | _ => simp [actsOf]
    rw [acts, List.mem_append]
    rintro (hx | hx)
    · exact hfirst hx
    · exact hrest hx

theorem deeds_undrawn {ops : List Op} (h : ∀ op ∈ ops, op.runs = false) (m : Machine) :
    ∀ d ∈ m.deeds ops, d.draws = false := by
  intro d hd
  have hact : d.act ≠ .execute := by
    intro he
    exact execute_not_mem h m (he ▸ act_mem_acts hd)
  exact Bool.eq_false_iff.mpr fun hdraws => hact (Deed.execute_of_draws hdraws)

theorem frame_unsettled (m : Machine) (cycles : Value) :
    ∀ d ∈ m.deeds [.frame cycles], d.act.settles = false := by
  intro d hd
  have hmem := act_mem_acts hd
  rw [acts, acts, List.append_nil, actsOf] at hmem
  split at hmem
  · rcases frameActs_mem hmem with h | h | h <;> rw [h] <;> rfl
  · cases hmem

end Machine

open Machine (Op Deed Pictured wiped lastDrawn news)

namespace Window

/-! ### What a window shows -/

theorem requestOps_runs (b : Batch) (path : Text) :
    ∀ op ∈ b.keyOps ++ b.resetOps path, op.runs = false := by
  intro op hop
  rcases List.mem_append.mp hop with hop | hop
  · obtain ⟨e, -, he⟩ := List.mem_filterMap.mp hop
    cases e with
    | keyDown code =>
      obtain ⟨key, -, rfl⟩ := Option.map_eq_some_iff.mp he
      rfl
    | keyUp code =>
      obtain ⟨key, -, rfl⟩ := Option.map_eq_some_iff.mp he
      rfl
    | focusLost =>
      cases he
      rfl
    | closed => cases he
    | other => cases he
  · unfold Batch.resetOps Cartridge.reloadOps at hop
    split at hop
    · split at hop
      · cases hop
      · simp only [List.mem_cons, List.not_mem_nil, or_false] at hop
        rcases hop with rfl | rfl <;> rfl
    · cases hop

/- If a turn leaves nothing new, then nothing was drawn in it: after its reset there is at most a
frame, and a frame settles nothing. -/
theorem turn_undrawn {w : Window} {b : Batch} {past : List Deed}
    (h : news (past ++ w.machine.deeds (w.turnOps b)) = false) :
    ∀ d ∈ w.machine.deeds (w.turnOps b), d.draws = false := by
  have hrequests := Machine.deeds_undrawn (requestOps_runs b w.cartridgePath) w.machine
  have hframe (m : Machine) (cycles : Value) (paused : Bool) :
      ∀ d ∈ m.deeds (if paused then [] else [.frame cycles]), d.act.settles = false := by
    cases paused with
    | true =>
      intro d hd
      cases hd
    | false => exact Machine.frame_unsettled m cycles
  rw [turnOps, Batch.ops, ← List.append_assoc, Machine.deeds_append] at h ⊢
  rw [← List.append_assoc, Machine.news_append (hframe _ _ _), Bool.or_eq_false_iff,
    List.any_eq_false] at h
  intro d hd
  rcases List.mem_append.mp hd with hd | hd
  · exact hrequests d hd
  · exact Bool.eq_false_iff.mpr (h.1 d hd)

/- A window that waits, with the deeds of its machine so far. -/
structure Waiting (past : List Deed) (w : Window) : Prop where
  controls : w.controls = {}
  pictured : Pictured past w.machine
  taken : news past = false
  shown : w.shown = lastDrawn past

theorem deeds_tickOps (w : Window) (b : Batch) :
    w.machine.deeds (w.tickOps b) =
      w.machine.deeds (w.turnOps b) ++
        if w.pictureDue b then [⟨w.machine.after (w.turnOps b), .consume⟩] else [] := by
  rw [tickOps, Machine.deeds_append]
  split <;> rfl

theorem Waiting.tick {past : List Deed} {w : Window} {b : Batch} (h : Waiting past w)
    (hw : (w.advance b.disk b.events).2.2 = .waits) :
    Waiting (past ++ w.machine.deeds (w.tickOps b)) (w.tick b.disk b.events b.now).1 := by
  have ht := tick_ticked h.controls hw
  have hpictured : Pictured (past ++ w.machine.deeds (w.tickOps b))
      (w.tick b.disk b.events b.now).1.machine := by
    rw [ht.machine]
    exact h.pictured.after _
  have hdue : w.pictureDue b = news (past ++ w.machine.deeds (w.turnOps b)) :=
    congrArg Display.dirty (h.pictured.after (w.turnOps b))
  have hdeeds := deeds_tickOps w b
  cases hd : w.pictureDue b with
  | true =>
    rw [hd] at hdue hdeeds
    rw [if_pos rfl] at hdeeds
    have htaken : news (past ++ w.machine.deeds (w.tickOps b)) = false := by
      rw [hdeeds, ← List.append_assoc, Machine.news_concat]
      rfl
    -- what is new has been drawn since the last reset, so the picture is the drawn one
    have hwiped : wiped (past ++ w.machine.deeds (w.tickOps b)) = false := by
      rw [hdeeds, ← List.append_assoc, Machine.wiped_concat, Machine.not_wiped_of_news hdue.symm]
      rfl
    have hframe := congrArg Display.frame hpictured
    rw [hwiped] at hframe
    refine ⟨ht.controls, hpictured, htaken, ?_⟩
    rw [ht.shown, hd, if_pos rfl]
    exact hframe
  | false =>
    rw [hd] at hdue hdeeds
    rw [if_neg Bool.false_ne_true, List.append_nil] at hdeeds
    have htaken : news (past ++ w.machine.deeds (w.tickOps b)) = false := by
      rw [hdeeds]
      exact hdue.symm
    have hkept : lastDrawn (past ++ w.machine.deeds (w.tickOps b)) = lastDrawn past := by
      rw [hdeeds]
      exact Machine.lastDrawn_append (turn_undrawn hdue.symm) past
    refine ⟨ht.controls, hpictured, htaken, ?_⟩
    rw [ht.shown, hd, if_neg Bool.false_ne_true, h.shown, hkept]

/- All that a window asks of its machine for batch after batch. -/
def playOps (w : Window) : List Batch → List Op
  | [] => []
  | b :: rest => w.tickOps b ++ (w.tick b.disk b.events b.now).1.playOps rest

def history (w : Window) (batches : List Batch) : List Deed :=
  w.machine.deeds (w.playOps batches)

theorem Waiting.play {past : List Deed} {w v : Window} {batches : List Batch}
    (h : Waiting past w) (hp : w.play batches = (v, .waits)) :
    v.machine = w.machine.after (w.playOps batches) ∧
      Waiting (past ++ w.history batches) v := by
  induction batches generalizing past w with
  | nil =>
    cases hp
    refine ⟨rfl, ?_⟩
    rw [history, playOps, Machine.deeds, Machine.acts, Machine.inTurn, List.append_nil]
    exact h
  | cons b rest ih =>
    have hw : (w.advance b.disk b.events).2.2 = .waits := by
      rw [Window.play] at hp
      split at hp
      · assumption
      · exact (Prod.mk.inj hp).2
    rw [play_waits hw] at hp
    obtain ⟨hmachine, hwaiting⟩ := ih (h.tick hw) hp
    have ht := tick_ticked h.controls hw
    rw [history, ht.machine] at hwaiting
    rw [ht.machine] at hmachine
    rw [history, playOps, Machine.after_append, Machine.deeds_append, ← List.append_assoc]
    exact ⟨hmachine, hwaiting⟩

theorem started_waiting {s : WindowSettings} {disk : Disk} {mixer : Mixer} {noise : Noise}
    {kept : Bool} {w : Window} (h : (create s disk mixer noise kept).2 = .ok w) (now : Quantity) :
    Waiting [] (w.started now) := by
  obtain ⟨scale, cycles, m, beeper, -, hboot, rfl⟩ := create_ok h
  have hblank : m.display = .blank := by
    obtain ⟨data, rfl⟩ := Cartridge.boot_ok hboot
    rfl
  have hdisplay : ((fresh s.cartridgePath scale cycles m beeper).started now).machine.display =
      { m.display with dirty := false } := rfl
  refine ⟨rfl, ?_, rfl, ?_⟩
  · rw [Pictured, hdisplay, hblank]
    rfl
  · exact congrArg Display.frame hblank

end Window

/-- Before the first tick of a window and after every tick that gets to its wait, the screen shows
what the last drawing left. That is the picture of the machine unless a reset came after the last
drawing: then the machine is dark, and the screen is right only if that drawing left it dark. -/
theorem screen_shows {s : WindowSettings} {disk : Disk} {mixer : Mixer} {noise : Noise}
    {kept : Bool} {w : Window} (opened : (Window.create s disk mixer noise kept).2 = .ok w)
    {now : Quantity} {batches : List Batch} {v : Window}
    (played : (w.started now).play batches = (v, .waits)) :
    v.machine = (w.started now).machine.after ((w.started now).playOps batches) ∧
      v.shown = lastDrawn ((w.started now).history batches) ∧
      v.machine.display.frame =
        (if wiped ((w.started now).history batches) then .dark
        else lastDrawn ((w.started now).history batches)) ∧
      (v.shown = v.machine.display.frame ↔
        wiped ((w.started now).history batches) = false ∨
          lastDrawn ((w.started now).history batches) = .dark) := by
  obtain ⟨hmachine, hwaiting⟩ := (Window.started_waiting opened now).play played
  rw [List.nil_append] at hwaiting
  have hframe := congrArg Display.frame hwaiting.pictured
  refine ⟨hmachine, hwaiting.shown, hframe, ?_⟩
  rw [hwaiting.shown, hframe]
  cases wiped ((w.started now).history batches) with
  | true => simp
  | false => simp

/-- As long as the pause lasts, the line stays on the screen of a machine that has gone dark. -/
theorem stale_screen :
    (Window.create Window.sketchSettings Window.sketchDisk {} ⟨fun _ => 0, 0⟩ false).2 =
        .ok Window.sketchWindow ∧
      ∃ v, (Window.sketchWindow.started (.whole 0)).play Window.reloadInPause = (v, .waits) ∧
        v.shown ≠ v.machine.display.frame := by
  have hwaits : ((Window.sketchWindow.started (.whole 0)).play Window.reloadInPause).2 =
      .waits := by
    decide +kernel
  -- the corner alone is compared: the kernel is slow on whole pictures
  have hlit : ((Window.sketchWindow.started (.whole 0)).play Window.reloadInPause).1.shown[0] =
      true := by
    decide +kernel
  have hdark : ((Window.sketchWindow.started (.whole 0)).play
      Window.reloadInPause).1.machine.display.frame[0] = false := by
    decide +kernel
  generalize (Window.sketchWindow.started (.whole 0)).play Window.reloadInPause = p
    at hwaits hlit hdark
  obtain ⟨v, progress⟩ := p
  cases hwaits
  refine ⟨Window.sketch_opened, v, rfl, ?_⟩
  intro hsame
  rw [hsame, hdark] at hlit
  cases hlit

def Window.reloadAndResume : List Batch :=
  reloadInPause ++ [⟨.empty, [.keyDown Keyboard.pauseKey], .whole 3⟩]

/-- The pause ends, the line is drawn again, and the screen is right. -/
theorem redrawn_screen :
    (Window.create Window.sketchSettings Window.sketchDisk {} ⟨fun _ => 0, 0⟩ false).2 =
        .ok Window.sketchWindow ∧
      ∃ v, (Window.sketchWindow.started (.whole 0)).play Window.reloadAndResume = (v, .waits) ∧
        v.shown = v.machine.display.frame ∧ v.shown[0] = true := by
  have hwaits : ((Window.sketchWindow.started (.whole 0)).play Window.reloadAndResume).2 =
      .waits := by
    decide +kernel
  have hlit : ((Window.sketchWindow.started (.whole 0)).play Window.reloadAndResume).1.shown[0] =
      true := by
    decide +kernel
  have hwiped : wiped ((Window.sketchWindow.started (.whole 0)).history Window.reloadAndResume) =
      false := by
    decide +kernel
  generalize hp : (Window.sketchWindow.started (.whole 0)).play Window.reloadAndResume = p
    at hwaits hlit
  obtain ⟨v, progress⟩ := p
  cases hwaits
  obtain ⟨-, -, -, hshown⟩ := screen_shows Window.sketch_opened hp
  exact ⟨Window.sketch_opened, v, rfl, hshown.mpr (.inl hwiped), hlit⟩

end Chip8
