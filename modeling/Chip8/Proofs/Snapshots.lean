import Chip8.Proofs.Screen

/-!
# Snapshots

A host that takes the picture only when the machine notes that it is new holds the current picture
all the time, up to resets: as long as the note is down, the picture is the one that was last handed
out, however long ago that was. The note goes up at drawings and down when the picture is taken or
the machine is reset, and at no other moment.
-/

namespace Chip8

open Instruction (decode?)
open Word (ofDigits)

namespace Machine

/-! ### Words that draw -/

/- `00E0` and `Dxyn`, with any height. -/
inductive IsDrawing : Word → Prop
  | clear : IsDrawing (ofDigits 0x0 0x0 0xE 0x0)
  | draw (x y height : Fin 16) : IsDrawing (ofDigits 0xD x y height)

theorem decode?_draws (w : Word) : (decode? w).any Instruction.draws = true ↔ IsDrawing w := by
  rw [Option.any_eq_true]
  constructor
  · rintro ⟨i, hi, hdraws⟩
    rw [Instruction.decode?_eq_some_iff] at hi
    rw [← hi]
    cases i with
    | clear => exact .clear
    | draw x y height => exact .draw x y height
    | _ => cases hdraws
  · intro h
    cases h with
    | clear => exact ⟨.clear, Instruction.decode?_encode .clear, rfl⟩
    | draw x y height => exact ⟨_, Instruction.decode?_encode (.draw x y height), rfl⟩

theorem Deed.draws_iff (d : Deed) :
    d.draws = true ↔ d.act = .execute ∧ IsDrawing d.before.nextWord := by
  obtain ⟨m, a⟩ := d
  cases a with
  | execute =>
    have hword := decode?_draws m.nextWord
    exact ⟨fun h => ⟨rfl, hword.mp h⟩, fun h => hword.mpr h.2⟩
  | _ => simp [Deed.draws]

theorem Act.settles_iff (a : Act) : a.settles = true ↔ a = .consume ∨ a = .reset := by
  cases a <;> simp [Act.settles]

/-! ### The note and the picture -/

/- When the note goes up, and when it goes down. -/
structure Deed.Notes (d : Deed) : Prop where
  up : d.before.display.dirty = false →
    (d.after.display.dirty = true ↔ d.act = .execute ∧ IsDrawing d.before.nextWord)
  down : d.before.display.dirty = true →
    (d.after.display.dirty = false ↔ d.act = .consume ∨ d.act = .reset)

theorem deed_dirty (d : Deed) :
    d.after.display.dirty = (d.draws || (!d.act.settles && d.before.display.dirty)) := by
  have hdirty := congrArg Display.dirty (deed_display d)
  cases hd : d.draws with
  | true =>
    rw [hd, Deed.execute_of_draws hd] at hdirty
    exact hdirty
  | false =>
    rw [hd] at hdirty
    cases ha : d.act with
    | reset =>
      rw [ha] at hdirty
      exact hdirty
    | _ =>
      rw [ha] at hdirty
      exact hdirty

theorem Deed.notes (d : Deed) : d.Notes := by
  have hdirty := deed_dirty d
  constructor
  · intro hdown
    rw [hdirty, hdown, Bool.and_false, Bool.or_false, Deed.draws_iff]
  · intro hup
    rw [hdirty, hup, Bool.and_true, Bool.or_eq_false_iff, Bool.not_eq_false', Act.settles_iff]
    constructor
    · exact fun h => h.2
    · intro hact
      refine ⟨Bool.eq_false_iff.mpr ?_, hact⟩
      intro hdraws
      rw [Deed.execute_of_draws hdraws] at hact
      rcases hact with hact | hact <;> cases hact

theorem deed_unnoted {d : Deed} (hs : d.act.settles = false)
    (clean : d.after.display.dirty = false) : d.after.display = d.before.display := by
  have hdirty := deed_dirty d
  rw [clean, eq_comm, Bool.or_eq_false_iff] at hdirty
  have hreset : d.act.isReset = false := by
    cases ha : d.act with
    | reset =>
      rw [ha] at hs
      cases hs
    | _ => rfl
  have hdisplay := deed_display d
  rw [hreset, hdirty.1, hs] at hdisplay
  exact hdisplay

/-- Acts that neither take the picture nor reset the machine, and after which the note is down, have
left the display alone. -/
theorem follow_display {m : Machine} {acts : List Act} (h : ∀ a ∈ acts, a.settles = false)
    (clean : (m.follow acts).display.dirty = false) : (m.follow acts).display = m.display := by
  induction acts generalizing m with
  | nil => rfl
  | cons a rest ih =>
    rw [List.forall_mem_cons] at h
    rw [follow_cons] at clean ⊢
    have hrest := ih h.2 clean
    -- a drawing would have raised the note, and nothing later could have lowered it
    have hfirst : (m.act a).display.dirty = false := by
      rw [← hrest]
      exact clean
    exact hrest.trans (deed_unnoted (d := ⟨m, a⟩) h.1 hfirst)

/-- At every moment of a run: if the note is down and there was no reset since the picture was last
taken, the picture is the one that was handed out then. What happens next raises the note if and
only if it is an instruction `00E0` or `Dxyn`, and lowers it if and only if the picture is taken or
the machine is reset. -/
theorem run_dirty (noise : Noise) (coupled : Bool) {ops : List Op} {past rest : List Deed}
    (cut : (powerOn noise coupled).deeds ops = past ++ rest) {m : Machine}
    (now : (powerOn noise coupled).standing past = m) :
    (rest = [] → (powerOn noise coupled).after ops = m) ∧
    (m.display.dirty = false → ∀ before taken since, past = before ++ taken :: since →
      taken.act = .consume → (∀ d ∈ since, d.act ≠ .consume ∧ d.act ≠ .reset) →
      (taken.before.perform .consume).answer = .picture m.display.frame) ∧
    ∀ next later, rest = next :: later → next.before = m ∧ next.Notes := by
  refine ⟨?_, ?_, ?_⟩
  · rintro rfl
    rw [← now, ← standing_deeds, cut, List.append_nil]
  · intro clean before taken since hpast htaken hsince
    have hbefore : (powerOn noise coupled).standing before = taken.before := by
      rw [hpast, List.append_assoc] at cut
      exact standing_before cut
    have hm : m = taken.before.consume.1.follow (since.map Deed.act) := by
      rw [← now, hpast, standing, List.map_append, List.map_cons, follow_append, follow_cons,
        htaken, ← hbefore]
      rfl
    have hquiet : ∀ a ∈ since.map Deed.act, a.settles = false := by
      intro a ha
      obtain ⟨d, hd, rfl⟩ := List.mem_map.mp ha
      rw [Bool.eq_false_iff, ne_eq, Act.settles_iff, not_or]
      exact hsince d hd
    rw [hm] at clean ⊢
    rw [follow_display hquiet clean]
    rfl
  · rintro next later rfl
    exact ⟨(standing_before cut).symm.trans now, next.notes⟩

/- A line is drawn and taken; the word after it is no instruction. -/
def drawAndTake : List Op := [.load (.bytes [0xD0, 0x01]), .step, .consume, .step]

def beforeLine : Machine := unloaded.place [0xD0, 0x01]

def afterLine : Machine := beforeLine.execute.1

theorem drawAndTake_deeds :
    unloaded.deeds drawAndTake =
      [⟨unloaded, .place [0xD0, 0x01]⟩, ⟨beforeLine, .execute⟩] ++
        ⟨afterLine, .consume⟩ :: [⟨afterLine.consume.1, .execute⟩] := by
  have hstep {m : Machine} (hlive : m.halted = false) (hc : m.coupled = false) :
      m.actsOf .step = [.execute] := by
    rw [actsOf, hlive, advanceActs, hc]
    rfl
  have hlive : afterLine.consume.1.halted = false := by decide +kernel
  have hc : afterLine.consume.1.coupled = false := by decide +kernel
  have hdrawn : (beforeLine.perform .step).machine = afterLine := by
    rw [← follow_actsOf, hstep rfl rfl]
    rfl
  have hload : (unloaded.perform (.load (.bytes [0xD0, 0x01]))).machine = beforeLine := rfl
  have htake : (afterLine.perform .consume).machine = afterLine.consume.1 := rfl
  rw [drawAndTake, deeds_cons, hload, deeds_cons, hdrawn, hstep rfl rfl, deeds_cons, htake,
    deeds_cons, hstep hlive hc]
  rfl

/-- The line that was handed out is still the picture after an instruction that is skipped. -/
theorem taken_line :
    afterLine.display.dirty = true ∧ (unloaded.after drawAndTake).display.dirty = false ∧
      (afterLine.perform .consume).answer =
        .picture (unloaded.after drawAndTake).display.frame := by
  have hraised : afterLine.display.dirty = true := by decide +kernel
  have hstanding : unloaded.standing (unloaded.deeds drawAndTake) =
      afterLine.consume.1.execute.1 := by
    rw [drawAndTake_deeds]
    rfl
  have hclean : afterLine.consume.1.execute.1.display.dirty = false := by decide +kernel
  obtain ⟨hafter, hpicture, -⟩ :=
    run_dirty ⟨fun _ => 0, 0⟩ false (List.append_nil (unloaded.deeds drawAndTake)).symm hstanding
  have hend : unloaded.after drawAndTake = afterLine.consume.1.execute.1 := hafter rfl
  have htaken := hpicture hclean _ _ _ drawAndTake_deeds rfl (by simp)
  dsimp only at htaken
  rw [hend]
  exact ⟨hraised, hclean, htaken⟩

end Machine

end Chip8
