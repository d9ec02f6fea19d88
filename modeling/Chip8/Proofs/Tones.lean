import Chip8.Proofs.TimerAccount

/-!
# Tones

A tone comes at the tick that takes the sound timer from one to zero. Over a whole run there is one
tone for each load of the sound timer that has the time to run out before the next load, and none
for anything else.
-/

namespace Chip8.Machine

/-! ### Loads that run out -/

/- The ticks that come before the sound timer is loaded again. -/
def ticksAhead (deeds : List Deed) : Nat :=
  (deeds.takeWhile fun d => (d.load? .sound).isNone).countP (·.act.isTick)

/- One tone if a sound is not silent and as many ticks are left for it. -/
def tonesWithin (ticks sound : Nat) : Nat := if 0 < sound ∧ sound ≤ ticks then 1 else 0

/- How many loads of the sound timer run out. -/
def soundsOver : List Deed → Nat
  | [] => 0
  | d :: ahead =>
    match d.load? .sound with
    | some sound => tonesWithin (ticksAhead ahead) sound.toNat + soundsOver ahead
    | none => soundsOver ahead

theorem tonesWithin_zero (sound : Nat) : tonesWithin 0 sound = 0 := by
  have hnever : ¬(0 < sound ∧ sound ≤ 0) := by omega
  exact if_neg hnever

theorem tonesWithin_silent (ticks : Nat) : tonesWithin ticks 0 = 0 := rfl

/- A tick ends a sound, or leaves one that is shorter by a tick. -/
theorem tonesWithin_succ (ticks sound : Nat) :
    tonesWithin (ticks + 1) sound =
      (if sound = 1 then 1 else 0) + tonesWithin ticks (sound - 1) := by
  by_cases h : sound = 1
  · simp [tonesWithin, h]
  · have hlater : (0 < sound ∧ sound ≤ ticks + 1) ↔ (0 < sound - 1 ∧ sound - 1 ≤ ticks) := by
      omega
    rw [if_neg h, Nat.zero_add]
    simp only [tonesWithin, hlater]

theorem ticksAhead_cons_load {d : Deed} {sound : UInt8} (h : d.load? .sound = some sound)
    (ahead : List Deed) : ticksAhead (d :: ahead) = 0 := by
  rw [ticksAhead, List.takeWhile_cons, h]
  rfl

theorem ticksAhead_cons {d : Deed} (h : d.load? .sound = none) (ahead : List Deed) :
    ticksAhead (d :: ahead) = ticksAhead ahead + if d.act.isTick then 1 else 0 := by
  rw [ticksAhead, List.takeWhile_cons, h]
  exact List.countP_cons

/-! ### What one deed does -/

theorem effect_tones {i : Instruction} {m n : Machine} (h : i.effect m = .ok n) :
    n.tones = m.tones := by
  cases Instruction.effect_outcome h with
  | ret a rest _ _ => rfl
  | call t _ _ => rfl
  | plain _ _ _ _ _ _ _ _ _ _ => rfl

theorem execute_tones (m : Machine) : m.execute.1.tones = m.tones := by
  rcases execute_cases m with ⟨i, n, -, he, hx⟩ | ⟨kind, -, hx⟩
  · have hn : n.tones = m.fetch.tones := effect_tones he
    rw [hx]
    exact hn
  · rw [hx]
    rfl

theorem tick_tones (m : Machine) :
    m.tick.1.tones = m.tones + if m.timers.sound.toNat = 1 then 1 else 0 := by
  have hdue : m.timers.toneDue = true ↔ m.timers.sound.toNat = 1 := by
    rw [Timers.toneDue, decide_eq_true_iff, ← UInt8.toNat_inj]
    rfl
  unfold tick
  by_cases h : m.timers.sound.toNat = 1
  · rw [if_pos (hdue.mpr h), if_pos h]
  · rw [if_neg (mt hdue.mp h), if_neg h]
    rfl

theorem act_tones {m : Machine} {a : Act} (h : a ≠ .reset) :
    (m.act a).tones = m.tones + if a.isTick ∧ m.timers.sound.toNat = 1 then 1 else 0 := by
  cases a with
  | reset => exact absurd rfl h
  | tick => simpa [act, Act.isTick] using tick_tones m
  | execute => simpa [act, Act.isTick] using execute_tones m
  | place _ => simp [act, Act.isTick, place]
  | countFrame => simp [act, Act.isTick, countFrame]
  | keys _ => simp [act, Act.isTick]
  | consume => simp [act, Act.isTick, consume]

theorem isTick_of_load {t : Timer} {d : Deed} {b : UInt8} (h : d.load? t = some b) :
    d.act.isTick = false := by
  obtain ⟨m, a⟩ := d
  cases a with
  | execute => rfl
  | _ => cases h

theorem act_sound {m : Machine} {a : Act} (h : a ≠ .reset) :
    (m.act a).timers.sound.toNat =
      match Deed.load? .sound ⟨m, a⟩ with
      | some sound => sound.toNat
      | none => m.timers.sound.toNat - if a.isTick then 1 else 0 := by
  have hr : a.isReset = false := by
    cases a with
    | reset => exact absurd rfl h
    | _ => rfl
  have hd := deed_timer .sound ⟨m, a⟩
  rw [hr] at hd
  exact hd

/-! ### What a run without resets does -/

/-- The sound on the timer at the start and every sound loaded on the way end in one tone, if they
have the time to. -/
theorem follow_tones {m : Machine} {acts : List Act} (h : .reset ∉ acts) :
    (m.follow acts).tones =
      m.tones + tonesWithin (ticksAhead (m.inTurn acts)) m.timers.sound.toNat +
        soundsOver (m.inTurn acts) := by
  induction acts generalizing m with
  | nil =>
    have hnone : tonesWithin (ticksAhead []) m.timers.sound.toNat = 0 := tonesWithin_zero _
    rw [inTurn, hnone]
    rfl
  | cons a rest ih =>
    rw [List.mem_cons, not_or] at h
    have ha : a ≠ .reset := Ne.symm h.1
    have htones := act_tones (m := m) ha
    have hsound := act_sound (m := m) ha
    rw [follow_cons, ih h.2, htones, inTurn]
    cases hl : Deed.load? .sound ⟨m, a⟩ with
    | some sound =>
      -- the sound before the load is cut off; the loaded one is what the rest begins with
      have htick : a.isTick = false := isTick_of_load hl
      rw [hl] at hsound
      simp [soundsOver, hl, hsound, htick, ticksAhead_cons_load hl, tonesWithin_zero,
        Nat.add_assoc]
    | none =>
      have hahead := ticksAhead_cons hl ((m.act a).inTurn rest)
      rw [hl] at hsound
      cases htick : a.isTick with
      | false => simp [soundsOver, hl, hahead, hsound, htick]
      | true => simp [soundsOver, hl, hahead, hsound, htick, tonesWithin_succ, Nat.add_assoc]

/-! ### What a run does -/

/- The deeds since the last reset, in order. -/
def sinceReset (deeds : List Deed) : List Deed := (lately deeds).reverse

theorem sinceReset_concat (deeds : List Deed) (d : Deed) :
    sinceReset (deeds ++ [d]) = if d.act.isReset then [] else sinceReset deeds ++ [d] := by
  rw [sinceReset, lately_concat]
  split
  · rfl
  · exact List.reverse_cons

/-- The deeds since the last reset lead to a machine, from one without tones and without sound. -/
def LeadsTo (past : List Deed) (m : Machine) : Prop :=
  ∃ (start : Machine) (acts : List Act),
    start.tones = 0 ∧ start.timers.sound = 0 ∧ .reset ∉ acts ∧
    sinceReset past = start.inTurn acts ∧ start.follow acts = m

theorem LeadsTo.act {past : List Deed} {m : Machine} (h : LeadsTo past m) (a : Act) :
    LeadsTo (past ++ [⟨m, a⟩]) (m.act a) := by
  obtain ⟨start, acts, htones, hsound, hacts, hpast, rfl⟩ := h
  cases hr : a.isReset with
  | true =>
    refine ⟨(start.follow acts).act a, [], ?_, ?_, List.not_mem_nil, ?_, rfl⟩
    · cases a with
      | reset => rfl
      | _ => cases hr
    · cases a with
      | reset => rfl
      | _ => cases hr
    · rw [sinceReset_concat]
      exact if_pos hr
  | false =>
    refine ⟨start, acts ++ [a], htones, hsound, ?_, ?_, ?_⟩
    · rw [List.mem_append, not_or]
      refine ⟨hacts, ?_⟩
      intro ha
      rw [← List.mem_singleton.mp ha] at hr
      cases hr
    · rw [sinceReset_concat, hpast, inTurn_append]
      exact if_neg (by simp [hr])
    · rw [follow_append]
      rfl

theorem LeadsTo.tones {past : List Deed} {m : Machine} (h : LeadsTo past m) :
    m.tones = soundsOver (sinceReset past) := by
  obtain ⟨start, acts, htones, hsound, hacts, hpast, rfl⟩ := h
  have hsilent : start.timers.sound.toNat = 0 := congrArg UInt8.toNat hsound
  rw [follow_tones hacts, htones, hsilent, tonesWithin_silent, hpast]
  exact Nat.zero_add _

theorem powerOn_leadsTo (noise : Noise) (coupled : Bool) : LeadsTo [] (powerOn noise coupled) :=
  ⟨powerOn noise coupled, [], rfl, rfl, List.not_mem_nil, rfl, rfl⟩

/-! ### Tones that the host hears -/

theorem move_tones {m n : Machine} {s : List Signal} (move : Move m s n) :
    n.tones = m.tones + s.count .tone := by
  cases move with
  | execute _ =>
    have hnone : m.execute.2.count .tone = 0 := by
      rcases execute_cases m with ⟨i, p, -, -, hx⟩ | ⟨kind, -, hx⟩
      · rw [hx]
        rfl
      · rw [hx]
        rfl
    rw [hnone]
    exact execute_tones m
  | tick =>
    unfold tick
    split <;> rfl
  | place _ => rfl
  | countFrame => rfl
  | keys _ => rfl
  | consume => rfl

theorem tones_carried : Carried fun m past => m.tones = past.count .tone := by
  intro m n s past move hm
  rw [move_tones move, hm, List.count_append]

/-- After every run the tones that are counted, and the tones that the host was told of, are as many
as there are loads of the sound timer since the last reset that ran out. Each comes at the tick at
which the latest load has run out, and nothing else brings one. -/
theorem run_tones (noise : Noise) (coupled : Bool) (ops : List Op) :
    ((powerOn noise coupled).after ops).tones =
        soundsOver (sinceReset ((powerOn noise coupled).deeds ops)) ∧
      ((powerOn noise coupled).recent [] ops).count .tone =
        soundsOver (sinceReset ((powerOn noise coupled).deeds ops)) ∧
      ∀ past d later, (powerOn noise coupled).deeds ops = past ++ d :: later →
        (d.after.tones = d.before.tones + 1 ↔
          d.act.isTick ∧ lastLoad .sound past = ticksSince .sound past + 1) := by
  have hrun : ((powerOn noise coupled).after ops).tones =
      soundsOver (sinceReset ((powerOn noise coupled).deeds ops)) := by
    have hlead := after_keeps (P := LeadsTo) (fun _ _ a h => h.act a)
      (powerOn_leadsTo noise coupled) ops
    exact hlead.tones
  have hheard := after_recent (P := fun m past => m.tones = past.count .tone)
    (fun _ _ => rfl) tones_carried (powerOn noise coupled) [] rfl ops
  refine ⟨hrun, hheard.symm.trans hrun, ?_⟩
  intro past d later hcut
  obtain ⟨before, rest, -, rfl, hrest⟩ := inTurn_eq_append hcut
  obtain ⟨a, rest, -, rfl, -⟩ := inTurn_eq_cons hrest.symm
  have hsound : ((powerOn noise coupled).follow before).timers.sound.toNat =
      lastLoad .sound ((powerOn noise coupled).inTurn before) -
        ticksSince .sound ((powerOn noise coupled).inTurn before) := by
    have hstart : (powerOn noise coupled).timers.sound.toNat =
        lastLoad .sound [] - ticksSince .sound [] := rfl
    exact inTurn_timer .sound before hstart
  by_cases ha : a = .reset
  · subst ha
    simp [Deed.after, act, Act.isTick, reset]
  · have hdue : ((powerOn noise coupled).follow before).timers.sound.toNat = 1 ↔
        lastLoad .sound ((powerOn noise coupled).inTurn before) =
          ticksSince .sound ((powerOn noise coupled).inTurn before) + 1 := by
      omega
    rw [Deed.after, act_tones ha, Nat.add_left_cancel_iff, ← hdue]
    simp

end Chip8.Machine
