import Chip8.Machine.Operation

/-!
# Trails

Every operation of a host is a chain of elementary changes: an instruction, a tick, a program put
into memory, a frame counted, the keypad replaced, the picture taken. A reset is no such change: it
starts a new history. What each change preserves is therefore preserved by every run, and what is
said of the signals of a change can be said of all signals since the last reset.
-/

namespace Chip8.Machine

/-! ### Elementary changes -/

/-- An elementary change of a machine, with its signals. -/
inductive Move : Machine → List Signal → Machine → Prop
  | execute (m : Machine) (live : m.halted = false) : Move m m.execute.2 m.execute.1
  | tick (m : Machine) : Move m m.tick.2 m.tick.1
  | place (m : Machine) (program : List UInt8) : Move m [.loaded program.length] (m.place program)
  | countFrame (m : Machine) : Move m [] m.countFrame
  | keys (m : Machine) (keypad : Keypad) : Move m [] { m with keypad := keypad }
  | consume (m : Machine) : Move m [] m.consume.1

/-- A chain of elementary changes, with all its signals in order. -/
inductive Trail : Machine → List Signal → Machine → Prop
  | refl (m : Machine) : Trail m [] m
  | head {m n p : Machine} {s t : List Signal} (h : Move m s n) (r : Trail n t p) :
      Trail m (s ++ t) p

theorem Trail.one {m n : Machine} {s : List Signal} (h : Move m s n) : Trail m s n := by
  have hr := Trail.head h (.refl n)
  rwa [List.append_nil] at hr

theorem Trail.trans {m n p : Machine} {s t : List Signal} (h : Trail m s n) (r : Trail n t p) :
    Trail m (s ++ t) p := by
  induction h with
  | refl m => exact r
  | head h _ ih =>
    rw [List.append_assoc]
    exact .head h (ih r)

/-- A property of machines and signals so far that every elementary change carries on. -/
def Carried (P : Machine → List Signal → Prop) : Prop :=
  ∀ {m n : Machine} {s : List Signal} (past : List Signal), Move m s n → P m past → P n (past ++ s)

theorem Trail.carries {P : Machine → List Signal → Prop} (carried : Carried P) {m n : Machine}
    {s : List Signal} (h : Trail m s n) (past : List Signal) (hm : P m past) :
    P n (past ++ s) := by
  induction h generalizing past with
  | refl m =>
    rw [List.append_nil]
    exact hm
  | head h _ ih =>
    rw [← List.append_assoc]
    exact ih _ (carried past h hm)

/-! ### Operations as chains -/

theorem advance_trail (m : Machine) (live : m.halted = false) :
    Trail m m.advance.2 m.advance.1 := by
  have he : Trail m m.execute.2 m.execute.1 := .one (.execute m live)
  simp only [advance]
  split
  · exact he.trans (.one (.tick m.execute.1))
  · exact he

theorem steps_trail (m : Machine) (n : Nat) : Trail m (m.steps n).signals (m.steps n).machine := by
  induction n generalizing m with
  | zero => exact .refl m
  | succ n ih =>
    rw [steps]
    split
    · exact .refl m
    · rename_i hm
      have live : m.halted = false := by simpa using hm
      exact (advance_trail m live).trans (ih m.advance.1)

theorem frame_trail (m : Machine) (cycles : Int) :
    Trail m (m.frame cycles).signals (m.frame cycles).machine := by
  have hs := steps_trail m cycles.toNat
  rw [frame]
  split
  · exact .refl m
  · dsimp only
    split
    · have hc := hs.trans (.one (.countFrame _))
      rwa [List.append_nil] at hc
    · have ht := hs.trans (.one (.tick (m.steps cycles.toNat).machine))
      have hc := ht.trans (.one (.countFrame _))
      rwa [List.append_nil] at hc

theorem load_trail {m n : Machine} {d : ProgramData} {s : List Signal}
    (h : m.load d = .ok (n, s)) : Trail m s n := by
  unfold load at h
  split at h
  · cases h
  · cases h
    exact .one (.place m _)

theorem setKey_trail {m n : Machine} {index pressed : Value}
    (h : m.setKey index pressed = .ok n) : Trail m [] n := by
  unfold setKey at h
  split at h
  · cases h
    exact .one (.keys m _)
  · cases h

theorem frameOf_trail {m : Machine} {cycles : Value} {r : Run} (h : m.frameOf cycles = .ok r) :
    Trail m r.signals r.machine := by
  unfold frameOf at h
  split at h
  · cases h
    exact .refl m
  · cases hc : cycles.count with
    | error e =>
      rw [hc] at h
      cases h
    | ok n =>
      rw [hc] at h
      cases h
      exact frame_trail m n

/-- Whatever a host asks for apart from a reset is a chain of elementary changes. -/
theorem perform_trail (m : Machine) (op : Op) (h : op ≠ .reset) :
    Trail m (m.perform op).signals (m.perform op).machine := by
  cases op with
  | reset => exact absurd rfl h
  | load data =>
    rw [perform]
    split
    · rename_i r hr
      exact load_trail hr
    · exact .refl m
  | step =>
    simp only [perform, step]
    split
    · exact .refl m
    · rename_i hm
      exact advance_trail m (by simpa using hm)
  | frame cycles =>
    rw [perform]
    split
    · rename_i r hr
      exact frameOf_trail hr
    · exact .refl m
  | tick => exact .one (.tick m)
  | setKey index pressed =>
    rw [perform]
    split
    · rename_i n hn
      exact setKey_trail hn
    · exact .refl m
  | releaseKeys => exact .one (.keys m _)
  | consume => exact .one (.consume m)

/-! ### Histories -/

/-- The signals since the last reset, after some more operations. -/
def recent (m : Machine) (past : List Signal) : List Op → List Signal
  | [] => past
  | .reset :: rest => (m.perform .reset).machine.recent [] rest
  | op :: rest => (m.perform op).machine.recent (past ++ (m.perform op).signals) rest

/-- What holds of a machine just switched on, without signals, and is carried on by every elementary
change, holds after every run of its signals since the last reset. -/
theorem after_recent {P : Machine → List Signal → Prop}
    (start : ∀ noise coupled, P (powerOn noise coupled) []) (carried : Carried P) (m : Machine)
    (past : List Signal) (hm : P m past) (ops : List Op) :
    P (m.after ops) (m.recent past ops) := by
  induction ops generalizing m past with
  | nil => exact hm
  | cons op rest ih =>
    -- a reset starts a new history; any other operation prolongs the one there is
    by_cases hop : op = .reset
    · subst hop
      refine ih _ _ ?_
      show P m.reset []
      rw [reset_eq]
      exact start m.noise m.coupled
    · have hr : m.recent past (op :: rest) =
          (m.perform op).machine.recent (past ++ (m.perform op).signals) rest := by
        cases op with
        | reset => exact absurd rfl hop
        | _ => rfl
      rw [hr]
      exact ih _ _ ((perform_trail m op hop).carries carried past hm)

/-- A machine that some run leads to from power-on. -/
def Reachable (m : Machine) : Prop :=
  ∃ noise coupled ops, (powerOn noise coupled).after ops = m

/-- An invariant: it holds at power-on and every elementary change keeps it. -/
theorem Reachable.invariant {P : Machine → Prop}
    (start : ∀ noise coupled, P (powerOn noise coupled))
    (keep : ∀ {m n : Machine} {s : List Signal}, Move m s n → P m → P n) {m : Machine}
    (h : Reachable m) : P m := by
  obtain ⟨noise, coupled, ops, rfl⟩ := h
  exact after_recent (P := fun n _ => P n) start (fun _ => keep) _ [] (start noise coupled) ops

end Chip8.Machine
