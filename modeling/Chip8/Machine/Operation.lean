import Chip8.Machine.Load
import Chip8.Machine.Run

/-!
# Operations of the host

The things that a host does with a machine, as data, with one function that carries them out. A
refused operation leaves the machine as it was. A run is a list of operations; its signals are those
of the operations, in order.
-/

namespace Chip8.Machine

inductive Op where
  | reset
  | load (data : ProgramData)
  | step
  | frame (cycles : Value)
  | tick
  | setKey (index pressed : Value)
  | releaseKeys
  | consume

inductive Refusal where
  | load (e : LoadError)
  | key (e : Keypad.NoSuchKey)
  | operand (e : OperandError)

inductive Answer where
  | done
  | ran (executed : Bool)
  | count (executed : Nat)
  | picture (frame : Frame)
  | refused (reason : Refusal)

structure Response where
  machine : Machine
  signals : List Signal
  answer : Answer

def perform (m : Machine) : Op → Response
  | .reset => ⟨m.reset, [], .done⟩
  | .load data =>
    match m.load data with
    | .ok r => ⟨r.1, r.2, .done⟩
    | .error e => ⟨m, [], .refused (.load e)⟩
  | .step =>
    let r := m.step
    ⟨r.1, r.2.1, .ran r.2.2⟩
  | .frame cycles =>
    match m.frameOf cycles with
    | .ok r => ⟨r.machine, r.signals, .count r.executed⟩
    | .error e => ⟨m, [], .refused (.operand e)⟩
  | .tick =>
    let r := m.tick
    ⟨r.1, r.2, .done⟩
  | .setKey index pressed =>
    match m.setKey index pressed with
    | .ok m' => ⟨m', [], .done⟩
    | .error e => ⟨m, [], .refused (.key e)⟩
  | .releaseKeys => ⟨m.releaseKeys, [], .done⟩
  | .consume =>
    let r := m.consume
    ⟨r.1, [], .picture r.2⟩

def after (m : Machine) : List Op → Machine
  | [] => m
  | op :: rest => (m.perform op).machine.after rest

def signalsOf (m : Machine) : List Op → List Signal
  | [] => []
  | op :: rest => (m.perform op).signals ++ (m.perform op).machine.signalsOf rest

theorem after_append (m : Machine) (a b : List Op) : m.after (a ++ b) = (m.after a).after b := by
  induction a generalizing m with
  | nil => rfl
  | cons op rest ih => exact ih _

end Chip8.Machine
