import Mathlib.Data.List.Forall2
import Chip8.Machine.Operation

/-!
# What is loaded and what is refused

Anything may be offered as a program. What hands out bytes, and no more of them than fit, is written
from the program start on and touches nothing else; all else is refused for one reason and touches
nothing at all. The reason is the first element that is no byte, and the length only if there is no
such element.
-/

namespace Chip8

/- The values that stand for a byte. -/
inductive Value.StandsFor : Value → UInt8 → Prop
  | int (b : UInt8) : StandsFor (.int b.toNat) b
  | yes : StandsFor (.bool true) 1
  | no : StandsFor (.bool false) 0

/- What is wrong with any other value as an element of a program. -/
inductive Value.Spoils : Value → LoadError → Prop
  | int (n : Int) (hn : n < 0 ∨ 255 < n) : Spoils (.int n) .notByte
  | null : Spoils .null (.notInteger .null)
  | float (x : Float) : Spoils (.float x) (.notInteger (.float x))
  | text (t : Text) : Spoils (.text t) (.notInteger (.text t))
  | list (values : List Value) : Spoils (.list values) (.notInteger (.list values))
  | object (fields : List (Text × Value)) : Spoils (.object fields) (.notInteger (.object fields))

namespace ProgramData

/- What is handed out one after the other. A text could be taken apart as well, but is not. -/
def offered : ProgramData → Option (List Value)
  | bytes data => some (data.map fun b => .int b.toNat)
  | items values => some values
  | value (.list values) => some values
  | value (.object fields) => some (fields.map fun f => .text f.1)
  | value _ => none

def Spells (d : ProgramData) (program : List UInt8) : Prop :=
  ∃ values, d.offered = some values ∧ List.Forall₂ Value.StandsFor values program

/- The reason for which something is refused. An element spoils the program however long it is, if
all elements before it are bytes; the length counts only if all elements are bytes. -/
inductive Refuses : ProgramData → LoadError → Prop
  | int (n : Int) : Refuses (.value (.int n)) (.notSequence (.int n))
  | bool (b : Bool) : Refuses (.value (.bool b)) (.notSequence (.bool b))
  | text (t : Text) : Refuses (.value (.text t)) (.notSequence (.text t))
  | null : Refuses (.value .null) (.notIterable .null)
  | float (x : Float) : Refuses (.value (.float x)) (.notIterable (.float x))
  | element {d : ProgramData} {good rest : List Value} {bad : Value} {e : LoadError}
      (handed : d.offered = some (good ++ bad :: rest))
      (bytes : ∀ v ∈ good, ∃ b, v.StandsFor b) (spoils : bad.Spoils e) : Refuses d e
  | size {d : ProgramData} {program : List UInt8} (spelt : d.Spells program)
      (long : 3584 < program.length) : Refuses d (.tooLong program.length)

/-! ### Elements -/

theorem element_eq_ok_iff (v : Value) (b : UInt8) : element v = .ok b ↔ v.StandsFor b := by
  constructor
  · intro h
    cases v with
    | int n =>
      simp only [element, Value.toInt?] at h
      split at h
      · rename_i hn
        cases h
        have hbyte : n = ((byteOf n).toNat : Int) := by
          rw [byteOf_toNat]
          omega
        rw [hbyte, byteOf_natCast_toNat]
        exact .int _
      · cases h
    | bool b =>
      cases b with
      | false => cases h; exact .no
      | true => cases h; exact .yes
    | _ => cases h
  · intro h
    cases h with
    | int b =>
      have hb := b.toNat_lt
      have hrange : 0 ≤ (b.toNat : Int) ∧ (b.toNat : Int) < 256 := by omega
      simp only [element, Value.toInt?, if_pos hrange, byteOf_natCast_toNat]
    | yes => rfl
    | no => rfl

theorem element_eq_error_iff (v : Value) (e : LoadError) : element v = .error e ↔ v.Spoils e := by
  constructor
  · intro h
    cases v with
    | int n =>
      simp only [element, Value.toInt?] at h
      split at h
      · cases h
      · rename_i hn
        cases h
        exact .int n (by omega)
    | bool b => cases b <;> cases h
    | null => cases h; exact .null
    | float x => cases h; exact .float x
    | text t => cases h; exact .text t
    | list values => cases h; exact .list values
    | object fields => cases h; exact .object fields
  · intro h
    cases h with
    | int n hn =>
      have hrange : ¬(0 ≤ n ∧ n < 256) := by omega
      simp only [element, Value.toInt?, if_neg hrange]
    | _ => rfl

theorem not_spoils {v : Value} {b : UInt8} (h : v.StandsFor b) (e : LoadError) : ¬v.Spoils e := by
  rw [← element_eq_error_iff, (element_eq_ok_iff v b).mpr h]
  nofun

theorem elements_cons_ok {v : Value} {b : UInt8} (h : element v = .ok b) (rest : List Value) :
    elements (v :: rest) = (elements rest).map (b :: ·) := by
  rw [elements, h]
  cases elements rest <;> rfl

theorem elements_cons_error {v : Value} {e : LoadError} (h : element v = .error e)
    (rest : List Value) : elements (v :: rest) = .error e := by
  rw [elements, h]

theorem elements_eq_ok_iff (values : List Value) (program : List UInt8) :
    elements values = .ok program ↔ List.Forall₂ Value.StandsFor values program := by
  induction values generalizing program with
  | nil =>
    rw [elements, List.forall₂_nil_left_iff, Except.ok.injEq]
    exact eq_comm
  | cons v rest ih =>
    rw [List.forall₂_cons_left_iff]
    simp only [← element_eq_ok_iff, ← ih]
    cases hv : element v with
    | error e => simp [elements_cons_error hv]
    | ok b =>
      rw [elements_cons_ok hv]
      cases elements rest with
      | error e => simp [Except.map]
      | ok bs => simp [Except.map, eq_comm]

/-- The first element that is no byte decides. -/
theorem elements_eq_error_iff (values : List Value) (e : LoadError) :
    elements values = .error e ↔ ∃ good bad rest, values = good ++ bad :: rest ∧
      (∀ v ∈ good, ∃ b, v.StandsFor b) ∧ bad.Spoils e := by
  induction values with
  | nil => simp [elements]
  | cons v rest ih =>
    cases hv : element v with
    | error e' =>
      have hspoils := (element_eq_error_iff v e').mp hv
      rw [elements_cons_error hv]
      constructor
      · intro h
        cases h
        exact ⟨[], v, rest, rfl, List.forall_mem_nil _, hspoils⟩
      · rintro ⟨_ | ⟨w, good⟩, bad, later, hvalues, hgood, hbad⟩
        · cases hvalues
          have hsame := (element_eq_error_iff v e).mpr hbad
          rw [hv] at hsame
          cases hsame
          rfl
        · -- the first value is no byte, so there are no good ones before the bad one
          cases hvalues
          obtain ⟨b, hb⟩ := hgood v List.mem_cons_self
          exact absurd hspoils (not_spoils hb e')
    | ok b =>
      have hbyte := (element_eq_ok_iff v b).mp hv
      have hlater : elements (v :: rest) = .error e ↔ elements rest = .error e := by
        rw [elements_cons_ok hv]
        cases elements rest <;> simp [Except.map]
      rw [hlater, ih]
      constructor
      · rintro ⟨good, bad, later, rfl, hgood, hbad⟩
        exact ⟨v :: good, bad, later, rfl, List.forall_mem_cons.mpr ⟨⟨b, hbyte⟩, hgood⟩, hbad⟩
      · rintro ⟨_ | ⟨w, good⟩, bad, later, hvalues, hgood, hbad⟩
        · cases hvalues
          exact absurd hbad (not_spoils hbyte e)
        · cases hvalues
          exact ⟨good, bad, later, rfl, (List.forall_mem_cons.mp hgood).2, hbad⟩

/-! ### Programs -/

theorem toBytes_of_offered {d : ProgramData} {values : List Value} (h : d.offered = some values) :
    d.toBytes = elements values := by
  cases d with
  | bytes data =>
    cases h
    refine ((elements_eq_ok_iff _ data).mpr ?_).symm
    rw [List.forall₂_map_left_iff, List.forall₂_same]
    exact fun b _ => .int b
  | items _ => cases h; rfl
  | value v =>
    cases v with
    | list _ => cases h; rfl
    | object _ => cases h; rfl
    | _ => cases h

theorem toBytes_eq_ok_iff (d : ProgramData) (program : List UInt8) :
    d.toBytes = .ok program ↔ d.Spells program := by
  cases hd : d.offered with
  | some values =>
    rw [toBytes_of_offered hd, elements_eq_ok_iff, Spells, hd]
    simp
  | none =>
    have hnothing : ¬d.Spells program := by
      rintro ⟨values, hvalues, -⟩
      rw [hd] at hvalues
      cases hvalues
    refine iff_of_false ?_ hnothing
    cases d with
    | bytes _ => cases hd
    | items _ => cases hd
    | value v =>
      cases v with
      | list _ => cases hd
      | object _ => cases hd
      | _ => nofun

theorem program_eq_ok_iff (d : ProgramData) (program : List UInt8) :
    d.program = .ok program ↔ d.Spells program ∧ program.length ≤ 3584 := by
  rw [← toBytes_eq_ok_iff, ProgramData.program]
  cases d.toBytes with
  | error e => simp
  | ok bs =>
    dsimp only
    split
    · rename_i hlong
      refine iff_of_false nofun ?_
      rintro ⟨hbs, hshort⟩
      cases hbs
      exact absurd hlong (Nat.not_lt_of_le hshort)
    · rename_i hshort
      constructor
      · intro h
        cases h
        exact ⟨rfl, Nat.le_of_not_lt hshort⟩
      · rintro ⟨hbs, -⟩
        exact hbs

theorem program_eq_error_iff (d : ProgramData) (e : LoadError) :
    d.program = .error e ↔ d.Refuses e := by
  constructor
  · intro h
    cases hd : d.offered with
    | some values =>
      rw [ProgramData.program, toBytes_of_offered hd] at h
      cases hvalues : elements values with
      | error e' =>
        rw [hvalues] at h
        cases h
        obtain ⟨good, bad, rest, rfl, hgood, hbad⟩ := (elements_eq_error_iff values e).mp hvalues
        exact .element hd hgood hbad
      | ok program =>
        rw [hvalues] at h
        dsimp only at h
        split at h
        · rename_i hlong
          cases h
          exact .size ⟨values, hd, (elements_eq_ok_iff values program).mp hvalues⟩ hlong
        · cases h
    | none =>
      cases d with
      | bytes _ => cases hd
      | items _ => cases hd
      | value v =>
        cases v with
        | list _ => cases hd
        | object _ => cases hd
        | int n => cases h; exact .int n
        | bool b => cases h; exact .bool b
        | text t => cases h; exact .text t
        | null => cases h; exact .null
        | float x => cases h; exact .float x
  · intro h
    cases h with
    | element handed bytes spoils =>
      rw [ProgramData.program, toBytes_of_offered handed,
        (elements_eq_error_iff _ e).mpr ⟨_, _, _, rfl, bytes, spoils⟩]
    | size spelt long =>
      rw [ProgramData.program, (toBytes_eq_ok_iff d _).mpr spelt]
      exact if_pos long
    | _ => rfl

end ProgramData

/-! ### Machines -/

namespace Machine

/- A program in place, and nothing else changed. -/
structure Receives (m : Machine) (program : List UInt8) (n : Machine) : Prop where
  placed : ∀ (j : Nat) (b : UInt8), program[j]? = some b → n.memory.get (0x200 + j) = b
  elsewhere : ∀ a : Int, (∀ j : Nat, j < program.length → a % 4096 ≠ 0x200 + j) →
    n.memory.get a = m.memory.get a
  others : n = { m with memory := n.memory }

theorem place_receives (m : Machine) {program : List UInt8} (h : program.length ≤ 3584) :
    Receives m program (m.place program) := by
  have hsize : program.length ≤ 4096 := by omega
  refine ⟨fun j b hj => m.memory.get_write_inside _ hsize hj, ?_, rfl⟩
  intro a ha
  refine m.memory.get_write_outside ?_
  intro j hj
  -- a program that fits does not run past the end of memory
  have hplace : ((0x200 : Int) + j) % 4096 = 0x200 + j := by omega
  exact fun hmod => ha j hj (hmod.trans hplace)

theorem perform_load_ok (m : Machine) {d : ProgramData} {program : List UInt8}
    (h : d.program = .ok program) :
    m.perform (.load d) = ⟨m.place program, [.loaded program.length], .done⟩ := by
  simp only [perform, load, h]

theorem perform_load_error (m : Machine) {d : ProgramData} {e : LoadError}
    (h : d.program = .error e) : m.perform (.load d) = ⟨m, [], .refused (.load e)⟩ := by
  simp only [perform, load, h]

/-- A program is loaded if and only if what is offered hands out bytes, at most 3584 of them; then
they lie from the program start on and nothing else has changed. Otherwise it is refused, for the
first element that is no byte or else for the length, and nothing has changed at all. -/
theorem load_settled (m : Machine) (d : ProgramData) :
    ((m.perform (.load d)).answer = .done ↔
      ∃ program, d.Spells program ∧ program.length ≤ 3584) ∧
    (∀ program, d.Spells program → program.length ≤ 3584 →
      Receives m program (m.perform (.load d)).machine) ∧
    (∀ e, (m.perform (.load d)).answer = .refused (.load e) ↔ d.Refuses e) ∧
    ((m.perform (.load d)).answer ≠ .done →
      (∃ e, (m.perform (.load d)).answer = .refused (.load e)) ∧
        (m.perform (.load d)).machine = m) := by
  simp only [← ProgramData.program_eq_error_iff]
  cases h : d.program with
  | error e =>
    have hnone (program : List UInt8) : ¬(d.Spells program ∧ program.length ≤ 3584) := by
      rw [← ProgramData.program_eq_ok_iff, h]
      nofun
    rw [perform_load_error m h]
    refine ⟨iff_of_false nofun fun ⟨program, hp⟩ => hnone program hp,
      fun program hspelt hfits => absurd ⟨hspelt, hfits⟩ (hnone program), ?_, ?_⟩
    · intro e'
      simp
    · exact fun _ => ⟨⟨e, rfl⟩, rfl⟩
  | ok program =>
    have hspelt := (d.program_eq_ok_iff program).mp h
    rw [perform_load_ok m h]
    refine ⟨iff_of_true rfl ⟨program, hspelt⟩, ?_, ?_, fun hdone => absurd rfl hdone⟩
    · intro other hother hfits
      have hsame := (d.program_eq_ok_iff other).mpr ⟨hother, hfits⟩
      rw [h] at hsame
      cases hsame
      exact place_receives m hfits
    · exact fun e => iff_of_false nofun nofun

def bare : Machine := powerOn ⟨fun _ => 0, 0⟩ true

theorem mixedItems_settled :
    Receives bare [0x60, 1] (bare.perform (.load (.items [.int 0x60, .bool true]))).machine ∧
    (bare.perform (.load (.value (.list [.bool false, .int 256, .null])))).answer =
      .refused (.load .notByte) ∧
    (bare.perform (.load (.value (.list [.bool false, .int 256, .null])))).machine = bare := by
  have hspelt : ProgramData.Spells (.items [.int 0x60, .bool true]) [0x60, 1] :=
    ⟨_, rfl, .cons (.int 0x60) (.cons .yes .nil)⟩
  have hrefused : ProgramData.Refuses (.value (.list [.bool false, .int 256, .null])) .notByte := by
    refine .element (rfl : _ = some ([Value.bool false] ++ Value.int 256 :: [Value.null])) ?_ ?_
    · simpa using ⟨0, .no⟩
    · exact .int 256 (by omega)
  obtain ⟨-, hloads, -, -⟩ := load_settled bare (.items [.int 0x60, .bool true])
  obtain ⟨-, -, hreason, hkept⟩ :=
    load_settled bare (.value (.list [.bool false, .int 256, .null]))
  have hanswer := (hreason .notByte).mpr hrefused
  exact ⟨hloads _ hspelt (by decide), hanswer, (hkept (by rw [hanswer]; nofun)).2⟩

end Machine

end Chip8
