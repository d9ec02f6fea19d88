import Chip8.Beeper.ToneDevice
import Mathlib.Data.List.Basic

/-!
# The beeper and its mixer

A `Desk` is what can be told of a mixer from the calls that it has got: whether it is open, how many
sounds it holds, and whether the latest call was a stop. However a device was set up, the calls of
its set-up and of any run of requests are in order on the desk: sounds are stopped and played only
while the mixer is open and holds one, each play comes right after a stop, and nothing comes after a
shutdown.
-/

namespace Chip8

namespace ToneDevice

/- All that the set-up of a device depends on. An open mixer reports three integers, and its loader
may make anything of a wave file. -/
structure Surroundings where
  enabled : Bool
  opened : Option MixerFormat
  failure : Option Text
  actual : Option MixerFormat
  hear : Disk → Text → Hearing
  file : Option SoundFile
  disk : Disk
  kept : Bool

namespace Surroundings

def mixer (s : Surroundings) : Mixer :=
  ⟨s.opened, s.failure, s.actual.map MixerFormat.reported, s.hear⟩

def setup (s : Surroundings) : Setup := start s.mixer s.disk s.enabled s.kept s.file

def reported (s : Surroundings) : MixerFormat := s.actual.getD format

theorem mixer_reported (s : Surroundings) : s.mixer.reported = s.reported.reported := by
  unfold mixer Mixer.reported reported
  cases s.actual <;> rfl

theorem mixer_hear (s : Surroundings) : s.mixer.hear = s.hear := rfl

def loads (s : Surroundings) : SoundFile → Bool
  | .path path => s.hear s.disk path = .good
  | .unnamed => false

end Surroundings

/-! ### The desk -/

structure Desk where
  isOpen : Bool
  sounds : Nat
  stopped : Bool

namespace Desk

/- A mixer that is opened or closed holds no sound; a file that does not load adds none. -/
def hears (s : Surroundings) (k : Desk) : MixerCall → Desk
  | .quit => ⟨false, 0, false⟩
  | .init _ _ => ⟨s.failure.isNone, 0, false⟩
  | .sound file => ⟨k.isOpen, if s.loads file then k.sounds + 1 else k.sounds, false⟩
  | .buffer _ => ⟨k.isOpen, k.sounds + 1, false⟩
  | .stop => ⟨k.isOpen, k.sounds, true⟩
  | .play => ⟨k.isOpen, k.sounds, false⟩

def after (s : Surroundings) (k : Desk) (calls : List MixerCall) : Desk := calls.foldl (hears s) k

theorem after_append (s : Surroundings) (k : Desk) (first second : List MixerCall) :
    k.after s (first ++ second) = (k.after s first).after s second := List.foldl_append

/- The mixer is open and there is one sound to be played. -/
def Sounding (k : Desk) : Prop := k.isOpen = true ∧ k.sounds = 1

def Allows (k : Desk) : MixerCall → Prop
  | .stop => k.Sounding
  | .play => k.Sounding ∧ k.stopped = true
  | _ => True

def Orderly (s : Surroundings) (k : Desk) : List MixerCall → Prop
  | [] => True
  | call :: rest => k.Allows call ∧ Orderly s (k.hears s call) rest

theorem orderly_append (s : Surroundings) (k : Desk) (first second : List MixerCall) :
    k.Orderly s (first ++ second) ↔ k.Orderly s first ∧ (k.after s first).Orderly s second := by
  induction first generalizing k with
  | nil => simp [Orderly, after]
  | cons call rest ih =>
    show k.Allows call ∧ Orderly s (k.hears s call) (rest ++ second) ↔ _
    rw [ih, ← and_assoc]
    rfl

theorem Orderly.allows {s : Surroundings} {k : Desk} {before rest : List MixerCall}
    {call : MixerCall} (h : k.Orderly s (before ++ call :: rest)) :
    (k.after s before).Allows call :=
  ((orderly_append s k before _).mp h).2.1

theorem stopped_after {s : Surroundings} {k : Desk} (hk : k.stopped = false)
    {calls : List MixerCall} (h : (k.after s calls).stopped = true) :
    ∃ earlier, calls = earlier ++ [.stop] := by
  rcases List.eq_nil_or_concat calls with rfl | ⟨earlier, call, rfl⟩
  · rw [after, List.foldl_nil, hk] at h
    cases h
  · rw [List.concat_eq_append, after_append] at h
    cases call with
    | stop => exact ⟨earlier, List.concat_eq_append⟩
    | _ => cases h

end Desk

/- The desk that a device finds. -/
def Surroundings.desk (s : Surroundings) : Desk := ⟨s.opened.isSome, 0, false⟩

/-! ### Requests -/

inductive Request where
  | play
  | shutdown
  deriving DecidableEq

def answer (t : ToneDevice) : Request → ToneDevice × List MixerCall
  | .play => t.play
  | .shutdown => t.shutdown

def serve (t : ToneDevice) : List Request → ToneDevice × List MixerCall
  | [] => (t, [])
  | r :: rest => (((t.answer r).1.serve rest).1, (t.answer r).2 ++ ((t.answer r).1.serve rest).2)

theorem serve_append (t : ToneDevice) (first second : List Request) :
    t.serve (first ++ second) = (((t.serve first).1.serve second).1,
      (t.serve first).2 ++ ((t.serve first).1.serve second).2) := by
  induction first generalizing t with
  | nil => rfl
  | cons r rest ih =>
    simp only [List.cons_append, serve, ih, List.append_assoc]

theorem serve_beeps (t : ToneDevice) (rs : List Request) :
    (t.serve rs).1.beeps = t.beeps + rs.count .play := by
  induction rs generalizing t with
  | nil => rfl
  | cons r rest ih =>
    rw [serve, ih]
    cases r with
    | play =>
      rw [List.count_cons_self]
      show t.beeps + 1 + _ = _
      omega
    | shutdown =>
      rw [List.count_cons_of_ne (by decide)]
      rfl

theorem play_unready {t : ToneDevice} (h : t.ready = false) : t.play.2 = [] := by
  simp [ToneDevice.play, h]

theorem shutdown_closed {t : ToneDevice} (hready : t.ready = false) (hopen : t.mixerOpen = false) :
    t.shutdown.2 = [] := by
  simp [ToneDevice.shutdown, hready, hopen]

/- What a device knows of its mixer is right: its sound is the one that the open mixer holds. -/
structure Attuned (t : ToneDevice) (k : Desk) : Prop where
  mixer : t.mixerOpen = k.isOpen
  sound : t.ready = true → t.enabled = true ∧ k.Sounding

theorem Attuned.play {s : Surroundings} {t : ToneDevice} {k : Desk} (h : Attuned t k) :
    k.Orderly s t.play.2 ∧ Attuned t.play.1 (k.after s t.play.2) := by
  cases hready : t.ready with
  | false =>
    rw [play_unready hready]
    exact ⟨trivial, h.mixer, h.sound⟩
  | true =>
    obtain ⟨henabled, hsounding⟩ := h.sound hready
    have hcalls : t.play.2 = [.stop, .play] := by
      simp only [ToneDevice.play, hready, henabled, Bool.and_self, if_true]
    rw [hcalls]
    exact ⟨⟨hsounding, ⟨hsounding, rfl⟩, trivial⟩, h.mixer, fun _ => ⟨henabled, hsounding⟩⟩

theorem Attuned.shutdown {s : Surroundings} {t : ToneDevice} {k : Desk} (h : Attuned t k) :
    k.Orderly s t.shutdown.2 ∧ Attuned t.shutdown.1 (k.after s t.shutdown.2) := by
  have hmixer := h.mixer
  cases hready : t.ready with
  | false =>
    cases hopen : t.mixerOpen with
    | false =>
      rw [shutdown_closed hready hopen]
      exact ⟨trivial, hopen.symm.trans hmixer, nofun⟩
    | true =>
      have hcalls : t.shutdown.2 = [.quit] := by simp [ToneDevice.shutdown, hready, hopen]
      rw [hcalls]
      exact ⟨⟨trivial, trivial⟩, rfl, nofun⟩
  | true =>
    obtain ⟨-, hsounding⟩ := h.sound hready
    have hopen : t.mixerOpen = true := hmixer.trans hsounding.1
    have hcalls : t.shutdown.2 = [.stop, .quit] := by simp [ToneDevice.shutdown, hready, hopen]
    rw [hcalls]
    exact ⟨⟨hsounding, trivial, trivial⟩, rfl, nofun⟩

theorem Attuned.serve {s : Surroundings} {t : ToneDevice} {k : Desk} (h : Attuned t k)
    (rs : List Request) : k.Orderly s (t.serve rs).2 ∧
      Attuned (t.serve rs).1 (k.after s (t.serve rs).2) := by
  induction rs generalizing t k with
  | nil => exact ⟨trivial, h⟩
  | cons r rest ih =>
    have hstep : k.Orderly s (t.answer r).2 ∧
        Attuned (t.answer r).1 (k.after s (t.answer r).2) := by
      cases r with
      | play => exact h.play
      | shutdown => exact h.shutdown
    obtain ⟨horder, hattuned⟩ := hstep
    obtain ⟨hrest, hend⟩ := ih hattuned
    rw [ToneDevice.serve, Desk.after_append]
    exact ⟨(Desk.orderly_append s k _ _).mpr ⟨horder, hrest⟩, hend⟩

theorem serve_ready {t : ToneDevice} {rs : List Request} (h : .shutdown ∉ rs) :
    (t.serve rs).1.ready = t.ready := by
  induction rs generalizing t with
  | nil => rfl
  | cons r rest ih =>
    cases r with
    | play => exact ih (List.not_mem_of_not_mem_cons h)
    | shutdown => exact absurd List.mem_cons_self h

/- A device that has been shut down has nothing left to ask for. -/
theorem serve_silent {t : ToneDevice} (hready : t.ready = false) (hopen : t.mixerOpen = false)
    (rs : List Request) : (t.serve rs).2 = [] ∧ (t.serve rs).1.mixerOpen = false := by
  induction rs generalizing t with
  | nil => exact ⟨rfl, hopen⟩
  | cons r rest ih =>
    cases r with
    | play =>
      obtain ⟨hcalls, hclosed⟩ := ih (t := t.play.1) hready hopen
      refine ⟨?_, hclosed⟩
      show t.play.2 ++ (t.play.1.serve rest).2 = []
      rw [hcalls, play_unready hready, List.append_nil]
    | shutdown =>
      obtain ⟨hcalls, hclosed⟩ := ih (t := t.shutdown.1) rfl rfl
      refine ⟨?_, hclosed⟩
      show t.shutdown.2 ++ (t.shutdown.1.serve rest).2 = []
      rw [hcalls, shutdown_closed hready hopen, List.append_nil]

theorem serve_shutdown (t : ToneDevice) (before rest : List Request) :
    (t.serve (before ++ .shutdown :: rest)).2 = (t.serve (before ++ [.shutdown])).2 ∧
      (t.serve (before ++ .shutdown :: rest)).1.mixerOpen = false := by
  obtain ⟨hcalls, hclosed⟩ := serve_silent (t := (t.serve before).1.shutdown.1) rfl rfl rest
  rw [serve_append, serve_append]
  refine ⟨?_, hclosed⟩
  show _ ++ (_ ++ ((t.serve before).1.shutdown.1.serve rest).2) = _ ++ (_ ++ [])
  rw [hcalls]

/-! ### Setting up -/

/- The ways in which an open mixer gets a sound, each with its calls. -/
inductive Sounds (s : Surroundings) : List MixerCall → Prop
  | loaded (path : Text) (hf : s.file = some (.path path)) (hg : s.hear s.disk path = .good) :
      Sounds s [.sound (.path path)]
  | built (samples : List Int) (hf : s.file = none)
      (hs : beepSamples (.int s.reported.frequency) (.int s.reported.channels) = .ok samples) :
      Sounds s [.buffer samples]
  | instead (path reason : Text) (samples : List Int) (hf : s.file = some (.path path))
      (hu : s.hear s.disk path = .unused reason)
      (hs : beepSamples (.int s.reported.frequency) (.int s.reported.channels) = .ok samples) :
      Sounds s [.sound (.path path), .buffer samples]

theorem synthesise_of_samples {s : Surroundings} {samples : List Int}
    (hs : beepSamples (.int s.reported.frequency) (.int s.reported.channels) = .ok samples) :
    (synthesise s.mixer s.kept).problem = none ∧
      (synthesise s.mixer s.kept).calls = [.buffer samples] := by
  unfold synthesise
  rw [s.mixer_reported]
  simp only [MixerFormat.reported, hs]
  cases s.kept <;> exact ⟨rfl, rfl⟩

theorem samples_of_synthesise {s : Surroundings}
    (h : (synthesise s.mixer s.kept).problem = none) : ∃ samples,
      beepSamples (.int s.reported.frequency) (.int s.reported.channels) = .ok samples := by
  cases hs : beepSamples (.int s.reported.frequency) (.int s.reported.channels) with
  | ok samples => exact ⟨samples, rfl⟩
  | error e =>
    unfold synthesise at h
    rw [s.mixer_reported] at h
    simp only [MixerFormat.reported, hs] at h
    cases h

def Surroundings.sound (s : Surroundings) : Sound := buildSound s.mixer s.disk s.kept s.file

theorem sounds_of_sound {s : Surroundings} (h : s.sound.problem = none) :
    Sounds s s.sound.calls := by
  unfold Surroundings.sound buildSound at h ⊢
  split at h
  · rename_i hf
    obtain ⟨samples, hs⟩ := samples_of_synthesise h
    rw [(synthesise_of_samples hs).2]
    exact .built samples hf hs
  · cases h
  · rename_i path hf
    split at h
    · rename_i hg
      exact .loaded path hf hg
    · cases h
    · rename_i reason hu
      obtain ⟨samples, hs⟩ := samples_of_synthesise h
      show Sounds s (.sound (.path path) :: (synthesise s.mixer s.kept).calls)
      rw [(synthesise_of_samples hs).2]
      exact .instead path reason samples hf hu hs

theorem sound_of_sounds {s : Surroundings} {calls : List MixerCall} (h : Sounds s calls) :
    s.sound.problem = none := by
  unfold Surroundings.sound buildSound
  cases h with
  | loaded path hf hg => simp only [hf, s.mixer_hear, hg]
  | built samples hf hs =>
    simp only [hf]
    exact (synthesise_of_samples hs).1
  | instead path reason samples hf hu hs =>
    simp only [hf, s.mixer_hear, hu]
    exact (synthesise_of_samples hs).1

theorem Sounds.sounding {s : Surroundings} {calls : List MixerCall} (h : Sounds s calls)
    {k : Desk} (hopen : k.isOpen = true) (hempty : k.sounds = 0) :
    k.Orderly s calls ∧ (k.after s calls).Sounding := by
  cases h with
  | loaded path hf hg =>
    refine ⟨⟨trivial, trivial⟩, hopen, ?_⟩
    simp [Desk.after, Desk.hears, Surroundings.loads, hg, hempty]
  | built samples hf hs =>
    refine ⟨⟨trivial, trivial⟩, hopen, ?_⟩
    simp [Desk.after, Desk.hears, hempty]
  | instead path reason samples hf hu hs =>
    refine ⟨⟨trivial, trivial, trivial⟩, hopen, ?_⟩
    simp [Desk.after, Desk.hears, Surroundings.loads, hu, hempty]

theorem setup_of_disabled {s : Surroundings} (h : s.enabled = false) :
    s.setup.device = .ok ⟨false, false, s.opened.isSome, 0⟩ ∧ s.setup.calls = [] := by
  unfold Surroundings.setup start
  rw [h]
  exact ⟨rfl, rfl⟩

def Surroundings.opening (s : Surroundings) : List MixerCall :=
  (if s.opened.isSome then [.quit] else []) ++ [.init format bufferSize]

theorem opening_orderly (s : Surroundings) : s.desk.Orderly s s.opening ∧
    s.desk.after s s.opening = ⟨s.failure.isNone, 0, false⟩ := by
  unfold Surroundings.opening
  cases s.opened.isSome with
  | false => exact ⟨⟨trivial, trivial⟩, rfl⟩
  | true => exact ⟨⟨trivial, trivial, trivial⟩, rfl⟩

theorem setup_of_failure {s : Surroundings} {text : Text} (h : s.enabled = true)
    (hf : s.failure = some text) :
    s.setup.device = .ok ⟨false, false, false, 0⟩ ∧ s.setup.calls = s.opening := by
  have hmixer : s.mixer.failure = some text := hf
  unfold Surroundings.setup start
  simp only [h, hmixer, if_true, true_and]
  rfl

theorem setup_of_problem {s : Surroundings} {e : SetupError} (h : s.enabled = true)
    (hf : s.failure = none) (hp : s.sound.problem = some e) : s.setup.device = .error e := by
  have hmixer : s.mixer.failure = none := hf
  have hproblem : (buildSound s.mixer s.disk s.kept s.file).problem = some e := hp
  unfold Surroundings.setup start
  simp only [h, hmixer, hproblem, if_true]

theorem setup_of_sound {s : Surroundings} (h : s.enabled = true) (hf : s.failure = none)
    (hp : s.sound.problem = none) :
    s.setup.device = .ok ⟨true, true, true, 0⟩ ∧ s.setup.calls = s.opening ++ s.sound.calls := by
  have hmixer : s.mixer.failure = none := hf
  have hproblem : (buildSound s.mixer s.disk s.kept s.file).problem = none := hp
  have hreports : (!s.mixer.reported.isEmpty) = true := by
    rw [s.mixer_reported]
    rfl
  unfold Surroundings.setup start
  simp only [h, hmixer, hproblem, hreports, if_true, true_and]
  rfl

theorem setup_ok_iff (s : Surroundings) : (∃ d, s.setup.device = .ok d) ↔
    (s.enabled = true → s.failure = none → ∃ calls, Sounds s calls) := by
  constructor
  · rintro ⟨d, hd⟩ henabled hfailure
    cases hp : s.sound.problem with
    | none => exact ⟨_, sounds_of_sound hp⟩
    | some e =>
      rw [setup_of_problem henabled hfailure hp] at hd
      cases hd
  · intro h
    cases henabled : s.enabled with
    | false => exact ⟨_, (setup_of_disabled henabled).1⟩
    | true =>
      cases hfailure : s.failure with
      | some text => exact ⟨_, (setup_of_failure henabled hfailure).1⟩
      | none =>
        obtain ⟨calls, hcalls⟩ := h henabled hfailure
        exact ⟨_, (setup_of_sound henabled hfailure (sound_of_sounds hcalls)).1⟩

theorem setup_attuned {s : Surroundings} {d : ToneDevice} (hd : s.setup.device = .ok d) :
    s.desk.Orderly s s.setup.calls ∧ Attuned d (s.desk.after s s.setup.calls) ∧ d.beeps = 0 ∧
      (s.enabled = true → s.failure = none → d.ready = true) := by
  obtain ⟨hopening, hopened⟩ := opening_orderly s
  cases henabled : s.enabled with
  | false =>
    obtain ⟨hdevice, hcalls⟩ := setup_of_disabled henabled
    cases hdevice.symm.trans hd
    rw [hcalls]
    exact ⟨trivial, ⟨rfl, nofun⟩, rfl, nofun⟩
  | true =>
    cases hfailure : s.failure with
    | some text =>
      obtain ⟨hdevice, hcalls⟩ := setup_of_failure henabled hfailure
      cases hdevice.symm.trans hd
      rw [hcalls, hopened, hfailure]
      exact ⟨hopening, ⟨rfl, nofun⟩, rfl, nofun⟩
    | none =>
      cases hp : s.sound.problem with
      | some e =>
        rw [setup_of_problem henabled hfailure hp] at hd
        cases hd
      | none =>
        obtain ⟨hdevice, hcalls⟩ := setup_of_sound henabled hfailure hp
        cases hdevice.symm.trans hd
        have hempty : (s.desk.after s s.opening).isOpen = true ∧
            (s.desk.after s s.opening).sounds = 0 := by
          rw [hopened, hfailure]
          exact ⟨rfl, rfl⟩
        obtain ⟨horder, hsounding⟩ := (sounds_of_sound hp).sounding hempty.1 hempty.2
        rw [hcalls, Desk.after_append]
        exact ⟨(Desk.orderly_append s _ _ _).mpr ⟨hopening, horder⟩,
          ⟨hsounding.1.symm, fun _ => ⟨rfl, hsounding⟩⟩, rfl, fun _ _ => rfl⟩

/-! ### The protocol -/

/- All calls, from the set-up on. -/
def Surroundings.callsOf (s : Surroundings) (d : ToneDevice) (rs : List Request) :
    List MixerCall := s.setup.calls ++ (d.serve rs).2

/- What the calls of a run are like; a stop or a play is judged by the desk just before it. -/
structure InOrder (s : Surroundings) (d : ToneDevice) (rs : List Request) : Prop where
  beeps : (d.serve rs).1.beeps = rs.count .play
  sounding : ∀ before call rest, s.callsOf d rs = before ++ call :: rest →
    call = .stop ∨ call = .play → (s.desk.after s before).Sounding
  restarted : ∀ before rest, s.callsOf d rs = before ++ .play :: rest →
    ∃ earlier, before = earlier ++ [.stop]
  oneSound : s.enabled = true → s.failure = none → .shutdown ∉ rs →
    (d.serve rs).1.ready = true ∧ (s.desk.after s (s.callsOf d rs)).Sounding
  closed : ∀ before rest, rs = before ++ .shutdown :: rest →
    (s.desk.after s (s.callsOf d (before ++ [.shutdown]))).isOpen = false ∧
      s.callsOf d rs = s.callsOf d (before ++ [.shutdown])

/-- In any surroundings a device comes about unless the mixer is open and no sound can be had;
whatever it is asked for then, it calls its mixer in order. -/
theorem mixer_protocol (s : Surroundings) :
    ((∃ d, s.setup.device = .ok d) ↔
      (s.enabled = true → s.failure = none → ∃ calls, Sounds s calls)) ∧
    ∀ d, s.setup.device = .ok d → ∀ rs, InOrder s d rs := by
  refine ⟨setup_ok_iff s, ?_⟩
  intro d hd rs
  obtain ⟨horder, hattuned, hbeeps, hready⟩ := setup_attuned hd
  obtain ⟨hserved, hend⟩ := hattuned.serve rs
  have hall : s.desk.Orderly s (s.callsOf d rs) :=
    (Desk.orderly_append s _ _ _).mpr ⟨horder, hserved⟩
  constructor
  case beeps => rw [serve_beeps, hbeeps, Nat.zero_add]
  case sounding =>
    rintro before call rest hcut (rfl | rfl)
    · exact (hcut ▸ hall).allows
    · exact (hcut ▸ hall).allows.1
  case restarted =>
    intro before rest hcut
    exact Desk.stopped_after rfl (hcut ▸ hall).allows.2
  case oneSound =>
    intro henabled hfailure hnone
    have hsound : (d.serve rs).1.ready = true :=
      (serve_ready hnone).trans (hready henabled hfailure)
    refine ⟨hsound, ?_⟩
    rw [Surroundings.callsOf, Desk.after_append]
    exact (hend.sound hsound).2
  case closed =>
    rintro before rest rfl
    obtain ⟨hcalls, -⟩ := serve_shutdown d before rest
    obtain ⟨-, hclosed⟩ := serve_shutdown d before []
    refine ⟨?_, by rw [Surroundings.callsOf, Surroundings.callsOf, hcalls]⟩
    rw [Surroundings.callsOf, Desk.after_append, ← (hattuned.serve _).2.mixer]
    exact hclosed

/- A file that is not there, and a mixer that is already open in another format. -/
def unfound : Surroundings :=
  ⟨true, some ⟨22050, -16, 2⟩, none, none, byHeader, some (.path "beep.wav"), .empty, true⟩

theorem unfound_device : unfound.setup.device = .ok ⟨true, true, true, 0⟩ := by
  decide +kernel

theorem unfound_inOrder :
    unfound.setup.device = .ok ⟨true, true, true, 0⟩ ∧
    InOrder unfound ⟨true, true, true, 0⟩ [.play, .shutdown, .play] ∧
    (unfound.desk.after unfound (unfound.callsOf ⟨true, true, true, 0⟩ [.play])).Sounding := by
  have hall := (mixer_protocol unfound).2 _ unfound_device
  exact ⟨unfound_device, hall _, ((hall [.play]).oneSound rfl rfl (by decide)).2⟩

end ToneDevice

end Chip8
