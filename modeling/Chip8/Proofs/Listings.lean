import Chip8.Proofs.ProgramTrace

/-!
# Listings of programs and of their parts

A listing takes the bytes of a program in pairs, so a program that is cut at an even place is listed
in two parts. That is why the few words of a summary, which are listed from a short piece of the
program, are the first lines of the whole listing, whether the program is longer than the piece, of
the same length or shorter, and whether its last word is whole or not.
-/

namespace Chip8

/-! ### Parts of a listing -/

theorem listing_append {a : List UInt8} (h : a.length % 2 = 0) (b : List UInt8) (origin : Int) :
    listing (a ++ b) origin = listing a origin ++ listing b (origin + a.length) := by
  fun_induction listing a origin with
  | case1 origin =>
    rw [List.nil_append, List.nil_append, List.length_nil, Int.natCast_zero, Int.add_zero]
  | case2 high origin => cases h
  | case3 high low rest origin ih =>
    have hrest : rest.length % 2 = 0 := by
      simp only [List.length_cons] at h
      omega
    have hend : origin + 2 + (rest.length : Int) =
        origin + ((high :: low :: rest).length : Int) := by
      simp only [List.length_cons]
      omega
    rw [List.cons_append, List.cons_append, listing, ih hrest, hend, List.cons_append]

theorem listing_take (data : List UInt8) (n : Nat) (origin : Int) :
    listing (data.take (2 * n)) origin = (listing data origin).take n := by
  have hlines := listing_length data origin
  by_cases hlong : 2 * n ≤ data.length
  · have hpiece : (data.take (2 * n)).length = 2 * n := List.length_take_of_le hlong
    have heven : (data.take (2 * n)).length % 2 = 0 := by omega
    have hfirst : (listing (data.take (2 * n)) origin).length = n := by
      rw [listing_length, hpiece]
      omega
    have hcut := listing_append heven (data.drop (2 * n)) origin
    rw [List.take_append_drop] at hcut
    rw [hcut, List.take_left' hfirst]
  · -- the piece is all of the program, an odd last byte included
    rw [List.take_of_length_le (by omega), List.take_of_length_le (by omega)]

theorem listing_eq_map (data : List UInt8) (origin : Int) :
    listing data origin =
      (List.range ((data.length + 1) / 2)).map fun k => ⟨origin + 2 * k, wordOf data (2 * k)⟩ := by
  refine List.ext_getElem? ?_
  intro k
  rw [List.getElem?_map]
  by_cases hk : k < (data.length + 1) / 2
  · rw [listing_getElem? (by omega), List.getElem?_range hk]
    rfl
  · have hend : (listing data origin).length ≤ k := by
      rw [listing_length]
      omega
    have hrange : (List.range ((data.length + 1) / 2)).length ≤ k := by
      rw [List.length_range]
      omega
    rw [List.getElem?_eq_none hend, List.getElem?_eq_none hrange]
    rfl

theorem listingFrom_int (data : List UInt8) (origin : Int) :
    listingFrom data (.int origin) =
      .ok ((listing data origin).map fun l => (.int l.address, l.word)) := by
  have hshift : (listing data 0).map (fun l => (Value.int (origin + l.address), l.word)) =
      (listing data origin).map fun l => (.int l.address, l.word) := by
    rw [listing_eq_map, listing_eq_map data origin, List.map_map, List.map_map]
    refine List.map_congr_left ?_
    intro k _
    simp only [Function.comp_apply, Int.zero_add]
  rw [← hshift]
  exact List.mapM_pure

/- The last line begins at the last byte of the program, or at the byte before it. -/
theorem listing_getLast? {data : List UInt8} (h : data ≠ []) (origin : Int) :
    ∃ last, (listing data origin).getLast? = some last ∧
      (data.length % 2 = 1 ∧ last.address = origin + data.length - 1 ∨
        data.length % 2 = 0 ∧ last.address = origin + data.length - 2) := by
  have hpos : 0 < data.length := List.length_pos_iff.mpr h
  have hlast : 2 * ((data.length + 1) / 2 - 1) < data.length := by omega
  rw [List.getLast?_eq_getElem?, listing_length, listing_getElem? hlast]
  refine ⟨_, rfl, ?_⟩
  dsimp only
  omega

namespace Cartridge

/-! ### What is told about a cartridge -/

/- A file with the bytes of a program, not too few and not too many. -/
structure Holds (disk : Disk) (path : Text) (data : List UInt8) : Prop where
  stored : disk.read path = .ok data
  nonempty : data ≠ []
  fits : data.length ≤ 3584

theorem validate_of_size {data : List UInt8} (hdata : data ≠ []) (hsize : data.length ≤ 3584)
    (name : Text) : validate data name = .ok () := by
  have hempty : ¬data.isEmpty = true := by rwa [List.isEmpty_iff]
  have hlarge : ¬Layout.maxProgramSize < data.length := Nat.not_lt_of_le hsize
  rw [validate, if_neg hempty, if_neg hlarge]

theorem Holds.read_value {disk : Disk} {path : Text} {data : List UInt8}
    (h : Holds disk path data) : (read disk path).value = .ok data := by
  have hvalid := validate_of_size h.nonempty h.fits (baseName path)
  rw [Cartridge.read_value, bytes, h.stored]
  simp only [hvalid]

/- What the summary, the listing and the facts say about a program fits together. -/
structure Matches (data : List UInt8) (s : Summary) (lines : List String)
    (facts : List (String × Text)) : Prop where
  size : s.size = data.length
  space : s.size + s.freeBytes = 3584
  printed : lines = (listing data 0x200).map Line.render
  preview : s.preview = (listing data 0x200).take (min 8 ((s.size + 1) / 2))
  previewed : s.preview.length = min 8 ((s.size + 1) / 2)
  entry : ∃ first, (listing data 0x200).head? = some first ∧
    facts.lookup "entry" = some ↑first.text
  last : ∃ last, (listing data 0x200).getLast? = some last ∧ last.address ≤ 0xFFF ∧
    (s.size % 2 = 1 ∧ last.address = s.endAddress ∨
      s.size % 2 = 0 ∧ last.address = s.endAddress - 1)

theorem summary_preview (path : Text) (data : List UInt8) :
    (summary path data).preview = (listing data 0x200).take (min 8 ((data.length + 1) / 2)) := by
  have hpiece : (summary path data).preview = (listing data 0x200).take 8 :=
    listing_take data 8 0x200
  rw [hpiece, ← listing_length data 0x200]
  exact List.take_eq_take_min

theorem facts_entry (s : Summary) :
    s.facts.lookup "entry" = some ↑((s.preview.head?.map Line.text).getD "") :=
  rfl

theorem summary_matches (path : Text) {data : List UInt8} (hdata : data ≠ [])
    (hsize : data.length ≤ 3584) :
    Matches data (summary path data) (programLines data) (summary path data).facts := by
  have hpos : 0 < data.length := List.length_pos_iff.mpr hdata
  have hpreview := summary_preview path data
  refine ⟨rfl, Nat.add_sub_of_le hsize, rfl, hpreview, ?_, ?_, ?_⟩
  · rw [hpreview, List.length_take, listing_length]
    exact Nat.min_eq_left (Nat.min_le_right _ _)
  · have hfirst := listing_getElem? (k := 0) hpos 0x200
    rw [← List.head?_eq_getElem?] at hfirst
    refine ⟨_, hfirst, ?_⟩
    have hshown : min 8 ((data.length + 1) / 2) ≠ 0 := by omega
    rw [facts_entry, hpreview, List.head?_take, if_neg hshown, hfirst]
    rfl
  · obtain ⟨last, hlast, haddress⟩ := listing_getLast? hdata 0x200
    have hend : (summary path data).endAddress = 0x200 + data.length - 1 := rfl
    have hfile : (summary path data).size = data.length := rfl
    refine ⟨last, hlast, ?_, ?_⟩
    · omega
    · rw [hend, hfile]
      omega

/-- A program that is cut at an even place is listed in two parts. A listing has a line for every
two bytes or odd last byte, at every second address. What is told about a program on a disk is read
off its listing: the preview is its beginning and the entry the text of its first line, the bytes of
the program and the free ones fill the space for programs, and the last line is where it ends. -/
theorem listing_compositional :
    (∀ (a b : List UInt8) (origin : Int), a.length % 2 = 0 →
      listing (a ++ b) origin = listing a origin ++ listing b (origin + a.length)) ∧
    (∀ (data : List UInt8) (origin : Int),
      listingFrom data (.int origin) =
        .ok ((listing data origin).map fun l => (.int l.address, l.word)) ∧
      listing data origin = (List.range ((data.length + 1) / 2)).map fun k =>
        ⟨origin + 2 * k, wordOf data (2 * k)⟩) ∧
    ∀ (disk : Disk) (path : Text) (data : List UInt8), Holds disk path data →
      ∃ s lines told, (describe disk path).value = .ok s ∧
        (disassembly disk path).value = .ok lines ∧ (facts disk path).value = .ok told ∧
        Matches data s lines told := by
  refine ⟨?_, ?_, ?_⟩
  · intro a b origin heven
    exact listing_append heven b origin
  · intro data origin
    exact ⟨listingFrom_int data origin, listing_eq_map data origin⟩
  · intro disk path data hfile
    have hread := hfile.read_value
    have hdescribe : (describe disk path).value = .ok (summary path data) :=
      congrArg (Except.map (summary path)) hread
    refine ⟨_, _, _, hdescribe, congrArg (Except.map programLines) hread,
      congrArg (Except.map Summary.facts) hdescribe, ?_⟩
    exact summary_matches path hfile.nonempty hfile.fits

/- Eight jumps, which fill the preview, and the first half of another. -/
def jumps : List UInt8 := List.replicate 17 0x12

def jumpDisk : Disk := { entries := [([[97]], .file jumps)] }

theorem jumpDisk_holds : Holds jumpDisk ⟨[97]⟩ jumps := ⟨by rfl, by decide, by decide⟩

theorem jumps_described :
    Holds jumpDisk ⟨[97]⟩ jumps ∧
      ∃ s lines told, (describe jumpDisk ⟨[97]⟩).value = .ok s ∧
        (disassembly jumpDisk ⟨[97]⟩).value = .ok lines ∧
        (facts jumpDisk ⟨[97]⟩).value = .ok told ∧
        s.preview.length = 8 ∧ lines.length = 9 ∧ s.freeBytes = 3567 ∧
        told.lookup "entry" = some "JP 0x212" ∧ lines.getLast? = some "$210  1200  JP 0x200" := by
  obtain ⟨-, -, htold⟩ := listing_compositional
  obtain ⟨s, lines, told, hs, hlines, hfacts, h⟩ := htold _ _ _ jumpDisk_holds
  have hsize : s.size = 17 := h.size
  refine ⟨jumpDisk_holds, s, lines, told, hs, hlines, hfacts, ?_, ?_, ?_, ?_, ?_⟩
  · rw [h.previewed, hsize]
    rfl
  · rw [h.printed, List.length_map, listing_length]
    rfl
  · have hspace := h.space
    omega
  · obtain ⟨first, hfirst, hentry⟩ := h.entry
    cases hfirst
    rw [hentry]
    decide +kernel
  · rw [h.printed]
    decide +kernel

end Cartridge

end Chip8
