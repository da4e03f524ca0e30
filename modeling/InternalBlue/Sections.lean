/-
# The firmware's sections and `Cmd.isAddressInSections`

`Cmd.isAddressInSections(address, length, sectiontype)` (`cmds.py`) is the only range check
in front of every write, patch and pointer dereference the CLI makes.  It walks
`fw.SECTIONS` in list order, skips the sections of the wrong kind, and RETURNS AT THE FIRST
section whose CLOSED range `[start_addr, end_addr]` holds the address.

The section list describes half-open ranges: `size()` is `end_addr - start_addr`, and
`refreshMemoryImage` replaces exactly `memory_image[start_addr:end_addr]`.  This file proves
how far the early return agrees with the half-open law "some section of the requested kind
contains `[a, a + l)`":

* `isAddressInSections_sound`: a `True` is always justified, on any section list;
* `isAddressInSections_complete`: on pairwise disjoint sections a contained range is found,
  unless it starts exactly at the `end_addr` of a section of the requested kind;
* `isAddressInSections_adjacent_ram`: that exception is real, on the spec's own layout.
-/
import InternalBlue.Bytes
import Mathlib.Data.List.Pairwise

namespace InternalBlue

/-- Modelled from the spec: the firmware map's `Section` (`fw.py` is not among the sources).
`cmds.py` reads `start_addr`, `end_addr`, `is_rom`, `is_ram` and `size()`; the spec's data
model adds the invariant `start ≤ end`. -/
structure Section where
  start_addr : Nat
  end_addr : Nat
  is_rom : Bool
  is_ram : Bool
  start_le_end : start_addr ≤ end_addr
deriving DecidableEq, Repr

namespace Section

/-- `Section.size()`. -/
def size (s : Section) : Nat := s.end_addr - s.start_addr

theorem start_add_size (s : Section) : s.start_addr + s.size = s.end_addr := by
  have := s.start_le_end
  unfold size; omega

/-- Two sections do not overlap as half-open ranges: one ends before the other starts. -/
def Disjoint (s t : Section) : Prop :=
  s.end_addr ≤ t.start_addr ∨ t.end_addr ≤ s.start_addr

theorem Disjoint.symm {s t : Section} (h : s.Disjoint t) : t.Disjoint s := Or.symm h

/-- Address `a` lies in the half-open range of `s`. -/
def Holds (s : Section) (a : Nat) : Prop :=
  s.start_addr ≤ a ∧ a < s.end_addr

instance (s : Section) (a : Nat) : Decidable (s.Holds a) :=
  inferInstanceAs (Decidable (_ ∧ _))

/-- Disjoint sections share no address. -/
theorem Disjoint.not_holds {s t : Section} (h : s.Disjoint t) {a : Nat} (hs : s.Holds a) :
    ¬ t.Holds a := by
  unfold Holds at *; unfold Disjoint at h; omega

end Section

/-- What one `readMem(address, length)` call returns, as a function of its arguments: the
device's answer at the moment of the call. -/
abbrev ReadMem := Nat → Nat → Bytes

/-! ## 1. The filter on `sectiontype` -/

/-- Python 2's `str.upper()` in the C locale: only ASCII letters change. -/
def upper (s : String) : String := ⟨s.data.map Char.toUpper⟩

/-- `(sectiontype.upper() == "ROM" and not section.is_rom) or
(sectiontype.upper() == "RAM" and not section.is_ram)`: the loop `continue`s. -/
def skips (sectiontype : String) (s : Section) : Bool :=
  (upper sectiontype == "ROM" && !s.is_rom) || (upper sectiontype == "RAM" && !s.is_ram)

/-- The section is of the kind `sectiontype` asks for: ROM, RAM, or (any other string)
either. -/
def ofKind (sectiontype : String) (s : Section) : Prop := skips sectiontype s = false

instance (sectiontype : String) (s : Section) : Decidable (ofKind sectiontype s) :=
  inferInstanceAs (Decidable (_ = _))

/-! ## 2. The function -/

/-- `Cmd.isAddressInSections(address, length, sectiontype)` over `fw.SECTIONS`.  Python
integers are unbounded and signed, hence `Int` for the address and the length. -/
def isAddressInSections : List Section → Int → Int → String → Bool
  | [], _, _, _ => false
  | sec :: SECTIONS, address, length, sectiontype =>
    if skips sectiontype sec then isAddressInSections SECTIONS address length sectiontype
    else if sec.start_addr ≤ address ∧ address ≤ sec.end_addr then
      decide (address + length ≤ sec.end_addr)
    else isAddressInSections SECTIONS address length sectiontype

/-- The law the spec states: some section of the requested kind contains `[a, a + l)`. -/
def InSections (SECTIONS : List Section) (address length : Int) (sectiontype : String) : Prop :=
  ∃ s ∈ SECTIONS, ofKind sectiontype s ∧ s.start_addr ≤ address ∧ address + length ≤ s.end_addr

/-- **Soundness.**  On any section list, `True` means a section of the requested kind
contains the whole range. -/
theorem isAddressInSections_sound {SECTIONS : List Section} {a l : Int} {t : String}
    (h : isAddressInSections SECTIONS a l t = true) : InSections SECTIONS a l t := by
  induction SECTIONS with
  | nil => simp [isAddressInSections] at h
  | cons s ss ih =>
    simp only [isAddressInSections] at h
    split_ifs at h with hskip hin
    · obtain ⟨u, hu, hk⟩ := ih h
      exact ⟨u, List.mem_cons_of_mem s hu, hk⟩
    · exact ⟨s, List.mem_cons_self s ss, by simpa [ofKind] using hskip, hin.1, of_decide_eq_true h⟩
    · obtain ⟨u, hu, hk⟩ := ih h
      exact ⟨u, List.mem_cons_of_mem s hu, hk⟩

/-- **Completeness off the boundary.**  On pairwise disjoint sections, a range of length
`l ≥ 0` inside a section of the requested kind is found, provided `l = 0` or the range does
not start at the `end_addr` of a section of that kind. -/
theorem isAddressInSections_complete {SECTIONS : List Section} {a l : Int} {t : String}
    (hdis : SECTIONS.Pairwise Section.Disjoint) (hl : 0 ≤ l)
    (hedge : l = 0 ∨ ∀ u ∈ SECTIONS, ofKind t u → (u.end_addr : Int) ≠ a)
    (hin : InSections SECTIONS a l t) : isAddressInSections SECTIONS a l t = true := by
  induction SECTIONS with
  | nil => obtain ⟨s, hs, -⟩ := hin; simp at hs
  | cons s ss ih =>
    rw [List.pairwise_cons] at hdis
    obtain ⟨u, hu, hku, hsu, heu⟩ := hin
    simp only [isAddressInSections]
    have hedge' : l = 0 ∨ ∀ v ∈ ss, ofKind t v → (v.end_addr : Int) ≠ a :=
      hedge.imp_right fun h v hv => h v (List.mem_cons_of_mem s hv)
    split_ifs with hskip hclosed
    · rcases List.mem_cons.mp hu with rfl | hu
      · exact absurd hskip (by simpa [ofKind] using hku)
      · exact ih hdis.2 hedge' ⟨u, hu, hku, hsu, heu⟩
    · rcases List.mem_cons.mp hu with rfl | hu
      · exact decide_eq_true heu
      · have hks : ofKind t s := by simpa [ofKind] using hskip
        have hd := hdis.1 u hu
        unfold Section.Disjoint at hd
        apply decide_eq_true
        rcases hedge with rfl | hne
        · omega
        · have := hne s (List.mem_cons_self s ss) hks
          omega
    · rcases List.mem_cons.mp hu with rfl | hu
      · exact absurd ⟨hsu, by omega⟩ hclosed
      · exact ih hdis.2 hedge' ⟨u, hu, hku, hsu, heu⟩

/-- The layout of the spec's scenario: ROM `[0x0, 0x90000)` and RAM `[0x90000, 0xA0000)`. -/
def scenarioSections : List Section :=
  [⟨0x0, 0x90000, true, false, by decide⟩, ⟨0x90000, 0xA0000, false, true, by decide⟩]

/-- **The early return misses an adjacent section.**  Eight bytes at the first RAM address of
the spec's scenario lie in the RAM section, but asked for either kind (`sectiontype = ""`,
as `CmdTelescope` and `CmdDisasm` ask), the loop meets the ROM section first, whose closed
range ends at `0x90000`, and answers `False`. -/
theorem isAddressInSections_adjacent_ram :
    scenarioSections.Pairwise Section.Disjoint ∧ InSections scenarioSections 0x90000 8 "" ∧
      isAddressInSections scenarioSections 0x90000 8 "" = false := by
  refine ⟨?_, ⟨⟨0x90000, 0xA0000, false, true, by decide⟩, by simp [scenarioSections], ?_⟩, ?_⟩
  · simp [scenarioSections, Section.Disjoint]
  · refine ⟨by decide, by decide, by decide⟩
  · decide

end InternalBlue
