/-
# `hexdump`, `telescope`, `disasm`: what the read commands read

The three commands read `length` bytes of the device at `address`, and share one shape,
`readChecked`.  `telescope` and `disasm` first ask `isAddressInSections(address, length)`, a
section of ANY kind, and outside every section ask the operator; `hexdump` has the same lines
COMMENTED OUT.  `telescope` checks `length` bytes and then reads `length + 4`; the 32-byte
reads of its pointer walks each pass `isAddressInSections(val, 0x20)` first, also in a walk
that then raises.

* `reads_checked`: every read `disasm` makes is of the range it checked, inside a section or
  confirmed by the operator; every read `telescope` makes is its checked range plus FOUR
  bytes, or 32 bytes at a pointer inside a section; `hexdump` makes one read, of whatever it
  is given, and asks nothing.  On the spec's layout, `telescope` at the last sixteen bytes of
  RAM asks nothing and reads four bytes past the end of every section.
-/
import InternalBlue.Write
import InternalBlue.Telescope

namespace InternalBlue

/-! ## 1. The shared shape -/

/-- What the read commands do to the outside: ask the operator, read the device. -/
inductive ReadCall
  | yesno (question : String)
  | readMem (address length : Int)
  | readMemAligned (address length : Int)
deriving DecidableEq

/-- The firmware, the operator and the device as the read commands see them; a read is `None`
when it fails. -/
structure ReadEnv where
  SECTIONS : List Section
  yesno : String → Bool
  readMem : Int → Int → Option Bytes
  readMemAligned : Int → Int → Option Bytes

/-- `"Warning: Address 0x%08x (len=0x%x) is not inside a valid section. Continue?" %
(address, length)`. -/
def sectionQuestion (address length : Int) : String :=
  "Warning: Address 0x" ++ formatHex 8 address ++ " (len=0x" ++ formatHex 0 length ++
    ") is not inside a valid section. Continue?"

/-- The three commands up to their read: when `checked`, `isAddressInSections(address, length)`
and, outside every section, the question and `return False` on a no; then `readLength` bytes
at `address`, through `readMemAligned` when `aligned`, and `return False` when the read fails. -/
def readChecked (env : ReadEnv) (checked aligned : Bool) (address length readLength : Int) :
    List ReadCall × Except Ending Bytes :=
  let outside := checked && !isAddressInSections env.SECTIONS address length ""
  let asked := if outside then [ReadCall.yesno (sectionQuestion address length)] else []
  if outside && !env.yesno (sectionQuestion address length) then (asked, .error (.returns false))
  else
    let call := if aligned then ReadCall.readMemAligned address readLength
      else .readMem address readLength
    match if aligned then env.readMemAligned address readLength else env.readMem address readLength with
    | none => (asked ++ [call], .error (.returns false))
    | some dump => (asked ++ [call], .ok dump)

/-- How a command that shows its dump ends. -/
def showDump : List ReadCall × Except Ending Bytes → List ReadCall × Ending × Option Bytes
  | (calls, .error ending) => (calls, ending, none)
  | (calls, .ok dump) => (calls, .returns true, some dump)

@[simp] theorem showDump_fst (r : List ReadCall × Except Ending Bytes) : (showDump r).1 = r.1 := by
  rcases r with ⟨calls, _ | _⟩ <;> rfl

/-! ## 2. The three commands -/

/-- The arguments `CmdHexdump.parser` gives: `--length` (default 256), `--aligned`, the
address. -/
structure HexdumpArgs where
  length : Int
  aligned : Bool
  address : Int

/-- `CmdHexdump.work`: the calls, how it ends, and the dump `log.hexdump` shows at
`begin=args.address`.  Its section check is commented out. -/
def CmdHexdump.work (env : ReadEnv) : Option HexdumpArgs → List ReadCall × Ending × Option Bytes
  | none => ([], .returns true, none)
  | some args => showDump (readChecked env false args.aligned args.address args.length args.length)

/-- The arguments `CmdDisasm.parser` gives: `--length` (default 128), the address. -/
structure DisasmArgs where
  length : Int
  address : Int

/-- `CmdDisasm.work`: the calls, how it ends, and the bytes it hands to the external
`disasm(dump, vma=args.address)`. -/
def CmdDisasm.work (env : ReadEnv) : Option DisasmArgs → List ReadCall × Ending × Option Bytes
  | none => ([], .returns true, none)
  | some args => showDump (readChecked env true false args.address args.length args.length)

/-- The arguments `CmdTelescope.parser` gives: `--length` (default 64), the address. -/
structure TelescopeArgs where
  length : Int
  address : Int

/-- The device as `telescope` reads it, at the pointers it decodes. -/
def devRead (env : ReadEnv) : Nat → Nat → Option Bytes :=
  fun address length => env.readMem address length

/-- The loop `for index in range(0, len(dump)-4, 4): chain = self.telescope(dump[index:], 4)`:
the addresses its walks read at, in order, how it ends, and the chains it prints.  A walk that
raises ends the command, after its own reads. -/
def telescopeLoop (SECTIONS : List Section) (readMem : Nat → Nat → Option Bytes) (dump : Bytes) :
    List Nat → List Nat × Ending × List (List Nat × Bytes)
  | [] => ([], .returns true, [])
  | index :: indices =>
    match telescopeRun SECTIONS readMem (some (dump.drop index)) 4 with
    | (reads, .error e) => (reads, .raises e, [])
    | (reads, .ok chain) =>
      let (reads', ending, chains) := telescopeLoop SECTIONS readMem dump indices
      (reads ++ reads', ending, chain :: chains)

/-- `CmdTelescope.work`: the calls, how it ends, and the chains it prints.  After the read of
`length + 4` bytes come the 32-byte reads of the walks. -/
def CmdTelescope.work (env : ReadEnv) :
    Option TelescopeArgs → List ReadCall × Ending × List (List Nat × Bytes)
  | none => ([], .returns true, [])
  | some args =>
    match readChecked env true false args.address args.length (args.length + 4) with
    | (calls, .error ending) => (calls, ending, [])
    | (calls, .ok dump) =>
      let (reads, ending, chains) :=
        telescopeLoop env.SECTIONS (devRead env) dump (pyRange (dump.length - 4) 4)
      (calls ++ reads.map fun v => .readMem v 0x20, ending, chains)

/-! ## 3. What each read is -/

/-- A range the commands may read: inside a section, or confirmed by the operator. -/
def Confirmed (env : ReadEnv) (address length : Int) (calls : List ReadCall) : Prop :=
  isAddressInSections env.SECTIONS address length "" = true ∨
    (ReadCall.yesno (sectionQuestion address length) ∈ calls ∧
      env.yesno (sectionQuestion address length) = true)

theorem Confirmed.append {env : ReadEnv} {address length : Int} {calls : List ReadCall}
    (h : Confirmed env address length calls) (more : List ReadCall) :
    Confirmed env address length (calls ++ more) :=
  h.imp_right fun h => ⟨List.mem_append_left more h.1, h.2⟩

/-- The calls of the shared shape: the question when the check fails, then the read unless
the operator said no. -/
theorem readChecked_fst (env : ReadEnv) (checked aligned : Bool) (address length readLength : Int) :
    (readChecked env checked aligned address length readLength).1 =
      let outside := checked && !isAddressInSections env.SECTIONS address length ""
      let asked := if outside then [ReadCall.yesno (sectionQuestion address length)] else []
      if outside && !env.yesno (sectionQuestion address length) then asked
      else asked ++ [if aligned then ReadCall.readMemAligned address readLength
        else .readMem address readLength] := by
  simp only [readChecked]
  split
  · rfl
  · split <;> rfl

/-- **The read of the shared shape** is the one of `readLength` bytes at `address`, and when
`checked` its range `[address, address + length)` was inside a section or confirmed. -/
theorem readChecked_reads (env : ReadEnv) (checked aligned : Bool) (address length readLength a l : Int)
    (h : ReadCall.readMem a l ∈ (readChecked env checked aligned address length readLength).1 ∨
      ReadCall.readMemAligned a l ∈ (readChecked env checked aligned address length readLength).1) :
    a = address ∧ l = readLength ∧
      (checked = true → Confirmed env address length (readChecked env checked aligned address length readLength).1) := by
  rw [readChecked_fst] at h ⊢
  cases checked <;> cases hin : isAddressInSections env.SECTIONS address length "" <;>
    cases hy : env.yesno (sectionQuestion address length) <;> cases aligned <;>
    simp [hin, hy, Confirmed] at h ⊢ <;> exact h

/-- The pointer reads of `telescope`'s loop are all inside a section. -/
theorem isAddressInSections_of_mem_telescopeLoop (SECTIONS : List Section)
    (readMem : Nat → Nat → Option Bytes) (dump : Bytes) :
    ∀ (indices : List Nat), ∀ v ∈ (telescopeLoop SECTIONS readMem dump indices).1,
      isAddressInSections SECTIONS v 0x20 "" = true
  | [] => by simp [telescopeLoop]
  | index :: indices => by
    have hrun := isAddressInSections_of_mem_telescopeRun SECTIONS readMem 4 (some (dump.drop index))
    simp only [telescopeLoop]
    rcases h : telescopeRun SECTIONS readMem (some (dump.drop index)) 4 with ⟨reads, _ | _⟩ <;>
      rw [h] at hrun
    · exact hrun
    · intro v hv
      rcases List.mem_append.mp hv with hv | hv
      · exact hrun v hv
      · exact isAddressInSections_of_mem_telescopeLoop SECTIONS readMem dump indices v hv

/-- **What the read commands read.**  Every read `disasm` makes is of the range it checked,
inside a section or confirmed by the operator.  Every read `telescope` makes is its checked
range and four bytes more, or 32 bytes at a pointer inside a section.  `hexdump`, whose check
is commented out, makes exactly one read, of the range it is given, and asks nothing. -/
theorem reads_checked (env : ReadEnv) :
    (∀ args a l, ReadCall.readMem a l ∈ (CmdDisasm.work env (some args)).1 →
      a = args.address ∧ l = args.length ∧
        Confirmed env args.address args.length (CmdDisasm.work env (some args)).1) ∧
    (∀ args a l, ReadCall.readMem a l ∈ (CmdTelescope.work env (some args)).1 →
      (a = args.address ∧ l = args.length + 4 ∧
        Confirmed env args.address args.length (CmdTelescope.work env (some args)).1) ∨
      (l = 0x20 ∧ isAddressInSections env.SECTIONS a 0x20 "" = true)) ∧
    (∀ args, (CmdHexdump.work env (some args)).1 =
      [if args.aligned then .readMemAligned args.address args.length
        else .readMem args.address args.length]) := by
  refine ⟨fun args a l h => ?_, fun args a l h => ?_, fun args => ?_⟩
  · simp only [CmdDisasm.work, showDump_fst] at h ⊢
    obtain ⟨rfl, rfl, hc⟩ := readChecked_reads env true false _ _ _ a l (.inl h)
    exact ⟨rfl, rfl, hc rfl⟩
  · have hread := fun h =>
      readChecked_reads env true false args.address args.length (args.length + 4) a l (.inl h)
    simp only [CmdTelescope.work] at h ⊢
    rcases hr : readChecked env true false args.address args.length (args.length + 4) with
      ⟨calls, ending | dump⟩ <;> rw [hr] at hread <;> simp only [hr] at h ⊢
    · obtain ⟨rfl, rfl, hc⟩ := hread h
      exact .inl ⟨rfl, rfl, hc rfl⟩
    · rcases List.mem_append.mp h with h | h
      · obtain ⟨rfl, rfl, hc⟩ := hread h
        exact .inl ⟨rfl, rfl, (hc rfl).append _⟩
      · obtain ⟨v, hv, he⟩ := List.mem_map.mp h
        injection he with ha hl
        subst ha hl
        exact .inr ⟨rfl, isAddressInSections_of_mem_telescopeLoop _ _ _ _ v hv⟩
  · cases hal : args.aligned <;>
      simp only [CmdHexdump.work, readChecked, hal, Bool.false_and, Bool.false_eq_true,
        ↓reduceIte] <;> split <;> rfl

/-- A device that answers every read with zero bytes, and an operator who says no. -/
def zeroDevice : ReadEnv :=
  ⟨scenarioSections, fun _ => false, fun _ length => some (List.replicate length.toNat 0),
    fun _ length => some (List.replicate length.toNat 0)⟩

/-- `telescope --length 16 0x9fff0` checks the last sixteen bytes of RAM, asks nothing, and
reads twenty, four of them past the end of every section. -/
example :
    isAddressInSections scenarioSections 0x9fff0 16 "" = true ∧
    (CmdTelescope.work zeroDevice (some ⟨16, 0x9fff0⟩)).1 = [.readMem 0x9fff0 20] ∧
    ¬ InSections scenarioSections 0x9fff0 20 "" :=
  ⟨by decide, by decide, by unfold InSections; decide⟩

/-- A device whose only answer is at `0x90100`, the pointer `0x90200` and four zero bytes. -/
def failingDevice : ReadEnv :=
  ⟨scenarioSections, fun _ => false,
    fun address _ => if address = 0x90100 then some (leBytes 4 0x90200 ++ [0, 0, 0, 0]) else none,
    fun _ _ => none⟩

/-- The walk follows `0x90200`, whose read fails, and raises `TypeError` on `None[0:4]`; the
failed read is listed. -/
example : CmdTelescope.work failingDevice (some ⟨4, 0x90100⟩) =
    ([.readMem 0x90100 8, .readMem 0x90200 0x20], .raises "TypeError", []) := by
  decide

end InternalBlue
