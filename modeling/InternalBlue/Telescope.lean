/-
# `CmdTelescope`: following pointers through untrusted memory

`CmdTelescope.telescope(data, depth)` decodes the little-endian word at the start of `data`,
and while the word is non-zero, the depth lasts and `isAddressInSections(val, 0x20)` accepts
it, reads 32 bytes there and recurses with `depth - 1`.  The memory it reads is whatever the
controller holds, so a chain of pointers may cycle; only the depth bounds the walk.

`telescope_chain` describes every run: the result is the pointer chain `v 0, .., v k` of
`chainValue` and a string, after exactly `k ≤ depth` reads, at `v 0, .., v (k - 1)`; each of
those was non-zero and inside a section, and the chain stopped at `v k` because it is zero
(with an empty string), or the depth ran out, or it is outside every section (with the LONGEST
PRINTABLE PREFIX of the bytes `v k` was decoded from).  `telescopeDump_isSome`: the loop of
`CmdTelescope.work` never hands `u32` fewer than four bytes, whatever the dump's length.
-/
import InternalBlue.Sections

namespace InternalBlue

/-- `CmdTelescope.telescope(data, depth)` on a device whose `readMem(val, 0x20)` may fail
(`None`): the addresses it reads at, in order, and the chain `[v0, .., vk]` with the string,
or the exception that ends the walk: `TypeError` for `None[0:4]` after a failed read,
`struct.error` for a `u32` handed fewer than four bytes.  The two equations on the depth are
the two values of `depth > 0` in `if depth > 0 and self.isAddressInSections(val, 0x20)`. -/
def telescopeRun (SECTIONS : List Section) (readMem : Nat → Nat → Option Bytes) :
    Option Bytes → Nat → List Nat × Except String (List Nat × Bytes)
  | none, _ => ([], .error "TypeError")
  | some data, 0 =>
    match u32 (data.take 4) with
    | none => ([], .error "struct.error")
    | some val =>
      if val = 0 then ([], .ok ([val], []))
      else ([], .ok ([val], printablePrefix data))
  | some data, d + 1 =>
    match u32 (data.take 4) with
    | none => ([], .error "struct.error")
    | some val =>
      if val = 0 then ([], .ok ([val], []))
      else if isAddressInSections SECTIONS val 0x20 "" then
        let (reads, r) := telescopeRun SECTIONS readMem (readMem val 0x20) d
        (val :: reads, r.map fun (chain, s) => (val :: chain, s))
      else ([], .ok ([val], printablePrefix data))

/-- What `telescope` returns, `[v0, .., vk, s]`, with the addresses it passed to
`readMem(·, 0x20)`, in order. -/
structure Telescoped where
  chain : List Nat
  str : Bytes
  reads : List Nat
deriving DecidableEq, Repr

/-- `CmdTelescope.telescope(data, depth)` on a device whose reads return bytes; `none` is the
`struct.error` of a `u32` handed fewer than four bytes. -/
def telescope (SECTIONS : List Section) (readMem : ReadMem) (data : Bytes) (depth : Nat) :
    Option Telescoped :=
  match telescopeRun SECTIONS (fun address length => some (readMem address length)) (some data)
      depth with
  | (reads, .ok (chain, str)) => some ⟨chain, str, reads⟩
  | (_, .error _) => none

/-- The range `range(0, stop, step)` of Python, for `0 < step`. -/
def pyRange (stop step : Nat) : List Nat :=
  (List.range ((stop + step - 1) / step)).map (step * ·)

/-- The loop of `CmdTelescope.work` over the dump it read:
`for index in range(0, len(dump)-4, 4): chain = self.telescope(dump[index:], 4)`. -/
def telescopeDump (SECTIONS : List Section) (readMem : ReadMem) (dump : Bytes) :
    List (Option Telescoped) :=
  (pyRange (dump.length - 4) 4).map fun index => telescope SECTIONS readMem (dump.drop index) 4

/-! ## 1. The pointer chain -/

/-- The bytes the `i`-th value of the chain is decoded from: `data`, then the 32 bytes read at
each value in turn. -/
def chainSource (readMem : ReadMem) (data : Bytes) : Nat → Bytes
  | 0 => data
  | i + 1 => readMem (leValue ((chainSource readMem data i).take 4)) 0x20

/-- The `i`-th value of the chain: `v 0 = u32(data[0:4])`, `v (i+1) = u32` of the first four of
the 32 bytes read at `v i`. -/
def chainValue (readMem : ReadMem) (data : Bytes) (i : Nat) : Nat :=
  leValue ((chainSource readMem data i).take 4)

/-- One step down the chain is the chain of the bytes read at its head. -/
theorem chainSource_succ (readMem : ReadMem) (data : Bytes) (i : Nat) :
    chainSource readMem data (i + 1) =
      chainSource readMem (readMem (chainValue readMem data 0) 0x20) i := by
  induction i with
  | zero => rfl
  | succ i ih => rw [chainSource, ih]; rfl

theorem chainValue_succ (readMem : ReadMem) (data : Bytes) (i : Nat) :
    chainValue readMem data (i + 1) =
      chainValue readMem (readMem (chainValue readMem data 0) 0x20) i := by
  rw [chainValue, chainSource_succ]; rfl

theorem u32_take_four (readMem : ReadMem) {data : Bytes} (h : 4 ≤ data.length) :
    u32 (data.take 4) = some (chainValue readMem data 0) :=
  if_pos (by simp; omega)

/-! ## 2. One call of `telescope` -/

section Step

variable {SECTIONS : List Section} {readMem : ReadMem} {data : Bytes} {v : Nat}
  (hv : u32 (data.take 4) = some v)
include hv

theorem telescope_of_null (h0 : v = 0) (depth : Nat) :
    telescope SECTIONS readMem data depth = some ⟨[v], [], []⟩ := by
  cases depth <;> simp [telescope, telescopeRun, hv, h0]

theorem telescope_zero (h0 : v ≠ 0) :
    telescope SECTIONS readMem data 0 = some ⟨[v], printablePrefix data, []⟩ := by
  simp [telescope, telescopeRun, hv, h0]

theorem telescope_follow (h0 : v ≠ 0) (hin : isAddressInSections SECTIONS v 0x20 "" = true)
    (d : Nat) : telescope SECTIONS readMem data (d + 1) =
      (telescope SECTIONS readMem (readMem v 0x20) d).map fun r => ⟨v :: r.chain, r.str, v :: r.reads⟩ := by
  simp only [telescope, telescopeRun, hv, h0, hin, if_false, if_true]
  rcases telescopeRun SECTIONS _ (some (readMem v 0x20)) d with ⟨_, _ | _⟩ <;> rfl

theorem telescope_stop (h0 : v ≠ 0) (hout : isAddressInSections SECTIONS v 0x20 "" = false)
    (d : Nat) : telescope SECTIONS readMem data (d + 1) = some ⟨[v], printablePrefix data, []⟩ := by
  simp [telescope, telescopeRun, hv, h0, hout]

end Step

/-- **Every pointer the walk reads at was checked.**  On any device, failing reads included,
each address `telescope` passes to `readMem(·, 0x20)` passed `isAddressInSections(val, 0x20)`,
also in a walk that raises. -/
theorem isAddressInSections_of_mem_telescopeRun (SECTIONS : List Section)
    (readMem : Nat → Nat → Option Bytes) :
    ∀ (depth : Nat) (data : Option Bytes), ∀ v ∈ (telescopeRun SECTIONS readMem data depth).1,
      isAddressInSections SECTIONS v 0x20 "" = true
  | _, none => by simp [telescopeRun]
  | 0, some data => by
    simp only [telescopeRun]
    split
    · simp
    · split <;> simp
  | d + 1, some data => by
    simp only [telescopeRun]
    split
    · simp
    · split
      · simp
      · split
        · rename_i hin
          intro v hv
          rcases List.mem_cons.mp hv with rfl | hv
          · exact hin
          · exact isAddressInSections_of_mem_telescopeRun SECTIONS readMem d _ v hv
        · simp

/-! ## 3. Every run of `telescope` -/

/-- Why the chain stopped at `v k`, with the string `telescope` returns there. -/
def StopsAt (SECTIONS : List Section) (readMem : ReadMem) (data : Bytes) (depth k : Nat)
    (str : Bytes) : Prop :=
  (chainValue readMem data k = 0 ∧ str = []) ∨
  (chainValue readMem data k ≠ 0 ∧
    (k = depth ∨ isAddressInSections SECTIONS (chainValue readMem data k) 0x20 "" = false) ∧
    LongestPrintablePrefix (chainSource readMem data k) str)

theorem map_chainValue_range_succ (readMem : ReadMem) (data : Bytes) (n : Nat) :
    (List.range (n + 1)).map (chainValue readMem data) = chainValue readMem data 0 ::
      (List.range n).map (chainValue readMem (readMem (chainValue readMem data 0) 0x20)) := by
  rw [List.range_succ_eq_map, List.map_cons, List.map_map]
  exact congrArg _ (List.map_congr_left fun i _ => chainValue_succ readMem data i)

/-- **The telescope walk.**  For every memory that answers each `readMem(addr, 0x20)` with 32
bytes, cycles included, every `data` of at least four bytes and every depth, `telescope`
returns, after exactly `k ≤ depth` reads at `v 0, .., v (k-1)`, the chain `v 0, .., v k`
and a string; each value it followed was non-zero and inside a section, and it stopped at
`v k` for one of the three reasons of `StopsAt`. -/
theorem telescope_chain (SECTIONS : List Section) (readMem : ReadMem)
    (hrd : ∀ a, (readMem a 0x20).length = 32) (data : Bytes) (hdata : 4 ≤ data.length)
    (depth : Nat) :
    ∃ k str, k ≤ depth ∧
      telescope SECTIONS readMem data depth =
        some ⟨(List.range (k + 1)).map (chainValue readMem data), str,
          (List.range k).map (chainValue readMem data)⟩ ∧
      (∀ i < k, chainValue readMem data i ≠ 0 ∧
        isAddressInSections SECTIONS (chainValue readMem data i) 0x20 "" = true) ∧
      StopsAt SECTIONS readMem data depth k str := by
  induction depth generalizing data with
  | zero =>
    have hv := u32_take_four readMem hdata
    by_cases h0 : chainValue readMem data 0 = 0
    · exact ⟨0, [], le_rfl, telescope_of_null hv h0 0, by simp, .inl ⟨h0, rfl⟩⟩
    exact ⟨0, _, le_rfl, telescope_zero hv h0, by simp,
      .inr ⟨h0, .inl rfl, (longestPrintablePrefix_iff _ _).mpr rfl⟩⟩
  | succ d ih =>
    have hv := u32_take_four readMem hdata
    by_cases h0 : chainValue readMem data 0 = 0
    · exact ⟨0, [], Nat.zero_le _, telescope_of_null hv h0 _, by simp, .inl ⟨h0, rfl⟩⟩
    cases hin : isAddressInSections SECTIONS (chainValue readMem data 0) 0x20 ""
    · exact ⟨0, _, Nat.zero_le _, telescope_stop hv h0 hin d, by simp,
        .inr ⟨h0, .inr hin, (longestPrintablePrefix_iff _ _).mpr rfl⟩⟩
    obtain ⟨k, str, hk, hrun, hall, hstop⟩ :=
      ih (readMem (chainValue readMem data 0) 0x20) (by rw [hrd]; omega)
    refine ⟨k + 1, str, by omega, ?_, fun i hi => ?_, ?_⟩
    · rw [telescope_follow hv h0 hin, hrun, map_chainValue_range_succ readMem data (k + 1),
        map_chainValue_range_succ readMem data k]
      rfl
    · rcases i with _ | i
      · exact ⟨h0, hin⟩
      · rw [chainValue_succ]; exact hall i (by omega)
    · rcases hstop with ⟨hv', hs⟩ | ⟨hv', hwhy, hs⟩
      · exact .inl ⟨by rwa [chainValue_succ], hs⟩
      · exact .inr ⟨by rwa [chainValue_succ],
          hwhy.imp (congrArg (· + 1)) fun h => by rwa [chainValue_succ], by rwa [chainSource_succ]⟩

/-- **`work` never decodes a short word.**  Whatever the length of the dump, every
`telescope(dump[index:], 4)` of the loop gets more than four bytes, so none of its `u32`
calls (nor those of its reads of 32 bytes) raises. -/
theorem telescopeDump_isSome (SECTIONS : List Section) (readMem : ReadMem)
    (hrd : ∀ a, (readMem a 0x20).length = 32) (dump : Bytes) :
    ∀ r ∈ telescopeDump SECTIONS readMem dump, r.isSome := by
  intro r hr
  obtain ⟨index, hindex, rfl⟩ := List.mem_map.mp hr
  obtain ⟨i, hi, rfl⟩ := List.mem_map.mp hindex
  have hi : i < (dump.length - 4 + 4 - 1) / 4 := List.mem_range.mp hi
  obtain ⟨k, str, -, hrun, -⟩ :=
    telescope_chain SECTIONS readMem hrd (dump.drop (4 * i)) (by simp; omega) 4
  rw [hrun]; rfl

/-- **The telescope, whole**: every walk is the pointer chain of `telescope_chain`, and the loop
of `work` never decodes a short word. -/
theorem telescope_walk (SECTIONS : List Section) (readMem : ReadMem)
    (hrd : ∀ a, (readMem a 0x20).length = 32) :
    (∀ data : Bytes, 4 ≤ data.length → ∀ depth : Nat,
      ∃ k str, k ≤ depth ∧
        telescope SECTIONS readMem data depth =
          some ⟨(List.range (k + 1)).map (chainValue readMem data), str,
            (List.range k).map (chainValue readMem data)⟩ ∧
        (∀ i < k, chainValue readMem data i ≠ 0 ∧
          isAddressInSections SECTIONS (chainValue readMem data i) 0x20 "" = true) ∧
        StopsAt SECTIONS readMem data depth k str) ∧
    ∀ dump : Bytes, ∀ r ∈ telescopeDump SECTIONS readMem dump, r.isSome :=
  ⟨telescope_chain SECTIONS readMem hrd, telescopeDump_isSome SECTIONS readMem hrd⟩

/-- A memory with a pointer cycle in the spec's RAM: the word at `0x90100` points to `0x90200`
and that one back; every other word is `'AAAA'`, and the rest of each read is `'A'`s. -/
def cycleMem : ReadMem := fun address length =>
  (if address = 0x90100 then leBytes 4 0x90200
   else if address = 0x90200 then leBytes 4 0x90100 else List.replicate 4 0x41) ++
    List.replicate (length - 4) 0x41

theorem telescope_walk_cycleMem :
    (∀ data : Bytes, 4 ≤ data.length → ∀ depth : Nat,
      ∃ k str, k ≤ depth ∧
        telescope scenarioSections cycleMem data depth =
          some ⟨(List.range (k + 1)).map (chainValue cycleMem data), str,
            (List.range k).map (chainValue cycleMem data)⟩ ∧
        (∀ i < k, chainValue cycleMem data i ≠ 0 ∧
          isAddressInSections scenarioSections (chainValue cycleMem data i) 0x20 "" = true) ∧
        StopsAt scenarioSections cycleMem data depth k str) ∧
    ∀ dump : Bytes, ∀ r ∈ telescopeDump scenarioSections cycleMem dump, r.isSome :=
  telescope_walk scenarioSections cycleMem fun a => by
    unfold cycleMem; split_ifs <;> rfl

/-- The cycle is walked until the depth runs out, with four reads. -/
example : telescope scenarioSections cycleMem (leBytes 4 0x90100) 4 =
    some ⟨[0x90100, 0x90200, 0x90100, 0x90200, 0x90100], [],
      [0x90100, 0x90200, 0x90100, 0x90200]⟩ := by
  decide

/-- A word outside every section ends the walk, with the printable bytes it came from. -/
example : telescope scenarioSections cycleMem [0x41, 0x42, 0x43, 0x44, 0x0a] 4 =
    some ⟨[0x44434241], [0x41, 0x42, 0x43, 0x44], []⟩ := by
  decide

end InternalBlue
