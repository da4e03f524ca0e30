/-
# `writemem`, `writeasm`, `exec` and `sendhcicmd`: what reaches the device

Three commands write the device's memory.  Each checks the range with
`isAddressInSections(address, len(data), sectiontype="RAM")` and, outside RAM, means to ask
`yesno("Warning: Address 0x%08x (len=0x%x) is not inside a RAM section. Continue?" % ...)`.
The question is built differently in each:

* `CmdWriteAsm` formats `len(data)`, the number of bytes it is about to write;
* `CmdWriteMem` formats `len(args.data)`, the number of data WORDS (`0` with `--file`);
* `CmdExec` formats `len(args.data)` as well, but its parser defines no `data`: building the
  question raises `AttributeError`, so `exec` never asks, and never writes outside RAM.

The results, read off one inversion lemma per command:

* `writes_guarded`: every write the three commands make lies in a RAM section or comes after
  a question the operator answered yes; `exec`'s always lies in RAM;
* `writeMem_call`: exactly when `writemem` writes, and what: the converted data `repeat`
  times, at the address, decided by a question that counts words, not bytes;
* `exec_launch`: `exec` has the device jump only to the address it has just written its
  assembled code to, and only when that write succeeded.

`sendhcicmd` sends any HCI command it is given, with no check but an upper bound on the code;
`sendHciCmd_payload`: its loop over the payload words sends their conversions concatenated
IN ORDER, or stops at the first word that does not convert, so hex words send their bytes.
-/
import InternalBlue.Patch
import InternalBlue.Format

namespace InternalBlue

/-! ## 1. The world of a write command -/

/-- What a command does outside the process, in order: it asks the operator, writes the
device's memory, has the device jump to an address, or sends it an HCI command. -/
inductive Call
  | yesno (question : String)
  | writeMem (address : Int) (data : Bytes)
  | launchRam (address : Int)
  | sendHciCommand (cmdcode : Int) (data : Bytes)
deriving DecidableEq

/-- The firmware, the operator, the files, the assembler and the device as the write commands
see them. -/
structure WriteEnv where
  /-- `fw.SECTIONS`. -/
  SECTIONS : List Section
  /-- The operator's answer to a `yesno` question. -/
  yesno : String → Bool
  /-- pwntools' `read(path)`, after any editor the command opened on the file: its bytes, or
  `IOError`. -/
  read : String → Option Bytes
  /-- pwntools' `asm(code, vma=address)`: the machine code, or `PwnlibException`. -/
  asm : Bytes → Int → Option Bytes
  /-- The device's answer to `writeMem(address, data)`. -/
  writeMem : Int → Bytes → Bool
  /-- The device's answer to `launchRam(address)`. -/
  launchRam : Int → Bool

/-- How a command ends: it returns, it reports a failure and returns False, or an exception
leaves it. -/
inductive Ending
  | returns (b : Bool)
  | fails (message : String)
  | raises (exception : String)
deriving DecidableEq

/-- `"Warning: Address 0x%08x (len=0x%x) is not inside a RAM section. Continue?" %
(address, length)`. -/
def ramQuestion (address length : Int) : String :=
  "Warning: Address 0x" ++ formatHex 8 address ++ " (len=0x" ++ formatHex 0 length ++
    ") is not inside a RAM section. Continue?"

/-- Python's `s * n`: `n` copies of `s`, none when `n ≤ 0`. -/
def pyRepeat (s : Bytes) (n : Int) : Bytes := (List.replicate n.toNat s).flatten

/-- `self.writeMem(address, data, ...)` and the report on it. -/
def writeReport (env : WriteEnv) (address : Int) (data : Bytes) : List Call × Ending :=
  ([.writeMem address data], if env.writeMem address data then .returns true else .fails "Write failed!")

/-- The tail `CmdWriteMem.work` and `CmdWriteAsm.work` share: outside a RAM section, ask
`question` and return False on a no; then write and report. -/
def writeChecked (env : WriteEnv) (address : Int) (data : Bytes) (question : String) :
    List Call × Ending :=
  if isAddressInSections env.SECTIONS address data.length "RAM" then writeReport env address data
  else if env.yesno question then
    (.yesno question :: (writeReport env address data).1, (writeReport env address data).2)
  else ([.yesno question], .returns false)

/-! ## 2. The three commands -/

/-- The arguments `CmdWriteMem.parser` produces: `--hex`, `--int`, `--file`, `--repeat`
(`auto_int`, default `1`), the address (`auto_int`) and the data words. -/
structure WriteMemArgs where
  hex : Bool
  int : Bool
  file : Option String
  «repeat» : Int
  address : Int
  data : List String

/-- The bytes `CmdWriteMem.work` writes, before `* args.repeat`: the file's contents with
`--file`; otherwise the words joined by blanks, as typed, hex-decoded with `--hex`,
`p32(auto_int(data))` with `--int`.  An error is how the command ends instead. -/
def writeMemData (env : WriteEnv) (args : WriteMemArgs) : Except Ending Bytes :=
  match args.file with
  | some file =>
    match env.read file with
    | some data => .ok data
    | none => .error (.raises "IOError")
  | none =>
    if args.data.length > 0 then
      let data := " ".intercalate args.data
      if args.hex then
        match hexDecode data.data with
        | some b => .ok b
        | none =>
          .error (.fails ("Data string cannot be converted to hexstring: " ++ hexError data.data))
      else if args.int then
        match autoInt data with
        | none => .error (.raises "ValueError")
        | some n =>
          match p32 n with
          | some b => .ok b
          | none => .error (.raises "struct.error")
      else .ok data.toUTF8.data.toList
    else .error (.fails "Either data or --file is required!")

/-- `CmdWriteMem.work`; `none` is a command line `getArgs()` rejected.  The question counts
`len(args.data)`, the data WORDS. -/
def CmdWriteMem.work (env : WriteEnv) : Option WriteMemArgs → List Call × Ending
  | none => ([], .returns true)
  | some args =>
    match writeMemData env args with
    | .error ending => ([], ending)
    | .ok data =>
      writeChecked env args.address (pyRepeat data args.«repeat»)
        (ramQuestion args.address args.data.length)

/-- The arguments `CmdWriteAsm.parser` produces: `--dry`, `--file`, the address (`auto_int`)
and the code words. -/
structure WriteAsmArgs where
  dry : Bool
  file : Option String
  address : Int
  code : List String

/-- The code `CmdWriteAsm.work` assembles: the file's contents after the editor, or the words
joined by blanks. -/
def writeAsmCode (env : WriteEnv) (args : WriteAsmArgs) : Except Ending Bytes :=
  match args.file with
  | some file =>
    match env.read file with
    | some code => .ok code
    | none => .error (.raises "IOError")
  | none =>
    if args.code.length > 0 then .ok (" ".intercalate args.code).toUTF8.data.toList
    else .error (.fails "Either code or --file is required!")

/-- `CmdWriteAsm.work`.  `asm` failing is caught and the command returns False; the question
counts `len(data)`, the bytes. -/
def CmdWriteAsm.work (env : WriteEnv) : Option WriteAsmArgs → List Call × Ending
  | none => ([], .returns true)
  | some args =>
    match writeAsmCode env args with
    | .error ending => ([], ending)
    | .ok code =>
      match env.asm code args.address with
      | none => ([], .returns false)
      | some data =>
        if data.length > 0 then
          if args.dry then ([], .returns true)
          else writeChecked env args.address data (ramQuestion args.address data.length)
        else ([], .fails "Assembler didn't produce any machine code.")

/-- The arguments `CmdExec.parser` produces: `--dry`, `--edit`, `--addr` (`auto_int`, default
`0x211800`) and the command name.  There is no `data`. -/
structure ExecArgs where
  dry : Bool
  edit : Bool
  addr : Int
  cmd : String

/-- `"exec_%s.s" % args.cmd`. -/
def execFilename (cmd : String) : String := "exec_" ++ cmd ++ ".s"

/-- `CmdExec.work`.  Outside a RAM section the question's `len(args.data)` raises
`AttributeError` before `yesno` is called; after a good write the device jumps to the
address. -/
def CmdExec.work (env : WriteEnv) : Option ExecArgs → List Call × Ending
  | none => ([], .returns true)
  | some args =>
    match env.read (execFilename args.cmd) with
    | none => ([], .raises "IOError")
    | some code =>
      match env.asm code args.addr with
      | none => ([], .returns false)
      | some data =>
        if data.length = 0 then ([], .fails "Assembler didn't produce any machine code.")
        else if args.dry then ([], .returns true)
        else if !isAddressInSections env.SECTIONS args.addr data.length "RAM" then
          ([], .raises "AttributeError")
        else if !env.writeMem args.addr data then ([.writeMem args.addr data], .fails "Write failed!")
        else
          ([.writeMem args.addr data, .launchRam args.addr],
            if env.launchRam args.addr then .returns true
            else .fails "Sending launch_ram command failed!")

/-! ## 3. Writes only inside RAM, unless the operator says yes -/

/-- Every write among `calls` lies in a RAM section of `env.SECTIONS`, or comes after a
question the operator answered yes. -/
def Guarded (env : WriteEnv) (calls : List Call) : Prop :=
  ∀ pre post address data, calls = pre ++ Call.writeMem address data :: post →
    isAddressInSections env.SECTIONS address data.length "RAM" = true ∨
    ∃ question, Call.yesno question ∈ pre ∧ env.yesno question = true

section Guarded

variable {env : WriteEnv} {calls : List Call}

theorem guarded_nil : Guarded env [] := fun pre _ _ _ h => by
  cases pre <;> cases h

/-- A call that is not a write keeps the writes after it guarded. -/
theorem Guarded.cons {c : Call} (hc : ∀ a d, c ≠ .writeMem a d) (h : Guarded env calls) :
    Guarded env (c :: calls) := fun pre post a d heq => by
  cases pre with
  | nil => cases hc a d (List.cons.inj heq).1
  | cons p pre =>
    obtain ⟨rfl, htail⟩ := List.cons.inj heq
    exact (h pre post a d htail).imp_right fun ⟨q, hq, hy⟩ => ⟨q, List.mem_cons_of_mem _ hq, hy⟩

/-- A write inside RAM is guarded. -/
theorem Guarded.writeMem {a : Int} {d : Bytes}
    (hram : isAddressInSections env.SECTIONS a d.length "RAM" = true) (h : Guarded env calls) :
    Guarded env (.writeMem a d :: calls) := fun pre post a' d' heq => by
  cases pre with
  | nil =>
    obtain ⟨hw, -⟩ := List.cons.inj heq
    cases hw
    exact .inl hram
  | cons p pre =>
    obtain ⟨rfl, htail⟩ := List.cons.inj heq
    exact (h pre post a' d' htail).imp_right fun ⟨q, hq, hy⟩ => ⟨q, List.mem_cons_of_mem _ hq, hy⟩

/-- After a yes, every write is guarded. -/
theorem guarded_yes {q : String} (hq : env.yesno q = true) : Guarded env (.yesno q :: calls) :=
  fun pre _ _ _ heq => by
    cases pre with
    | nil => cases (List.cons.inj heq).1
    | cons p pre => exact .inr ⟨q, (List.cons.inj heq).1 ▸ List.mem_cons_self _ _, hq⟩

end Guarded

theorem guarded_writeChecked (env : WriteEnv) (address : Int) (data : Bytes) (question : String) :
    Guarded env (writeChecked env address data question).1 := by
  unfold writeChecked
  split_ifs with hram hyes
  · exact guarded_nil.writeMem hram
  · exact guarded_yes hyes
  · exact guarded_nil.cons fun _ _ => Call.noConfusion

/-! ## 4. What each command writes -/

/-- **What `exec` can do**: nothing outside the process, or write the assembled code at
`--addr` inside RAM, then have the device jump there if the write succeeded. -/
theorem exec_cases {env : WriteEnv} {args : ExecArgs} {r : List Call × Ending}
    (h : CmdExec.work env (some args) = r) :
    r.1 = [] ∨
    ∃ code data, env.read (execFilename args.cmd) = some code ∧ env.asm code args.addr = some data ∧
      data ≠ [] ∧ args.dry = false ∧
      isAddressInSections env.SECTIONS args.addr data.length "RAM" = true ∧
      (r.1 = [.writeMem args.addr data] ∧ env.writeMem args.addr data = false ∨
        r.1 = [.writeMem args.addr data, .launchRam args.addr] ∧
          env.writeMem args.addr data = true) := by
  simp only [CmdExec.work] at h
  rcases hc : env.read (execFilename args.cmd) with _ | code <;> simp only [hc] at h
  · exact .inl (h ▸ rfl)
  rcases ha : env.asm code args.addr with _ | data <;> simp only [ha] at h
  · exact .inl (h ▸ rfl)
  by_cases hlen : data.length = 0 <;> simp only [hlen, ↓reduceIte] at h
  · exact .inl (h ▸ rfl)
  cases hdry : args.dry <;> simp only [hdry, ↓reduceIte] at h
  · cases hram : isAddressInSections env.SECTIONS args.addr data.length "RAM" <;>
      simp only [hram, Bool.not_false, Bool.not_true, ↓reduceIte] at h
    · exact .inl (h ▸ rfl)
    refine .inr ⟨code, data, rfl, ha, fun h => hlen (h ▸ rfl), rfl, hram, ?_⟩
    cases hw : env.writeMem args.addr data <;>
      simp only [hw, Bool.not_false, Bool.not_true, ↓reduceIte] at h
    · exact .inl ⟨h ▸ rfl, rfl⟩
    · exact .inr ⟨h ▸ rfl, rfl⟩
  · exact .inl (h ▸ rfl)

/-! ## 5. The results -/

theorem guarded_writeMem_work (env : WriteEnv) :
    ∀ args, Guarded env (CmdWriteMem.work env args).1
  | none => guarded_nil
  | some args => by
    simp only [CmdWriteMem.work]
    split
    · exact guarded_nil
    · exact guarded_writeChecked _ _ _ _

theorem guarded_writeAsm_work (env : WriteEnv) :
    ∀ args, Guarded env (CmdWriteAsm.work env args).1
  | none => guarded_nil
  | some args => by
    simp only [CmdWriteAsm.work]
    split
    · exact guarded_nil
    · split
      · exact guarded_nil
      · split_ifs
        · exact guarded_nil
        · exact guarded_writeChecked _ _ _ _
        · exact guarded_nil

/-- **Writes only inside RAM, unless the operator says yes.**  Whatever the firmware, the
operator, the files, the assembler and the device, and for every command line: every write
`writemem` and `writeasm` make lies in a RAM section or comes after a question the operator
answered yes; every write `exec` makes lies in a RAM section, and `exec` never asks. -/
theorem writes_guarded (env : WriteEnv) :
    (∀ args, Guarded env (CmdWriteMem.work env args).1) ∧
    (∀ args, Guarded env (CmdWriteAsm.work env args).1) ∧
    (∀ args address data, Call.writeMem address data ∈ (CmdExec.work env args).1 →
      isAddressInSections env.SECTIONS address data.length "RAM" = true) ∧
    (∀ args question, Call.yesno question ∉ (CmdExec.work env args).1) := by
  refine ⟨guarded_writeMem_work env, guarded_writeAsm_work env, ?_, ?_⟩
  all_goals
    rintro (_ | args)
    · simp [CmdExec.work]
  · intro address data hmem
    rcases exec_cases (rfl : CmdExec.work env (some args) = _) with
      h | ⟨_, _, -, -, -, -, hram, ⟨h, -⟩ | ⟨h, -⟩⟩ <;>
      simp only [h, List.mem_cons, List.not_mem_nil, or_false, Call.writeMem.injEq,
        reduceCtorEq] at hmem
    all_goals (obtain ⟨rfl, rfl⟩ := hmem; exact hram)
  · intro question
    rcases exec_cases (rfl : CmdExec.work env (some args) = _) with
      h | ⟨_, _, -, -, -, -, -, ⟨h, -⟩ | ⟨h, -⟩⟩ <;> simp [h]

/-- A string holding a character that is not a digit does not decode. -/
theorem hexDecode_eq_none_of_mem {c : Char} (hc : hexDigit c = none) :
    ∀ {cs : List Char}, c ∈ cs → hexDecode cs = none := by
  intro cs
  induction cs using hexDecode.induct with
  | case1 => simp
  | case2 => intro; rfl
  | case3 a b rest ih =>
    intro h
    rcases List.mem_cons.mp h with rfl | h
    · simp [hexDecode, hc]
    rcases List.mem_cons.mp h with rfl | h
    · cases hexDigit a <;> simp [hexDecode, hc]
    · cases hexDigit a <;> cases hexDigit b <;> simp [hexDecode, ih h]

/-- **`writemem --hex` takes one word, as `encode('hex')` prints it.**  The hex string of any
bytes, given as the one data word, writes those bytes `--repeat` times (asking, outside RAM,
about one word); two or more words never reach the device, since the blank `' '.join` puts
between them is not a hex digit. -/
theorem writeMem_hex (env : WriteEnv) (int : Bool) (address r : Int) :
    (∀ d : Bytes, CmdWriteMem.work env (some ⟨true, int, none, r, address, [hexEncode d]⟩) =
      writeChecked env address (pyRepeat d r) (ramQuestion address 1)) ∧
    (∀ w₁ w₂ ws, CmdWriteMem.work env (some ⟨true, int, none, r, address, w₁ :: w₂ :: ws⟩) =
      ([], .fails ("Data string cannot be converted to hexstring: " ++
        hexError (" ".intercalate (w₁ :: w₂ :: ws)).data))) := by
  constructor
  · intro d
    have : writeMemData env ⟨true, int, none, r, address, [hexEncode d]⟩ = .ok d := by
      simp [writeMemData, String.intercalate, String.intercalate.go, hexDecode_hexEncode]
    simp [CmdWriteMem.work, this]
  · intro w₁ w₂ ws
    have hblank : ' ' ∈ (" ".intercalate (w₁ :: w₂ :: ws)).data := by
      rw [intercalate_cons_data]; simp
    have : hexDecode (" ".intercalate (w₁ :: w₂ :: ws)).data = none :=
      hexDecode_eq_none_of_mem (by decide) hblank
    simp [CmdWriteMem.work, writeMemData, this]

/-! ## 6. `sendhcicmd` -/

/-- The arguments `CmdSendHciCmd.parser` produces: the command code (`auto_int`) and the
payload words. -/
structure SendHciCmdArgs where
  cmdcode : Int
  data : List String

/-- One payload word: `p32(auto_int(data_part))` when `data_part[0:2] == "0x"`,
`data_part.decode('hex')` otherwise.  Nothing catches their exceptions. -/
def hciPart (data_part : String) : Except Ending Bytes :=
  if data_part.data.take 2 = ['0', 'x'] then
    match autoInt data_part with
    | none => .error (.raises "ValueError")
    | some n =>
      match p32 n with
      | some b => .ok b
      | none => .error (.raises "struct.error")
  else
    match hexDecode data_part.data with
    | some b => .ok b
    | none => .error (.raises "TypeError")

/-- The loop `for data_part in args.data: data += ...`, from `data = ''`. -/
def hciPayload (parts : List String) : Except Ending Bytes :=
  parts.foldlM (fun data data_part => (data ++ ·) <$> hciPart data_part) []

/-- `CmdSendHciCmd.work`: the range check, the payload, and the call, whose answer it ignores. -/
def CmdSendHciCmd.work : Option SendHciCmdArgs → List Call × Ending
  | none => ([], .returns true)
  | some args =>
    if args.cmdcode > 0xffff then
      ([], .fails "cmdcode needs to be in the range of 0x0000 - 0xffff")
    else
      match hciPayload args.data with
      | .error ending => ([], ending)
      | .ok data => ([.sendHciCommand args.cmdcode data], .returns true)

/-- The payload loop from any `data`: the words' conversions, in order, appended to it, or the
first word's exception. -/
theorem foldlM_hciPart : ∀ (data : Bytes) (parts : List String),
    parts.foldlM (fun data data_part => (data ++ ·) <$> hciPart data_part) data =
      (data ++ ·.flatten) <$> parts.mapM hciPart
  | data, [] => by
    simp only [List.foldlM_nil, List.mapM_nil, map_pure, List.flatten_nil, List.append_nil]
  | data, p :: ps => by
    rw [List.foldlM_cons, List.mapM_cons]
    cases hciPart p with
    | error e => rfl
    | ok b =>
      show List.foldlM _ (data ++ b) ps = _
      rw [foldlM_hciPart (data ++ b) ps]
      cases ps.mapM hciPart <;> simp [Functor.map, Except.map, bind, Except.bind, pure, Except.pure]

/-- A word `s.encode('hex')` is not taken for a `0x` number, and converts back to `s`. -/
theorem hciPart_hexEncode (d : Bytes) : hciPart (hexEncode d) = .ok d := by
  have hx : (hexEncode d).data.take 2 ≠ ['0', 'x'] := by
    cases d with
    | nil => simp
    | cons b s =>
      intro h
      have hlo := hexDigit_digitChar (b.toNat % 16) (Nat.mod_lt _ (by decide))
      rw [hexEncode_cons] at h
      simp only [List.take_succ_cons, List.take_zero, List.cons.injEq, and_true] at h
      have hnx : hexDigit 'x' = none := by decide
      rw [h.2, hnx] at hlo
      exact Option.noConfusion hlo
  simp only [hciPart, if_neg hx, hexDecode_hexEncode]

/-- **The payload is the words' conversions, in order.**  For a command code of at most
`0xffff` and any payload words, `sendhcicmd` sends one HCI command, with that code and the
conversions of the words concatenated in order, when every word converts, and otherwise sends
nothing and ends as the first word that does not convert.  So words that are the hex encodings
of byte strings `d1 .. dn` send `d1 + .. + dn`. -/
theorem sendHciCmd_payload {cmdcode : Int} (hc : cmdcode ≤ 0xffff) (parts : List String) :
    CmdSendHciCmd.work (some ⟨cmdcode, parts⟩) =
      (match parts.mapM hciPart with
       | .ok ds => ([.sendHciCommand cmdcode ds.flatten], .returns true)
       | .error e => ([], e)) ∧
    ∀ ds : List Bytes, CmdSendHciCmd.work (some ⟨cmdcode, ds.map hexEncode⟩) =
      ([.sendHciCommand cmdcode ds.flatten], .returns true) := by
  have hwork : ∀ parts : List String, CmdSendHciCmd.work (some ⟨cmdcode, parts⟩) =
      match parts.mapM hciPart with
      | .ok ds => ([.sendHciCommand cmdcode ds.flatten], .returns true)
      | .error e => ([], e) := fun parts => by
    have hle : ¬ cmdcode > 0xffff := by omega
    simp only [CmdSendHciCmd.work, hle, ↓reduceIte, hciPayload, foldlM_hciPart]
    cases parts.mapM hciPart <;> rfl
  refine ⟨hwork parts, fun ds => ?_⟩
  have hmap : (ds.map hexEncode).mapM hciPart = .ok ds := by
    induction ds with
    | nil => rfl
    | cons d ds ih => simp only [List.map_cons, List.mapM_cons, hciPart_hexEncode, ih]; rfl
  rw [hwork, hmap]

theorem sendHciCmd_payload_readLocalVersion :
    (0x1001 : Int) ≤ 0xffff ∧
    CmdSendHciCmd.work (some ⟨0x1001, ["0x2a", "beef"]⟩) =
      (match ["0x2a", "beef"].mapM hciPart with
       | .ok ds => ([.sendHciCommand 0x1001 ds.flatten], .returns true)
       | .error e => ([], e)) ∧
    ∀ ds : List Bytes, CmdSendHciCmd.work (some ⟨0x1001, ds.map hexEncode⟩) =
      ([.sendHciCommand 0x1001 ds.flatten], .returns true) :=
  ⟨by decide, sendHciCmd_payload (by decide) ["0x2a", "beef"]⟩

end InternalBlue
