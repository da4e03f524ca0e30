/-
# `CmdInfo`: what `info connections`, `info device` and `info patchram` print

`info connections` walks the same array as `sendlmp`, `readConnectionInformation(1)` ..
`readConnectionInformation(CONNECTION_ARRAY_SIZE)`, but skips only `None`: a record whose
remote address is six zero bytes, the spec's "no connection", is printed like any other, as
`00:00:00:00:00:00`, while `sendlmp` without `--conn_number` passes over it (`SendLmp.lean`).

* `info_connections_sendLmp`: the entries `info connections` prints with an address other
  than `00:00:00:00:00:00` are, in order, EXACTLY the records `sendlmp` counts as active; so
  `sendlmp` without `--conn_number` sends to `n` exactly when those entries are the one
  connection `n`; and when `readConnectionInformation` keeps the spec's contract (`None` for a
  zero address) they are all the entries printed.
-/
import InternalBlue.Write
import InternalBlue.SendLmp

namespace InternalBlue

/-! ## 1. The three kinds of information -/

/-- The head of the entry `infoConnections` prints for one record: the loop index `i` of
`"### | Connection ---%02d--- ###"`, `connection["connection_number"]` and
`bt_addr_to_str(connection["remote_address"])`. -/
structure ConnectionEntry where
  index : Nat
  number : Int
  remote : String
deriving DecidableEq

/-- `CmdInfo.infoConnections`: one entry for every record that is not `None`, in array order. -/
def CmdInfo.infoConnections (env : SendLmpEnv) : List ConnectionEntry :=
  (List.range env.CONNECTION_ARRAY_SIZE).filterMap fun (i : Nat) =>
    (env.readConnectionInformation (i + 1)).map fun connection =>
      ⟨i, connection.connection_number, btAddrToStr connection.remote_address⟩

/-- `CmdInfo.infoDevice`: the name and the address it prints, or `none` for the `IndexError`
of `device_name[0]` on an empty read.  The address is the six bytes at `fw.BD_ADDR` reversed
and joined as `bt_addr_to_str` joins them; the name is
`device_name[2:2+u8(device_name[0])-1]`. -/
def CmdInfo.infoDevice (BD_ADDR DEVICE_NAME : Nat) (readMem : ReadMem) : Option (Bytes × String) :=
  let bt_addr := (readMem BD_ADDR 6).reverse
  let device_name := readMem DEVICE_NAME 258
  match device_name with
  | [] => none
  | b0 :: _ =>
    let device_name_len : Int := (b0.toNat : Int) - 1
    some (pySlice device_name 2 (2 + device_name_len), btAddrToStr bt_addr)

/-- What `internalblue.getPatchramState()` returns. -/
structure PatchramState where
  table_addresses : List Int
  table_values : List Bytes
  table_slots : List Int

/-- The line `infoPatchram` prints for slot `i`, as `(i, address, value)`, if the slot is
active; `none` outside is the `IndexError` of a table shorter than the loop. -/
def patchramLine (state : PatchramState) (i : Nat) : Option (Option (Nat × Int × Bytes)) := do
  let slot ← state.table_slots[i]?
  if slot = 1 then
    let address ← state.table_addresses[i]?
    let value ← state.table_values[i]?
    return some (i, address, value)
  else return none

/-- `CmdInfo.infoPatchram`: `for i in range(fw.PATCHRAM_NUMBER_OF_SLOTS): if table_slots[i] == 1`. -/
def CmdInfo.infoPatchram (PATCHRAM_NUMBER_OF_SLOTS : Nat) (state : PatchramState) :
    Option (List (Nat × Int × Bytes)) :=
  List.reduceOption <$> (List.range PATCHRAM_NUMBER_OF_SLOTS).mapM (patchramLine state)

/-- The firmware and the device as `CmdInfo` sees them. -/
structure InfoEnv extends SendLmpEnv where
  BD_ADDR : Nat
  DEVICE_NAME : Nat
  readMem : ReadMem
  PATCHRAM_NUMBER_OF_SLOTS : Nat
  getPatchramState : PatchramState

/-- What `info` prints. -/
inductive InfoShown
  | connections (entries : List ConnectionEntry)
  | device (name : Bytes) (address : String)
  | patchram (lines : List (Nat × Int × Bytes))
deriving DecidableEq

/-- `CmdInfo.work`; `none` is a command line `getArgs()` rejected.  The warning for an unknown
type goes on with `"\nKnown types: %s" % subcommands.keys()`, in Python 2's dict order. -/
def CmdInfo.work (env : InfoEnv) : Option String → Option InfoShown × Ending
  | none => (none, .returns true)
  | some type =>
    if type = "connections" then
      (some (.connections (CmdInfo.infoConnections env.toSendLmpEnv)), .returns true)
    else if type = "device" then
      match CmdInfo.infoDevice env.BD_ADDR env.DEVICE_NAME env.readMem with
      | some (name, address) => (some (.device name address), .returns true)
      | none => (none, .raises "IndexError")
    else if type = "patchram" then
      match CmdInfo.infoPatchram env.PATCHRAM_NUMBER_OF_SLOTS env.getPatchramState with
      | some lines => (some (.patchram lines), .returns true)
      | none => (none, .raises "IndexError")
    else (none, .fails ("Unkown type: " ++ type))

/-! ## 2. `info connections` against `sendlmp` -/

/-- Two addresses print alike exactly when they are equal. -/
theorem bne_btAddrToStr (a b : Bytes) : (btAddrToStr a != btAddrToStr b) = (a != b) := by
  have hinj : btAddrToStr a = btAddrToStr b ↔ a = b := ⟨fun h => Option.some_inj.mp <| by
    rw [← hexDecode_filter_btAddrToStr a, h, hexDecode_filter_btAddrToStr], congrArg _⟩
  rw [Bool.eq_iff_iff, bne_iff_ne, bne_iff_ne, ne_eq, ne_eq, hinj]

/-- The entries printed with a non-zero address are the active records. -/
theorem map_number_filter_infoConnections (env : SendLmpEnv) :
    ((CmdInfo.infoConnections env).filter (·.remote != btAddrToStr noAddress)).map (·.number) =
      (activeConnections env).map (·.connection_number) := by
  rw [CmdInfo.infoConnections, activeConnections, List.filter_filterMap, List.map_filterMap,
    List.map_filterMap]
  refine List.filterMap_congr fun i _ => ?_
  cases env.readConnectionInformation (i + 1) with
  | none => rfl
  | some c => by_cases h : c.remote_address = noAddress <;> simp [Option.filter_some, bne_btAddrToStr, h]

/-- **`info connections` shows what `sendlmp` sees, and more.**  For any connection array:
the entries printed with an address other than `00:00:00:00:00:00` are, in order, the active
records `sendlmp` counts; without `--conn_number`, and with a payload that decodes,
`sendlmp` sends to `n` exactly when those entries are the one connection `n`; and when every
record `readConnectionInformation` returns has a non-zero address, they are all the entries
printed. -/
theorem info_connections_sendLmp (env : SendLmpEnv) (args : SendLmpArgs)
    (hconn : args.conn_number = none) {payload : Bytes}
    (hdata : hexDecode args.data.data = some payload) :
    ((CmdInfo.infoConnections env).filter (·.remote != btAddrToStr noAddress)).map (·.number) =
      (activeConnections env).map (·.connection_number) ∧
    (∀ n, CmdSendLmp.work env (some args) = .sendLmpPacket n args.opcode payload args.extended ↔
      ((CmdInfo.infoConnections env).filter (·.remote != btAddrToStr noAddress)).map (·.number) =
        [n]) ∧
    ((∀ k c, env.readConnectionInformation k = some c → c.remote_address ≠ noAddress) →
      (CmdInfo.infoConnections env).filter (·.remote != btAddrToStr noAddress) =
        CmdInfo.infoConnections env) := by
  refine ⟨map_number_filter_infoConnections env, fun n => ?_, fun hcontract => ?_⟩
  · rw [map_number_filter_infoConnections, CmdSendLmp.work, connectionTarget_scan hconn]
    rcases activeConnections env with _ | ⟨c, _ | ⟨d, l⟩⟩ <;> simp [hdata]
  · refine List.filter_eq_self.mpr fun e he => ?_
    obtain ⟨i, -, he⟩ := List.mem_filterMap.mp he
    cases hr : env.readConnectionInformation (i + 1) with
    | none => simp [hr] at he
    | some c =>
      simp only [hr, Option.map_some', Option.some_inj] at he
      subst he
      simpa [bne_btAddrToStr] using hcontract _ c hr

theorem info_connections_sendLmp_sample :
    ((CmdInfo.infoConnections sampleConnections).filter
        (·.remote != btAddrToStr noAddress)).map (·.number) =
      (activeConnections sampleConnections).map (·.connection_number) ∧
    (∀ n, CmdSendLmp.work sampleConnections (some sampleSendLmp) = .sendLmpPacket n 1 [1, 2] false ↔
      ((CmdInfo.infoConnections sampleConnections).filter
        (·.remote != btAddrToStr noAddress)).map (·.number) = [n]) ∧
    ((∀ k c, sampleConnections.readConnectionInformation k = some c → c.remote_address ≠ noAddress) →
      (CmdInfo.infoConnections sampleConnections).filter (·.remote != btAddrToStr noAddress) =
        CmdInfo.infoConnections sampleConnections) :=
  info_connections_sendLmp sampleConnections sampleSendLmp rfl rfl

end InternalBlue
