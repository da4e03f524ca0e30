/-
# `CmdSendLmp.work`: which connection an LMP packet goes to

Without `--conn_number`, `CmdSendLmp.work` looks for the connection itself.  It reads
`readConnectionInformation(1)` .. `readConnectionInformation(CONNECTION_ARRAY_SIZE)` in ONE
pass and keeps two variables: `connection`, the last ACTIVE record seen (not `None`, and a
remote address other than six zero bytes, the spec's "no connection"), and
`found_multiple_active`, set when an active record turns up while `connection` already holds
one.  After the loop it refuses when `connection` is `None` or the flag is set.

* `scanConnections_sees`: the loop's invariant, from a step lemma by induction over the
  array: `connection` is the last of the active records so far, and `found_multiple_active`
  says there were at least TWO of them;
* `sendLmp_one_active`: so without `--conn_number` the command sends exactly when one record
  is active, to that record's `connection_number`, and otherwise warns and returns False
  having sent nothing;
* `sendLmp_target`: every packet the command sends goes to a connection it checked: one
  given with `--nocheck`, one whose record `readConnectionInformation` returned, or the only
  active one.
-/
import InternalBlue.Search

namespace InternalBlue

/-! ## 1. The command -/

/-- The fields of a `readConnectionInformation` record that `CmdSendLmp.work` reads. -/
structure Connection where
  connection_number : Int
  remote_address : Bytes
deriving DecidableEq

/-- The arguments `CmdSendLmp.parser` produces: `--conn_number`, `--nocheck`, `--extended`,
the opcode and the payload's hex string. -/
structure SendLmpArgs where
  conn_number : Option Int
  nocheck : Bool
  extended : Bool
  opcode : Int
  data : String

/-- The firmware and the device as `CmdSendLmp.work` sees them: `fw.CONNECTION_ARRAY_SIZE`,
and the record `readConnectionInformation(n)` returns for each `n`, or `None`. -/
structure SendLmpEnv where
  CONNECTION_ARRAY_SIZE : Nat
  readConnectionInformation : Int → Option Connection

/-- How `CmdSendLmp.work` ends: it returns a value, it warns and returns False, or it
returns what `internalblue.sendLmpPacket(conn_nr, opcode, payload, extended_op)` returns. -/
inductive SendLmpOutcome
  | returns (b : Bool)
  | refuses (warning : String)
  | sendLmpPacket (conn_nr opcode : Int) (payload : Bytes) (extended_op : Bool)
deriving DecidableEq

/-- The remote address the spec calls "no connection": six zero bytes. -/
def noAddress : Bytes := List.replicate 6 0

/-- The loop's two variables. -/
structure Scan where
  connection : Option Connection
  found_multiple_active : Bool

/-- One iteration of the loop, on `tmp_connection = readConnectionInformation(i+1)`. -/
def scanStep (s : Scan) : Option Connection → Scan
  | some tmp_connection =>
    if tmp_connection.remote_address != noAddress then
      ⟨some tmp_connection, s.found_multiple_active || s.connection.isSome⟩
    else s
  | none => s

/-- The loop `for i in range(fw.CONNECTION_ARRAY_SIZE)`, from `connection = None` and
`found_multiple_active = False`. -/
def scanConnections (env : SendLmpEnv) : Scan :=
  (List.range env.CONNECTION_ARRAY_SIZE).foldl
    (fun s (i : Nat) => scanStep s (env.readConnectionInformation (i + 1))) ⟨none, false⟩

/-- The connection number the command sends to, or the warning of its `return False`. -/
def connectionTarget (env : SendLmpEnv) (args : SendLmpArgs) : Except String Int :=
  match args.conn_number with
  | none =>
    let s := scanConnections env
    match s.connection with
    | none => .error "No active connection found!"
    | some connection =>
      if s.found_multiple_active then
        .error "Multiple active connections detected. Please specify connection number with -n!"
      else .ok connection.connection_number
  | some connection_number =>
    if args.nocheck then .ok connection_number
    else match env.readConnectionInformation connection_number with
      | none => .error ("Connection entry at number " ++ toString connection_number ++ " is empty!")
      | some _ => .ok connection_number

/-- `CmdSendLmp.work`; `none` is a command line `getArgs()` rejected. -/
def CmdSendLmp.work (env : SendLmpEnv) : Option SendLmpArgs → SendLmpOutcome
  | none => .returns true
  | some args =>
    match connectionTarget env args with
    | .error warning => .refuses warning
    | .ok connection_number =>
      match hexDecode args.data.data with
      | none =>
        .refuses ("Data string cannot be converted to hexstring: " ++ hexError args.data.data)
      | some data => .sendLmpPacket connection_number args.opcode data args.extended

/-- The spec's reading of the array: the records that are active, not `None` and with a
remote address other than six zero bytes, in array order. -/
def activeConnections (env : SendLmpEnv) : List Connection :=
  (List.range env.CONNECTION_ARRAY_SIZE).filterMap fun (i : Nat) =>
    (env.readConnectionInformation (i + 1)).filter fun c => c.remote_address != noAddress

/-! ## 2. The loop's invariant -/

/-- The loop's state after the active records `l`: `connection` is the last of them, and
`found_multiple_active` says there are at least two. -/
def Scan.Sees (s : Scan) (l : List Connection) : Prop :=
  s.connection = l.getLast? ∧ s.found_multiple_active = decide (2 ≤ l.length)

/-- **One iteration keeps the invariant**: an active record becomes the last one, and sets
the flag exactly when one was seen before it. -/
theorem Scan.Sees.step {s : Scan} {l : List Connection} (h : s.Sees l) (tmp : Option Connection) :
    (scanStep s tmp).Sees (l ++ [tmp].filterMap
      fun t => t.filter fun c => c.remote_address != noAddress) := by
  obtain ⟨hc, hf⟩ := h
  cases tmp with
  | none => exact ⟨by simpa using hc, by simpa using hf⟩
  | some c =>
    by_cases ha : c.remote_address = noAddress
    · simp only [scanStep, ha, bne_self_eq_false, Bool.false_eq_true, if_false]
      exact ⟨by simpa [Option.filter, ha] using hc, by simpa [Option.filter, ha] using hf⟩
    · have hne : (c.remote_address != noAddress) = true := bne_iff_ne.mpr ha
      simp only [scanStep, hne, if_true, List.filterMap_cons, List.filterMap_nil,
        Option.filter, hne]
      refine ⟨by simp, ?_⟩
      rw [hf, hc]
      cases l with
      | nil => rfl
      | cons a l => simp

/-- **The whole loop keeps it**, from any state and over any indices. -/
theorem Scan.Sees.foldl (read : Int → Option Connection) :
    ∀ (is : List Nat) {s : Scan} {l : List Connection}, s.Sees l →
      (is.foldl (fun s (i : Nat) => scanStep s (read (i + 1))) s).Sees
        (l ++ is.filterMap fun (i : Nat) =>
          (read (i + 1)).filter fun c => c.remote_address != noAddress)
  | [], _, _, h => by simpa using h
  | i :: is, _, _, h => by
    have := Scan.Sees.foldl read is (h.step (read (i + 1)))
    rw [List.append_assoc] at this
    rw [List.foldl_cons, ← List.singleton_append, List.filterMap_append]
    exact this

theorem scanConnections_sees (env : SendLmpEnv) :
    (scanConnections env).Sees (activeConnections env) := by
  exact Scan.Sees.foldl env.readConnectionInformation (List.range env.CONNECTION_ARRAY_SIZE)
    (s := ⟨none, false⟩) (l := []) ⟨rfl, rfl⟩

/-! ## 3. Without `--conn_number` -/

/-- **The connection the scan picks**: with no record active the first warning, with one
its number, with more the second warning. -/
theorem connectionTarget_scan {env : SendLmpEnv} {args : SendLmpArgs}
    (hconn : args.conn_number = none) :
    connectionTarget env args = match activeConnections env with
      | [] => .error "No active connection found!"
      | [c] => .ok c.connection_number
      | _ :: _ :: _ =>
        .error "Multiple active connections detected. Please specify connection number with -n!" := by
  obtain ⟨hc, hf⟩ := scanConnections_sees env
  rw [connectionTarget, hconn]
  dsimp only
  rw [hc, hf]
  rcases activeConnections env with _ | ⟨c, _ | ⟨d, l⟩⟩
  · rfl
  · rfl
  · rw [List.getLast?_eq_getLast _ (List.cons_ne_nil _ _)]
    simp

/-- **Without `--conn_number`, one active record or nothing sent.**  For any size of the
connection array and any records, with a payload that decodes as hex: with no record active
the command warns "No active connection found!", with exactly one it sends to that record's
`connection_number`, and with two or more it warns that several are active; the two
warnings come with `return False`, and nothing is sent. -/
theorem sendLmp_one_active (env : SendLmpEnv) (args : SendLmpArgs)
    (hconn : args.conn_number = none) {payload : Bytes}
    (hdata : hexDecode args.data.data = some payload) :
    (activeConnections env = [] →
      CmdSendLmp.work env (some args) = .refuses "No active connection found!") ∧
    (∀ c, activeConnections env = [c] → CmdSendLmp.work env (some args) =
      .sendLmpPacket c.connection_number args.opcode payload args.extended) ∧
    (2 ≤ (activeConnections env).length → CmdSendLmp.work env (some args) =
      .refuses "Multiple active connections detected. Please specify connection number with -n!") := by
  simp only [CmdSendLmp.work, connectionTarget_scan hconn]
  refine ⟨fun h => by rw [h], fun c h => by rw [h, hdata], fun h => ?_⟩
  rcases hl : activeConnections env with _ | ⟨c, _ | ⟨d, l⟩⟩
  all_goals simp [hl] at h ⊢

/-- An array of three: slot 1 empty, slot 2 with the zero address, slot 3 active. -/
def sampleConnections : SendLmpEnv where
  CONNECTION_ARRAY_SIZE := 3
  readConnectionInformation n :=
    if n = 2 then some ⟨2, noAddress⟩ else if n = 3 then some ⟨3, [1, 2, 3, 4, 5, 6]⟩ else none

/-- `sendlmp 1 0102`. -/
def sampleSendLmp : SendLmpArgs := ⟨none, false, false, 1, "0102"⟩

theorem sendLmp_one_active_sample :
    sampleSendLmp.conn_number = none ∧ hexDecode sampleSendLmp.data.data = some [1, 2] ∧
    (activeConnections sampleConnections = [] → CmdSendLmp.work sampleConnections
      (some sampleSendLmp) = .refuses "No active connection found!") ∧
    (∀ c, activeConnections sampleConnections = [c] → CmdSendLmp.work sampleConnections
      (some sampleSendLmp) = .sendLmpPacket c.connection_number 1 [1, 2] false) ∧
    (2 ≤ (activeConnections sampleConnections).length → CmdSendLmp.work sampleConnections
      (some sampleSendLmp) = .refuses
        "Multiple active connections detected. Please specify connection number with -n!") :=
  ⟨rfl, rfl, sendLmp_one_active sampleConnections sampleSendLmp rfl rfl⟩

/-! ## 4. Every send -/

/-- The connection number the command settles on is the only active one, or the one given,
checked unless `--nocheck` was set. -/
theorem connectionTarget_ok {env : SendLmpEnv} {args : SendLmpArgs} {n : Int}
    (h : connectionTarget env args = .ok n) :
    (args.conn_number = none ∧ ∃ c, activeConnections env = [c] ∧ c.connection_number = n) ∨
      (args.conn_number = some n ∧
        (args.nocheck = true ∨ (env.readConnectionInformation n).isSome)) := by
  cases hconn : args.conn_number with
  | none =>
    rw [connectionTarget_scan hconn] at h
    refine .inl ⟨rfl, ?_⟩
    rcases hl : activeConnections env with _ | ⟨c, _ | ⟨d, l⟩⟩ <;> rw [hl] at h
    · cases h
    · exact ⟨c, rfl, Except.ok.inj h⟩
    · cases h
  | some m =>
    rw [connectionTarget, hconn] at h
    dsimp only at h
    refine .inr ?_
    split at h
    · exact ⟨congrArg some (Except.ok.inj h), .inl ‹_›⟩
    · split at h
      · cases h
      · rename_i hr
        cases Except.ok.inj h
        exact ⟨rfl, .inr (by rw [hr]; rfl)⟩

/-- **Every packet goes to a checked connection**: the only active one when no number was
given; the given number otherwise, whose record `readConnectionInformation` returned unless
`--nocheck` was set.  The opcode, the decoded payload and `--extended` are passed on. -/
theorem sendLmp_target (env : SendLmpEnv) (args : SendLmpArgs) {n opcode : Int}
    {payload : Bytes} {extended_op : Bool}
    (h : CmdSendLmp.work env (some args) = .sendLmpPacket n opcode payload extended_op) :
    opcode = args.opcode ∧ hexDecode args.data.data = some payload ∧
      extended_op = args.extended ∧
      ((args.conn_number = none ∧ ∃ c, activeConnections env = [c] ∧ c.connection_number = n) ∨
        (args.conn_number = some n ∧
          (args.nocheck = true ∨ (env.readConnectionInformation n).isSome))) := by
  simp only [CmdSendLmp.work] at h
  split at h
  · cases h
  · rename_i m htarget
    split at h
    · cases h
    · rename_i hd
      cases h
      exact ⟨rfl, hd, rfl, connectionTarget_ok htarget⟩

/-- The sample array's packet goes to connection 3, its only active record. -/
theorem sendLmp_target_sample :
    CmdSendLmp.work sampleConnections (some sampleSendLmp) = .sendLmpPacket 3 1 [1, 2] false ∧
    1 = sampleSendLmp.opcode ∧ hexDecode sampleSendLmp.data.data = some [1, 2] ∧
      false = sampleSendLmp.extended ∧
      ((sampleSendLmp.conn_number = none ∧
          ∃ c, activeConnections sampleConnections = [c] ∧ c.connection_number = 3) ∨
        (sampleSendLmp.conn_number = some 3 ∧ (sampleSendLmp.nocheck = true ∨
          (sampleConnections.readConnectionInformation 3).isSome))) :=
  have h : CmdSendLmp.work sampleConnections (some sampleSendLmp) =
      .sendLmpPacket 3 1 [1, 2] false := by decide
  ⟨h, sendLmp_target sampleConnections sampleSendLmp h⟩

end InternalBlue
