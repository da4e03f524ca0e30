/-
# The monitor controller: `CmdMonitor.MonitorController`

`getMonitorController` keeps one `__MonitorController` per kind (`hci`, `lmp`), created on
first use, so every `monitor <kind> <command>` acts on the same state.  That state is
`running`, `wireshark_process` and `poll_timer`; the methods also act on the world around
the controller: the viewer processes they start (their stdin pipes and exit statuses), the
poll timers they schedule, and the callback registrations inside `internalblue`.  All of it
is one flat record, `World`, and every method is an `EStateM` program over it.  A Python
exception is an `EStateM` error, and, as in Python, it does NOT undo the assignments made
before it was raised.

The world moves by `Action`s: a user command through `CmdMonitor.work`, a poll timer
firing, `internalblue` delivering an event to the registered callback, and a viewer ending
or closing its input.  `step` runs one action, and `run` a whole sequence from any state.

Two fields of `Process` are GHOST state, written by the model and read by no method:
`delivered`, the events delivered to the callback while the process was the controller's
viewer, and `writeFailed`, set when a write to its pipe raised.  The stream theorems of
`Monitor/Stream.lean` are stated with them.
-/
import InternalBlue.Monitor.Pcap

namespace InternalBlue

/-! ## 1. The events the callbacks receive -/

/-- The fields of a `datetime` the callbacks read; `datetime` keeps each in its range. -/
@[ext] structure Time where
  hour : Nat
  minute : Nat
  second : Nat
  microsecond : Nat
  hour_lt : hour < 24
  minute_lt : minute < 60
  second_lt : second < 60
  microsecond_lt : microsecond < 1000000
deriving DecidableEq

/-- The record `hciCallback` unpacks, `(hcipkt, orig_len, inc_len, flags, drops, recvtime)`,
reduced to what it reads: `hcipkt.getRaw()`, `flags` and `recvtime`.  The HCI socket
delivers H4 frames, whose longest kind, ACL data, is 1 + 4 + 65535 bytes. -/
structure HciRecord where
  raw : Bytes
  flags : Nat
  recvtime : Time
  raw_length_le : raw.length ≤ 0x10004
deriving DecidableEq

/-- The arguments of `lmpCallback(lmp_packet, sendByOwnDevice, src, dest, timestamp)`. -/
structure LmpPacket where
  lmp_packet : Bytes
  sendByOwnDevice : Bool
  src : Bytes
  dest : Bytes
  timestamp : Time
deriving DecidableEq

/-- An event `internalblue` reports to the registered monitor callbacks. -/
inductive Event
  | hci (record : HciRecord)
  | lmp (packet : LmpPacket)
deriving DecidableEq

/-- The two monitor types `getMonitorController` knows. -/
inductive Kind
  | hci
  | lmp
deriving DecidableEq, Repr

/-- `getMonitorController(name, internalblue)`: the kind of controller a monitor type names,
or `None`. -/
def getMonitorController (name : String) : Option Kind :=
  if name = "hci" then some .hci else if name = "lmp" then some .lmp else none

/-- The `pcap_data_link_type` `getMonitorController` gives each kind's controller: Bluetooth
H4 with a Linux header (0xC9) for HCI, and 0x01 for LMP. -/
def Kind.pcapDataLinkType : Kind → Nat
  | .hci => 0xC9
  | .lmp => 0x01

/-- The kind of callback an event goes to. -/
def Event.kind : Event → Kind
  | .hci _ => .hci
  | .lmp _ => .lmp

/-- `internalblue` hands the event to callbacks of this kind. -/
def Kind.accepts : Kind → Event → Bool
  | .hci, .hci _ => true
  | .lmp, .lmp _ => true
  | _, _ => false

/-! ## 2. The packets the callbacks frame -/

/-- `packet` in `hciCallback`: three zero bytes, the direction bit `flags & 0x01`, then the
raw HCI packet. -/
def hciPacket (r : HciRecord) : Option Bytes := do
  let direction ← p8 (r.flags &&& 0x01)
  return [0, 0, 0] ++ [direction] ++ r.raw

/-- `packet` in `lmpCallback`: `dest + src + "\xff\xf0"`, six bytes of direction metadata,
`"\x19\x00\x00"` and the length byte `p8(len(lmp_packet) << 3 | 7)`, the payload, and two CRC
bytes.  The length byte is a `struct.error` once the payload reaches 32 bytes. -/
def lmpPacket (e : LmpPacket) : Option Bytes := do
  let eth_header := e.dest ++ e.src ++ [0xff, 0xf0]
  let meta_data : Bytes := if e.sendByOwnDevice then List.replicate 6 0 else [1, 0, 0, 0, 0, 0]
  let len ← p8 (e.lmp_packet.length <<< 3 ||| 7)
  let packet_header : Bytes := [0x19, 0, 0, len]
  return eth_header ++ meta_data ++ packet_header ++ e.lmp_packet ++ [0, 0]

/-- The callback's `packet` for an event. -/
def Event.packet : Event → Option Bytes
  | .hci r => hciPacket r
  | .lmp e => lmpPacket e

/-- The callback's `ts_sec`: `recvtime.second` for HCI, the seconds since midnight for LMP. -/
def Event.tsSec : Event → Nat
  | .hci r => r.recvtime.second
  | .lmp e => e.timestamp.second + e.timestamp.minute * 60 + e.timestamp.hour * 60 * 60

/-- The callback's `ts_usec`. -/
def Event.tsUsec : Event → Nat
  | .hci r => r.recvtime.microsecond
  | .lmp e => e.timestamp.microsecond

/-- `pcap_packet`, the bytes the callback writes for an event, or `none` where it raises
`struct.error` first. -/
def Event.pcapBytes (ev : Event) : Option Bytes :=
  ev.packet.bind (pcapPacket ev.tsSec ev.tsUsec)

/-! ## 3. The world -/

/-- A viewer process the controller started, as the operating system and Python see it. -/
structure Process where
  /-- The exit status, once the process has ended. -/
  returncode : Option Int
  /-- Python has collected the exit status: `poll()` saw the process end, or `wait()`
  returned after `terminate()`. -/
  reaped : Bool
  /-- The viewer still reads its stdin; a write to a pipe nobody reads raises `IOError`. -/
  reading : Bool
  /-- Every byte written to the viewer's stdin. -/
  stdin : Bytes
  /-- Ghost: the events delivered to the callback while this was the controller's viewer. -/
  delivered : List Event
  /-- Ghost: a write to this viewer's stdin raised `IOError`. -/
  writeFailed : Bool

namespace Process

/-- `wait()`, or a `poll()` that sees the process ended: Python keeps the status. -/
@[simp] def reap (p : Process) : Process := { p with reaped := true }

/-- `SIGTERM`: the process ends, with status -15 unless it had ended already. -/
@[simp] def sigterm (p : Process) : Process :=
  { p with returncode := some (p.returncode.getD (-15)), reading := false }

/-- The process ends by itself with `code`, unless it had ended already. -/
@[simp] def exit (code : Int) (p : Process) : Process :=
  if p.returncode.isNone then { p with returncode := some code, reading := false } else p

/-- The viewer stops reading its stdin. -/
@[simp] def closeInput (p : Process) : Process := { p with reading := false }

/-- `data` written into the pipe. -/
@[simp] def append (data : Bytes) (p : Process) : Process := { p with stdin := p.stdin ++ data }

/-- Ghost: a write raised `IOError`. -/
@[simp] def failWrite (p : Process) : Process := { p with writeFailed := true }

/-- Ghost: `ev` was delivered to the callback while this viewer was attached. -/
@[simp] def note (ev : Event) (p : Process) : Process :=
  { p with delivered := p.delivered ++ [ev] }

end Process

/-- The controller's three fields, then the world its methods act on: every viewer process
it started, every poll timer it scheduled (`true` while pending), and `registered`, the
calls of `registerHciCallback` (or `internalblue.startLmpMonitor`) minus those of
`unregisterHciCallback` (or `internalblue.stopLmpMonitor`). -/
structure World where
  running : Bool
  wireshark_process : Option Nat
  poll_timer : Option Nat
  procs : List Process
  timers : List Bool
  registered : Int

/-- Apply `f` to viewer `i`. -/
@[simp] def World.mapProc (w : World) (i : Nat) (f : Process → Process) : World :=
  { w with procs := w.procs.modify f i }

/-- The state `__init__` leaves, before any command. -/
def World.init : World :=
  ⟨false, none, none, [], [], 0⟩

/-- The Python exceptions that can leave a controller method. -/
inductive Exc
  /-- `subprocess.Popen` could not start the viewer. -/
  | osError
  /-- A write to a pipe the viewer no longer reads. -/
  | ioError
  /-- `struct.pack` or `p8` got a value out of range. -/
  | structError
  /-- A method called on `None`. -/
  | attributeError
deriving DecidableEq, Repr

/-- A controller method: it changes the world, and may raise. -/
abbrev M := EStateM Exc World

namespace M

variable {α β : Type}

/-! Running the `EStateM` primitives on a world.  A bind or a `try` continues from the
result of its first part through `next` or `recover`, so that no lemma about a method
compares two `match`es on the run of another method. -/

/-- What `x >>= f` does once `x` has run. -/
def next (r : EStateM.Result Exc World α) (f : α → M β) : EStateM.Result Exc World β :=
  match r with
  | .ok a w' => (f a).run w'
  | .error e w' => .error e w'

/-- What `tryCatch x h` does once `x` has run. -/
def recover (r : EStateM.Result Exc World α) (h : Exc → M α) : EStateM.Result Exc World α :=
  match r with
  | .ok a w' => .ok a w'
  | .error e w' => (h e).run w'

@[simp] theorem next_ok (a : α) (w : World) (f : α → M β) : next (.ok a w) f = (f a).run w := rfl

@[simp] theorem next_error (e : Exc) (w : World) (f : α → M β) :
    next (.error e w) f = .error e w := rfl

@[simp] theorem recover_ok (a : α) (w : World) (h : Exc → M α) :
    recover (.ok a w) h = .ok a w := rfl

@[simp] theorem recover_error (e : Exc) (w : World) (h : Exc → M α) :
    recover (.error e w) h = (h e).run w := rfl

@[simp] theorem run_pure (a : α) (w : World) : (pure a : M α).run w = .ok a w := rfl

@[simp] theorem run_bind (x : M α) (f : α → M β) (w : World) :
    (x >>= f).run w = next (x.run w) f := by
  show EStateM.bind x f w = next (x w) f
  simp only [EStateM.bind, next]
  cases x w <;> rfl

@[simp] theorem run_map (f : α → β) (x : M α) (w : World) :
    (f <$> x).run w = next (x.run w) (fun a => pure (f a)) := by
  show EStateM.map f x w = next (x w) (fun a => pure (f a))
  simp only [EStateM.map, next]
  cases x w <;> rfl

theorem run_ite (c : Prop) [Decidable c] (x y : M α) (w : World) :
    (if c then x else y).run w = if c then x.run w else y.run w := by
  split <;> rfl

@[simp] theorem run_get (w : World) : (get : M World).run w = .ok w w := rfl

@[simp] theorem run_modify (f : World → World) (w : World) :
    (modify f : M Unit).run w = .ok () (f w) := rfl

@[simp] theorem run_modifyGet (f : World → α × World) (w : World) :
    (modifyGet f : M α).run w = .ok (f w).1 (f w).2 := rfl

@[simp] theorem run_throw (e : Exc) (w : World) : (throw e : M α).run w = .error e w := rfl

@[simp] theorem run_tryCatch (x : M α) (h : Exc → M α) (w : World) :
    (tryCatch x h).run w = recover (x.run w) h := by
  show EStateM.tryCatch x h w = recover (x w) h
  simp only [EStateM.tryCatch, recover]
  cases x w <;> rfl

end M

/-- The world a method's result carries, whether it returned or raised. -/
def resultWorld {α : Type} : EStateM.Result Exc World α → World
  | .ok _ w => w
  | .error _ w => w

@[simp] theorem resultWorld_ok {α : Type} (a : α) (w : World) :
    resultWorld (.ok a w : EStateM.Result Exc World α) = w := rfl

@[simp] theorem resultWorld_error {α : Type} (e : Exc) (w : World) :
    resultWorld (.error e w : EStateM.Result Exc World α) = w := rfl

/-- The world a method leaves, whether it returned or raised. -/
def after {α : Type} (x : M α) (w : World) : World :=
  resultWorld (x.run w)

theorem after_eq {α : Type} (x : M α) (w : World) : after x w = resultWorld (x.run w) := rfl

@[simp] theorem after_ok {α : Type} {x : M α} {w w' : World} {a : α}
    (h : x.run w = .ok a w') : after x w = w' := by
  rw [after_eq, h, resultWorld_ok]

@[simp] theorem after_error {α : Type} {x : M α} {w w' : World} {e : Exc}
    (h : x.run w = .error e w') : after x w = w' := by
  rw [after_eq, h, resultWorld_error]

/-- A packer's result, or its `struct.error`. -/
def orStructError {α : Type} : Option α → M α
  | some a => pure a
  | none => throw .structError

@[simp] theorem orStructError_some {α : Type} (a : α) : orStructError (some a) = pure a := rfl

@[simp] theorem orStructError_none {α : Type} : (orStructError none : M α) = throw .structError :=
  rfl

/-! ## 4. The operating system and `internalblue` -/

/-- Apply `f` to viewer `i`. -/
def modifyProc (i : Nat) (f : Process → Process) : M Unit :=
  modify (·.mapProc i f)

/-- What the operating system does with `subprocess.Popen(["wireshark", "-k", "-i", "-"])`. -/
inductive Launch
  /-- `Popen` raises `OSError`: there is no viewer to run. -/
  | fails
  /-- The viewer starts, but ends with this status before reading its input. -/
  | exits (code : Int)
  /-- The viewer starts and reads its input. -/
  | runs
deriving DecidableEq, Repr

/-- The process a launch that did not fail starts. -/
def Launch.process : Launch → Process
  | .exits code => ⟨some code, false, false, [], [], false⟩
  | _ => ⟨none, false, true, [], [], false⟩

/-- `subprocess.Popen(...)`: the index of the new process, or `OSError`. -/
def popen (launch : Launch) : M Nat :=
  match launch with
  | .fails => throw .osError
  | _ => modifyGet fun w => (w.procs.length, { w with procs := w.procs ++ [launch.process] })

/-- `wireshark_process.stdin.write(data)`: appended to the pipe, or `IOError` when the viewer
no longer reads it. -/
def write (i : Nat) (data : Bytes) : M Unit := do
  if ((← get).procs[i]?).any Process.reading then
    modifyProc i (Process.append data)
  else
    modifyProc i Process.failWrite
    throw .ioError

/-- `Popen.poll()`: `None` while the process runs, else its status, which Python keeps. -/
def poll (i : Nat) : M (Option Int) := do
  let rc := ((← get).procs[i]?).bind Process.returncode
  if rc.isSome then modifyProc i Process.reap
  return rc

/-- `Popen.terminate()` under Python 2: `os.kill(pid, SIGTERM)`, which raises `OSError` for a
process whose status Python has already collected; any other process ends, with status -15
unless it had ended by itself. -/
def terminate (i : Nat) : M Unit := do
  if ((← get).procs[i]?).any Process.reaped then throw .osError
  modifyProc i Process.sigterm

/-- `Popen.wait()`: collects the status of a process that has ended. -/
def wait (i : Nat) : M Unit :=
  modifyProc i Process.reap

/-- `Timer(3, self._pollTimer, ())` and its `start()`: a new pending timer. -/
def startTimer : M Nat :=
  modifyGet fun w => (w.timers.length, { w with timers := w.timers ++ [true] })

/-- `Timer.cancel()`. -/
def cancelTimer (t : Nat) : M Unit :=
  modify fun w => { w with timers := w.timers.set t false }

/-- Modelled from the spec: `internalblue`'s registration calls (`core.py` is not among the
sources).  Each call registers or unregisters the controller's callback once; the model
counts them. -/
def registration (delta : Int) : M Unit :=
  modify fun w => { w with registered := w.registered + delta }

/-- Modelled from the spec: `internalblue.registerHciCallback(callback)`. -/
def registerHciCallback : M Unit := registration 1

/-- Modelled from the spec: `internalblue.unregisterHciCallback(callback)`. -/
def unregisterHciCallback : M Unit := registration (-1)

/-- Modelled from the spec: `internalblue.startLmpMonitor(callback)`.  What it returns is
not modelled: `startLmpMonitor` of the controller discards it. -/
def coreStartLmpMonitor : M Unit := registration 1

/-- Modelled from the spec: `internalblue.stopLmpMonitor()`. -/
def coreStopLmpMonitor : M Unit := registration (-1)

/-! ## 5. The controller's methods -/

/-- `_spawnWireshark`: start a viewer, write the global header into its stdin, and schedule
the first poll. -/
def spawnWireshark (pcap_data_link_type : Nat) (launch : Launch) : M Unit := do
  let pcap_header ← orStructError (pcapHeader pcap_data_link_type)
  let i ← popen launch
  modify fun w => { w with wireshark_process := some i }
  write i pcap_header
  let t ← startTimer
  modify fun w => { w with poll_timer := some t }

/-- The body shared by `startHciMonitor` and `startLmpMonitor`; `register` hands the callback
to `internalblue`. -/
def startMonitorWith (register : M Unit) (pcap_data_link_type : Nat) (launch : Launch) :
    M Bool := do
  if (← get).running then return false
  modify fun w => { w with running := true }
  if (← get).wireshark_process.isNone then spawnWireshark pcap_data_link_type launch
  register
  return true

/-- The body shared by `stopHciMonitor` and `stopLmpMonitor`. -/
def stopMonitorWith (unregister : M Unit) : M Bool := do
  if !(← get).running then return false
  unregister
  modify fun w => { w with running := false }
  return true

def startHciMonitor (launch : Launch) : M Bool :=
  startMonitorWith registerHciCallback Kind.hci.pcapDataLinkType launch

def stopHciMonitor : M Bool :=
  stopMonitorWith unregisterHciCallback

def startLmpMonitor (launch : Launch) : M Bool :=
  startMonitorWith coreStartLmpMonitor Kind.lmp.pcapDataLinkType launch

def stopLmpMonitor : M Bool :=
  stopMonitorWith coreStopLmpMonitor

/-- `startMonitor`, the method `getMonitorController` binds for the kind. -/
def startMonitor : Kind → Launch → M Bool
  | .hci => startHciMonitor
  | .lmp => startLmpMonitor

/-- `stopMonitor`, the method `getMonitorController` binds for the kind. -/
def stopMonitor : Kind → M Bool
  | .hci => stopHciMonitor
  | .lmp => stopLmpMonitor

/-- `killMonitor`: stop, cancel the poll timer, and terminate the viewer; an `OSError` from
the termination is logged and dropped. -/
def killMonitor (k : Kind) : M Unit := do
  if (← get).running then
    let _ ← stopMonitor k
  if let some t := (← get).poll_timer then
    cancelTimer t
    modify fun w => { w with poll_timer := none }
  if let some i := (← get).wireshark_process then
    tryCatch (do terminate i; wait i) fun
      | .osError => pure ()
      | e => throw e
    modify fun w => { w with wireshark_process := none }

/-- `getStatus`. -/
def getStatus : M Bool := do
  return (← get).running

/-- `_pollTimer`: if the viewer has ended with status 0, stop and drop it; otherwise poll
again in three seconds. -/
def pollTimer (k : Kind) : M Unit := do
  let w ← get
  if w.running = true then
    if let some i := w.wireshark_process then
      if (← poll i) = some 0 then
        let _ ← stopMonitor k
        modify fun w => { w with wireshark_process := none }
      else
        let t ← startTimer
        modify fun w => { w with poll_timer := some t }

/-- The body shared by `hciCallback` and `lmpCallback`: frame the packet as a pcap record and
write it to the viewer; a broken pipe kills the monitor. -/
def monitorCallback (k : Kind) (packet : Option Bytes) (ts_sec ts_usec : Nat) : M Unit := do
  let packet ← orStructError packet
  let pcap_packet ← orStructError (pcapPacket ts_sec ts_usec packet)
  tryCatch
    (do
      let some i := (← get).wireshark_process | throw .attributeError
      write i pcap_packet)
    fun
      | .ioError => killMonitor k
      | e => throw e

def hciCallback (r : HciRecord) : M Unit :=
  monitorCallback .hci (hciPacket r) r.recvtime.second r.recvtime.microsecond

def lmpCallback (e : LmpPacket) : M Unit :=
  monitorCallback .lmp (lmpPacket e)
    (e.timestamp.second + e.timestamp.minute * 60 + e.timestamp.hour * 60 * 60)
    e.timestamp.microsecond

/-- `_callback`, the method `getMonitorController` binds for the kind; `internalblue` hands
each callback only events of its kind. -/
def callback : Kind → Event → M Unit
  | .hci, .hci r => hciCallback r
  | .lmp, .lmp e => lmpCallback e
  | _, _ => pure ()

/-- `CmdMonitor.work` once the controller is found: the command's return value is dropped,
and an unknown command is refused. -/
def work (k : Kind) (command : String) (launch : Launch) : M Bool :=
  if command = "start" then do let _ ← startMonitor k launch; return true
  else if command = "status" then do let _ ← getStatus; return true
  else if command = "stop" then do let _ ← stopMonitor k; return true
  else if command = "kill" then do killMonitor k; return true
  else return false

/-! ## 6. Runs -/

/-- Ghost: record that the callback got `ev` while the current viewer was attached. -/
def noteDelivery (ev : Event) : M Unit := do
  if let some i := (← get).wireshark_process then
    modifyProc i (Process.note ev)

/-- One call of the callback, with the ghost record of the delivery. -/
def deliverOnce (k : Kind) (ev : Event) : M Unit := do
  noteDelivery ev
  callback k ev

/-- Modelled from the spec: `internalblue` calls the callback once for each registration it
holds. -/
def dispatch (k : Kind) (ev : Event) : Nat → M Unit
  | 0 => pure ()
  | n + 1 => do deliverOnce k ev; dispatch k ev n

/-- What can happen next to a controller and its world. -/
inductive Action
  /-- `monitor <kind> <command>` typed at the prompt, with what `Popen` would do. -/
  | work (command : String) (launch : Launch)
  /-- Timer `t` reaches its three seconds. -/
  | fire (t : Nat)
  /-- `internalblue` reports an event. -/
  | deliver (ev : Event)
  /-- Viewer `i` ends by itself with this status. -/
  | exit (i : Nat) (code : Int)
  /-- Viewer `i` stops reading its stdin. -/
  | closeInput (i : Nat)

/-- Timer `t`, if still pending, is spent and runs `_pollTimer`. -/
def fire (k : Kind) (t : Nat) : M Unit := do
  if ((← get).timers[t]?).getD false then
    modify fun w => { w with timers := w.timers.set t false }
    pollTimer k

/-- One action, as a method of the controller or of its world. -/
def act (k : Kind) : Action → M Unit
  | .work command launch => do let _ ← work k command launch
  | .fire t => fire k t
  | .deliver ev => do
    if k.accepts ev then dispatch k ev (← get).registered.toNat
  | .exit i code => modifyProc i (Process.exit code)
  | .closeInput i => modifyProc i Process.closeInput

/-- One action; a Python exception ends it but keeps what it changed. -/
def step (k : Kind) (w : World) (a : Action) : World :=
  after (act k a) w

/-- A sequence of actions. -/
def run (k : Kind) (acts : List Action) (w : World) : World :=
  acts.foldl (step k) w

@[simp] theorem run_nil (k : Kind) (w : World) : run k [] w = w := rfl

@[simp] theorem run_append_single (k : Kind) (acts : List Action) (a : Action) (w : World) :
    run k (acts ++ [a]) w = step k (run k acts w) a := by
  simp [run, List.foldl_append]

end InternalBlue
