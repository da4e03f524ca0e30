/-
# What each viewer reads

`_spawnWireshark` writes the pcap global header to a new viewer's stdin, and the callbacks
then write one record per event while that viewer is held.  Whatever the run, with any
launches, commands, poll firings, deliveries, failed writes and viewer exits, every viewer
whose writes never raised satisfies `StreamOk`:

    stdin = globalHeaderBytes pcap_data_link_type ++ records of the delivered events

where an event that raises `struct.error` before the write (an LMP payload of 32 bytes or
more) has no record.  The header is written ONCE, before any record, and a record follows
each delivery in order.

Each action keeps `Streams` (`keeps_streams_act`), hence so does every run (`streams_run`).
`Monitor/Capture.lean` reads the records back.
-/
import InternalBlue.Monitor.Methods

namespace InternalBlue

/-! ## 1. One viewer -/

/-- **A viewer's stream**: it got only events of the controller's kind, and while no write to
it raised, its stdin is the global header followed by one record per delivered event. -/
structure StreamOk (k : Kind) (p : Process) : Prop where
  accepts : ∀ ev ∈ p.delivered, k.accepts ev = true
  stdin_eq : p.writeFailed = false →
    p.stdin = globalHeaderBytes k.pcapDataLinkType ++ (p.delivered.filterMap Event.pcapBytes).flatten

section StreamOk

variable {k : Kind} {p : Process}

/-- A change that leaves the pipe, the deliveries and the write failures alone. -/
theorem StreamOk.frame (h : StreamOk k p) {q : Process} (hs : q.stdin = p.stdin)
    (hd : q.delivered = p.delivered) (hw : q.writeFailed = p.writeFailed) : StreamOk k q :=
  ⟨hd ▸ h.accepts, fun hq => hs ▸ hd ▸ h.stdin_eq (hw ▸ hq)⟩

/-- Once a write raised, only the kinds of the deliveries are left to check. -/
theorem streamOk_failWrite (ha : ∀ ev ∈ p.delivered, k.accepts ev = true) :
    StreamOk k p.failWrite where
  accepts := ha
  stdin_eq hq := nomatch hq

/-- The header `_spawnWireshark` writes to a viewer that reads it. -/
theorem streamOk_spawn (k : Kind) :
    StreamOk k (Launch.runs.process.append (globalHeaderBytes k.pcapDataLinkType)) where
  accepts _ h := nomatch h
  stdin_eq _ := rfl

theorem StreamOk.accepts_note (h : StreamOk k p) {ev : Event} (ha : k.accepts ev = true) :
    ∀ e ∈ (p.note ev).delivered, k.accepts e = true := by
  intro e he
  rcases List.mem_append.mp he with he | he
  · exact h.accepts e he
  · rw [List.mem_singleton.mp he]; exact ha

/-- A delivery whose record is written. -/
theorem StreamOk.deliver (h : StreamOk k p) {ev : Event} (ha : k.accepts ev = true) {b : Bytes}
    (hb : ev.pcapBytes = some b) : StreamOk k ((p.note ev).append b) where
  accepts := h.accepts_note ha
  stdin_eq hw := by simp [hb, h.stdin_eq hw]

/-- A delivery that raises `struct.error` before anything is written. -/
theorem StreamOk.deliver_none (h : StreamOk k p) {ev : Event} (ha : k.accepts ev = true)
    (hb : ev.pcapBytes = none) : StreamOk k (p.note ev) where
  accepts := h.accepts_note ha
  stdin_eq hw := by simp [hb, h.stdin_eq hw]

end StreamOk

/-! ## 2. Every viewer -/

/-- Every viewer the controller started has a well-formed stream. -/
def Streams (k : Kind) (w : World) : Prop :=
  ∀ (i : Nat) (p : Process), w.procs[i]? = some p → StreamOk k p

section Streams

variable {k : Kind} {w : World}

theorem streams_init (k : Kind) : Streams k World.init :=
  fun _ _ h => by simp [World.init] at h

theorem Streams.modify (h : Streams k w) {f : Process → Process}
    (hf : ∀ p, StreamOk k p → StreamOk k (f p)) (i : Nat) :
    ∀ (j : Nat) (p : Process), (w.procs.modify f i)[j]? = some p → StreamOk k p := by
  intro j p hp
  obtain ⟨q, hq, rfl⟩ := getElem?_modify_eq_some hp
  split
  · exact hf q (h j q hq)
  · exact h j q hq

theorem Streams.mapProc (h : Streams k w) {f : Process → Process}
    (hf : ∀ p, StreamOk k p → StreamOk k (f p)) (i : Nat) : Streams k (w.mapProc i f) :=
  h.modify hf i

theorem Streams.push (h : Streams k w) {q : Process} (hq : StreamOk k q) :
    ∀ (j : Nat) (p : Process), (w.procs ++ [q])[j]? = some p → StreamOk k p := by
  intro j p hp
  rcases getElem?_append_single hp with hp | ⟨-, rfl⟩
  · exact h j p hp
  · exact hq

/-- `reap`, `terminate()` and the viewer ending leave the pipe alone. -/
theorem streamOk_reap {p : Process} (h : StreamOk k p) : StreamOk k p.reap := h.frame rfl rfl rfl

theorem streamOk_sigterm {p : Process} (h : StreamOk k p) : StreamOk k p.sigterm :=
  h.frame rfl rfl rfl

end Streams

/-! ## 3. Each method keeps it -/

theorem keeps_streams_modifyProc {k : Kind} {f : Process → Process}
    (hf : ∀ p, StreamOk k p → StreamOk k (f p)) (i : Nat) : Keeps (Streams k) (modifyProc i f) :=
  fun _ h => h.mapProc hf i

theorem keeps_streams_startMonitor (k : Kind) (launch : Launch) :
    Keeps (Streams k) (startMonitor k launch) := by
  intro w h
  rw [after_eq, startMonitor_run]
  split
  · exact h
  · split
    · exact h
    · exact h
    · exact h.push (streamOk_failWrite fun _ h => nomatch h)
    · exact h.push (streamOk_spawn k)

theorem keeps_streams_stopMonitor (k : Kind) : Keeps (Streams k) (stopMonitor k) := by
  intro w h
  rw [after_eq, stopMonitor_run]
  split <;> exact h

theorem keeps_streams_killMonitor (k : Kind) : Keeps (Streams k) (killMonitor k) := by
  intro w h
  rw [after_ok (killMonitor_run w k)]
  intro j p hp
  dsimp only at hp
  split at hp
  · split at hp
    · exact h j p hp
    · rw [List.modify_modify_eq] at hp
      exact h.modify (fun _ hp => streamOk_reap (streamOk_sigterm hp)) _ j p hp
  · exact h j p hp

theorem keeps_streams_pollTimer (k : Kind) : Keeps (Streams k) (pollTimer k) := by
  intro w h
  rw [after_ok (pollTimer_run w k)]
  dsimp only
  split
  · rename_i i _ _
    have h' : Streams k (if ((w.procs[i]?).bind Process.returncode).isSome then
        w.mapProc i .reap else w) := by
      split
      · exact h.mapProc (fun _ => streamOk_reap) i
      · exact h
    split <;> exact h'
  · exact h

/-- **A delivery to a controller of its kind**: the ghost notes it on the viewer held, and
the callback either writes its record there, raises before writing, or finds the pipe
broken and kills the monitor. -/
theorem keeps_streams_deliverOnce {k : Kind} {ev : Event} (ha : k.accepts ev = true) :
    Keeps (Streams k) (deliverOnce k ev) := by
  intro w h
  rw [after_eq, deliverOnce_run, callback_eq, if_pos ha]
  cases hw : w.wireshark_process with
  | none =>
    simp only [monitorCallback_run, hw]
    cases ev.packet.bind (pcapPacket ev.tsSec ev.tsUsec) <;> exact h
  | some i =>
    simp only [monitorCallback_run, World.mapProc, hw]
    cases hb : ev.packet.bind (pcapPacket ev.tsSec ev.tsUsec) with
    | none => exact h.mapProc (fun _ hp => hp.deliver_none ha hb) i
    | some b =>
      dsimp only
      split
      · rw [List.modify_modify_eq]
        exact h.modify (fun _ hp => hp.deliver ha hb) i
      · apply keeps_streams_killMonitor k
        rw [List.modify_modify_eq]
        exact h.modify (fun _ hp => streamOk_failWrite (hp.accepts_note ha)) i

theorem keeps_streams_act (k : Kind) (a : Action) : Keeps (Streams k) (act k a) := by
  cases a with
  | work command launch =>
    exact (Keeps.work (keeps_streams_startMonitor k launch) (keeps_streams_stopMonitor k)
      (keeps_streams_killMonitor k)).bind fun _ => Keeps.pure _
  | fire t => exact Keeps.fire (fun _ h => h) (keeps_streams_pollTimer k)
  | deliver ev => exact Keeps.deliver keeps_streams_deliverOnce
  | exit i code =>
    refine keeps_streams_modifyProc (fun p hp => ?_) i
    unfold Process.exit
    split
    · exact hp.frame rfl rfl rfl
    · exact hp
  | closeInput i =>
    exact keeps_streams_modifyProc (f := Process.closeInput) (fun _ hp => hp.frame rfl rfl rfl) i

/-! ## 4. Every run keeps it -/

theorem streams_run (k : Kind) :
    ∀ (acts : List Action) {w : World}, Streams k w → Streams k (run k acts w)
  | [], _, h => h
  | a :: acts, w, h => streams_run k acts (keeps_streams_act k a w h)

end InternalBlue
