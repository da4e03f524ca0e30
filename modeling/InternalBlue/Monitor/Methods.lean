/-
# What each method does

One lemma for each method of `Monitor/Controller.lean`: the world it leaves, and what it
returns or raises, case by case.  Then `Keeps P x`, that `x` keeps `P` whether it returns
or raises, with one rule for each way the controller puts methods together (`bind`, `ite`,
`dispatch`, `work`, `fire`, `deliver`).  The invariants of `Monitor/Invariant.lean` and
`Monitor/Stream.lean` are proved from these and never unfold a method.
-/
import InternalBlue.Monitor.Controller

namespace InternalBlue

variable (w : World)

/-! ## 1. The operating system and `internalblue` -/

/-- Changing the process just started. -/
theorem modify_length_append {α : Type} (f : α → α) (l : List α) (a : α) :
    (l ++ [a]).modify f l.length = l ++ [f a] := by
  induction l with
  | nil => rfl
  | cons b l ih => simp [ih]

/-- An entry of `l ++ [a]` is one of `l` or the new one. -/
theorem getElem?_append_single {α : Type} {l : List α} {a p : α} {j : Nat}
    (h : (l ++ [a])[j]? = some p) : l[j]? = some p ∨ (j = l.length ∧ p = a) := by
  rcases Nat.lt_or_ge j l.length with hj | hj
  · exact .inl (by rwa [List.getElem?_append_left hj] at h)
  · right
    rw [List.getElem?_append_right hj] at h
    obtain ⟨h₁, h₂⟩ := List.getElem?_eq_some_iff.mp h
    simp only [List.length_singleton] at h₁
    exact ⟨by omega, by simpa [show j - l.length = 0 by omega] using h₂.symm⟩

/-- An entry of `l.modify f i` is one of `l`, changed by `f` at `i`. -/
theorem getElem?_modify_eq_some {α : Type} {l : List α} {f : α → α} {i j : Nat} {p : α}
    (h : (l.modify f i)[j]? = some p) :
    ∃ q, l[j]? = some q ∧ p = if i = j then f q else q := by
  rw [List.getElem?_modify] at h
  cases hq : l[j]? with
  | none => simp [hq] at h
  | some q => exact ⟨q, rfl, by simpa [hq] using h.symm⟩

theorem popen_run (launch : Launch) :
    (popen launch).run w =
      match launch with
      | .fails => .error .osError w
      | _ => .ok w.procs.length { w with procs := w.procs ++ [launch.process] } := by
  cases launch <;> rfl

theorem write_run (i : Nat) (data : Bytes) :
    (write i data).run w =
      if (w.procs[i]?).any Process.reading then .ok () (w.mapProc i (.append data))
      else .error .ioError (w.mapProc i .failWrite) := by
  simp only [write, modifyProc, M.run_bind, M.run_get, M.next_ok]
  split <;> rfl

theorem poll_run (i : Nat) :
    (poll i).run w =
      .ok ((w.procs[i]?).bind Process.returncode)
        (if ((w.procs[i]?).bind Process.returncode).isSome then w.mapProc i .reap else w) := by
  simp only [poll, modifyProc, M.run_bind, M.run_get, M.next_ok]
  split <;> rfl

theorem terminate_run (i : Nat) :
    (terminate i).run w =
      if (w.procs[i]?).any Process.reaped then .error .osError w
      else .ok () (w.mapProc i .sigterm) := by
  simp only [terminate, modifyProc, M.run_bind, M.run_get, M.next_ok]
  split <;> rfl

theorem startTimer_run :
    startTimer.run w = .ok w.timers.length { w with timers := w.timers ++ [true] } := rfl

theorem registration_run (delta : Int) :
    (registration delta).run w = .ok () { w with registered := w.registered + delta } := rfl

/-! ## 2. Starting and stopping -/

/-- **`_spawnWireshark`**, for each thing `Popen` can do. -/
theorem spawnWireshark_run {linkType : Nat} (h : linkType < 2 ^ 32) (launch : Launch) :
    (spawnWireshark linkType launch).run w =
      match launch with
      | .fails => .error .osError w
      | .exits code => .error .ioError
          { w with wireshark_process := some w.procs.length,
                   procs := w.procs ++ [(Launch.exits code).process.failWrite] }
      | .runs => .ok ()
          { w with wireshark_process := some w.procs.length,
                   poll_timer := some w.timers.length,
                   procs := w.procs ++ [Launch.runs.process.append (globalHeaderBytes linkType)],
                   timers := w.timers ++ [true] } := by
  simp only [spawnWireshark, M.run_bind, pcapHeader_eq h, orStructError_some, M.run_pure,
    M.next_ok, popen_run]
  cases launch with
  | fails => rfl
  | exits code =>
    simp only [M.run_bind, M.next_ok, M.run_modify, write_run, List.getElem?_concat_length, Option.any_some,
      Launch.process, Bool.false_eq_true, if_false, M.next_error, World.mapProc,
      modify_length_append]
  | runs =>
    simp only [M.run_bind, M.next_ok, M.run_modify, write_run, List.getElem?_concat_length, Option.any_some,
      Launch.process, if_true, World.mapProc, modify_length_append, startTimer_run]

theorem startMonitor_eq (k : Kind) (launch : Launch) :
    startMonitor k launch = startMonitorWith (registration 1) k.pcapDataLinkType launch := by
  cases k <;> rfl

theorem pcapDataLinkType_lt (k : Kind) : k.pcapDataLinkType < 2 ^ 32 := by
  cases k <;> decide

/-- **A start**: refused while running; with a viewer held it only registers; otherwise it
spawns a viewer first, and an exception there skips the registration but keeps
`running := True`. -/
theorem startMonitor_run (k : Kind) (launch : Launch) :
    (startMonitor k launch).run w =
      if w.running then .ok false w
      else match w.wireshark_process, launch with
        | some _, _ => .ok true { w with running := true, registered := w.registered + 1 }
        | none, .fails => .error .osError { w with running := true }
        | none, .exits code => .error .ioError
            { w with running := true, wireshark_process := some w.procs.length,
                     procs := w.procs ++ [(Launch.exits code).process.failWrite] }
        | none, .runs => .ok true
            { w with running := true, registered := w.registered + 1,
                     wireshark_process := some w.procs.length, poll_timer := some w.timers.length,
                     procs := w.procs ++ [Launch.runs.process.append (globalHeaderBytes k.pcapDataLinkType)],
                     timers := w.timers ++ [true] } := by
  rw [startMonitor_eq]
  cases hr : w.running
  · cases hw : w.wireshark_process
    · simp only [startMonitorWith, M.run_bind, M.run_get, M.next_ok, hr, Bool.false_eq_true,
        if_false, M.run_pure, M.run_modify, hw, Option.isNone_none, if_true,
        spawnWireshark_run _ (pcapDataLinkType_lt k)]
      cases launch <;> rfl
    · simp only [startMonitorWith, M.run_bind, M.run_get, M.next_ok, hr, Bool.false_eq_true,
        if_false, M.run_pure, M.run_modify, hw, Option.isNone_some]
      rfl
  · simp only [startMonitorWith, M.run_bind, M.run_get, M.next_ok, hr, if_true, M.run_pure]

theorem stopMonitor_run (k : Kind) :
    (stopMonitor k).run w =
      if w.running then .ok true { w with registered := w.registered - 1, running := false }
      else .ok false w := by
  cases k <;> cases hr : w.running <;>
    simp only [stopMonitor, stopHciMonitor, stopLmpMonitor, stopMonitorWith, M.run_bind,
      M.run_get, M.next_ok, hr, Bool.not_false, Bool.not_true, if_true, if_false, Bool.false_eq_true,
      M.run_pure, unregisterHciCallback, coreStopLmpMonitor, registration_run, M.run_modify] <;>
    rfl

/-- **`killMonitor`** never raises: it stops a running monitor, cancels the poll timer, and
drops the viewer after `terminate()` and `wait()`; Python 2's `OSError` for a viewer already
reaped is caught and leaves it as it is. -/
theorem killMonitor_run (k : Kind) :
    (killMonitor k).run w = .ok ()
      { running := false
        wireshark_process := none
        poll_timer := none
        procs := match w.wireshark_process with
          | some i =>
            if (w.procs[i]?).any Process.reaped then w.procs
            else (w.procs.modify Process.sigterm i).modify Process.reap i
          | none => w.procs
        timers := match w.poll_timer with
          | some t => w.timers.set t false
          | none => w.timers
        registered := if w.running then w.registered - 1 else w.registered } := by
  obtain ⟨running, wp, pt, procs, timers, reg⟩ := w
  cases running <;> cases pt <;> cases wp <;>
    simp only [killMonitor, M.run_bind, M.run_get, M.next_ok, M.next_error, M.run_ite,
      stopMonitor_run, if_true, if_false, Bool.false_eq_true, M.run_pure, M.run_modify,
      M.run_tryCatch, M.recover_ok, M.recover_error, terminate_run, wait, modifyProc,
      cancelTimer] <;>
    (try split) <;> rfl

/-- **`_pollTimer`**: with the monitor running and a viewer held, a poll that finds status 0
stops the monitor and drops the viewer, and any other answer, a different status
included, schedules the next poll. -/
theorem pollTimer_run (k : Kind) :
    (pollTimer k).run w = .ok ()
      (match w.running, w.wireshark_process with
       | true, some i =>
         let rc := (w.procs[i]?).bind Process.returncode
         let w' := if rc.isSome then w.mapProc i .reap else w
         if rc = some 0 then
           { w' with running := false, registered := w'.registered - 1, wireshark_process := none }
         else { w' with timers := w'.timers ++ [true], poll_timer := some w'.timers.length }
       | _, _ => w) := by
  obtain ⟨running, wp, pt, procs, timers, reg⟩ := w
  cases running <;> cases wp <;>
    simp only [pollTimer, M.run_bind, M.run_get, M.next_ok, if_true, if_false, Bool.false_eq_true,
      M.run_pure, poll_run, M.run_ite]
  split <;> split <;>
    simp only [M.next_ok, M.run_bind, stopMonitor_run, M.run_modify, startTimer_run, if_true,
      World.mapProc]

/-! ## 3. Events -/

/-- **A callback**: a packet that fails to pack raises `struct.error`, and so does a record
header; otherwise the record is written to the viewer, and a broken pipe kills the
monitor. -/
theorem monitorCallback_run (k : Kind) (packet : Option Bytes) (ts_sec ts_usec : Nat) :
    (monitorCallback k packet ts_sec ts_usec).run w =
      match packet.bind (pcapPacket ts_sec ts_usec), w.wireshark_process with
      | none, _ => .error .structError w
      | some _, none => .error .attributeError w
      | some b, some i =>
        if (w.procs[i]?).any Process.reading then .ok () (w.mapProc i (.append b))
        else (killMonitor k).run (w.mapProc i .failWrite) := by
  cases packet with
  | none => rfl
  | some p =>
    cases hb : pcapPacket ts_sec ts_usec p with
    | none => simp [monitorCallback, hb]
    | some b =>
      obtain ⟨running, wp, pt, procs, timers, reg⟩ := w
      cases wp with
      | none => simp [monitorCallback, hb]
      | some i =>
        simp only [monitorCallback, Option.some_bind, hb, orStructError_some, M.run_bind,
          M.run_pure, M.next_ok, M.run_tryCatch, M.run_get, write_run, M.run_ite]
        split <;> rfl

theorem callback_eq (k : Kind) (ev : Event) :
    callback k ev =
      if k.accepts ev then monitorCallback k ev.packet ev.tsSec ev.tsUsec else pure () := by
  cases k <;> cases ev <;> rfl

theorem noteDelivery_run (ev : Event) :
    (noteDelivery ev).run w = .ok ()
      (match w.wireshark_process with
       | some i => w.mapProc i (.note ev)
       | none => w) := by
  obtain ⟨running, wp, pt, procs, timers, reg⟩ := w
  cases wp <;> rfl

/-- A delivery: the ghost notes the event on the viewer held, then the callback runs. -/
theorem deliverOnce_run (k : Kind) (ev : Event) :
    (deliverOnce k ev).run w =
      match w.wireshark_process with
      | some i => (callback k ev).run (w.mapProc i (.note ev))
      | none => (callback k ev).run w := by
  simp only [deliverOnce, M.run_bind, noteDelivery_run, M.next_ok]
  split <;> rfl

theorem fire_run (k : Kind) (t : Nat) :
    (fire k t).run w =
      if (w.timers[t]?).getD false then (pollTimer k).run { w with timers := w.timers.set t false }
      else .ok () w := by
  simp only [fire, M.run_bind, M.run_get, M.next_ok, M.run_ite, M.run_modify, M.run_pure]

/-! ## 4. Properties a method keeps -/

/-- **`x` keeps `P`**: from any world where `P` holds, `x` leaves a world where it holds,
whether it returns or raises. -/
def Keeps {α : Type} (P : World → Prop) (x : M α) : Prop :=
  ∀ w, P w → P (after x w)

section Keeps

variable {α β : Type} {P : World → Prop}

theorem Keeps.bind {x : M α} {f : α → M β} (hx : Keeps P x) (hf : ∀ a, Keeps P (f a)) :
    Keeps P (x >>= f) := by
  intro w hw
  have hx' := hx w hw
  rw [after_eq] at hx'
  rw [after_eq, M.run_bind]
  cases h : x.run w with
  | ok a w' => rw [h] at hx'; exact hf a w' hx'
  | error e w' => rw [h] at hx'; exact hx'

theorem Keeps.pure (a : α) : Keeps P (pure a : M α) := fun _ hw => hw

theorem Keeps.ite (c : Prop) [Decidable c] {x y : M α} (hx : Keeps P x) (hy : Keeps P y) :
    Keeps P (if c then x else y) := by
  split
  · exact hx
  · exact hy

/-- A delivery to every registration keeps what each delivery keeps. -/
theorem Keeps.dispatch {k : Kind} {ev : Event} (h : Keeps P (deliverOnce k ev)) :
    ∀ n, Keeps P (dispatch k ev n)
  | 0 => Keeps.pure ()
  | n + 1 => Keeps.bind h fun _ => Keeps.dispatch h n

theorem Keeps.getStatus : Keeps P getStatus := fun _ hw => hw

/-- A timer firing keeps what `_pollTimer` keeps, when spending the timer keeps it too. -/
theorem Keeps.fire {k : Kind} {t : Nat}
    (htimer : ∀ w, P w → P { w with timers := w.timers.set t false })
    (hpoll : Keeps P (pollTimer k)) : Keeps P (InternalBlue.fire k t) := by
  intro w hw
  rw [after_eq, fire_run]
  split
  · exact hpoll _ (htimer w hw)
  · exact hw

/-- A delivery keeps what each call of the callback on an event of its kind keeps. -/
theorem Keeps.deliver {k : Kind} {ev : Event}
    (h : k.accepts ev = true → Keeps P (deliverOnce k ev)) : Keeps P (act k (.deliver ev)) := by
  simp only [act]
  split
  · exact Keeps.bind (fun _ hw => hw) fun _ => Keeps.dispatch (h ‹_›) _
  · exact Keeps.pure _

/-- `work` keeps what each command it runs keeps. -/
theorem Keeps.work {k : Kind} {command : String} {launch : Launch}
    (hstart : Keeps P (startMonitor k launch)) (hstop : Keeps P (stopMonitor k))
    (hkill : Keeps P (killMonitor k)) : Keeps P (InternalBlue.work k command launch) := by
  unfold InternalBlue.work
  refine Keeps.ite _ (hstart.bind fun _ => Keeps.pure _) (Keeps.ite _ ?_ ?_)
  · exact Keeps.getStatus.bind fun _ => Keeps.pure _
  · exact Keeps.ite _ (hstop.bind fun _ => Keeps.pure _)
      (Keeps.ite _ (hkill.bind fun _ => Keeps.pure _) (Keeps.pure _))

end Keeps

end InternalBlue
