/-
# Two ways the controller loses track of its viewer

* `failed_start_stays_running`: `startHciMonitor` and `startLmpMonitor` set
  `self.running = True` BEFORE `_spawnWireshark()`.  When `Popen` raises, or the header write
  does, the exception leaves the method with the monitor marked running and no callback
  registered: every later start is refused as "already running", and the next stop or kill
  unregisters a callback that was never registered.
* `monitor_outlives_viewer`: the poll timer is scheduled only by `_spawnWireshark` and by a
  poll that sees the viewer alive.  A stop lets the pending poll lapse, and a later start
  reuses the viewer without scheduling one, so the viewer can exit unnoticed while the
  monitor runs.  And a poll stops the monitor only on exit status 0 (`poll() == 0` under the
  comment "Process has ended"): a viewer that exits with another status is polled again,
  forever, with the monitor still running.
-/
import InternalBlue.Monitor.Methods

namespace InternalBlue

/-! ## 1. A failed start -/

/-- **A failed start leaves the monitor marked running.**  From any state with the monitor
stopped and no viewer held, a start whose viewer launch raises (`Popen` raising `OSError`,
or a viewer that exits before reading, so that the header write raises `IOError`) raises
out of the start, leaves `running` True, registers nothing and schedules no poll; every
later start is then refused, and the next stop or kill unregisters once. -/
theorem failed_start_stays_running (k : Kind) (w : World) (hr : w.running = false)
    (hw : w.wireshark_process = none) (launch : Launch) (hl : launch ≠ .runs) :
    let w' := after (startMonitor k launch) w
    (∃ e, (startMonitor k launch).run w = .error e w') ∧
      w'.running = true ∧ w'.registered = w.registered ∧ w'.poll_timer = w.poll_timer ∧
      (∀ launch', (startMonitor k launch').run w' = .ok false w') ∧
      (stopMonitor k).run w' = .ok true { w' with registered := w.registered - 1, running := false } ∧
      (after (killMonitor k) w').registered = w.registered - 1 := by
  obtain ⟨e, w', hrun, hrun', hreg, hpt⟩ : ∃ e w', (startMonitor k launch).run w = .error e w' ∧
      w'.running = true ∧ w'.registered = w.registered ∧ w'.poll_timer = w.poll_timer := by
    rw [startMonitor_run, hr, hw]
    cases launch with
    | fails => exact ⟨_, _, rfl, rfl, rfl, rfl⟩
    | exits code => exact ⟨_, _, rfl, rfl, rfl, rfl⟩
    | runs => exact absurd rfl hl
  simp only [after_error hrun]
  refine ⟨⟨e, hrun⟩, hrun', hreg, hpt, fun launch' => ?_, ?_, ?_⟩
  · rw [startMonitor_run, if_pos hrun']
  · rw [stopMonitor_run, if_pos hrun', hreg]
  · rw [after_ok (killMonitor_run w' k)]
    simp [hrun', hreg]

/-- A fresh HCI controller whose `Popen` raises `OSError`. -/
theorem failed_start_stays_running_init :
    let w' := after (startMonitor .hci .fails) World.init
    (∃ e, (startMonitor .hci .fails).run World.init = .error e w') ∧
      w'.running = true ∧ w'.registered = World.init.registered ∧
      w'.poll_timer = World.init.poll_timer ∧
      (∀ launch', (startMonitor .hci launch').run w' = .ok false w') ∧
      (stopMonitor .hci).run w' =
        .ok true { w' with registered := World.init.registered - 1, running := false } ∧
      (after (killMonitor .hci) w').registered = World.init.registered - 1 :=
  failed_start_stays_running .hci World.init rfl rfl .fails (by decide)

/-! ## 2. A viewer nobody polls -/

/-- With no poll pending, poll firings change nothing. -/
theorem run_fire_idle (k : Kind) {w : World} (h : ∀ t : Nat, (w.timers[t]?).getD false = false) :
    ∀ ts : List Nat, run k (ts.map .fire) w = w
  | [] => rfl
  | t :: ts => by
    have hstep : step k w (.fire t) = w := by
      rw [step, after_eq, act, fire_run, if_neg (by rw [h t]; decide)]
      rfl
    rw [List.map_cons, run, List.foldl_cons, hstep]
    exact run_fire_idle k h ts

/-- A running monitor whose viewer `i` ended with status `c`, and whose pending poll is timer
`t`, the last one scheduled. -/
structure Lingering (w : World) (i t : Nat) (c : Int) : Prop where
  running : w.running = true
  held : w.wireshark_process = some i
  exited : (w.procs[i]?).bind Process.returncode = some c
  length_timers : w.timers.length = t + 1
  pending : w.timers[t]? = some true
  named : w.poll_timer = some t

/-- **A poll that finds a status other than 0 schedules the next poll** and leaves the
monitor running with the ended viewer. -/
theorem Lingering.fire {k : Kind} {w : World} {i t : Nat} {c : Int} (h : Lingering w i t c)
    (hc : c ≠ 0) : Lingering (step k w (.fire t)) i (t + 1) c := by
  have hpend : (w.timers[t]?).getD false = true := by rw [h.pending]; rfl
  have hrc : some c ≠ some (0 : Int) := by simpa using hc
  rw [step, after_eq, act, fire_run, if_pos hpend, ← after_eq, after_ok (pollTimer_run _ k)]
  dsimp only
  simp only [h.running, h.held, h.exited, Option.isSome_some, if_true, if_neg hrc]
  refine ⟨rfl, rfl, ?_, ?_, ?_, ?_⟩ <;>
    simp [Option.bind_map, Function.comp_def, h.exited, h.length_timers]

/-- So it does forever: firing each poll as it is scheduled never stops the monitor. -/
theorem Lingering.fires {k : Kind} {i : Nat} {c : Int} (hc : c ≠ 0) :
    ∀ (n : Nat) {w : World} {t : Nat}, Lingering w i t c →
      Lingering (run k ((List.range' t n).map .fire) w) i (t + n) c
  | 0, _, _, h => h
  | n + 1, w, t, h => by
    have := Lingering.fires (k := k) hc n (h.fire (k := k) hc)
    rw [Nat.add_right_comm] at this
    simpa [List.range'_succ, run] using this

/-- **The monitor outlives its viewer.**  After a start, a stop, the lapse of the pending
poll and a second start, the monitor runs with the first viewer and no poll pending: when
that viewer exits, no poll firing notices.  And after a start and the viewer exiting with
status 1, however many times the pending poll fires, the monitor still runs with that
viewer, the next poll scheduled. -/
theorem monitor_outlives_viewer (k : Kind) :
    (let w := run k [.work "start" .runs, .work "stop" .runs, .fire 0, .work "start" .runs]
      World.init
     w.running = true ∧ w.wireshark_process = some 0 ∧
      (∀ t : Nat, (w.timers[t]?).getD false = false) ∧
     ∀ ts : List Nat,
      let w' := run k (.exit 0 0 :: ts.map .fire) w
      w'.running = true ∧ w'.wireshark_process = some 0 ∧
        (w'.procs[0]?).bind Process.returncode = some 0) ∧
    ∀ n : Nat,
      let w := run k ([.work "start" .runs, .exit 0 1] ++ (List.range n).map .fire) World.init
      w.running = true ∧ w.wireshark_process = some 0 ∧
        (w.procs[0]?).bind Process.returncode = some 1 ∧ w.poll_timer = some n ∧
        w.timers[n]? = some true := by
  have hidle : ∀ w : World, w.timers = [false] → ∀ t : Nat, (w.timers[t]?).getD false = false := by
    intro w hw t
    rw [hw]
    cases t <;> rfl
  refine ⟨?_, fun n => ?_⟩
  · intro w
    have hw : w.running = true ∧ w.wireshark_process = some 0 ∧ w.timers = [false] := by
      cases k <;> decide
    have hexit : let w' := step k w (.exit 0 0)
        w'.running = true ∧ w'.wireshark_process = some 0 ∧ w'.timers = [false] ∧
          (w'.procs[0]?).bind Process.returncode = some 0 := by
      cases k <;> decide
    refine ⟨hw.1, hw.2.1, hidle w hw.2.2, fun ts => ?_⟩
    have hrun : run k (.exit 0 0 :: ts.map .fire) w = step k w (.exit 0 0) :=
      run_fire_idle k (hidle _ hexit.2.2.1) ts
    simp only [hrun]
    exact ⟨hexit.1, hexit.2.1, hexit.2.2.2⟩
  · have h0 : Lingering (run k [.work "start" .runs, .exit 0 1] World.init) 0 0 1 := by
      constructor <;> cases k <;> decide
    have h := Lingering.fires (k := k) (by decide) n h0
    rw [Nat.zero_add] at h
    rw [List.range_eq_range', run, List.foldl_append]
    exact ⟨h.running, h.held, h.exited, h.named, h.pending⟩

end InternalBlue
