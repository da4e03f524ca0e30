/-
# The controller's invariant: registration, viewer and processes agree

Over any run in which every viewer launch succeeds, whatever the order of commands, poll
firings, deliveries and viewer exits, every reachable world satisfies `Inv`:

* `registered` is 1 while `running` and 0 otherwise, so the callback is registered exactly
  when the monitor runs, and never twice;
* a running monitor holds a viewer;
* every viewer the controller started, other than the one it holds, has been REAPED:
  `terminate()` and `wait()` ran on it, or `poll()` saw it end.  So the controller never
  starts a second viewer while one it started is still unaccounted for.

Each method keeps `Inv` (`keeps_inv_*`), hence every action does (`keeps_inv_act`) and so
does every run (`inv_run`).  `monitor_invariant` states it of the worlds reachable from
`__init__`, with what a start returns there.  `deliver_raises_only_structError` is what the
invariant buys the callbacks: no `AttributeError` and no `IOError` ever escapes a delivery,
only the `struct.error` of a packet that cannot be packed.
-/
import InternalBlue.Monitor.Methods

namespace InternalBlue

/-- An action whose viewer launch, if it makes one, succeeds: `Popen` starts a viewer that
reads its input. -/
def Action.LaunchSucceeds : Action → Prop
  | .work _ launch => launch = .runs
  | _ => True

/-- The invariant of the controller and its world. -/
structure Inv (w : World) : Prop where
  registered_eq : w.registered = if w.running then 1 else 0
  held_of_running : w.running = true → w.wireshark_process.isSome
  held_lt : ∀ i, w.wireshark_process = some i → i < w.procs.length
  held_of_unreaped :
    ∀ i p, w.procs[i]? = some p → p.reaped = false → w.wireshark_process = some i

theorem inv_init : Inv World.init where
  registered_eq := rfl
  held_of_running h := nomatch h
  held_lt _ h := nomatch h
  held_of_unreaped _ _ h := by simp [World.init] at h

/-! ## 1. Processes -/

/-- Changing one process in a way that never un-reaps it keeps the invariant. -/
theorem Inv.mapProc {w : World} (h : Inv w) {f : Process → Process}
    (hf : ∀ p, p.reaped = true → (f p).reaped = true) (i : Nat) : Inv (w.mapProc i f) where
  registered_eq := h.registered_eq
  held_of_running := h.held_of_running
  held_lt j hj := by simpa using h.held_lt j hj
  held_of_unreaped j p hp hr := by
    obtain ⟨q, hq, rfl⟩ := getElem?_modify_eq_some hp
    refine h.held_of_unreaped j q hq ?_
    split at hr
    · cases hqr : q.reaped
      · rfl
      · simp [hf q hqr] at hr
    · exact hr

/-- **Reaping the viewer held leaves every process reaped**: the others were reaped already. -/
theorem Inv.reaped_of_modify_held {w : World} (h : Inv w) {i : Nat}
    (hw : w.wireshark_process = some i) {f : Process → Process} {j : Nat} {p : Process}
    (hp : (w.procs.modify f i)[j]? = some p) (hf : ∀ q, (f q).reaped = true) :
    p.reaped = true := by
  obtain ⟨q, hq, rfl⟩ := getElem?_modify_eq_some hp
  split
  · exact hf q
  · rename_i hij
    by_contra hrq
    exact hij (Option.some_injective _
      (hw.symm.trans (h.held_of_unreaped j q hq (by simpa using hrq))))

/-! ## 2. Each method keeps the invariant -/

theorem keeps_inv_modifyProc {f : Process → Process}
    (hf : ∀ p, p.reaped = true → (f p).reaped = true) (i : Nat) : Keeps Inv (modifyProc i f) :=
  fun _ h => h.mapProc hf i

theorem keeps_inv_startMonitor (k : Kind) : Keeps Inv (startMonitor k .runs) := by
  intro w h
  rw [after_eq, startMonitor_run]
  cases hr : w.running
  · have hreg : w.registered = 0 := by simpa [hr] using h.registered_eq
    cases hw : w.wireshark_process with
    | some i =>
      exact ⟨by simp [hreg], by simp, fun j hj => h.held_lt j (hw.trans hj),
        fun j p hp hrp => hw.symm.trans (h.held_of_unreaped j p hp hrp)⟩
    | none =>
      refine ⟨by simp [hreg], by simp, fun j hj => by simp at hj ⊢; omega,
        fun j p hp hrp => ?_⟩
      rcases getElem?_append_single hp with hp | ⟨rfl, -⟩
      · simp [h.held_of_unreaped j p hp hrp] at hw
      · rfl
  · simpa using h

theorem keeps_inv_stopMonitor (k : Kind) : Keeps Inv (stopMonitor k) := by
  intro w h
  rw [after_eq, stopMonitor_run]
  cases hr : w.running
  · simpa using h
  · exact ⟨by simp [h.registered_eq, hr], by simp, h.held_lt, h.held_of_unreaped⟩

theorem keeps_inv_killMonitor (k : Kind) : Keeps Inv (killMonitor k) := by
  intro w h
  rw [after_ok (killMonitor_run w k)]
  refine ⟨by cases hr : w.running <;> simp [h.registered_eq, hr], by simp, by simp,
    fun j p hp hrp => ?_⟩
  exfalso
  cases hw : w.wireshark_process with
  | none => simp only [hw] at hp; simp [h.held_of_unreaped j p hp hrp] at hw
  | some i =>
    simp only [hw] at hp
    split at hp
    · rename_i hreaped
      have hji := Option.some_injective _ ((h.held_of_unreaped j p hp hrp).symm.trans hw)
      subst hji
      simp [hp, hrp] at hreaped
    · rw [List.modify_modify_eq] at hp
      simp [h.reaped_of_modify_held hw hp fun _ => rfl] at hrp

theorem keeps_inv_pollTimer (k : Kind) : Keeps Inv (pollTimer k) := by
  intro w h
  rw [after_ok (pollTimer_run w k)]
  dsimp only
  split
  · rename_i i hr hw
    have h' : Inv (if ((w.procs[i]?).bind Process.returncode).isSome then w.mapProc i .reap
        else w) := by
      split
      · exact h.mapProc (fun _ _ => rfl) i
      · exact h
    split
    · rename_i h0
      refine ⟨by split <;> simp [h.registered_eq, hr], by simp, by simp,
        fun j p hp hrp => ?_⟩
      exfalso
      simp only [h0, Option.isSome_some, if_true, World.mapProc] at hp
      simp [h.reaped_of_modify_held hw hp fun _ => rfl] at hrp
    · exact ⟨h'.registered_eq, h'.held_of_running, h'.held_lt, h'.held_of_unreaped⟩
  · exact h

theorem keeps_inv_monitorCallback (k : Kind) (packet : Option Bytes) (ts_sec ts_usec : Nat) :
    Keeps Inv (monitorCallback k packet ts_sec ts_usec) := by
  intro w h
  rw [after_eq, monitorCallback_run]
  cases packet.bind (pcapPacket ts_sec ts_usec) with
  | none => exact h
  | some b =>
    cases w.wireshark_process with
    | none => exact h
    | some i =>
      dsimp only
      by_cases hr : (w.procs[i]?).any Process.reading = true
      · rw [if_pos hr]; exact h.mapProc (by simp) i
      · rw [if_neg hr]; exact keeps_inv_killMonitor k _ (h.mapProc (by simp) i)

theorem keeps_inv_deliverOnce (k : Kind) (ev : Event) : Keeps Inv (deliverOnce k ev) := by
  refine Keeps.bind (fun w h => ?_) fun _ => ?_
  · rw [after_ok (noteDelivery_run w ev)]
    split
    · exact h.mapProc (by simp) _
    · exact h
  · rw [callback_eq]
    exact Keeps.ite _ (keeps_inv_monitorCallback _ _ _ _) (Keeps.pure _)

theorem keeps_inv_act (k : Kind) {a : Action} (ha : a.LaunchSucceeds) : Keeps Inv (act k a) := by
  cases a with
  | work command launch =>
    subst ha
    exact (Keeps.work (keeps_inv_startMonitor k) (keeps_inv_stopMonitor k)
      (keeps_inv_killMonitor k)).bind fun _ => Keeps.pure _
  | fire t =>
    exact Keeps.fire (fun _ h => ⟨h.registered_eq, h.held_of_running, h.held_lt,
      h.held_of_unreaped⟩) (keeps_inv_pollTimer k)
  | deliver ev => exact Keeps.deliver fun _ => keeps_inv_deliverOnce k ev
  | exit i code =>
    exact keeps_inv_modifyProc (fun p hp => by unfold Process.exit; split <;> exact hp) i
  | closeInput i => exact keeps_inv_modifyProc (by simp) i

/-! ## 3. Every run keeps it -/

theorem inv_run (k : Kind) :
    ∀ (acts : List Action) {w : World}, (∀ a ∈ acts, a.LaunchSucceeds) → Inv w →
      Inv (run k acts w)
  | [], _, _, h => h
  | a :: acts, w, hacts, h =>
    inv_run k acts (fun b hb => hacts b (List.mem_cons_of_mem a hb))
      (keeps_inv_act k (hacts a (List.mem_cons_self _ _)) w h)

/-- **The controller's invariant.**  In every world reachable from `__init__` by commands,
poll firings, deliveries, failed writes and viewer exits, with every viewer launch
succeeding: the callback is registered once while running and not at all otherwise; a
running monitor holds a viewer; every viewer it started and does not hold has been reaped;
and a start there succeeds exactly when the monitor is not running. -/
theorem monitor_invariant (k : Kind) (acts : List Action)
    (hacts : ∀ a ∈ acts, a.LaunchSucceeds) :
    let w := run k acts World.init
    (w.registered = if w.running then 1 else 0) ∧
    (w.running = true → w.wireshark_process.isSome) ∧
    (∀ i p, w.procs[i]? = some p → w.wireshark_process ≠ some i → p.reaped = true) ∧
    ∃ w', (startMonitor k .runs).run w = .ok (!w.running) w' := by
  have h := inv_run k acts hacts inv_init
  refine ⟨h.registered_eq, h.held_of_running, fun i p hp hne => ?_, ?_⟩
  · cases hr : p.reaped
    · exact absurd (h.held_of_unreaped i p hp hr) hne
    · rfl
  · rw [startMonitor_run]
    cases (run k acts World.init).running
    · cases (run k acts World.init).wireshark_process <;> exact ⟨_, rfl⟩
    · exact ⟨_, rfl⟩

/-- A start, a poll that finds the viewer alive, a kill and a second start. -/
theorem monitor_invariant_restart :
    let w := run .hci [.work "start" .runs, .fire 0, .work "kill" .runs, .work "start" .runs]
      World.init
    (w.registered = if w.running then 1 else 0) ∧
    (w.running = true → w.wireshark_process.isSome) ∧
    (∀ i p, w.procs[i]? = some p → w.wireshark_process ≠ some i → p.reaped = true) ∧
    ∃ w', (startMonitor .hci .runs).run w = .ok (!w.running) w' :=
  monitor_invariant .hci _ (by simp [Action.LaunchSucceeds])

/-! ## 4. What the invariant buys: a delivery raises only when packing fails -/

/-- **Only a `struct.error` escapes a delivery.**  In a world the invariant holds in, an
exception that leaves internalblue's delivery of an event is a `struct.error` from an event
of the controller's kind that cannot be packed (an LMP payload of 32 bytes or more),
delivered while the monitor runs.  A broken pipe never escapes: the callback catches the
`IOError` and kills the monitor, and the invariant rules out a callback with no viewer. -/
theorem deliver_raises_only_structError (k : Kind) (w : World) (h : Inv w) (ev : Event)
    (e : Exc) (w' : World) (herr : (act k (.deliver ev)).run w = .error e w') :
    e = .structError ∧ k.accepts ev = true ∧ w.running = true ∧ ev.pcapBytes = none := by
  simp only [act] at herr
  split at herr
  · rename_i ha
    simp only [M.run_bind, M.run_get, M.next_ok] at herr
    cases hr : w.running
    · simp [h.registered_eq, hr, dispatch] at herr
    · obtain ⟨i, hw⟩ := Option.isSome_iff_exists.mp (h.held_of_running hr)
      simp only [h.registered_eq, hr, if_true, Int.toNat_one, dispatch, M.run_bind,
        deliverOnce_run, hw, callback_eq, ha, monitorCallback_run, World.mapProc] at herr
      revert herr
      cases hb : ev.packet.bind (pcapPacket ev.tsSec ev.tsUsec) with
      | none => intro herr; exact ⟨by cases herr; rfl, ha, rfl, hb⟩
      | some b =>
        dsimp only
        split
        · simp
        · simp [killMonitor_run]
  · cases herr

/-- An LMP packet whose 32-byte payload overflows the length field. -/
def longLmp : Event :=
  .lmp ⟨List.replicate 32 0, true, [1, 2, 3, 4, 5, 6], [7, 8, 9, 10, 11, 12],
    ⟨0, 0, 0, 0, by decide, by decide, by decide, by decide⟩⟩

/-- It reaches a running LMP monitor, and its `struct.error` escapes. -/
theorem deliver_raises_only_structError_longLmp :
    Exc.structError = .structError ∧ Kind.lmp.accepts longLmp = true ∧
      (run .lmp [.work "start" .runs] World.init).running = true ∧ longLmp.pcapBytes = none :=
  deliver_raises_only_structError .lmp _
    (inv_run .lmp [.work "start" .runs] (by simp [Action.LaunchSucceeds]) inv_init) longLmp
    .structError _ rfl

end InternalBlue
