/-
# The liveness poll: at most one, and `killMonitor` stops it

`_spawnWireshark` schedules a poll timer, and `_pollTimer` schedules the next one only when
it finds the viewer alive; `killMonitor` cancels the timer `poll_timer` names.  Over every
run, with ANY launches, commands, firings, deliveries and viewer exits, every reachable world
satisfies `PollsOk`: a pending poll timer is the one `poll_timer` names, and it is pending
only while a viewer is held.  So at most one poll is ever pending, and `killMonitor`, which
cancels only that one, leaves none (`one_poll_pending`).

A poll cannot keep `PollsOk` by itself: run from a world whose named timer is still
pending, a poll that drops the viewer would leave that timer pending with no viewer.  The
firing spends the timer first, and the proof follows it: spending the one pending timer
leaves none (`PollsOk.spend`), and a poll from there keeps `PollsOk`
(`pollsOk_pollTimer`).
-/
import InternalBlue.Monitor.Methods

namespace InternalBlue

/-! ## 1. The invariant -/

/-- **The one liveness poll**: a pending poll timer is the one `poll_timer` names, and is
pending only while a viewer is held. -/
def PollsOk (w : World) : Prop :=
  ∀ t : Nat, w.timers[t]? = some true → w.poll_timer = some t ∧ w.wireshark_process.isSome

/-- No poll timer is pending. -/
def NoPoll (w : World) : Prop :=
  ∀ t : Nat, w.timers[t]? ≠ some true

section PollsOk

variable {w : World}

theorem NoPoll.pollsOk (h : NoPoll w) : PollsOk w :=
  fun t ht => absurd ht (h t)

theorem PollsOk.noPoll (h : PollsOk w) (hw : w.wireshark_process = none) : NoPoll w :=
  fun t ht => by simpa [hw] using (h t ht).2

/-- A timer still pending after the list was changed at `t0` only is one pending before. -/
theorem pending_of_set {l : List Bool} {t t0 : Nat} (ht : (l.set t0 false)[t]? = some true) :
    t ≠ t0 ∧ l[t]? = some true := by
  rw [List.getElem?_set] at ht
  split at ht
  · split at ht <;> simp at ht
  · exact ⟨fun h => by simp_all, ht⟩

/-- **Spending the pending timer leaves none pending.** -/
theorem PollsOk.spend (h : PollsOk w) {t : Nat} (ht : w.timers[t]? = some true) :
    NoPoll { w with timers := w.timers.set t false } := by
  intro t' ht'
  obtain ⟨hne, ht'⟩ := pending_of_set ht'
  exact hne (Option.some_injective _ ((h t' ht').1.symm.trans (h t ht).1))

theorem pending_of_getD {l : List Bool} {t : Nat} (h : (l[t]?).getD false = true) :
    l[t]? = some true := by
  cases hl : l[t]? with
  | none => simp [hl] at h
  | some b => simp_all

end PollsOk

theorem pollsOk_init : PollsOk World.init :=
  fun _ h => by simp [World.init] at h

/-! ## 2. Each method keeps it -/

theorem keeps_polls_startMonitor (k : Kind) (launch : Launch) :
    Keeps PollsOk (startMonitor k launch) := by
  intro w h
  rw [after_eq, startMonitor_run]
  cases w.running
  · cases hw : w.wireshark_process with
    | some i => exact fun t ht => ⟨(h t ht).1, rfl⟩
    | none =>
      cases launch with
      | fails => exact NoPoll.pollsOk (h.noPoll hw)
      | exits code => exact NoPoll.pollsOk (h.noPoll hw)
      | runs =>
        intro t ht
        rcases getElem?_append_single ht with ht | ⟨rfl, -⟩
        · exact absurd ht (h.noPoll hw t)
        · exact ⟨rfl, rfl⟩
  · exact h

theorem keeps_polls_stopMonitor (k : Kind) : Keeps PollsOk (stopMonitor k) := by
  intro w h
  rw [after_eq, stopMonitor_run]
  split <;> exact h

/-- **A kill leaves no poll pending**: it cancels the timer `poll_timer` names, the only one
that can be pending. -/
theorem noPoll_killMonitor (k : Kind) {w : World} (h : PollsOk w) :
    NoPoll (after (killMonitor k) w) := by
  rw [after_ok (killMonitor_run w k)]
  intro t ht
  dsimp only at ht
  split at ht
  · rename_i t0 hpt
    obtain ⟨hne, ht⟩ := pending_of_set ht
    exact hne (Option.some_injective _ ((h t ht).1.symm.trans hpt))
  · rename_i hpt
    simp [(h t ht).1] at hpt

theorem keeps_polls_killMonitor (k : Kind) : Keeps PollsOk (killMonitor k) :=
  fun _ h => (noPoll_killMonitor k h).pollsOk

/-- A poll from a world with no poll pending: dropping the viewer leaves none pending, and
scheduling the next poll makes it the one `poll_timer` names. -/
theorem pollsOk_pollTimer (k : Kind) {w : World} (h : NoPoll w) :
    PollsOk (after (pollTimer k) w) := by
  rw [after_ok (pollTimer_run w k)]
  dsimp only
  split
  · rename_i i _ hw
    have htimers : (if ((w.procs[i]?).bind Process.returncode).isSome then w.mapProc i .reap
        else w).timers = w.timers := by split <;> rfl
    have hwp : (if ((w.procs[i]?).bind Process.returncode).isSome then w.mapProc i .reap
        else w).wireshark_process = w.wireshark_process := by split <;> rfl
    split
    · refine NoPoll.pollsOk fun t => ?_
      dsimp only
      rw [htimers]
      exact h t
    · intro t ht
      dsimp only at ht ⊢
      rw [htimers] at ht ⊢
      rcases getElem?_append_single ht with ht | ⟨rfl, -⟩
      · exact absurd ht (h t)
      · exact ⟨rfl, by rw [hwp, hw]; rfl⟩
  · exact h.pollsOk

theorem keeps_polls_fire (k : Kind) (t : Nat) : Keeps PollsOk (fire k t) := by
  intro w h
  rw [after_eq, fire_run]
  split
  · exact pollsOk_pollTimer k (h.spend (pending_of_getD ‹_›))
  · exact h

theorem keeps_polls_monitorCallback (k : Kind) (packet : Option Bytes) (ts_sec ts_usec : Nat) :
    Keeps PollsOk (monitorCallback k packet ts_sec ts_usec) := by
  intro w h
  rw [after_eq, monitorCallback_run]
  cases packet.bind (pcapPacket ts_sec ts_usec) with
  | none => exact h
  | some b =>
    cases w.wireshark_process with
    | none => exact h
    | some i =>
      dsimp only
      split
      · exact h
      · exact keeps_polls_killMonitor k _ h

theorem keeps_polls_act (k : Kind) (a : Action) : Keeps PollsOk (act k a) := by
  cases a with
  | work command launch =>
    exact (Keeps.work (keeps_polls_startMonitor k launch) (keeps_polls_stopMonitor k)
      (keeps_polls_killMonitor k)).bind fun _ => Keeps.pure _
  | fire t => exact keeps_polls_fire k t
  | deliver ev =>
    refine Keeps.deliver fun _ => Keeps.bind (fun w h => ?_) fun _ => ?_
    · rw [after_ok (noteDelivery_run w ev)]
      split <;> exact h
    · rw [callback_eq]
      exact Keeps.ite _ (keeps_polls_monitorCallback _ _ _ _) (Keeps.pure _)
  | exit i code => exact fun _ h => h
  | closeInput i => exact fun _ h => h

/-! ## 3. Every run keeps it -/

theorem polls_run (k : Kind) :
    ∀ (acts : List Action) {w : World}, PollsOk w → PollsOk (run k acts w)
  | [], _, h => h
  | a :: acts, w, h => polls_run k acts (keeps_polls_act k a w h)

/-- **At most one liveness poll, and a kill stops it.**  In every world reachable from
`__init__`, with any launches: a pending poll timer is the one `poll_timer` names, so at most
one is pending, and only while a viewer is held; and `killMonitor` there leaves no poll
pending. -/
theorem one_poll_pending (k : Kind) (acts : List Action) :
    let w := run k acts World.init
    (∀ t : Nat, w.timers[t]? = some true → w.poll_timer = some t ∧ w.wireshark_process.isSome) ∧
      ∀ t : Nat, (after (killMonitor k) w).timers[t]? ≠ some true :=
  have h := polls_run k acts pollsOk_init
  ⟨h, noPoll_killMonitor k h⟩

end InternalBlue
