/-
# Record times against arrival times

The callbacks stamp each record with `(ts_sec, ts_usec)`.  `lmpCallback` takes the seconds
since midnight of `timestamp`; `hciCallback` takes `recvtime.second` ONLY, the minute and
hour terms standing commented out under a FIXME.  So on one calendar day:

* `lmp_record_time_le_iff`: LMP records order exactly as their receive times;
* `hci_record_time_le_iff`: HCI records do too, but only within one minute;
* `hci_record_time_lt_of_second_lt`: across a minute an HCI event whose second is smaller is
  stamped EARLIER, whichever of the two events came first;
* `record_times_follow_arrival`: hence, over every run, the records an LMP viewer is sent never
  run backwards against the receive times, nor those an HCI viewer is sent within one minute;
  and a started HCI monitor that receives an event at 00:00:59 and then one at 00:01:00
  writes records stamped 59 s and then 0 s.
-/
import InternalBlue.Monitor.Capture
import Mathlib.Data.Prod.Lex

namespace InternalBlue

/-! ## 1. Times and their order -/

/-- The time an event was received: `recvtime` for HCI, `timestamp` for LMP. -/
def Event.time : Event → Time
  | .hci r => r.recvtime
  | .lmp e => e.timestamp

/-- The microseconds since midnight. -/
def Time.sinceMidnight (t : Time) : Nat :=
  ((t.hour * 60 + t.minute) * 60 + t.second) * 1000000 + t.microsecond

/-- `datetime`'s order on one calendar day, by the microseconds since midnight
(`Time.le_iff_fields`: field by field from the hour down). -/
instance : LE Time := ⟨fun a b => a.sinceMidnight ≤ b.sinceMidnight⟩

instance (a b : Time) : Decidable (a ≤ b) :=
  inferInstanceAs (Decidable (a.sinceMidnight ≤ b.sinceMidnight))

/-- A record's `(ts_sec, ts_usec)`, ordered as Python orders tuples. -/
def PcapRecord.time (r : PcapRecord) : Lex (Nat × Nat) := toLex (r.ts_sec, r.ts_usec)

/-- Pairs whose second parts stay under a million order as `first * 1000000 + second`. -/
theorem toLex_le_iff {a b c d : Nat} (hb : b < 1000000) (hd : d < 1000000) :
    toLex (a, b) ≤ toLex (c, d) ↔ a * 1000000 + b ≤ c * 1000000 + d := by
  rw [Prod.Lex.le_iff]
  omega

/-- The order on times is `datetime`'s: hour, then minute, then second, then microsecond. -/
theorem Time.le_iff_fields (a b : Time) :
    a ≤ b ↔ toLex (a.hour, toLex (a.minute, toLex (a.second, a.microsecond))) ≤
      toLex (b.hour, toLex (b.minute, toLex (b.second, b.microsecond))) := by
  have := a.minute_lt; have := a.second_lt; have := a.microsecond_lt
  have := b.minute_lt; have := b.second_lt; have := b.microsecond_lt
  show a.sinceMidnight ≤ b.sinceMidnight ↔ _
  simp only [Prod.Lex.le_iff, Time.sinceMidnight]
  omega

/-! ## 2. One pair of records -/

/-- **An LMP record's time is its receive time**: two records order as the receive times. -/
theorem lmp_record_time_le_iff (e₁ e₂ : LmpPacket) :
    (Event.lmp e₁).record.time ≤ (Event.lmp e₂).record.time ↔ e₁.timestamp ≤ e₂.timestamp := by
  have h₁ : (Event.lmp e₁).record.ts_usec < 1000000 := e₁.timestamp.microsecond_lt
  have h₂ : (Event.lmp e₂).record.ts_usec < 1000000 := e₂.timestamp.microsecond_lt
  rw [PcapRecord.time, PcapRecord.time, toLex_le_iff h₁ h₂]
  show _ ↔ Time.sinceMidnight _ ≤ Time.sinceMidnight _
  simp only [Event.record, Event.tsSec, Event.tsUsec, Time.sinceMidnight]
  omega

/-- **Within one minute an HCI record's time orders as the receive time.** -/
theorem hci_record_time_le_iff {r₁ r₂ : HciRecord} (hh : r₁.recvtime.hour = r₂.recvtime.hour)
    (hm : r₁.recvtime.minute = r₂.recvtime.minute) :
    (Event.hci r₁).record.time ≤ (Event.hci r₂).record.time ↔ r₁.recvtime ≤ r₂.recvtime := by
  have h₁ : (Event.hci r₁).record.ts_usec < 1000000 := r₁.recvtime.microsecond_lt
  have h₂ : (Event.hci r₂).record.ts_usec < 1000000 := r₂.recvtime.microsecond_lt
  rw [PcapRecord.time, PcapRecord.time, toLex_le_iff h₁ h₂]
  show _ ↔ Time.sinceMidnight _ ≤ Time.sinceMidnight _
  simp only [Event.record, Event.tsSec, Event.tsUsec, Time.sinceMidnight, hh, hm]
  omega

/-- **An HCI record carries only the second**: a smaller second is an earlier record, whatever
the minute and hour of the two events. -/
theorem hci_record_time_lt_of_second_lt {r₁ r₂ : HciRecord}
    (h : r₂.recvtime.second < r₁.recvtime.second) :
    (Event.hci r₂).record.time < (Event.hci r₁).record.time :=
  (Prod.Lex.lt_iff _ _).mpr (.inl h)

/-! ## 3. Every viewer's records -/

/-- A viewer is sent only events of its controller's kind. -/
theorem delivered_accepted {k : Kind} {acts : List Action} {i : Nat} {p : Process}
    (hp : (run k acts World.init).procs[i]? = some p) : ∀ ev ∈ p.delivered, k.accepts ev = true :=
  (streams_run k acts (streams_init k) i p hp).accepts

theorem lmp_delivered_times {acts : List Action} {i : Nat} {p : Process}
    (hp : (run .lmp acts World.init).procs[i]? = some p) :
    p.delivered.Pairwise fun e₁ e₂ => e₁.time ≤ e₂.time → e₁.record.time ≤ e₂.record.time := by
  refine List.pairwise_of_forall_mem_list fun e₁ h₁ e₂ h₂ => ?_
  have ha₁ := delivered_accepted hp e₁ h₁
  have ha₂ := delivered_accepted hp e₂ h₂
  cases e₁ <;> cases e₂ <;> simp only [Kind.accepts, Bool.false_eq_true] at ha₁ ha₂
  exact (lmp_record_time_le_iff _ _).mpr

theorem hci_delivered_times {acts : List Action} {i : Nat} {p : Process}
    (hp : (run .hci acts World.init).procs[i]? = some p) :
    p.delivered.Pairwise fun e₁ e₂ => e₁.time.hour = e₂.time.hour →
      e₁.time.minute = e₂.time.minute → e₁.time ≤ e₂.time → e₁.record.time ≤ e₂.record.time := by
  refine List.pairwise_of_forall_mem_list fun e₁ h₁ e₂ h₂ => ?_
  have ha₁ := delivered_accepted hp e₁ h₁
  have ha₂ := delivered_accepted hp e₂ h₂
  cases e₁ <;> cases e₂ <;> simp only [Kind.accepts, Bool.false_eq_true] at ha₁ ha₂
  exact fun hh hm => (hci_record_time_le_iff hh hm).mpr

/-- An HCI event received at 00:00:59.000000: the `Command Complete` of `HCI_Reset`. -/
def hciAt0059 : HciRecord :=
  ⟨[0x04, 0x0e, 0x04, 0x01, 0x03, 0x0c, 0x00], 0, ⟨0, 0, 59, 0, by decide, by decide,
    by decide, by decide⟩, by decide⟩

/-- The same event received a second later, at 00:01:00.000000. -/
def hciAt0100 : HciRecord :=
  ⟨[0x04, 0x0e, 0x04, 0x01, 0x03, 0x0c, 0x00], 0, ⟨0, 1, 0, 0, by decide, by decide,
    by decide, by decide⟩, by decide⟩

/-- **Record times follow arrival only for LMP, and for HCI within a minute.**  In every run
from `__init__`, the records an LMP viewer is sent never run backwards against the receive
times, and the records an HCI viewer is sent never do within one minute.  Across a minute an
HCI event with a smaller second gets the earlier record, so a started HCI monitor that is
delivered an event received at 00:00:59 and then one received at 00:01:00 writes, in that
order, records stamped 59 s and 0 s. -/
theorem record_times_follow_arrival :
    (∀ (acts : List Action) (i : Nat) (p : Process), (run .lmp acts World.init).procs[i]? = some p →
      p.delivered.Pairwise fun e₁ e₂ => e₁.time ≤ e₂.time → e₁.record.time ≤ e₂.record.time) ∧
    (∀ (acts : List Action) (i : Nat) (p : Process), (run .hci acts World.init).procs[i]? = some p →
      p.delivered.Pairwise fun e₁ e₂ => e₁.time.hour = e₂.time.hour →
        e₁.time.minute = e₂.time.minute → e₁.time ≤ e₂.time → e₁.record.time ≤ e₂.record.time) ∧
    (∀ r₁ r₂ : HciRecord, r₂.recvtime.second < r₁.recvtime.second →
      (Event.hci r₂).record.time < (Event.hci r₁).record.time) ∧
    ∃ p, (run .hci [.work "start" .runs, .deliver (.hci hciAt0059), .deliver (.hci hciAt0100)]
        World.init).procs[0]? = some p ∧
      p.delivered = [.hci hciAt0059, .hci hciAt0100] ∧ p.writeFailed = false ∧
      p.stdin = globalHeaderBytes Kind.hci.pcapDataLinkType ++
        (Event.hci hciAt0059).record.encode ++ (Event.hci hciAt0100).record.encode ∧
      (Event.hci hciAt0059).time ≤ (Event.hci hciAt0100).time ∧
      (Event.hci hciAt0100).record.time < (Event.hci hciAt0059).record.time :=
  ⟨fun _ _ _ => lmp_delivered_times, fun _ _ _ => hci_delivered_times,
    fun _ _ => hci_record_time_lt_of_second_lt,
    ⟨_, rfl, rfl, rfl, by decide, by decide, hci_record_time_lt_of_second_lt (by decide)⟩⟩

end InternalBlue
