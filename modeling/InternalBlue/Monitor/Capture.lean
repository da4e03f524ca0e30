/-
# Reading a viewer's capture back

`Monitor/Stream.lean` shows that a viewer's stdin is the global header followed by the bytes
the callbacks wrote for the delivered events.  This module says what those bytes are, record
by record, in the terms of the capture format (`Event.body`, `Event.record`), shows that the
callbacks write exactly that (`pcapBytes_eq_encode`), and gives a reference reader,
`parseCapture`, that decodes a whole capture to what it shows of each event (`Captured`).

The main result, `capture_stream`: in any run, a viewer whose writes never raised and whose
LMP events were FRAMED (6-byte addresses, a payload under 32 bytes, the capacity of the
5-bit length field) holds the 24-byte global header for the controller's link type, then
one record per delivered event, in delivery order; and `parseCapture` returns that link
type and every event: for HCI the second and microsecond of `recvtime`, the direction bit
and the raw packet, for LMP every argument of `lmpCallback`, timestamp included.
-/
import InternalBlue.Monitor.Stream

namespace InternalBlue

/-! ## 1. The record of an event -/

/-- The six bytes of direction metadata an LMP record carries. -/
def directionMeta (sendByOwnDevice : Bool) : Bytes :=
  if sendByOwnDevice then [0, 0, 0, 0, 0, 0] else [1, 0, 0, 0, 0, 0]

/-- The last byte of the LMP packet header: the payload length above three set bits. -/
def lengthByte (n : Nat) : UInt8 :=
  UInt8.ofNat (n <<< 3 ||| 7)

/-- **The body of an event's record.**  HCI: `00 00 00`, the direction bit `flags & 1`, the
raw packet.  LMP: `dest`, `src`, `ff f0`, the direction metadata, `19 00 00`, the length
byte, the payload, and two CRC bytes. -/
def Event.body : Event → Bytes
  | .hci r => [0, 0, 0, UInt8.ofNat (r.flags &&& 0x01)] ++ r.raw
  | .lmp e => e.dest ++ e.src ++ [0xff, 0xf0] ++ directionMeta e.sendByOwnDevice ++
      [0x19, 0, 0, lengthByte e.lmp_packet.length] ++ e.lmp_packet ++ [0, 0]

/-- The record of an event: the callback's timestamps and the body. -/
def Event.record (ev : Event) : PcapRecord :=
  ⟨ev.tsSec, ev.tsUsec, ev.body⟩

/-- An event the capture can frame: an LMP packet with 6-byte addresses and a payload the
5-bit length field can count. -/
def Event.Framed : Event → Prop
  | .hci _ => True
  | .lmp e => e.src.length = 6 ∧ e.dest.length = 6 ∧ e.lmp_packet.length < 32

instance : DecidablePred Event.Framed := fun ev =>
  match ev with
  | .hci _ => instDecidableTrue
  | .lmp _ => instDecidableAnd

/-- The length byte of a payload under 32 bytes. -/
theorem lengthByte_eq : ∀ n < 32, n <<< 3 ||| 7 = n * 8 + 7 := by decide

theorem toNat_lengthByte {n : Nat} (h : n < 32) : (lengthByte n).toNat = n * 8 + 7 := by
  rw [lengthByte, toNat_uint8_ofNat, lengthByte_eq n h]
  omega

theorem packet_eq_body {ev : Event} (h : ev.Framed) : ev.packet = some ev.body := by
  cases ev with
  | hci r =>
    show hciPacket r = _
    rw [hciPacket, p8_of_lt (Nat.lt_of_le_of_lt Nat.and_le_right (by decide))]
    rfl
  | lmp e =>
    have hlen : e.lmp_packet.length < 32 := h.2.2
    show lmpPacket e = _
    rw [lmpPacket, p8_of_lt (by rw [lengthByte_eq _ hlen]; omega)]
    rfl

theorem record_fits {ev : Event} (h : ev.Framed) : ev.record.Fits := by
  cases ev with
  | hci r =>
    have := r.recvtime.second_lt
    have := r.recvtime.microsecond_lt
    have := r.raw_length_le
    refine ⟨?_, ?_, ?_⟩ <;> simp [Event.record, Event.tsSec, Event.tsUsec, Event.body] <;> omega
  | lmp e =>
    obtain ⟨hsrc, hdest, hlen⟩ := h
    have := e.timestamp.hour_lt
    have := e.timestamp.minute_lt
    have := e.timestamp.second_lt
    have := e.timestamp.microsecond_lt
    have hmeta : (directionMeta e.sendByOwnDevice).length = 6 := by
      cases e.sendByOwnDevice <;> rfl
    refine ⟨?_, ?_, ?_⟩ <;>
      simp [Event.record, Event.tsSec, Event.tsUsec, Event.body, hsrc, hdest, hmeta] <;> omega

/-- **The callback writes the record.**  For a framed event, `pcap_packet` is the record's
16-byte header (`ts_sec`, `ts_usec`, and the body length twice) followed by the body. -/
theorem pcapBytes_eq_encode {ev : Event} (h : ev.Framed) :
    ev.pcapBytes = some ev.record.encode := by
  rw [Event.pcapBytes, packet_eq_body h]
  exact pcapPacket_eq (record_fits h)

theorem filterMap_pcapBytes {evs : List Event} (h : ∀ ev ∈ evs, ev.Framed) :
    evs.filterMap Event.pcapBytes = evs.map fun ev => ev.record.encode := by
  induction evs with
  | nil => rfl
  | cons ev evs ih =>
    rw [List.filterMap_cons, pcapBytes_eq_encode (h ev (List.mem_cons_self ev evs)),
      ih fun e he => h e (List.mem_cons_of_mem ev he), List.map_cons]

/-! ## 2. A reader for the records -/

/-- What a capture shows of an event: for HCI the second and microsecond of `recvtime` (the
hour and minute are not written), the direction bit and the raw packet; for LMP every
argument of `lmpCallback`. -/
inductive Captured
  | hci (second microsecond direction : Nat) (raw : Bytes)
  | lmp (packet : LmpPacket)
deriving DecidableEq

def Event.captured : Event → Captured
  | .hci r => .hci r.recvtime.second r.recvtime.microsecond (r.flags &&& 0x01) r.raw
  | .lmp e => .lmp e

/-- The time of day that seconds since midnight and microseconds stand for. -/
def decodeTime (ts_sec ts_usec : Nat) : Option Time :=
  if h : ts_sec / 3600 < 24 ∧ ts_usec < 1000000 then
    some ⟨ts_sec / 3600, ts_sec / 60 % 60, ts_sec % 60, ts_usec, h.1, Nat.mod_lt _ (by decide),
      Nat.mod_lt _ (by decide), h.2⟩
  else none

/-- An HCI record: three zero bytes, the direction, the raw packet. -/
def decodeHci (r : PcapRecord) : Option Captured :=
  match r.body with
  | a :: b :: c :: direction :: raw =>
    if [a, b, c] = [0, 0, 0] then some (.hci r.ts_sec r.ts_usec direction.toNat raw) else none
  | _ => none

def decodeDirection (meta_data : Bytes) : Option Bool :=
  if meta_data = directionMeta true then some true
  else if meta_data = directionMeta false then some false
  else none

/-- The fixed bytes of an LMP record: the Ethernet type, the packet header, the three set
bits under the length, and the CRC. -/
def lmpFramingOk (eth_type packet_header crc : Bytes) (len : Nat) : Prop :=
  eth_type = [0xff, 0xf0] ∧ packet_header = [0x19, 0, 0] ∧ len % 8 = 7 ∧ crc = [0, 0]

instance (eth_type packet_header crc : Bytes) (len : Nat) :
    Decidable (lmpFramingOk eth_type packet_header crc len) :=
  inferInstanceAs (Decidable (_ ∧ _))

/-- An LMP record: the addresses, the Ethernet type, the direction, the packet header, a
payload as long as the length byte says, and two CRC bytes. -/
def decodeLmp (r : PcapRecord) : Option Captured := do
  let (dest, s) ← readBytes 6 r.body
  let (src, s) ← readBytes 6 s
  let (eth_type, s) ← readBytes 2 s
  let (meta_data, s) ← readBytes 6 s
  let (packet_header, s) ← readBytes 3 s
  let (len, s) ← readLE 1 s
  let (lmp_packet, crc) ← readBytes (len >>> 3) s
  let sendByOwnDevice ← decodeDirection meta_data
  let timestamp ← decodeTime r.ts_sec r.ts_usec
  if lmpFramingOk eth_type packet_header crc len then
    some (.lmp ⟨lmp_packet, sendByOwnDevice, src, dest, timestamp⟩)
  else none

/-- A record, read by the framing its link type names. -/
def decodeRecord (pcap_data_link_type : Nat) (r : PcapRecord) : Option Captured :=
  if pcap_data_link_type = 0xC9 then decodeHci r
  else if pcap_data_link_type = 0x01 then decodeLmp r
  else none

/-- **The reference reader**: the global header, the records, and what each shows. -/
def parseCapture (s : Bytes) : Option (Nat × List Captured) := do
  let (network, records) ← parseStream s
  let events ← records.mapM (decodeRecord network)
  return (network, events)

/-! ## 3. The reader recovers every event -/

theorem decodeTime_tsSec (t : Time) :
    decodeTime (t.second + t.minute * 60 + t.hour * 60 * 60) t.microsecond = some t := by
  have := t.hour_lt
  have := t.minute_lt
  have := t.second_lt
  rw [decodeTime, dif_pos ⟨by omega, t.microsecond_lt⟩]
  congr 1
  ext <;> simp <;> omega

theorem decodeHci_record (r : HciRecord) :
    decodeHci (Event.hci r).record = some (Event.hci r).captured := by
  have hdir : (UInt8.ofNat (r.flags &&& 0x01)).toNat = r.flags &&& 0x01 := by
    rw [toNat_uint8_ofNat]
    exact Nat.mod_eq_of_lt (Nat.lt_of_le_of_lt Nat.and_le_right (by decide))
  simp only [decodeHci, Event.record, Event.body, List.cons_append, List.nil_append, if_true,
    hdir]
  rfl

theorem decodeDirection_directionMeta (b : Bool) : decodeDirection (directionMeta b) = some b := by
  cases b <;> rfl

theorem decodeLmp_record {e : LmpPacket} (h : (Event.lmp e).Framed) :
    decodeLmp (Event.lmp e).record = some (Event.lmp e).captured := by
  obtain ⟨hsrc, hdest, hlen⟩ := h
  have hmeta : (directionMeta e.sendByOwnDevice).length = 6 := by
    cases e.sendByOwnDevice <;> rfl
  have hbyte : leValue [lengthByte e.lmp_packet.length] = e.lmp_packet.length * 8 + 7 := by
    simp [toNat_lengthByte hlen]
  have hshift : (e.lmp_packet.length * 8 + 7) >>> 3 = e.lmp_packet.length := by
    rw [Nat.shiftRight_eq_div_pow]
    omega
  have hbody : (Event.lmp e).record.body = e.dest ++ (e.src ++ ([0xff, 0xf0] ++
      (directionMeta e.sendByOwnDevice ++ ([0x19, 0, 0] ++ ([lengthByte e.lmp_packet.length] ++
      (e.lmp_packet ++ [0, 0])))))) := by
    simp [Event.record, Event.body]
  have hts : (Event.lmp e).record.ts_sec =
      e.timestamp.second + e.timestamp.minute * 60 + e.timestamp.hour * 60 * 60 := rfl
  have hus : (Event.lmp e).record.ts_usec = e.timestamp.microsecond := rfl
  have hok : lmpFramingOk [0xff, 0xf0] [0x19, 0, 0] [0, 0] (e.lmp_packet.length * 8 + 7) :=
    ⟨rfl, rfl, by omega, rfl⟩
  rw [decodeLmp, hbody]
  simp only [readBytes_append_bind hdest, readBytes_append_bind hsrc,
    readBytes_append_bind (by rfl : [(0xff : UInt8), 0xf0].length = 2),
    readBytes_append_bind hmeta, readBytes_append_bind (by rfl : [(0x19 : UInt8), 0, 0].length = 3),
    readLE_append_bind (by rfl : [lengthByte e.lmp_packet.length].length = 1), hbyte, hshift,
    readBytes_append_bind rfl, decodeDirection_directionMeta, hts, hus, decodeTime_tsSec]
  simp only [Option.bind_eq_bind, Option.some_bind, if_pos hok]
  rfl

/-- **Each record decodes to its event**, by the framing of the controller's link type. -/
theorem decodeRecord_record {k : Kind} {ev : Event} (ha : k.accepts ev = true) (h : ev.Framed) :
    decodeRecord k.pcapDataLinkType ev.record = some ev.captured := by
  cases k <;> cases ev <;> simp only [Kind.accepts, Bool.false_eq_true] at ha
  · exact decodeHci_record _
  · exact decodeLmp_record h

theorem mapM_map_eq_some {α β γ : Type} {f : β → Option γ} {g : α → β} {h : α → γ} :
    ∀ {l : List α}, (∀ a ∈ l, f (g a) = some (h a)) → (l.map g).mapM f = some (l.map h)
  | [], _ => rfl
  | a :: l, hl => by
    simp only [List.map_cons, List.mapM_cons, hl a (List.mem_cons_self a l),
      mapM_map_eq_some fun b hb => hl b (List.mem_cons_of_mem a hb)]
    rfl

/-- **The reader recovers every event** from a header and the records of framed events of
the controller's kind. -/
theorem parseCapture_encode {k : Kind} {evs : List Event}
    (ha : ∀ ev ∈ evs, k.accepts ev = true) (h : ∀ ev ∈ evs, ev.Framed) :
    parseCapture (globalHeaderBytes k.pcapDataLinkType ++
      (evs.map fun ev => ev.record.encode).flatten) =
      some (k.pcapDataLinkType, evs.map Event.captured) := by
  have hfit : ∀ r ∈ evs.map Event.record, r.Fits := by
    simp only [List.mem_map]
    rintro _ ⟨ev, hev, rfl⟩
    exact record_fits (h ev hev)
  have henc : (evs.map fun ev => ev.record.encode) =
      (evs.map Event.record).map PcapRecord.encode := by
    rw [List.map_map]; rfl
  simp only [parseCapture, henc, Option.bind_eq_bind,
    parseStream_encode (pcapDataLinkType_lt k) hfit, Option.some_bind,
    mapM_map_eq_some fun ev hev => decodeRecord_record (ha ev hev) (h ev hev)]
  rfl

/-! ## 4. Every viewer's capture -/

/-- **Every viewer's capture.**  In any run of a controller from `__init__`, with any
launches, a viewer none of whose writes raised, and whose delivered LMP events are framed,
holds the global header for the controller's link type followed by one record per delivered
event, in delivery order; and the reference reader returns that link type and every
event. -/
theorem capture_stream (k : Kind) (acts : List Action) (i : Nat) (p : Process)
    (hp : (run k acts World.init).procs[i]? = some p) (hw : p.writeFailed = false)
    (hframed : ∀ ev ∈ p.delivered, ev.Framed) :
    p.stdin = globalHeaderBytes k.pcapDataLinkType ++
      (p.delivered.map fun ev => ev.record.encode).flatten ∧
    parseCapture p.stdin = some (k.pcapDataLinkType, p.delivered.map Event.captured) := by
  have hs := streams_run k acts (streams_init k) i p hp
  have hstdin : p.stdin = globalHeaderBytes k.pcapDataLinkType ++
      (p.delivered.map fun ev => ev.record.encode).flatten := by
    rw [hs.stdin_eq hw, filterMap_pcapBytes hframed]
  refine ⟨hstdin, ?_⟩
  rw [hstdin]
  exact parseCapture_encode hs.accepts hframed

/-- An LMP packet the device sent itself at 01:02:03.000004. -/
def sampleLmp : LmpPacket :=
  ⟨[0x01, 0x02], true, [1, 2, 3, 4, 5, 6], [7, 8, 9, 10, 11, 12],
    ⟨1, 2, 3, 4, by decide, by decide, by decide, by decide⟩⟩

/-- An LMP monitor started, then one packet delivered. -/
theorem capture_stream_sampleLmp :
    ∃ p, (run .lmp [.work "start" .runs, .deliver (.lmp sampleLmp)] World.init).procs[0]? =
        some p ∧ p.writeFailed = false ∧ (∀ ev ∈ p.delivered, ev.Framed) ∧
      p.stdin = globalHeaderBytes Kind.lmp.pcapDataLinkType ++
        (p.delivered.map fun ev => ev.record.encode).flatten ∧
      parseCapture p.stdin = some (Kind.lmp.pcapDataLinkType, p.delivered.map Event.captured) := by
  have hf : ∀ ev ∈ [Event.lmp sampleLmp], ev.Framed := by decide
  exact ⟨_, rfl, rfl, hf,
    capture_stream .lmp [.work "start" .runs, .deliver (.lmp sampleLmp)] 0 _ rfl rfl hf⟩

end InternalBlue
