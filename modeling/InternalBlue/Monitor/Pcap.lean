/-
# The capture stream: `struct.pack` and a reference reader

`_spawnWireshark` writes a pcap global header into the viewer's stdin, and every callback
then writes one record, `struct.pack('@ I I I I', ts_sec, ts_usec, length, length) + packet`.
This module embeds the part of `struct.pack` those two calls use: the format characters
`I`, `H` and `i` in native mode on a little-endian host, where NEITHER format needs a pad
byte.  It gives the exact bytes of the header (`pcapHeader_eq`) and of a record
(`pcapPacket_eq`), and a REFERENCE READER, `parseStream`, which reads the global header and
then records delimited by their `incl_len` field.  The round trip `parseStream_encode` says
that the reader gets back the link type and every record of any stream of that shape.
-/
import InternalBlue.Bytes

namespace InternalBlue

/-! ## 1. `struct.pack` -/

/-- The format characters of `struct.pack` that `cmds.py` uses: `I` (unsigned int), `H`
(unsigned short) and `i` (int). -/
inductive FormatChar
  | I
  | H
  | i
deriving DecidableEq, Repr

/-- One field in native mode on x86: an `I` or an `i` is four little-endian bytes, an `H`
two; a value out of the field's range is a `struct.error`. -/
def FormatChar.pack : FormatChar → Int → Option Bytes
  | .I, .ofNat n => if n < 2 ^ 32 then some (leBytes 4 n) else none
  | .H, .ofNat n => if n < 2 ^ 16 then some (leBytes 2 n) else none
  | .i, .ofNat n => if n < 2 ^ 31 then some (leBytes 4 n) else none
  | .i, .negSucc n => if n < 2 ^ 31 then some (leBytes 4 (2 ^ 32 - (n + 1))) else none
  | _, .negSucc _ => none

/-- `struct.pack(fmt, *values)` for a format whose fields need no padding: the fields in
order, or `struct.error` on a bad value or a wrong number of values. -/
def structPack : List FormatChar → List Int → Option Bytes
  | [], [] => some []
  | c :: cs, v :: vs => do
    let b ← c.pack v
    let bs ← structPack cs vs
    return b ++ bs
  | _, _ => none

theorem pack_I {n : Nat} (h : n < 2 ^ 32) : FormatChar.I.pack n = some (leBytes 4 n) :=
  if_pos h

theorem pack_H {n : Nat} (h : n < 2 ^ 16) : FormatChar.H.pack n = some (leBytes 2 n) :=
  if_pos h

theorem pack_i {n : Nat} (h : n < 2 ^ 31) : FormatChar.i.pack n = some (leBytes 4 n) :=
  if_pos h

/-- A field that packs puts its bytes in front of the rest. -/
theorem structPack_cons {c : FormatChar} {v : Int} {b : Bytes} (h : c.pack v = some b)
    (cs : List FormatChar) (vs : List Int) :
    structPack (c :: cs) (v :: vs) = (structPack cs vs).map (b ++ ·) := by
  simp only [structPack, h, Option.bind_eq_bind, Option.some_bind]
  cases structPack cs vs <;> rfl

/-! ## 2. The global header and the records -/

/-- `PCAP_MAGICAL_NUMBER`, `0xA1B2C3D4`: a reader that sees its bytes in this order knows
the stream is little-endian. -/
def pcapMagicalNumber : Nat := 2712847316

/-- `pcap_header` in `_spawnWireshark`: `PCAP_GLOBAL_HEADER_FMT` packed with version 2.4, no
time-zone correction, no timestamp accuracy, a snapshot length of 65535 and the
controller's `pcap_data_link_type`. -/
def pcapHeader (pcap_data_link_type : Nat) : Option Bytes :=
  structPack [.I, .H, .H, .i, .I, .I, .I]
    [pcapMagicalNumber, 2, 4, 0, 0, 65535, pcap_data_link_type]

/-- The 24 bytes a capture stream starts with. -/
def globalHeaderBytes (linkType : Nat) : Bytes :=
  leBytes 4 pcapMagicalNumber ++ leBytes 2 2 ++ leBytes 2 4 ++ leBytes 4 0 ++ leBytes 4 0 ++
    leBytes 4 65535 ++ leBytes 4 linkType

theorem pcapHeader_eq {linkType : Nat} (h : linkType < 2 ^ 32) :
    pcapHeader linkType = some (globalHeaderBytes linkType) := by
  show structPack _ [((pcapMagicalNumber : Nat) : Int), ((2 : Nat) : Int), ((4 : Nat) : Int),
    ((0 : Nat) : Int), ((0 : Nat) : Int), ((65535 : Nat) : Int), (linkType : Int)] = _
  rw [structPack_cons (pack_I (by decide)), structPack_cons (pack_H (by decide)),
    structPack_cons (pack_H (by decide)), structPack_cons (pack_i (by decide)),
    structPack_cons (pack_I (by decide)), structPack_cons (pack_I (by decide)),
    structPack_cons (pack_I h)]
  rfl

@[simp] theorem length_globalHeaderBytes (linkType : Nat) :
    (globalHeaderBytes linkType).length = 24 := rfl

/-- One captured record as a reader sees it: the timestamp and the body. -/
structure PcapRecord where
  ts_sec : Nat
  ts_usec : Nat
  body : Bytes
deriving DecidableEq, Repr

/-- The record's fields fit their `I` slots. -/
def PcapRecord.Fits (r : PcapRecord) : Prop :=
  r.ts_sec < 2 ^ 32 ∧ r.ts_usec < 2 ^ 32 ∧ r.body.length < 2 ^ 32

/-- The bytes of one record: `ts_sec`, `ts_usec`, then `incl_len = orig_len = len(body)`, then
the body. -/
def PcapRecord.encode (r : PcapRecord) : Bytes :=
  leBytes 4 r.ts_sec ++ leBytes 4 r.ts_usec ++ leBytes 4 r.body.length ++
    leBytes 4 r.body.length ++ r.body

@[simp] theorem length_encode (r : PcapRecord) : r.encode.length = 16 + r.body.length := by
  simp [PcapRecord.encode]; omega

/-- `pcap_packet` in `hciCallback` and `lmpCallback`: the record header packed in front of the
packet, or `struct.error`. -/
def pcapPacket (ts_sec ts_usec : Nat) (packet : Bytes) : Option Bytes := do
  let length := packet.length
  let hdr ← structPack [.I, .I, .I, .I] [ts_sec, ts_usec, length, length]
  return hdr ++ packet

theorem pcapPacket_eq {r : PcapRecord} (h : r.Fits) :
    pcapPacket r.ts_sec r.ts_usec r.body = some r.encode := by
  obtain ⟨h₁, h₂, h₃⟩ := h
  rw [pcapPacket, structPack_cons (pack_I h₁), structPack_cons (pack_I h₂),
    structPack_cons (pack_I h₃), structPack_cons (pack_I h₃)]
  simp [structPack, PcapRecord.encode]

/-! ## 3. The reference reader -/

/-- Read a `w`-byte little-endian field off the front of `s`. -/
def readLE (w : Nat) (s : Bytes) : Option (Nat × Bytes) :=
  if w ≤ s.length then some (leValue (s.take w), s.drop w) else none

/-- Read `n` raw bytes off the front of `s`. -/
def readBytes (n : Nat) (s : Bytes) : Option (Bytes × Bytes) :=
  if n ≤ s.length then some (s.take n, s.drop n) else none

theorem readLE_append {w : Nat} {b : Bytes} (h : b.length = w) (rest : Bytes) :
    readLE w (b ++ rest) = some (leValue b, rest) := by
  simp [readLE, ← h]

/-- Reading a field whose bytes are known, in the middle of a reader. -/
theorem readLE_append_bind {w : Nat} {b : Bytes} (h : b.length = w) (rest : Bytes) {α : Type}
    (f : Nat × Bytes → Option α) : (readLE w (b ++ rest) >>= f) = f (leValue b, rest) := by
  rw [readLE_append h]; rfl

theorem readBytes_append_bind {n : Nat} {b : Bytes} (h : b.length = n) (rest : Bytes) {α : Type}
    (f : Bytes × Bytes → Option α) : (readBytes n (b ++ rest) >>= f) = f (b, rest) := by
  simp [readBytes, ← h]

/-- The global header: checks the magic number and returns the link type. -/
def parseGlobalHeader (s : Bytes) : Option (Nat × Bytes) := do
  let (magic, s) ← readLE 4 s
  let (_version_major, s) ← readLE 2 s
  let (_version_minor, s) ← readLE 2 s
  let (_thiszone, s) ← readLE 4 s
  let (_sigfigs, s) ← readLE 4 s
  let (_snaplen, s) ← readLE 4 s
  let (network, s) ← readLE 4 s
  if magic = pcapMagicalNumber then some (network, s) else none

/-- The records, each delimited by its `incl_len`, which must equal its `orig_len`; `fuel`
bounds the number of records. -/
def parseRecords : Nat → Bytes → Option (List PcapRecord)
  | 0, s => if s = [] then some [] else none
  | fuel + 1, s =>
    if s = [] then some [] else do
      let (ts_sec, s) ← readLE 4 s
      let (ts_usec, s) ← readLE 4 s
      let (incl_len, s) ← readLE 4 s
      let (orig_len, s) ← readLE 4 s
      let (body, s) ← readBytes incl_len s
      if incl_len = orig_len then
        let rs ← parseRecords fuel s
        return ⟨ts_sec, ts_usec, body⟩ :: rs
      else none

/-- A whole capture stream: its link type and its records. -/
def parseStream (s : Bytes) : Option (Nat × List PcapRecord) := do
  let (network, s) ← parseGlobalHeader s
  let rs ← parseRecords s.length s
  return (network, rs)

theorem parseGlobalHeader_bytes {linkType : Nat} (h : linkType < 2 ^ 32) (rest : Bytes) :
    parseGlobalHeader (globalHeaderBytes linkType ++ rest) = some (linkType, rest) := by
  have hmagic : leValue (leBytes 4 pcapMagicalNumber) = pcapMagicalNumber :=
    leValue_leBytes_of_lt (by decide)
  have hlink : leValue (leBytes 4 linkType) = linkType := leValue_leBytes_of_lt (by omega)
  simp only [parseGlobalHeader, globalHeaderBytes, List.append_assoc,
    readLE_append_bind (length_leBytes _ _), hmagic, hlink, if_true]

theorem parseRecords_encode {rs : List PcapRecord} (hfit : ∀ r ∈ rs, r.Fits) :
    ∀ {fuel}, rs.length ≤ fuel → parseRecords fuel (rs.map PcapRecord.encode).flatten = some rs := by
  induction rs with
  | nil => intro fuel _; cases fuel <;> rfl
  | cons r rs ih =>
    intro fuel hlen
    obtain ⟨fuel, rfl⟩ : ∃ f, fuel = f + 1 := ⟨fuel - 1, by simp at hlen; omega⟩
    obtain ⟨h₁, h₂, h₃⟩ := hfit r (List.mem_cons_self r rs)
    have hne : r.encode ++ (rs.map PcapRecord.encode).flatten ≠ [] :=
      List.ne_nil_of_length_pos (by rw [List.length_append, length_encode]; omega)
    have hrs := ih (fun r' hr' => hfit r' (List.mem_cons_of_mem r hr'))
      (Nat.le_of_succ_le_succ hlen)
    have hsec : leValue (leBytes 4 r.ts_sec) = r.ts_sec := leValue_leBytes_of_lt (by omega)
    have husec : leValue (leBytes 4 r.ts_usec) = r.ts_usec := leValue_leBytes_of_lt (by omega)
    have hlen : leValue (leBytes 4 r.body.length) = r.body.length :=
      leValue_leBytes_of_lt (by omega)
    simp only [parseRecords, List.map_cons, List.flatten_cons, if_neg hne, PcapRecord.encode,
      List.append_assoc, readLE_append_bind (length_leBytes _ _),
      readBytes_append_bind rfl, hsec, husec, hlen, if_true, hrs]
    rfl

theorem length_le_length_flatten_encode (rs : List PcapRecord) :
    rs.length ≤ (rs.map PcapRecord.encode).flatten.length := by
  induction rs with
  | nil => rfl
  | cons r rs ih => simp at ih ⊢; omega

/-- **The reader recovers the stream.**  From the header and the records written one after
another, `parseStream` returns the link type and every record, in order. -/
theorem parseStream_encode {linkType : Nat} (h : linkType < 2 ^ 32) {rs : List PcapRecord}
    (hfit : ∀ r ∈ rs, r.Fits) :
    parseStream (globalHeaderBytes linkType ++ (rs.map PcapRecord.encode).flatten) =
      some (linkType, rs) := by
  simp only [parseStream, Option.bind_eq_bind, parseGlobalHeader_bytes h, Option.some_bind,
    parseRecords_encode hfit (length_le_length_flatten_encode rs)]
  rfl

end InternalBlue
