/-
# What the commands print: `encode('hex')`, `bt_addr_to_str` and `%x`

`CmdInfo` prints keys, features and random numbers with Python 2's `s.encode('hex')`, two
LOWER-case digits per byte, and Bluetooth addresses with `bt_addr_to_str`, which joins those
pairs with colons.  The commands that take bytes from the operator (`writemem --hex`,
`patch --hex`, `sendlmp`, `sendhcicmd`) read them with `s.decode('hex')`, `hexDecode` in
`Search.lean`, which takes digits of EITHER case.

* `hexDecode_hexEncode`: what `encode('hex')` prints, `decode('hex')` reads back byte for byte;
* `hexDecode_eq_some_iff`: and a string decodes to `s` EXACTLY when it is the encoding of `s`
  up to the case of its letters, so what `decode('hex')` accepts is well formed;
* `btAddrToStr_injective`: deleting the colons from `bt_addr_to_str` leaves `encode('hex')`,
  so two addresses never print alike.

The `yesno` questions in front of a write name the address with `'%08x'`: `formatHex`.
-/
import InternalBlue.Search

namespace InternalBlue

/-! ## 1. `encode('hex')` -/

/-- The two lower-case digits `binascii.b2a_hex` writes for one byte, high half first. -/
def hexPair (b : UInt8) : List Char :=
  [Nat.digitChar (b.toNat / 16), Nat.digitChar (b.toNat % 16)]

/-- Python 2's `s.encode('hex')`. -/
def hexEncode (s : Bytes) : String := ⟨s.flatMap hexPair⟩

@[simp] theorem hexEncode_nil : (hexEncode []).data = [] := rfl

@[simp] theorem hexEncode_cons (b : UInt8) (s : Bytes) :
    (hexEncode (b :: s)).data =
      Nat.digitChar (b.toNat / 16) :: Nat.digitChar (b.toNat % 16) :: (hexEncode s).data := rfl

@[simp] theorem length_hexEncode (s : Bytes) : (hexEncode s).data.length = 2 * s.length := by
  induction s with
  | nil => rfl
  | cons b s ih => simp only [hexEncode_cons, List.length_cons, ih]; omega

/-- Each of the sixteen digits reads back as its value. -/
theorem hexDigit_digitChar : ∀ v < 16, hexDigit (Nat.digitChar v) = some v := by
  decide

/-- A byte is its high half times sixteen plus its low half. -/
theorem uint8_ofNat_halves (b : UInt8) : UInt8.ofNat (16 * (b.toNat / 16) + b.toNat % 16) = b := by
  rw [Nat.div_add_mod]
  exact UInt8.eq_of_toBitVec_eq (by simp [UInt8.ofNat, UInt8.toNat])

/-- **Decoding undoes encoding**: `s.encode('hex').decode('hex') == s` for every byte string. -/
theorem hexDecode_hexEncode (s : Bytes) : hexDecode (hexEncode s).data = some s := by
  induction s with
  | nil => rfl
  | cons b s ih =>
    have hb : b.toNat < 256 := b.toNat_lt_size
    rw [hexEncode_cons, hexDecode, hexDigit_digitChar _ (by omega), hexDigit_digitChar _ (by omega),
      ih]
    exact congrArg (some ∘ (· :: s)) (uint8_ofNat_halves b)

/-! ## 2. What `decode('hex')` accepts -/

/-- Only a character from `'0'` to `'f'` is a digit. -/
theorem toNat_mem_of_hexDigit {c : Char} {v : Nat} (h : hexDigit c = some v) :
    48 ≤ c.toNat ∧ c.toNat < 103 := by
  unfold hexDigit at h
  split_ifs at h with h1 h2 h3
  · exact ⟨h1.1, Nat.lt_succ_of_le (Char.le_trans h1.2 (by decide : '9' ≤ 'f'))⟩
  · exact ⟨Nat.le_trans (by decide) (h2.1 : 97 ≤ c.toNat), Nat.lt_succ_of_le h2.2⟩
  · exact ⟨Nat.le_trans (by decide) (h3.1 : 65 ≤ c.toNat),
      Nat.lt_succ_of_le (Char.le_trans h3.2 (by decide : 'F' ≤ 'f'))⟩

/-- From `'0'` to `'f'`, a digit's value is below sixteen and prints back as the digit in
lower case. -/
theorem hexDigit_table : ∀ i < 55, (hexDigit (Char.ofNat (48 + i))).all
    (fun v => v < 16 && Nat.digitChar v == (Char.ofNat (48 + i)).toLower) = true := by
  decide

/-- A digit's value is below sixteen and prints back as the digit in lower case. -/
theorem hexDigit_spec {c : Char} {v : Nat} (h : hexDigit c = some v) :
    v < 16 ∧ Nat.digitChar v = c.toLower := by
  obtain ⟨h48, h103⟩ := toNat_mem_of_hexDigit h
  have := hexDigit_table (c.toNat - 48) (by omega)
  rw [Nat.add_sub_cancel' h48, Char.ofNat_toNat, h] at this
  simpa using this

/-- **What `decode('hex')` accepts is an encoding**: the lower-case form of every string it
accepts is `encode('hex')` of what it returns. -/
theorem hexEncode_hexDecode {cs : List Char} {s : Bytes} (h : hexDecode cs = some s) :
    (hexEncode s).data = cs.map Char.toLower := by
  induction cs using hexDecode.induct generalizing s with
  | case1 => cases h; rfl
  | case2 => cases h
  | case3 a b rest ih =>
    simp only [hexDecode, Option.bind_eq_bind, Option.bind_eq_some, Option.pure_def,
      Option.some_inj] at h
    obtain ⟨hi, hhi, lo, hlo, tail, htail, rfl⟩ := h
    obtain ⟨hhi16, ha⟩ := hexDigit_spec hhi
    obtain ⟨hlo16, hb⟩ := hexDigit_spec hlo
    have hv : (UInt8.ofNat (16 * hi + lo)).toNat = 16 * hi + lo := by
      rw [toNat_uint8_ofNat]; omega
    have e1 : (16 * hi + lo) / 16 = hi := by omega
    have e2 : (16 * hi + lo) % 16 = lo := by omega
    rw [hexEncode_cons, hv, e1, e2, ha, hb, ih htail, List.map_cons, List.map_cons]

/-- Lower-casing a character never changes its value as a digit. -/
theorem hexDigit_toLower (c : Char) : hexDigit c.toLower = hexDigit c := by
  have table : ∀ i < 26, hexDigit (Char.ofNat (97 + i)) = hexDigit (Char.ofNat (65 + i)) := by
    decide
  by_cases h : c.toNat ≥ 65 ∧ c.toNat ≤ 90
  · have := table (c.toNat - 65) (by omega)
    rwa [show 97 + (c.toNat - 65) = c.toNat + 32 by omega,
      show 65 + (c.toNat - 65) = c.toNat by omega, Char.ofNat_toNat,
      ← show c.toLower = Char.ofNat (c.toNat + 32) from if_pos h] at this
  · rw [show c.toLower = c from if_neg h]

/-- `decode('hex')` does not see the case of the letters. -/
theorem hexDecode_map_toLower (cs : List Char) : hexDecode (cs.map Char.toLower) = hexDecode cs := by
  induction cs using hexDecode.induct with
  | case1 => rfl
  | case2 => rfl
  | case3 a b rest ih => simp only [List.map_cons, hexDecode, hexDigit_toLower, ih]

/-- **`decode('hex')` reads exactly what `encode('hex')` writes, in either case.**  A string
decodes to `s` exactly when its lower-case form is `s.encode('hex')`. -/
theorem hexDecode_eq_some_iff (cs : List Char) (s : Bytes) :
    hexDecode cs = some s ↔ (hexEncode s).data = cs.map Char.toLower := by
  refine ⟨hexEncode_hexDecode, fun h => ?_⟩
  rw [← hexDecode_map_toLower, ← h, hexDecode_hexEncode]

/-! ## 3. `bt_addr_to_str` -/

/-- `bt_addr_to_str(bt_addr)`: `":".join([b.encode("hex") for b in bt_addr])`. -/
def btAddrToStr (bt_addr : Bytes) : String := ⟨[':'].intercalate (bt_addr.map hexPair)⟩

/-- No digit is a colon. -/
theorem colon_not_mem_hexPair (b : UInt8) : ':' ∉ hexPair b := by
  have hd : ∀ v < 16, Nat.digitChar v ≠ ':' := by decide
  have hb : b.toNat < 256 := b.toNat_lt_size
  simp only [hexPair, List.mem_cons, List.not_mem_nil, or_false, not_or]
  exact ⟨(hd _ (by omega)).symm, (hd _ (by omega)).symm⟩

/-- A piece without the separator is left as it is. -/
theorem filter_bne_of_not_mem {c : Char} {l : List Char} (h : c ∉ l) : l.filter (· != c) = l :=
  List.filter_eq_self.mpr fun _ hx => bne_iff_ne.mpr fun hxc => h (hxc ▸ hx)

/-- Deleting the separator from a join of pieces that never hold it leaves the pieces. -/
theorem filter_intercalate {c : Char} :
    ∀ {ls : List (List Char)}, (∀ l ∈ ls, c ∉ l) → ([c].intercalate ls).filter (· != c) = ls.flatten
  | [], _ => rfl
  | [l], h => by
    simpa [List.intercalate] using filter_bne_of_not_mem (h l (List.mem_singleton_self l))
  | l :: l' :: ls, h => by
    have ih := @filter_intercalate c (l' :: ls) fun m hm => h m (List.mem_cons_of_mem l hm)
    simp only [List.intercalate, List.intersperse_cons₂, List.flatten_cons, List.filter_append] at ih ⊢
    rw [filter_bne_of_not_mem (h l (List.mem_cons_self l _)), ih]
    simp

/-- Deleting the colons from `bt_addr_to_str` leaves `encode('hex')`. -/
theorem filter_btAddrToStr (bt_addr : Bytes) :
    (btAddrToStr bt_addr).data.filter (· != ':') = (hexEncode bt_addr).data :=
  filter_intercalate fun l hl => by
    obtain ⟨b, -, rfl⟩ := List.mem_map.mp hl
    exact colon_not_mem_hexPair b

/-- The address is read back from `bt_addr_to_str` by deleting the colons and decoding. -/
theorem hexDecode_filter_btAddrToStr (bt_addr : Bytes) :
    hexDecode ((btAddrToStr bt_addr).data.filter (· != ':')) = some bt_addr := by
  rw [filter_btAddrToStr, hexDecode_hexEncode]

/-- **Two addresses never print alike**: the address can be read back from `bt_addr_to_str`
by deleting the colons and decoding. -/
theorem btAddrToStr_injective : Function.Injective btAddrToStr := fun a b h =>
  Option.some_inj.mp <| by rw [← hexDecode_filter_btAddrToStr a, h, hexDecode_filter_btAddrToStr]

/-! ## 4. `'%0*x'` -/

/-- Python's `'%0*x' % (width, n)`: the lower-case hex digits of `|n|` after a minus sign when
`n < 0`, filled with zeros between the two up to `width` characters in all. -/
def formatHex (width : Nat) (n : Int) : String :=
  let sign := if n < 0 then ['-'] else []
  let digits := Nat.toDigits 16 n.natAbs
  ⟨sign ++ List.replicate (width - sign.length - digits.length) '0' ++ digits⟩

/-! ## 5. `sep.join(words)` -/

theorem intercalate_go_data (sep acc : String) (ws : List String) :
    (String.intercalate.go acc sep ws).data = acc.data ++ ws.flatMap (sep.data ++ ·.data) := by
  induction ws generalizing acc with
  | nil => simp [String.intercalate.go]
  | cons w ws ih => simp [String.intercalate.go, ih, String.append]

/-- `sep.join([w] + ws)`: the first word, then the separator and the next word, in turn. -/
theorem intercalate_cons_data (sep w : String) (ws : List String) :
    (sep.intercalate (w :: ws)).data = w.data ++ ws.flatMap (sep.data ++ ·.data) :=
  intercalate_go_data sep w ws

end InternalBlue
