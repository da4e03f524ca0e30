/-
# `CmdSearchMem`: the matches and the hexdump windows

`CmdSearchMem.work` escapes the pattern and lists `m.start(0)` for every match of
`re.finditer(re.escape(pattern), memimage)`.  For a literal pattern the regex engine tries
each offset from where it resumes, and after a match resumes at its END: so it reports the
occurrences of the pattern that it meets left to right without overlapping an earlier one,
not every occurrence.

* `finditer_eq_greedy`: the engine is `greedy` selection over `occurrences`, the list of every
  offset where the pattern occurs;
* `finditer_spec`: so its list is a sublist of the occurrences, consecutive matches are a
  pattern length apart, and every occurrence it skips starts inside a reported match;
* `finditer_overlap`: a run of three zero bytes holds the pattern `00 00` twice and yields
  one match.

For each match the command shows `memimage[startadr:endadr]` with
`startadr = (match & 0xFFFFFFF0) - context`.  `hexdumpWindow_spec` proves the window ends
past the match, and `hexdumpWindow_first_match` that near the start of the image `startadr` is
negative, where Python's slice counts from the END of the image.
-/
import InternalBlue.Bytes
import Mathlib.Data.Nat.Bitwise

namespace InternalBlue

/-! ## 1. The pattern -/

/-- The value of one hex digit. -/
def hexDigit (c : Char) : Option Nat :=
  if '0' ≤ c ∧ c ≤ '9' then some (c.toNat - '0'.toNat)
  else if 'a' ≤ c ∧ c ≤ 'f' then some (c.toNat - 'a'.toNat + 10)
  else if 'A' ≤ c ∧ c ≤ 'F' then some (c.toNat - 'A'.toNat + 10)
  else none

/-- Python 2's `s.decode('hex')`: pairs of hex digits, or `TypeError`. -/
def hexDecode : List Char → Option Bytes
  | [] => some []
  | [_] => none
  | a :: b :: rest => do
    let hi ← hexDigit a
    let lo ← hexDigit b
    let tail ← hexDecode rest
    return UInt8.ofNat (16 * hi + lo) :: tail

/-- `str(e)` for the `TypeError` of a failed `s.decode('hex')`: `binascii` checks the length
first, then the digits. -/
def hexError (s : List Char) : String :=
  if s.length % 2 = 1 then "Odd-length string" else "Non-hexadecimal digit found"

/-- The value of a non-empty string of hex digits. -/
def hexValue (ds : List Char) : Option Nat :=
  if ds.isEmpty then none else ds.foldlM (fun n c => (16 * n + ·) <$> hexDigit c) 0

/-- Python 2's `int(s, 16)`: blanks around, an optional sign, an optional `0x`, hex digits;
anything else is `ValueError`. -/
def pyIntBase16 (s : String) : Option Int :=
  let t := s.trim.data
  let (neg, t) := match t with
    | '-' :: t => (true, t)
    | '+' :: t => (false, t)
    | t => (false, t)
  let t := match t with
    | '0' :: 'x' :: t => t
    | '0' :: 'X' :: t => t
    | t => t
  (fun n : Nat => if neg then -(n : Int) else n) <$> hexValue t

/-- The pattern `CmdSearchMem.work` searches for: the words joined by blanks, as the bytes the
terminal typed, decoded with `--hex`, or `p32(int(pattern, 16))` with `--address`.  An error
is the `return False` of a bad hex string, or an exception (`ValueError`, `struct.error`). -/
def searchPattern (words : List String) (hex address : Bool) : Except String Bytes :=
  let pattern := " ".intercalate words
  if hex then
    match hexDecode pattern.data with
    | some b => .ok b
    | none => .error "Search pattern cannot be converted to hexstring"
  else if address then
    match pyIntBase16 pattern >>= p32 with
    | some b => .ok b
    | none => .error "ValueError or struct.error"
  else .ok pattern.toUTF8.toList

/-! ## 2. The matches -/

/-- `re.finditer(re.escape(pattern), memimage)` on the rest `s` of the image, which starts at
offset `pos`: the engine resumes at `next`, tries each offset and after a match resumes at its
end (one past an empty match). -/
def finditerFrom (p : Bytes) : Bytes → Nat → Nat → List Nat
  | [], pos, next => if next ≤ pos ∧ p.isPrefixOf [] then [pos] else []
  | c :: cs, pos, next =>
    if next ≤ pos ∧ p.isPrefixOf (c :: cs) then
      pos :: finditerFrom p cs (pos + 1) (pos + max p.length 1)
    else finditerFrom p cs (pos + 1) next

/-- `[m.start(0) for m in re.finditer(re.escape(pattern), memimage)]`. -/
def finditer (pattern memimage : Bytes) : List Nat := finditerFrom pattern memimage 0 0

/-- Every offset `i` with `memimage[i:i+len(pattern)] == pattern`, in increasing order. -/
def occurrences (pattern memimage : Bytes) : List Nat :=
  (List.range (memimage.length + 1)).filter fun i => pattern.isPrefixOf (memimage.drop i)

/-- Left to right through increasing offsets, keep one only if it starts at or after `next`,
the end of the last one kept. -/
def greedy (len : Nat) : List Nat → Nat → List Nat
  | [], _ => []
  | i :: is, next => if next ≤ i then i :: greedy len is (i + len) else greedy len is next

/-- The occurrences in the rest `s` of the image, `s` starting at offset `pos`. -/
def occurrencesFrom (p : Bytes) : Bytes → Nat → List Nat
  | [], pos => if p.isPrefixOf [] then [pos] else []
  | c :: cs, pos => (if p.isPrefixOf (c :: cs) then [pos] else []) ++ occurrencesFrom p cs (pos + 1)

theorem occurrencesFrom_eq (p : Bytes) :
    ∀ (s : Bytes) (pos : Nat), occurrencesFrom p s pos =
      ((List.range (s.length + 1)).filter fun i => p.isPrefixOf (s.drop i)).map (pos + ·)
  | [], pos => by
    by_cases h : p.isPrefixOf [] <;> simp [occurrencesFrom, h, List.range_succ]
  | c :: cs, pos => by
    have hQ : ((fun i => p.isPrefixOf ((c :: cs).drop i)) ∘ Nat.succ) =
        fun i => p.isPrefixOf (cs.drop i) := rfl
    have hshift : (fun x => pos + x) ∘ Nat.succ = fun x => pos + 1 + x :=
      funext fun x => by simp only [Function.comp]; omega
    rw [occurrencesFrom, occurrencesFrom_eq p cs (pos + 1), List.length_cons,
      List.range_succ_eq_map (cs.length + 1), List.filter_cons, List.filter_map, hQ]
    by_cases h : p.isPrefixOf (c :: cs)
    · simp only [List.drop_zero, h, if_true, List.map_cons, List.map_map, hshift, Nat.add_zero,
        List.singleton_append]
    · simp only [List.drop_zero, h, if_false, List.map_map, hshift, List.nil_append,
        Bool.false_eq_true]

theorem greedy_append_single (len i next : Nat) (is : List Nat) :
    greedy len ([i] ++ is) next = if next ≤ i then i :: greedy len is (i + len) else greedy len is next :=
  rfl

/-- **The engine is greedy selection over the occurrences.** -/
theorem finditerFrom_eq_greedy (p : Bytes) :
    ∀ (s : Bytes) (pos next : Nat),
      finditerFrom p s pos next = greedy (max p.length 1) (occurrencesFrom p s pos) next
  | [], pos, next => by
    by_cases h : p.isPrefixOf [] <;> by_cases hn : next ≤ pos <;>
      simp [finditerFrom, occurrencesFrom, greedy, h, hn]
  | c :: cs, pos, next => by
    rw [finditerFrom, occurrencesFrom]
    by_cases h : p.isPrefixOf (c :: cs)
    · rw [if_pos h, greedy_append_single]
      by_cases hn : next ≤ pos
      · rw [if_pos ⟨hn, h⟩, if_pos hn, finditerFrom_eq_greedy p cs]
      · rw [if_neg (fun h' => hn h'.1), if_neg hn, finditerFrom_eq_greedy p cs]
    · rw [if_neg (fun h' => h h'.2), if_neg h, List.nil_append, finditerFrom_eq_greedy p cs]

theorem finditer_eq_greedy (pattern memimage : Bytes) :
    finditer pattern memimage = greedy (max pattern.length 1) (occurrences pattern memimage) 0 := by
  rw [finditer, finditerFrom_eq_greedy, occurrencesFrom_eq, occurrences]
  simp

/-! ## 3. What greedy selection keeps -/

section Greedy

variable {len : Nat}

theorem greedy_sublist : ∀ (is : List Nat) (next : Nat), (greedy len is next).Sublist is
  | [], _ => List.Sublist.slnil
  | i :: is, next => by
    unfold greedy
    split
    · exact (greedy_sublist is _).cons₂ i
    · exact (greedy_sublist is next).cons i

theorem le_of_mem_greedy : ∀ {is : List Nat} {next j : Nat}, j ∈ greedy len is next → next ≤ j
  | [], _, _, h => by simp [greedy] at h
  | i :: is, next, j, h => by
    unfold greedy at h
    split at h
    · rcases List.mem_cons.mp h with rfl | h
      · assumption
      · have := le_of_mem_greedy h; omega
    · exact le_of_mem_greedy h

theorem greedy_pairwise : ∀ (is : List Nat) (next : Nat),
    (greedy len is next).Pairwise fun a b => a + len ≤ b
  | [], _ => List.Pairwise.nil
  | i :: is, next => by
    unfold greedy
    split
    · exact List.pairwise_cons.mpr ⟨fun _ hj => le_of_mem_greedy hj, greedy_pairwise is _⟩
    · exact greedy_pairwise is next

/-- **Nothing is lost without a reason.**  Over increasing offsets, each one is kept, or lies
inside a kept one, or lies before where the selection started. -/
theorem greedy_covers : ∀ {is : List Nat} (next : Nat), is.Pairwise (· < ·) → ∀ i ∈ is,
    i ∈ greedy len is next ∨ (∃ m ∈ greedy len is next, m < i ∧ i < m + len) ∨ i < next
  | [], _, _, _, h => by simp at h
  | j :: js, next, hs, i, hi => by
    rw [List.pairwise_cons] at hs
    unfold greedy
    split
    · rcases List.mem_cons.mp hi with rfl | hi
      · exact .inl (List.mem_cons_self _ _)
      · rcases greedy_covers (j + len) hs.2 i hi with h | ⟨m, hm, h⟩ | h
        · exact .inl (List.mem_cons_of_mem _ h)
        · exact .inr (.inl ⟨m, List.mem_cons_of_mem _ hm, h⟩)
        · exact .inr (.inl ⟨j, List.mem_cons_self _ _, hs.1 i hi, h⟩)
    · rcases List.mem_cons.mp hi with rfl | hi
      · exact .inr (.inr (by omega))
      · exact greedy_covers next hs.2 i hi

end Greedy

/-- **The matches `CmdSearchMem.work` reports.**  For every image and every non-empty pattern,
`matches` lists occurrences of the pattern, in increasing order (a sublist of
`occurrences`), each starting at or after the end of the one before, and every occurrence
missing from it starts inside an earlier reported match. -/
theorem finditer_spec (pattern memimage : Bytes) (hp : pattern ≠ []) :
    (finditer pattern memimage).Sublist (occurrences pattern memimage) ∧
    (finditer pattern memimage).Pairwise (fun a b => a + pattern.length ≤ b) ∧
    ∀ i ∈ occurrences pattern memimage, i ∈ finditer pattern memimage ∨
      ∃ m ∈ finditer pattern memimage, m < i ∧ i < m + pattern.length := by
  have hlen : max pattern.length 1 = pattern.length :=
    max_eq_left (List.length_pos.mpr hp)
  rw [finditer_eq_greedy, hlen]
  refine ⟨greedy_sublist _ _, greedy_pairwise _ _, fun i hi => ?_⟩
  have hsorted : (occurrences pattern memimage).Pairwise (· < ·) :=
    (List.pairwise_lt_range _).filter _
  rcases greedy_covers 0 hsorted i hi with h | h | h
  · exact .inl h
  · exact .inr h
  · omega

theorem finditer_spec_zeros :
    (finditer [0, 0] [0, 0, 0]).Sublist (occurrences [0, 0] [0, 0, 0]) ∧
    (finditer [0, 0] [0, 0, 0]).Pairwise (fun a b => a + [(0 : UInt8), 0].length ≤ b) ∧
    ∀ i ∈ occurrences [0, 0] [0, 0, 0], i ∈ finditer [0, 0] [0, 0, 0] ∨
      ∃ m ∈ finditer [0, 0] [0, 0, 0], m < i ∧ i < m + [(0 : UInt8), 0].length :=
  finditer_spec [0, 0] [0, 0, 0] (by decide)

/-- **Overlapping occurrences are skipped.**  In three zero bytes the pattern `00 00` occurs at
offsets 0 and 1; the search reports 0 only. -/
theorem finditer_overlap :
    occurrences [0, 0] [0, 0, 0] = [0, 1] ∧ finditer [0, 0] [0, 0, 0] = [0] := by
  decide

/-! ## 4. The hexdump window -/

/-- The window `log.hexdump(memimage[startadr:endadr], begin=startadr)` of one match:
`startadr = (match & 0xFFFFFFF0) - context`, `endadr = (match+len(pattern)+16 & 0xFFFFFFF0) +
context` (Python binds `+` tighter than `&`). -/
def hexdumpWindow (memimage : Bytes) (patternLength : Nat) (context : Int) (m : Nat) :
    Int × Int × Bytes :=
  let startadr : Int := ((m &&& 0xFFFFFFF0 : Nat) : Int) - context
  let endadr : Int := (((m + patternLength + 16) &&& 0xFFFFFFF0 : Nat) : Int) + context
  (startadr, endadr, pySlice memimage startadr endadr)

/-- `CmdSearchMem.work` on a memory image: the matches and their windows. -/
def searchMem (pattern memimage : Bytes) (context : Int) : List Nat × List (Int × Int × Bytes) :=
  let ms := finditer pattern memimage
  (ms, ms.map (hexdumpWindow memimage pattern.length context))

/-- Below `2 ^ 32`, the mask `0xFFFFFFF0` rounds down to a multiple of 16. -/
theorem land_mask {x : Nat} (hx : x < 2 ^ 32) : x &&& 0xFFFFFFF0 = x / 16 * 16 := by
  have hc : (0xFFFFFFF0 : Nat) = (2 ^ 28 - 1) <<< 4 := by decide
  have hr : x / 16 * 16 = (x >>> 4) <<< 4 := by
    simp [Nat.shiftLeft_eq, Nat.shiftRight_eq_div_pow]
  rw [hc, hr]
  apply Nat.eq_of_testBit_eq
  intro j
  simp only [Nat.testBit_and, Nat.testBit_shiftLeft, Nat.testBit_shiftRight,
    Nat.testBit_two_pow_sub_one]
  by_cases hj : 4 ≤ j
  · rw [show 4 + (j - 4) = j by omega]
    by_cases hj' : j < 32
    · simp [hj, show j - 4 < 28 by omega]
    · have hle : 2 ^ 32 ≤ 2 ^ j := Nat.pow_le_pow_right (by decide) (by omega)
      simp [hj, show ¬ j - 4 < 28 by omega, Nat.testBit_lt_two_pow (lt_of_lt_of_le hx hle)]
  · simp [hj]

/-- **What the window gets right.**  For a context `c ≥ 0`, the window starts at or before the
match, and, below `2 ^ 32`, it ends past the match. -/
theorem hexdumpWindow_spec (memimage : Bytes) (len : Nat) {c : Int} (hc : 0 ≤ c) (m : Nat)
    (hm : m + len + 16 < 2 ^ 32) :
    (hexdumpWindow memimage len c m).1 ≤ m ∧ (m + len : Int) < (hexdumpWindow memimage len c m).2.1 := by
  have h1 : m &&& 0xFFFFFFF0 ≤ m := Nat.and_le_left
  have h2 := land_mask hm
  have h3 := Nat.mod_add_div (m + len + 16) 16
  simp only [hexdumpWindow]
  constructor <;> omega

/-- **A match in the first `context` bytes.**  Thirty-two bytes `0x41` searched for `41` with
`context = 1`: the first match is at 0, its window starts at `-1`, and the slice
`memimage[-1:17]` is empty, where the claim promises the match. -/
theorem hexdumpWindow_first_match :
    (searchMem [0x41] (List.replicate 32 0x41) 1).1.head? = some 0 ∧
    (searchMem [0x41] (List.replicate 32 0x41) 1).2.head? = some (-1, 17, []) := by
  decide

end InternalBlue
