/-
# Bytes, slices and the packers `cmds.py` calls

`cmds.py` is Python 2, so every buffer it builds, reads or writes is a `str` of bytes.  This
file fixes the byte vocabulary the other modules share:

* `Bytes`, and `pySlice`, Python's `s[i:j]` with its clamping and its NEGATIVE indices (the
  hexdump window of `CmdSearchMem.work` reaches them);
* the little-endian packers behind `struct.pack('@ I ...')` on a little-endian host and
  pwntools' `p8`, `p32`, `u32`, with the round trips `leValue_leBytes` and `u32_leBytes`;
* `isprint`, where `CmdTelescope.telescope` stops collecting a string.

A packer that Python refuses to run on an out-of-range value (`struct.error`) returns `none`
here; the callers in `Monitor/` turn that back into the exception.
-/
import Mathlib.Data.List.Basic
import Mathlib.Algebra.Group.Int

namespace InternalBlue

/-- A Python 2 `str` used as a byte buffer. -/
abbrev Bytes := List UInt8

/-! ## 1. Python slicing -/

/-- One bound of a Python slice over a sequence of length `n`: a negative index counts from
the end, and the result is clamped to `[0, n]`. -/
def sliceBound (n : Nat) (i : Int) : Nat :=
  if i < 0 then (n + i).toNat else min i.toNat n

/-- `s[i:j]`. -/
def pySlice {α : Type} (s : List α) (i j : Int) : List α :=
  (s.drop (sliceBound s.length i)).take (sliceBound s.length j - sliceBound s.length i)

theorem sliceBound_of_nonneg {n : Nat} {i : Int} (h : 0 ≤ i) : sliceBound n i = min i.toNat n :=
  if_neg (Int.not_lt.mpr h)

/-- On non-negative bounds a slice is a drop and a take. -/
theorem pySlice_of_nonneg {α : Type} (s : List α) {i j : Int} (hi : 0 ≤ i) (hj : 0 ≤ j) :
    pySlice s i j = (s.drop (min i.toNat s.length)).take (min j.toNat s.length - min i.toNat s.length) := by
  simp only [pySlice, sliceBound_of_nonneg hi, sliceBound_of_nonneg hj]

/-! ## 2. Little-endian fields -/

/-- The `w` low bytes of `n`, least significant first. -/
def leBytes : Nat → Nat → Bytes
  | 0, _ => []
  | w + 1, n => UInt8.ofNat n :: leBytes w (n / 256)

/-- The number whose little-endian bytes these are. -/
def leValue : Bytes → Nat
  | [] => 0
  | b :: bs => b.toNat + 256 * leValue bs

@[simp] theorem leBytes_zero (n : Nat) : leBytes 0 n = [] := rfl

@[simp] theorem leBytes_succ (w n : Nat) :
    leBytes (w + 1) n = UInt8.ofNat n :: leBytes w (n / 256) := rfl

@[simp] theorem leValue_nil : leValue [] = 0 := rfl

@[simp] theorem leValue_cons (b : UInt8) (bs : Bytes) :
    leValue (b :: bs) = b.toNat + 256 * leValue bs := rfl

@[simp] theorem length_leBytes (w n : Nat) : (leBytes w n).length = w := by
  induction w generalizing n with
  | zero => rfl
  | succ w ih => simp [ih]

theorem toNat_uint8_ofNat (n : Nat) : (UInt8.ofNat n).toNat = n % 256 :=
  BitVec.toNat_ofNat n 8

/-- **Decoding undoes encoding**, up to the width. -/
theorem leValue_leBytes (w n : Nat) : leValue (leBytes w n) = n % 256 ^ w := by
  induction w generalizing n with
  | zero => simp [Nat.mod_one]
  | succ w ih =>
    rw [leBytes_succ, leValue_cons, ih, toNat_uint8_ofNat, Nat.pow_succ', Nat.mod_mul]

theorem leValue_leBytes_of_lt {w n : Nat} (h : n < 256 ^ w) : leValue (leBytes w n) = n := by
  rw [leValue_leBytes, Nat.mod_eq_of_lt h]

/-! ## 3. The packers -/

/-- `struct.pack('I', n)` on a little-endian host: four bytes, or `struct.error`. -/
def packI (n : Nat) : Option Bytes :=
  if n < 2 ^ 32 then some (leBytes 4 n) else none

/-- pwntools' `p8(n)`: one unsigned byte, or `struct.error`. -/
def p8 (n : Nat) : Option UInt8 :=
  if n < 256 then some (UInt8.ofNat n) else none

/-- pwntools' `p32(n)`, little-endian and unsigned: four bytes, or `struct.error`. -/
def p32 (n : Int) : Option Bytes :=
  if 0 ≤ n ∧ n < 2 ^ 32 then some (leBytes 4 n.toNat) else none

/-- pwntools' `u32(b)`: `struct.unpack('<I', b)`, which needs exactly four bytes. -/
def u32 (b : Bytes) : Option Nat :=
  if b.length = 4 then some (leValue b) else none

theorem p8_of_lt {n : Nat} (h : n < 256) : p8 n = some (UInt8.ofNat n) := if_pos h

/-- `u32` reads back what `struct.pack('I')` wrote. -/
theorem u32_leBytes {n : Nat} (h : n < 2 ^ 32) : u32 (leBytes 4 n) = some n := by
  rw [u32, if_pos (length_leBytes 4 n), leValue_leBytes_of_lt (by simpa using h)]

/-! ## 4. Printable characters -/

/-- pwntools' `isprint(c)`: `c` is in `ascii_letters + digits + punctuation + ' '`, which is
exactly the range `0x20 .. 0x7e`. -/
def isprint (c : UInt8) : Bool :=
  0x20 ≤ c.toNat && c.toNat ≤ 0x7e

/-- The loop `for c in data: if isprint(c): s += c else: break`. -/
def printablePrefix (data : Bytes) : Bytes :=
  data.takeWhile isprint

/-- `str` is the longest prefix of `src` made of printable bytes: what follows it in `src` is
empty or starts with a byte that is not printable. -/
def LongestPrintablePrefix (src str : Bytes) : Prop :=
  ∃ rest, src = str ++ rest ∧ (∀ c ∈ str, isprint c) ∧ ∀ c ∈ rest.head?, isprint c = false

/-- The loop builds exactly the longest printable prefix. -/
theorem longestPrintablePrefix_iff (src str : Bytes) :
    LongestPrintablePrefix src str ↔ str = printablePrefix src := by
  constructor
  · rintro ⟨rest, rfl, hstr, hrest⟩
    induction str with
    | nil =>
      cases rest with
      | nil => rfl
      | cons c rest => exact (List.takeWhile_cons_of_neg (by simp [hrest c rfl])).symm
    | cons c str ih =>
      rw [printablePrefix, List.cons_append,
        List.takeWhile_cons_of_pos (hstr c (List.mem_cons_self _ _))]
      exact congrArg _ (ih fun d hd => hstr d (List.mem_cons_of_mem _ hd))
  · rintro rfl
    refine ⟨src.dropWhile isprint, (List.takeWhile_append_dropWhile _ _).symm,
      fun c hc => List.mem_takeWhile_imp hc, fun c hc => ?_⟩
    have hhead := List.head?_dropWhile_not isprint src
    rw [Option.mem_def] at hc
    rwa [hc] at hhead

end InternalBlue
