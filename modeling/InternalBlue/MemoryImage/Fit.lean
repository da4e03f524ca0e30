/-
# The no-template build: `dumped_sections` and pwntools' `fit`

Without a template, `Cmd.initMemoryImage` reads every section into the dict
`dumped_sections[section.start_addr]` and hands it to `fit(dumped_sections, filler='\x00')`,
which walks `sorted(pieces.items())`, pads with the filler up to each offset and writes the
data there, refusing an offset below what it has already written.

Three things can go wrong with that, and none is visible on a firmware map whose sections
are separated, have distinct start addresses and start below pwntools' `large_key`:

* the dict is keyed by `start_addr`, so a later (empty) section with the same start REPLACES
  an earlier section's bytes;
* an offset inside data already written makes `fit` raise, also for an EMPTY section that
  starts strictly inside another one, which overlaps nothing;
* an integer key at or above `large_key` is looked up in the filler, and `fit` NEVER RETURNS.

`fit_dumpedSections`: on separated sections with distinct starts below `large_key`, whose
reads return `size()` bytes each, the build succeeds and yields `placed`, the image with each
section's read at its address range and zeros everywhere else, up to the highest `end_addr`.
-/
import InternalBlue.Sections
import Mathlib.Data.List.Sort

namespace InternalBlue

/-! ## 1. The dict and `fit` -/

/-- `d[k] = v` on a dict, kept as the list `sorted(d.items())`: keys increasing, and a key
set twice keeps its last value. -/
def dictSet (k : Nat) (v : Bytes) : List (Nat × Bytes) → List (Nat × Bytes)
  | [] => [(k, v)]
  | (k', v') :: ps =>
    if k < k' then (k, v) :: (k', v') :: ps
    else if k = k' then (k, v) :: ps
    else (k', v') :: dictSet k v ps

/-- pwntools' `fit(pieces, filler='\x00')` on integer offsets, as its loop over
`sorted(pieces.items())` runs: `out` is what is written so far. -/
def fitInto (out : Bytes) : List (Nat × Bytes) → Except String Bytes
  | [] => .ok out
  | (k, v) :: ps =>
    if k < out.length then .error "flat(): data at offset overlaps with previous data"
    else fitInto (out ++ List.replicate (k - out.length) 0 ++ v) ps

/-- How a call that returns no value ends: with an exception, or never. -/
inductive Failure
  | raises (exception : String)
  | hangs
deriving DecidableEq

/-- `fit(pieces, filler='\x00')`.  Before its loop, pwntools replaces every integer key at or
above `large_key` by the offset at which the key's packed bytes first occur in the filler; a
firmware address is below `2**32`, so such a key packs to bytes not all zero, the filler is
all zero bytes, and that search never ends.  `large_key` depends on the pwntools release
(`2**(context.word_size - 8)`, or `0x61616161` in older ones) and is a parameter here.  The
overlap is pwntools' `log.error`, which raises with the text below. -/
def fit (large_key : Nat) (pieces : List (Nat × Bytes)) : Except Failure Bytes :=
  if pieces.any (large_key ≤ ·.1) then .error .hangs
  else (fitInto [] pieces).mapError .raises

/-- The dict `dumped_sections` built by the no-template branch. -/
def dumpedSections (SECTIONS : List Section) (readMem : ReadMem) : List (Nat × Bytes) :=
  SECTIONS.foldl (fun d s => dictSet s.start_addr (readMem s.start_addr s.size) d) []

/-! ## 2. The image the build should produce -/

/-- The highest `end_addr` of the list (`0` for no section). -/
def maxEnd (SECTIONS : List Section) : Nat := SECTIONS.foldr (fun s m => max s.end_addr m) 0

/-- The section holding address `a`, first in list order. -/
def sectionAt (SECTIONS : List Section) (a : Nat) : Option Section :=
  SECTIONS.find? fun s => decide (s.Holds a)

/-- Each section's read at its address range, zeros elsewhere, up to the highest `end_addr`. -/
def placed (SECTIONS : List Section) (readMem : ReadMem) : Bytes :=
  (List.range (maxEnd SECTIONS)).map fun a =>
    match sectionAt SECTIONS a with
    | some s => (readMem s.start_addr s.size).getD (a - s.start_addr) 0
    | none => 0

/-- Every read of a section returns exactly `size()` bytes. -/
def ReadsExact (SECTIONS : List Section) (readMem : ReadMem) : Prop :=
  ∀ s ∈ SECTIONS, (readMem s.start_addr s.size).length = s.size

theorem le_maxEnd {SECTIONS : List Section} {s : Section} (hs : s ∈ SECTIONS) :
    s.end_addr ≤ maxEnd SECTIONS := by
  induction SECTIONS with
  | nil => simp at hs
  | cons t ts ih =>
    rcases List.mem_cons.mp hs with rfl | hs
    · exact le_max_left _ _
    · exact (ih hs).trans (le_max_right _ _)

theorem maxEnd_attained (SECTIONS : List Section) :
    maxEnd SECTIONS = 0 ∨ ∃ s ∈ SECTIONS, maxEnd SECTIONS = s.end_addr := by
  induction SECTIONS with
  | nil => exact .inl rfl
  | cons t ts ih =>
    show max t.end_addr (maxEnd ts) = 0 ∨ ∃ s ∈ t :: ts, max t.end_addr (maxEnd ts) = s.end_addr
    rcases le_total t.end_addr (maxEnd ts) with h | h
    · rw [max_eq_right h]
      rcases ih with h0 | ⟨s, hs, he⟩
      · exact .inl h0
      · exact .inr ⟨s, List.mem_cons_of_mem t hs, he⟩
    · exact .inr ⟨t, List.mem_cons_self t ts, max_eq_left h⟩

@[simp] theorem length_placed (SECTIONS : List Section) (readMem : ReadMem) :
    (placed SECTIONS readMem).length = maxEnd SECTIONS := by
  simp [placed]

/-- On disjoint sections, `sectionAt` finds the section that holds the address. -/
theorem sectionAt_of_holds {SECTIONS : List Section} (hdis : SECTIONS.Pairwise Section.Disjoint)
    {s : Section} (hs : s ∈ SECTIONS) {a : Nat} (ha : s.Holds a) : sectionAt SECTIONS a = some s := by
  obtain ⟨t, ht⟩ : ∃ t, sectionAt SECTIONS a = some t := by
    rw [← Option.isSome_iff_exists, sectionAt, List.find?_isSome]
    exact ⟨s, hs, decide_eq_true ha⟩
  have ht' : SECTIONS.find? (fun s => decide (s.Holds a)) = some t := ht
  have hta : t.Holds a := by simpa using List.find?_some ht'
  by_cases e : t = s
  · rw [ht, e]
  · exact absurd hta ((hdis.forall (fun _ _ => Section.Disjoint.symm) hs
      (List.mem_of_find?_eq_some ht') (Ne.symm e)).not_holds ha)

theorem sectionAt_eq_none {SECTIONS : List Section} {a : Nat}
    (h : ∀ s ∈ SECTIONS, ¬ s.Holds a) : sectionAt SECTIONS a = none :=
  List.find?_eq_none.mpr fun s hs hd => h s hs (of_decide_eq_true hd)

/-- Inside a section, `placed` holds that section's read. -/
theorem getElem?_placed_of_holds {SECTIONS : List Section} {readMem : ReadMem}
    (hdis : SECTIONS.Pairwise Section.Disjoint) (hrd : ReadsExact SECTIONS readMem)
    {s : Section} (hs : s ∈ SECTIONS) {a : Nat} (ha : s.Holds a) :
    (placed SECTIONS readMem)[a]? = (readMem s.start_addr s.size)[a - s.start_addr]? := by
  have hlt : a < maxEnd SECTIONS := lt_of_lt_of_le ha.2 (le_maxEnd hs)
  have hi : a - s.start_addr < (readMem s.start_addr s.size).length := by
    rw [hrd s hs]; have := s.start_add_size; unfold Section.Holds at ha; omega
  simp [placed, hlt, sectionAt_of_holds hdis hs ha, List.getElem?_eq_getElem hi]

/-- Outside every section, `placed` is the filler. -/
theorem getElem?_placed_of_gap {SECTIONS : List Section} {readMem : ReadMem} {a : Nat}
    (h : ∀ s ∈ SECTIONS, ¬ s.Holds a) (ha : a < maxEnd SECTIONS) :
    (placed SECTIONS readMem)[a]? = some 0 := by
  simp [placed, ha, sectionAt_eq_none h]

/-! ## 3. What `fit` writes -/

/-- The end of the last piece, or `n` if there is none: the length `fit` reaches. -/
def lastEnd (n : Nat) : List (Nat × Bytes) → Nat
  | [] => n
  | (k, v) :: ps => lastEnd (k + v.length) ps

/-- Each piece ends before every later piece starts. -/
def Ordered (ps : List (Nat × Bytes)) : Prop :=
  ps.Pairwise fun p q => p.1 + p.2.length ≤ q.1

theorem le_lastEnd {n : Nat} {ps : List (Nat × Bytes)} (hord : Ordered ps)
    (hstart : ∀ p ∈ ps, n ≤ p.1) : n ≤ lastEnd n ps := by
  induction ps generalizing n with
  | nil => exact le_rfl
  | cons p ps ih =>
    rw [Ordered, List.pairwise_cons] at hord
    exact (hstart p (List.mem_cons_self p ps)).trans
      ((Nat.le_add_right _ _).trans (ih hord.2 fun q hq => hord.1 q hq))

theorem end_le_lastEnd {n : Nat} {ps : List (Nat × Bytes)} (hord : Ordered ps)
    {p : Nat × Bytes} (hp : p ∈ ps) : p.1 + p.2.length ≤ lastEnd n ps := by
  induction ps generalizing n with
  | nil => simp at hp
  | cons q ps ih =>
    rw [Ordered, List.pairwise_cons] at hord
    rcases List.mem_cons.mp hp with rfl | hp
    · exact le_lastEnd hord.2 hord.1
    · exact ih hord.2 hp

theorem lastEnd_attained (n : Nat) (ps : List (Nat × Bytes)) :
    lastEnd n ps = n ∨ ∃ p ∈ ps, lastEnd n ps = p.1 + p.2.length := by
  induction ps generalizing n with
  | nil => exact .inl rfl
  | cons p ps ih =>
    rcases ih (p.1 + p.2.length) with h | ⟨q, hq, h⟩
    · exact .inr ⟨p, List.mem_cons_self p ps, h⟩
    · exact .inr ⟨q, List.mem_cons_of_mem p hq, h⟩

/-- **What `fit` writes.**  Let `T` be a byte string that extends what is written so far,
holds every remaining piece at its offset and the filler in every gap past `out`, and ends
where the last piece ends.  Then `fit` writes exactly `T`. -/
theorem fitInto_eq {T out : Bytes} {ps : List (Nat × Bytes)} (hord : Ordered ps)
    (hout : out = T.take out.length) (hstart : ∀ p ∈ ps, out.length ≤ p.1)
    (hlen : T.length = lastEnd out.length ps)
    (hpiece : ∀ p ∈ ps, ∀ i < p.2.length, T[p.1 + i]? = p.2[i]?)
    (hgap : ∀ a, out.length ≤ a → a < T.length →
      (∀ p ∈ ps, ¬ (p.1 ≤ a ∧ a < p.1 + p.2.length)) → T[a]? = some 0) :
    fitInto out ps = .ok T := by
  induction ps generalizing out with
  | nil =>
    rw [fitInto, hout, List.take_of_length_le (by rw [hlen]; rfl)]
  | cons p ps ih =>
    obtain ⟨k, v⟩ := p
    rw [Ordered, List.pairwise_cons] at hord
    have hk : out.length ≤ k := hstart _ (List.mem_cons_self _ _)
    have hend : k + v.length ≤ T.length := hlen ▸ end_le_lastEnd
      (List.pairwise_cons.mpr hord) (List.mem_cons_self (k, v) ps)
    have hL : (out ++ List.replicate (k - out.length) 0 ++ v).length = k + v.length := by
      simp; omega
    rw [fitInto, if_neg (Nat.not_lt.mpr hk)]
    refine ih hord.2 ?_ (fun q hq => hL ▸ hord.1 q hq) (by rw [hL]; exact hlen)
      (fun q hq => hpiece q (List.mem_cons_of_mem _ hq)) ?_
    · rw [hL]
      apply List.ext_getElem?
      intro a
      rw [List.getElem?_take]
      rcases Nat.lt_or_ge a out.length with h1 | h1
      · rw [List.append_assoc, List.getElem?_append_left h1, if_pos (by omega), hout,
          List.getElem?_take, if_pos h1]
      rcases Nat.lt_or_ge a k with h2 | h2
      · rw [List.getElem?_append_left (by simp; omega), List.getElem?_append_right h1,
          List.getElem?_replicate, if_pos (by omega), if_pos (by omega)]
        refine (hgap a h1 (by omega) fun q hq => ?_).symm
        rcases List.mem_cons.mp hq with rfl | hq
        · dsimp only; omega
        · have := hord.1 q hq; omega
      rcases Nat.lt_or_ge a (k + v.length) with h3 | h3
      · rw [List.getElem?_append_right (by simp; omega), if_pos h3]
        have := hpiece (k, v) (List.mem_cons_self _ _) (a - k) (by dsimp only; omega)
        dsimp only at this
        rw [Nat.add_sub_cancel' h2] at this
        rw [this]; congr 1; simp; omega
      · rw [if_neg (by omega), List.getElem?_eq_none (by omega)]
    · intro a ha hlt hno
      rw [hL] at ha
      exact hgap a (by omega) hlt fun q hq => by
        rcases List.mem_cons.mp hq with rfl | hq
        · dsimp only; omega
        · exact hno q hq

/-! ## 4. The build succeeds, and builds `placed` -/

/-- Keys strictly increasing, as `sorted(d.items())` of a dict lists them. -/
def KeysSorted (ps : List (Nat × Bytes)) : Prop := ps.Pairwise fun p q => p.1 < q.1

/-- The dict entry a section's read becomes. -/
def piece (readMem : ReadMem) (s : Section) : Nat × Bytes :=
  (s.start_addr, readMem s.start_addr s.size)

/-- **Setting a key** adds it and drops only its old entry. -/
theorem mem_dictSet {k : Nat} {v : Bytes} {ps : List (Nat × Bytes)} (hs : KeysSorted ps)
    {q : Nat × Bytes} : q ∈ dictSet k v ps ↔ q = (k, v) ∨ (q ∈ ps ∧ q.1 ≠ k) := by
  induction ps with
  | nil => simp [dictSet]
  | cons p ps ih =>
    obtain ⟨k', v'⟩ := p
    rw [KeysSorted, List.pairwise_cons] at hs
    have hgt : ∀ r ∈ ps, k' < r.1 := hs.1
    simp only [dictSet]
    split_ifs with h1 h2
    · simp only [List.mem_cons]
      constructor
      · rintro (rfl | rfl | hq)
        · exact .inl rfl
        · exact .inr ⟨.inl rfl, by dsimp only; omega⟩
        · exact .inr ⟨.inr hq, by have := hgt q hq; omega⟩
      · rintro (rfl | ⟨rfl | hq, -⟩)
        · exact .inl rfl
        · exact .inr (.inl rfl)
        · exact .inr (.inr hq)
    · subst h2
      simp only [List.mem_cons]
      constructor
      · rintro (rfl | hq)
        · exact .inl rfl
        · exact .inr ⟨.inr hq, by have := hgt q hq; omega⟩
      · rintro (rfl | ⟨rfl | hq, hne⟩)
        · exact .inl rfl
        · exact absurd rfl hne
        · exact .inr hq
    · simp only [List.mem_cons, ih hs.2]
      constructor
      · rintro (rfl | rfl | ⟨hq, hne⟩)
        · exact .inr ⟨.inl rfl, by dsimp only; omega⟩
        · exact .inl rfl
        · exact .inr ⟨.inr hq, hne⟩
      · rintro (rfl | ⟨rfl | hq, hne⟩)
        · exact .inr (.inl rfl)
        · exact .inl rfl
        · exact .inr (.inr ⟨hq, hne⟩)

theorem keysSorted_dictSet {k : Nat} {v : Bytes} {ps : List (Nat × Bytes)} (hs : KeysSorted ps) :
    KeysSorted (dictSet k v ps) := by
  induction ps with
  | nil => exact List.pairwise_singleton _ _
  | cons p ps ih =>
    obtain ⟨k', v'⟩ := p
    have hs' := hs
    rw [KeysSorted, List.pairwise_cons] at hs'
    simp only [dictSet]
    split_ifs with h1 h2
    · exact List.pairwise_cons.mpr ⟨fun r hr => by
        rcases List.mem_cons.mp hr with rfl | hr
        · exact h1
        · exact h1.trans (hs'.1 r hr), hs⟩
    · subst h2; exact List.pairwise_cons.mpr ⟨hs'.1, hs'.2⟩
    · refine List.pairwise_cons.mpr ⟨fun r hr => ?_, ih hs'.2⟩
      rcases (mem_dictSet hs'.2).mp hr with rfl | ⟨hr, -⟩
      · dsimp only; omega
      · exact hs'.1 r hr

/-- The dict after the loop, when no two sections share a start address: one entry per
section, nothing of the initial dict under those keys. -/
theorem mem_foldl_dictSet {readMem : ReadMem} {SECTIONS : List Section}
    (hnd : (SECTIONS.map Section.start_addr).Nodup) {d : List (Nat × Bytes)} (hd : KeysSorted d)
    {q : Nat × Bytes} :
    q ∈ SECTIONS.foldl (fun d s => dictSet s.start_addr (readMem s.start_addr s.size) d) d ↔
      (∃ s ∈ SECTIONS, q = piece readMem s) ∨ (q ∈ d ∧ ∀ s ∈ SECTIONS, q.1 ≠ s.start_addr) := by
  induction SECTIONS generalizing d with
  | nil => simp
  | cons s ss ih =>
    rw [List.map_cons, List.nodup_cons, List.mem_map] at hnd
    rw [List.foldl_cons, ih hnd.2 (keysSorted_dictSet hd), mem_dictSet hd]
    constructor
    · rintro (⟨t, ht, rfl⟩ | ⟨rfl | ⟨hq, hne⟩, hall⟩)
      · exact .inl ⟨t, List.mem_cons_of_mem s ht, rfl⟩
      · exact .inl ⟨s, List.mem_cons_self s ss, rfl⟩
      · refine .inr ⟨hq, fun t ht => ?_⟩
        rcases List.mem_cons.mp ht with rfl | ht
        · exact hne
        · exact hall t ht
    · rintro (⟨t, ht, rfl⟩ | ⟨hq, hall⟩)
      · rcases List.mem_cons.mp ht with rfl | ht
        · exact .inr ⟨.inl rfl, fun u hu he => hnd.1 ⟨u, hu, he.symm⟩⟩
        · exact .inl ⟨t, ht, rfl⟩
      · exact .inr ⟨.inr ⟨hq, hall s (List.mem_cons_self s ss)⟩,
          fun t ht => hall t (List.mem_cons_of_mem s ht)⟩

theorem keysSorted_dumpedSections (SECTIONS : List Section) (readMem : ReadMem) :
    KeysSorted (dumpedSections SECTIONS readMem) := by
  unfold dumpedSections
  generalize hd : ([] : List (Nat × Bytes)) = d
  have : KeysSorted d := hd ▸ List.Pairwise.nil
  clear hd
  induction SECTIONS generalizing d with
  | nil => exact this
  | cons s ss ih => exact ih _ (keysSorted_dictSet this)

theorem mem_dumpedSections {SECTIONS : List Section} {readMem : ReadMem}
    (hnd : (SECTIONS.map Section.start_addr).Nodup) {q : Nat × Bytes} :
    q ∈ dumpedSections SECTIONS readMem ↔ ∃ s ∈ SECTIONS, q = piece readMem s := by
  rw [dumpedSections, mem_foldl_dictSet hnd List.Pairwise.nil]
  simp

/-- The loop of `fit` on `dumped_sections` writes `placed`. -/
theorem fitInto_dumpedSections {SECTIONS : List Section} {readMem : ReadMem}
    (hdis : SECTIONS.Pairwise Section.Disjoint) (hnd : (SECTIONS.map Section.start_addr).Nodup)
    (hrd : ReadsExact SECTIONS readMem) :
    fitInto [] (dumpedSections SECTIONS readMem) = .ok (placed SECTIONS readMem) := by
  have hmem := @mem_dumpedSections SECTIONS readMem hnd
  have hend : ∀ s ∈ SECTIONS, (piece readMem s).1 + (piece readMem s).2.length = s.end_addr :=
    fun s hs => by simp only [piece, hrd s hs, s.start_add_size]
  have hord : Ordered (dumpedSections SECTIONS readMem) := by
    refine (keysSorted_dumpedSections SECTIONS readMem).imp_of_mem fun {p q} hp hq hlt => ?_
    obtain ⟨s, hs, rfl⟩ := hmem.mp hp
    obtain ⟨t, ht, rfl⟩ := hmem.mp hq
    have hst : s ≠ t := by rintro rfl; exact lt_irrefl _ hlt
    have hd := hdis.forall (fun _ _ => Section.Disjoint.symm) hs ht hst
    have := t.start_le_end
    unfold Section.Disjoint at hd; simp only [piece] at hlt ⊢
    rw [← hend s hs] at hd; simp only [piece] at hd; omega
  refine fitInto_eq hord (by simp) (fun _ _ => Nat.zero_le _) ?_ ?_ ?_
  · refine le_antisymm ?_ ?_ <;> simp only [length_placed, List.length_nil]
    · rcases maxEnd_attained SECTIONS with h | ⟨s, hs, h⟩
      · rw [h]; exact Nat.zero_le _
      · rw [h, ← hend s hs]
        exact end_le_lastEnd hord (hmem.mpr ⟨s, hs, rfl⟩)
    · rcases lastEnd_attained 0 (dumpedSections SECTIONS readMem) with h | ⟨p, hp, h⟩
      · rw [h]; exact Nat.zero_le _
      · obtain ⟨s, hs, rfl⟩ := hmem.mp hp
        rw [h, hend s hs]; exact le_maxEnd hs
  · intro p hp i hi
    obtain ⟨s, hs, rfl⟩ := hmem.mp hp
    have hsz : i < s.size := by simpa [piece, hrd s hs] using hi
    have := s.start_add_size
    simp only [piece]
    rw [getElem?_placed_of_holds hdis hrd hs ⟨Nat.le_add_right _ _, by omega⟩, Nat.add_sub_cancel_left]
  · intro a _ ha hno
    refine getElem?_placed_of_gap (fun s hs hh => hno _ (hmem.mpr ⟨s, hs, rfl⟩) ?_) (by simpa using ha)
    rw [hend s hs]; exact hh

/-- **The build.**  On pairwise separated sections with distinct start addresses below
`large_key`, whose reads return `size()` bytes each, `fit(dumped_sections)` returns, and
returns `placed`. -/
theorem fit_dumpedSections {SECTIONS : List Section} {readMem : ReadMem} {large_key : Nat}
    (hdis : SECTIONS.Pairwise Section.Disjoint) (hnd : (SECTIONS.map Section.start_addr).Nodup)
    (hkey : ∀ s ∈ SECTIONS, s.start_addr < large_key) (hrd : ReadsExact SECTIONS readMem) :
    fit large_key (dumpedSections SECTIONS readMem) = .ok (placed SECTIONS readMem) := by
  have hsmall : ¬ (dumpedSections SECTIONS readMem).any (large_key ≤ ·.1) := by
    simp only [List.any_eq_true, decide_eq_true_eq, not_exists, not_and, not_le]
    intro p hp
    obtain ⟨s, hs, rfl⟩ := (mem_dumpedSections hnd).mp hp
    exact hkey s hs
  rw [fit, if_neg hsmall, fitInto_dumpedSections hdis hnd hrd]
  rfl

/-- A key at or above `large_key` makes `fit` hang, whatever the other pieces. -/
theorem fit_of_large_key {large_key : Nat} {pieces : List (Nat × Bytes)} {p : Nat × Bytes}
    (hp : p ∈ pieces) (hlarge : large_key ≤ p.1) : fit large_key pieces = .error .hangs :=
  if_pos (List.any_eq_true.mpr ⟨p, hp, decide_eq_true hlarge⟩)

end InternalBlue
