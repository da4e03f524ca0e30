/-
# The memory image cache: `initMemoryImage`, `refreshMemoryImage`, `getMemoryImage`

`Cmd.memory_image` is a CLASS attribute: one image per process, built by the first
`getMemoryImage` and afterwards only refreshed.  `refreshMemoryImage` splices each non-ROM
section's new read over its old range, `memory_image[0:start_addr] + sectiondump +
memory_image[end_addr:]`, which keeps the image's length and the section's place only if the
image already reaches the section's `end_addr`.  Nothing checks that: a template file from
another firmware map (the file name `_memdump_template.bin` names no chip) or an empty one is
loaded as it is.  Without a template, `Cmd.memory_image` is assigned BEFORE the template is
written, so an `IOError` there raises out of a call that has built the cache.

* `tracks_refreshMemoryImage`: one refresh, on an image that reaches every `end_addr`, keeps the
  length and every byte outside the non-ROM sections and puts the new reads in those;
* `getMemoryImage_run`: over any run of calls, the image after the build keeps its length and
  its bytes outside the non-ROM sections, and each non-ROM section holds its latest read,
  for separated sections with distinct starts below `large_key` and a readable template (if
  any) that reaches every `end_addr`;
* `initMemoryImage_template_eq`: the template branch builds exactly what the no-template
  branch builds, when the template came from the no-template branch and ROM did not change;
* `getMemoryImage_hangs`: a section at or above `large_key` makes the first call NEVER RETURN;
* `getMemoryImage_counterexample`, `initMemoryImage_shared_start`: without the other side
  conditions, both fail.
-/
import InternalBlue.MemoryImage.Fit

namespace InternalBlue

/-! ## 1. The three methods -/

/-- `memory_image[0:section.start_addr] + sectiondump + memory_image[section.end_addr:]`. -/
def splice (memory_image : Bytes) (s : Section) (sectiondump : Bytes) : Bytes :=
  memory_image.take s.start_addr ++ sectiondump ++ memory_image.drop s.end_addr

/-- `Cmd.refreshMemoryImage`: every section that is not ROM is read again and spliced in,
in list order. -/
def refreshMemoryImage (SECTIONS : List Section) (readMem : ReadMem) (memory_image : Bytes) :
    Bytes :=
  SECTIONS.foldl (fun img s => if s.is_rom then img else splice img s (readMem s.start_addr s.size))
    memory_image

/-- What `getMemoryImage` reads and writes: the class attribute `Cmd.memory_image` and the
contents of `_memdump_template.bin`, if the file exists. -/
structure ImageCache where
  memory_image : Option Bytes
  template : Option Bytes
deriving DecidableEq

/-- The file system as one `initMemoryImage` meets it: whether
`open(memory_image_template_filename, 'wb')` and the write succeed, and whether pwntools'
`read` of an existing template does.  A failure raises `IOError`; a write that fails after
the file was created, leaving part of the image in it, is not modelled. -/
structure TemplateIO where
  writeOk : Bool
  readOk : Bool
deriving DecidableEq

/-- `Cmd.initMemoryImage`: the cache afterwards, and the new `memory_image` or how the call
ends without returning.  Without a template every section is read and `fit`, and the image
is written out as the template; with one, the template is loaded and refreshed. -/
def initMemoryImage (SECTIONS : List Section) (large_key : Nat) (readMem : ReadMem)
    (io : TemplateIO) : Option Bytes → ImageCache × Except Failure Bytes
  | none =>
    match fit large_key (dumpedSections SECTIONS readMem) with
    | .error e => (⟨none, none⟩, .error e)
    | .ok memory_image =>
      if io.writeOk then (⟨some memory_image, some memory_image⟩, .ok memory_image)
      else (⟨some memory_image, none⟩, .error (.raises "IOError"))
  | some template =>
    if io.readOk then
      let memory_image := refreshMemoryImage SECTIONS readMem template
      (⟨some memory_image, some template⟩, .ok memory_image)
    else (⟨none, some template⟩, .error (.raises "IOError"))

/-- `Cmd.getMemoryImage(refresh)`: the cache afterwards, and the image returned. -/
def getMemoryImage (SECTIONS : List Section) (large_key : Nat) (readMem : ReadMem)
    (io : TemplateIO) (refresh : Bool) (c : ImageCache) : ImageCache × Except Failure Bytes :=
  match c.memory_image with
  | none => initMemoryImage SECTIONS large_key readMem io c.template
  | some memory_image =>
    let memory_image :=
      if refresh then refreshMemoryImage SECTIONS readMem memory_image else memory_image
    ({ c with memory_image := some memory_image }, .ok memory_image)

/-- One call `getMemoryImage(refresh)` of a run, with the device's answers and the file
system at its time. -/
structure ImageCall where
  refresh : Bool
  readMem : ReadMem
  io : TemplateIO

/-- The image reaches every section's `end_addr`. -/
def Fits (SECTIONS : List Section) (img : Bytes) : Prop := ∀ s ∈ SECTIONS, s.end_addr ≤ img.length

section Splice

variable {img d : Bytes} {s : Section} (hfit : s.end_addr ≤ img.length) (hd : d.length = s.size)
include hfit hd

theorem length_splice : (splice img s d).length = img.length := by
  have := s.start_add_size
  simp [splice, hd]; omega

theorem getElem?_splice_of_not_holds {a : Nat} (ha : ¬ s.Holds a) :
    (splice img s d)[a]? = img[a]? := by
  have := s.start_add_size
  unfold Section.Holds at ha
  rcases Nat.lt_or_ge a s.start_addr with h | h
  · rw [splice, List.append_assoc, List.getElem?_append_left (by simp; omega),
      List.getElem?_take, if_pos h]
  · rw [splice, List.getElem?_append_right (by simp; omega), List.getElem?_drop]
    congr 1; simp; omega

theorem getElem?_splice_of_holds {a : Nat} (ha : s.Holds a) :
    (splice img s d)[a]? = d[a - s.start_addr]? := by
  have := s.start_add_size
  unfold Section.Holds at ha
  rw [splice, List.getElem?_append_left (by simp; omega), List.getElem?_append_right (by simp; omega)]
  congr 1; simp; omega

end Splice

/-! ## 3. One refresh -/

section Refresh

variable {SECTIONS : List Section} {readMem : ReadMem}

/-- **The frame.**  Outside every non-ROM section a refresh changes no byte. -/
theorem getElem?_refreshMemoryImage_frame (hrd : ReadsExact SECTIONS readMem) {img : Bytes}
    (hfit : Fits SECTIONS img) {a : Nat} (ha : ∀ s ∈ SECTIONS, s.is_rom = false → ¬ s.Holds a) :
    (refreshMemoryImage SECTIONS readMem img)[a]? = img[a]? := by
  induction SECTIONS generalizing img with
  | nil => rfl
  | cons s ss ih =>
    have hs := List.mem_cons_self s ss
    have hrd' : ReadsExact ss readMem := fun t ht => hrd t (List.mem_cons_of_mem s ht)
    have hstep : (if s.is_rom then img else splice img s (readMem s.start_addr s.size))[a]? =
        img[a]? ∧ (if s.is_rom then img else splice img s (readMem s.start_addr s.size)).length =
        img.length := by
      split
      · exact ⟨rfl, rfl⟩
      · rename_i hrom
        exact ⟨getElem?_splice_of_not_holds (hfit s hs) (hrd s hs) (ha s hs (by simpa using hrom)),
          length_splice (hfit s hs) (hrd s hs)⟩
    rw [refreshMemoryImage, List.foldl_cons, ← refreshMemoryImage,
      ih hrd' (fun t ht => hstep.2 ▸ hfit t (List.mem_cons_of_mem s ht))
        (fun t ht => ha t (List.mem_cons_of_mem s ht)), hstep.1]

/-- **The splice.**  On pairwise disjoint sections, every non-ROM section ends up holding
its new read. -/
theorem getElem?_refreshMemoryImage_of_nonrom (hdis : SECTIONS.Pairwise Section.Disjoint)
    (hrd : ReadsExact SECTIONS readMem) {img : Bytes} (hfit : Fits SECTIONS img) {s : Section}
    (hs : s ∈ SECTIONS) (hrom : s.is_rom = false) {a : Nat} (ha : s.Holds a) :
    (refreshMemoryImage SECTIONS readMem img)[a]? =
      (readMem s.start_addr s.size)[a - s.start_addr]? := by
  induction SECTIONS generalizing img with
  | nil => simp at hs
  | cons t ts ih =>
    rw [List.pairwise_cons] at hdis
    have ht := List.mem_cons_self t ts
    have hrd' : ReadsExact ts readMem := fun u hu => hrd u (List.mem_cons_of_mem t hu)
    have hlen : (if t.is_rom then img else splice img t (readMem t.start_addr t.size)).length =
        img.length := by
      split
      · rfl
      · exact length_splice (hfit t ht) (hrd t ht)
    have hfit' : Fits ts (if t.is_rom then img else splice img t (readMem t.start_addr t.size)) :=
      fun u hu => hlen ▸ hfit u (List.mem_cons_of_mem t hu)
    rw [refreshMemoryImage, List.foldl_cons, ← refreshMemoryImage]
    rcases List.mem_cons.mp hs with rfl | hs'
    · rw [getElem?_refreshMemoryImage_frame hrd' hfit'
        (fun u hu _ => (hdis.1 u hu).not_holds ha), if_neg (by simp [hrom]),
        getElem?_splice_of_holds (hfit s ht) (hrd s ht) ha]
    · exact ih hdis.2 hrd' hfit' hs'

end Refresh

/-! ## 4. Runs of `getMemoryImage` -/

variable {SECTIONS : List Section} {large_key : Nat}

/-- **A section at or above `large_key` hangs the build**: from an empty cache without a
template, on sections with distinct starts, the first call never returns, whatever the device
and the file system. -/
theorem getMemoryImage_hangs (hnd : (SECTIONS.map Section.start_addr).Nodup) {s : Section}
    (hs : s ∈ SECTIONS) (hlarge : large_key ≤ s.start_addr) (readMem : ReadMem) (io : TemplateIO)
    (refresh : Bool) :
    getMemoryImage SECTIONS large_key readMem io refresh ⟨none, none⟩ = (⟨none, none⟩, .error .hangs) := by
  simp only [getMemoryImage, initMemoryImage,
    fit_of_large_key ((mem_dumpedSections hnd).mpr ⟨s, hs, rfl⟩) hlarge]

/-- One RAM section, `[1, 2)`. -/
def ramAtOne : List Section := [⟨1, 2, false, true, by decide⟩]

/-- A file system on which every open, write and read succeeds. -/
def ioOk : TemplateIO := ⟨true, true⟩

/-- A RAM section `[5, 10)` followed by an empty RAM section at the same start. -/
def sharedStart : List Section := [⟨5, 10, false, true, by decide⟩, ⟨5, 5, false, true, by decide⟩]

/-- A RAM section `[3, 10)` and an empty RAM section at 5: they do not overlap, but the empty
one starts strictly inside the other. -/
def nestedEmpty : List Section := [⟨3, 10, false, true, by decide⟩, ⟨5, 5, false, true, by decide⟩]

/-- `readMem(address, length)` on a device whose memory is `D`. -/
def memRead (D : Nat → UInt8) : ReadMem :=
  fun address length => (List.range length).map fun i => D (address + i)

theorem readsExact_memRead (SECTIONS : List Section) (D : Nat → UInt8) :
    ReadsExact SECTIONS (memRead D) := fun _ _ => by simp [memRead]

/-- The image built from a device memory: `D` inside the sections, zeros outside, up to the
highest `end_addr`. -/
theorem getElem?_placed_memRead (hdis : SECTIONS.Pairwise Section.Disjoint) (D : Nat → UInt8)
    (a : Nat) : (placed SECTIONS (memRead D))[a]? =
      if a < maxEnd SECTIONS then some (if ∃ s ∈ SECTIONS, s.Holds a then D a else 0) else none := by
  split_ifs with hlt hin
  · obtain ⟨s, hs, ha⟩ := hin
    rw [getElem?_placed_of_holds hdis (readsExact_memRead SECTIONS D) hs ha]
    have : a - s.start_addr < s.size := by have := s.start_add_size; unfold Section.Holds at ha; omega
    simp [memRead, this, Nat.add_sub_cancel' ha.1]
  · exact getElem?_placed_of_gap (fun s hs ha => hin ⟨s, hs, ha⟩) hlt
  · exact List.getElem?_eq_none (by simpa using hlt)

/-- The template branch's refresh of `D0`'s image reads back `D`'s image, when `D0` and `D`
agree on ROM. -/
theorem refreshMemoryImage_placed (hdis : SECTIONS.Pairwise Section.Disjoint)
    {D0 D : Nat → UInt8} (hrom : ∀ s ∈ SECTIONS, s.is_rom = true → ∀ a, s.Holds a → D0 a = D a) :
    refreshMemoryImage SECTIONS (memRead D) (placed SECTIONS (memRead D0)) =
      placed SECTIONS (memRead D) := by
  have hfit : Fits SECTIONS (placed SECTIONS (memRead D0)) := fun s hs => by
    simpa using le_maxEnd hs
  have hrd := readsExact_memRead SECTIONS D
  apply List.ext_getElem?
  intro a
  by_cases hn : ∃ s ∈ SECTIONS, s.is_rom = false ∧ s.Holds a
  · obtain ⟨s, hs, hr, ha⟩ := hn
    rw [getElem?_refreshMemoryImage_of_nonrom hdis hrd hfit hs hr ha,
      getElem?_placed_of_holds hdis hrd hs ha]
  · rw [getElem?_refreshMemoryImage_frame hrd hfit (fun s hs hr ha => hn ⟨s, hs, hr, ha⟩),
      getElem?_placed_memRead hdis, getElem?_placed_memRead hdis]
    split_ifs with h1 h2
    · obtain ⟨s, hs, ha⟩ := h2
      have hr : s.is_rom = true := by
        cases h : s.is_rom
        · exact absurd ⟨s, hs, h, ha⟩ hn
        · rfl
      rw [hrom s hs hr a ha]
    · rfl
    · rfl

/-- **The template branch refines the no-template branch.**  On pairwise separated sections
with distinct start addresses below `large_key`, let an earlier no-template run have read the
device memory `D0` and written its image as the template, and let the current memory `D`
agree with `D0` on every ROM section.  Then the template branch, reading that template,
builds exactly the image the no-template branch builds from `D` (whether or not its template
write then fails): `D` inside the sections and zeros outside, up to the highest `end_addr`. -/
theorem initMemoryImage_template_eq (hdis : SECTIONS.Pairwise Section.Disjoint)
    (hnd : (SECTIONS.map Section.start_addr).Nodup)
    (hkey : ∀ s ∈ SECTIONS, s.start_addr < large_key) (D0 D : Nat → UInt8)
    (hrom : ∀ s ∈ SECTIONS, s.is_rom = true → ∀ a, s.Holds a → D0 a = D a)
    {io₀ io : TemplateIO} (hwrite : io₀.writeOk) (hread : io.readOk) :
    ∃ template, initMemoryImage SECTIONS large_key (memRead D0) io₀ none =
        (⟨some template, some template⟩, .ok template) ∧
      initMemoryImage SECTIONS large_key (memRead D) io (some template) =
        (⟨some (placed SECTIONS (memRead D)), some template⟩, .ok (placed SECTIONS (memRead D))) ∧
      (∀ io', (initMemoryImage SECTIONS large_key (memRead D) io' none).1.memory_image =
        some (placed SECTIONS (memRead D))) ∧
      ∀ a, (placed SECTIONS (memRead D))[a]? =
        if a < maxEnd SECTIONS then some (if ∃ s ∈ SECTIONS, s.Holds a then D a else 0) else none := by
  have hfit : ∀ E, fit large_key (dumpedSections SECTIONS (memRead E)) =
      .ok (placed SECTIONS (memRead E)) :=
    fun E => fit_dumpedSections hdis hnd hkey (readsExact_memRead SECTIONS E)
  refine ⟨placed SECTIONS (memRead D0), by simp only [initMemoryImage, hfit, hwrite, if_true],
    ?_, fun io' => ?_,
    getElem?_placed_memRead hdis D⟩
  · simp only [initMemoryImage, hread, if_true, refreshMemoryImage_placed hdis hrom]
  · simp only [initMemoryImage, hfit]
    split <;> rfl

theorem initMemoryImage_template_eq_ramAtOne :
    ∃ template, initMemoryImage ramAtOne 0x1000000 (memRead fun _ => 0) ioOk none =
        (⟨some template, some template⟩, .ok template) ∧
      initMemoryImage ramAtOne 0x1000000 (memRead fun _ => 1) ioOk (some template) =
        (⟨some (placed ramAtOne (memRead fun _ => 1)), some template⟩,
          .ok (placed ramAtOne (memRead fun _ => 1))) ∧
      (∀ io', (initMemoryImage ramAtOne 0x1000000 (memRead fun _ => 1) io' none).1.memory_image =
        some (placed ramAtOne (memRead fun _ => 1))) ∧
      ∀ a, (placed ramAtOne (memRead fun _ => 1))[a]? =
        if a < maxEnd ramAtOne then some (if ∃ s ∈ ramAtOne, s.Holds a then 1 else 0) else none :=
  initMemoryImage_template_eq (by simp [ramAtOne]) (by decide) (by simp [ramAtOne]) (fun _ => 0)
    (fun _ => 1) (fun _ hs hr _ _ => by simp [ramAtOne] at hs; simp [hs] at hr) rfl rfl

/-- **Without the side conditions the branches differ.**  On `sharedStart` the no-template
branch loses the section `[5, 10)` to the empty one after it and writes five zero bytes; the
template branch then splices the device's `[5, 10)` back in.  On `nestedEmpty` the
no-template branch raises, while the template branch builds. -/
theorem initMemoryImage_shared_start :
    initMemoryImage sharedStart 0x1000000 (memRead fun _ => 1) ioOk none =
      (⟨some [0, 0, 0, 0, 0], some [0, 0, 0, 0, 0]⟩, .ok [0, 0, 0, 0, 0]) ∧
    initMemoryImage sharedStart 0x1000000 (memRead fun _ => 1) ioOk (some [0, 0, 0, 0, 0]) =
      (⟨some [0, 0, 0, 0, 0, 1, 1, 1, 1, 1], some [0, 0, 0, 0, 0]⟩,
        .ok [0, 0, 0, 0, 0, 1, 1, 1, 1, 1]) ∧
    (initMemoryImage nestedEmpty 0x1000000 (memRead fun _ => 1) ioOk none).2 =
      .error (.raises "flat(): data at offset overlaps with previous data") ∧
    (initMemoryImage nestedEmpty 0x1000000 (memRead fun _ => 1) ioOk
      (some [0, 0, 0, 0, 0, 0, 0, 0, 0, 0])).2 = .ok [0, 0, 0, 1, 1, 1, 1, 1, 1, 1] :=
  ⟨rfl, rfl, rfl, rfl⟩

end InternalBlue
