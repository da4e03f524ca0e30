/-
# The command table, `findCmd`, and `repeat`

`findCmd(keyword)` looks a keyword up among the `Cmd` subclasses `getCmdList()` finds, and
gives up, warning "Multiple commands match", when more than one declares it.
`CmdRepeat.work` splits its own command line on blanks, reads a timeout, looks the third word
up with `findCmd`, and runs `cmdclass(" ".join(args[2:])).work()` in a `while True` loop until
a key is waiting on stdin or a run does not return True.

* `repeat_args`: `split(' ')` undoes `' '.join`, so the repeated command is the one the third
  word names, and its `getArgs()` is handed exactly the words typed after that word;
* `repeat_rounds`: the loop is a search for the first round that stops it: a key waiting
  (True) or a run that does not return True (False, or its exception); it runs the command
  once for each round before that one.  A NEGATIVE timeout ends it after the first good run,
  in `time.sleep`'s `IOError`.
-/
import InternalBlue.Write
import Mathlib.Data.List.Sort

namespace InternalBlue

/-! ## 1. The command table -/

/-- The classes of `cmds.py` that `getCmdList()` inspects: `Cmd` and its subclasses. -/
inductive Command
  | cmd | cmdHelp | cmdExit | cmdLogLevel | cmdMonitor | cmdRepeat | cmdDumpMem | cmdSearchMem
  | cmdHexdump | cmdTelescope | cmdDisasm | cmdWriteMem | cmdWriteAsm | cmdExec | cmdSendHciCmd
  | cmdPatch | cmdSendLmp | cmdInfo
deriving DecidableEq, Repr

namespace Command

/-- The classes in the order `cmds.py` defines them. -/
def all : List Command :=
  [cmd, cmdHelp, cmdExit, cmdLogLevel, cmdMonitor, cmdRepeat, cmdDumpMem, cmdSearchMem,
    cmdHexdump, cmdTelescope, cmdDisasm, cmdWriteMem, cmdWriteAsm, cmdExec, cmdSendHciCmd,
    cmdPatch, cmdSendLmp, cmdInfo]

/-- The class name, by which `inspect.getmembers` sorts. -/
def name : Command → String
  | cmd => "Cmd"
  | cmdHelp => "CmdHelp"
  | cmdExit => "CmdExit"
  | cmdLogLevel => "CmdLogLevel"
  | cmdMonitor => "CmdMonitor"
  | cmdRepeat => "CmdRepeat"
  | cmdDumpMem => "CmdDumpMem"
  | cmdSearchMem => "CmdSearchMem"
  | cmdHexdump => "CmdHexdump"
  | cmdTelescope => "CmdTelescope"
  | cmdDisasm => "CmdDisasm"
  | cmdWriteMem => "CmdWriteMem"
  | cmdWriteAsm => "CmdWriteAsm"
  | cmdExec => "CmdExec"
  | cmdSendHciCmd => "CmdSendHciCmd"
  | cmdPatch => "CmdPatch"
  | cmdSendLmp => "CmdSendLmp"
  | cmdInfo => "CmdInfo"

/-- The class attribute `keywords`. -/
def keywords : Command → List String
  | cmd => []
  | cmdHelp => ["help", "?"]
  | cmdExit => ["exit", "quit", "q", "bye"]
  | cmdLogLevel => ["log_level", "loglevel", "verbosity"]
  | cmdMonitor => ["monitor"]
  | cmdRepeat => ["repeat"]
  | cmdDumpMem => ["dumpmem", "memdump"]
  | cmdSearchMem => ["searchmem", "memsearch"]
  | cmdHexdump => ["hexdump", "hd"]
  | cmdTelescope => ["telescope", "tel"]
  | cmdDisasm => ["disasm", "disas", "disassemble", "d"]
  | cmdWriteMem => ["writemem"]
  | cmdWriteAsm => ["writeasm", "asm"]
  | cmdExec => ["exec", "execute"]
  | cmdSendHciCmd => ["sendhcicmd"]
  | cmdPatch => ["patch"]
  | cmdSendLmp => ["sendlmp"]
  | cmdInfo => ["info", "show", "i"]

end Command

/-- Python 2's `<` on `str`: the first differing byte decides, and a proper prefix comes
first. -/
def strLt : List Char → List Char → Bool
  | [], [] => false
  | [], _ :: _ => true
  | _ :: _, [] => false
  | a :: as, b :: bs => if a = b then strLt as bs else decide (a.toNat < b.toNat)

/-- `getCmdList()`: the classes `inspect.getmembers` lists, sorted by name, less the first,
which is meant to be `Cmd` itself. -/
def getCmdList : List Command :=
  (Command.all.insertionSort fun a b => strLt b.name.data a.name.data = false).tail

/-- `findCmd(keyword)`: the one class of `getCmdList()` whose `keywords` hold the keyword;
`None` when there is none, and when there are several (after a warning). -/
def findCmd (keyword : String) : Option Command :=
  match getCmdList.filter (keyword ∈ ·.keywords) with
  | [] => none
  | [c] => some c
  | _ :: _ :: _ => none

/-! ## 2. Command lines -/

/-- Python's `s.split(" ")`: every blank splits, and empty words stay. -/
def pySplit (s : String) : List String := (s.data.splitOn ' ').map String.mk

/-- The words `Cmd.getArgs()` hands its parser: `self.cmdline.split(' ')[1:]`. -/
def argWords (cmdline : String) : List String := (pySplit cmdline).drop 1

/-- Python 2's `int(s)` in base ten, as `PyOS_strtol` reads it: blanks around, an optional
sign, more blanks, then decimal digits; anything else is `ValueError`. -/
def pyInt (s : String) : Option Int :=
  let (neg, t) : Bool × List Char := match s.trim.data with
    | '-' :: t => (true, t)
    | '+' :: t => (false, t)
    | t => (false, t)
  (fun n : Nat => if neg then -(n : Int) else n) <$> digitsValue 10 (t.dropWhile Char.isWhitespace)

/-- No word of a split holds the separator. -/
theorem not_mem_of_mem_splitOn {c : Char} :
    ∀ {xs w : List Char}, w ∈ xs.splitOn c → c ∉ w
  | [], w, h => by
    rw [List.splitOn_nil, List.mem_singleton] at h
    subst h; exact List.not_mem_nil c
  | x :: xs, w, h => by
    rw [List.splitOn, List.splitOnP_cons] at h
    split_ifs at h with hx
    · rcases List.mem_cons.mp h with rfl | h
      · exact List.not_mem_nil c
      · exact not_mem_of_mem_splitOn h
    · obtain ⟨w₀, ws, hws⟩ : ∃ w₀ ws, xs.splitOnP (· == c) = w₀ :: ws :=
        List.exists_cons_of_ne_nil (List.splitOnP_ne_nil _ xs)
      have hw₀ : c ∉ w₀ := not_mem_of_mem_splitOn (by rw [List.splitOn, hws]; exact List.mem_cons_self _ _)
      rw [hws, List.modifyHead_cons, List.mem_cons] at h
      rcases h with rfl | h
      · simp only [beq_iff_eq] at hx
        exact fun hc => (List.mem_cons.mp hc).elim (fun h => hx h.symm) hw₀
      · exact not_mem_of_mem_splitOn (by rw [List.splitOn, hws]; exact List.mem_cons_of_mem _ h)

theorem intercalate_cons_flatMap {α : Type} (sep a : List α) (as : List (List α)) :
    sep.intercalate (a :: as) = a ++ as.flatMap (sep ++ ·) := by
  induction as generalizing a with
  | nil => simp [List.intercalate]
  | cons b bs ih =>
    have : sep.intercalate (a :: b :: bs) = a ++ sep ++ sep.intercalate (b :: bs) := by
      simp [List.intercalate, List.intersperse_cons₂]
    rw [this, ih]
    simp

/-- `sep.join(words)` on characters. -/
theorem intercalate_data (sep : String) : ∀ ws : List String,
    (sep.intercalate ws).data = sep.data.intercalate (ws.map String.data)
  | [] => rfl
  | w :: ws => by
    rw [intercalate_cons_data, List.map_cons, intercalate_cons_flatMap, List.flatMap_map]

/-- **`split(' ')` undoes `' '.join`** on words without a blank. -/
theorem pySplit_intercalate {ws : List String} (hne : ws ≠ []) (hblank : ∀ w ∈ ws, ' ' ∉ w.data) :
    pySplit (" ".intercalate ws) = ws := by
  have hmap : ws.map String.data ≠ [] := by simpa using hne
  have hx : ∀ l ∈ ws.map String.data, ' ' ∉ l := by simpa using hblank
  rw [pySplit, intercalate_data, show (" " : String).data = [' '] from rfl,
    List.splitOn_intercalate _ ' ' hx hmap, List.map_map]
  exact List.map_id'' (fun _ => rfl) ws

/-- **`repeat` hands the repeated command what was typed after it.**  For a command line whose
words are `repeat t kw rest..`, the command line `" ".join(args[2:])` splits back into the
keyword `kw`, by which `findCmd` chose the class, and `rest`, which its `getArgs()` hands the
parser. -/
theorem repeat_args (cmdline w t kw : String) (rest : List String)
    (h : pySplit cmdline = w :: t :: kw :: rest) :
    pySplit (" ".intercalate (kw :: rest)) = kw :: rest ∧
      argWords (" ".intercalate (kw :: rest)) = rest := by
  have hblank : ∀ v ∈ kw :: rest, ' ' ∉ v.data := fun v hv => by
    have : v ∈ pySplit cmdline := by rw [h]; exact List.mem_cons_of_mem _ (List.mem_cons_of_mem _ hv)
    obtain ⟨l, hl, rfl⟩ := List.mem_map.mp this
    exact not_mem_of_mem_splitOn hl
  have hsplit := pySplit_intercalate (List.cons_ne_nil kw rest) hblank
  exact ⟨hsplit, by rw [argWords, hsplit]; rfl⟩

/-- `repeat 100 info device` runs `info device`, whose parser gets `device`. -/
theorem repeat_args_info :
    pySplit (" ".intercalate ["info", "device"]) = ["info", "device"] ∧
      argWords (" ".intercalate ["info", "device"]) = ["device"] :=
  repeat_args "repeat 100 info device" "repeat" "100" "info" ["device"] (by decide)

/-! ## 3. `CmdRepeat.work` -/

/-- One pass of the `while True` loop as the world answers it: whether `select` finds a key
waiting on stdin, and how `cmdclass(repcmdline).work()` would end in this pass, for any class
and command line. -/
structure Round where
  keypress : Bool
  work : Command → String → Ending

/-- `CmdRepeat.work`'s `while True` loop over the passes the world answers: how many times it
runs the command, and how it ends; `none` is still looping after the last pass given.
Python 2's `time.sleep` raises `IOError` on a negative time. -/
def repeatLoop (timeout : Int) (cls : Command) (repcmdline : String) :
    List Round → Nat × Option Ending
  | [] => (0, none)
  | r :: rs =>
    if r.keypress then (0, some (.returns true))
    else match r.work cls repcmdline with
      | .raises e => (1, some (.raises e))
      | .returns true =>
        if timeout < 0 then (1, some (.raises "IOError"))
        else ((repeatLoop timeout cls repcmdline rs).1 + 1, (repeatLoop timeout cls repcmdline rs).2)
      | _ => (1, some (.fails ("Command failed: " ++ repcmdline)))

/-- `CmdRepeat.work`: the command line is split on blanks, not parsed by `parser`. -/
def CmdRepeat.work (cmdline : String) (rounds : List Round) : Nat × Option Ending :=
  match pySplit cmdline with
  | _ :: t :: kw :: rest =>
    match pyInt t with
    | none => (0, some (.fails ("Not a number: " ++ t)))
    | some timeout =>
      match findCmd kw with
      | none => (0, some (.fails ("Unknown command: " ++ kw)))
      | some cls => repeatLoop timeout cls (" ".intercalate (kw :: rest)) rounds
  | _ => (0, some (.fails "Need more arguments!"))

/-- The pass stops the loop: a key is waiting, or the run does not return True. -/
def Round.stops (cls : Command) (repcmdline : String) (r : Round) : Bool :=
  r.keypress || r.work cls repcmdline != .returns true

/-- How a pass that stops the loop ends it. -/
def Round.ending (cls : Command) (repcmdline : String) (r : Round) : Ending :=
  if r.keypress then .returns true
  else match r.work cls repcmdline with
    | .raises e => .raises e
    | _ => .fails ("Command failed: " ++ repcmdline)

section Loop

variable {cls : Command} {cl : String}

/-- A pass that stops the loop ends it as `Round.ending` says, after running the command
once unless a key was waiting. -/
theorem repeatLoop_stop (t : Int) {r : Round} (hr : r.stops cls cl = true) (rs : List Round) :
    repeatLoop t cls cl (r :: rs) = (if r.keypress then 0 else 1, some (r.ending cls cl)) := by
  unfold Round.stops at hr
  unfold repeatLoop Round.ending
  cases hk : r.keypress
  · simp only [hk, Bool.false_or, bne_iff_ne, ne_eq] at hr
    simp only [Bool.false_eq_true, ↓reduceIte]
    split <;> simp_all
  · rfl

/-- A pass that does not stop the loop runs the command and goes on, for a timeout that is
not negative. -/
theorem repeatLoop_go (t : Nat) {r : Round} (hr : r.stops cls cl = false) (rs : List Round) :
    repeatLoop t cls cl (r :: rs) =
      ((repeatLoop t cls cl rs).1 + 1, (repeatLoop t cls cl rs).2) := by
  simp only [Round.stops, Bool.or_eq_false_iff, bne_eq_false_iff_eq] at hr
  have ht : ¬ (t : Int) < 0 := by omega
  simp [repeatLoop, hr.1, hr.2, ht]

/-- **The loop is a search for the first pass that stops it**, for every timeout that is not
negative and every sequence of passes: it ends as that pass says, after running the command
once for each pass before it (and once more unless a key was waiting); with no such pass it is
still looping, having run the command once a pass. -/
theorem repeatLoop_eq (t : Nat) (rounds : List Round) :
    repeatLoop t cls cl rounds =
      match rounds.dropWhile (!·.stops cls cl) with
      | [] => (rounds.length, none)
      | r :: _ => ((rounds.takeWhile (!·.stops cls cl)).length + if r.keypress then 0 else 1,
          some (r.ending cls cl)) := by
  induction rounds with
  | nil => rfl
  | cons r rs ih =>
    cases hr : r.stops cls cl
    · rw [repeatLoop_go t hr, ih, List.dropWhile_cons_of_pos (by simpa using hr),
        List.takeWhile_cons_of_pos (by simpa using hr)]
      split
      · simp
      · simp only [List.length_cons, Prod.mk.injEq, and_true]; omega
    · rw [repeatLoop_stop t hr, List.dropWhile_cons_of_neg (by simpa using hr),
        List.takeWhile_cons_of_neg (by simpa using hr)]
      simp

/-- A negative timeout never runs the command twice. -/
theorem repeatLoop_negative (t : Nat) : ∀ rounds : List Round,
    (repeatLoop (-(t + 1 : Nat)) cls cl rounds).1 ≤ 1
  | [] => Nat.zero_le 1
  | r :: rs => by
    unfold repeatLoop
    split
    · exact Nat.zero_le 1
    · split
      · exact le_refl 1
      · rw [if_pos (by omega)]
      · exact le_refl 1

end Loop

/-- **`repeat` runs the command until the first pass that stops it.**  For every sequence of
passes of the loop, and a timeout that is not negative: the loop ends at the first pass with a
key waiting (True) or whose run does not return True (False with "Command failed: ", or the
run's exception), after running the command once for each pass before it and once more unless
a key was waiting; with no such pass it is still looping.  A negative timeout never runs the
command twice. -/
theorem repeat_rounds (cls : Command) (cl : String) (rounds : List Round) :
    (∀ t : Nat, repeatLoop t cls cl rounds =
      match rounds.dropWhile (!·.stops cls cl) with
      | [] => (rounds.length, none)
      | r :: _ => ((rounds.takeWhile (!·.stops cls cl)).length + if r.keypress then 0 else 1,
          some (r.ending cls cl))) ∧
    ∀ t : Nat, (repeatLoop (-(t + 1 : Nat)) cls cl rounds).1 ≤ 1 :=
  ⟨fun t => repeatLoop_eq t rounds, fun t => repeatLoop_negative t rounds⟩

end InternalBlue
