import Mathlib.Logic.Function.Basic

/-! The agent CLI's `fetch wit` command: `prettyPrintFetchWIT` and
`writeResponse`, which writes each WIT-SVID and its key to files named by the
SVID's index in the `-write` directory.

The state is what each file holds. A `diskutil.WritePubliclyReadableFile`
call, outside `src/`, opens its file truncated and writes the data: it succeeds
with the data in the file, or fails and leaves the file with whatever the
attempt left (`WriteFailure`). The file system's answer for each path is an
argument. `filepath.Join` and the printing of a response are outside
`src/` and are the `Library` argument; `fmt.Sprintf` with `%v` or `%d` of an
index prints it in decimal, as `toString` does.

`writeResponse`'s loop makes two writes per SVID, each after printing its
line, and returns at the first write that fails. `responseWrites` lists those
writes in order and `runWrites` makes them. -/
namespace Spire.FetchWit

/-- `workload.WITSVID`, with the fields `writeResponse` reads. -/
structure WITSVID where
  witSvid : String
  witSvidKey : String
  deriving DecidableEq, Repr

/-- The code outside `src/` that the command calls. -/
structure Library where
  /-- `filepath.Join(dir, name)` -/
  join : String → String → String
  /-- the lines `printWITSVIDResponse(env, svids, respTime)` prints -/
  printWITSVIDResponse : List WITSVID → Int → List String

/-- What each path holds. -/
abbrev Files := String → Option String

/-- `fetchWITCommand`'s flags that the printing reads, and the time the fetch took. -/
structure FetchWITCommand where
  silent : Bool
  writePath : String
  /-- `respTime`, in nanoseconds -/
  respTime : Int

variable (lib : Library)

/-- `fmt.Sprintf("svid.%v.token", i)` -/
def svidFileName (i : Nat) : String := "svid." ++ toString i ++ ".token"

/-- `fmt.Sprintf("svid.%v.key", i)` -/
def keyFileName (i : Nat) : String := "svid." ++ toString i ++ ".key"

/-- One `writeFile` call of `writeResponse`: the line printed before it, the
path and the data. -/
structure Write where
  line : String
  path : String
  data : String

/-- The two writes of the loop's `i`-th iteration. -/
def svidWrites (c : FetchWITCommand) (i : Nat) (svid : WITSVID) : List Write :=
  let svidPath := lib.join c.writePath (svidFileName i)
  let keyPath := lib.join c.writePath (keyFileName i)
  [⟨"Writing SVID #" ++ toString i ++ " to file " ++ svidPath ++ ".\n", svidPath, svid.witSvid⟩,
    ⟨"Writing key #" ++ toString i ++ " to file " ++ keyPath ++ ".\n", keyPath, svid.witSvidKey⟩]

/-- Every write `writeResponse` makes, in order. -/
def responseWrites (c : FetchWITCommand) (svids : List WITSVID) : List Write :=
  (svids.mapIdx (svidWrites lib c)).flatten

/-- A failed `diskutil.WritePubliclyReadableFile` call: its error, and what the
file holds after it. The call truncates the file before it writes, so the file
may be left empty, with part of the data, or as it was. -/
structure WriteFailure where
  err : String
  left : Option String

/-- Writes made in order, each after its line is printed, up to the first that
fails: the lines printed, the error, and the files left. -/
def runWrites (writable : String → Except WriteFailure Unit) : List Write → Files →
    List String × Option String × Files
  | [], files => ([], none, files)
  | w :: rest, files =>
    match writable w.path with
    | .error failure => ([w.line], some failure.err, Function.update files w.path failure.left)
    | .ok () =>
      let (lines, err, files') := runWrites writable rest (Function.update files w.path (some w.data))
      (w.line :: lines, err, files')

/-- `c.writeResponse(svids)`, given the file system's answer for each path. -/
def writeResponse (c : FetchWITCommand) (writable : String → Except WriteFailure Unit) (svids : List WITSVID)
    (files : Files) : List String × Option String × Files :=
  runWrites writable (responseWrites lib c svids) files

/-- `c.prettyPrintFetchWIT(env, resp)`: the lines printed, the error, and the
files left. -/
def prettyPrintFetchWIT (c : FetchWITCommand) (writable : String → Except WriteFailure Unit) (svids : List WITSVID)
    (files : Files) : List String × Option String × Files :=
  let printed := if c.silent then [] else lib.printWITSVIDResponse svids c.respTime
  if c.writePath ≠ "" then
    let (lines, err, files') := writeResponse lib c writable svids files
    (printed ++ lines, err, files')
  else (printed, none, files)

/-- A name `filepath.Join` keeps as it is: no separator, and neither `.` nor `..`. -/
def PlainName (name : String) : Prop := '/' ∉ name.data ∧ name ≠ "." ∧ name ≠ ".."

/-- What the command relies on of `filepath.Join`: in one directory, different
plain names give different paths. -/
structure Library.Lawful : Prop where
  join_injective : ∀ dir a b, PlainName a → PlainName b → lib.join dir a = lib.join dir b → a = b

/-- The files after writes that all succeed, each replacing its file. -/
def applyWrites (files : Files) : List Write → Files
  | [] => files
  | w :: rest => applyWrites (Function.update files w.path (some w.data)) rest

end Spire.FetchWit
