import Spire.FetchWit.Command
import Mathlib.Data.List.Nodup
import Mathlib.Data.Nat.Digits

/-! What `prettyPrintFetchWIT` leaves on disk.

The names `svid.%v.token` and `svid.%v.key` never collide: decimal printing
is injective (`toString_injective`), and the two suffixes differ. Under a
`filepath.Join` that keeps different plain names apart, every write of a
response goes to its own file (`responseWrites_paths_nodup`). When every write
succeeds, each SVID's token and key are in their files and no other file
changes (`prettyPrintFetchWIT_of_accepted`). When a write fails, the command
returns its error; the files written before it hold their data, its own file
holds what the failed attempt left, and every later file keeps what it held
(`prettyPrintFetchWIT_of_failure`). -/
namespace Spire.FetchWit

/-! ## Decimal names -/

/-- The number a list of decimal digits spells. -/
def decimalValue (ds : List Char) : Nat := ds.foldl (fun acc c => acc * 10 + (c.toNat - 48)) 0

private theorem digitChar_value : ∀ d : Fin 10, (Nat.digitChar d).toNat - 48 = d := by decide

private theorem digitChar_ne_slash : ∀ d : Fin 10, Nat.digitChar d ≠ '/' := by decide

private theorem toDigitsCore_append (fuel n : Nat) (ds : List Char) :
    Nat.toDigitsCore 10 fuel n ds = Nat.toDigitsCore 10 fuel n [] ++ ds := by
  induction fuel generalizing n ds with
  | zero => rfl
  | succ fuel ih =>
    simp only [Nat.toDigitsCore]
    split_ifs
    · rfl
    · rw [ih _ (_ :: ds), ih _ [_], List.append_assoc, List.singleton_append]

private theorem decimalValue_toDigitsCore {fuel n : Nat} (within : n < fuel) :
    decimalValue (Nat.toDigitsCore 10 fuel n []) = n := by
  induction fuel generalizing n with
  | zero => omega
  | succ fuel ih =>
    have digit := digitChar_value ⟨n % 10, Nat.mod_lt n (by decide)⟩
    simp only [Fin.val_mk] at digit
    simp only [Nat.toDigitsCore]
    split_ifs with last
    · simp only [decimalValue, List.foldl_cons, List.foldl_nil, Nat.zero_mul, Nat.zero_add, digit]
      omega
    · rw [toDigitsCore_append, decimalValue, List.foldl_append, ← decimalValue, ih (by omega)]
      simp only [List.foldl_cons, List.foldl_nil, digit]
      omega

theorem decimalValue_toString (n : Nat) : decimalValue (toString n).data = n :=
  decimalValue_toDigitsCore (Nat.lt_succ_self n)

theorem toString_injective : Function.Injective (toString : Nat → String) := fun i j same => by
  rw [← decimalValue_toString i, same, decimalValue_toString]

private theorem toDigitsCore_digits {fuel n : Nat} {ds : List Char} {c : Char} (mem : c ∈ Nat.toDigitsCore 10 fuel n ds) :
    c ∈ ds ∨ ∃ d : Fin 10, c = Nat.digitChar d := by
  induction fuel generalizing n ds with
  | zero => exact .inl mem
  | succ fuel ih =>
    simp only [Nat.toDigitsCore] at mem
    have digit : ∃ d : Fin 10, Nat.digitChar (n % 10) = Nat.digitChar d := ⟨⟨n % 10, Nat.mod_lt n (by decide)⟩, rfl⟩
    split_ifs at mem
    · rcases List.mem_cons.1 mem with rfl | inDs
      · exact .inr digit
      · exact .inl inDs
    · rcases ih mem with inCons | isDigit
      · rcases List.mem_cons.1 inCons with rfl | inDs
        · exact .inr digit
        · exact .inl inDs
      · exact .inr isDigit

theorem slash_not_mem_toString (n : Nat) : '/' ∉ (toString n).data := fun mem => by
  rcases toDigitsCore_digits mem with nil | ⟨d, slash⟩
  · cases nil
  · exact digitChar_ne_slash d slash.symm

/-- Both file names are `svid.`, the index in decimal, and a suffix. -/
theorem indexedName_injective (suffix : String) : Function.Injective fun i : Nat => "svid." ++ toString i ++ suffix :=
  fun i j same => by
    have digits := congrArg String.data same
    simp only [String.data_append, List.append_cancel_left_eq, List.append_cancel_right_eq] at digits
    exact toString_injective (String.ext digits)

theorem plainName_indexedName {suffix : String} (noSlash : '/' ∉ suffix.data) (i : Nat) :
    PlainName ("svid." ++ toString i ++ suffix) := by
  refine ⟨by simp [slash_not_mem_toString, noSlash], fun same => ?_, fun same => ?_⟩ <;>
    simpa using congrArg (fun s : String => s.data.head?) same

theorem svidFileName_injective : Function.Injective svidFileName := indexedName_injective ".token"

theorem keyFileName_injective : Function.Injective keyFileName := indexedName_injective ".key"

theorem svidFileName_ne_keyFileName (i j : Nat) : svidFileName i ≠ keyFileName j := fun same => by
  have last := congrArg (fun s : String => s.data.reverse.head?) same
  simp [svidFileName, keyFileName, List.reverse_append] at last

theorem plainName_svidFileName (i : Nat) : PlainName (svidFileName i) := plainName_indexedName (by decide) i

theorem plainName_keyFileName (i : Nat) : PlainName (keyFileName i) := plainName_indexedName (by decide) i

/-! ## Writes -/

section Writes

variable {writable : String → Except WriteFailure Unit} {files : Files}

theorem runWrites_of_accepted {ws : List Write} (accepted : ∀ w ∈ ws, writable w.path = .ok ()) :
    runWrites writable ws files = (ws.map (·.line), none, applyWrites files ws) := by
  induction ws generalizing files with
  | nil => rfl
  | cons w rest ih =>
    rw [runWrites, accepted w (.head _), ih fun w' mem => accepted w' (.tail _ mem)]
    rfl

theorem runWrites_of_failure {pre rest : List Write} {w : Write} {failure : WriteFailure}
    (accepted : ∀ w' ∈ pre, writable w'.path = .ok ()) (failed : writable w.path = .error failure) :
    runWrites writable (pre ++ w :: rest) files =
      ((pre ++ [w]).map (·.line), some failure.err, Function.update (applyWrites files pre) w.path failure.left) := by
  induction pre generalizing files with
  | nil => simp [runWrites, failed, applyWrites]
  | cons w' pre ih =>
    rw [List.cons_append, runWrites, accepted w' (.head _), ih fun w'' mem => accepted w'' (.tail _ mem)]
    rfl

theorem applyWrites_of_not_mem {ws : List Write} {path : String} (untouched : ∀ w ∈ ws, w.path ≠ path) :
    applyWrites files ws path = files path := by
  induction ws generalizing files with
  | nil => rfl
  | cons w rest ih =>
    rw [applyWrites, ih fun w' mem => untouched w' (.tail _ mem),
      Function.update_noteq (untouched w (.head _)).symm]

theorem applyWrites_of_mem {ws : List Write} {w : Write} (distinct : (ws.map (·.path)).Nodup) (mem : w ∈ ws) :
    applyWrites files ws w.path = some w.data := by
  induction ws generalizing files with
  | nil => cases mem
  | cons w' rest ih =>
    rw [List.map_cons, List.nodup_cons] at distinct
    rw [applyWrites]
    rcases List.mem_cons.1 mem with rfl | later
    · rw [applyWrites_of_not_mem fun w'' inRest same => distinct.1 (List.mem_map.2 ⟨w'', inRest, same⟩),
        Function.update_same]
    · exact ih distinct.2 later

end Writes

/-! ## The writes of a response -/

section Response

variable {lib : Library} {c : FetchWITCommand}

/-- The writes of the loop's iterations from the `k`-th on. -/
def writesFrom (lib : Library) (c : FetchWITCommand) (k : Nat) (svids : List WITSVID) : List Write :=
  (svids.mapIdx fun j => svidWrites lib c (j + k)).flatten

theorem responseWrites_eq_writesFrom (svids : List WITSVID) :
    responseWrites lib c svids = writesFrom lib c 0 svids := by
  simp only [responseWrites, writesFrom, Nat.add_zero]

private theorem writesFrom_cons {k : Nat} {svid : WITSVID} {rest : List WITSVID} :
    writesFrom lib c k (svid :: rest) = svidWrites lib c k svid ++ writesFrom lib c (k + 1) rest := by
  simp only [writesFrom, List.mapIdx_cons, Nat.zero_add, List.flatten_cons, Nat.add_assoc, Nat.add_comm 1 k]

/-- The path of every write of a response is the token or the key file of an
SVID at or after `k`. -/
theorem path_of_mem_writesFrom {k : Nat} {svids : List WITSVID} {w : Write} (mem : w ∈ writesFrom lib c k svids) :
    ∃ j, k ≤ j ∧ j < k + svids.length ∧
      (w.path = lib.join c.writePath (svidFileName j) ∨ w.path = lib.join c.writePath (keyFileName j)) := by
  simp only [writesFrom, List.mem_flatten, List.mem_mapIdx] at mem
  obtain ⟨_, ⟨j, within, rfl⟩, inIteration⟩ := mem
  simp only [svidWrites, List.mem_cons, List.mem_singleton, List.not_mem_nil, or_false] at inIteration
  refine ⟨j + k, by omega, by omega, ?_⟩
  rcases inIteration with rfl | rfl
  exacts [.inl rfl, .inr rfl]

theorem mem_responseWrites {svids : List WITSVID} {i : Nat} {svid : WITSVID} (found : svids[i]? = some svid) :
    ∀ w ∈ svidWrites lib c i svid, w ∈ responseWrites lib c svids := by
  intro w mem
  obtain ⟨within, rfl⟩ := List.getElem?_eq_some_iff.1 found
  simp only [responseWrites, List.mem_flatten, List.mem_mapIdx]
  exact ⟨_, ⟨i, within, rfl⟩, mem⟩

variable (lawful : lib.Lawful)
include lawful

theorem join_svidFileName_injective {i j : Nat}
    (same : lib.join c.writePath (svidFileName i) = lib.join c.writePath (svidFileName j)) : i = j :=
  svidFileName_injective (lawful.join_injective _ _ _ (plainName_svidFileName i) (plainName_svidFileName j) same)

theorem join_keyFileName_injective {i j : Nat}
    (same : lib.join c.writePath (keyFileName i) = lib.join c.writePath (keyFileName j)) : i = j :=
  keyFileName_injective (lawful.join_injective _ _ _ (plainName_keyFileName i) (plainName_keyFileName j) same)

theorem join_svidFileName_ne_keyFileName (i j : Nat) :
    lib.join c.writePath (svidFileName i) ≠ lib.join c.writePath (keyFileName j) := fun same =>
  svidFileName_ne_keyFileName i j
    (lawful.join_injective _ _ _ (plainName_svidFileName i) (plainName_keyFileName j) same)

/-- No two writes of a response go to the same file. -/
theorem writesFrom_paths_nodup (k : Nat) (svids : List WITSVID) : ((writesFrom lib c k svids).map (·.path)).Nodup := by
  induction svids generalizing k with
  | nil => simp [writesFrom]
  | cons svid rest ih =>
    rw [writesFrom_cons, List.map_append, List.nodup_append]
    refine ⟨?_, ih (k + 1), ?_⟩
    · simp [svidWrites, join_svidFileName_ne_keyFileName lawful]
    · intro path first later
      obtain ⟨w, mem, rfl⟩ := List.mem_map.1 later
      obtain ⟨j, after, -, written⟩ := path_of_mem_writesFrom mem
      simp only [svidWrites, List.map_cons, List.map_nil, List.mem_cons, List.mem_singleton, List.not_mem_nil,
        or_false] at first
      rcases first with same | same <;> rcases written with other | other <;> rw [other] at same
      · exact absurd (join_svidFileName_injective lawful same) (by omega)
      · exact join_svidFileName_ne_keyFileName lawful k j same.symm
      · exact join_svidFileName_ne_keyFileName lawful j k same
      · exact absurd (join_keyFileName_injective lawful same) (by omega)

end Response

/-! ## What the command leaves on disk -/

section Run

variable {lib : Library} {c : FetchWITCommand} {writable : String → Except WriteFailure Unit} {svids : List WITSVID}
  {files : Files}

theorem responseWrites_paths_nodup (lawful : lib.Lawful) : ((responseWrites lib c svids).map (·.path)).Nodup := by
  rw [responseWrites_eq_writesFrom]
  exact writesFrom_paths_nodup lawful 0 svids

/-- **Every SVID and key lands in its own file.** When the file system takes
every write, `prettyPrintFetchWIT` with a `-write` directory prints the
response (unless silent) and one line per write, returns no error, and leaves
the token and the key of the `i`-th SVID in `svid.i.token` and `svid.i.key` of
that directory: no later write overwrites them. Every other path keeps what it
held. -/
theorem prettyPrintFetchWIT_of_accepted (lawful : lib.Lawful) (writing : c.writePath ≠ "")
    (accepted : ∀ w ∈ responseWrites lib c svids, writable w.path = .ok ()) :
    ∃ files', prettyPrintFetchWIT lib c writable svids files =
        ((if c.silent then [] else lib.printWITSVIDResponse svids c.respTime) ++
          (responseWrites lib c svids).map (·.line), none, files') ∧
      (∀ i svid, svids[i]? = some svid →
        files' (lib.join c.writePath (svidFileName i)) = some svid.witSvid ∧
          files' (lib.join c.writePath (keyFileName i)) = some svid.witSvidKey) ∧
      ∀ path, (∀ i < svids.length,
        path ≠ lib.join c.writePath (svidFileName i) ∧ path ≠ lib.join c.writePath (keyFileName i)) →
        files' path = files path := by
  refine ⟨applyWrites files (responseWrites lib c svids), ?_, fun i svid found => ?_, fun path elsewhere => ?_⟩
  · rw [prettyPrintFetchWIT, if_pos writing, writeResponse, runWrites_of_accepted accepted]
  · have written : ∀ w ∈ svidWrites lib c i svid, w ∈ responseWrites lib c svids := mem_responseWrites found
    exact ⟨applyWrites_of_mem (responseWrites_paths_nodup lawful) (written _ (.head _)),
      applyWrites_of_mem (responseWrites_paths_nodup lawful) (written _ (.tail _ (.head _)))⟩
  · refine applyWrites_of_not_mem fun w mem same => ?_
    rw [responseWrites_eq_writesFrom] at mem
    obtain ⟨j, -, within, written⟩ := path_of_mem_writesFrom mem
    rcases written with token | key
    · exact (elsewhere j (by omega)).1 (same.symm.trans token)
    · exact (elsewhere j (by omega)).2 (same.symm.trans key)

/-- **A failed write ends the command and touches no later file.** When the
file system takes the writes before `w` and refuses `w`, `prettyPrintFetchWIT`
prints the lines up to `w`'s and returns the file system's error. Each file
written before holds its data, `w`'s file holds what the failed attempt left,
and the files of the writes after it keep what they held. -/
theorem prettyPrintFetchWIT_of_failure (lawful : lib.Lawful) (writing : c.writePath ≠ "")
    {pre rest : List Write} {w : Write} {failure : WriteFailure} (split : responseWrites lib c svids = pre ++ w :: rest)
    (accepted : ∀ w' ∈ pre, writable w'.path = .ok ()) (failed : writable w.path = .error failure) :
    ∃ files', prettyPrintFetchWIT lib c writable svids files =
        ((if c.silent then [] else lib.printWITSVIDResponse svids c.respTime) ++ (pre ++ [w]).map (·.line),
          some failure.err, files') ∧
      (∀ w' ∈ pre, files' w'.path = some w'.data) ∧ files' w.path = failure.left ∧
        ∀ w' ∈ rest, files' w'.path = files w'.path := by
  have distinct : ((responseWrites lib c svids).map (·.path)).Nodup := responseWrites_paths_nodup lawful
  rw [split, List.map_append, List.nodup_append, List.map_cons, List.nodup_cons] at distinct
  obtain ⟨distinctBefore, ⟨failedLast, -⟩, disjoint⟩ := distinct
  have notBefore : ∀ w' ∈ pre, ∀ w'' ∈ w :: rest, w'.path ≠ w''.path := fun w' earlier w'' later same =>
    disjoint (List.mem_map_of_mem _ earlier) (same ▸ List.mem_map_of_mem _ later)
  refine ⟨Function.update (applyWrites files pre) w.path failure.left, ?_, fun w' earlier => ?_, Function.update_same _ _ _,
    fun w' later => ?_⟩
  · rw [prettyPrintFetchWIT, if_pos writing, writeResponse, split, runWrites_of_failure accepted failed]
  · rw [Function.update_noteq (notBefore w' earlier w (.head _)), applyWrites_of_mem distinctBefore earlier]
  · have notFailed : w'.path ≠ w.path := fun same => failedLast (same ▸ List.mem_map_of_mem _ later)
    rw [Function.update_noteq notFailed,
      applyWrites_of_not_mem fun w'' earlier => notBefore w'' earlier w' (.tail _ later)]

end Run

/-! ## A run -/

/-- `filepath.Join` of a directory and a plain name, and a printer that prints nothing. -/
def stubLibrary : Library where
  join dir name := dir ++ "/" ++ name
  printWITSVIDResponse _ _ := []

theorem stubLibrary_lawful : stubLibrary.Lawful where
  join_injective _ _ _ _ _ same := String.ext (List.append_cancel_left (congrArg String.data same))

/-- A silent command writing to `out`. -/
def sampleCommand : FetchWITCommand := ⟨true, "out", 0⟩

/-- A response of two SVIDs. -/
def sampleSvids : List WITSVID := [⟨"token-0", "key-0"⟩, ⟨"token-1", "key-1"⟩]

theorem sample_second_key_written :
    (prettyPrintFetchWIT stubLibrary sampleCommand (fun _ => .ok ()) sampleSvids (fun _ => none)).2.2
      "out/svid.1.key" = some "key-1" := by
  obtain ⟨files', run, written, -⟩ := @prettyPrintFetchWIT_of_accepted stubLibrary sampleCommand (fun _ => .ok ())
    sampleSvids (fun _ => none) stubLibrary_lawful (by decide) fun _ _ => rfl
  rw [run]
  exact (written 1 _ rfl).2

/-- A file system that refuses the first key's file, after truncating it. -/
def sampleWritable (path : String) : Except WriteFailure Unit :=
  if path = "out/svid.0.key" then .error ⟨"permission denied", some ""⟩ else .ok ()

theorem sample_refused_key_stops :
    let (_, err, files') := prettyPrintFetchWIT stubLibrary sampleCommand sampleWritable sampleSvids (fun _ => none)
    err = some "permission denied" ∧ files' "out/svid.0.token" = some "token-0" ∧ files' "out/svid.0.key" = some "" ∧
      files' "out/svid.1.token" = none := by
  obtain ⟨files', run, written, failedLeft, untouched⟩ := @prettyPrintFetchWIT_of_failure stubLibrary sampleCommand
    sampleWritable sampleSvids (fun _ => none) stubLibrary_lawful (by decide)
    [⟨"Writing SVID #0 to file out/svid.0.token.\n", "out/svid.0.token", "token-0"⟩]
    [⟨"Writing SVID #1 to file out/svid.1.token.\n", "out/svid.1.token", "token-1"⟩,
      ⟨"Writing key #1 to file out/svid.1.key.\n", "out/svid.1.key", "key-1"⟩]
    ⟨"Writing key #0 to file out/svid.0.key.\n", "out/svid.0.key", "key-0"⟩ ⟨"permission denied", some ""⟩ rfl
    (by simp [sampleWritable]) (by simp [sampleWritable])
  rw [run]
  exact ⟨rfl, written _ (.head _), failedLeft, untouched _ (.head _)⟩

end Spire.FetchWit
