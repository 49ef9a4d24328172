import Spire.AgentRun.Config
import Spire.Except

/-! What configuration the agent starts with.

`Overrides` is what one layer of options sets, option by option, and
`Overrides.apply` puts those values in place of a configuration's. `resolve`
computes a layer's values with the calls `mergeConfig`'s blocks make. Each
block writes one part of those values or returns its error (`BlockSets`), so
`mergeConfig` fails with the first error `resolve` meets and otherwise leaves
the configuration with the layer's values applied. Two merges compose to the
second layer over the first (`Overrides.apply_apply`): the agent gets each
option from the flags, or else from the file, or else from the defaults. -/
namespace Spire.AgentRun

variable {IP Bundle Logger Plugins : Type} (lib : Library IP Bundle Logger Plugins)

/-- What one layer of options sets, option by option; `none` where it sets nothing. -/
@[ext] structure Overrides (IP Bundle Logger Plugins : Type) where
  serverIP : Option IP
  serverPort : Option Int
  trustDomain : Option String
  trustBundle : Option Bundle
  joinToken : Option String
  bindAddressName : Option String
  dataDir : Option String
  pluginDir : Option String
  log : Option Logger
  umask : Option Int
  pluginsConfigs : Option Plugins

namespace Overrides

/-- Sets nothing. -/
def unset : Overrides IP Bundle Logger Plugins :=
  ⟨none, none, none, none, none, none, none, none, none, none, none⟩

/-- The configuration with the values `o` sets in place of `c`'s. -/
def apply (o : Overrides IP Bundle Logger Plugins) (c : Config IP Bundle Logger Plugins) :
    Config IP Bundle Logger Plugins where
  serverIP := o.serverIP.or c.serverIP
  serverPort := o.serverPort.getD c.serverPort
  trustDomain := o.trustDomain.or c.trustDomain
  trustBundle := o.trustBundle.or c.trustBundle
  joinToken := o.joinToken.getD c.joinToken
  bindAddressName := o.bindAddressName.getD c.bindAddressName
  dataDir := o.dataDir.getD c.dataDir
  pluginDir := o.pluginDir.getD c.pluginDir
  log := o.log.or c.log
  umask := o.umask.getD c.umask
  pluginsConfigs := o.pluginsConfigs.or c.pluginsConfigs

/-- `upper` layered over `lower`: each option as `upper` sets it, or else as `lower` does. -/
def over (upper lower : Overrides IP Bundle Logger Plugins) : Overrides IP Bundle Logger Plugins where
  serverIP := upper.serverIP.or lower.serverIP
  serverPort := upper.serverPort.or lower.serverPort
  trustDomain := upper.trustDomain.or lower.trustDomain
  trustBundle := upper.trustBundle.or lower.trustBundle
  joinToken := upper.joinToken.or lower.joinToken
  bindAddressName := upper.bindAddressName.or lower.bindAddressName
  dataDir := upper.dataDir.or lower.dataDir
  pluginDir := upper.pluginDir.or lower.pluginDir
  log := upper.log.or lower.log
  umask := upper.umask.or lower.umask
  pluginsConfigs := upper.pluginsConfigs.or lower.pluginsConfigs

@[simp] theorem unset_apply (c : Config IP Bundle Logger Plugins) : unset.apply c = c := rfl

private theorem getD_or {α : Type} (a b : Option α) (d : α) : (a.or b).getD d = a.getD (b.getD d) := by
  cases a <;> rfl

/-- Applying two layers in turn is applying the second layered over the first. -/
theorem apply_apply (upper lower : Overrides IP Bundle Logger Plugins) (c : Config IP Bundle Logger Plugins) :
    upper.apply (lower.apply c) = (upper.over lower).apply c := by
  ext1 <;> simp only [apply, over, getD_or, Option.or_assoc]

end Overrides

open Overrides

/-- What a block that cannot fail sets. -/
def plainValue {α : Type} (set : Prop) [Decidable set] (v : α) : Option α := if set then some v else none

/-- What a block whose call can fail sets, or its error. -/
def computedValue {α : Type} (set : Prop) [Decidable set] (compute : Except String α) :
    Except String (Option α) :=
  if set then compute.map some else .ok none

/-- The values one layer sets, computed by the calls `mergeConfig`'s blocks
make, or the first error among them. -/
def resolve (cmd : RunConfig Plugins) : Except String (Overrides IP Bundle Logger Plugins) := do
  let a := cmd.agentConfig
  let serverIP ← computedValue (a.serverAddress ≠ "") (lookupServerAddress lib a.serverAddress)
  let trustBundle ← computedValue (a.trustBundlePath ≠ "") (loadTrustBundle lib a.trustBundlePath)
  let log ← computedValue (a.logFile ≠ "" ∨ a.logLevel ≠ "") (newLayerLogger lib a)
  let umask ← computedValue (a.umask ≠ "") (parseUmask lib a.umask)
  pure
    { serverIP, trustBundle, log, umask
      serverPort := plainValue (a.serverPort ≠ 0) a.serverPort
      trustDomain := plainValue (a.trustDomain ≠ "") a.trustDomain
      joinToken := plainValue (a.joinToken ≠ "") a.joinToken
      bindAddressName := plainValue (a.socketPath ≠ "") a.socketPath
      dataDir := plainValue (a.dataDir ≠ "") a.dataDir
      pluginDir := plainValue (a.pluginDir ≠ "") a.pluginDir
      pluginsConfigs := cmd.pluginsConfigs }

/-! ## Each block writes its part of the layer -/

/-- `block` writes the values `value` sets, or returns its error. -/
def BlockSets (block : Block (Config IP Bundle Logger Plugins)) (value : Except String (Overrides IP Bundle Logger Plugins)) :
    Prop :=
  block = value.map Overrides.apply

/-- What a list of blocks sets together: each over the ones before it, up to
the first error. -/
def collect : List (Except String (Overrides IP Bundle Logger Plugins)) → Except String (Overrides IP Bundle Logger Plugins)
  | [] => .ok unset
  | value :: rest => do
    let first ← value
    let later ← collect rest
    pure (later.over first)

private theorem collect_cons (value : Except String (Overrides IP Bundle Logger Plugins)) (rest) :
    collect (value :: rest) = value >>= fun first => collect rest >>= fun later => pure (later.over first) := rfl

section Sets

variable {α : Type} {set : Prop} [Decidable set] (single : Option α → Overrides IP Bundle Logger Plugins)

theorem plainBlock_sets {write : Config IP Bundle Logger Plugins → Config IP Bundle Logger Plugins} {v : α}
    (writes : ∀ c, write c = (single (some v)).apply c) (unsets : single none = unset) :
    BlockSets (plainBlock set write) (.ok (single (plainValue set v))) := by
  unfold BlockSets plainBlock plainValue
  congr 1
  funext c
  by_cases isSet : set
  · simp only [isSet, if_true]
    exact writes c
  · simp only [isSet, if_false, unsets]
    rfl

theorem computedBlock_sets {compute : Except String α}
    {write : α → Config IP Bundle Logger Plugins → Config IP Bundle Logger Plugins}
    (writes : ∀ v c, write v c = (single (some v)).apply c) (unsets : single none = unset) :
    BlockSets (computedBlock set compute write) ((computedValue set compute).map single) := by
  unfold BlockSets computedBlock computedValue
  split
  · cases compute
    · rfl
    · exact congrArg Except.ok (funext (writes _))
  · simp only [Except.map, unsets]
    rfl

end Sets

/-- The value each of `mergeConfig`'s blocks sets, in the blocks' order. -/
def layerValues (cmd : RunConfig Plugins) : List (Except String (Overrides IP Bundle Logger Plugins)) :=
  let a := cmd.agentConfig
  let nothing : Overrides IP Bundle Logger Plugins := unset
  [ (computedValue (a.serverAddress ≠ "") (lookupServerAddress lib a.serverAddress)).map
      fun serverIP => { nothing with serverIP },
    .ok { nothing with serverPort := plainValue (a.serverPort ≠ 0) a.serverPort },
    .ok { nothing with trustDomain := plainValue (a.trustDomain ≠ "") a.trustDomain },
    (computedValue (a.trustBundlePath ≠ "") (loadTrustBundle lib a.trustBundlePath)).map
      fun trustBundle => { nothing with trustBundle },
    .ok { nothing with joinToken := plainValue (a.joinToken ≠ "") a.joinToken },
    .ok { nothing with bindAddressName := plainValue (a.socketPath ≠ "") a.socketPath },
    .ok { nothing with dataDir := plainValue (a.dataDir ≠ "") a.dataDir },
    .ok { nothing with pluginDir := plainValue (a.pluginDir ≠ "") a.pluginDir },
    (computedValue (a.logFile ≠ "" ∨ a.logLevel ≠ "") (newLayerLogger lib a)).map fun log => { nothing with log },
    (computedValue (a.umask ≠ "") (parseUmask lib a.umask)).map fun umask => { nothing with umask },
    .ok { nothing with pluginsConfigs := cmd.pluginsConfigs } ]

theorem mergeBlocks_sets (cmd : RunConfig Plugins) :
    List.Forall₂ BlockSets (mergeBlocks lib cmd) (layerValues lib cmd) := by
  simp only [mergeBlocks, layerValues, List.forall₂_cons, List.Forall₂.nil, and_true]
  refine ⟨computedBlock_sets (fun serverIP => { unset with serverIP }) (fun _ _ => rfl) rfl,
    plainBlock_sets (fun serverPort => { unset with serverPort }) (fun _ => rfl) rfl,
    plainBlock_sets (fun trustDomain => { unset with trustDomain }) (fun _ => rfl) rfl,
    computedBlock_sets (fun trustBundle => { unset with trustBundle }) (fun _ _ => rfl) rfl,
    plainBlock_sets (fun joinToken => { unset with joinToken }) (fun _ => rfl) rfl,
    plainBlock_sets (fun bindAddressName => { unset with bindAddressName }) (fun _ => rfl) rfl,
    plainBlock_sets (fun dataDir => { unset with dataDir }) (fun _ => rfl) rfl,
    plainBlock_sets (fun pluginDir => { unset with pluginDir }) (fun _ => rfl) rfl,
    computedBlock_sets (fun log => { unset with log }) (fun _ _ => rfl) rfl,
    computedBlock_sets (fun umask => { unset with umask }) (fun _ _ => rfl) rfl, ?_⟩
  unfold BlockSets plainBlock
  congr 1
  funext c
  cases cmd.pluginsConfigs <;> rfl

theorem resolve_eq_collect (cmd : RunConfig Plugins) : resolve lib cmd = collect (layerValues lib cmd) := by
  rcases h1 : computedValue (cmd.agentConfig.serverAddress ≠ "")
    (lookupServerAddress lib cmd.agentConfig.serverAddress) with e | serverIP
  · simp only [resolve, layerValues, h1]; rfl
  rcases h2 : computedValue (cmd.agentConfig.trustBundlePath ≠ "")
    (loadTrustBundle lib cmd.agentConfig.trustBundlePath) with e | trustBundle
  · simp only [resolve, layerValues, h1, h2]; rfl
  rcases h3 : computedValue (cmd.agentConfig.logFile ≠ "" ∨ cmd.agentConfig.logLevel ≠ "")
    (newLayerLogger lib cmd.agentConfig) with e | log
  · simp only [resolve, layerValues, h1, h2, h3]; rfl
  rcases h4 : computedValue (cmd.agentConfig.umask ≠ "") (parseUmask lib cmd.agentConfig.umask) with e | umask
  · simp only [resolve, layerValues, h1, h2, h3, h4]; rfl
  simp only [resolve, layerValues, collect, h1, h2, h3, h4, bind, Except.bind, Except.map, pure, Except.pure,
    Except.ok.injEq]
  simp only [over, unset, Option.none_or, Option.or_none]

/-! ## `mergeConfig` -/

section Run

variable {bs : List (Block (Config IP Bundle Logger Plugins))} {values : List (Except String (Overrides IP Bundle Logger Plugins))}

/-- Blocks that each write their value leave any configuration with what the
values set together applied, when none fails. -/
theorem runBlocks_of_collect_ok (sets : List.Forall₂ BlockSets bs values) {o : Overrides IP Bundle Logger Plugins}
    (ok : collect values = .ok o) (c : Config IP Bundle Logger Plugins) : runBlocks bs c = (none, o.apply c) := by
  induction sets generalizing o c with
  | nil => cases ok; rfl
  | @cons block value bs values sets _ ih =>
    subst sets
    rw [collect_cons] at ok
    obtain ⟨first, rfl, laterOk⟩ := bind_eq_ok ok
    obtain ⟨later, rest, layered⟩ := bind_eq_ok laterOk
    cases layered
    rw [← apply_apply]
    exact ih rest _

/-- Blocks that each write their value return the first error among the values. -/
theorem runBlocks_of_collect_error (sets : List.Forall₂ BlockSets bs values) {err : String}
    (failed : collect values = .error err) (c : Config IP Bundle Logger Plugins) : (runBlocks bs c).1 = some err := by
  induction sets generalizing c with
  | nil => cases failed
  | @cons block value bs values sets _ ih =>
    subst sets
    rw [collect_cons] at failed
    rcases bind_eq_error failed with rfl | ⟨first, rfl, laterFailed⟩
    · rfl
    rcases bind_eq_error laterFailed with rest | ⟨later, -, layered⟩
    · exact ih rest _
    · cases layered

end Run

variable {c : Config IP Bundle Logger Plugins} {cmd : RunConfig Plugins}

/-- **`mergeConfig` writes a layer's values.** When every call its blocks make
succeeds, it returns no error and leaves the configuration with the layer's
values in place of the old ones. -/
theorem mergeConfig_of_resolve_ok {o : Overrides IP Bundle Logger Plugins} (ok : resolve lib cmd = .ok o) :
    mergeConfig lib c cmd = (none, o.apply c) :=
  runBlocks_of_collect_ok (mergeBlocks_sets lib cmd) (resolve_eq_collect lib cmd ▸ ok) c

/-- `mergeConfig` returns the first error its blocks' calls return. -/
theorem mergeConfig_of_resolve_error {err : String} (failed : resolve lib cmd = .error err) :
    (mergeConfig lib c cmd).1 = some err :=
  runBlocks_of_collect_error (mergeBlocks_sets lib cmd) (resolve_eq_collect lib cmd ▸ failed) c

theorem mergeConfig_ok_iff {c' : Config IP Bundle Logger Plugins} :
    mergeConfig lib c cmd = (none, c') ↔ ∃ o, resolve lib cmd = .ok o ∧ c' = o.apply c := by
  constructor
  · intro merged
    cases resolved : resolve lib cmd with
    | error err => simpa [merged] using mergeConfig_of_resolve_error lib (c := c) resolved
    | ok o => exact ⟨o, rfl, by simpa [mergeConfig_of_resolve_ok lib resolved] using merged.symm⟩
  · rintro ⟨o, resolved, rfl⟩
    exact mergeConfig_of_resolve_ok lib resolved

/-! ## What a layer's values say about its options -/

/-- The values a layer resolves to: each call's value, and the options that
cannot fail as the layer gives them. -/
theorem resolve_ok {o : Overrides IP Bundle Logger Plugins} (ok : resolve lib cmd = .ok o) :
    computedValue (cmd.agentConfig.serverAddress ≠ "") (lookupServerAddress lib cmd.agentConfig.serverAddress) =
        .ok o.serverIP ∧
      computedValue (cmd.agentConfig.trustBundlePath ≠ "") (loadTrustBundle lib cmd.agentConfig.trustBundlePath) =
        .ok o.trustBundle ∧
      computedValue (cmd.agentConfig.logFile ≠ "" ∨ cmd.agentConfig.logLevel ≠ "") (newLayerLogger lib cmd.agentConfig) =
        .ok o.log ∧
      o.serverPort = plainValue (cmd.agentConfig.serverPort ≠ 0) cmd.agentConfig.serverPort ∧
      o.trustDomain = plainValue (cmd.agentConfig.trustDomain ≠ "") cmd.agentConfig.trustDomain := by
  obtain ⟨serverIP, h1, ok⟩ := bind_eq_ok ok
  obtain ⟨trustBundle, h2, ok⟩ := bind_eq_ok ok
  obtain ⟨log, h3, ok⟩ := bind_eq_ok ok
  obtain ⟨umask, -, ok⟩ := bind_eq_ok ok
  cases ok
  exact ⟨h1, h2, h3, rfl, rfl⟩

section Values

variable {α : Type} {set : Prop} [Decidable set] {compute : Except String α} {value : Option α}

theorem computedValue_eq_none_iff (computed : computedValue set compute = .ok value) : value = none ↔ ¬set := by
  unfold computedValue at computed
  split at computed
  · cases compute <;> cases computed
    simp [*]
  · cases computed
    simp [*]

theorem computedValue_ok_of_set (isSet : set) (computed : computedValue set compute = .ok value) :
    ∃ v, compute = .ok v ∧ value = some v := by
  simp only [computedValue, isSet, if_true] at computed
  cases compute <;> cases computed
  exact ⟨_, rfl, rfl⟩

theorem plainValue_eq_none_iff (v : α) : plainValue set v = none ↔ ¬set := by
  unfold plainValue
  split <;> simp [*]

end Values

theorem plainValue_port_getD_eq_zero (file cli : Int) :
    ((plainValue (cli ≠ 0) cli).or (plainValue (file ≠ 0) file)).getD 0 = 0 ↔ file = 0 ∧ cli = 0 := by
  unfold plainValue
  by_cases fileZero : file = 0 <;> by_cases cliZero : cli = 0 <;> simp [fileZero, cliZero]

/-! ## Two layers: the flags over the file -/

section Layers

variable {fileConfig cliConfig : RunConfig Plugins} {c' : Config IP Bundle Logger Plugins}

theorem mergeConfigs_of_resolved {file cli : Overrides IP Bundle Logger Plugins}
    (fileOk : resolve lib fileConfig = .ok file) (cliOk : resolve lib cliConfig = .ok cli) :
    mergeConfigs lib c fileConfig cliConfig = (none, (cli.over file).apply c) := by
  simp only [mergeConfigs, mergeConfig_of_resolve_ok lib fileOk, mergeConfig_of_resolve_ok lib cliOk, apply_apply]

theorem resolved_of_mergeConfigs (merged : mergeConfigs lib c fileConfig cliConfig = (none, c')) :
    ∃ file cli, resolve lib fileConfig = .ok file ∧ resolve lib cliConfig = .ok cli ∧
      c' = (cli.over file).apply c := by
  unfold mergeConfigs at merged
  rcases first : mergeConfig lib c fileConfig with ⟨_ | err, c₁⟩ <;> rw [first] at merged
  · obtain ⟨file, fileOk, rfl⟩ := (mergeConfig_ok_iff lib).1 first
    obtain ⟨cli, cliOk, rfl⟩ := (mergeConfig_ok_iff lib).1 merged
    exact ⟨file, cli, fileOk, cliOk, apply_apply cli file c⟩
  · cases merged

/-- **The flags over the file over the defaults.** `mergeConfigs` succeeds
exactly when the file's layer and then the flags' layer resolve, and it then
gives each option the flags' value, or else the file's, or else the one `c`
had. -/
theorem mergeConfigs_ok_iff :
    mergeConfigs lib c fileConfig cliConfig = (none, c') ↔
      ∃ file cli, resolve lib fileConfig = .ok file ∧ resolve lib cliConfig = .ok cli ∧
        c' = (cli.over file).apply c := by
  refine ⟨resolved_of_mergeConfigs lib, ?_⟩
  rintro ⟨file, cli, fileOk, cliOk, rfl⟩
  exact mergeConfigs_of_resolved lib fileOk cliOk

/-- **The logger comes from one layer whole.** When the flags give `-logFile`
or `-logLevel`, the agent's logger is the one the flags' options open, so the
file's `log_file` is dropped even when the flags give only a level. -/
theorem mergeConfigs_log_of_cli_sets_log (merged : mergeConfigs lib c fileConfig cliConfig = (none, c'))
    (setsLog : cliConfig.agentConfig.logFile ≠ "" ∨ cliConfig.agentConfig.logLevel ≠ "") :
    c'.log = (newLayerLogger lib cliConfig.agentConfig).toOption := by
  obtain ⟨file, cli, -, cliOk, rfl⟩ := resolved_of_mergeConfigs lib merged
  obtain ⟨logger, opened, isLogger⟩ := computedValue_ok_of_set setsLog (resolve_ok lib cliOk).2.2.1
  simp only [Overrides.apply, Overrides.over, isLogger, opened, Option.or_some]
  rfl

/-- An agent file that names the server, the trust domain and a log file, but
no trust bundle. -/
def stubFile : RunConfig Unit where
  agentConfig :=
    { serverAddress := "spire-server", serverPort := 8081, trustDomain := "example.org", trustBundlePath := "",
      joinToken := "", socketPath := "", dataDir := "", pluginDir := "", logFile := "/var/log/spire-agent.log",
      logLevel := "", configPath := "", umask := "" }
  pluginsConfigs := none

/-- The flags `-logLevel DEBUG`. -/
def debugFlags : AgentConfig :=
  { serverAddress := "", serverPort := 0, trustDomain := "", trustBundlePath := "", joinToken := "", socketPath := "",
    dataDir := "", pluginDir := "", logFile := "", logLevel := "DEBUG", configPath := defaultConfigPath, umask := "" }

/-- A library whose calls all succeed, reading `stubFile`; its logger is the
level and the file it was opened with. -/
def stubLibrary : Library Nat String (String × String) Unit where
  lookupIP _ := .ok [1]
  readFile path := .ok path
  appendCertsFromPEM data := some data
  newLogger level file := .ok (level, file)
  parseInt _ := .ok 63
  notExist _ := false
  abs path := .ok path
  hclDecode _ := .ok stubFile

/-- The configuration `stubFile` and `-logLevel DEBUG` merge to. -/
def debugMerged : Config Nat String (String × String) Unit :=
  (mergeConfigs stubLibrary (newDefaultConfig stubLibrary) stubFile ⟨debugFlags, none⟩).2

/-- With the file's `log_file` and the flags' `-logLevel DEBUG`, the agent logs
at `DEBUG` to standard output. -/
theorem debug_flag_drops_log_file :
    mergeConfigs stubLibrary (newDefaultConfig stubLibrary) stubFile ⟨debugFlags, none⟩ = (none, debugMerged) ∧
      debugMerged.log = some ("DEBUG", "") :=
  have merged : mergeConfigs stubLibrary (newDefaultConfig stubLibrary) stubFile ⟨debugFlags, none⟩ =
      (none, debugMerged) := rfl
  ⟨merged, mergeConfigs_log_of_cli_sets_log stubLibrary merged (.inr (by decide))⟩

/-- **What `validateConfig` reports after the merge.** Starting from
`newDefaultConfig`, a successful merge leaves a configuration that
`validateConfig` rejects exactly for the first required option that neither
layer gives, with that option's message. -/
theorem validateConfig_after_merge
    (merged : mergeConfigs lib (newDefaultConfig lib) fileConfig cliConfig = (none, c')) :
    validateConfig c' =
      if (fileConfig.agentConfig.serverAddress = "" ∧ cliConfig.agentConfig.serverAddress = "") ∨
          (fileConfig.agentConfig.serverPort = 0 ∧ cliConfig.agentConfig.serverPort = 0) then
        some "ServerAddress and ServerPort are required"
      else if fileConfig.agentConfig.trustDomain = "" ∧ cliConfig.agentConfig.trustDomain = "" then
        some "TrustDomain is required"
      else if fileConfig.agentConfig.trustBundlePath = "" ∧ cliConfig.agentConfig.trustBundlePath = "" then
        some "TrustBundle is required"
      else none := by
  obtain ⟨file, cli, fileOk, cliOk, rfl⟩ := resolved_of_mergeConfigs lib merged
  obtain ⟨fileIP, fileBundle, -, filePort, fileDomain⟩ := resolve_ok lib fileOk
  obtain ⟨cliIP, cliBundle, -, cliPort, cliDomain⟩ := resolve_ok lib cliOk
  simp only [validateConfig, Overrides.apply, Overrides.over, newDefaultConfig, Bool.or_eq_true, Option.or_none,
    Option.isNone_iff_eq_none, Option.or_eq_none, computedValue_eq_none_iff cliIP, computedValue_eq_none_iff fileIP,
    computedValue_eq_none_iff cliBundle, computedValue_eq_none_iff fileBundle, filePort, cliPort, fileDomain,
    cliDomain, plainValue_eq_none_iff, beq_iff_eq, plainValue_port_getD_eq_zero, not_not, and_comm]

/-- `stubFile` and `-logLevel DEBUG` give everything but a trust bundle. -/
theorem stub_merge_lacks_trust_bundle :
    mergeConfigs stubLibrary (newDefaultConfig stubLibrary) stubFile ⟨debugFlags, none⟩ = (none, debugMerged) ∧
      validateConfig debugMerged = some "TrustBundle is required" :=
  have merged : mergeConfigs stubLibrary (newDefaultConfig stubLibrary) stubFile ⟨debugFlags, none⟩ =
      (none, debugMerged) := rfl
  ⟨merged, (validateConfig_after_merge stubLibrary merged).trans (by decide)⟩

/-! ## Options no layer writes -/

section Frame

variable {bs : List (Block (Config IP Bundle Logger Plugins))}
  {values : List (Except String (Overrides IP Bundle Logger Plugins))}

/-- What every value of a layer keeps holds of the configuration its blocks
leave, whether a block fails or not. -/
theorem runBlocks_keeps (P : Config IP Bundle Logger Plugins → Prop) (sets : List.Forall₂ BlockSets bs values)
    (keeps : ∀ value ∈ values, ∀ o, value = .ok o → ∀ c, P c → P (o.apply c)) (holds : P c) :
    P (runBlocks bs c).2 := by
  induction sets generalizing c with
  | nil => exact holds
  | @cons block value bs values sets _ ih =>
    subst sets
    cases value with
    | error err => exact holds
    | ok o => exact ih (fun v mem => keeps v (.tail _ mem)) (keeps _ (.head _) o rfl c holds)

end Frame

theorem mergeConfigs_keeps (P : Config IP Bundle Logger Plugins → Prop)
    (keepsFile : ∀ value ∈ layerValues lib fileConfig, ∀ o, value = .ok o → ∀ c, P c → P (o.apply c))
    (keepsCli : ∀ value ∈ layerValues lib cliConfig, ∀ o, value = .ok o → ∀ c, P c → P (o.apply c))
    (holds : P c) : P (mergeConfigs lib c fileConfig cliConfig).2 := by
  have first : P (mergeConfig lib c fileConfig).2 := runBlocks_keeps P (mergeBlocks_sets lib fileConfig) keepsFile holds
  unfold mergeConfigs
  rcases merged : mergeConfig lib c fileConfig with ⟨_ | err, c₁⟩ <;> rw [merged] at first
  · exact runBlocks_keeps P (mergeBlocks_sets lib cliConfig) keepsCli first
  · exact first

/-- A layer without a trust bundle path sets no trust bundle. -/
theorem layerValues_trustBundle (cmd : RunConfig Plugins) (noPath : cmd.agentConfig.trustBundlePath = "") :
    ∀ value ∈ layerValues lib cmd, ∀ o : Overrides IP Bundle Logger Plugins, value = .ok o → o.trustBundle = none := by
  simp only [layerValues, noPath, List.mem_cons, List.mem_singleton, forall_eq_or_imp, forall_eq, List.not_mem_nil,
    false_imp_iff, implies_true, and_true]
  refine ⟨?_, ?_, ?_, ?_, ?_, ?_, ?_, ?_, ?_, ?_, ?_⟩ <;> intro o set
  all_goals first
    | (cases set; rfl)
    | (obtain ⟨_, -, rfl⟩ := map_eq_ok.1 set; rfl)

end Layers

/-- A layer only ever writes a logger in place of another. -/
theorem mergeConfigs_keeps_log (fileConfig cliConfig : RunConfig Plugins) (hasLog : c.log.isSome) :
    (mergeConfigs lib c fileConfig cliConfig).2.log.isSome :=
  mergeConfigs_keeps lib (fun c => c.log.isSome) (fun _ _ _ _ _ held => by simp [Overrides.apply, held])
    (fun _ _ _ _ _ held => by simp [Overrides.apply, held]) hasLog

/-! ## `run` -/

variable {given : AgentConfig} {fileConfig : RunConfig Plugins}
  (agentRun : Config IP Bundle Logger Plugins → Option String)

/-- Once the flags parse and the file is read, `run` starts the agent with
the merged configuration and prints what `validateConfig` reports on it,
whatever the merge and the validation return. -/
theorem run_of_read (read : parseFile lib given.configPath = .ok fileConfig) :
    (run lib (.ok given) agentRun).started = some (mergeConfigs lib (newDefaultConfig lib) fileConfig ⟨given, none⟩).2 ∧
      ∀ err, validateConfig (mergeConfigs lib (newDefaultConfig lib) fileConfig ⟨given, none⟩).2 = some err →
        Printed.message err ∈ (run lib (.ok given) agentRun).printed := by
  rcases merged : mergeConfigs lib (newDefaultConfig lib) fileConfig ⟨given, none⟩ with ⟨mergeErr, c⟩
  simp only [run, read, merged]
  constructor
  · split
    · rfl
    · split <;> rfl
  · intro err invalid
    simp only [invalid]
    split
    · simp
    · split <;> simp

/-- **`run` starts the agent without a trust bundle.** When neither the file
nor the flags name a trust bundle, `run` prints `validateConfig`'s error and
then starts the agent all the same, with no trust bundle, whether the merge
succeeded or not. -/
theorem run_starts_without_trust_bundle (read : parseFile lib given.configPath = .ok fileConfig)
    (noBundle : fileConfig.agentConfig.trustBundlePath = "" ∧ given.trustBundlePath = "") :
    ∃ c err, (run lib (.ok given) agentRun).started = some c ∧ c.trustBundle = none ∧ validateConfig c = some err ∧
      Printed.message err ∈ (run lib (.ok given) agentRun).printed := by
  obtain ⟨started, printsInvalid⟩ := run_of_read lib agentRun read
  have noTrustBundle : (mergeConfigs lib (newDefaultConfig lib) fileConfig ⟨given, none⟩).2.trustBundle = none := by
    refine mergeConfigs_keeps lib (fun c => c.trustBundle = none) ?_ ?_ rfl <;> intro value mem o ok c unset
    · simp [Overrides.apply, unset, layerValues_trustBundle lib fileConfig noBundle.1 value mem o ok]
    · simp [Overrides.apply, unset, layerValues_trustBundle lib ⟨given, none⟩ noBundle.2 value mem o ok]
  have invalid : ∃ err, validateConfig (mergeConfigs lib (newDefaultConfig lib) fileConfig ⟨given, none⟩).2 = some err := by
    simp only [validateConfig, noTrustBundle, Option.isNone_none]
    split_ifs <;> simp
  obtain ⟨err, invalid⟩ := invalid
  exact ⟨_, err, started, noTrustBundle, invalid, printsInvalid err invalid⟩

/-- `run` with `stubFile` and `-logLevel DEBUG` starts the agent without a trust bundle. -/
theorem stub_run_starts_without_trust_bundle :
    parseFile stubLibrary debugFlags.configPath = .ok stubFile ∧
      ∃ c err, (run stubLibrary (.ok debugFlags) fun _ => none).started = some c ∧ c.trustBundle = none ∧
        validateConfig c = some err ∧ Printed.message err ∈ (run stubLibrary (.ok debugFlags) fun _ => none).printed :=
  ⟨rfl, run_starts_without_trust_bundle stubLibrary (fun _ => none) rfl ⟨rfl, rfl⟩⟩

/-- **`run` never panics** once `log.NewLogger` opens the default logger: a
layer only ever writes a logger in place of another, so the configuration
keeps one, and `c.Log.Error` has a logger to call when the agent fails. -/
theorem run_never_panics (opensDefault : ∃ logger, lib.newLogger defaultLogLevel "" = .ok logger)
    (flags : Except String AgentConfig) (reason : String) : (run lib flags agentRun).exit ≠ .panicked reason := by
  obtain ⟨logger, opened⟩ := opensDefault
  have defaultLog : (newDefaultConfig lib).log.isSome := by simp [newDefaultConfig, opened, Except.toOption]
  unfold run
  split
  · simp
  split
  · simp
  rename_i given _ fileConfig _
  have hasLog := mergeConfigs_keeps_log lib fileConfig ⟨given, none⟩ defaultLog
  rcases merged : mergeConfigs lib (newDefaultConfig lib) fileConfig ⟨given, none⟩ with ⟨mergeErr, c⟩
  rw [merged] at hasLog
  dsimp only
  split
  · simp
  · split <;> simp_all

/-- When the agent fails, `run` with the stub library returns 1 rather than panicking. -/
theorem stub_run_never_panics :
    (∃ logger, stubLibrary.newLogger defaultLogLevel "" = .ok logger) ∧
      (run stubLibrary (.ok debugFlags) fun _ => some "agent failed").exit ≠ .panicked nilDereference :=
  ⟨⟨_, rfl⟩, run_never_panics stubLibrary _ ⟨_, rfl⟩ _ _⟩

end Spire.AgentRun
