import Mathlib.Algebra.Group.Int
import Mathlib.Logic.Basic
import Spire.Runtime

/-! The agent's `run` command: the `agent.Config` the agent starts with.
`RunCLI.Run` parses the flags into one `runConfig` and the file that `-config`
names into another, starts from `newDefaultConfig()`, merges the file's layer
and then the flags' layer into it with `mergeConfigs`, and checks the result
with `validateConfig`.

`mergeConfig` is a sequence of `if` blocks, one per option. A block whose
option is set computes the new value, which may fail, and writes it into the
configuration in place; a failing block returns its error at once, so the
blocks before it have written their values and those after it have not. The
model keeps that shape: `mergeBlocks` lists the blocks in the source's order,
each as the write it makes or the error it returns, and `runBlocks` applies
them up to the first error, returning the error and the configuration as the
blocks left it.

What `run` calls outside this file is an argument (`Library`): `net.LookupIP`,
`ioutil.ReadFile`, `AppendCertsFromPEM`, `log.NewLogger`, `strconv.ParseInt`,
the file system's answers and the HCL decoder. The flag package's verdict on
the arguments is an argument of `run`. `agent.Config` is reduced to the fields
`run` sets or checks. -/
namespace Spire.AgentRun

/-- `defaultConfigPath` -/
def defaultConfigPath : String := "conf/agent/agent.conf"

/-- `defaultSocketPath` -/
def defaultSocketPath : String := "./spire_api"

/-- `defaultDataDir` -/
def defaultDataDir : String := "."

/-- `defaultLogLevel` -/
def defaultLogLevel : String := "INFO"

/-- `defaultPluginDir` -/
def defaultPluginDir : String := "conf/agent/plugin"

/-- `defaultUmask`, the octal `0077`. -/
def defaultUmask : Int := 0o77

/-- `agentConfig`: the `agent` block of the file, or what the flags set. -/
structure AgentConfig where
  /-- `server_address`, `-serverAddress` -/
  serverAddress : String
  /-- `server_port`, `-serverPort` -/
  serverPort : Int
  /-- `trust_domain`, `-trustDomain` -/
  trustDomain : String
  /-- `trust_bundle_path`, `-trustBundle` -/
  trustBundlePath : String
  /-- `join_token`, `-joinToken` -/
  joinToken : String
  /-- `socket_path`, `-socketPath` -/
  socketPath : String
  /-- `data_dir`, `-dataDir` -/
  dataDir : String
  /-- `plugin_dir`, `-pluginDir` -/
  pluginDir : String
  /-- `log_file`, `-logFile` -/
  logFile : String
  /-- `log_level`, `-logLevel` -/
  logLevel : String
  /-- `config_path`, `-config` -/
  configPath : String
  /-- `umask`, `-umask` -/
  umask : String
  deriving DecidableEq, Repr

/-- `runConfig`: one layer of options. -/
structure RunConfig (Plugins : Type) where
  /-- `AgentConfig` -/
  agentConfig : AgentConfig
  /-- `PluginsConfigs`; `none` is a `nil` map. -/
  pluginsConfigs : Option Plugins

/-- `agent.Config`, reduced to the fields `run` sets or checks. -/
@[ext] structure Config (IP Bundle Logger Plugins : Type) where
  /-- `ServerAddress.IP`; `none` is `nil`. -/
  serverIP : Option IP
  /-- `ServerAddress.Port` -/
  serverPort : Int
  /-- `TrustDomain`: `none` is the zero `url.URL`, whose `String()` is empty, and
  `some host` is `url.URL{Scheme: "spiffe", Host: host}`, the only other value
  `run` writes there. -/
  trustDomain : Option String
  /-- `TrustBundle`; `none` is `nil`. -/
  trustBundle : Option Bundle
  /-- `JoinToken` -/
  joinToken : String
  /-- `BindAddress.Name` -/
  bindAddressName : String
  /-- `DataDir` -/
  dataDir : String
  /-- `PluginDir` -/
  pluginDir : String
  /-- `Log`; `none` is `nil`. -/
  log : Option Logger
  /-- `Umask` -/
  umask : Int
  /-- `PluginsConfigs`; `none` is a `nil` map. -/
  pluginsConfigs : Option Plugins

/-- The code outside this file that `run` calls. -/
structure Library (IP Bundle Logger Plugins : Type) where
  /-- `net.LookupIP` -/
  lookupIP : String → Except String (List IP)
  /-- `ioutil.ReadFile` -/
  readFile : String → Except String String
  /-- `x509.NewCertPool().AppendCertsFromPEM(data)`: the pool, when it found a certificate -/
  appendCertsFromPEM : String → Option Bundle
  /-- `log.NewLogger(level, file)` -/
  newLogger : String → String → Except String Logger
  /-- `strconv.ParseInt(s, 0, 0)` -/
  parseInt : String → Except String Int
  /-- whether `os.Stat` reports that the file does not exist -/
  notExist : String → Bool
  /-- `filepath.Abs` -/
  abs : String → Except String String
  /-- `hcl.Parse` and `hcl.DecodeObject` into a new `runConfig` -/
  hclDecode : String → Except String (RunConfig Plugins)

variable {IP Bundle Logger Plugins : Type} (lib : Library IP Bundle Logger Plugins)

/-- `parseTrustBundle(path)` -/
def parseTrustBundle (path : String) : Except String Bundle :=
  match lib.readFile path with
  | .error err => .error err
  | .ok data =>
    match lib.appendCertsFromPEM data with
    | none => .error ("No valid certificates found at " ++ path)
    | some certPool => .ok certPool

/-- `newDefaultConfig()`. The logger's error is dropped, leaving `nil`. -/
def newDefaultConfig : Config IP Bundle Logger Plugins where
  serverIP := none
  serverPort := 0
  trustDomain := none
  trustBundle := none
  joinToken := ""
  bindAddressName := defaultSocketPath
  dataDir := defaultDataDir
  pluginDir := defaultPluginDir
  log := (lib.newLogger defaultLogLevel "").toOption
  umask := defaultUmask
  pluginsConfigs := none

/-- One `if` block of `mergeConfig`: the write it makes to `orig`, or the error
it returns. -/
abbrev Block (C : Type) := Except String (C → C)

/-- A block that cannot fail: `if <set> { <write orig> }`. -/
def plainBlock {C : Type} (set : Prop) [Decidable set] (write : C → C) : Block C :=
  .ok fun orig => if set then write orig else orig

/-- A block whose value comes from a call that can fail:
`if <set> { v, err := <compute>; if err != nil { return err }; <write v orig> }`. -/
def computedBlock {C α : Type} (set : Prop) [Decidable set] (compute : Except String α) (write : α → C → C) :
    Block C :=
  if set then
    match compute with
    | .error err => .error err
    | .ok v => .ok (write v)
  else .ok id

/-- The server address block's lookup: the first address `net.LookupIP` returns. -/
def lookupServerAddress (address : String) : Except String IP :=
  match lib.lookupIP address with
  | .error err => .error err
  | .ok [] => .error ("Could not resolve ServerAddress " ++ address)
  | .ok (serverAddress :: _) => .ok serverAddress

/-- The trust bundle block's parse, with the error the block returns. -/
def loadTrustBundle (path : String) : Except String Bundle :=
  match parseTrustBundle lib path with
  | .error err => .error ("Error parsing trust bundle: " ++ err)
  | .ok bundle => .ok bundle

/-- The log block's logger: `log.NewLogger` at the layer's level, or at
`defaultLogLevel` when it sets none, writing to the layer's log file. -/
def newLayerLogger (a : AgentConfig) : Except String Logger :=
  let logLevel := if a.logLevel ≠ "" then a.logLevel else defaultLogLevel
  match lib.newLogger logLevel a.logFile with
  | .error err => .error ("Could not open log file " ++ a.logFile ++ ": " ++ err)
  | .ok logger => .ok logger

/-- The umask block's parse, with the error the block returns. -/
def parseUmask (umask : String) : Except String Int :=
  match lib.parseInt umask with
  | .error err => .error ("Could not parse umask " ++ umask ++ ": " ++ err)
  | .ok umask => .ok umask

/-- The blocks of `mergeConfig(orig, cmd)`, in the source's order. -/
def mergeBlocks (cmd : RunConfig Plugins) : List (Block (Config IP Bundle Logger Plugins)) :=
  let a := cmd.agentConfig
  [ -- Parse server address
    computedBlock (a.serverAddress ≠ "") (lookupServerAddress lib a.serverAddress)
      fun serverAddress orig => { orig with serverIP := some serverAddress },
    plainBlock (a.serverPort ≠ 0) fun orig => { orig with serverPort := a.serverPort },
    plainBlock (a.trustDomain ≠ "") fun orig => { orig with trustDomain := some a.trustDomain },
    -- Parse trust bundle
    computedBlock (a.trustBundlePath ≠ "") (loadTrustBundle lib a.trustBundlePath)
      fun bundle orig => { orig with trustBundle := some bundle },
    plainBlock (a.joinToken ≠ "") fun orig => { orig with joinToken := a.joinToken },
    plainBlock (a.socketPath ≠ "") fun orig => { orig with bindAddressName := a.socketPath },
    plainBlock (a.dataDir ≠ "") fun orig => { orig with dataDir := a.dataDir },
    plainBlock (a.pluginDir ≠ "") fun orig => { orig with pluginDir := a.pluginDir },
    -- Handle log file and level
    computedBlock (a.logFile ≠ "" ∨ a.logLevel ≠ "") (newLayerLogger lib a)
      fun logger orig => { orig with log := some logger },
    computedBlock (a.umask ≠ "") (parseUmask lib a.umask) fun umask orig => { orig with umask := umask },
    plainBlock (cmd.pluginsConfigs.isSome) fun orig => { orig with pluginsConfigs := cmd.pluginsConfigs } ]

/-- The blocks applied in order up to the first error: that error, if any, and
the configuration as the blocks left it. -/
def runBlocks {C : Type} : List (Block C) → C → Option String × C
  | [], c => (none, c)
  | .error err :: _, c => (some err, c)
  | .ok write :: rest, c => runBlocks rest (write c)

/-- `mergeConfig(orig, cmd)`: its error, if any, and `orig` as it leaves it. -/
def mergeConfig (orig : Config IP Bundle Logger Plugins) (cmd : RunConfig Plugins) :
    Option String × Config IP Bundle Logger Plugins :=
  runBlocks (mergeBlocks lib cmd) orig

/-- `mergeConfigs(c, fileConfig, cliConfig)`: "CLI > File, merge fileConfig first". -/
def mergeConfigs (c : Config IP Bundle Logger Plugins) (fileConfig cliConfig : RunConfig Plugins) :
    Option String × Config IP Bundle Logger Plugins :=
  match mergeConfig lib c fileConfig with
  | (some err, c) => (some err, c)
  | (none, c) => mergeConfig lib c cliConfig

/-- `validateConfig(c)` -/
def validateConfig (c : Config IP Bundle Logger Plugins) : Option String :=
  if c.serverIP.isNone || c.serverPort == 0 then some "ServerAddress and ServerPort are required"
  else if c.trustDomain.isNone then some "TrustDomain is required"
  else if c.trustBundle.isNone then some "TrustBundle is required"
  else none

/-- `parseFile(filePath)` -/
def parseFile (filePath : String) : Except String (RunConfig Plugins) :=
  if lib.notExist filePath then
    match lib.abs filePath with
    | .ok p => .error ("could not find config file " ++ p ++ ": please use the -config flag")
    | .error _ => .error ("could not determine CWD; config file not found at " ++ filePath ++ ": use -config")
  else
    match lib.readFile filePath with
    | .error err => .error err
    | .ok data => lib.hclDecode data

/-- A line `RunCLI.Run` prints. -/
inductive Printed where
  /-- `fmt.Println(err.Error())` -/
  | message (text : String)
  /-- `fmt.Println(err.Error)`: the method value, printed as an address, not the error's text -/
  | methodValue
  deriving DecidableEq, Repr

/-- How `RunCLI.Run` ends. -/
inductive Exit where
  | code (n : Nat)
  | panicked (reason : String)
  deriving DecidableEq, Repr

/-- What `RunCLI.Run` prints, the configuration it starts the agent with, if
it gets that far, and how it ends. -/
structure RunOutcome (C : Type) where
  /-- The lines printed on standard output. -/
  printed : List Printed
  /-- The configuration given to `agent.New`. -/
  started : Option C
  /-- The exit code, or a panic. -/
  exit : Exit

/-- `RunCLI.Run(args)`, given the flag package's verdict on `args` (an error,
or the options the flags set, `-config` defaulting to `defaultConfigPath`) and
what `agent.New(ctx, c).Run()` returns for a configuration. -/
def run (flags : Except String AgentConfig) (agentRun : Config IP Bundle Logger Plugins → Option String) :
    RunOutcome (Config IP Bundle Logger Plugins) :=
  match flags with
  | .error err => ⟨[.message err], none, .code 1⟩
  | .ok given =>
    let cliConfig : RunConfig Plugins := ⟨given, none⟩
    match parseFile lib given.configPath with
    | .error err => ⟨[.message err], none, .code 1⟩
    | .ok fileConfig =>
      let (mergeErr, c) := mergeConfigs lib (newDefaultConfig lib) fileConfig cliConfig
      let printed := (if mergeErr.isSome then [Printed.methodValue] else []) ++
        match validateConfig c with
        | some err => [.message err]
        | none => []
      match agentRun c with
      | none => ⟨printed, some c, .code 0⟩
      | some _ =>
        -- `c.Log.Error(err.Error())`
        match c.log with
        | none => ⟨printed, some c, .panicked nilDereference⟩
        | some _ => ⟨printed, some c, .code 1⟩

end Spire.AgentRun
