import Muxrd.Lib.Net

set_option autoImplicit false

namespace Muxrd.Config

open RustStd

def defaultBind : String := "127.0.0.1:50051"

structure FileConfig where
  bindAddr : Option String
  certDir : Option String
  logPath : Option String
  deriving DecidableEq, Repr

def FileConfig.default : FileConfig :=
  { bindAddr := none, certDir := none, logPath := none }

inductive ConfigFile
  | absent
  | unparsable
  | parsed (config : FileConfig)
  deriving DecidableEq, Repr

-- What cannot be parsed is taken for a file without entries.
def ConfigFile.fields : ConfigFile -> FileConfig
  | .parsed config => config
  | .absent | .unparsable => .default

structure EffectiveConfig where
  bindAddr : String
  certDir : String
  logPath : String
  configFile : String
  deriving DecidableEq, Repr

def joinPath (dir name : String) : String :=
  if dir = "" || dir.toList.getLast? = some '/' then dir ++ name else dir ++ "/" ++ name

/-- The machine both programs run on: what neither of them changes. -/
structure Host where
  dataDir : String
  -- `ZELLIMSERVER_BIND`, and `ZELLIMSERVER_SAN` or the empty string.
  bindEnv : Option String
  sanEnv : String
  reachableIps : List Ipv4Addr
  locate : String -> String

def resolve (host : Host) (file : ConfigFile) (bindOverride : Option String) : EffectiveConfig :=
  { bindAddr := ((bindOverride.or host.bindEnv).or file.fields.bindAddr).getD defaultBind
    certDir := file.fields.certDir.getD host.dataDir
    logPath := file.fields.logPath.getD (joinPath host.dataDir "muxrd.log")
    configFile := joinPath host.dataDir "config.toml" }

inductive SaveStep
  | ensure
  | read
  | write
  | chmod
  | rename
  deriving DecidableEq, Repr

def setBindAddr (file : ConfigFile) (failing : Option SaveStep) (bindAddr : String) :
    Except SaveStep Unit × ConfigFile :=
  -- The template that stands in for an absent file has no entries.
  let ensured := if file = .absent then .parsed .default else file
  match failing with
  | some .ensure => (.error .ensure, file)
  | some step => (.error step, ensured)
  | none => (.ok (), .parsed { ensured.fields with bindAddr := some bindAddr })

inductive CertMode
  | selfSigned
  | external
  | h2c
  deriving DecidableEq, Repr

end Muxrd.Config
