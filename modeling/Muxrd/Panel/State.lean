import Muxrd.Lib.Net

set_option autoImplicit false

namespace Muxrd.Panel

open RustStd

inductive San
  | ip (value : String)
  | dns (value : String)
  deriving DecidableEq, Repr

def San.fromHost (host : String) : San :=
  let h := trim host
  if (parseIpAddr h).isSome then .ip h else .dns h

def San.value : San -> String
  | .ip value => value
  | .dns value => value

structure ServerInfo where
  version : String
  bindAddr : String
  pid : UInt32
  uptimeSecs : UInt64
  clientCount : Nat
  deriving DecidableEq, Repr

structure TokenRecord where
  name : String
  createdAt : String
  readOnly : Bool
  deriving DecidableEq, Repr

inductive Screen
  | dashboard
  | config
  | cert
  | tokens
  | server
  deriving DecidableEq, Repr

def Screen.all : List Screen :=
  [.dashboard, .config, .cert, .tokens, .server]

def Screen.index (screen : Screen) : Nat :=
  Screen.all.idxOf screen

def Screen.next (screen : Screen) : Screen :=
  Screen.all.getD ((screen.index + 1) % Screen.all.length) screen

def Screen.prev (screen : Screen) : Screen :=
  Screen.all.getD ((screen.index + Screen.all.length - 1) % Screen.all.length) screen

theorem Screen.prev_next (screen : Screen) : screen.next.prev = screen := by
  cases screen <;> decide

inductive ConfigField
  | host
  | port
  | ipPicker
  deriving DecidableEq, Repr

structure ConfigState where
  host : String
  port : String
  reachableIps : List Ipv4Addr
  ipCursor : Nat
  focused : ConfigField
  certDir : String
  advertiseSans : List String
  status : String
  loading : Bool
  deriving DecidableEq, Repr

def ConfigState.default : ConfigState :=
  { host := "", port := "", reachableIps := [], ipCursor := 0, focused := .host, certDir := "",
    advertiseSans := [], status := "", loading := false }

def ConfigState.bindAddr (config : ConfigState) : String :=
  config.host ++ ":" ++ config.port

def ConfigState.applyBindAddr (config : ConfigState) (addr : String) : ConfigState :=
  match rsplit addr ':' with
  | some (host, port) => { config with host, port }
  | none => { config with host := addr, port := "50051" }

inductive AdvertiseTrust
  | auto
  | ca
  | pin
  deriving DecidableEq, Repr

def AdvertiseTrust.cycle : AdvertiseTrust -> AdvertiseTrust
  | .auto => .ca
  | .ca => .pin
  | .pin => .auto

structure CertState where
  fingerprint : String
  sans : List String
  status : String
  loading : Bool
  advertiseTrust : AdvertiseTrust
  deriving DecidableEq, Repr

def CertState.default : CertState :=
  { fingerprint := "", sans := [], status := "", loading := false, advertiseTrust := .auto }

inductive TokensFormPhase
  | browsing
  | creating
  deriving DecidableEq, Repr

structure MintedSecret where
  name : String
  plaintext : String
  readOnly : Bool
  deriving DecidableEq, Repr

structure TokensState where
  tokens : List TokenRecord
  cursor : Nat
  loading : Bool
  status : String
  lastMintedSecret : Option MintedSecret
  formPhase : TokensFormPhase
  formName : String
  formReadOnly : Bool
  deriving DecidableEq, Repr

def TokensState.default : TokensState :=
  { tokens := [], cursor := 0, loading := false, status := "", lastMintedSecret := none,
    formPhase := .browsing, formName := "", formReadOnly := false }

def TokensState.selectedName (state : TokensState) : Option String :=
  state.tokens[state.cursor]?.map (·.name)

inductive QrOverlayPhase
  | generating
  | showing (uri host : String) (port : UInt16) (fingerprintShort : String)
  | connected
  | failed (err : String)
  deriving DecidableEq, Repr

structure QrOverlay where
  phase : QrOverlayPhase
  seq : UInt64
  baselineClients : Nat
  tokenName : String
  readOnly : Bool
  tickCounter : UInt32
  deriving DecidableEq, Repr

structure ServerPanelState where
  status : Option ServerInfo
  stopped : Bool
  loading : Bool
  actionMsg : String
  tickCounter : UInt32
  deriving DecidableEq, Repr

def ServerPanelState.default : ServerPanelState :=
  { status := none, stopped := false, loading := false, actionMsg := "", tickCounter := 0 }

structure AppState where
  screen : Screen
  shouldQuit : Bool
  config : ConfigState
  cert : CertState
  server : ServerPanelState
  tokens : TokensState
  qrOverlay : Option QrOverlay
  qrSeq : UInt64
  deriving DecidableEq, Repr

def AppState.new : AppState :=
  { screen := .dashboard, shouldQuit := false, config := .default, cert := .default, server := .default,
    tokens := .default, qrOverlay := none, qrSeq := 0 }

def AppState.isTextEditing (state : AppState) : Bool :=
  match state.screen with
  | .config => state.config.focused = .host || state.config.focused = .port
  | .tokens => state.tokens.formPhase = .creating
  | _ => false

inductive KeyCode
  | char (c : Char)
  | enter
  | esc
  | tab
  | backTab
  | backspace
  | up
  | down
  | left
  | right
  | other
  deriving DecidableEq, Repr

-- Of the modifiers, only CONTROL is looked at.
structure KeyEvent where
  code : KeyCode
  control : Bool
  deriving DecidableEq, Repr

structure ConfigSnapshot where
  bindAddr : String
  certDir : String
  reachableIps : List Ipv4Addr
  advertiseSans : List String
  deriving DecidableEq, Repr

structure QrReady where
  uri : String
  host : String
  port : UInt16
  fingerprintShort : String
  baselineClients : Nat
  seq : UInt64
  deriving DecidableEq, Repr

inductive Message
  | key (event : KeyEvent)
  | tick
  | quit
  | navTo (screen : Screen)
  | statusLoaded (info : Option ServerInfo)
  | configLoaded (snapshot : ConfigSnapshot)
  | certEnsured (fingerprint : String) (sans : List String)
  | actionFailed (message : String)
  | actionOk (message : String)
  | tokensLoaded (records : List TokenRecord)
  | tokenCreated (token name : String) (readOnly : Bool)
  | tokensChanged
  | tokenQrReady (ready : QrReady)
  | tokenQrFailed (err : String) (seq : UInt64)
  | certInfoLoaded (fingerprint : Option String) (sans : List String)
  deriving DecidableEq, Repr

structure TokenQr where
  token : String
  readOnly : Bool
  seq : UInt64
  advertiseTrust : AdvertiseTrust
  deriving DecidableEq, Repr

inductive UpdateAction
  | quit
  | refreshStatus
  | startServer
  | stopServer
  | loadConfig
  | saveBind (bindAddr : String)
  | ensureCert (sans : List San)
  | loadTokens
  | createToken (name : Option String) (readOnly : Bool)
  | revokeToken (name : String)
  | showTokenQr (request : TokenQr)
  | loadCertInfo
  | saveAdvertiseTrust (trust : AdvertiseTrust)
  deriving DecidableEq, Repr

end Muxrd.Panel
