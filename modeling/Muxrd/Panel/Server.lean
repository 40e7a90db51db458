import Muxrd.Panel.State
import Muxrd.Start

set_option autoImplicit false

namespace Muxrd.Panel

open RustStd Tls Config Start

structure World where
  disk : String -> CertDir
  config : ConfigFile
  -- Started from the panel or from a shell, and not yet up.
  spawned : List StartArgs
  daemon : Option Daemon

section Facade

variable (host : Host)

def sanEntryFrom : San -> SanEntry
  | .ip value =>
    match parseIpAddr value with
    | some address => .ip address
    | none => .dns value
  | .dns value => .dns value

def World.certDir (world : World) : CertDir :=
  world.disk (host.locate host.dataDir)

def World.setCertDir (world : World) (dir : CertDir) : World :=
  { world with disk := fun place => if place = host.locate host.dataDir then dir else world.disk place }

def effectiveConfig (world : World) (reads : Bool) : Except String EffectiveConfig :=
  if reads then .ok (resolve host world.config none) else .error "effective_config: failed to resolve config"

-- The directory the panel looks in: the one its configuration names.
def configuredDir (world : World) (config : EffectiveConfig) : CertDir :=
  world.disk (host.locate config.certDir)

def persistedExtraSans (world : World) (reads : Bool) : List String :=
  match effectiveConfig host world reads with
  | .error _ => []
  | .ok config => (readSanSidecar (configuredDir host world config)).map (·.display)

def buildDaemonArgs (bindAddr : String) (extraSans : List String) (standard : String) : StartArgs :=
  { bind := if bindAddr = standard then none else some bindAddr, sans := extraSans }

def daemonArgs (world : World) (reads sidecarReads : Bool) : StartArgs :=
  match effectiveConfig host world reads with
  | .ok config => buildDaemonArgs config.bindAddr (persistedExtraSans host world sidecarReads) defaultBind
  | .error _ => buildDaemonArgs defaultBind [] defaultBind

end Facade

/-- How the panel's reads end while it builds a code. -/
structure Reads where
  status : Bool
  config : Bool
  certConfig : Bool
  cert : Bool
  -- The status that tells the mode of the server is asked for separately.
  mode : Bool
  deriving DecidableEq, Repr

def Reads.clean : Reads :=
  { status := true, config := true, certConfig := true, cert := true, mode := true }

inductive PairingTrust
  | pin (fingerprint : String)
  | ca
  deriving DecidableEq, Repr

structure PairingParams where
  host : String
  port : UInt16
  trust : PairingTrust
  token : String
  readOnly : Bool
  label : String
  deriving DecidableEq, Repr

section PairingCode

-- `rustls_pemfile` finds the leaf certificate and `sha2` hashes it.
variable (host : Host) (certSha256Fingerprint : String -> Option String)

def currentCertFingerprint (world : World) (reads : Reads) : Except String (Option String) :=
  match effectiveConfig host world reads.certConfig with
  | .error e => .error e
  | .ok config =>
    match (configuredDir host world config).cert with
    | none => .ok none
    | some pem =>
      if !reads.cert then .error ("current_cert_fingerprint: read " ++ joinPath config.certDir "server.crt")
      else
        match certSha256Fingerprint pem with
        | some fingerprint => .ok (some fingerprint)
        | none => .error "current_cert_fingerprint: failed to compute SHA-256 fingerprint"

def isConcreteAdvertiseHost (text : String) : Bool :=
  let h := trim text
  if h = "" then false
  else
    match parseIpAddr h with
    | some address => !address.isLoopback && !address.isUnspecified
    | none => true

def chooseAdvertiseHost (bindHost : String) (advertiseSans : List String) : String :=
  if isConcreteAdvertiseHost bindHost then bindHost
  else
    match advertiseSans.find? isConcreteAdvertiseHost with
    | some advertised => trim advertised
    | none => (host.reachableIps.head?.map (·.toString)).getD bindHost

def resolveAutoTrust : Option CertMode -> Bool
  | some .external | some .h2c => false
  | some .selfSigned | none => true

def pinned (world : World) (reads : Reads) : Except String PairingTrust :=
  match currentCertFingerprint host certSha256Fingerprint world reads with
  | .ok (some fingerprint) => .ok (.pin fingerprint)
  | .ok none => .error "No certificate yet — open the Cert screen and generate one first."
  | .error e => .error ("cert fingerprint: " ++ e)

def pairingTrust (world : World) (trust : AdvertiseTrust) (reads : Reads) : Except String PairingTrust :=
  match trust with
  | .ca => .ok .ca
  | .pin => pinned host certSha256Fingerprint world reads
  | .auto =>
    let certMode := if reads.mode then world.daemon.map (·.certMode) else none
    if resolveAutoTrust certMode then pinned host certSha256Fingerprint world reads else .ok .ca

def bindParts (bindAddr : String) : String × UInt16 :=
  match rsplit bindAddr ':' with
  | some (bindHost, port) => (bindHost, (parseU16 port).getD 50051)
  | none => (bindAddr, 50051)

def buildTokenQrTask (world : World) (request : TokenQr) (reads : Reads) : Except String PairingParams :=
  if world.daemon.isNone || !reads.status then .error "Start the server first."
  else
    match effectiveConfig host world reads.config with
    | .error e => .error ("config: " ++ e)
    | .ok config =>
      let bind := bindParts config.bindAddr
      let advertised := chooseAdvertiseHost host bind.1 ((SanEntry.fromEnv host.sanEnv).map (·.display))
      (pairingTrust host certSha256Fingerprint world request.advertiseTrust reads).map fun trust =>
        { host := advertised, port := bind.2, trust, token := request.token, readOnly := request.readOnly,
          label := "muxrd" }

end PairingCode

section Pinned

variable {host : Host} {certSha256Fingerprint : String -> Option String} {world : World} {reads : Reads}

theorem effectiveConfig_ok {answers : Bool} {config : EffectiveConfig}
    (effective : effectiveConfig host world answers = .ok config) : config = resolve host world.config none := by
  unfold effectiveConfig at effective
  split_ifs at effective
  exact (Except.ok.inj effective).symm

theorem currentCertFingerprint_some {fingerprint : String}
    (current : currentCertFingerprint host certSha256Fingerprint world reads = .ok (some fingerprint)) :
    ∃ pem, (configuredDir host world (resolve host world.config none)).cert = some pem ∧
      certSha256Fingerprint pem = some fingerprint := by
  unfold currentCertFingerprint at current
  split at current
  · cases current
  · next config effective =>
    rw [effectiveConfig_ok effective] at current
    split at current
    · cases current
    · next pem file =>
      split_ifs at current
      split at current
      · next hashed => exact ⟨pem, file, by rw [hashed, Except.ok.inj current]⟩
      · cases current

theorem pinned_ok {trust : PairingTrust} (pins : pinned host certSha256Fingerprint world reads = .ok trust) :
    ∃ fingerprint, trust = .pin fingerprint ∧
      currentCertFingerprint host certSha256Fingerprint world reads = .ok (some fingerprint) := by
  unfold pinned at pins
  split at pins
  · next fingerprint current => exact ⟨fingerprint, (Except.ok.inj pins).symm, current⟩
  · cases pins
  · cases pins

theorem pairingTrust_pin {trust : AdvertiseTrust} {fingerprint : String}
    (pins : pairingTrust host certSha256Fingerprint world trust reads = .ok (.pin fingerprint)) :
    trust ≠ .ca ∧ currentCertFingerprint host certSha256Fingerprint world reads = .ok (some fingerprint) := by
  have current (pins : pinned host certSha256Fingerprint world reads = .ok (.pin fingerprint)) :
      currentCertFingerprint host certSha256Fingerprint world reads = .ok (some fingerprint) := by
    obtain ⟨_, same, current⟩ := pinned_ok pins
    rw [PairingTrust.pin.inj same]
    exact current
  cases trust with
  | ca => cases pins
  | pin => exact ⟨by decide, current pins⟩
  | auto =>
    simp only [pairingTrust] at pins
    generalize (if reads.mode then world.daemon.map (·.certMode) else none) = certMode at pins
    split_ifs at pins
    · exact ⟨by decide, current pins⟩
    · cases pins

theorem buildTokenQrTask_pin {request : TokenQr} {params : PairingParams} {fingerprint : String}
    (built : buildTokenQrTask host certSha256Fingerprint world request reads = .ok params)
    (pins : params.trust = .pin fingerprint) :
    world.daemon.isSome = true ∧ request.advertiseTrust ≠ .ca ∧
      ∃ pem, (configuredDir host world (resolve host world.config none)).cert = some pem ∧
        certSha256Fingerprint pem = some fingerprint := by
  unfold buildTokenQrTask at built
  split_ifs at built with down
  simp only [Bool.or_eq_true, not_or, Option.isNone_iff_eq_none, Bool.not_eq_true', Bool.not_eq_false] at down
  split at built
  · cases built
  · dsimp only at built
    cases trusts : pairingTrust host certSha256Fingerprint world request.advertiseTrust reads with
    | error e =>
      rw [trusts] at built
      cases built
    | ok trust =>
      rw [trusts] at built
      have same : trust = .pin fingerprint := by rw [← pins, ← Except.ok.inj built]
      rw [same] at trusts
      obtain ⟨pinning, current⟩ := pairingTrust_pin trusts
      exact ⟨Option.ne_none_iff_isSome.mp down.1, pinning, currentCertFingerprint_some current⟩

end Pinned

end Muxrd.Panel
