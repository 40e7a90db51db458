import Muxrd.Config
import Muxrd.Tls

set_option autoImplicit false

namespace Muxrd.Start

open RustStd Tls Config

structure StartArgs where
  bind : Option String
  sans : List String
  deriving DecidableEq, Repr

structure Daemon where
  identity : Identity
  certMode : CertMode
  bindAddr : String
  deriving DecidableEq, Repr

def bindSan (bindAddr : String) : Option SanEntry := do
  let (host, _) ← rsplit bindAddr ':'
  let address ← parseIpAddr (trimMatches (fun c => c = '[' || c = ']') host)
  if !address.isLoopback && !address.isUnspecified then some (.ip address) else none

def collectSans (host : Host) (cliSans : List String) (bindAddr : String) : List SanEntry :=
  let sans := cliSans.map SanEntry.parse ++ SanEntry.fromEnv host.sanEnv
  match bindSan bindAddr with
  | some entry => if entry ∈ sans then sans else sans ++ [entry]
  | none => sans

/-- `muxrd start` in self-signed mode, once the checks before the certificate have passed. -/
def start (host : Host) (file : ConfigFile) (dir : CertDir) (args : StartArgs) (attempt : Attempt) :
    Option Daemon × CertDir :=
  let bindAddr := (resolve host file args.bind).bindAddr
  let loaded := loadOrGenerateIdentity dir (collectSans host args.sans bindAddr) attempt
  match loaded.1 with
  | .ok identity => (some { identity, certMode := .selfSigned, bindAddr }, loaded.2)
  | .error _ => (none, loaded.2)

def startReplaces (host : Host) (file : ConfigFile) (dir : CertDir) (args : StartArgs) (attempt : Attempt) : Bool :=
  replaces dir (collectSans host args.sans (resolve host file args.bind).bindAddr) attempt

theorem start_kept {host : Host} {file : ConfigFile} {dir : CertDir} {args : StartArgs} {attempt : Attempt}
    (kept : startReplaces host file dir args attempt = false) :
    (start host file dir args attempt).2.cert = dir.cert := by
  rw [← cert_kept kept]
  unfold start
  dsimp only
  split <;> rfl

theorem start_loaded {host : Host} {file : ConfigFile} {dir after : CertDir} {args : StartArgs} {attempt : Attempt}
    {daemon : Daemon} (started : start host file dir args attempt = (some daemon, after)) :
    after.cert = some daemon.identity.certPem := by
  unfold start at started
  dsimp only at started
  split at started
  · next identity loaded =>
    simp only [Prod.mk.injEq, Option.some.injEq] at started
    obtain ⟨rfl, rfl⟩ := started
    exact (loadOrGenerate_ok (Prod.ext loaded rfl)).1
  · cases started

end Muxrd.Start
