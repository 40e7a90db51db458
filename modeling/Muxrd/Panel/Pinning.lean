import Muxrd.Lib.Run
import Muxrd.Panel.Server

set_option autoImplicit false

namespace Muxrd.Panel.Pinning

open Tls Config Start

inductive Event
  | ensureCert (sans : List San) (attempt : Attempt)
  | saveBind (bindAddr : String) (failing : Option SaveStep)
  | startServer (reads sidecarReads : Bool)
  | commandLine (args : StartArgs)
  -- A spawned process passes the checks before its identity, loads it, and comes up with it, as far as it gets.
  | daemonStarts (spawned : Nat) (passes serves : Bool) (attempt : Attempt)
  | stopServer
  | daemonExits
  | showTokenQr (request : TokenQr) (reads : Reads)
  deriving DecidableEq, Repr

structure Watched where
  world : World
  replaced : Bool

section Machine

variable (host : Host)

def ensureCert (watched : Watched) (sans : List San) (attempt : Attempt) : Watched :=
  let entries := sans.map sanEntryFrom
  let dir := watched.world.certDir host
  { world := watched.world.setCertDir host (loadOrGenerateIdentity dir entries attempt).2
    replaced := watched.replaced || replaces dir entries attempt }

-- Only a daemonized start asks first whether another server answers; a foreground one, and one that races,
-- loads its identity before it may fail to listen. One that does come up takes over the control socket.
def daemonStarts (watched : Watched) (args : StartArgs) (passes serves : Bool) (attempt : Attempt) : Watched :=
  if !passes then watched
  else
    let dir := watched.world.certDir host
    let started := start host watched.world.config dir args attempt
    let world := watched.world.setCertDir host started.2
    match started.1 with
    | some daemon =>
      if serves then { world := { world with daemon := some daemon }, replaced := false }
      else { world, replaced := watched.replaced || startReplaces host watched.world.config dir args attempt }
    | none => { world, replaced := watched.replaced || startReplaces host watched.world.config dir args attempt }

def step (watched : Watched) : Event -> Option Watched
  | .ensureCert sans attempt => some (ensureCert host watched sans attempt)
  | .saveBind bindAddr failing =>
    some { watched with world := { watched.world with
      config := (setBindAddr watched.world.config failing bindAddr).2 } }
  | .startServer reads sidecarReads =>
    some { watched with world := { watched.world with
      spawned := watched.world.spawned ++ [daemonArgs host watched.world reads sidecarReads] } }
  | .commandLine args =>
    some { watched with world := { watched.world with spawned := watched.world.spawned ++ [args] } }
  | .daemonStarts spawned passes serves attempt =>
    watched.world.spawned[spawned]?.map fun args =>
      let left := { watched.world with spawned := watched.world.spawned.eraseIdx spawned }
      daemonStarts host { watched with world := left } args passes serves attempt
  | .stopServer | .daemonExits => some { watched with world := { watched.world with daemon := none } }
  | .showTokenQr _ _ => some watched

variable (certSha256Fingerprint : String -> Option String)

/-- A code that pins a certificate pins the one that the running daemon has loaded. -/
def PinsServed (watched : Watched) : Event -> Prop
  | .showTokenQr request reads =>
    ∀ params fingerprint, buildTokenQrTask host certSha256Fingerprint watched.world request reads = .ok params ->
      params.trust = .pin fingerprint ->
      ∃ daemon, watched.world.daemon = some daemon ∧
        certSha256Fingerprint daemon.identity.certPem = some fingerprint
  | _ => True

/-- The panel looks where the daemon has its certificate, and nobody has written there since. -/
def LooksAtServed (watched : Watched) : Event -> Prop
  | .showTokenQr request _ =>
    watched.world.daemon.isSome = true -> request.advertiseTrust ≠ .ca ->
      host.locate (resolve host watched.world.config none).certDir = host.locate host.dataDir ∧
        watched.replaced = false
  | _ => True

end Machine

instance (host : Host) (watched : Watched) : (event : Event) -> Decidable (LooksAtServed host watched event)
  | .showTokenQr _ _ => inferInstanceAs (Decidable (_ -> _ -> _ ∧ _))
  | .ensureCert _ _ | .saveBind _ _ | .startServer _ _ | .commandLine _ | .daemonStarts _ _ _ _ | .stopServer
  | .daemonExits => .isTrue trivial

def OnDisk (host : Host) (watched : Watched) : Prop :=
  ∀ daemon, watched.world.daemon = some daemon -> watched.replaced = false ->
    (watched.world.certDir host).cert = some daemon.identity.certPem

section Runs

variable {host : Host} {watched next : Watched}

@[simp] theorem certDir_setCertDir (world : World) (dir : CertDir) : (world.setCertDir host dir).certDir host = dir := by
  simp [World.certDir, World.setCertDir]

theorem ensureCert_onDisk {sans : List San} {attempt : Attempt} (onDisk : OnDisk host watched) :
    OnDisk host (ensureCert host watched sans attempt) := by
  intro daemon running kept
  simp only [ensureCert, Bool.or_eq_false_iff] at kept
  simp only [ensureCert, certDir_setCertDir]
  rw [cert_kept kept.2]
  exact onDisk daemon running kept.1

theorem daemonStarts_onDisk {args : StartArgs} {passes serves : Bool} {attempt : Attempt}
    (onDisk : OnDisk host watched) : OnDisk host (daemonStarts host watched args passes serves attempt) := by
  -- A start that does not come up leaves the other server as it is.
  have beside : OnDisk host
      { world := watched.world.setCertDir host
          (start host watched.world.config (watched.world.certDir host) args attempt).2
        replaced := watched.replaced ||
          startReplaces host watched.world.config (watched.world.certDir host) args attempt } := by
    intro daemon running kept
    simp only [Bool.or_eq_false_iff] at kept
    simp only [certDir_setCertDir]
    rw [start_kept kept.2]
    exact onDisk daemon running kept.1
  unfold daemonStarts
  cases passes with
  | false => exact onDisk
  | true =>
    simp only [Bool.not_true, Bool.false_eq_true, if_false]
    split
    next daemon up =>
      cases serves with
      | false => exact beside
      | true =>
        intro other running _
        obtain rfl : daemon = other := Option.some.inj running
        have loaded := start_loaded (Prod.ext up rfl)
        simpa [World.certDir, World.setCertDir] using loaded
    · exact beside

theorem step_onDisk {event : Event} (onDisk : OnDisk host watched) (taken : step host watched event = some next) :
    OnDisk host next := by
  cases event with
  | ensureCert sans attempt =>
    rw [← Option.some.inj taken]
    exact ensureCert_onDisk onDisk
  | daemonStarts spawned passes serves attempt =>
    simp only [step, Option.map_eq_some_iff] at taken
    obtain ⟨args, _, rfl⟩ := taken
    exact daemonStarts_onDisk onDisk
  | stopServer | daemonExits =>
    rw [← Option.some.inj taken]
    intro daemon running
    cases running
  | saveBind bindAddr failing | startServer reads sidecarReads | commandLine args | showTokenQr request reads =>
    rw [← Option.some.inj taken]
    exact onDisk

end Runs

/-- A code pins the certificate being served whenever the panel looks where that certificate is. -/
theorem qr_pins_served_certificate (host : Host) (certSha256Fingerprint : String -> Option String) (world : World)
    (down : world.daemon = none) (events : List Event)
    (looks : Transition.Meets (step host) (LooksAtServed host) { world, replaced := false } events) :
    Transition.Meets (step host) (PinsServed host certSha256Fingerprint) { world, replaced := false } events := by
  apply looks.implied (fun _ _ _ onDisk _ taken => step_onDisk onDisk taken)
  · intro watched event onDisk looks
    cases event with
    | showTokenQr request reads =>
      intro params fingerprint built pins
      obtain ⟨running, pinning, pem, file, hashed⟩ := buildTokenQrTask_pin built pins
      obtain ⟨place, kept⟩ := looks running pinning
      obtain ⟨daemon, running⟩ := Option.isSome_iff_exists.mp running
      have served := onDisk daemon running kept
      rw [configuredDir, place] at file
      have same : pem = daemon.identity.certPem := Option.some.inj (file.symm.trans served)
      rw [same] at hashed
      exact ⟨daemon, running, hashed⟩
    | _ => trivial
  · intro daemon running
    rw [down] at running
    cases running

section Sampled

def sampleHost : Host :=
  { dataDir := "/data/muxrd", bindEnv := none, sanEnv := "", reachableIps := [], locate := fun path => path }

def pair (number : String) : Identity :=
  { certPem := "certificate " ++ number, keyPem := "key " ++ number }

def freshWorld (certDir : Option String) : World :=
  { disk := fun place => if place = "/srv/certs" then { CertDir.empty with cert := some "foreign" } else .empty
    config := .parsed { bindAddr := none, certDir, logPath := none }
    spawned := [], daemon := none }

def showCode : Event :=
  .showTokenQr { token := "secret", readOnly := false, seq := 1, advertiseTrust := .auto } .clean

def startUp (number : String) : List Event :=
  [.startServer true true, .daemonStarts 0 true true (.clean (pair number))]

def secondStart (sans : List String) (number : String) : List Event :=
  [.commandLine { bind := none, sans }, .daemonStarts 0 true false (.clean (pair number))]

/-- The certificate is renewed while the server is down, and the code pins the new one. -/
def renewedDown : List Event :=
  startUp "1" ++ [.stopServer, .ensureCert [.dns "phone"] (.clean (pair "2"))] ++ startUp "3" ++
    secondStart ["phone"] "4" ++ [showCode]

theorem qr_pins_served_certificate_renewed :
    Transition.Meets (step sampleHost) (PinsServed sampleHost some) { world := freshWorld none, replaced := false }
      renewedDown := by
  apply qr_pins_served_certificate sampleHost some (freshWorld none) rfl renewedDown
  decide

/-- The panel fingerprints what lies in the configured directory; the daemon's certificate is elsewhere. -/
def configuredElsewhere : List Event :=
  startUp "1" ++ [showCode]

/-- The certificate is renewed on disk while the daemon goes on serving the one it loaded. -/
def renewedRunning : List Event :=
  startUp "1" ++ [.ensureCert [.dns "phone"] (.clean (pair "2")), showCode]

/-- A second start renews it, and then does not come up. -/
def renewedByStart : List Event :=
  startUp "1" ++ secondStart ["phone"] "2" ++ [showCode]

theorem qr_pins_other_certificate :
    ¬ Transition.Meets (step sampleHost) (PinsServed sampleHost some)
        { world := freshWorld (some "/srv/certs"), replaced := false } configuredElsewhere ∧
      ¬ Transition.Meets (step sampleHost) (PinsServed sampleHost some)
        { world := freshWorld none, replaced := false } renewedRunning ∧
      ¬ Transition.Meets (step sampleHost) (PinsServed sampleHost some)
        { world := freshWorld none, replaced := false } renewedByStart := by
  refine ⟨?_, ?_, ?_⟩
  · intro pins
    have shown := (((pins.2 _ rfl).2 _ rfl).1 _ "foreign" rfl rfl)
    obtain ⟨daemon, running, hashed⟩ := shown
    cases running
    revert hashed
    decide
  · intro pins
    have shown := ((((pins.2 _ rfl).2 _ rfl).2 _ rfl).1 _ "certificate 2" rfl rfl)
    obtain ⟨daemon, running, hashed⟩ := shown
    cases running
    revert hashed
    decide
  · intro pins
    have shown := (((((pins.2 _ rfl).2 _ rfl).2 _ rfl).2 _ rfl).1 _ "certificate 2" rfl rfl)
    obtain ⟨daemon, running, hashed⟩ := shown
    cases running
    revert hashed
    decide

end Sampled

end Muxrd.Panel.Pinning
