import Muxrd.Lib.Net

set_option autoImplicit false

namespace Muxrd.Tls

open RustStd

inductive SanEntry
  | ip (address : IpAddr)
  | dns (name : String)
  deriving DecidableEq, Repr

def SanEntry.parse (text : String) : SanEntry :=
  match parseIpAddr (trim text) with
  | some address => .ip address
  | none => .dns (trim text)

-- The value of `ZELLIMSERVER_SAN`, empty when it is not set.
def SanEntry.fromEnv (value : String) : List SanEntry :=
  (((split value ',').map trim).filter (· ≠ "")).map SanEntry.parse

def SanEntry.display : SanEntry -> String
  | .ip address => address.toString
  | .dns name => name

/-- The certificate directory; the sidecar as it parses, so a torn one counts as none. -/
structure CertDir where
  cert : Option String
  key : Option String
  sidecar : Option (List SanEntry)
  deriving DecidableEq, Repr

def CertDir.empty : CertDir :=
  { cert := none, key := none, sidecar := none }

structure Identity where
  certPem : String
  keyPem : String
  deriving DecidableEq, Repr

def readSanSidecar (dir : CertDir) : List SanEntry :=
  dir.sidecar.getD []

def sidecarCovers (stored requested : List SanEntry) : Bool :=
  requested.all (· ∈ stored)

inductive Write
  | done
  | refused
  | cut (kept : Nat)
  | unrestricted
  deriving DecidableEq, Repr

def Write.text (write : Write) (old : Option String) (new : String) : Option String :=
  match write with
  | .done | .unrestricted => some new
  | .refused => old
  | .cut kept => some (String.ofList (new.toList.take kept))

-- A list that is cut off is no JSON any more.
def Write.sidecar (write : Write) (old : Option (List SanEntry)) (new : List SanEntry) : Option (List SanEntry) :=
  match write with
  | .done | .unrestricted => some new
  | .refused => old
  | .cut _ => none

/-- How the file system and rcgen answer one call. -/
structure Attempt where
  dirReady : Bool
  certReads : Bool
  keyReads : Bool
  generated : Option Identity
  certWrite : Write
  keyWrite : Write
  sidecarWrite : Write
  deriving DecidableEq, Repr

def Attempt.clean (fresh : Identity) : Attempt :=
  { dirReady := true, certReads := true, keyReads := true, generated := some fresh, certWrite := .done,
    keyWrite := .done, sidecarWrite := .done }

inductive LoadError
  | certDir
  | readCert
  | readKey
  | generate
  | writeCert
  | writeKey
  | writeSidecar
  deriving DecidableEq, Repr

section Load

variable (dir : CertDir) (extraSans : List SanEntry) (attempt : Attempt)

def persist (fresh : Identity) : Except LoadError Identity × CertDir :=
  let withCert := { dir with cert := attempt.certWrite.text dir.cert fresh.certPem }
  if attempt.certWrite ≠ .done then (.error .writeCert, withCert)
  else
    let withKey := { withCert with key := attempt.keyWrite.text dir.key fresh.keyPem }
    if attempt.keyWrite ≠ .done then (.error .writeKey, withKey)
    else
      let withSidecar := { withKey with sidecar := attempt.sidecarWrite.sidecar dir.sidecar extraSans }
      if attempt.sidecarWrite ≠ .done then (.error .writeSidecar, withSidecar) else (.ok fresh, withSidecar)

def generate : Except LoadError Identity × CertDir :=
  match attempt.generated with
  | none => (.error .generate, dir)
  | some fresh => persist dir extraSans attempt fresh

def loadPair (certPem keyPem : String) : Except LoadError Identity :=
  if !attempt.certReads then .error .readCert
  else if !attempt.keyReads then .error .readKey
  else .ok { certPem, keyPem }

def loadOrGenerateIdentity : Except LoadError Identity × CertDir :=
  if !attempt.dirReady then (.error .certDir, dir)
  else
    match dir.cert, dir.key with
    | some certPem, some keyPem =>
      if sidecarCovers (readSanSidecar dir) extraSans then (loadPair attempt certPem keyPem, dir)
      else generate dir extraSans attempt
    | _, _ => generate dir extraSans attempt

def covered : Bool :=
  dir.cert.isSome && dir.key.isSome && sidecarCovers (readSanSidecar dir) extraSans

def replaces : Bool :=
  attempt.dirReady && !covered dir extraSans && attempt.generated.isSome && attempt.certWrite ≠ .refused

end Load

section Specs

variable {dir after : CertDir} {extraSans : List SanEntry} {attempt : Attempt} {identity : Identity}

theorem loadOrGenerate_covered (ready : attempt.dirReady = true) (covers : covered dir extraSans = true) :
    ∃ certPem keyPem, dir.cert = some certPem ∧ dir.key = some keyPem ∧
      loadOrGenerateIdentity dir extraSans attempt = (loadPair attempt certPem keyPem, dir) := by
  simp only [covered, Bool.and_eq_true, Option.isSome_iff_exists] at covers
  obtain ⟨⟨⟨certPem, cert⟩, keyPem, key⟩, sans⟩ := covers
  exact ⟨certPem, keyPem, cert, key, by simp [loadOrGenerateIdentity, ready, cert, key, sans]⟩

theorem loadOrGenerate_uncovered (ready : attempt.dirReady = true) (uncovered : covered dir extraSans = false) :
    loadOrGenerateIdentity dir extraSans attempt = generate dir extraSans attempt := by
  unfold loadOrGenerateIdentity
  rw [if_neg (by simp [ready])]
  split
  · next certPem keyPem cert key =>
    have lacking : sidecarCovers (readSanSidecar dir) extraSans = false := by
      simpa [covered, cert, key] using uncovered
    simp [lacking]
  · rfl

theorem persist_ok {fresh : Identity} (persisted : persist dir extraSans attempt fresh = (.ok identity, after)) :
    identity = fresh ∧ after = { cert := some fresh.certPem, key := some fresh.keyPem, sidecar := some extraSans } := by
  unfold persist at persisted
  dsimp only at persisted
  split_ifs at persisted with cert key sidecar
  · cases persisted
  · cases persisted
  · cases persisted
  · rw [not_not] at cert key sidecar
    rw [cert, key, sidecar] at persisted
    simp only [Prod.mk.injEq, Except.ok.injEq] at persisted
    exact ⟨persisted.1.symm, persisted.2.symm⟩

theorem loadOrGenerate_ok (loaded : loadOrGenerateIdentity dir extraSans attempt = (.ok identity, after)) :
    after.cert = some identity.certPem ∧ after.key = some identity.keyPem := by
  cases ready : attempt.dirReady with
  | false => simp [loadOrGenerateIdentity, ready] at loaded
  | true =>
    cases covers : covered dir extraSans with
    | true =>
      obtain ⟨certPem, keyPem, cert, key, eq⟩ := loadOrGenerate_covered ready covers
      rw [eq] at loaded
      simp only [Prod.mk.injEq] at loaded
      obtain ⟨pair, rfl⟩ := loaded
      unfold loadPair at pair
      split_ifs at pair
      rw [← Except.ok.inj pair]
      exact ⟨cert, key⟩
    | false =>
      rw [loadOrGenerate_uncovered ready covers] at loaded
      unfold generate at loaded
      split at loaded
      · cases loaded
      · obtain ⟨rfl, rfl⟩ := persist_ok loaded
        exact ⟨rfl, rfl⟩

theorem cert_kept (kept : replaces dir extraSans attempt = false) :
    (loadOrGenerateIdentity dir extraSans attempt).2.cert = dir.cert := by
  cases ready : attempt.dirReady with
  | false => simp [loadOrGenerateIdentity, ready]
  | true =>
    cases covers : covered dir extraSans with
    | true =>
      obtain ⟨certPem, keyPem, _, _, eq⟩ := loadOrGenerate_covered ready covers
      rw [eq]
    | false =>
      rw [loadOrGenerate_uncovered ready covers]
      unfold generate
      split
      · rfl
      · next fresh made =>
        have refused : attempt.certWrite = .refused := by simpa [replaces, ready, covers, made] using kept
        simp [persist, refused, Write.text]

end Specs

end Muxrd.Tls
