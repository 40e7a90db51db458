import Muxrd.Lib.Run
import Muxrd.Tls

set_option autoImplicit false

namespace Muxrd.Tls

open RustStd

def certSans (extraSans : List SanEntry) : List SanEntry :=
  [.dns "localhost", .ip (.v4 ⟨127, 0, 0, 1⟩)] ++ extraSans

/-- The certificate directory over the calls; `made` is bookkeeping: every pair that was generated, with the
extra names it was generated for. -/
structure Store where
  dir : CertDir
  made : List (Identity × List SanEntry)
  deriving DecidableEq, Repr

def Store.empty : Store :=
  { dir := .empty, made := [] }

def Store.holding (identity : Identity) (sans : List SanEntry) : Store :=
  { dir := { cert := some identity.certPem, key := some identity.keyPem, sidecar := some sans }
    made := [(identity, sans)] }

/-- One call, and how far it gets. A crash leaves what the call had written. -/
structure Request where
  extraSans : List SanEntry
  attempt : Attempt
  deriving DecidableEq, Repr

section Steps

variable (store : Store) (request : Request)

def newlyMade : List (Identity × List SanEntry) :=
  if request.attempt.dirReady && !covered store.dir request.extraSans then
    request.attempt.generated.toList.map fun fresh => (fresh, request.extraSans)
  else []

def Store.after : Store :=
  { dir := (loadOrGenerateIdentity store.dir request.extraSans request.attempt).2
    made := store.made ++ newlyMade store request }

def step : Option Store :=
  some (store.after request)

/-- An identity that the call returns is a pair generated together, for all the names asked for. -/
def Delivers : Prop :=
  ∀ identity, (loadOrGenerateIdentity store.dir request.extraSans request.attempt).1 = .ok identity ->
    ∃ sans, (identity, sans) ∈ (store.after request).made ∧ ∀ san ∈ request.extraSans, san ∈ certSans sans

def Write.whole (write : Write) (text : String) : Bool :=
  match write with
  | .done | .unrestricted => true
  | .refused => false
  | .cut kept => text.length ≤ kept

/-- The sidecar stays as it was, because it is not reached or cannot be opened. -/
def keepsSidecar (attempt : Attempt) : Bool :=
  attempt.keyWrite ≠ .done || attempt.sidecarWrite = .refused

/-- A replacement leaves no pair to load, or both files whole and no name in the sidecar that the new certificate
lacks. -/
def SettledBy (fresh : Identity) : Prop :=
  store.dir.key = none ∧ (request.attempt.certWrite ≠ .done ∨ request.attempt.keyWrite = .refused) ∨
    request.attempt.certWrite = .done ∧ request.attempt.keyWrite.whole fresh.keyPem = true ∧
      (keepsSidecar request.attempt = true ->
        ∀ san ∈ readSanSidecar store.dir, san ∈ certSans request.extraSans)

def Settles : Prop :=
  replaces store.dir request.extraSans request.attempt = true ->
    ∀ fresh, request.attempt.generated = some fresh -> SettledBy store request fresh

instance (fresh : Identity) : Decidable (SettledBy store request fresh) :=
  inferInstanceAs (Decidable (_ ∧ _ ∨ _ ∧ _ ∧ (_ -> _)))

instance : Decidable (Settles store request) :=
  inferInstanceAs (Decidable (_ = true -> ∀ fresh ∈ request.attempt.generated, SettledBy store request fresh))

end Steps

section Invariant

variable {store : Store} {request : Request}

def Consistent (store : Store) : Prop :=
  ∀ certPem keyPem, store.dir.cert = some certPem -> store.dir.key = some keyPem ->
    ∃ sans, ({ certPem, keyPem }, sans) ∈ store.made ∧ ∀ san ∈ readSanSidecar store.dir, san ∈ certSans sans

theorem consistent_empty : Consistent .empty := nofun

theorem consistent_holding (identity : Identity) (sans : List SanEntry) : Consistent (.holding identity sans) := by
  intro certPem keyPem cert key
  obtain rfl := Option.some.inj cert
  obtain rfl := Option.some.inj key
  refine ⟨sans, by simp [Store.holding], ?_⟩
  intro san listed
  exact List.mem_append_right _ listed

theorem Consistent.more {made : List (Identity × List SanEntry)} (consistent : Consistent store) :
    Consistent { store with made := store.made ++ made } := by
  intro certPem keyPem cert key
  obtain ⟨sans, member, carries⟩ := consistent certPem keyPem cert key
  exact ⟨sans, List.mem_append_left _ member, carries⟩

theorem Write.text_whole {write : Write} {old : Option String} {text : String} (whole : write.whole text = true) :
    write.text old text = some text := by
  cases write with
  | done | unrestricted => rfl
  | refused => cases whole
  | cut kept =>
    have fits : text.toList.length ≤ kept := by
      rw [String.length_toList]
      simpa [Write.whole] using whole
    rw [Write.text, List.take_of_length_le fits, String.ofList_toList]

theorem persist_dir (dir : CertDir) (extraSans : List SanEntry) (attempt : Attempt) (fresh : Identity) :
    (persist dir extraSans attempt fresh).2 =
      { cert := attempt.certWrite.text dir.cert fresh.certPem
        key := if attempt.certWrite = .done then attempt.keyWrite.text dir.key fresh.keyPem else dir.key
        sidecar := if attempt.certWrite = .done ∧ attempt.keyWrite = .done then
          attempt.sidecarWrite.sidecar dir.sidecar extraSans else dir.sidecar } := by
  unfold persist
  dsimp only
  split_ifs <;> simp_all

theorem mem_made {fresh : Identity} (ready : request.attempt.dirReady = true)
    (lacks : covered store.dir request.extraSans = false) (made : request.attempt.generated = some fresh) :
    (fresh, request.extraSans) ∈ (store.after request).made := by
  simp [Store.after, newlyMade, ready, lacks, made]

theorem persist_consistent {fresh : Identity} {made : List (Identity × List SanEntry)}
    (settled : SettledBy store request fresh) (member : (fresh, request.extraSans) ∈ made) :
    Consistent { dir := (persist store.dir request.extraSans request.attempt fresh).2, made } := by
  rw [persist_dir]
  intro certPem keyPem cert key
  dsimp only at cert key
  rcases settled with ⟨absent, stops⟩ | ⟨certDone, keyWhole, lists⟩
  · rw [absent] at key
    split_ifs at key with certDone
    rw [stops.resolve_left (not_not.mpr certDone)] at key
    cases key
  · rw [certDone] at cert
    obtain rfl : fresh.certPem = certPem := Option.some.inj cert
    rw [if_pos certDone, Write.text_whole keyWhole] at key
    obtain rfl := Option.some.inj key
    refine ⟨request.extraSans, member, ?_⟩
    intro san stored
    cases kept : keepsSidecar request.attempt with
    | true =>
      apply lists kept san
      simp only [keepsSidecar, ne_eq, decide_not, Bool.or_eq_true, Bool.not_eq_true', decide_eq_false_iff_not,
        decide_eq_true_eq] at kept
      simp only [readSanSidecar] at stored ⊢
      split_ifs at stored with both
      · rw [kept.resolve_left (not_not.mpr both.2)] at stored
        exact stored
      · exact stored
    | false =>
      simp only [keepsSidecar, ne_eq, decide_not, Bool.or_eq_false_iff, Bool.not_eq_false', decide_eq_true_eq,
        decide_eq_false_iff_not] at kept
      simp only [readSanSidecar, certDone, kept.1, and_self, if_true] at stored
      cases written : request.attempt.sidecarWrite with
      | refused => exact absurd written kept.2
      | done | unrestricted =>
        rw [written] at stored
        exact List.mem_append_right _ stored
      | cut _ =>
        rw [written] at stored
        cases stored

theorem consistent_step {next : Store} (consistent : Consistent store) (settles : Settles store request)
    (taken : step store request = some next) : Consistent next := by
  obtain rfl : store.after request = next := Option.some.inj taken
  have unchanged (same : (loadOrGenerateIdentity store.dir request.extraSans request.attempt).2 = store.dir) :
      Consistent (store.after request) := by
    rw [Store.after, same]
    exact consistent.more
  cases ready : request.attempt.dirReady with
  | false => exact unchanged (by simp [loadOrGenerateIdentity, ready])
  | true =>
    cases covers : covered store.dir request.extraSans with
    | true =>
      obtain ⟨_, _, _, _, loads⟩ := loadOrGenerate_covered ready covers
      exact unchanged (by rw [loads])
    | false =>
      have generates := loadOrGenerate_uncovered ready covers
      cases made : request.attempt.generated with
      | none => exact unchanged (by rw [generates, generate, made])
      | some fresh =>
        have persisted : (loadOrGenerateIdentity store.dir request.extraSans request.attempt).2 =
            (persist store.dir request.extraSans request.attempt fresh).2 := by
          rw [generates, generate, made]
        by_cases refused : request.attempt.certWrite = .refused
        · apply unchanged
          rw [persisted, persist_dir]
          simp [refused, Write.text]
        · have settled := settles (by simp [replaces, ready, covers, made, refused]) fresh made
          have consistentAfter := persist_consistent settled (mem_made ready covers made)
          rw [← persisted] at consistentAfter
          exact consistentAfter

theorem delivers_of_consistent (consistent : Consistent store) : Delivers store request := by
  intro identity answered
  cases ready : request.attempt.dirReady with
  | false => simp [loadOrGenerateIdentity, ready] at answered
  | true =>
    cases covers : covered store.dir request.extraSans with
    | true =>
      obtain ⟨certPem, keyPem, cert, key, loads⟩ := loadOrGenerate_covered ready covers
      rw [loads] at answered
      unfold loadPair at answered
      split_ifs at answered
      obtain rfl := Except.ok.inj answered
      obtain ⟨sans, member, carries⟩ := consistent certPem keyPem cert key
      refine ⟨sans, List.mem_append_left _ member, ?_⟩
      intro san asked
      have stored : sidecarCovers (readSanSidecar store.dir) request.extraSans = true := by
        simp only [covered, Bool.and_eq_true] at covers
        exact covers.2
      exact carries san (by simpa using List.all_eq_true.mp stored san asked)
    | false =>
      rw [loadOrGenerate_uncovered ready covers, generate] at answered
      cases made : request.attempt.generated with
      | none =>
        rw [made] at answered
        cases answered
      | some fresh =>
        rw [made] at answered
        obtain ⟨rfl, _⟩ := persist_ok (Prod.ext answered rfl)
        exact ⟨request.extraSans, mem_made ready covers made, fun san asked => List.mem_append_right _ asked⟩

end Invariant

/-- An identity that is returned is whole and covers the request, in every run of calls that settle what they
replace. -/
theorem returned_identity_matches (start : Store)
    (initial : start = .empty ∨ ∃ identity sans, start = .holding identity sans) (requests : List Request)
    (settles : Transition.Meets step Settles start requests) : Transition.Meets step Delivers start requests := by
  apply settles.implied (fun _ _ _ consistent settles taken => consistent_step consistent settles taken)
  · intro store request consistent _
    exact delivers_of_consistent consistent
  · rcases initial with rfl | ⟨identity, sans, rfl⟩
    · exact consistent_empty
    · exact consistent_holding identity sans

theorem returned_identity_matches_retried :
    Transition.Meets step Delivers .empty
      [{ extraSans := [.dns "box.lan"],
         attempt := { Attempt.clean ⟨"certA", "keyA"⟩ with sidecarWrite := .refused } },
       { extraSans := [.dns "box.lan"], attempt := .clean ⟨"certB", "keyB"⟩ },
       { extraSans := [.dns "box.lan"], attempt := .clean ⟨"certC", "keyC"⟩ }] :=
  returned_identity_matches .empty (.inl rfl) _ (by decide)

/-- The certificate is replaced and the key is not, and the old sidecar still vouches for the two of them. -/
theorem torn_pair_is_returned :
    ¬ Transition.Meets step Delivers (.holding ⟨"certA", "keyA"⟩ [.dns "old.lan"])
      [{ extraSans := [.dns "new.lan"], attempt := { Attempt.clean ⟨"certB", "keyB"⟩ with keyWrite := .refused } },
       { extraSans := [.dns "old.lan"], attempt := .clean ⟨"certC", "keyC"⟩ }] := by
  intro meets
  obtain ⟨sans, member, _⟩ := (meets.2 _ rfl).1 ⟨"certB", "keyA"⟩ rfl
  revert member
  simp [Store.after, newlyMade, Store.holding, Attempt.clean, covered, sidecarCovers, readSanSidecar,
    loadOrGenerateIdentity, generate, persist, Write.text]

end Muxrd.Tls
