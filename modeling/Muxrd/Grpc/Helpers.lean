import Muxrd.Multiplexer.Routing
import Muxrd.Relay.Registry

set_option autoImplicit false

namespace Muxrd.Helpers

open Routing Registry

def routedAck (info : String) : ProtoAck :=
  { ok := true, error := "", info }

def reattachRequired : ProtoAck :=
  { ok := false, error := "reattach required (no matching connection)", info := "" }

def exactSender (control : ControlRegistry) (session connectionId : String) : Option Nat :=
  if connectionId ≠ "" then
    ((control.lookup connectionId).filter fun entry => entry.session = session).map (·.sender)
  else none

-- `control.iter().find(..)`: the first writable relay of the session, in the order the map has just then.
def fallbackSender (control : ControlRegistry) (session : String) : Option Nat :=
  (control.entries.find? fun pair => pair.2.session = session && !pair.2.readOnly).map (·.2.sender)

def tryRouteControl {Command : Type} (control : ControlRegistry) (channels : Channels Command)
    (session connectionId : String) (cmd : Command) : Option ProtoAck × Channels Command :=
  let exact := exactSender control session connectionId
  if isCollapsedBackendSession session then
    match exact with
    | some sender =>
      match channels.send sender cmd with
      | some sent => (some (routedAck "routed via relay client (per-connection)"), sent)
      | none => (some reattachRequired, channels)
    | none => (some reattachRequired, channels)
  else
    match exact with
    | some sender =>
      match channels.send sender cmd with
      | some sent => (some (routedAck "routed via relay client (per-connection)"), sent)
      | none => (none, channels)
    | none =>
      match fallbackSender control session with
      | none => (none, channels)
      | some sender =>
        match channels.send sender cmd with
        | some sent => (some (routedAck "routed via relay client (session fallback, writable)"), sent)
        | none => (none, channels)

/-- The gate of the mutating handlers. `readOnly` is the `SessionReadOnly` extension of the request. -/
def rejectIfReadOnly (readOnly : Option Bool) : Except Status Unit :=
  match readOnly with
  | some true =>
    .error
      { code := .permissionDenied
        message := [.text "session token is read-only — mutating operations are not allowed"] }
  | some false => .ok ()
  | none =>
    .error
      { code := .permissionDenied
        message := [.text ("internal auth error: read-only flag not set — " ++
          "request denied (fail-closed)")] }

def validateLayoutName (layout : String) : Except Status Unit :=
  if layout.isEmpty || !layout.toList.all allowedInName then
    .error
      { code := .invalidArgument
        message := [.text "invalid layout ", .debug layout,
          .text (": only a bare layout name [A-Za-z0-9_-] is allowed " ++
            "(absolute paths, '/', and '..' are rejected)")] }
  else .ok ()

def toProto (ack : ActionAck) : ProtoAck :=
  { ok := ack.ok, error := ack.error.getD "", info := ack.info.getD "" }

-- The tags of the proto enumeration, of which the first leaves the backend open.
def kindFromTag : Int -> Option (Option BackendKind)
  | 0 => some none
  | 1 => some (some .zellij)
  | 2 => some (some .herdr)
  | _ => none

theorem bind_ok {ε α β : Type} {first : Except ε α} {next : α -> Except ε β} {result : β} :
    (first >>= next) = .ok result ↔ ∃ value, first = .ok value ∧ next value = .ok result := by
  cases first with
  | error failure => simp [bind, Except.bind]
  | ok value => simp [bind, Except.bind]

theorem rejectIfReadOnly_ok (readOnly : Option Bool) :
    rejectIfReadOnly readOnly = .ok () ↔ readOnly = some false := by
  cases readOnly with
  | none => simp [rejectIfReadOnly]
  | some flag => cases flag <;> simp [rejectIfReadOnly]

theorem exactSender_some {control : ControlRegistry} {session connectionId : String} {sender : Nat} :
    exactSender control session connectionId = some sender ↔
      connectionId ≠ "" ∧ ∃ entry, control.lookup connectionId = some entry ∧
        entry.session = session ∧ entry.sender = sender := by
  unfold exactSender
  by_cases empty : connectionId = "" <;>
    simp [empty, Option.filter_eq_some_iff, and_assoc]

theorem fallbackSender_some {control : ControlRegistry} {session : String} {sender : Nat}
    (found : fallbackSender control session = some sender) :
    ∃ connectionId entry, control.lookup connectionId = some entry ∧ entry.session = session ∧
      entry.readOnly = false ∧ entry.sender = sender := by
  simp only [fallbackSender, Option.map_eq_some_iff] at found
  obtain ⟨⟨connectionId, entry⟩, found, rfl⟩ := found
  have member := List.mem_of_find?_eq_some found
  have suitable := List.find?_some found
  simp only [Bool.and_eq_true, decide_eq_true_eq, Bool.not_eq_true'] at suitable
  exact ⟨connectionId, entry, AList.mem_lookup_iff.mpr member, suitable.1, suitable.2, rfl⟩

def chosenSender (control : ControlRegistry) (session connectionId : String) : Option Nat :=
  (exactSender control session connectionId).or
    (if isCollapsedBackendSession session then none else fallbackSender control session)

def unrouted (session : String) : Option ProtoAck :=
  if isCollapsedBackendSession session then some reattachRequired else none

theorem tryRouteControl_sent {Command : Type} {control : ControlRegistry}
    {channels sent : Channels Command}
    {session connectionId : String} {sender : Nat} {cmd : Command}
    (chosen : chosenSender control session connectionId = some sender)
    (delivered : channels.send sender cmd = some sent) :
    ∃ info, tryRouteControl control channels session connectionId cmd = (some (routedAck info), sent) := by
  unfold chosenSender at chosen
  unfold tryRouteControl
  cases exact : exactSender control session connectionId with
  | some own =>
    obtain rfl : own = sender := by simpa [exact] using chosen
    cases isCollapsedBackendSession session <;> simp only [delivered] <;> exact ⟨_, rfl⟩
  | none =>
    cases collapsed : isCollapsedBackendSession session with
    | true => simp [exact, collapsed] at chosen
    | false =>
      have fallback : fallbackSender control session = some sender := by
        simpa [exact, collapsed] using chosen
      simp only [fallback, delivered]
      exact ⟨_, rfl⟩

theorem tryRouteControl_unsent {Command : Type} {control : ControlRegistry} {channels : Channels Command}
    {session connectionId : String} {cmd : Command}
    (unsent : ∀ sender, chosenSender control session connectionId = some sender ->
      channels.send sender cmd = none) :
    tryRouteControl control channels session connectionId cmd = (unrouted session, channels) := by
  unfold chosenSender at unsent
  unfold tryRouteControl unrouted
  cases exact : exactSender control session connectionId with
  | some own =>
    have closed : channels.send own cmd = none := unsent own (by simp [exact])
    cases isCollapsedBackendSession session <;> simp [closed]
  | none =>
    cases collapsed : isCollapsedBackendSession session with
    | true => simp
    | false =>
      cases fallback : fallbackSender control session with
      | none => simp
      | some sender =>
        have closed : channels.send sender cmd = none := unsent sender (by simp [exact, collapsed, fallback])
        simp [closed]

/-- The relay registered under exactly this connection id takes the command: it was attached with this
session id, and its inbound task still holds its receiver. -/
def exactOpen {Command : Type} (control : ControlRegistry) (channels : Channels Command)
    (session connectionId : String) : Bool :=
  match exactSender control session connectionId with
  | some sender => channels.isOpen sender
  | none => false

def Isolated (control : ControlRegistry) (channels : Channels RelayControl)
    (session connectionId : String)
    (cmd : RelayControl) : Prop :=
  let routed := tryRouteControl control channels session connectionId cmd
  (∀ sender, routed.2.lookup sender ≠ channels.lookup sender ->
    ∃ entry, control.lookup connectionId = some entry ∧ entry.sender = sender) ∧
  ((∀ sender, routed.2.lookup sender = channels.lookup sender) ->
    ∃ ack, routed.1 = some ack ∧ ack.ok = false)

theorem tryRouteControl_cases {Command : Type} (control : ControlRegistry) (channels : Channels Command)
    (session connectionId : String) (cmd : Command) :
    let routed := tryRouteControl control channels session connectionId cmd
    (∃ sender sent info, channels.send sender cmd = some sent ∧ routed = (some (routedAck info), sent) ∧
        (exactSender control session connectionId = some sender ∨
          isCollapsedBackendSession session = false ∧ exactSender control session connectionId = none ∧
            fallbackSender control session = some sender)) ∨
      (isCollapsedBackendSession session = true ∧ exactOpen control channels session connectionId = false ∧
        routed = (some reattachRequired, channels)) ∨
      (isCollapsedBackendSession session = false ∧ exactOpen control channels session connectionId = false ∧
        routed = (none, channels)) := by
  have closed (sender : Nat) (failed : channels.send sender cmd = none) : channels.isOpen sender = false := by
    rw [← Channels.send_isSome channels sender cmd, failed]
    rfl
  simp only [tryRouteControl, exactOpen]
  cases exact : exactSender control session connectionId with
  | some sender =>
    cases collapsed : isCollapsedBackendSession session <;>
      cases sent : channels.send sender cmd <;> simp [sent, closed]
  | none =>
    cases collapsed : isCollapsedBackendSession session with
    | true => simp
    | false =>
      cases fallback : fallbackSender control session with
      | none => simp
      | some sender => cases sent : channels.send sender cmd <;> simp [sent]

section Isolation

variable {Backend : Type} {zellijValidate : String -> Except (List Piece) Unit}
  {backends : BackendSet Backend} {kind : BackendKind} {backend : Backend} {session bare : String}
  {registries : Registries}

theorem isolated_of_delivered {connectionId : String} {cmd : RelayControl} {sender : Nat}
    {sent : Channels RelayControl} {info : String}
    (delivered : registries.channels.send sender cmd = some sent)
    (routed : tryRouteControl registries.control registries.channels session connectionId cmd =
      (some (routedAck info), sent)) :
    Isolated registries.control registries.channels session connectionId cmd ↔
      ∃ entry, registries.control.lookup connectionId = some entry ∧ entry.sender = sender := by
  have changed := Channels.send_changes delivered
  simp only [Isolated, routed]
  constructor
  · rintro ⟨owner, _⟩
    exact owner sender ((changed sender).mpr rfl)
  · intro owner
    constructor
    · intro other moved
      obtain rfl := (changed other).mp moved
      exact owner
    · intro still
      exact absurd (still sender) ((changed sender).mpr rfl)

theorem isolated_of_collapsed (collapsed : isCollapsedBackendSession session = true)
    (connectionId : String)
    (cmd : RelayControl) : Isolated registries.control registries.channels session connectionId cmd := by
  rcases tryRouteControl_cases registries.control registries.channels session connectionId cmd with
    ⟨sender, sent, info, delivered, routed, exact | ⟨apart, _⟩⟩ | ⟨_, _, routed⟩ | ⟨plain, _⟩
  · obtain ⟨_, entry, found, _, same⟩ := exactSender_some.mp exact
    exact (isolated_of_delivered delivered routed).mpr ⟨entry, found, same⟩
  · simp [collapsed] at apart
  · simp [Isolated, routed, reattachRequired]
  · simp [collapsed] at plain

/-- Outside the prefix test the command stays isolated only when the exact relay takes it: the session
fallback picks a relay of some other connection, and no relay at all is answered `None`. -/
theorem isolated_of_not_collapsed (wellFormed : WellFormed registries)
    (plain : isCollapsedBackendSession session = false) (connectionId : String) (cmd : RelayControl) :
    Isolated registries.control registries.channels session connectionId cmd ↔
      exactOpen registries.control registries.channels session connectionId = true := by
  rcases tryRouteControl_cases registries.control registries.channels session connectionId cmd with
    ⟨sender, sent, info, delivered, routed, exact | ⟨_, exact, fallback⟩⟩ | ⟨collapsed, _⟩ | ⟨_, closed, routed⟩
  · rw [isolated_of_delivered delivered routed]
    have taken : registries.channels.isOpen sender = true := by
      rw [← Channels.send_isSome _ sender cmd, delivered]
      rfl
    obtain ⟨_, entry, found, _, same⟩ := exactSender_some.mp exact
    simp only [exactOpen, exact, taken, iff_true]
    exact ⟨entry, found, same⟩
  · rw [isolated_of_delivered delivered routed]
    obtain ⟨other, candidate, registered, attached, _, chosen⟩ := fallbackSender_some fallback
    simp only [exactOpen, exact, Bool.false_eq_true, iff_false]
    rintro ⟨entry, found, same⟩
    -- Channels are not shared, so the fallback relay would be the caller's own, an exact match.
    have key := wellFormed.distinct _ _ _ _ registered found (chosen.trans same.symm)
    subst key
    have matched := exactSender_some.mpr ⟨wellFormed.keyed _ _ registered, candidate, registered, attached, rfl⟩
    simp [exact] at matched
  · simp [plain] at collapsed
  · simp [Isolated, routed, closed]

theorem herdr_control_isolated (reachable : Reachable registries)
    (resolved : resolveSessionKind zellijValidate backends session = .ok (kind, backend, bare))
    (connectionId : String) (cmd : RelayControl) :
    ((kind = .herdr -> Isolated registries.control registries.channels session connectionId cmd) ↔
      (kind = .herdr -> isQualified session = true ∨
        exactOpen registries.control registries.channels session connectionId = true)) ∧
    ((isCollapsedBackendSession session = true ↔ kind = .herdr) ↔
      (kind = .herdr -> isQualified session = true)) := by
  have prefixTest := isCollapsed_of_resolve resolved
  constructor
  · cases collapsed : isCollapsedBackendSession session with
    | true =>
      have qualified := (prefixTest.mp collapsed).2
      simp [isolated_of_collapsed collapsed, qualified]
    | false =>
      rw [isolated_of_not_collapsed (wellFormed_of_reachable reachable) collapsed]
      simp only [collapsed, Bool.false_eq_true, false_iff, not_and] at prefixTest
      constructor
      · exact fun isolated herdr => .inr (isolated herdr)
      · exact fun condition herdr => (condition herdr).resolve_left (prefixTest herdr)
  · rw [prefixTest]
    constructor
    · exact fun same herdr => (same.mpr herdr).2
    · exact fun qualified => ⟨And.left, fun herdr => ⟨herdr, qualified herdr⟩⟩

def herdrOnly : BackendSet Unit :=
  { backends := [(.herdr, ())], nonempty := by simp }

def attachedWith (session : String) : Registries :=
  { Registries.empty with
    control := (∅ : ControlRegistry).insert (mintConnectionId 1) { session, sender := 0, readOnly := false }
    channels := (∅ : Channels RelayControl).insert 0 { queue := [], receiverAlive := true } }

theorem attachedWith_reachable (session : String) : Reachable (attachedWith session) :=
  ⟨[.insertControl 1 session 0 false], by simp [Transition.run, step, attachedWith, Registries.empty]⟩

theorem herdr_control_isolated_qualified :
    Isolated (attachedWith "herdr:herdr").control (attachedWith "herdr:herdr").channels "herdr:herdr" ""
      (.switchTab 7) := by
  have resolved : resolveSessionKind (fun _ => .ok ()) herdrOnly "herdr:herdr" = .ok (.herdr, (), "herdr") := by
    rfl
  have qualified : isQualified "herdr:herdr" = true := by decide
  exact (herdr_control_isolated (attachedWith_reachable "herdr:herdr") resolved "" (.switchTab 7)).1.mpr
    (fun _ => .inl qualified) rfl

/-- On a herdr-only server the bare id `herdr` resolves, but not as a collapsed session: a request
without a connection id steers the relay of whoever attached with that id. -/
theorem herdr_bare_id_steers_sibling :
    Reachable (attachedWith "herdr") ∧
      resolveSessionKind (fun _ => .ok ()) herdrOnly "herdr" = .ok (.herdr, (), "herdr") ∧
      isCollapsedBackendSession "herdr" = false ∧
      ((tryRouteControl (attachedWith "herdr").control (attachedWith "herdr").channels "herdr" ""
        (.switchTab 7)).2.lookup 0).map (·.queue) = some [.switchTab 7] ∧
      ¬ Isolated (attachedWith "herdr").control (attachedWith "herdr").channels "herdr" "" (.switchTab 7) := by
  refine ⟨attachedWith_reachable "herdr", by rfl, by decide, by decide, ?_⟩
  rw [isolated_of_not_collapsed (wellFormed_of_reachable (attachedWith_reachable "herdr")) (by decide)]
  decide

end Isolation

end Muxrd.Helpers
