import Muxrd.Grpc.Consistency
import Muxrd.Lib.Utf8

set_option autoImplicit false

namespace Muxrd.Breadcrumbs

open RustStd Routing Inbound Helpers Service
open Spaces (Space markedSpaces validateSpaceId resolveSpaceRelay)
open Registry (mintConnectionId)

section Source

/-- The first 8 bytes of an id; `none` is a panic. -/
def shortConn (id : String) : Option String :=
  sliceTo id (min 8 (asBytes id).length)

structure Breadcrumb where
  id : String
  shown : String
  deriving DecidableEq, Repr

/-- A handler that writes to the log: it may fail with a status, or panic. -/
abbrev Logged := ExceptT Status (StateT (List Breadcrumb) Option)

-- The arguments of a line are evaluated only where its level is on.
def breadcrumb (info : Bool) (id : String) : Logged Unit :=
  ExceptT.mk fun log =>
    if info then (shortConn id).map fun shown => (.ok (), log ++ [⟨id, shown⟩]) else some (.ok (), log)

def breadcrumbed {Checked Result : Type} (info : Bool) (connectionId : String) (checks : Except Status Checked)
    (rest : Checked -> Logged Result) : Logged Result := do
  let checked ← ofExcept checks
  breadcrumb info connectionId
  rest checked

inductive Reply (State World : Type)
  | handled (handled : Handled State World)
  | layout (response : Layout.Response)
  | spaces (spaces : List Space)

variable {Backend State World : Type} (zellijValidate : String -> Except (List Piece) Unit)
  (backends : BackendSet Backend) (info : Bool) (service : MuxrService State World) (ticket : Ticket)
  (caller : Option Bool)

def goToTab (session connectionId : String) (tabId : UInt64) : Logged (Reply State World) :=
  breadcrumbed info connectionId
    (do
      rejectIfReadOnly caller
      resolveSession zellijValidate backends session)
    fun _ => pure (.handled (route service ticket session connectionId (.switchTab tabId)))

def focusPane (target : PaneTarget) : Logged (Reply State World) :=
  breadcrumbed info target.connectionId (resolveSession zellijValidate backends target.session) fun _ =>
    pure (.handled (route service ticket target.session target.connectionId (.focusPane target.pane)))

def getSpaces (session connectionId : String) (listed : Except String (List SpaceSnapshot))
    (viewState : ViewStateRegistry) : Logged (Reply State World) :=
  breadcrumbed info connectionId (resolveSession zellijValidate backends session) fun _ => do
    let spaces ← ofExcept (markedSpaces listed viewState session connectionId)
    return .spaces spaces

def switchSpace (session connectionId spaceId : String) : Logged (Reply State World) :=
  breadcrumbed info connectionId
    (do
      rejectIfReadOnly caller
      validateSpaceId spaceId
      resolveSession zellijValidate backends session)
    fun _ =>
      match resolveSpaceRelay service.control session connectionId with
      | none => do
        breadcrumb info connectionId
        return .handled (.acked reattachRequired, service)
      | some sender =>
        match service.channels.send sender (ticket, .switchSpace spaceId ticket.id) with
        | some channels => pure (.handled (.awaiting, { service with channels }))
        | none =>
          pure (.handled
            (.acked { ok := false, error := "SwitchSpace: relay unavailable (tearing down)", info := "" }, service))

structure LayoutAnswers where
  relay : Option LayoutSnapshot
  ephemeral : Except String LayoutSnapshot
  viewState : ViewStateRegistry

def getLayout (session connectionId : String) (answers : LayoutAnswers) : Logged (Reply State World) :=
  breadcrumbed info connectionId (resolveSession zellijValidate backends session) fun _ => do
    let ephemeral : Logged (LayoutSnapshot × Bool × String) := do
      let snapshot ← ofExcept (Layout.ephemeral answers.ephemeral)
      return (snapshot, false, "")
    let (snapshot, viaRelay, relayConnId) ←
      match Layout.relayEntry service.control session connectionId with
      | none => ephemeral
      | some (relayConnId, sender) =>
        match service.channels.send sender (ticket, .queryLayout ticket.id), answers.relay with
        | some _, some snapshot => pure (snapshot, true, relayConnId)
        | _, _ => ephemeral
    let view := Layout.relayView answers.viewState viaRelay connectionId relayConnId
    breadcrumb info relayConnId
    return .layout (Layout.respond view snapshot)

inductive Rpc
  | goToTab (session connectionId : String) (tabId : UInt64)
  | focusPane (target : PaneTarget)
  | getSpaces (session connectionId : String) (listed : Except String (List SpaceSnapshot))
    (viewState : ViewStateRegistry)
  | switchSpace (session connectionId spaceId : String)
  | getLayout (session connectionId : String) (answers : LayoutAnswers)

def Rpc.connectionId : Rpc -> String
  | .goToTab _ connectionId _ | .getSpaces _ connectionId _ _ | .switchSpace _ connectionId _
  | .getLayout _ connectionId _ => connectionId
  | .focusPane target => target.connectionId

def Rpc.checks : Rpc -> Except Status (Backend × String)
  | .goToTab session _ _ => do
    rejectIfReadOnly caller
    resolveSession zellijValidate backends session
  | .focusPane target => resolveSession zellijValidate backends target.session
  | .getSpaces session _ _ _ | .getLayout session _ _ => resolveSession zellijValidate backends session
  | .switchSpace session _ spaceId => do
    rejectIfReadOnly caller
    validateSpaceId spaceId
    resolveSession zellijValidate backends session

def handle : Rpc -> Logged (Reply State World)
  | .goToTab session connectionId tabId =>
    goToTab zellijValidate backends info service ticket caller session connectionId tabId
  | .focusPane target => focusPane zellijValidate backends info service ticket target
  | .getSpaces session connectionId listed viewState =>
    getSpaces zellijValidate backends info session connectionId listed viewState
  | .switchSpace session connectionId spaceId =>
    switchSpace zellijValidate backends info service ticket caller session connectionId spaceId
  | .getLayout session connectionId answers =>
    getLayout zellijValidate backends info service ticket session connectionId answers

end Source

section Logs

variable {Result Next : Type}

def Breadcrumb.Fits (line : Breadcrumb) : Prop :=
  (∃ rest, line.id = line.shown ++ rest) ∧ (asBytes line.shown).length ≤ 8

def runLogged (act : Logged Result) (log : List Breadcrumb) : Option (Except Status Result × List Breadcrumb) :=
  (act.run).run log

def Sound (act : Logged Result) : Prop :=
  ∀ log, (∀ line ∈ log, line.Fits) ->
    ∃ result after, runLogged act log = some (result, after) ∧ ∀ line ∈ after, line.Fits

theorem runLogged_bind (act : Logged Result) (next : Result -> Logged Next) (log : List Breadcrumb) :
    runLogged (act >>= next) log =
      (runLogged act log).bind fun
        | (.ok value, after) => runLogged (next value) after
        | (.error status, after) => some (.error status, after) := by
  simp only [runLogged, ExceptT.run_bind, StateT.run_bind]
  cases act.run.run log with
  | none => rfl
  | some ended =>
    obtain ⟨result, after⟩ := ended
    cases result <;> rfl

theorem runLogged_ofExcept (result : Except Status Result) (log : List Breadcrumb) :
    runLogged (ofExcept result) log = some (result, log) := by
  cases result <;> rfl

theorem Sound.pure (value : Result) : Sound (pure value) :=
  fun log fits => ⟨.ok value, log, rfl, fits⟩

theorem Sound.ofExcept (result : Except Status Result) : Sound (ofExcept result) :=
  fun log fits => ⟨result, log, runLogged_ofExcept result log, fits⟩

theorem Sound.bind {act : Logged Result} {next : Result -> Logged Next} (first : Sound act)
    (rest : ∀ value, Sound (next value)) : Sound (act >>= next) := by
  intro log fits
  obtain ⟨result, after, ran, afterFits⟩ := first log fits
  rw [runLogged_bind, ran]
  cases result with
  | ok value => exact rest value after afterFits
  | error status => exact ⟨.error status, after, rfl, afterFits⟩

variable {info : Bool} {id : String}

def CutsWell (id : String) : Prop :=
  isCharBoundary id (min 8 (asBytes id).length) = true

instance (id : String) : Decidable (CutsWell id) :=
  inferInstanceAs (Decidable (_ = true))

theorem shortConn_fits {shown : String} (cut : shortConn id = some shown) : Breadcrumb.Fits ⟨id, shown⟩ := by
  obtain ⟨parts, length⟩ := sliceTo_eq_some_iff.mp cut
  exact ⟨parts, length.trans_le (Nat.min_le_left _ _)⟩

theorem sound_breadcrumb (cuts : info = true -> CutsWell id) : Sound (breadcrumb info id) := by
  intro log fits
  cases info with
  | false => exact ⟨.ok (), log, rfl, fits⟩
  | true =>
    obtain ⟨shown, cut⟩ := Option.isSome_iff_exists.mp (sliceTo_isSome_iff.mpr (cuts rfl))
    refine ⟨.ok (), log ++ [⟨id, shown⟩], ?_, ?_⟩
    · change (shortConn id).map _ = _
      rw [shortConn, cut]
      rfl
    · intro line member
      rcases List.mem_append.mp member with earlier | last
      · exact fits line earlier
      · rw [List.mem_singleton.mp last]
        exact shortConn_fits cut

theorem breadcrumb_panics (bad : ¬ CutsWell id) (log : List Breadcrumb) :
    runLogged (breadcrumb true id) log = none := by
  have panics : shortConn id = none := by
    rw [shortConn, ← Option.not_isSome_iff_eq_none, sliceTo_isSome_iff]
    exact bad
  change (shortConn id).map _ = _
  rw [panics]
  rfl

theorem sound_breadcrumbed_iff {checks : Except Status Result} {rest : Result -> Logged Next}
    (later : (info = true -> CutsWell id) -> ∀ checked, Sound (rest checked)) :
    Sound (breadcrumbed info id checks rest) ↔
      (∃ status, checks = .error status) ∨ info = false ∨ CutsWell id := by
  unfold breadcrumbed
  constructor
  · intro sound
    obtain ⟨result, after, ran, _⟩ := sound [] (by simp)
    rw [runLogged_bind, runLogged_ofExcept] at ran
    cases checks with
    | error status => exact .inl ⟨status, rfl⟩
    | ok checked =>
      right
      by_contra bad
      rw [not_or, Bool.not_eq_false] at bad
      dsimp only [Option.bind_some] at ran
      rw [runLogged_bind, bad.1, breadcrumb_panics bad.2] at ran
      cases ran
  · rintro (⟨status, refused⟩ | cuts)
    · rw [refused]
      intro log fits
      exact ⟨.error status, log, by rw [runLogged_bind, runLogged_ofExcept]; rfl, fits⟩
    · have cuts : info = true -> CutsWell id := fun on => cuts.resolve_left (by simp [on])
      exact (Sound.ofExcept checks).bind fun checked => (sound_breadcrumb cuts).bind fun _ => later cuts checked

end Logs

section Minted

variable {Backend Answer State World : Type} {zellijValidate : String -> Except (List Piece) Unit}
  {backends : BackendSet Backend} {mux : MuxSender Answer State World} {service : MuxrService State World}

def Minted (service : MuxrService State World) : Prop :=
  ∀ key ∈ service.connections, ∃ random, key = mintConnectionId random

theorem settle_connections (connection : Connection State World) (event : Inbound.Event Answer) :
    (settle service connection event).connections = service.connections := by
  cases event <;> rfl

theorem Minted.store (minted : Minted service) {key : String} {connection now : Connection State World}
    (found : service.connections.lookup key = some now) {relay : Relay State World}
    (own : relay.connectionId = key) : Minted (store service connection relay) := by
  intro other member
  rcases (mem_store own).mp member with rfl | member
  · exact minted other (Visible.mem_iff_lookup.mpr ⟨now, found⟩)
  · exact minted other member

theorem step_minted (service : MuxrService State World) (event : Service.Event Answer State)
    (next : MuxrService State World) (known : Consistent service ∧ Minted service)
    (taken : step zellijValidate backends mux service event = some next) : Consistent next ∧ Minted next := by
  obtain ⟨consistent, minted⟩ := known
  refine ⟨step_consistent service event next consistent taken, ?_⟩
  cases event with
  | attach caller first size opened random channel =>
    obtain rfl | ⟨target, sender, _, _, rfl⟩ := attach_some taken
    · exact minted
    · intro other member
      rw [AList.mem_insert] at member
      rcases member with rfl | member
      · exact ⟨random, rfl⟩
      · exact minted other member
  | relay connectionId event =>
    obtain ⟨connection, found, taken⟩ := step_relay taken
    obtain ⟨relay, _, own, moved, rfl⟩ := relayStep_some taken
    have named : relay.connectionId = connectionId :=
      (congrArg Task.connectionId (step_frame own moved).1).trans (consistent.keyed _ _ found)
    have stored : Minted (store service connection relay) := minted.store found named
    unfold Minted
    rw [settle_connections]
    exact stored
  | dequeue connectionId query answer =>
    obtain ⟨connection, found, taken⟩ := step_dequeue taken
    obtain ⟨channel, ticket, cmd, rest, relay, _, _, moved, rfl⟩ := dequeue_some taken
    have named : relay.connectionId = connectionId :=
      (congrArg Task.connectionId (step_frame (by simp) moved).1).trans (consistent.keyed _ _ found)
    exact minted.store found named
  | rpc id caller request =>
    obtain ⟨_, ⟨outcome, after, handled, rfl⟩ | rfl⟩ := step_rpc taken
    · rcases handle_cases handled with rfl | ⟨_, _, _, _, _, rfl, _⟩ | ⟨_, _, _, _, _, _, _, rfl⟩
      · exact minted
      · exact minted
      · exact minted
    · exact minted
  | repoint id listed =>
    obtain ⟨_, _, rfl | ⟨_, _, _, _, rfl⟩⟩ := repoint_some taken
    · exact minted
    · exact minted
  | elsewhere answer => exact Option.some.inj taken ▸ minted
  | reorder control =>
    obtain ⟨_, rfl⟩ := step_reorder taken
    exact minted

theorem minted_of_reachable (reached : Reachable zellijValidate backends mux service) : Minted service := by
  obtain ⟨world, reached⟩ := reached
  have start : Consistent (empty world : MuxrService State World) ∧ Minted (empty world : MuxrService State World) :=
    ⟨Consistent.empty world, fun key member => absurd member (by simp [Service.empty])⟩
  exact (Transition.invariant_of_reachable step_minted start reached).2

theorem minted_cutsWell (random : BitVec 128) : CutsWell (mintConnectionId random) := by
  have digits (value : Nat) : (Registry.hexDigit value).utf8Size = 1 := by
    have all : ∀ digit : Fin 16, ("0123456789abcdef".toList.getD digit.val '0').utf8Size = 1 := by decide
    exact all ⟨value % 16, Nat.mod_lt value (by decide)⟩
  apply isCharBoundary_ascii
  · intro c member
    rw [mintConnectionId, String.toList_ofList] at member
    obtain ⟨index, _, rfl⟩ := List.mem_map.mp member
    exact digits _
  · exact Nat.min_le_right _ _

theorem relayEntry_cutsWell (reached : Reachable zellijValidate backends mux service)
    {session connectionId relayConnId : String} {sender : Nat}
    (chosen : Layout.relayEntry service.control session connectionId = some (relayConnId, sender)) :
    CutsWell relayConnId := by
  obtain ⟨entry, registered, _, _⟩ := relayEntry_some chosen
  obtain ⟨connection, found, _⟩ := (consistent_of_reachable reached).registered relayConnId entry registered
  obtain ⟨random, rfl⟩ := minted_of_reachable reached relayConnId (Visible.mem_iff_lookup.mpr ⟨connection, found⟩)
  exact minted_cutsWell random

end Minted

section Calls

variable {Backend Answer State World : Type} {zellijValidate : String -> Except (List Piece) Unit}
  {backends : BackendSet Backend} {mux : MuxSender Answer State World} {service : MuxrService State World}

theorem switchSpace_sound_iff (info : Bool) (ticket : Ticket) (caller : Option Bool)
    (session connectionId spaceId : String) :
    Sound (handle zellijValidate backends info service ticket caller (.switchSpace session connectionId spaceId)) ↔
      (∃ status, (Rpc.switchSpace session connectionId spaceId).checks zellijValidate backends caller =
        .error status) ∨ info = false ∨ CutsWell connectionId := by
  apply sound_breadcrumbed_iff
  intro cuts _
  split
  · exact (sound_breadcrumb cuts).bind fun _ => .pure _
  · split <;> exact .pure _

theorem getLayout_sound_iff (reached : Reachable zellijValidate backends mux service) (info : Bool)
    (ticket : Ticket) (caller : Option Bool) (session connectionId : String) (answers : LayoutAnswers) :
    Sound (handle zellijValidate backends info service ticket caller (.getLayout session connectionId answers)) ↔
      (∃ status, (Rpc.getLayout session connectionId answers).checks zellijValidate backends caller =
        .error status) ∨ info = false ∨ CutsWell connectionId := by
  apply sound_breadcrumbed_iff
  intro _ _
  have responds (snapshot : LayoutSnapshot) (viaRelay : Bool) (relayConnId : String) (cuts : CutsWell relayConnId) :
      Sound (do
        breadcrumb info relayConnId
        return (.layout
          (Layout.respond (Layout.relayView answers.viewState viaRelay connectionId relayConnId) snapshot) :
          Reply State World)) :=
    (sound_breadcrumb fun _ => cuts).bind fun _ => .pure _
  have unrelayed : CutsWell "" := by decide
  cases chosen : Layout.relayEntry service.control session connectionId with
  | none =>
    simp only [bind_assoc, pure_bind]
    exact (Sound.ofExcept _).bind fun snapshot => responds snapshot false "" unrelayed
  | some relay =>
    obtain ⟨relayConnId, sender⟩ := relay
    dsimp only
    split
    · rw [pure_bind]
      exact responds _ true relayConnId (relayEntry_cutsWell reached chosen)
    · simp only [bind_assoc, pure_bind]
      exact (Sound.ofExcept _).bind fun snapshot => responds snapshot false "" unrelayed

/-- A call that names its connection in the log answers, and shows no more than it may, if and only if it is
refused before, or the level is off, or the id has no character across its eighth byte. -/
theorem connection_id_logged_iff (reached : Reachable zellijValidate backends mux service) (info : Bool)
    (ticket : Ticket) (caller : Option Bool) (rpc : Rpc) :
    Sound (handle zellijValidate backends info service ticket caller rpc) ↔
      (∃ status, rpc.checks zellijValidate backends caller = .error status) ∨ info = false ∨
        CutsWell rpc.connectionId := by
  cases rpc with
  | goToTab session connectionId tabId => exact sound_breadcrumbed_iff fun _ _ => .pure _
  | focusPane target => exact sound_breadcrumbed_iff fun _ _ => .pure _
  | getSpaces session connectionId listed viewState =>
    exact sound_breadcrumbed_iff fun _ _ => (Sound.ofExcept _).bind fun _ => .pure _
  | switchSpace session connectionId spaceId =>
    exact switchSpace_sound_iff info ticket caller session connectionId spaceId
  | getLayout session connectionId answers =>
    exact getLayout_sound_iff reached info ticket caller session connectionId answers

def attaching : List (Service.Event (Except String Unit) Unit) :=
  [.attach (some false) (.frame (.attach { session := "herdr:herdr", rows := 24, cols := 80 })) none (.ok ()) 1 0,
    .relay (mintConnectionId 1) (.initialised (.error "no layout"))]

def attachedService : MuxrService Unit Unit :=
  (Transition.run (Service.step (fun _ => .ok ()) herdrOnly (MuxSender.answering true)) (empty ()) attaching).getD
    (empty ())

def ownTab : Rpc :=
  .goToTab "herdr:herdr" (mintConnectionId 1) 7

theorem connection_id_logged_iff_minted :
    (∃ ack after, runLogged (handle (fun _ => .ok ()) herdrOnly true attachedService (ticketOf 0 (some false))
        (some false) ownTab) [] = some (.ok (.handled (.acked ack, after)), [⟨mintConnectionId 1, "00000000"⟩]) ∧
      ack.ok = true ∧
      nextCommand after (mintConnectionId 1) = some (ticketOf 0 (some false), .switchTab 7)) ∧
    Sound (handle (fun _ => .ok ()) herdrOnly true attachedService (ticketOf 0 (some false)) (some false) ownTab) := by
  have reached : Reachable (fun _ => .ok ()) herdrOnly (MuxSender.answering true) attachedService :=
    ⟨(), attaching, rfl⟩
  have logged := connection_id_logged_iff reached true (ticketOf 0 (some false)) (some false) ownTab
  exact ⟨⟨_, _, rfl, rfl, rfl⟩, logged.mpr (.inr (.inr (minted_cutsWell 1)))⟩

def focusedByEuro : Rpc :=
  .focusPane { session := "herdr:herdr", connectionId := "abcdefg€", pane := .terminal 1 }

/-- Seven letters and a sign of three bytes: the cut at eight falls inside the sign. -/
theorem euro_panics :
    runLogged (handle (fun _ => .ok ()) herdrOnly true (empty () : MuxrService Unit Unit) (ticketOf 0 (some true))
        (some true) focusedByEuro) [] = none ∧
      ¬ Sound (handle (fun _ => .ok ()) herdrOnly true (empty () : MuxrService Unit Unit) (ticketOf 0 (some true))
        (some true) focusedByEuro) := by
  have panics : runLogged (handle (fun _ => .ok ()) herdrOnly true (empty () : MuxrService Unit Unit)
      (ticketOf 0 (some true)) (some true) focusedByEuro) [] = none := rfl
  refine ⟨panics, fun sound => ?_⟩
  obtain ⟨result, after, ran, _⟩ := sound [] (fun line member => nomatch member)
  rw [panics] at ran
  cases ran

end Calls

section Agreement

variable {Backend State World : Type} {zellijValidate : String -> Except (List Piece) Unit}
  {backends : BackendSet Backend} {service : MuxrService State World} {info : Bool} {ticket : Ticket}
  {caller : Option Bool}

theorem breadcrumb_ok {id : String} {log after : List Breadcrumb} {result : Except Status Unit}
    (ran : runLogged (breadcrumb info id) log = some (result, after)) : result = .ok () := by
  change (if info then (shortConn id).map _ else _) = _ at ran
  split_ifs at ran
  · obtain ⟨shown, _, same⟩ := Option.map_eq_some_iff.mp ran
    exact (Prod.mk.inj same).1.symm
  · exact (Prod.mk.inj (Option.some.inj ran)).1.symm

theorem breadcrumbed_ended {Checked Result : Type} {connectionId : String} {checks : Except Status Checked}
    {rest : Checked -> Logged Result} {answer : Checked -> Result} {log after : List Breadcrumb}
    {result : Except Status Result}
    (answers : ∀ checked named, runLogged (rest checked) named = some (result, after) -> result = .ok (answer checked))
    (ran : runLogged (breadcrumbed info connectionId checks rest) log = some (result, after)) :
    result = checks.map answer := by
  unfold breadcrumbed at ran
  rw [runLogged_bind, runLogged_ofExcept] at ran
  cases checks with
  | error status => exact (Prod.mk.inj (Option.some.inj ran)).1.symm
  | ok checked =>
    dsimp only [Option.bind_some] at ran
    rw [runLogged_bind, Option.bind_eq_some_iff] at ran
    obtain ⟨⟨named, later⟩, logged, ran⟩ := ran
    rw [breadcrumb_ok logged] at ran
    exact answers checked later ran

theorem result_of_pure {Result : Type} {value : Result} {log after : List Breadcrumb} {result : Except Status Result}
    (ran : runLogged (pure value) log = some (result, after)) : result = .ok value :=
  (Prod.mk.inj (Option.some.inj ran)).1.symm

def Rpc.request : Rpc -> Option Request
  | .goToTab session connectionId tabId => some (.goToTab session connectionId tabId)
  | .focusPane target => some (.focusPane target)
  | .switchSpace session connectionId spaceId => some (.switchSpace session connectionId spaceId)
  | .getSpaces _ _ _ _ | .getLayout _ _ _ => none

theorem goToTab_checked (session connectionId : String) (tabId : UInt64) :
    Service.goToTab zellijValidate backends service ticket caller session connectionId tabId =
      ((Rpc.goToTab session connectionId tabId).checks zellijValidate backends caller).map fun _ =>
        route service ticket session connectionId (.switchTab tabId) := by
  simp only [Service.goToTab, Rpc.checks]
  cases rejectIfReadOnly caller with
  | error status => rfl
  | ok writable => cases resolveSession zellijValidate backends session <;> rfl

theorem focusPane_checked (target : PaneTarget) :
    Service.focusPane zellijValidate backends service ticket target =
      ((Rpc.focusPane target).checks zellijValidate backends caller).map fun _ =>
        route service ticket target.session target.connectionId (.focusPane target.pane) := by
  simp only [Service.focusPane, Rpc.checks]
  cases resolveSession zellijValidate backends target.session <;> rfl

def switched (service : MuxrService State World) (ticket : Ticket) (session connectionId spaceId : String) :
    Handled State World :=
  match resolveSpaceRelay service.control session connectionId with
  | none => (.acked reattachRequired, service)
  | some sender =>
    match service.channels.send sender (ticket, .switchSpace spaceId ticket.id) with
    | some channels => (.awaiting, { service with channels })
    | none => (.acked { ok := false, error := "SwitchSpace: relay unavailable (tearing down)", info := "" }, service)

theorem switchSpace_checked (session connectionId spaceId : String) :
    Service.switchSpace zellijValidate backends service ticket caller session connectionId spaceId =
      ((Rpc.switchSpace session connectionId spaceId).checks zellijValidate backends caller).map fun _ =>
        switched service ticket session connectionId spaceId := by
  simp only [Service.switchSpace, Rpc.checks, switched]
  cases rejectIfReadOnly caller with
  | error status => rfl
  | ok writable =>
    cases validateSpaceId spaceId with
    | error status => rfl
    | ok valid =>
      cases resolveSession zellijValidate backends session with
      | error status => rfl
      | ok resolved =>
        cases resolveSpaceRelay service.control session connectionId with
        | none => rfl
        | some sender =>
          dsimp only [bind, Except.bind, Except.map]
          cases service.channels.send sender (ticket, .switchSpace spaceId ticket.id) <;> rfl

theorem map_handled {Checked : Type} (checks : Except Status Checked) (answer : Checked -> Handled State World) :
    (checks.map answer).map Reply.handled = checks.map fun checked => .handled (answer checked) := by
  cases checks <;> rfl

theorem handle_agrees {rpc : Rpc} {request : Request} {log after : List Breadcrumb}
    {result : Except Status (Reply State World)} (same : rpc.request = some request)
    (ran : runLogged (handle zellijValidate backends info service ticket caller rpc) log = some (result, after)) :
    result = (Service.handle zellijValidate backends service ticket caller request).map .handled := by
  cases rpc with
  | goToTab session connectionId tabId =>
    rw [← Option.some.inj same, Service.handle, goToTab_checked, map_handled]
    exact breadcrumbed_ended (fun _ _ ran => result_of_pure ran) ran
  | focusPane target =>
    rw [← Option.some.inj same, Service.handle, @focusPane_checked _ _ _ _ _ _ _ caller, map_handled]
    exact breadcrumbed_ended (fun _ _ ran => result_of_pure ran) ran
  | switchSpace session connectionId spaceId =>
    rw [← Option.some.inj same, Service.handle, switchSpace_checked, map_handled]
    refine breadcrumbed_ended (fun _ named ran => ?_) ran
    unfold switched
    split at ran
    · next unmatched =>
      rw [runLogged_bind, Option.bind_eq_some_iff] at ran
      obtain ⟨⟨done, later⟩, logged, ran⟩ := ran
      rw [breadcrumb_ok logged] at ran
      exact result_of_pure ran
    · next sender matched =>
      split at ran
      · next channels sent => exact result_of_pure ran
      · next closed => exact result_of_pure ran
  | getSpaces => cases same
  | getLayout => cases same

end Agreement

end Muxrd.Breadcrumbs
