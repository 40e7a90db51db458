import Muxrd.Grpc.Service
import Muxrd.Lib.Visible
import Muxrd.Relay.Commands

set_option autoImplicit false

namespace Muxrd.Service

open Routing Inbound Attach Helpers Visible
open Registry (mintConnectionId)

def Request.sender (control : ControlRegistry) : Request -> Option Nat
  | .goToTab session connectionId _ => chosenSender control session connectionId
  | .focusPane target => chosenSender control target.session target.connectionId
  | .togglePaneFullscreen req =>
    req.target.bind fun target => chosenSender control target.session target.connectionId
  | .switchSpace session connectionId _ => Spaces.resolveSpaceRelay control session connectionId
  | .closeSpace session connectionId _ _ _ => Spaces.resolveSpaceRelay control session connectionId
  | .getLayout session connectionId => (Layout.relayEntry control session connectionId).map (·.2)
  | .backend _ => none

def Request.command (ticket : Ticket) : Request -> Option RelayControl
  | .goToTab _ _ tabId => some (.switchTab tabId)
  | .focusPane target => some (.focusPane target.pane)
  | .togglePaneFullscreen req => req.target.map fun target => .toggleFullscreen target.pane req.hint
  | .switchSpace _ _ spaceId => some (.switchSpace spaceId ticket.id)
  | .getLayout _ _ => some (.queryLayout ticket.id)
  | .closeSpace _ _ _ _ _ | .backend _ => none

section Store

variable {State World : Type} {service : MuxrService State World} {connection : Connection State World}
  {relay : Relay State World} {key other : String}

theorem store_own (own : relay.connectionId = key) :
    (store service connection relay).connections.lookup key = some { connection with relay } := by
  rw [store, own, AList.lookup_insert]

theorem store_other (own : relay.connectionId = key) (different : other ≠ key) :
    (store service connection relay).connections.lookup other = service.connections.lookup other := by
  rw [store, own, AList.lookup_insert_ne different]

theorem mem_store (own : relay.connectionId = key) :
    other ∈ (store service connection relay).connections ↔ other = key ∨ other ∈ service.connections := by
  rw [store, own, AList.mem_insert]

end Store

section Taken

variable {Backend Answer State World : Type} {zellijValidate : String -> Except (List Piece) Unit}
  {backends : BackendSet Backend} {mux : MuxSender Answer State World} {service next : MuxrService State World}
  {connection : Connection State World} {key : String}

theorem attach_some {caller : Option Bool} {first : FirstFrame} {size : Option (UInt16 × UInt16)}
    {opened : Except String State} {random : BitVec 128} {channel : Nat}
    (taken : attach zellijValidate backends mux service caller first size opened random channel = some next) :
    next = service ∨
      ∃ target sender, mintConnectionId random ∉ service.connections ∧ channel ∉ service.channels ∧
        next = { service with
          connections := service.connections.insert (mintConnectionId random)
            { channel
              relay := attached mux (target : Opening Backend) (mintConnectionId random) sender service.world
                service.viewState }
          channels := service.channels.insert channel { queue := [], receiverAlive := true } } := by
  unfold attach at taken
  split at taken
  next target sender _ =>
    split_ifs at taken with used
    push Not at used
    exact .inr ⟨target, sender, used.1, used.2, (Option.some.inj taken).symm⟩
  · exact .inl (Option.some.inj taken).symm

theorem relayStep_some {event : Inbound.Event Answer} (taken : relayStep mux service connection event = some next) :
    ∃ relay, isOwn event = true ∧ (∀ other entry, event ≠ .sibling other entry) ∧
      Inbound.step mux (load service connection.relay) event = some relay ∧
      next = settle (store service connection relay) connection event := by
  unfold relayStep at taken
  split_ifs at taken with allowed
  obtain ⟨relay, moved, same⟩ := Option.map_eq_some_iff.mp taken
  refine ⟨relay, allowed, ?_, moved, same.symm⟩
  rintro other entry rfl
  contradiction

theorem dequeue_some {query : FloatQuery} {answer : Answer}
    (taken : dequeue mux service connection query answer = some next) :
    ∃ channel ticket cmd rest relay, service.channels.lookup connection.channel = some channel ∧
      channel.queue = (ticket, cmd) :: rest ∧
      Inbound.step mux (load service connection.relay) (.command ticket cmd query answer) = some relay ∧
      next = { store service connection relay with
        channels := service.channels.insert connection.channel { channel with queue := rest } } := by
  unfold dequeue at taken
  split at taken
  next channel looked =>
    split at taken
    next ticket cmd rest waiting =>
      obtain ⟨relay, moved, same⟩ := Option.map_eq_some_iff.mp taken
      exact ⟨channel, ticket, cmd, rest, relay, looked, waiting, moved, same.symm⟩
    · contradiction
  · contradiction

theorem repoint_some {id : Nat} {listed : Except String (List SpaceSnapshot)}
    (taken : repoint service id listed = some next) :
    ∃ sender, service.repoints.lookup id = some sender ∧
      (next = { service with repoints := service.repoints.erase id } ∨
        ∃ target channels, repointTarget listed = some target ∧
          service.channels.send sender (⟨id, false⟩, .switchSpace target id) = some channels ∧
          next = { service with repoints := service.repoints.erase id, channels }) := by
  unfold repoint at taken
  split at taken
  next sender waiting =>
    refine ⟨sender, waiting, ?_⟩
    dsimp only at taken
    split at taken
    next target aimed =>
      split at taken
      next channels sent => exact .inr ⟨target, channels, aimed, sent, (Option.some.inj taken).symm⟩
      · exact .inl (Option.some.inj taken).symm
    · exact .inl (Option.some.inj taken).symm
  · contradiction

theorem step_relay {event : Inbound.Event Answer}
    (taken : step zellijValidate backends mux service (.relay key event) = some next) :
    ∃ connection, service.connections.lookup key = some connection ∧
      relayStep mux service connection event = some next := by
  simp only [step] at taken
  split at taken
  next connection found => exact ⟨connection, found, taken⟩
  · contradiction

theorem step_reorder {control : ControlRegistry}
    (taken : step zellijValidate backends mux service (.reorder control) = some next) :
    (∀ key, control.lookup key = service.control.lookup key) ∧ next = { service with control } := by
  simp only [step] at taken
  split_ifs at taken with same
  exact ⟨fun key => AList.perm_lookup same, (Option.some.inj taken).symm⟩

theorem step_dequeue {query : FloatQuery} {answer : Answer}
    (taken : step zellijValidate backends mux service (.dequeue key query answer) = some next) :
    ∃ connection, service.connections.lookup key = some connection ∧
      dequeue mux service connection query answer = some next := by
  simp only [step] at taken
  split at taken
  next connection found => exact ⟨connection, found, taken⟩
  · contradiction

theorem step_rpc {id : Nat} {caller : Option Bool} {request : Request}
    (taken : step zellijValidate backends mux service (.rpc id caller request) = some next) :
    service.nextTicket ≤ id ∧
      ((∃ outcome after,
        handle zellijValidate backends service (ticketOf id caller) caller request = .ok (outcome, after) ∧
          next = { after with nextTicket := id + 1 }) ∨
        next = { service with nextTicket := id + 1 }) := by
  simp only [step] at taken
  split_ifs at taken with numbered
  refine ⟨numbered, ?_⟩
  split at taken
  next outcome after handled => exact .inl ⟨outcome, after, handled, (Option.some.inj taken).symm⟩
  · exact .inr (Option.some.inj taken).symm

end Taken

section Senders

variable {control : ControlRegistry} {session connectionId : String} {sender : Nat}

theorem resolveSpaceRelay_some
    (resolved : Spaces.resolveSpaceRelay control session connectionId = some sender) :
    ∃ entry, control.lookup connectionId = some entry ∧ entry.session = session ∧ entry.sender = sender := by
  unfold Spaces.resolveSpaceRelay at resolved
  split_ifs at resolved
  split at resolved
  next entry found =>
    split_ifs at resolved with same
    exact ⟨entry, found, same, Option.some.inj resolved⟩
  · contradiction

theorem chosenSender_some (chosen : chosenSender control session connectionId = some sender) :
    ∃ key entry, control.lookup key = some entry ∧ entry.session = session ∧ entry.sender = sender := by
  unfold chosenSender at chosen
  cases exact : exactSender control session connectionId with
  | some own =>
    obtain ⟨_, entry, found, same, taken⟩ := exactSender_some.mp exact
    refine ⟨connectionId, entry, found, same, ?_⟩
    simpa [exact, taken] using chosen
  | none =>
    rw [exact, Option.none_or] at chosen
    split_ifs at chosen
    obtain ⟨key, entry, found, same, _, taken⟩ := fallbackSender_some chosen
    exact ⟨key, entry, found, same, taken⟩

theorem relayEntry_some {key : String}
    (chosen : Layout.relayEntry control session connectionId = some (key, sender)) :
    ∃ entry, control.lookup key = some entry ∧ entry.session = session ∧ entry.sender = sender := by
  unfold Layout.relayEntry at chosen
  cases exact : Layout.exactRelay control session connectionId with
  | some own =>
    obtain ⟨_, entry, found, same, taken⟩ := Layout.exactRelay_some.mp exact
    have target : own = (key, sender) := by simpa [exact] using chosen
    rw [target] at taken
    obtain ⟨rfl, rfl⟩ := Prod.mk.inj taken
    exact ⟨entry, found, same, rfl⟩
  | none =>
    apply Layout.sessionRelay_some
    simpa [exact] using chosen

end Senders

def openToReaders : RelayControl -> Bool
  | .focusPane _ | .queryLayout _ => true
  | _ => false

section Handled

variable {Backend State World : Type} {zellijValidate : String -> Except (List Piece) Unit}
  {backends : BackendSet Backend} {service after : MuxrService State World} {ticket : Ticket}
  {caller : Option Bool} {request : Request} {outcome : Outcome}

theorem route_cases (session connectionId : String) (cmd : RelayControl)
    (routed : route service ticket session connectionId cmd = (outcome, after)) :
    after = service ∨
      ∃ sender channels, chosenSender service.control session connectionId = some sender ∧
        service.channels.send sender (ticket, cmd) = some channels ∧ after = { service with channels } := by
  unfold route at routed
  by_cases unsent : ∀ sender, chosenSender service.control session connectionId = some sender ->
      service.channels.send sender (ticket, cmd) = none
  · left
    rw [tryRouteControl_unsent unsent] at routed
    split at routed
    next same =>
      rw [← (Prod.mk.inj routed).2, ← (Prod.mk.inj same).2]
    next same =>
      rw [← (Prod.mk.inj routed).2, ← (Prod.mk.inj same).2]
  · right
    push Not at unsent
    obtain ⟨sender, chosen, delivers⟩ := unsent
    obtain ⟨channels, delivered⟩ := Option.ne_none_iff_exists'.mp delivers
    obtain ⟨info, taken⟩ := tryRouteControl_sent chosen delivered
    rw [taken] at routed
    exact ⟨sender, channels, chosen, delivered, (Prod.mk.inj routed).2.symm⟩

theorem handle_sends
    (handled : handle zellijValidate backends service ticket caller request = .ok (outcome, after)) :
    after = service ∨
      (∃ sender cmd channels, request.sender service.control = some sender ∧
        request.command ticket = some cmd ∧ service.channels.send sender (ticket, cmd) = some channels ∧
        after = { service with channels } ∧ (caller = some false ∨ openToReaders cmd = true)) ∨
      ∃ session connectionId sender, request.command ticket = none ∧ caller = some false ∧
        (Spaces.connectionCurrentSpace service.viewState session connectionId).isSome = true ∧
        Spaces.resolveSpaceRelay service.control session connectionId = some sender ∧
        request.sender service.control = some sender ∧
        after = { service with repoints := service.repoints.insert ticket.id sender } := by
  have writable (gate : rejectIfReadOnly caller = .ok ()) : caller = some false :=
    (rejectIfReadOnly_ok caller).mp gate
  cases request with
  | goToTab session connectionId tabId =>
    obtain ⟨_, gate, rest⟩ := bind_ok.mp handled
    obtain ⟨_, _, routed⟩ := bind_ok.mp rest
    rcases route_cases session connectionId _ (Except.ok.inj routed) with
      same | ⟨sender, channels, chosen, sent, moved⟩
    · exact .inl same
    · exact .inr (.inl ⟨sender, _, channels, chosen, rfl, sent, moved, .inl (writable gate)⟩)
  | focusPane target =>
    obtain ⟨_, _, routed⟩ := bind_ok.mp handled
    rcases route_cases _ _ _ (Except.ok.inj routed) with same | ⟨sender, channels, chosen, sent, moved⟩
    · exact .inl same
    · exact .inr (.inl ⟨sender, _, channels, chosen, rfl, sent, moved, .inr rfl⟩)
  | togglePaneFullscreen req =>
    obtain ⟨_, gate, rest⟩ := bind_ok.mp handled
    cases named : req.target with
    | none => simp [named, throw, throwThe, MonadExceptOf.throw] at rest
    | some target =>
      rw [named] at rest
      obtain ⟨_, _, routed⟩ := bind_ok.mp rest
      rcases route_cases _ _ _ (Except.ok.inj routed) with same | ⟨sender, channels, chosen, sent, moved⟩
      · exact .inl same
      · refine .inr (.inl ⟨sender, _, channels, ?_, ?_, sent, moved, .inl (writable gate)⟩)
        · simpa [Request.sender, named] using chosen
        · simp [Request.command, named]
  | switchSpace session connectionId spaceId =>
    obtain ⟨_, gate, rest⟩ := bind_ok.mp handled
    obtain ⟨_, _, rest⟩ := bind_ok.mp rest
    obtain ⟨_, _, answered⟩ := bind_ok.mp rest
    split at answered
    · exact .inl (Prod.mk.inj (Except.ok.inj answered)).2.symm
    next sender resolved =>
      split at answered
      next channels sent =>
        have moved := (Prod.mk.inj (Except.ok.inj answered)).2.symm
        exact .inr (.inl ⟨sender, _, channels, resolved, rfl, sent, moved, .inl (writable gate)⟩)
      · exact .inl (Prod.mk.inj (Except.ok.inj answered)).2.symm
  | closeSpace session connectionId spaceId listed closed =>
    obtain ⟨_, gate, rest⟩ := bind_ok.mp handled
    obtain ⟨_, _, rest⟩ := bind_ok.mp rest
    obtain ⟨_, _, answered⟩ := bind_ok.mp rest
    split at answered
    · contradiction
    · split_ifs at answered
      · exact .inl (Prod.mk.inj (Except.ok.inj answered)).2.symm
      · split at answered
        · contradiction
        · split_ifs at answered
          · have moved := (Prod.mk.inj (Except.ok.inj answered)).2.symm
            unfold startRepoint at moved
            split_ifs at moved with viewing
            · split at moved
              next sender resolved =>
                refine .inr (.inr ⟨session, connectionId, sender, rfl, writable gate, ?_, resolved, resolved, moved⟩)
                simp [viewing]
              · exact .inl moved
            · exact .inl moved
          · exact .inl (Prod.mk.inj (Except.ok.inj answered)).2.symm
  | getLayout session connectionId =>
    obtain ⟨_, _, answered⟩ := bind_ok.mp handled
    split at answered
    · exact .inl (Prod.mk.inj (Except.ok.inj answered)).2.symm
    next key sender chosen =>
      split at answered
      next channels sent =>
        have moved := (Prod.mk.inj (Except.ok.inj answered)).2.symm
        refine .inr (.inl ⟨sender, _, channels, ?_, rfl, sent, moved, .inr rfl⟩)
        simp [Request.sender, chosen]
      · exact .inl (Prod.mk.inj (Except.ok.inj answered)).2.symm
  | backend rpc =>
    left
    obtain ⟨_, _, answered⟩ := bind_ok.mp handled
    exact (Prod.mk.inj (Except.ok.inj answered)).2.symm

theorem handle_cases
    (handled : handle zellijValidate backends service ticket caller request = .ok (outcome, after)) :
    after = service ∨
      (∃ sender cmd channels, request.sender service.control = some sender ∧
        service.channels.send sender (ticket, cmd) = some channels ∧ after = { service with channels } ∧
        (caller = some false ∨ openToReaders cmd = true)) ∨
      ∃ session connectionId sender, caller = some false ∧
        (Spaces.connectionCurrentSpace service.viewState session connectionId).isSome = true ∧
        Spaces.resolveSpaceRelay service.control session connectionId = some sender ∧
        request.sender service.control = some sender ∧
        after = { service with repoints := service.repoints.insert ticket.id sender } := by
  rcases handle_sends handled with same | ⟨sender, cmd, channels, chosen, _, rest⟩ |
    ⟨session, connectionId, sender, _, rest⟩
  · exact .inl same
  · exact .inr (.inl ⟨sender, cmd, channels, chosen, rest⟩)
  · exact .inr (.inr ⟨session, connectionId, sender, rest⟩)

end Handled

section Consistency

variable {State World : Type}

-- A queued command is of an earlier request, and of one that its caller may make.
def Admissible (nextTicket : Nat) (command : Command) : Prop :=
  command.1.id < nextTicket ∧ (command.1.readOnlyCaller = true -> openToReaders command.2 = true)

structure Consistent (service : MuxrService State World) : Prop where
  keyed : ∀ key connection, service.connections.lookup key = some connection ->
    connection.relay.connectionId = key
  registered : ∀ key entry, service.control.lookup key = some entry ->
    ∃ connection, service.connections.lookup key = some connection ∧ entry = connection.entry
  owned : ∀ key connection, service.connections.lookup key = some connection ->
    connection.channel ∈ service.channels
  distinct : ∀ first second left right, service.connections.lookup first = some left ->
    service.connections.lookup second = some right -> left.channel = right.channel -> first = second
  viewed : ∀ key entry, service.viewState.lookup key = some entry -> key ∈ service.connections
  spaceless : ∀ key connection entry, service.connections.lookup key = some connection ->
    connection.relay.readOnly = true -> service.viewState.lookup key = some entry ->
    entry.state.currentSpace = none
  repointed : ∀ id sender, service.repoints.lookup id = some sender ->
    id < service.nextTicket ∧ ∃ key connection, service.connections.lookup key = some connection ∧
      connection.channel = sender ∧ connection.relay.readOnly = false
  queued : ∀ name channel, service.channels.lookup name = some channel ->
    ∀ command ∈ channel.queue, Admissible service.nextTicket command

theorem Consistent.empty (world : World) : Consistent (empty world : MuxrService State World) := by
  constructor <;> simp [Service.empty]

variable {service : MuxrService State World}

theorem Consistent.of_control (consistent : Consistent service) {control : ControlRegistry}
    (registered : ∀ key entry, control.lookup key = some entry ->
      ∃ connection, service.connections.lookup key = some connection ∧ entry = connection.entry) :
    Consistent { service with control } :=
  { consistent with registered }

theorem Consistent.of_channels (consistent : Consistent service) {channels : Channels Command}
    {nextTicket : Nat}
    (later : service.nextTicket ≤ nextTicket) (kept : ∀ name ∈ service.channels, name ∈ channels)
    (queued : ∀ name channel, channels.lookup name = some channel ->
      ∀ command ∈ channel.queue, Admissible nextTicket command) :
    Consistent { service with channels, nextTicket } := by
  refine { consistent with owned := ?_, repointed := ?_, queued }
  · exact fun key connection found => kept _ (consistent.owned key connection found)
  · intro id sender waiting
    obtain ⟨earlier, target⟩ := consistent.repointed id sender waiting
    exact ⟨lt_of_lt_of_le earlier later, target⟩

theorem Admissible.later {command : Command} {nextTicket later : Nat}
    (admissible : Admissible nextTicket command)
    (le : nextTicket ≤ later) : Admissible later command :=
  ⟨lt_of_lt_of_le admissible.1 le, admissible.2⟩

theorem Consistent.send (consistent : Consistent service) {sender : Nat} {command : Command}
    {channels : Channels Command} (sent : service.channels.send sender command = some channels)
    {nextTicket : Nat}
    (later : service.nextTicket ≤ nextTicket) (admissible : Admissible nextTicket command) :
    Consistent { service with channels, nextTicket } := by
  obtain ⟨channel, found, _, rfl⟩ := Channels.send_eq_some.mp sent
  apply consistent.of_channels later
  · exact fun name member => Channels.send_keeps sent member
  · intro name other looked queued member
    by_cases same : name = sender
    · subst same
      rw [AList.lookup_insert] at looked
      rw [← Option.some.inj looked, List.mem_append, List.mem_singleton] at member
      rcases member with before | rfl
      · exact (consistent.queued name channel found queued before).later later
      · exact admissible
    · rw [AList.lookup_insert_ne same] at looked
      exact (consistent.queued name other looked queued member).later later

theorem Consistent.shrink (consistent : Consistent service) {name : Nat} {channel next : Channel Command}
    (found : service.channels.lookup name = some channel)
    (fewer : ∀ command ∈ next.queue, command ∈ channel.queue) :
    Consistent { service with channels := service.channels.insert name next } := by
  apply consistent.of_channels le_rfl
  · exact fun other member => by simp [AList.mem_insert, member]
  · intro other old looked command member
    by_cases same : other = name
    · subst same
      rw [AList.lookup_insert] at looked
      rw [← Option.some.inj looked] at member
      exact consistent.queued other channel found command (fewer command member)
    · rw [AList.lookup_insert_ne same] at looked
      exact consistent.queued other old looked command member

theorem Consistent.dropReceiver (consistent : Consistent service) (name : Nat) :
    Consistent { service with channels := dropReceiver service.channels name } := by
  unfold Service.dropReceiver
  split
  next channel found => exact consistent.shrink found fun _ member => member
  · exact consistent

theorem Consistent.store (consistent : Consistent service) {key : String}
    {connection : Connection State World}
    (found : service.connections.lookup key = some connection) {relay : Relay State World}
    (task : relay.task = connection.relay.task)
    (others : ∀ other, other ≠ key -> relay.viewState.lookup other = service.viewState.lookup other)
    (spaceless : connection.relay.readOnly = true -> ∀ entry, relay.viewState.lookup key = some entry ->
      entry.state.currentSpace = none) :
    Consistent (store service connection relay) := by
  have own : relay.connectionId = key :=
    (congrArg Task.connectionId task).trans (consistent.keyed key connection found)
  have readOnly : relay.readOnly = connection.relay.readOnly := congrArg Task.readOnly task
  have entry : ({ connection with relay } : Connection State World).entry = connection.entry := by
    unfold Connection.entry
    rw [readOnly, show relay.session = connection.relay.session from congrArg Task.session task]
  have before (other : String) (looked : Connection State World)
      (there : (Service.store service connection relay).connections.lookup other = some looked) :
      ∃ old, service.connections.lookup other = some old ∧ looked.channel = old.channel ∧
        looked.relay.readOnly = old.relay.readOnly ∧ (other ≠ key -> looked = old) := by
    by_cases same : other = key
    · subst same
      rw [store_own own] at there
      rw [← Option.some.inj there]
      exact ⟨connection, found, rfl, readOnly, fun different => absurd rfl different⟩
    · rw [store_other own same] at there
      exact ⟨looked, there, rfl, rfl, fun _ => rfl⟩
  have after (other : String) (old : Connection State World)
      (there : service.connections.lookup other = some old) :
      ∃ looked, (Service.store service connection relay).connections.lookup other = some looked ∧
        looked.entry = old.entry ∧ looked.channel = old.channel ∧ looked.relay.readOnly = old.relay.readOnly := by
    by_cases same : other = key
    · subst same
      obtain rfl : connection = old := by
        rw [found] at there
        exact Option.some.inj there
      refine ⟨{ connection with relay }, ?_, entry, rfl, readOnly⟩
      rw [store_own own]
    · refine ⟨old, ?_, rfl, rfl, rfl⟩
      rw [store_other own same]
      exact there
  constructor
  · intro other looked there
    by_cases same : other = key
    · subst same
      rw [store_own own] at there
      rw [← Option.some.inj there]
      exact own
    · obtain ⟨old, was, _, _, equal⟩ := before other looked there
      rw [equal same]
      exact consistent.keyed other old was
  · intro other registered there
    obtain ⟨old, was, equal⟩ := consistent.registered other registered there
    obtain ⟨looked, is, same, _⟩ := after other old was
    exact ⟨looked, is, equal.trans same.symm⟩
  · intro other looked there
    obtain ⟨old, was, channel, _⟩ := before other looked there
    rw [channel]
    exact consistent.owned other old was
  · intro first second left right isLeft isRight shared
    obtain ⟨oldLeft, wasLeft, channelLeft, _⟩ := before first left isLeft
    obtain ⟨oldRight, wasRight, channelRight, _⟩ := before second right isRight
    exact consistent.distinct first second oldLeft oldRight wasLeft wasRight
      (channelLeft.symm.trans (shared.trans channelRight))
  · intro other view shown
    by_cases same : other = key
    · subst same
      simp [mem_store own]
    · simp [mem_store own, consistent.viewed other view (by rw [← others other same]; exact shown)]
  · intro other looked view there flag shown
    obtain ⟨old, was, _, flags, _⟩ := before other looked there
    by_cases same : other = key
    · subst same
      obtain rfl : connection = old := by
        rw [found] at was
        exact Option.some.inj was
      exact spaceless (flags.symm.trans flag) view shown
    · apply consistent.spaceless other old view was (flags.symm.trans flag)
      rw [← others other same]
      exact shown
  · intro id sender waiting
    obtain ⟨earlier, other, old, was, channel, writable⟩ := consistent.repointed id sender waiting
    obtain ⟨looked, is, _, same, flags⟩ := after other old was
    exact ⟨earlier, other, looked, is, same.trans channel, flags.trans writable⟩
  · exact consistent.queued

theorem stepped_frame {Answer : Type} {mux : MuxSender Answer State World} (consistent : Consistent service)
    {key : String} {connection : Connection State World}
    (found : service.connections.lookup key = some connection) {event : Inbound.Event Answer}
    (own : ∀ other entry, event ≠ .sibling other entry) {relay : Relay State World}
    (taken : Inbound.step mux (load service connection.relay) event = some relay) :
    relay.task = connection.relay.task ∧
      ∀ other, other ≠ key -> relay.viewState.lookup other = service.viewState.lookup other := by
  have frame := step_frame own taken
  refine ⟨frame.1, ?_⟩
  intro other different
  apply frame.2
  rw [← consistent.keyed key connection found] at different
  exact different

theorem stepped {Answer : Type} {mux : MuxSender Answer State World} (consistent : Consistent service)
    {key : String} {connection : Connection State World}
    (found : service.connections.lookup key = some connection) {event : Inbound.Event Answer}
    (own : ∀ other entry, event ≠ .sibling other entry) {relay : Relay State World}
    (taken : Inbound.step mux (load service connection.relay) event = some relay) :
    Consistent (store service connection relay) := by
  have keyed := consistent.keyed key connection found
  obtain ⟨task, others⟩ := stepped_frame consistent found own taken
  apply consistent.store found task others
  intro readOnly entry shown
  have spaceless (view : ViewStateEntry)
      (there : (load service connection.relay).viewState.lookup (load service connection.relay).connectionId =
        some view) : view.state.currentSpace = none := by
    apply consistent.spaceless key connection view found readOnly
    rw [← keyed]
    exact there
  have loaded : (load service connection.relay).readOnly = true := readOnly
  apply step_spaceless loaded own taken spaceless
  rw [← keyed] at shown
  exact shown

theorem Consistent.settle {Answer : Type} (consistent : Consistent service) {key : String}
    {connection now : Connection State World} (found : service.connections.lookup key = some now)
    (same : now.entry = connection.entry) (keyed : connection.relay.connectionId = key)
    (event : Inbound.Event Answer) : Consistent (settle service connection event) := by
  cases event with
  | initialised layout =>
    apply consistent.of_control
    intro other entry registered
    by_cases here : other = key
    · subst here
      rw [keyed, AList.lookup_insert] at registered
      exact ⟨now, found, (Option.some.inj registered).symm.trans same.symm⟩
    · rw [keyed, AList.lookup_insert_ne here] at registered
      exact consistent.registered other entry registered
  | deregister =>
    apply consistent.of_control
    intro other entry registered
    by_cases here : other = key
    · subst here
      rw [keyed, AList.lookup_erase] at registered
      contradiction
    · rw [keyed, AList.lookup_erase_ne here] at registered
      exact consistent.registered other entry registered
  | dropGuard | cancelled => exact consistent.dropReceiver connection.channel
  | _ => exact consistent

variable {Backend Answer : Type} {zellijValidate : String -> Except (List Piece) Unit}
  {backends : BackendSet Backend} {mux : MuxSender Answer State World}

theorem attach_consistent (consistent : Consistent service) {caller : Option Bool} {first : FirstFrame}
    {size : Option (UInt16 × UInt16)} {opened : Except String State} {random : BitVec 128} {channel : Nat}
    {next : MuxrService State World}
    (taken : attach zellijValidate backends mux service caller first size opened random channel = some next) :
    Consistent next := by
  obtain rfl | ⟨target, sender, unminted, unused, rfl⟩ := attach_some taken
  · exact consistent
  · have fresh (other : String) (connection : Connection State World)
        (found : service.connections.lookup other = some connection) :
        other ≠ mintConnectionId random ∧ connection.channel ≠ channel := by
      constructor
      · intro same
        apply unminted
        rw [← same]
        exact mem_iff_lookup.mpr ⟨_, found⟩
      · intro same
        exact unused (same ▸ consistent.owned other connection found)
    constructor
    · intro other connection found
      by_cases new : other = mintConnectionId random
      · subst new
        rw [AList.lookup_insert] at found
        rw [← Option.some.inj found]
        rfl
      · rw [AList.lookup_insert_ne new] at found
        exact consistent.keyed other connection found
    · intro other entry registered
      obtain ⟨connection, found, same⟩ := consistent.registered other entry registered
      refine ⟨connection, ?_, same⟩
      rw [AList.lookup_insert_ne (fresh other connection found).1]
      exact found
    · intro other connection found
      by_cases new : other = mintConnectionId random
      · subst new
        rw [AList.lookup_insert] at found
        rw [← Option.some.inj found]
        simp [AList.mem_insert]
      · rw [AList.lookup_insert_ne new] at found
        simp [AList.mem_insert, consistent.owned other connection found]
    · intro left right leftConnection rightConnection foundLeft foundRight shared
      by_cases newLeft : left = mintConnectionId random <;> by_cases newRight : right = mintConnectionId random
      · rw [newLeft, newRight]
      · subst newLeft
        rw [AList.lookup_insert] at foundLeft
        rw [AList.lookup_insert_ne newRight] at foundRight
        have other := (fresh right rightConnection foundRight).2
        rw [← shared, ← Option.some.inj foundLeft] at other
        contradiction
      · subst newRight
        rw [AList.lookup_insert] at foundRight
        rw [AList.lookup_insert_ne newLeft] at foundLeft
        have other := (fresh left leftConnection foundLeft).2
        rw [shared, ← Option.some.inj foundRight] at other
        contradiction
      · rw [AList.lookup_insert_ne newLeft] at foundLeft
        rw [AList.lookup_insert_ne newRight] at foundRight
        exact consistent.distinct left right leftConnection rightConnection foundLeft foundRight shared
    · intro other entry shown
      simp [AList.mem_insert, consistent.viewed other entry shown]
    · intro other connection entry found readOnly shown
      have old : other ≠ mintConnectionId random := fun same => unminted (same ▸ consistent.viewed other entry shown)
      rw [AList.lookup_insert_ne old] at found
      exact consistent.spaceless other connection entry found readOnly shown
    · intro id sender waiting
      obtain ⟨earlier, other, connection, found, same, writable⟩ := consistent.repointed id sender waiting
      refine ⟨earlier, other, connection, ?_, same, writable⟩
      rw [AList.lookup_insert_ne (fresh other connection found).1]
      exact found
    · intro name old looked command member
      by_cases new : name = channel
      · subst new
        rw [AList.lookup_insert] at looked
        rw [← Option.some.inj looked] at member
        contradiction
      · rw [AList.lookup_insert_ne new] at looked
        exact consistent.queued name old looked command member

theorem relayStep_consistent (consistent : Consistent service) {key : String}
    {connection : Connection State World} (found : service.connections.lookup key = some connection)
    {event : Inbound.Event Answer} {next : MuxrService State World}
    (taken : relayStep mux service connection event = some next) : Consistent next := by
  obtain ⟨relay, _, own, moved, rfl⟩ := relayStep_some taken
  have task := (step_frame own moved).1
  have keyed := consistent.keyed key connection found
  have named : relay.connectionId = key := (congrArg Task.connectionId task).trans keyed
  have same : ({ connection with relay } : Connection State World).entry = connection.entry := by
    unfold Connection.entry
    rw [show relay.readOnly = connection.relay.readOnly from congrArg Task.readOnly task,
      show relay.session = connection.relay.session from congrArg Task.session task]
  exact (stepped consistent found own moved).settle (store_own named) same keyed event

theorem dequeue_consistent (consistent : Consistent service) {key : String}
    {connection : Connection State World} (found : service.connections.lookup key = some connection)
    {query : FloatQuery} {answer : Answer} {next : MuxrService State World}
    (taken : dequeue mux service connection query answer = some next) : Consistent next := by
  obtain ⟨channel, ticket, cmd, rest, relay, looked, waiting, moved, rfl⟩ := dequeue_some taken
  apply (stepped consistent found (by simp) moved).shrink looked
  intro command member
  rw [waiting]
  exact List.mem_cons_of_mem _ member

theorem repoint_consistent (consistent : Consistent service) {id : Nat}
    {listed : Except String (List SpaceSnapshot)} {next : MuxrService State World}
    (taken : repoint service id listed = some next) : Consistent next := by
  obtain ⟨sender, waiting, outcome⟩ := repoint_some taken
  have rest : Consistent { service with repoints := service.repoints.erase id } := by
    refine { consistent with repointed := ?_ }
    intro other target still
    by_cases same : other = id
    · subst same
      rw [AList.lookup_erase] at still
      contradiction
    · rw [AList.lookup_erase_ne same] at still
      exact consistent.repointed other target still
  rcases outcome with rfl | ⟨target, channels, _, sent, rfl⟩
  · exact rest
  · have earlier := (consistent.repointed id sender waiting).1
    exact rest.send sent le_rfl ⟨earlier, by simp⟩

theorem rpc_consistent (consistent : Consistent service) {id : Nat} (numbered : service.nextTicket ≤ id)
    {caller : Option Bool} {request : Request} {outcome : Outcome} {after : MuxrService State World}
    (handled : handle zellijValidate backends service (ticketOf id caller) caller request = .ok (outcome, after)) :
    Consistent { after with nextTicket := id + 1 } := by
  have later : service.nextTicket ≤ id + 1 := by omega
  have counted : Consistent { service with nextTicket := id + 1 } :=
    consistent.of_channels later (fun _ member => member) fun name channel looked command member =>
      (consistent.queued name channel looked command member).later later
  rcases handle_cases handled with rfl | ⟨sender, cmd, channels, _, sent, rfl, gate⟩ |
    ⟨session, connectionId, sender, writable, viewing, resolved, _, rfl⟩
  · exact counted
  · apply consistent.send sent later
    refine ⟨Nat.lt_succ_self id, ?_⟩
    intro reader
    rcases gate with writable | opened
    · simp [ticketOf, writable] at reader
    · exact opened
  · refine { counted with repointed := ?_ }
    intro other target waiting
    by_cases same : other = id
    · subst same
      rw [ticketOf, AList.lookup_insert] at waiting
      obtain rfl := Option.some.inj waiting
      refine ⟨Nat.lt_succ_self _, ?_⟩
      obtain ⟨entry, registered, _, rfl⟩ := resolveSpaceRelay_some resolved
      obtain ⟨connection, found, rfl⟩ := consistent.registered connectionId entry registered
      refine ⟨connectionId, connection, found, rfl, ?_⟩
      -- A read-only relay views no space, so it is never the one to re-point.
      by_contra readOnly
      unfold Spaces.connectionCurrentSpace at viewing
      split_ifs at viewing
      · simp at viewing
      · split at viewing
        next view shown =>
          have spaceless := consistent.spaceless connectionId connection view found (by simpa using readOnly) shown
          simp [spaceless] at viewing
        · simp at viewing
    · rw [ticketOf, AList.lookup_insert_ne same] at waiting
      obtain ⟨earlier, there⟩ := consistent.repointed other target waiting
      exact ⟨lt_of_lt_of_le earlier later, there⟩

theorem step_consistent (service : MuxrService State World) (event : Event Answer State)
    (next : MuxrService State World) (consistent : Consistent service)
    (taken : step zellijValidate backends mux service event = some next) : Consistent next := by
  cases event with
  | attach => exact attach_consistent consistent taken
  | relay connectionId event =>
    obtain ⟨connection, found, taken⟩ := step_relay taken
    exact relayStep_consistent consistent found taken
  | dequeue connectionId query answer =>
    obtain ⟨connection, found, taken⟩ := step_dequeue taken
    exact dequeue_consistent consistent found taken
  | rpc id caller request =>
    obtain ⟨numbered, ⟨outcome, after, handled, rfl⟩ | rfl⟩ := step_rpc taken
    · exact rpc_consistent consistent numbered handled
    · have later : service.nextTicket ≤ id + 1 := by omega
      exact consistent.of_channels later (fun _ member => member) fun name channel looked command member =>
        (consistent.queued name channel looked command member).later later
  | repoint id listed => exact repoint_consistent consistent taken
  | elsewhere answer => exact Option.some.inj taken ▸ { consistent with }
  | reorder control =>
    obtain ⟨same, rfl⟩ := step_reorder taken
    apply consistent.of_control
    intro key entry registered
    exact consistent.registered key entry (same key ▸ registered)

theorem consistent_of_reachable (reached : Reachable zellijValidate backends mux service) :
    Consistent service := by
  obtain ⟨world, reached⟩ := reached
  exact Transition.invariant_of_reachable step_consistent (Consistent.empty world) reached

end Consistency

end Muxrd.Service
