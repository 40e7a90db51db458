import Muxrd.Grpc.Moves

set_option autoImplicit false

namespace Muxrd.Acknowledged

open Routing Inbound Attach Helpers Service

def routed : Request -> Option (String × String × RelayControl)
  | .goToTab session connectionId tabId => some (session, connectionId, .switchTab tabId)
  | .focusPane target => some (target.session, target.connectionId, .focusPane target.pane)
  | .togglePaneFullscreen req =>
    req.target.map fun target => (target.session, target.connectionId, .toggleFullscreen target.pane req.hint)
  | _ => none

def namesReader (control : ControlRegistry) (session connectionId : String) : Bool :=
  connectionId ≠ "" &&
    (control.lookup connectionId).any fun entry => entry.session = session && entry.readOnly

variable {control : ControlRegistry} {session connectionId : String} {sender : Nat}

theorem chosenSender_reader (chosen : chosenSender control session connectionId = some sender) :
    ∃ key entry, control.lookup key = some entry ∧ entry.sender = sender ∧
      entry.readOnly = namesReader control session connectionId := by
  unfold chosenSender at chosen
  cases exact : exactSender control session connectionId with
  | some own =>
    obtain ⟨named, entry, found, same, taken⟩ := exactSender_some.mp exact
    refine ⟨connectionId, entry, found, ?_, ?_⟩
    · simpa [exact, taken] using chosen
    · simp [namesReader, named, found, same]
  | none =>
    have unnamed : namesReader control session connectionId = false := by
      by_contra reader
      have named : ∃ own, exactSender control session connectionId = some own := by
        simp only [namesReader, Bool.not_eq_false, Bool.and_eq_true, decide_eq_true_eq] at reader
        obtain ⟨named, hit⟩ := reader
        cases found : control.lookup connectionId with
        | none => simp [found] at hit
        | some entry =>
          simp only [found, Option.any_some, Bool.and_eq_true, decide_eq_true_eq] at hit
          exact ⟨entry.sender, exactSender_some.mpr ⟨named, entry, found, hit.1, rfl⟩⟩
      obtain ⟨own, hit⟩ := named
      simp [exact] at hit
    rw [exact, Option.none_or] at chosen
    split_ifs at chosen
    obtain ⟨key, entry, found, _, writable, taken⟩ := fallbackSender_some chosen
    exact ⟨key, entry, found, taken, writable.trans unnamed.symm⟩

section Routed

variable {Backend State World : Type} {zellijValidate : String -> Except (List Piece) Unit}
  {backends : BackendSet Backend} {service after : MuxrService State World} {ticket : Ticket}
  {caller : Option Bool} {request : Request} {cmd : RelayControl} {ack : ProtoAck}

theorem route_acked (acked : route service ticket session connectionId cmd = (.acked ack, after))
    (ok : ack.ok = true) :
    ∃ sender channels, chosenSender service.control session connectionId = some sender ∧
      service.channels.send sender (ticket, cmd) = some channels ∧ after = { service with channels } := by
  by_cases unsent : ∀ sender, chosenSender service.control session connectionId = some sender ->
      service.channels.send sender (ticket, cmd) = none
  · unfold route at acked
    rw [tryRouteControl_unsent unsent] at acked
    unfold unrouted at acked
    split_ifs at acked
    · have refused : reattachRequired = ack := by simpa using congrArg (·.1) acked
      rw [← refused] at ok
      contradiction
    · simp at acked
  · push Not at unsent
    obtain ⟨sender, chosen, delivers⟩ := unsent
    obtain ⟨channels, delivered⟩ := Option.ne_none_iff_exists'.mp delivers
    obtain ⟨info, taken⟩ := tryRouteControl_sent chosen delivered
    unfold route at acked
    rw [taken] at acked
    exact ⟨sender, channels, chosen, delivered, (Prod.mk.inj acked).2.symm⟩

theorem handle_acked (named : routed request = some (session, connectionId, cmd))
    (handled : handle zellijValidate backends service ticket caller request = .ok (.acked ack, after))
    (ok : ack.ok = true) :
    (caller = some false ∨ openToReaders cmd = true) ∧
      ∃ sender channels, chosenSender service.control session connectionId = some sender ∧
        service.channels.send sender (ticket, cmd) = some channels ∧ after = { service with channels } := by
  cases request with
  | goToTab asked other tabId =>
    obtain ⟨rfl, rfl, rfl⟩ : asked = session ∧ other = connectionId ∧ .switchTab tabId = cmd := by
      simpa [routed] using named
    obtain ⟨_, gate, rest⟩ := bind_ok.mp handled
    obtain ⟨_, _, answered⟩ := bind_ok.mp rest
    exact ⟨.inl ((rejectIfReadOnly_ok caller).mp gate), route_acked (Except.ok.inj answered) ok⟩
  | focusPane target =>
    obtain ⟨rfl, rfl, rfl⟩ : target.session = session ∧ target.connectionId = connectionId ∧
        .focusPane target.pane = cmd := by simpa [routed] using named
    obtain ⟨_, _, answered⟩ := bind_ok.mp handled
    exact ⟨.inr rfl, route_acked (Except.ok.inj answered) ok⟩
  | togglePaneFullscreen req =>
    obtain ⟨target, given, same⟩ := Option.map_eq_some_iff.mp named
    obtain ⟨rfl, rfl, rfl⟩ : target.session = session ∧ target.connectionId = connectionId ∧
        .toggleFullscreen target.pane req.hint = cmd := by simpa using same
    obtain ⟨_, gate, rest⟩ := bind_ok.mp handled
    rw [given] at rest
    obtain ⟨_, _, answered⟩ := bind_ok.mp rest
    exact ⟨.inl ((rejectIfReadOnly_ok caller).mp gate), route_acked (Except.ok.inj answered) ok⟩
  | switchSpace | closeSpace | getLayout | backend => contradiction

theorem routed_asks (named : routed request = some (session, connectionId, cmd)) {query : FloatQuery}
    (timely : ∀ pane, cmd = .toggleFullscreen pane none -> query ≠ .timedOut) :
    ∃ call, asks query cmd = some call ∧ call ≠ .queryLayout := by
  cases cmd with
  | switchTab tabId => exact ⟨.goToTab tabId, rfl, by simp⟩
  | focusPane pane => exact ⟨.focusPane pane, rfl, by simp⟩
  | toggleFullscreen pane hint =>
    cases hint with
    | some hint => exact ⟨_, rfl, by simp⟩
    | none =>
      cases query with
      | timedOut => exact absurd rfl (timely pane rfl)
      | failed => exact ⟨_, rfl, by simp⟩
      | answered => exact ⟨_, rfl, by simp⟩
  | switchSpace | queryLayout => cases request <;> simp [routed] at named

end Routed

section Carried

variable {Backend Answer State World : Type} {zellijValidate : String -> Except (List Piece) Unit}
  {backends : BackendSet Backend} {mux : MuxSender Answer State World}

/-- The command of the request is in the one channel it was sent to, if it still waits, and the relay
behind this channel has the flag it had. -/
structure Carried (sender : Nat) (command : Command) (readOnly : Bool) (service : MuxrService State World) :
    Prop where
  consistent : Consistent service
  passed : command.1.id < service.nextTicket
  channel : sender ∈ service.channels
  waiting : ∀ name channel, service.channels.lookup name = some channel -> ∀ other ∈ channel.queue,
    other.1.id = command.1.id -> name = sender ∧ other = command
  own : service.repoints.lookup command.1.id = none
  reader : ∀ key connection, service.connections.lookup key = some connection ->
    connection.channel = sender -> connection.relay.readOnly = readOnly

theorem carried_step {command : Command} {readOnly : Bool} (service : MuxrService State World)
    (event : Service.Event Answer State) (next : MuxrService State World)
    (carried : Carried sender command readOnly service)
    (taken : Service.step zellijValidate backends mux service event = some next) :
    Carried sender command readOnly next := by
  have moves := step_moves carried.consistent taken
  constructor
  · exact step_consistent service event next carried.consistent taken
  · exact lt_of_lt_of_le carried.passed moves.later
  · exact moves.kept sender carried.channel
  · intro name channel looked other member same
    rcases moves.queued name channel looked other member with ⟨old, found, before⟩ | new | repointed
    · exact carried.waiting name old found other before same
    · have passed := carried.passed
      omega
    · rw [same, carried.own] at repointed
      contradiction
  · cases waiting : next.repoints.lookup command.1.id with
    | none => rfl
    | some target =>
      rcases moves.repointed _ target waiting with before | new
      · rw [carried.own] at before
        contradiction
      · have passed := carried.passed
        omega
  · intro key connection found same
    rcases moves.connected key connection found with ⟨old, was, channel, flag⟩ | new
    · exact flag.trans (carried.reader key old was (channel.symm.trans same))
    · rw [same] at new
      exact absurd carried.channel new

theorem carried_routed {service : MuxrService State World} (consistent : Consistent service)
    {command : Command} (numbered : service.nextTicket ≤ command.1.id)
    (admissible : command.1.readOnlyCaller = true -> openToReaders command.2 = true)
    {channels : Channels Command} (sent : service.channels.send sender command = some channels)
    {key : String} {entry : ControlEntry} (registered : service.control.lookup key = some entry)
    (chosen : entry.sender = sender) :
    Carried sender command entry.readOnly { service with channels, nextTicket := command.1.id + 1 } := by
  obtain ⟨connection, found, rfl⟩ := consistent.registered key entry registered
  obtain ⟨channel, looked, _, rfl⟩ := Channels.send_eq_some.mp sent
  have unused (name : Nat) (old : Channel Command) (there : service.channels.lookup name = some old)
      (other : Command) (member : other ∈ old.queue) : other.1.id ≠ command.1.id := by
    have earlier := (consistent.queued name old there other member).1
    omega
  constructor
  · exact consistent.send sent (by omega) ⟨by simp, admissible⟩
  · simp
  · simp [AList.mem_insert]
  · intro name old there other member same
    by_cases here : name = sender
    · subst here
      rw [AList.lookup_insert] at there
      rw [← Option.some.inj there, List.mem_append, List.mem_singleton] at member
      rcases member with before | new
      · exact absurd same (unused name channel looked other before)
      · exact ⟨rfl, new⟩
    · rw [AList.lookup_insert_ne here] at there
      exact absurd same (unused name old there other member)
  · cases waiting : service.repoints.lookup command.1.id with
    | none => rfl
    | some target =>
      have earlier := (consistent.repointed _ target waiting).1
      omega
  · intro other old there same
    obtain rfl := consistent.distinct other key old connection there found (same.trans chosen.symm)
    rw [found] at there
    rw [← Option.some.inj there]
    rfl

theorem dequeue_spec {service next : MuxrService State World} {key : String} {query : FloatQuery}
    {answer : Answer} (consistent : Consistent service) {command : Command}
    (waiting : nextCommand service key = some command)
    (taken : Service.step zellijValidate backends mux service (.dequeue key query answer) = some next) :
    ∃ connection channel, service.connections.lookup key = some connection ∧
      service.channels.lookup connection.channel = some channel ∧ command ∈ channel.queue ∧
      match connection.relay.readOnly, asks query command.2 with
      | false, some call => callsOf next key = callsOf service key ++ [(.command command.1, call)]
      | _, _ => callsOf next key = callsOf service key ∨
          callsOf next key = callsOf service key ++ [(.command command.1, .queryLayout)] := by
  obtain ⟨connection, channel, rest, found, looked, queue, rfl⟩ := dequeue_taken waiting taken
  have keyed := consistent.keyed key connection found
  refine ⟨connection, channel, found, looked, by simp [queue], ?_⟩
  have spec := onControl_spec mux command.1 command.2 query answer (load service connection.relay)
  have before : callsOf service key = connection.relay.calls := by simp [callsOf, found]
  have named (after : Relay State World) (continues : Continues (load service connection.relay) after)
      (channels : Channels Command) :
      callsOf { store service connection after with channels } key = after.calls := by
    have own : after.connectionId = key := (congrArg Task.connectionId continues.task).trans keyed
    simp [callsOf, store, own]
  have flag : (load service connection.relay).readOnly = connection.relay.readOnly := rfl
  rw [flag] at spec
  rw [before, named _ (onControl_continues mux command.1 command.2 query answer _)]
  cases gate : connection.relay.readOnly with
  | true =>
    rw [gate] at spec
    exact spec.calls
  | false =>
    cases asked : asks query command.2 with
    | some call =>
      rw [gate, asked] at spec
      exact spec.calls
    | none =>
      rw [gate, asked] at spec
      exact spec.calls

end Carried

theorem acknowledged_command_runs {Backend Answer State World : Type}
    {zellijValidate : String -> Except (List Piece) Unit} {backends : BackendSet Backend}
    {mux : MuxSender Answer State World} {service : MuxrService State World}
    (reached : Reachable zellijValidate backends mux service)
    {id : Nat} (numbered : service.nextTicket ≤ id) {caller : Option Bool} {request : Request}
    {cmd : RelayControl} (named : routed request = some (session, connectionId, cmd))
    {ack : ProtoAck} {after : MuxrService State World}
    (handled : handle zellijValidate backends service (ticketOf id caller) caller request =
      .ok (.acked ack, after))
    (ok : ack.ok = true)
    {events : List (Service.Event Answer State)} {later next : MuxrService State World}
    (ran : Transition.run (Service.step zellijValidate backends mux) { after with nextTicket := id + 1 } events =
      some later)
    {key : String} {command : Command} (waiting : nextCommand later key = some command)
    (own : command.1.id = id) {query : FloatQuery} {answer : Answer}
    (taken : Service.step zellijValidate backends mux later (.dequeue key query answer) = some next)
    (timely : ∀ pane, cmd = .toggleFullscreen pane none -> query ≠ .timedOut) :
    (∃ call, asks query cmd = some call ∧
        callsOf next key = callsOf later key ++ [(.command (ticketOf id caller), call)]) ↔
      namesReader service.control session connectionId = false := by
  have consistent := consistent_of_reachable reached
  obtain ⟨gate, sender, channels, chosen, sent, rfl⟩ := handle_acked named handled ok
  obtain ⟨target, entry, registered, behind, flag⟩ := chosenSender_reader chosen
  have admissible : (ticketOf id caller).readOnlyCaller = true -> openToReaders cmd = true := by
    intro reader
    rcases gate with writable | opened
    · simp [ticketOf, writable] at reader
    · exact opened
  have started := carried_routed consistent numbered admissible sent registered behind
  have carried := Transition.invariant_of_run carried_step started ran
  obtain ⟨connection, channel, found, looked, member, performed⟩ :=
    dequeue_spec carried.consistent waiting taken
  obtain ⟨here, rfl⟩ := carried.waiting _ channel looked command member own
  rw [carried.reader key connection found here, flag] at performed
  obtain ⟨call, asked, other⟩ := routed_asks named timely
  rw [asked] at performed
  cases reader : namesReader service.control session connectionId with
  | false =>
    rw [reader] at performed
    simp only [iff_true]
    exact ⟨call, asked, performed⟩
  | true =>
    rw [reader] at performed
    simp only [Bool.true_eq_false, iff_false]
    rintro ⟨made, same, calls⟩
    rw [asked] at same
    obtain rfl := Option.some.inj same
    rcases performed with still | queried
    · rw [still] at calls
      simp at calls
    · rw [queried] at calls
      simp [Ne.symm other] at calls

section Observer

def zellijOnly : BackendSet Unit :=
  { backends := [(.zellij, ())], nonempty := by simp }

def anyName (_ : String) : Except (List Piece) Unit := .ok ()

abbrev Answered := Except String Unit

def stepOf : MuxrService Unit Unit -> Service.Event Answered Unit -> Option (MuxrService Unit Unit) :=
  Service.step anyName zellijOnly (MuxSender.answering false)

def attachBy (caller : Option Bool) (random : BitVec 128) (channel : Nat) :
    List (Service.Event Answered Unit) :=
  [.attach caller (.frame (.attach { session := "zellij:dev", rows := 24, cols := 80 })) none (.ok ()) random
      channel,
    .relay (Registry.mintConnectionId random) (.initialised (.error "no layout"))]

def attachedBy (caller : Option Bool) : MuxrService Unit Unit :=
  (Transition.run stepOf (empty ()) (attachBy caller 1 0)).getD (empty ())

def focusOwn : Request :=
  .focusPane { session := "zellij:dev", connectionId := Registry.mintConnectionId 1, pane := .terminal 4 }

/-- The command of a FocusPane of a read-only client that names its own connection is acknowledged, taken
and dropped. -/
theorem observer_focus_dropped :
    Transition.run stepOf (empty ()) (attachBy (some true) 1 0) = some (attachedBy (some true)) ∧
      ∃ ack after next, handle anyName zellijOnly (attachedBy (some true)) (ticketOf 0 (some true)) (some true)
          focusOwn = .ok (.acked ack, after) ∧ ack.ok = true ∧
        nextCommand after (Registry.mintConnectionId 1) = some (ticketOf 0 (some true), .focusPane (.terminal 4)) ∧
        stepOf { after with nextTicket := 1 } (.dequeue (Registry.mintConnectionId 1) .failed (.ok ())) = some next ∧
        callsOf next (Registry.mintConnectionId 1) = [] :=
  ⟨rfl, _, _, _, rfl, rfl, rfl, rfl, rfl⟩

theorem acknowledged_command_runs_own :
    ∃ ack after next, handle anyName zellijOnly (attachedBy (some false)) (ticketOf 0 (some false)) (some false)
        focusOwn = .ok (.acked ack, after) ∧ ack.ok = true ∧
      stepOf { after with nextTicket := 1 } (.dequeue (Registry.mintConnectionId 1) .failed (.ok ())) = some next ∧
      ∃ call, asks .failed (.focusPane (.terminal 4)) = some call ∧
        callsOf next (Registry.mintConnectionId 1) = [(.command (ticketOf 0 (some false)), call)] := by
  have reached : Reachable anyName zellijOnly (MuxSender.answering false) (attachedBy (some false)) :=
    ⟨(), attachBy (some false) 1 0, rfl⟩
  have runs := acknowledged_command_runs reached (Nat.le_refl 0) (rfl : routed focusOwn = some _)
    (rfl : handle anyName zellijOnly (attachedBy (some false)) (ticketOf 0 (some false)) (some false) focusOwn = _)
    rfl (Transition.run_nil _) (rfl : nextCommand _ (Registry.mintConnectionId 1) = some _) rfl
    (rfl : Service.step _ _ _ _ (.dequeue _ .failed (.ok ())) = some _) (by simp)
  exact ⟨_, _, _, rfl, rfl, rfl, runs.mpr rfl⟩

end Observer

end Muxrd.Acknowledged
