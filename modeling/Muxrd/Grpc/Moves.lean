import Muxrd.Grpc.Consistency
import Muxrd.Relay.ReadOnly

set_option autoImplicit false

namespace Muxrd.Service

open Routing Inbound Attach Helpers
open Registry (mintConnectionId)

variable {State World : Type}

structure Moves (service next : MuxrService State World) : Prop where
  later : service.nextTicket ≤ next.nextTicket
  kept : ∀ name ∈ service.channels, name ∈ next.channels
  queued : ∀ name channel, next.channels.lookup name = some channel -> ∀ command ∈ channel.queue,
    (∃ old, service.channels.lookup name = some old ∧ command ∈ old.queue) ∨
      service.nextTicket ≤ command.1.id ∨ (service.repoints.lookup command.1.id).isSome = true
  connected : ∀ key connection, next.connections.lookup key = some connection ->
    (∃ old, service.connections.lookup key = some old ∧ connection.channel = old.channel ∧
      connection.relay.readOnly = old.relay.readOnly) ∨ connection.channel ∉ service.channels
  repointed : ∀ id sender, next.repoints.lookup id = some sender ->
    service.repoints.lookup id = some sender ∨ service.nextTicket ≤ id
  made : ∀ key ticket call, (.command ticket, call) ∈ callsOf next key ->
    (.command ticket, call) ∈ callsOf service key ∨
      ∃ name channel cmd, service.channels.lookup name = some channel ∧ (ticket, cmd) ∈ channel.queue
  mutated : ∀ key connection entry, next.connections.lookup key = some connection ->
    connection.relay.readOnly = true -> entry ∈ connection.relay.calls -> entry.2.isMutating = true ->
    ∃ old, service.connections.lookup key = some old ∧ old.relay.readOnly = true ∧ entry ∈ old.relay.calls

variable {service next : MuxrService State World}

theorem Moves.refl (service : MuxrService State World) : Moves service service :=
  { later := le_rfl
    kept := fun _ member => member
    queued := fun _ channel found _ member => .inl ⟨channel, found, member⟩
    connected := fun _ connection found => .inl ⟨connection, found, rfl, rfl⟩
    repointed := fun _ _ waiting => .inl waiting
    made := fun _ _ _ already => .inl already
    mutated := fun _ connection _ found readOnly member _ => ⟨connection, found, readOnly, member⟩ }

theorem Moves.send (moves : Moves service next) {sender : Nat} {command : Command}
    {channels : Channels Command} (sent : service.channels.send sender command = some channels)
    (new : service.nextTicket ≤ command.1.id ∨ (service.repoints.lookup command.1.id).isSome = true) :
    Moves service { next with channels } := by
  obtain ⟨channel, found, _, rfl⟩ := Channels.send_eq_some.mp sent
  refine { moves with kept := ?_, queued := ?_ }
  · exact fun name member => Channels.send_keeps sent member
  · intro name other looked queued member
    by_cases here : name = sender
    · subst here
      rw [AList.lookup_insert] at looked
      rw [← Option.some.inj looked, List.mem_append, List.mem_singleton] at member
      rcases member with before | rfl
      · exact .inl ⟨channel, found, before⟩
      · exact .inr new
    · rw [AList.lookup_insert_ne here] at looked
      exact .inl ⟨other, looked, member⟩

theorem Moves.shrink (moves : Moves service next) (same : next.channels = service.channels) {name : Nat}
    {channel shrunk : Channel Command} (found : service.channels.lookup name = some channel)
    (fewer : ∀ command ∈ shrunk.queue, command ∈ channel.queue) :
    Moves service { next with channels := next.channels.insert name shrunk } := by
  rw [same]
  refine { moves with kept := ?_, queued := ?_ }
  · exact fun other member => by simp [AList.mem_insert, member]
  · intro other old looked command member
    by_cases here : other = name
    · subst here
      rw [AList.lookup_insert] at looked
      rw [← Option.some.inj looked] at member
      exact .inl ⟨channel, found, fewer command member⟩
    · rw [AList.lookup_insert_ne here] at looked
      exact .inl ⟨old, looked, member⟩

theorem callsOf_store {key : String} {connection : Connection State World} {relay : Relay State World}
    (own : relay.connectionId = key) (other : String) :
    callsOf (store service connection relay) other = if other = key then relay.calls else callsOf service other := by
  by_cases same : other = key
  · subst same
    simp [callsOf, store_own own]
  · simp [callsOf, store_other own same, same]

theorem store_moves {key : String} {connection : Connection State World}
    (found : service.connections.lookup key = some connection) {relay : Relay State World}
    (task : relay.task = connection.relay.task) (keyed : connection.relay.connectionId = key)
    (made : ∀ ticket call, (.command ticket, call) ∈ relay.calls ->
      (.command ticket, call) ∈ connection.relay.calls ∨
      ∃ name channel cmd, service.channels.lookup name = some channel ∧ (ticket, cmd) ∈ channel.queue)
    (mutated : connection.relay.readOnly = true -> ∀ entry ∈ relay.calls, entry.2.isMutating = true ->
      entry ∈ connection.relay.calls) :
    Moves service (store service connection relay) := by
  have own : relay.connectionId = key := (congrArg Task.connectionId task).trans keyed
  refine { Moves.refl service with connected := ?_, made := ?_, mutated := ?_ }
  · intro other looked there
    by_cases same : other = key
    · subst same
      rw [store_own own] at there
      rw [← Option.some.inj there]
      exact .inl ⟨connection, found, rfl, congrArg Task.readOnly task⟩
    · rw [store_other own same] at there
      exact .inl ⟨looked, there, rfl, rfl⟩
  · intro other ticket call there
    rw [callsOf_store own] at there
    split_ifs at there with same
    · subst same
      simp only [callsOf, found, Option.map_some, Option.getD_some]
      exact made ticket call there
    · exact .inl there
  · intro other looked entry there readOnly member mutating
    by_cases same : other = key
    · subst same
      rw [store_own own] at there
      rw [← Option.some.inj there] at readOnly member
      have flag : connection.relay.readOnly = true := (congrArg Task.readOnly task).symm.trans readOnly
      exact ⟨connection, found, flag, mutated flag entry member mutating⟩
    · rw [store_other own same] at there
      exact ⟨looked, there, readOnly, member⟩

variable {Backend Answer : Type} {zellijValidate : String -> Except (List Piece) Unit}
  {backends : BackendSet Backend} {mux : MuxSender Answer State World}

theorem relayStep_moves {key : String} {connection : Connection State World}
    (found : service.connections.lookup key = some connection)
    (keyed : connection.relay.connectionId = key)
    {event : Inbound.Event Answer} (taken : relayStep mux service connection event = some next) :
    Moves service next := by
  obtain ⟨relay, allowed, own, moved, rfl⟩ := relayStep_some taken
  have stored : Moves service (store service connection relay) := by
    apply store_moves found (step_frame own moved).1 keyed
    · intro ticket call there
      rcases step_calls moved there with before | ⟨cmd, query, answer, rfl⟩
      · exact .inl before
      · contradiction
    · intro readOnly entry member mutating
      have loaded : (load service connection.relay).readOnly = true := readOnly
      exact ReadOnly.step_mutating loaded moved member mutating
  have dropped : Moves service { store service connection relay with
      channels := dropReceiver (store service connection relay).channels connection.channel } := by
    unfold dropReceiver
    split
    next channel looked => exact stored.shrink rfl looked fun _ member => member
    · exact stored
  cases event with
  | dropGuard | cancelled => exact dropped
  | initialised | deregister => exact { stored with }
  | _ => exact stored

theorem dequeue_moves {key : String} {connection : Connection State World}
    (found : service.connections.lookup key = some connection)
    (keyed : connection.relay.connectionId = key)
    {query : FloatQuery} {answer : Answer}
    (taken : dequeue mux service connection query answer = some next) :
    Moves service next := by
  obtain ⟨channel, ticket, cmd, rest, relay, looked, waiting, moved, rfl⟩ := dequeue_some taken
  have stored : Moves service (store service connection relay) := by
    apply store_moves found (step_frame (by simp) moved).1 keyed
    · intro other call there
      rcases step_calls moved there with before | ⟨_, _, _, same⟩
      · exact .inl before
      · obtain ⟨rfl, -⟩ : ticket = other ∧ _ := by simpa using same
        exact .inr ⟨_, channel, cmd, looked, by simp [waiting]⟩
    · intro readOnly entry member mutating
      have loaded : (load service connection.relay).readOnly = true := readOnly
      exact ReadOnly.step_mutating loaded moved member mutating
  apply stored.shrink rfl looked
  intro command member
  rw [waiting]
  exact List.mem_cons_of_mem _ member

theorem dequeue_taken {key : String} {query : FloatQuery} {answer : Answer} {ticket : Ticket} {cmd : RelayControl}
    (waiting : nextCommand service key = some (ticket, cmd))
    (taken : step zellijValidate backends mux service (.dequeue key query answer) = some next) :
    ∃ connection channel rest, service.connections.lookup key = some connection ∧
      service.channels.lookup connection.channel = some channel ∧ channel.queue = (ticket, cmd) :: rest ∧
      next =
        { store service connection (onControl mux ticket cmd query answer (load service connection.relay)) with
          channels := service.channels.insert connection.channel { channel with queue := rest } } := by
  obtain ⟨connection, found, taken⟩ := step_dequeue taken
  obtain ⟨channel, other, command, rest, relay, looked, queue, moved, rfl⟩ := dequeue_some taken
  obtain ⟨rfl, rfl⟩ : other = ticket ∧ command = cmd := by
    simpa [nextCommand, found, looked, queue] using waiting
  simp only [Inbound.step] at moved
  split_ifs at moved
  rw [← Option.some.inj moved]
  exact ⟨connection, channel, rest, found, looked, queue, rfl⟩

theorem repoint_moves {id : Nat} {listed : Except String (List SpaceSnapshot)}
    (taken : repoint service id listed = some next) : Moves service next := by
  obtain ⟨sender, waiting, outcome⟩ := repoint_some taken
  have rest : Moves service { service with repoints := service.repoints.erase id } := by
    refine { Moves.refl service with repointed := ?_ }
    intro other target still
    by_cases same : other = id
    · subst same
      rw [AList.lookup_erase] at still
      contradiction
    · rw [AList.lookup_erase_ne same] at still
      exact .inl still
  rcases outcome with rfl | ⟨target, channels, _, sent, rfl⟩
  · exact rest
  · apply rest.send sent
    right
    simp [waiting]

theorem rpc_moves {id : Nat} (numbered : service.nextTicket ≤ id) {caller : Option Bool}
    {request : Request}
    {outcome : Outcome} {after : MuxrService State World}
    (handled : handle zellijValidate backends service (ticketOf id caller) caller request = .ok (outcome, after)) :
    Moves service { after with nextTicket := id + 1 } := by
  have counted : Moves service { service with nextTicket := id + 1 } :=
    { Moves.refl service with later := by simp only; omega }
  rcases handle_cases handled with rfl | ⟨sender, cmd, channels, _, sent, rfl, _⟩ |
    ⟨session, connectionId, sender, _, _, _, _, rfl⟩
  · exact counted
  · exact counted.send sent (.inl numbered)
  · refine { counted with repointed := ?_ }
    intro other target waiting
    by_cases same : other = id
    · subst same
      exact .inr numbered
    · rw [ticketOf, AList.lookup_insert_ne same] at waiting
      exact .inl waiting

theorem attach_moves {caller : Option Bool} {first : FirstFrame} {size : Option (UInt16 × UInt16)}
    {opened : Except String State} {random : BitVec 128} {channel : Nat}
    (taken : attach zellijValidate backends mux service caller first size opened random channel = some next) :
    Moves service next := by
  obtain rfl | ⟨target, sender, unminted, unused, rfl⟩ := attach_some taken
  · exact Moves.refl _
  · refine { Moves.refl service with kept := ?_, queued := ?_, connected := ?_, made := ?_, mutated := ?_ }
    · exact fun name member => by simp [AList.mem_insert, member]
    · intro name old looked command member
      by_cases new : name = channel
      · subst new
        rw [AList.lookup_insert] at looked
        rw [← Option.some.inj looked] at member
        contradiction
      · rw [AList.lookup_insert_ne new] at looked
        exact .inl ⟨old, looked, member⟩
    · intro key connection found
      by_cases new : key = mintConnectionId random
      · subst new
        rw [AList.lookup_insert] at found
        rw [← Option.some.inj found]
        exact .inr unused
      · rw [AList.lookup_insert_ne new] at found
        exact .inl ⟨connection, found, rfl, rfl⟩
    · intro key ticket call there
      left
      by_cases new : key = mintConnectionId random
      · subst new
        simp [callsOf, attached] at there
      · simpa [callsOf, AList.lookup_insert_ne new] using there
    · intro key connection entry found readOnly member mutating
      by_cases new : key = mintConnectionId random
      · subst new
        rw [AList.lookup_insert] at found
        rw [← Option.some.inj found] at member
        contradiction
      · rw [AList.lookup_insert_ne new] at found
        exact ⟨connection, found, readOnly, member⟩

theorem step_moves (consistent : Consistent service) {event : Event Answer State}
    (taken : step zellijValidate backends mux service event = some next) : Moves service next := by
  cases event with
  | attach => exact attach_moves taken
  | relay connectionId event =>
    obtain ⟨connection, found, taken⟩ := step_relay taken
    exact relayStep_moves found (consistent.keyed _ _ found) taken
  | dequeue connectionId query answer =>
    obtain ⟨connection, found, taken⟩ := step_dequeue taken
    exact dequeue_moves found (consistent.keyed _ _ found) taken
  | rpc id caller request =>
    obtain ⟨numbered, ⟨outcome, after, handled, rfl⟩ | rfl⟩ := step_rpc taken
    · exact rpc_moves numbered handled
    · exact { Moves.refl service with later := by simp only; omega }
  | repoint id listed => exact repoint_moves taken
  | elsewhere answer => exact Option.some.inj taken ▸ { Moves.refl service with }
  | reorder control =>
    obtain ⟨_, rfl⟩ := step_reorder taken
    exact { Moves.refl service with }

def Numbered (service : MuxrService State World) : Prop :=
  ∀ key ticket call, (.command ticket, call) ∈ callsOf service key -> ticket.id < service.nextTicket

theorem step_numbered (consistent : Consistent service) (numbered : Numbered service)
    {event : Event Answer State}
    (taken : step zellijValidate backends mux service event = some next) : Numbered next := by
  have moves := step_moves consistent taken
  intro key ticket call there
  refine lt_of_lt_of_le ?_ moves.later
  rcases moves.made key ticket call there with before | ⟨name, channel, cmd, looked, member⟩
  · exact numbered key ticket call before
  · exact (consistent.queued name channel looked (ticket, cmd) member).1

theorem numbered_of_reachable (reached : Reachable zellijValidate backends mux service) : Numbered service := by
  obtain ⟨world, reached⟩ := reached
  have start : Consistent (empty world : MuxrService State World) ∧
      Numbered (empty world : MuxrService State World) :=
    ⟨Consistent.empty world, by simp [Numbered, callsOf, empty]⟩
  have preserved (state : MuxrService State World) (event : Event Answer State) (next : MuxrService State World)
      (both : Consistent state ∧ Numbered state)
      (taken : step zellijValidate backends mux state event = some next) : Consistent next ∧ Numbered next :=
    ⟨step_consistent state event next both.1 taken, step_numbered both.1 both.2 taken⟩
  exact (Transition.invariant_of_reachable preserved start reached).2

def Harmless (service : MuxrService State World) : Prop :=
  ∀ key connection entry, service.connections.lookup key = some connection -> connection.relay.readOnly = true ->
    entry ∈ connection.relay.calls -> entry.2.isMutating = false

theorem harmless_of_reachable (reached : Reachable zellijValidate backends mux service) : Harmless service := by
  obtain ⟨world, reached⟩ := reached
  have start : Consistent (empty world : MuxrService State World) ∧
      Harmless (empty world : MuxrService State World) :=
    ⟨Consistent.empty world, by simp [Harmless, empty]⟩
  have preserved (state : MuxrService State World) (event : Event Answer State) (next : MuxrService State World)
      (both : Consistent state ∧ Harmless state)
      (taken : step zellijValidate backends mux state event = some next) : Consistent next ∧ Harmless next := by
    refine ⟨step_consistent state event next both.1 taken, ?_⟩
    intro key connection entry found readOnly member
    by_contra mutating
    obtain ⟨old, was, flag, before⟩ := (step_moves both.1 taken).mutated key connection entry found readOnly member
      (by simpa using mutating)
    exact mutating (both.2 key old entry was flag before)
  exact (Transition.invariant_of_reachable preserved start reached).2

end Muxrd.Service
