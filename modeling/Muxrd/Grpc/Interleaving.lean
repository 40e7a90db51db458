import Muxrd.Grpc.Moves
import Muxrd.Lib.Tables
import Muxrd.Relay.Arms

set_option autoImplicit false

namespace Muxrd.Interleaving

open Routing Inbound Attach Helpers Service
open Registry (mintConnectionId)
open Arms (Arm Loop perform perform_calls perform_idle record record_notes runsBeside)

/-- The service, with the commands that its inbound loops are in the middle of. -/
structure Server (State World : Type) where
  service : MuxrService State World
  arms : AList (fun _ : String => Arm)

inductive Event (Answer State : Type)
  | service (event : Service.Event Answer State)
  | takes (connectionId : String)
  | performs (connectionId : String) (query : FloatQuery) (answer : Answer)
  | records (connectionId : String)

section Steps

variable {Backend Answer State World : Type} (zellijValidate : String -> Except (List Piece) Unit)
  (backends : BackendSet Backend) (mux : MuxSender Answer State World)

def empty (world : World) : Server State World :=
  { service := Service.empty world, arms := ∅ }

-- A command is taken, performed and recorded one after the other, never at once.
def runsBesideArms (arms : AList (fun _ : String => Arm)) : Service.Event Answer State -> Bool
  | .dequeue _ _ _ => false
  | .relay connectionId event => runsBeside (arms.lookup connectionId) event
  | _ => true

def loopOf (server : Server State World) (connection : Connection State World) : Loop State World :=
  { relay := load server.service connection.relay, arm := server.arms.lookup connection.relay.connectionId }

def put (server : Server State World) (connection : Connection State World) (loop : Loop State World) :
    Server State World :=
  { service := store server.service connection loop.relay
    arms := match loop.arm with
      | some arm => server.arms.insert loop.relay.connectionId arm
      | none => server.arms.erase loop.relay.connectionId }

def takes (server : Server State World) (connection : Connection State World) : Option (Server State World) :=
  match server.service.channels.lookup connection.channel with
  | some channel =>
    match channel.queue with
    | (ticket, cmd) :: rest =>
      (Arms.step mux (loopOf server connection) (.takes ticket cmd)).map fun loop =>
        let taken := put server connection loop
        { taken with
          service := { taken.service with
            channels := taken.service.channels.insert connection.channel { channel with queue := rest } } }
    | [] => none
  | none => none

def step (server : Server State World) : Event Answer State -> Option (Server State World)
  | .service event =>
    if runsBesideArms server.arms event then
      (Service.step zellijValidate backends mux server.service event).map fun service => { server with service }
    else none
  | .takes connectionId => (server.service.connections.lookup connectionId).bind (takes mux server)
  | .performs connectionId query answer =>
    (server.service.connections.lookup connectionId).bind fun connection =>
      (Arms.step mux (loopOf server connection) (.performs query answer)).map (put server connection)
  | .records connectionId =>
    (server.service.connections.lookup connectionId).bind fun connection =>
      (Arms.step mux (loopOf server connection) .records).map (put server connection)

def Reachable (server : Server State World) : Prop :=
  ∃ world, Transition.Reachable (step zellijValidate backends mux) (empty world) server

end Steps

section Turns

variable {Backend Answer State World : Type} {zellijValidate : String -> Except (List Piece) Unit}
  {backends : BackendSet Backend} {mux : MuxSender Answer State World} {server next : Server State World}
  {key : String} {connection : Connection State World} {ticket : Ticket} {cmd : RelayControl}

theorem takes_eq (found : server.service.connections.lookup key = some connection)
    (keyed : connection.relay.connectionId = key) (running : connection.relay.phase = .running)
    (idle : server.arms.lookup key = none) {channel : Channel Command} {rest : List Command}
    (looked : server.service.channels.lookup connection.channel = some channel)
    (waiting : channel.queue = (ticket, cmd) :: rest) :
    step zellijValidate backends mux server (.takes key) = some
      { service :=
          { store server.service connection (load server.service connection.relay) with
            channels := server.service.channels.insert connection.channel { channel with queue := rest } }
        arms := server.arms.insert key ⟨ticket, cmd, .taken⟩ } := by
  subst keyed
  have loaded : (load server.service connection.relay).phase = .running := running
  simp only [step, found, Option.bind_some, takes, looked, waiting, Arms.step, loopOf, loaded, idle, and_self, if_true,
    Option.map_some, put]
  rfl

theorem performs_eq (found : server.service.connections.lookup key = some connection)
    (keyed : connection.relay.connectionId = key) (busy : server.arms.lookup key = some ⟨ticket, cmd, .taken⟩)
    (query : FloatQuery) (answer : Answer) :
    step zellijValidate backends mux server (.performs key query answer) = some
      { service := store server.service connection
          (perform mux ticket cmd query answer (load server.service connection.relay)).2
        arms := server.arms.insert key ⟨ticket, cmd, .called query
          (perform mux ticket cmd query answer (load server.service connection.relay)).1⟩ } := by
  subst keyed
  have named : (perform mux ticket cmd query answer (load server.service connection.relay)).2.connectionId =
      connection.relay.connectionId := congrArg Task.connectionId (perform_calls mux ticket cmd query answer _).task
  simp only [step, found, Option.bind_some, Arms.step, loopOf, busy, Option.map_some, put, named]

theorem records_eq (found : server.service.connections.lookup key = some connection)
    (keyed : connection.relay.connectionId = key) {query : FloatQuery} {result : Option (Except String Unit)}
    (busy : server.arms.lookup key = some ⟨ticket, cmd, .called query result⟩) :
    step zellijValidate backends mux server (.records key) = some
      { service := store server.service connection (record cmd query result (load server.service connection.relay))
        arms := server.arms.erase key } := by
  subst keyed
  have named : (record cmd query result (load server.service connection.relay)).connectionId =
      connection.relay.connectionId := congrArg Task.connectionId (record_notes cmd query result _).task
  simp only [step, found, Option.bind_some, Arms.step, loopOf, busy, Option.map_some, put, named]

theorem run_dequeue {service after : MuxrService State World} (consistent : Consistent service) {query : FloatQuery}
    {answer : Answer} {arms : AList (fun _ : String => Arm)} (idle : key ∉ arms)
    (taken : Service.step zellijValidate backends mux service (.dequeue key query answer) = some after) :
    Transition.run (step zellijValidate backends mux) { service, arms }
      [.takes key, .performs key query answer, .records key] = some { service := after, arms } := by
  obtain ⟨connection, found, taken⟩ := step_dequeue taken
  obtain ⟨channel, ticket, cmd, rest, relay, looked, waiting, moved, rfl⟩ := dequeue_some taken
  have keyed := consistent.keyed key connection found
  have running : connection.relay.phase = .running := by
    simp only [Inbound.step] at moved
    split_ifs at moved with running
    exact running
  have whole : onControl mux ticket cmd query answer (load service connection.relay) = relay := by
    simpa [Inbound.step, running, load] using moved
  let loaded := load service connection.relay
  let performed := perform mux ticket cmd query answer loaded
  have named : performed.2.connectionId = key :=
    (congrArg Task.connectionId (perform_calls mux ticket cmd query answer loaded).task).trans keyed
  let channels := service.channels.insert connection.channel { channel with queue := rest }
  let first : Server State World :=
    { service := { store service connection loaded with channels }, arms := arms.insert key ⟨ticket, cmd, .taken⟩ }
  let second : Server State World :=
    { service := store first.service { connection with relay := loaded } performed.2
      arms := first.arms.insert key ⟨ticket, cmd, .called query performed.1⟩ }
  have stored : first.service.connections.lookup key = some { connection with relay := loaded } := store_own keyed
  have again : second.service.connections.lookup key = some { connection with relay := performed.2 } := store_own named
  have began : step zellijValidate backends mux { service, arms } (.takes key) = some first :=
    takes_eq found keyed running (AList.lookup_eq_none.mpr idle) looked waiting
  have called : step zellijValidate backends mux first (.performs key query answer) = some second :=
    performs_eq stored keyed (AList.lookup_insert arms) query answer
  have done : step zellijValidate backends mux second (.records key) = some
      { service := store second.service { connection with relay := performed.2 } relay
        arms := second.arms.erase key } := by
    rw [← whole, Arms.onControl_eq]
    exact records_eq again named (AList.lookup_insert first.arms)
  have left : second.arms.erase key = arms := by
    change ((arms.insert key _).insert key _).erase key = arms
    rw [AList.insert_insert]
    exact AList.erase_insert_fresh idle _
  have same : relay.connectionId = key := by
    rw [← whole]
    exact (congrArg Task.connectionId (onControl_continues mux ticket cmd query answer loaded).task).trans keyed
  have ended : store second.service { connection with relay := performed.2 } relay =
      { store service connection relay with channels } := by
    change store (store { store service connection loaded with channels } { connection with relay := loaded }
      performed.2) { connection with relay := performed.2 } relay = _
    have keyedLoaded : loaded.connectionId = key := keyed
    simp only [store, same, named, keyedLoaded, AList.insert_insert]
  rw [left, ended] at done
  exact Transition.run_cons.mpr ⟨first, began, Transition.run_cons.mpr ⟨second, called, Transition.run_cons.mpr
    ⟨_, done, rfl⟩⟩⟩

theorem service_beside {service after : MuxrService State World} {event : Service.Event Answer State}
    (own : ∀ key query answer, event ≠ .dequeue key query answer)
    (taken : Service.step zellijValidate backends mux service event = some after) :
    step zellijValidate backends mux { service, arms := ∅ } (.service event) = some { service := after, arms := ∅ } := by
  have beside : runsBesideArms (∅ : AList fun _ : String => Arm) event = true := by
    cases event with
    | dequeue key query answer => exact absurd rfl (own key query answer)
    | relay key event =>
      obtain ⟨_, _, taken⟩ := step_relay taken
      obtain ⟨_, allowed, _⟩ := relayStep_some taken
      cases event <;> first | rfl | contradiction
    | _ => rfl
  simp only [step, beside, if_true, taken, Option.map_some]

/-- Whatever the service does with each command in one step, it does with the loops' steps one by one. -/
theorem run_of_service {service final : MuxrService State World} {events : List (Service.Event Answer State)}
    (consistent : Consistent service)
    (ran : Transition.run (Service.step zellijValidate backends mux) service events = some final) :
    ∃ others, Transition.run (step zellijValidate backends mux) { service, arms := ∅ } others =
      some { service := final, arms := ∅ } := by
  induction events generalizing service with
  | nil =>
    obtain rfl : service = final := by simpa using ran
    exact ⟨[], rfl⟩
  | cons event rest ih =>
    obtain ⟨after, taken, ran⟩ := Transition.run_cons.mp ran
    obtain ⟨others, later⟩ := ih (step_consistent service event after consistent taken) ran
    obtain ⟨first, turn⟩ : ∃ first, Transition.run (step zellijValidate backends mux) { service, arms := ∅ } first =
        some { service := after, arms := ∅ } := by
      by_cases own : ∀ key query answer, event ≠ .dequeue key query answer
      · exact ⟨[.service event], Transition.run_cons.mpr ⟨_, service_beside own taken, rfl⟩⟩
      · push Not at own
        obtain ⟨key, query, answer, rfl⟩ := own
        exact ⟨_, run_dequeue consistent (AList.notMem_empty key) taken⟩
    exact ⟨first ++ others, Transition.run_trans turn later⟩

end Turns

section Taken

variable {Backend Answer State World : Type} {zellijValidate : String -> Except (List Piece) Unit}
  {backends : BackendSet Backend} {mux : MuxSender Answer State World} {server next : Server State World} {key : String}

theorem takes_some (consistent : Consistent server.service)
    (taken : step zellijValidate backends mux server (.takes key) = some next) :
    ∃ connection channel ticket cmd rest, server.service.connections.lookup key = some connection ∧
      connection.relay.phase = .running ∧ server.arms.lookup key = none ∧
      server.service.channels.lookup connection.channel = some channel ∧ channel.queue = (ticket, cmd) :: rest ∧
      next =
        { service :=
            { store server.service connection (load server.service connection.relay) with
              channels := server.service.channels.insert connection.channel { channel with queue := rest } }
          arms := server.arms.insert key ⟨ticket, cmd, .taken⟩ } := by
  have whole := taken
  simp only [step] at taken
  obtain ⟨connection, found, taken⟩ := Option.bind_eq_some_iff.mp taken
  have keyed := consistent.keyed key connection found
  unfold takes at taken
  split at taken
  next channel looked =>
    split at taken
    next ticket cmd rest waiting =>
      obtain ⟨loop, moved, _⟩ := Option.map_eq_some_iff.mp taken
      simp only [Arms.step, loopOf] at moved
      have enabled := (Option.ite_none_right_eq_some.mp moved).1
      have running : connection.relay.phase = .running := enabled.1
      have idle : server.arms.lookup key = none := keyed ▸ enabled.2
      rw [takes_eq found keyed running idle looked waiting] at whole
      exact ⟨connection, channel, ticket, cmd, rest, found, running, idle, looked, waiting, (Option.some.inj whole).symm⟩
    · contradiction
  · contradiction

theorem performs_some (consistent : Consistent server.service) {query : FloatQuery} {answer : Answer}
    (taken : step zellijValidate backends mux server (.performs key query answer) = some next) :
    ∃ connection ticket cmd, server.service.connections.lookup key = some connection ∧
      server.arms.lookup key = some ⟨ticket, cmd, .taken⟩ ∧
      next =
        { service := store server.service connection
            (perform mux ticket cmd query answer (load server.service connection.relay)).2
          arms := server.arms.insert key ⟨ticket, cmd, .called query
            (perform mux ticket cmd query answer (load server.service connection.relay)).1⟩ } := by
  have whole := taken
  simp only [step] at taken
  obtain ⟨connection, found, taken⟩ := Option.bind_eq_some_iff.mp taken
  have keyed := consistent.keyed key connection found
  obtain ⟨loop, moved, _⟩ := Option.map_eq_some_iff.mp taken
  obtain ⟨ticket, cmd, busy, _⟩ := Arms.performs_taken moved
  rw [loopOf, keyed] at busy
  rw [performs_eq found keyed busy] at whole
  exact ⟨connection, ticket, cmd, found, busy, (Option.some.inj whole).symm⟩

theorem records_some (consistent : Consistent server.service)
    (taken : step zellijValidate backends mux server (.records key) = some next) :
    ∃ connection ticket cmd query result, server.service.connections.lookup key = some connection ∧
      server.arms.lookup key = some ⟨ticket, cmd, .called query result⟩ ∧
      next =
        { service := store server.service connection (record cmd query result (load server.service connection.relay))
          arms := server.arms.erase key } := by
  have whole := taken
  simp only [step] at taken
  obtain ⟨connection, found, taken⟩ := Option.bind_eq_some_iff.mp taken
  have keyed := consistent.keyed key connection found
  obtain ⟨loop, moved, _⟩ := Option.map_eq_some_iff.mp taken
  obtain ⟨ticket, cmd, query, result, busy, _⟩ := Arms.records_taken moved
  rw [loopOf, keyed] at busy
  rw [records_eq found keyed busy] at whole
  exact ⟨connection, ticket, cmd, query, result, found, busy, (Option.some.inj whole).symm⟩

theorem turn_some {event : Event Answer State} (own : ∀ inner, event ≠ .service inner)
    (taken : step zellijValidate backends mux server event = some next) :
    ∃ key connection turn loop channels, server.service.connections.lookup key = some connection ∧
      (∀ beside, turn ≠ .other beside) ∧ Arms.step mux (loopOf server connection) turn = some loop ∧
      next =
        { put server connection loop with
          service := { store server.service connection loop.relay with channels } } := by
  cases event with
  | service inner => exact absurd rfl (own inner)
  | takes key =>
    obtain ⟨connection, found, taken⟩ := Option.bind_eq_some_iff.mp taken
    unfold takes at taken
    split at taken
    · split at taken
      · obtain ⟨loop, moved, rfl⟩ := Option.map_eq_some_iff.mp taken
        exact ⟨key, connection, _, loop, _, found, by simp, moved, rfl⟩
      · contradiction
    · contradiction
  | performs key query answer =>
    obtain ⟨connection, found, taken⟩ := Option.bind_eq_some_iff.mp taken
    obtain ⟨loop, moved, rfl⟩ := Option.map_eq_some_iff.mp taken
    exact ⟨key, connection, _, loop, _, found, by simp, moved, rfl⟩
  | records key =>
    obtain ⟨connection, found, taken⟩ := Option.bind_eq_some_iff.mp taken
    obtain ⟨loop, moved, rfl⟩ := Option.map_eq_some_iff.mp taken
    exact ⟨key, connection, _, loop, _, found, by simp, moved, rfl⟩

theorem put_arms_own (connection : Connection State World) {loop : Loop State World}
    (named : loop.relay.connectionId = key) : (put server connection loop).arms.lookup key = loop.arm := by
  subst named
  unfold put
  cases loop.arm with
  | none => exact AList.lookup_erase loop.relay.connectionId server.arms
  | some arm => exact AList.lookup_insert server.arms

theorem put_arms_other (connection : Connection State World) {loop : Loop State World} {other : String}
    (different : other ≠ loop.relay.connectionId) :
    (put server connection loop).arms.lookup other = server.arms.lookup other := by
  unfold put
  cases loop.arm with
  | none => exact AList.lookup_erase_ne different
  | some arm => exact AList.lookup_insert_ne different

theorem service_some {event : Service.Event Answer State}
    (taken : step zellijValidate backends mux server (.service event) = some next) :
    ∃ service, runsBesideArms server.arms event = true ∧
      Service.step zellijValidate backends mux server.service event = some service ∧ next = { server with service } := by
  simp only [step] at taken
  split_ifs at taken with beside
  obtain ⟨service, stepped, rfl⟩ := Option.map_eq_some_iff.mp taken
  exact ⟨service, beside, stepped, rfl⟩

theorem step_arms (consistent : Consistent server.service) {event : Event Answer State}
    (taken : step zellijValidate backends mux server event = some next) {other : String} {arm : Arm}
    (busy : next.arms.lookup other = some arm) :
    (∃ old, server.arms.lookup other = some old ∧ old.ticket = arm.ticket ∧ old.cmd = arm.cmd) ∨
      ∃ name channel, server.service.channels.lookup name = some channel ∧ (arm.ticket, arm.cmd) ∈ channel.queue := by
  cases event with
  | service event =>
    obtain ⟨service, _, _, rfl⟩ := service_some taken
    exact .inl ⟨arm, busy, rfl, rfl⟩
  | takes key =>
    obtain ⟨connection, channel, ticket, cmd, rest, _, _, _, looked, waiting, rfl⟩ := takes_some consistent taken
    by_cases own : other = key
    · subst own
      rw [AList.lookup_insert] at busy
      obtain rfl := Option.some.inj busy
      exact .inr ⟨_, channel, looked, waiting ▸ List.mem_cons_self⟩
    · rw [AList.lookup_insert_ne own] at busy
      exact .inl ⟨arm, busy, rfl, rfl⟩
  | performs key query answer =>
    obtain ⟨connection, ticket, cmd, _, before, rfl⟩ := performs_some consistent taken
    by_cases own : other = key
    · subst own
      rw [AList.lookup_insert] at busy
      obtain rfl := Option.some.inj busy
      exact .inl ⟨_, before, rfl, rfl⟩
    · rw [AList.lookup_insert_ne own] at busy
      exact .inl ⟨arm, busy, rfl, rfl⟩
  | records key =>
    obtain ⟨connection, ticket, cmd, query, result, _, _, rfl⟩ := records_some consistent taken
    by_cases own : other = key
    · subst own
      rw [AList.lookup_erase] at busy
      contradiction
    · rw [AList.lookup_erase_ne own] at busy
      exact .inl ⟨arm, busy, rfl, rfl⟩

end Taken

section Steady

variable {State World : Type}

def Arm.result (arm : Arm) : Option (Except String Unit) :=
  match arm.stage with
  | .called _ result => result
  | .taken => none

structure Steady (server : Server State World) : Prop where
  consistent : Consistent server.service
  present : ∀ key ∈ server.arms, key ∈ server.service.connections
  admissible : ∀ key arm, server.arms.lookup key = some arm ->
    Admissible server.service.nextTicket (arm.ticket, arm.cmd)
  silent : ∀ key arm connection, server.arms.lookup key = some arm ->
    server.service.connections.lookup key = some connection -> connection.relay.readOnly = true -> Arm.result arm = none

structure Extends (service next : MuxrService State World) : Prop where
  stays : ∀ key ∈ service.connections, key ∈ next.connections
  connected : ∀ key connection, next.connections.lookup key = some connection ->
    (∃ old, service.connections.lookup key = some old ∧ connection.channel = old.channel ∧
      connection.relay.task = old.relay.task) ∨
      key ∉ service.connections ∧ connection.channel ∉ service.channels

theorem Extends.of_same {service next : MuxrService State World} (same : next.connections = service.connections) :
    Extends service next :=
  { stays := fun _ member => same ▸ member
    connected := fun _ connection found => .inl ⟨connection, same ▸ found, rfl, rfl⟩ }

theorem Extends.store {service : MuxrService State World} {key : String} {connection : Connection State World}
    (found : service.connections.lookup key = some connection) (keyed : connection.relay.connectionId = key)
    {relay : Relay State World} (task : relay.task = connection.relay.task) :
    Extends service (store service connection relay) := by
  have own : relay.connectionId = key := (congrArg Task.connectionId task).trans keyed
  constructor
  · exact fun other member => (mem_store own).mpr (.inr member)
  · intro other looked there
    by_cases same : other = key
    · subst same
      rw [store_own own] at there
      rw [← Option.some.inj there]
      exact .inl ⟨connection, found, rfl, task⟩
    · rw [store_other own same] at there
      exact .inl ⟨looked, there, rfl, rfl⟩

section

variable {Backend Answer : Type} {zellijValidate : String -> Except (List Piece) Unit} {backends : BackendSet Backend}
  {mux : MuxSender Answer State World} {service after : MuxrService State World} {relay : Relay State World}
  {ticket : Ticket} {cmd : RelayControl} {query : FloatQuery} {answer : Answer}

theorem step_extends (consistent : Consistent service) {event : Service.Event Answer State}
    (taken : Service.step zellijValidate backends mux service event = some after) : Extends service after := by
  cases event with
  | attach caller first size opened random channel =>
    obtain rfl | ⟨target, sender, unminted, unused, rfl⟩ := attach_some taken
    · exact Extends.of_same rfl
    · constructor
      · exact fun key member => (AList.mem_insert _).mpr (.inr member)
      · intro key connection found
        by_cases new : key = mintConnectionId random
        · subst new
          rw [AList.lookup_insert] at found
          rw [← Option.some.inj found]
          exact .inr ⟨unminted, unused⟩
        · rw [AList.lookup_insert_ne new] at found
          exact .inl ⟨connection, found, rfl, rfl⟩
  | relay key event =>
    obtain ⟨connection, found, taken⟩ := step_relay taken
    obtain ⟨relay, _, own, moved, rfl⟩ := relayStep_some taken
    have stored := Extends.store found (consistent.keyed key connection found) (step_frame own moved).1
    cases event <;> exact { stored with }
  | dequeue key query answer =>
    obtain ⟨connection, found, taken⟩ := step_dequeue taken
    obtain ⟨_, _, _, _, relay, _, _, moved, rfl⟩ := dequeue_some taken
    exact { Extends.store found (consistent.keyed key connection found) (step_frame (by simp) moved).1 with }
  | rpc id caller request =>
    obtain ⟨_, ⟨outcome, handledAfter, handled, rfl⟩ | rfl⟩ := step_rpc taken
    · apply Extends.of_same
      rcases handle_cases handled with rfl | ⟨_, _, _, _, _, rfl, _⟩ | ⟨_, _, _, _, _, _, _, rfl⟩ <;> rfl
    · exact Extends.of_same rfl
  | repoint id posted =>
    apply Extends.of_same
    obtain ⟨_, _, rfl | ⟨_, _, _, _, rfl⟩⟩ := repoint_some taken <;> rfl
  | elsewhere answer => exact Option.some.inj taken ▸ Extends.of_same rfl
  | reorder control =>
    obtain ⟨_, rfl⟩ := step_reorder taken
    exact Extends.of_same rfl

theorem Steady.empty (world : World) : Steady (Interleaving.empty world : Server State World) :=
  { consistent := Consistent.empty world
    present := by simp [Interleaving.empty]
    admissible := by simp [Interleaving.empty]
    silent := by simp [Interleaving.empty] }

theorem perform_result (readOnly : relay.readOnly = true) :
    (perform mux ticket cmd query answer relay).1 = none := by
  unfold perform
  rw [readOnly]
  cases cmd <;> rfl

theorem Steady.put {server : Server State World} (steady : Steady server) {key : String}
    {connection : Connection State World} (found : server.service.connections.lookup key = some connection)
    (task : relay.task = connection.relay.task)
    (others : ∀ other, other ≠ key -> relay.viewState.lookup other = server.service.viewState.lookup other)
    (spaceless : connection.relay.readOnly = true -> ∀ entry, relay.viewState.lookup key = some entry ->
      entry.state.currentSpace = none) {arms : AList (fun _ : String => Arm)}
    (elsewhere : ∀ other, other ≠ key -> arms.lookup other = server.arms.lookup other)
    (here : ∀ arm, arms.lookup key = some arm -> Admissible server.service.nextTicket (arm.ticket, arm.cmd) ∧
      (connection.relay.readOnly = true -> Arm.result arm = none)) :
    Steady { service := store server.service connection relay, arms } := by
  have own : relay.connectionId = key :=
    (congrArg Task.connectionId task).trans (steady.consistent.keyed key connection found)
  constructor
  · exact steady.consistent.store found task others spaceless
  · intro other member
    by_cases same : other = key
    · exact (mem_store own).mpr (.inl same)
    · apply (mem_store own).mpr
      right
      apply steady.present other
      rw [← AList.lookup_isSome] at member ⊢
      rwa [← elsewhere other same]
  · intro other arm busy
    by_cases same : other = key
    · subst same
      exact (here arm busy).1
    · exact steady.admissible other arm ((elsewhere other same).symm.trans busy)
  · intro other arm looked busy there readOnly
    by_cases same : other = key
    · subst same
      rw [store_own own] at there
      rw [← Option.some.inj there] at readOnly
      exact (here arm busy).2 ((congrArg Task.readOnly task).symm.trans readOnly)
    · rw [store_other own same] at there
      exact steady.silent other arm looked ((elsewhere other same).symm.trans busy) there readOnly

theorem steady_step (server : Server State World) (event : Event Answer State) (next : Server State World)
    (steady : Steady server) (taken : step zellijValidate backends mux server event = some next) : Steady next := by
  have consistent := steady.consistent
  cases event with
  | service event =>
    obtain ⟨service, _, stepped, rfl⟩ := service_some taken
    have grown := step_extends consistent stepped
    have later := (step_moves consistent stepped).later
    constructor
    · exact step_consistent server.service event service consistent stepped
    · exact fun key member => grown.stays key (steady.present key member)
    · exact fun key arm busy => (steady.admissible key arm busy).later later
    · intro key arm connection busy found readOnly
      have here : key ∈ server.service.connections :=
        steady.present key (AList.lookup_isSome.mp (by simp [busy]))
      rcases grown.connected key connection found with ⟨old, was, _, task⟩ | ⟨new, _⟩
      · exact steady.silent key arm old busy was ((congrArg Task.readOnly task).symm.trans readOnly)
      · exact absurd here new
  | takes key =>
    obtain ⟨connection, channel, ticket, cmd, rest, found, _, idle, looked, waiting, rfl⟩ := takes_some consistent taken
    have admissible := consistent.queued _ channel looked (ticket, cmd) (by simp [waiting])
    have loaded : (load server.service connection.relay).task = connection.relay.task := rfl
    have moved : Steady
        { service := store server.service connection (load server.service connection.relay)
          arms := server.arms.insert key ⟨ticket, cmd, .taken⟩ } := by
      apply steady.put found loaded (fun _ _ => rfl)
      · exact fun readOnly entry shown => consistent.spaceless key connection entry found readOnly shown
      · exact fun other different => AList.lookup_insert_ne different
      · intro arm busy
        rw [AList.lookup_insert] at busy
        rw [← Option.some.inj busy]
        exact ⟨admissible, fun _ => rfl⟩
    refine { moved with consistent := moved.consistent.shrink looked ?_ }
    intro command member
    rw [waiting]
    exact List.mem_cons_of_mem _ member
  | performs key query answer =>
    obtain ⟨connection, ticket, cmd, found, busy, rfl⟩ := performs_some consistent taken
    have calls := perform_calls mux ticket cmd query answer (load server.service connection.relay)
    apply steady.put found calls.task
    · intro other _
      rw [calls.viewState]
      rfl
    · intro readOnly entry shown
      rw [calls.viewState] at shown
      exact consistent.spaceless key connection entry found readOnly shown
    · exact fun other different => AList.lookup_insert_ne different
    · have admissible := steady.admissible key _ busy
      intro arm now
      rw [AList.lookup_insert] at now
      rw [← Option.some.inj now]
      exact ⟨admissible, fun readOnly => perform_result readOnly⟩
  | records key =>
    obtain ⟨connection, ticket, cmd, query, result, found, busy, rfl⟩ := records_some consistent taken
    have notes := record_notes cmd query result (load server.service connection.relay)
    have keyed : (load server.service connection.relay).connectionId = key := consistent.keyed key connection found
    apply steady.put found notes.task
    · intro other different
      rw [← keyed] at different
      exact notes.others other different
    · intro readOnly entry shown
      have quiet : result = none := steady.silent key _ connection busy found readOnly
      have view := notes.view
      rw [keyed, quiet] at view
      rw [quiet] at shown
      exact consistent.spaceless key connection entry found readOnly (view.symm.trans shown)
    · exact fun other different => AList.lookup_erase_ne different
    · intro arm now
      rw [AList.lookup_erase] at now
      contradiction

structure Shifts (service next : MuxrService State World) : Prop extends Extends service next where
  later : service.nextTicket ≤ next.nextTicket
  kept : ∀ name ∈ service.channels, name ∈ next.channels
  queued : ∀ name channel, next.channels.lookup name = some channel -> ∀ command ∈ channel.queue,
    (∃ old, service.channels.lookup name = some old ∧ command ∈ old.queue) ∨
      service.nextTicket ≤ command.1.id ∨ (service.repoints.lookup command.1.id).isSome = true
  repointed : ∀ id sender, next.repoints.lookup id = some sender ->
    service.repoints.lookup id = some sender ∨ service.nextTicket ≤ id

theorem Shifts.of_same {service next : MuxrService State World} (grown : Extends service next)
    (later : next.nextTicket = service.nextTicket) (channels : next.channels = service.channels)
    (repoints : next.repoints = service.repoints) : Shifts service next :=
  { grown with
    later := later.ge
    kept := fun _ member => channels ▸ member
    queued := fun _ channel looked _ member => .inl ⟨channel, channels ▸ looked, member⟩
    repointed := fun _ _ waiting => .inl (repoints ▸ waiting) }

theorem step_shifts {server next : Server State World} {event : Event Answer State} (steady : Steady server)
    (taken : step zellijValidate backends mux server event = some next) : Shifts server.service next.service := by
  have consistent := steady.consistent
  cases event with
  | service event =>
    obtain ⟨service, _, stepped, rfl⟩ := service_some taken
    have moves := step_moves consistent stepped
    exact
      { step_extends consistent stepped with
        later := moves.later
        kept := moves.kept
        queued := moves.queued
        repointed := moves.repointed }
  | takes key =>
    obtain ⟨connection, channel, ticket, cmd, rest, found, _, _, looked, waiting, rfl⟩ := takes_some consistent taken
    have stored : Shifts server.service (store server.service connection (load server.service connection.relay)) :=
      Shifts.of_same (Extends.store found (consistent.keyed key connection found) rfl) rfl rfl rfl
    refine { stored with kept := ?_, queued := ?_ }
    · exact fun name member => (AList.mem_insert _).mpr (.inr member)
    · intro name now found command member
      left
      by_cases here : name = connection.channel
      · subst here
        rw [AList.lookup_insert] at found
        rw [← Option.some.inj found] at member
        exact ⟨channel, looked, waiting ▸ List.mem_cons_of_mem _ member⟩
      · rw [AList.lookup_insert_ne here] at found
        exact ⟨now, found, member⟩
  | performs key query answer =>
    obtain ⟨connection, ticket, cmd, found, _, rfl⟩ := performs_some consistent taken
    exact Shifts.of_same (Extends.store found (consistent.keyed key connection found) (perform_calls _ _ _ _ _ _).task)
      rfl rfl rfl
  | records key =>
    obtain ⟨connection, ticket, cmd, query, result, found, _, rfl⟩ := records_some consistent taken
    exact Shifts.of_same (Extends.store found (consistent.keyed key connection found) (record_notes _ _ _ _).task)
      rfl rfl rfl

theorem steady_of_reachable {server : Server State World} (reached : Reachable zellijValidate backends mux server) :
    Steady server := by
  obtain ⟨world, reached⟩ := reached
  exact Transition.invariant_of_reachable steady_step (Steady.empty world) reached

end

end Steady

end Muxrd.Interleaving
