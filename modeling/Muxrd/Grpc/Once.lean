import Muxrd.Grpc.Interleaving
import Muxrd.Lib.Weight

set_option autoImplicit false

namespace Muxrd.Service

open Routing Inbound Attach Helpers Weighing
open Registry (mintConnectionId)

variable {State World : Type}

-- The reply of a SwitchSpace goes to the request whose command it is.
def RepliesHome (command : Command) : Prop :=
  ∀ workspaceId reply, command.2 = .switchSpace workspaceId reply -> reply = command.1.id

def AllReplyHome (channels : Channels Command) : Prop :=
  ∀ name channel, channels.lookup name = some channel -> ∀ command ∈ channel.queue, RepliesHome command

def carrying (id : Nat) (channel : Channel Command) : Nat :=
  channel.queue.countP (·.1.id = id)

def answering (id : Nat) (connection : Connection State World) : Nat :=
  (connection.relay.answers id).length

/-- In how many places a request is: as a command in a channel, as a re-pointing under way, and as the
answer of a relay. -/
def places (id : Nat) (service : MuxrService State World) : Nat :=
  total (carrying id) service.channels + share (fun _ => 1) service.repoints id +
    total (answering id) service.connections

def Answered (service : MuxrService State World) (id : Nat) (result : Except String Unit) : Prop :=
  ∃ key connection, service.connections.lookup key = some connection ∧ result ∈ connection.relay.answers id

structure Carries (sent : List Nat) (service next : MuxrService State World) : Prop where
  home : AllReplyHome next.channels
  places : ∀ id, places id next ≤ places id service + sent.count id
  answered : ∀ id result, Answered service id result -> Answered next id result

section Channels

variable {channels : Channels Command} {name : Nat} {channel : Channel Command}

theorem AllReplyHome.insert (home : AllReplyHome channels)
    (all : ∀ command ∈ channel.queue, RepliesHome command) (name : Nat) : AllReplyHome (channels.insert name channel) := by
  intro other found looked command member
  by_cases here : other = name
  · subst here
    rw [AList.lookup_insert] at looked
    rw [← Option.some.inj looked] at member
    exact all command member
  · rw [AList.lookup_insert_ne here] at looked
    exact home other found looked command member

theorem AllReplyHome.dropReceiver (home : AllReplyHome channels) (name : Nat) :
    AllReplyHome (dropReceiver channels name) := by
  unfold Service.dropReceiver
  split
  next channel looked =>
    apply home.insert
    exact home name channel looked
  · exact home

theorem dropReceiver_carrying (id name : Nat) (channels : Channels Command) :
    total (carrying id) (dropReceiver channels name) = total (carrying id) channels := by
  unfold dropReceiver
  split
  next channel looked => exact total_replace looked rfl
  · rfl

theorem AllReplyHome.send (home : AllReplyHome channels) {command : Command} (own : RepliesHome command)
    {sent : Channels Command} (delivered : channels.send name command = some sent) : AllReplyHome sent := by
  obtain ⟨channel, looked, _, rfl⟩ := Channels.send_eq_some.mp delivered
  apply home.insert
  intro other member
  rw [List.mem_append, List.mem_singleton] at member
  rcases member with before | rfl
  · exact home name channel looked other before
  · exact own

theorem send_carrying {command : Command} {sent : Channels Command}
    (delivered : channels.send name command = some sent) (id : Nat) :
    total (carrying id) sent = total (carrying id) channels + if command.1.id = id then 1 else 0 := by
  obtain ⟨channel, looked, _, rfl⟩ := Channels.send_eq_some.mp delivered
  have grown : carrying id { channel with queue := channel.queue ++ [command] } =
      carrying id channel + if command.1.id = id then 1 else 0 := by
    simp [carrying, List.countP_append, List.countP_cons]
  have updated : total (carrying id) _ + carrying id channel = _ :=
    total_update looked { channel with queue := channel.queue ++ [command] }
  omega

end Channels

section Steps

variable {service next : MuxrService State World} {Backend Answer : Type}
  {zellijValidate : String -> Except (List Piece) Unit} {backends : BackendSet Backend}
  {mux : MuxSender Answer State World}

theorem store_answering {key : String} {connection : Connection State World} {relay : Relay State World}
    (found : service.connections.lookup key = some connection) (own : relay.connectionId = key) (id : Nat) :
    total (answering id) (store service connection relay).connections + (connection.relay.answers id).length =
      total (answering id) service.connections + (relay.answers id).length := by
  rw [store, own]
  exact total_update found { connection with relay }

theorem store_answered {key : String} {connection : Connection State World} {relay : Relay State World}
    (found : service.connections.lookup key = some connection) (own : relay.connectionId = key)
    (grown : ∀ id, connection.relay.answers id <+: relay.answers id) {id : Nat} {result : Except String Unit}
    (before : Answered service id result) : Answered (store service connection relay) id result := by
  obtain ⟨other, old, looked, member⟩ := before
  by_cases same : other = key
  · subst same
    rw [found] at looked
    obtain rfl := Option.some.inj looked
    exact ⟨other, _, store_own own, (grown id).subset member⟩
  · exact ⟨other, old, by rwa [store_other own same], member⟩

theorem attach_carries (home : AllReplyHome service.channels) {caller : Option Bool} {first : FirstFrame}
    {size : Option (UInt16 × UInt16)}
    {opened : Except String State} {random : BitVec 128} {channel : Nat}
    (taken : attach zellijValidate backends mux service caller first size opened random channel = some next) :
    Carries [] service next := by
  obtain rfl | ⟨target, sender, unminted, unused, rfl⟩ := attach_some taken
  · exact { home, places := fun id => by simp, answered := fun _ _ before => before }
  · constructor
    · apply home.insert
      simp
    · intro id
      let relay := attached mux target (mintConnectionId random) sender service.world service.viewState
      have connections :
          total (answering id) (service.connections.insert (mintConnectionId random) { channel, relay }) =
            total (answering id) service.connections := total_fresh unminted _
      have channels :
          total (carrying id) (service.channels.insert channel { queue := [], receiverAlive := true }) =
            total (carrying id) service.channels := total_fresh unused _
      simp only [places, channels, List.count_nil, Nat.add_zero]
      exact Nat.add_le_add_left connections.le _
    · intro id result before
      obtain ⟨other, old, looked, member⟩ := before
      have known : other ≠ mintConnectionId random := by
        rintro rfl
        exact unminted (AList.lookup_isSome.mp (by simp [looked]))
      exact ⟨other, old, by rwa [AList.lookup_insert_ne known], member⟩

theorem relayStep_carries (home : AllReplyHome service.channels) {key : String}
    {connection : Connection State World}
    (found : service.connections.lookup key = some connection) (keyed : connection.relay.connectionId = key)
    {event : Inbound.Event Answer} (taken : relayStep mux service connection event = some next) :
    Carries [] service next := by
  obtain ⟨relay, allowed, own, moved, rfl⟩ := relayStep_some taken
  have same : relay.connectionId = key := (congrArg Task.connectionId (step_frame own moved).1).trans keyed
  have stored (id : Nat) : total (answering id) (store service connection relay).connections =
      total (answering id) service.connections := by
    have answers := step_answers moved id
    have silent : answered mux (load service connection.relay) id event = [] := by
      cases event with
      | command => contradiction
      | _ => rfl
    rw [silent, List.append_nil] at answers
    have kept : relay.answers id = connection.relay.answers id := answers
    have replaced := store_answering found same id
    rw [kept] at replaced
    omega
  have answered {id : Nat} {result : Except String Unit} (before : Answered service id result) :
      Answered (store service connection relay) id result :=
    store_answered found same (fun id => ⟨_, (step_answers moved id).symm⟩) before
  have dropped : Carries [] service { store service connection relay with
      channels := dropReceiver service.channels connection.channel } := by
    constructor
    · exact home.dropReceiver _
    · intro id
      simp only [places, stored, dropReceiver_carrying]
      simp [store]
    · exact fun _ _ => answered
  have kept : Carries [] service (store service connection relay) := by
    constructor
    · exact home
    · intro id
      simp only [places, stored]
      simp [store]
    · exact fun _ _ => answered
  cases event with
  | dropGuard | cancelled => exact dropped
  | initialised | deregister => exact { kept with }
  | _ => exact kept

theorem repoint_carries (home : AllReplyHome service.channels) {id : Nat}
    {listed : Except String (List SpaceSnapshot)}
    (taken : repoint service id listed = some next) : Carries [] service next := by
  obtain ⟨sender, waiting, outcome⟩ := repoint_some taken
  have left (other : Nat) : share (fun _ => 1) (service.repoints.erase id) other +
      (if id = other then 1 else 0) = share (fun _ => 1) service.repoints other := by
    by_cases same : other = id
    · subst same
      simp [share, waiting]
    · simp [share, AList.lookup_erase_ne same, Ne.symm same]
  rcases outcome with rfl | ⟨target, channels, _, sent, rfl⟩
  · constructor
    · exact home
    · intro other
      have fewer := left other
      simp only [places, List.count_nil]
      omega
    · exact fun _ _ before => before
  · constructor
    · apply home.send _ sent
      intro workspaceId reply same
      rw [← (RelayControl.switchSpace.inj same).2]
    · intro other
      have fewer := left other
      have grown : total (carrying other) channels = total (carrying other) service.channels +
          if id = other then 1 else 0 := send_carrying sent other
      simp only [places, List.count_nil]
      omega
    · exact fun _ _ before => before

theorem rpc_carries (home : AllReplyHome service.channels) {id : Nat} {caller : Option Bool} {request : Request}
    {outcome : Outcome} {after : MuxrService State World}
    (handled : handle zellijValidate backends service (ticketOf id caller) caller request = .ok (outcome, after)) :
    Carries [id] service { after with nextTicket := id + 1 } := by
  rcases handle_sends handled with rfl | ⟨sender, cmd, channels, _, sends, sent, rfl, _⟩ |
    ⟨_, _, sender, _, _, _, _, _, rfl⟩
  · exact { home, places := fun other => Nat.le_add_right _ _, answered := fun _ _ before => before }
  · constructor
    · apply home.send _ sent
      intro workspaceId reply same
      cases request <;> simp_all [Request.command, ticketOf]
    · intro other
      have grown : total (carrying other) channels = total (carrying other) service.channels +
          if id = other then 1 else 0 := send_carrying sent other
      have new : [id].count other = if id = other then 1 else 0 := by simp [List.count_singleton]
      simp only [places]
      omega
    · exact fun _ _ before => before
  · constructor
    · exact home
    · intro other
      simp only [places, ticketOf]
      by_cases same : other = id
      · subst same
        simp [share]
        omega
      · simp [share, AList.lookup_insert_ne same]
    · exact fun _ _ before => before

def sentBy : Event Answer State -> List Nat
  | .rpc id _ _ => [id]
  | _ => []

theorem step_carries (consistent : Consistent service) (home : AllReplyHome service.channels)
    {event : Event Answer State} (beside : ∀ key query answer, event ≠ .dequeue key query answer)
    (taken : step zellijValidate backends mux service event = some next) : Carries (sentBy event) service next := by
  cases event with
  | attach => exact attach_carries home taken
  | relay connectionId event =>
    obtain ⟨connection, found, taken⟩ := step_relay taken
    exact relayStep_carries home found (consistent.keyed _ _ found) taken
  | dequeue key query answer => exact absurd rfl (beside key query answer)
  | rpc id caller request =>
    obtain ⟨numbered, ⟨outcome, after, handled, rfl⟩ | rfl⟩ := step_rpc taken
    · exact rpc_carries home handled
    · exact { home, places := fun other => Nat.le_add_right _ _, answered := fun _ _ before => before }
  | repoint id listed => exact repoint_carries home taken
  | elsewhere answer =>
    rw [← Option.some.inj taken]
    exact { home, places := fun other => Nat.le_add_right _ _, answered := fun _ _ before => before }
  | reorder control =>
    obtain ⟨_, rfl⟩ := step_reorder taken
    exact { home, places := fun other => Nat.le_add_right _ _, answered := fun _ _ before => before }

theorem step_numbered_by {event : Event Answer State}
    (taken : step zellijValidate backends mux service event = some next) {id : Nat} (new : id ∈ sentBy event) :
    service.nextTicket ≤ id ∧ next.nextTicket = id + 1 := by
  cases event with
  | rpc other caller request =>
    obtain rfl := List.mem_singleton.mp new
    obtain ⟨numbered, ⟨outcome, after, _, rfl⟩ | rfl⟩ := step_rpc taken
    · exact ⟨numbered, rfl⟩
    · exact ⟨numbered, rfl⟩
  | _ => contradiction

end Steps

end Muxrd.Service

namespace Muxrd.Interleaving

open Routing Inbound Weighing
open Arms (Arm perform_calls record_answers sends)
open Service hiding step

variable {State World : Type}

def holding (id : Nat) (arm : Arm) : Nat :=
  if arm.ticket.id = id then 1 else 0

def places (id : Nat) (server : Server State World) : Nat :=
  Service.places id server.service + total (holding id) server.arms

structure Once (server : Server State World) : Prop where
  steady : Steady server
  home : AllReplyHome server.service.channels
  held : ∀ key arm, server.arms.lookup key = some arm -> RepliesHome (arm.ticket, arm.cmd)
  once : ∀ id, places id server ≤ 1
  unused : ∀ id, server.service.nextTicket ≤ id -> places id server = 0

theorem Once.empty (world : World) : Once (Interleaving.empty world : Server State World) :=
  { steady := Steady.empty world
    home := by intro name channel; simp [Interleaving.empty, Service.empty]
    held := by simp [Interleaving.empty]
    once := by simp [Interleaving.empty, Service.empty, places, Service.places, share]
    unused := by simp [Interleaving.empty, Service.empty, places, Service.places, share] }

structure Carries (sent : List Nat) (server next : Server State World) : Prop where
  home : AllReplyHome next.service.channels
  held : ∀ key arm, next.arms.lookup key = some arm -> RepliesHome (arm.ticket, arm.cmd)
  places : ∀ id, places id next ≤ places id server + sent.count id
  answered : ∀ id result, Answered server.service id result -> Answered next.service id result

section Steps

variable {Backend Answer : Type} {zellijValidate : String -> Except (List Piece) Unit} {backends : BackendSet Backend}
  {mux : MuxSender Answer State World} {server next : Server State World} {key : String}

theorem takes_carries (once : Once server) (taken : step zellijValidate backends mux server (.takes key) = some next) :
    Carries [] server next := by
  have consistent := once.steady.consistent
  obtain ⟨connection, channel, ticket, cmd, rest, found, _, idle, looked, waiting, rfl⟩ := takes_some consistent taken
  have keyed := consistent.keyed key connection found
  have own : (load server.service connection.relay).connectionId = key := keyed
  have all := once.home connection.channel channel looked
  rw [waiting] at all
  constructor
  · apply once.home.insert
    exact fun command member => all command (List.mem_cons_of_mem _ member)
  · intro other arm busy
    by_cases here : other = key
    · subst here
      rw [AList.lookup_insert] at busy
      obtain rfl := Option.some.inj busy
      exact all (ticket, cmd) List.mem_cons_self
    · rw [AList.lookup_insert_ne here] at busy
      exact once.held other arm busy
  · intro id
    have shrunk :
        total (carrying id) (server.service.channels.insert connection.channel { channel with queue := rest }) +
          carrying id channel = total (carrying id) server.service.channels + _ := total_update looked _
    have head : carrying id channel = carrying id { channel with queue := rest } +
        if ticket.id = id then 1 else 0 := by
      simp [carrying, waiting, List.countP_cons]
    have begun : total (holding id) (server.arms.insert key ⟨ticket, cmd, .taken⟩) =
        total (holding id) server.arms + if ticket.id = id then 1 else 0 :=
      total_fresh (AList.lookup_eq_none.mp idle) _
    have answers := store_answering found own id
    have same : (load server.service connection.relay).answers id = connection.relay.answers id := rfl
    rw [same] at answers
    simp only [places, Service.places, begun, List.count_nil]
    have repoints : (store server.service connection (load server.service connection.relay)).repoints =
        server.service.repoints := rfl
    rw [repoints]
    omega
  · exact fun _ _ => store_answered found own fun id => List.prefix_rfl

theorem performs_carries (once : Once server) {query : FloatQuery} {answer : Answer}
    (taken : step zellijValidate backends mux server (.performs key query answer) = some next) :
    Carries [] server next := by
  have consistent := once.steady.consistent
  obtain ⟨connection, ticket, cmd, found, busy, rfl⟩ := performs_some consistent taken
  have keyed := consistent.keyed key connection found
  have calls := perform_calls mux ticket cmd query answer (load server.service connection.relay)
  have own := (congrArg Task.connectionId calls.task).trans keyed
  constructor
  · exact once.home
  · intro other arm now
    by_cases here : other = key
    · subst here
      rw [AList.lookup_insert] at now
      obtain rfl := Option.some.inj now
      have home : RepliesHome (ticket, cmd) := once.held other _ busy
      exact home
    · rw [AList.lookup_insert_ne here] at now
      exact once.held other arm now
  · intro id
    have answers := store_answering found own id
    have same : (Arms.perform mux ticket cmd query answer (load server.service connection.relay)).2.answers id =
        connection.relay.answers id := calls.answers id
    rw [same] at answers
    have moved : total (holding id) (server.arms.insert key ⟨ticket, cmd, .called query
        (Arms.perform mux ticket cmd query answer (load server.service connection.relay)).1⟩) =
        total (holding id) server.arms := total_replace busy rfl
    simp only [places, Service.places, moved, List.count_nil]
    simp only [store] at answers ⊢
    omega
  · exact fun _ _ => store_answered found own fun id => (calls.answers id).symm ▸ List.prefix_rfl

theorem sends_length {cmd : RelayControl} {ticket : Ticket} (home : RepliesHome (ticket, cmd))
    (result : Option (Except String Unit)) (id : Nat) :
    (sends cmd result id).length ≤ if ticket.id = id then 1 else 0 := by
  cases cmd with
  | switchSpace workspaceId reply =>
    rw [show reply = ticket.id from home workspaceId reply rfl]
    simp only [sends]
    split_ifs <;> simp
  | _ => simp [sends]

theorem records_carries (once : Once server)
    (taken : step zellijValidate backends mux server (.records key) = some next) : Carries [] server next := by
  have consistent := once.steady.consistent
  obtain ⟨connection, ticket, cmd, query, result, found, busy, rfl⟩ := records_some consistent taken
  have keyed := consistent.keyed key connection found
  have notes := Arms.record_notes cmd query result (load server.service connection.relay)
  have own := (congrArg Task.connectionId notes.task).trans keyed
  have sent (id : Nat) : (Arms.record cmd query result (load server.service connection.relay)).answers id =
      connection.relay.answers id ++ sends cmd result id := record_answers cmd query result _ id
  constructor
  · exact once.home
  · intro other arm left
    by_cases here : other = key
    · subst here
      rw [AList.lookup_erase] at left
      contradiction
    · rw [AList.lookup_erase_ne here] at left
      exact once.held other arm left
  · intro id
    have answers := store_answering found own id
    rw [sent id, List.length_append] at answers
    have length : (sends cmd result id).length ≤ if ticket.id = id then 1 else 0 :=
      sends_length (once.held key _ busy) result id
    have done : total (holding id) (server.arms.erase key) + (if ticket.id = id then 1 else 0) =
        total (holding id) server.arms := total_remove busy
    simp only [places, Service.places, List.count_nil]
    simp only [store] at answers ⊢
    omega
  · exact fun _ _ => store_answered found own fun id => ⟨_, (sent id).symm⟩

def sentBy : Event Answer State -> List Nat
  | .service event => Service.sentBy event
  | _ => []

theorem step_carries (once : Once server) {event : Event Answer State}
    (taken : step zellijValidate backends mux server event = some next) : Carries (sentBy event) server next := by
  cases event with
  | service event =>
    obtain ⟨service, beside, stepped, rfl⟩ := service_some taken
    have own (key : String) (query : FloatQuery) (answer : Answer) : event ≠ .dequeue key query answer := by
      rintro rfl
      simp [runsBesideArms] at beside
    have carries := Service.step_carries once.steady.consistent once.home own stepped
    refine { home := carries.home, held := once.held, places := ?_, answered := carries.answered }
    intro id
    have fewer := carries.places id
    simp only [places, sentBy]
    omega
  | takes key => exact takes_carries once taken
  | performs key query answer => exact performs_carries once taken
  | records key => exact records_carries once taken

theorem step_numbered_by {event : Event Answer State}
    (taken : step zellijValidate backends mux server event = some next) {id : Nat} (new : id ∈ sentBy event) :
    server.service.nextTicket ≤ id ∧ next.service.nextTicket = id + 1 := by
  cases event with
  | service event =>
    obtain ⟨service, _, stepped, rfl⟩ := service_some taken
    exact Service.step_numbered_by stepped new
  | _ => contradiction

theorem once_step (server : Server State World) (event : Event Answer State) (next : Server State World)
    (once : Once server) (taken : step zellijValidate backends mux server event = some next) : Once next := by
  have carries := step_carries once taken
  have later := (step_shifts once.steady taken).later
  constructor
  · exact steady_step server event next once.steady taken
  · exact carries.home
  · exact carries.held
  · intro id
    have places := carries.places id
    by_cases new : id ∈ sentBy event
    · have unused := once.unused id (step_numbered_by taken new).1
      have single : (sentBy event).count id ≤ 1 := by
        rcases event with (_ | _ | _ | _ | _ | _) | _ | _ | _ <;> simp [sentBy, Service.sentBy, List.count_singleton]
        split_ifs <;> simp
      omega
    · have before := once.once id
      rw [List.count_eq_zero_of_not_mem new] at places
      omega
  · intro id ahead
    have places := carries.places id
    have unused := once.unused id (by omega)
    have old : id ∉ sentBy event := by
      intro new
      have counted := (step_numbered_by taken new).2
      omega
    rw [List.count_eq_zero_of_not_mem old] at places
    omega

end Steps

section Places

variable {server : Server State World} {id : Nat} {first second result : Except String Unit}

-- A oneshot carries one value.
theorem Once.unanimous (once : Once server) (left : Answered server.service id first)
    (right : Answered server.service id second) : first = second := by
  obtain ⟨key, connection, found, member⟩ := left
  obtain ⟨other, beside, looked, alike⟩ := right
  have single := once.once id
  simp only [places, Service.places] at single
  have one : 0 < answering id connection := List.length_pos_of_mem member
  have more : 0 < answering id beside := List.length_pos_of_mem alike
  by_cases same : other = key
  · subst same
    rw [found] at looked
    obtain rfl := Option.some.inj looked
    have bound : answering id connection ≤ total (answering id) server.service.connections := weight_le_total found
    have length : answering id connection = 1 := by omega
    obtain ⟨only, alone⟩ := List.length_eq_one_iff.mp length
    rw [alone, List.mem_singleton] at member alike
    rw [member, alike]
  · have both : answering id connection + answering id beside ≤ total (answering id) server.service.connections :=
      weights_le_total found looked same
    omega

variable {key : String} {arm : Arm}

theorem Once.unanswered (once : Once server) (busy : server.arms.lookup key = some arm)
    (result : Except String Unit) : ¬ Answered server.service arm.ticket.id result := by
  rintro ⟨other, connection, looked, member⟩
  have single := once.once arm.ticket.id
  simp only [places, Service.places] at single
  have answer : 0 < answering arm.ticket.id connection := List.length_pos_of_mem member
  have bound : answering arm.ticket.id connection ≤ total (answering arm.ticket.id) server.service.connections :=
    weight_le_total looked
  have held : holding arm.ticket.id arm ≤ total (holding arm.ticket.id) server.arms := weight_le_total busy
  simp only [holding, if_true] at held
  omega

theorem Once.unqueued (once : Once server) (busy : server.arms.lookup key = some arm) {name : Nat}
    {channel : Channel Command} (found : server.service.channels.lookup name = some channel) {command : Command}
    (queued : command ∈ channel.queue) : command.1.id ≠ arm.ticket.id := by
  intro same
  have single := once.once arm.ticket.id
  simp only [places, Service.places] at single
  have waiting : 0 < carrying arm.ticket.id channel := List.countP_pos_iff.mpr ⟨command, queued, by simp [same]⟩
  have queue : carrying arm.ticket.id channel ≤ total (carrying arm.ticket.id) server.service.channels :=
    weight_le_total found
  have held : holding arm.ticket.id arm ≤ total (holding arm.ticket.id) server.arms := weight_le_total busy
  simp only [holding, if_true] at held
  omega

end Places

end Muxrd.Interleaving
