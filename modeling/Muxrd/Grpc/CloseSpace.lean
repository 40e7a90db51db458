import Muxrd.Grpc.Interleaving
import Muxrd.Grpc.Viewing

set_option autoImplicit false

namespace Muxrd.CloseSpace

open Routing Attach Helpers Herdr Viewing Visible Interleaving
open Inbound hiding step
open Service hiding step
open Arms (Arm Loop runsBeside perform_calls)
open Spaces (connectionCurrentSpace resolveSpaceRelay)
open Registry (mintConnectionId mintConnectionId_nonempty)

variable {serialize : ClientMessage -> Except String (List UInt8)}

abbrev HerdrService := MuxrService HerdrMuxSender World

abbrev HerdrServer := Server HerdrMuxSender World

abbrev HerdrEvent := Interleaving.Event Answer HerdrMuxSender

section Tracked

structure Tracked (server : HerdrServer) : Prop where
  steady : Steady server
  nonempty : ∀ key ∈ server.service.connections, key ≠ ""
  inStep : ∀ key connection, server.service.connections.lookup key = some connection ->
    InStep key connection.relay.session (loopOf server connection)

theorem inStep_congr {key session : String} {loop other : Loop HerdrMuxSender World}
    (inStep : InStep key session loop) (task : other.relay.task = loop.relay.task)
    (phase : other.relay.phase = loop.relay.phase) (arm : other.arm = loop.arm)
    (entry : other.relay.viewState.lookup key = loop.relay.viewState.lookup key)
    (workspace : other.relay.sender.workspaceId = loop.relay.sender.workspaceId) : InStep key session other := by
  obtain rfl := inStep.key
  apply inStep.keep task arm (phase ▸ ·) _ _ workspace
  · intro busy
    rw [phase]
    exact inStep.busy (arm ▸ busy)
  · exact (Arms.shown_of_task task other.arm).trans entry

variable {server next : HerdrServer}

theorem Tracked.empty (world : World) : Tracked (Interleaving.empty world) :=
  { steady := Steady.empty world
    nonempty := by simp [Interleaving.empty, Service.empty]
    inStep := by simp [Interleaving.empty, Service.empty] }

theorem Tracked.of_same (tracked : Tracked server) (steady : Steady next)
    (connections : next.service.connections = server.service.connections)
    (viewState : next.service.viewState = server.service.viewState) (arms : next.arms = server.arms) :
    Tracked next :=
  { steady
    nonempty := by
      rw [connections]
      exact tracked.nonempty
    inStep := by
      intro key connection found
      rw [connections] at found
      have arm : next.arms.lookup connection.relay.connectionId = server.arms.lookup connection.relay.connectionId := by
        rw [arms]
      exact inStep_congr (tracked.inStep key connection found) rfl rfl arm (congrArg (AList.lookup key) viewState) rfl }

theorem tracked_store (tracked : Tracked server) {key : String} {connection : Connection HerdrMuxSender World}
    (found : server.service.connections.lookup key = some connection) {loop : Loop HerdrMuxSender World}
    (task : loop.relay.task = connection.relay.task)
    (others : ∀ other, other ≠ key -> loop.relay.viewState.lookup other = server.service.viewState.lookup other)
    (inStep : InStep key connection.relay.session loop) (steady : Steady next)
    (connections : next.service.connections = (store server.service connection loop.relay).connections)
    (viewState : next.service.viewState = loop.relay.viewState)
    (here : next.arms.lookup key = loop.arm)
    (elsewhere : ∀ other, other ≠ key -> next.arms.lookup other = server.arms.lookup other) : Tracked next := by
  have named : loop.relay.connectionId = key :=
    (congrArg Task.connectionId task).trans (tracked.steady.consistent.keyed key connection found)
  refine { steady, nonempty := ?_, inStep := ?_ }
  · intro other member
    rw [connections] at member
    rcases (mem_store named).mp member with rfl | member
    · exact tracked.nonempty other (mem_iff_lookup.mpr ⟨connection, found⟩)
    · exact tracked.nonempty other member
  · intro other looked there
    rw [connections] at there
    by_cases same : other = key
    · subst same
      rw [store_own named] at there
      rw [← Option.some.inj there, show loop.relay.session = connection.relay.session from congrArg Task.session task]
      exact inStep_congr inStep rfl rfl (by rw [← here, ← named]; rfl) (congrArg (AList.lookup other) viewState) rfl
    · rw [store_other named same] at there
      have keyed := tracked.steady.consistent.keyed other looked there
      have arm : (loopOf next looked).arm = (loopOf server looked).arm := by
        change next.arms.lookup looked.relay.connectionId = server.arms.lookup looked.relay.connectionId
        rw [keyed, elsewhere other same]
      have entry : next.service.viewState.lookup other = server.service.viewState.lookup other := by
        rw [viewState, others other same]
      exact inStep_congr (tracked.inStep other looked there) rfl rfl arm entry rfl

variable {Backend : Type} {zellijValidate : String -> Except (List Piece) Unit} {backends : BackendSet Backend}

theorem tracked_attach {service after : MuxrService HerdrMuxSender World} {arms : AList (fun _ : String => Arm)}
    (tracked : Tracked { service, arms }) (steady : Steady { service := after, arms })
    {caller : Option Bool} {first : FirstFrame} {size : Option (UInt16 × UInt16)}
    {opened : Except String HerdrMuxSender} {random : BitVec 128} {channel : Nat}
    (taken : attach zellijValidate backends (muxSender serialize) service caller first size opened random channel =
      some after) : Tracked { service := after, arms } := by
  obtain rfl | ⟨target, sender, unminted, _, rfl⟩ := attach_some taken
  · exact tracked
  · refine { steady, nonempty := ?_, inStep := ?_ }
    · intro key member
      rcases (AList.mem_insert _).mp member with rfl | member
      · exact mintConnectionId_nonempty random
      · exact tracked.nonempty key member
    · intro key connection found
      by_cases new : key = mintConnectionId random
      · subst new
        rw [AList.lookup_insert] at found
        obtain rfl := Option.some.inj found
        have fresh : service.viewState.lookup (mintConnectionId random) = none := by
          by_contra shown
          obtain ⟨entry, shown⟩ := Option.ne_none_iff_exists'.mp shown
          exact unminted (tracked.steady.consistent.viewed _ entry shown)
        have idle : arms.lookup (mintConnectionId random) = none := by
          by_contra busy
          exact unminted (tracked.steady.present _ (AList.lookup_isSome.mp (Option.isSome_iff_ne_none.mpr busy)))
        have started : InStep (mintConnectionId random) target.id
            { relay := attached (muxSender serialize) target (mintConnectionId random) sender service.world
                service.viewState, arm := none } := inStep_attached serialize target sender service.world fresh
        exact inStep_congr started rfl rfl idle rfl rfl
      · rw [AList.lookup_insert_ne new] at found
        exact inStep_congr (tracked.inStep key connection found) rfl rfl rfl rfl rfl

theorem settle_same (service : MuxrService HerdrMuxSender World) (connection : Connection HerdrMuxSender World)
    (event : Inbound.Event Answer) :
    (settle service connection event).connections = service.connections ∧
      (settle service connection event).viewState = service.viewState := by
  cases event <;> exact ⟨rfl, rfl⟩

theorem handle_same {service after : MuxrService HerdrMuxSender World} {ticket : Ticket} {caller : Option Bool}
    {request : Request} {outcome : Outcome}
    (handled : handle zellijValidate backends service ticket caller request = .ok (outcome, after)) :
    after.connections = service.connections ∧ after.viewState = service.viewState := by
  rcases handle_cases handled with rfl | ⟨_, _, _, _, _, rfl, _⟩ | ⟨_, _, _, _, _, _, _, rfl⟩ <;> exact ⟨rfl, rfl⟩

theorem repoint_same {service after : MuxrService HerdrMuxSender World} {id : Nat}
    {posted : Except String (List SpaceSnapshot)} (taken : repoint service id posted = some after) :
    after.connections = service.connections ∧ after.viewState = service.viewState := by
  obtain ⟨_, _, rfl | ⟨_, _, _, _, rfl⟩⟩ := repoint_some taken
  · exact ⟨rfl, rfl⟩
  · exact ⟨rfl, rfl⟩

theorem tracked_service {event : Service.Event Answer HerdrMuxSender} (tracked : Tracked server)
    (taken : step zellijValidate backends (muxSender serialize) server (.service event) = some next) :
    Tracked next := by
  have steady := steady_step server _ next tracked.steady taken
  have consistent := tracked.steady.consistent
  obtain ⟨service, beside, stepped, rfl⟩ := service_some taken
  cases event with
  | attach => exact tracked_attach tracked steady stepped
  | dequeue => simp [runsBesideArms] at beside
  | relay key event =>
    obtain ⟨connection, found, stepped⟩ := step_relay stepped
    obtain ⟨relay, _, own, moved, rfl⟩ := relayStep_some stepped
    obtain ⟨connections, viewState⟩ := settle_same (store server.service connection relay) connection event
    obtain ⟨task, others⟩ := stepped_frame consistent found own moved
    have keyed := consistent.keyed key connection found
    have idle : (loopOf server connection).arm = server.arms.lookup key := by rw [← keyed]; rfl
    have inStep := inStep_other (tracked.inStep key connection found) (idle ▸ beside) moved
    exact tracked_store tracked found task others inStep steady connections viewState idle.symm fun _ _ => rfl
  | rpc id caller request =>
    obtain ⟨_, ⟨outcome, after, handled, rfl⟩ | rfl⟩ := step_rpc stepped
    · obtain ⟨connections, viewState⟩ := handle_same handled
      exact tracked.of_same steady connections viewState rfl
    · exact tracked.of_same steady rfl rfl rfl
  | repoint id posted =>
    obtain ⟨connections, viewState⟩ := repoint_same stepped
    exact tracked.of_same steady connections viewState rfl
  | elsewhere answer =>
    obtain rfl := Option.some.inj stepped
    exact tracked.of_same steady rfl rfl rfl
  | reorder control =>
    obtain ⟨_, rfl⟩ := step_reorder stepped
    exact tracked.of_same steady rfl rfl rfl

theorem tracked_step (server : HerdrServer) (event : HerdrEvent) (next : HerdrServer) (tracked : Tracked server)
    (taken : step zellijValidate backends (muxSender serialize) server event = some next) : Tracked next := by
  have steady := steady_step server event next tracked.steady taken
  have consistent := tracked.steady.consistent
  by_cases inner : ∃ served, event = .service served
  · obtain ⟨served, rfl⟩ := inner
    exact tracked_service tracked taken
  · push Not at inner
    obtain ⟨key, connection, turn, loop, channels, found, own, moved, rfl⟩ := turn_some inner taken
    have keyed := consistent.keyed key connection found
    have continues := Arms.turn_continues own moved
    have named : loop.relay.connectionId = key := (congrArg Task.connectionId continues.task).trans keyed
    have inStep := inStep_step _ turn loop (tracked.inStep key connection found) moved
    apply tracked_store tracked found continues.task _ inStep steady rfl rfl
    · exact put_arms_own connection named
    · intro other different
      exact put_arms_other connection (named ▸ different)
    · intro other different
      exact continues.others other (by rwa [show (loopOf server connection).relay.connectionId = key from keyed])

theorem tracked_of_reachable (reached : Reachable zellijValidate backends (muxSender serialize) server) :
    Tracked server := by
  obtain ⟨world, reached⟩ := reached
  exact Transition.invariant_of_reachable tracked_step (Tracked.empty world) reached

end Tracked

section Recorded

variable {Backend : Type} {zellijValidate : String -> Except (List Piece) Unit} {backends : BackendSet Backend}
  {server next : HerdrServer} {key : String}

-- The space that the loop of the connection has last recorded as its own.
def recordsSpace (key : String) (server : HerdrServer) (last : Option String) : HerdrEvent -> Option String
  | .records other =>
    if other = key then Arms.recordsSpace (server.arms.lookup key) last (.records : Arms.Event Answer) else last
  | .service (.relay other event) =>
    if other = key then Arms.recordsSpace (server.arms.lookup key) last (.other event) else last
  | _ => last

def recordedSpace (step : HerdrServer -> HerdrEvent -> Option HerdrServer) (key : String) :
    HerdrServer -> Option String -> List HerdrEvent -> Option String
  | _, last, [] => last
  | server, last, event :: rest =>
    match step server event with
    | some next => recordedSpace step key next (recordsSpace key server last event) rest
    | none => last

def spaceOf (server : HerdrServer) (key : String) : Option String :=
  spaceMemory.entry (server.service.viewState.lookup key)

theorem spaceOf_loop (tracked : Tracked server) {connection : Connection HerdrMuxSender World}
    (found : server.service.connections.lookup key = some connection) :
    spaceMemory.entry (loopOf server connection).shown = spaceOf server key := by
  obtain rfl := tracked.steady.consistent.keyed key connection found
  rfl

theorem arm_loop (tracked : Tracked server) {connection : Connection HerdrMuxSender World}
    (found : server.service.connections.lookup key = some connection) :
    (loopOf server connection).arm = server.arms.lookup key := by
  obtain rfl := tracked.steady.consistent.keyed key connection found
  rfl

theorem spaceOf_turn (tracked : Tracked server) {other : String} {connection : Connection HerdrMuxSender World}
    (found : server.service.connections.lookup other = some connection) {turn : Arms.Event Answer}
    {loop : Loop HerdrMuxSender World} (taken : Arms.step (muxSender serialize) (loopOf server connection) turn = some loop)
    (others : ∀ key, key ≠ other -> loop.relay.viewState.lookup key = server.service.viewState.lookup key)
    (viewState : next.service.viewState = loop.relay.viewState) :
    spaceOf next key =
      if other = key then Arms.recordsSpace (server.arms.lookup key) (spaceOf server key) turn else spaceOf server key := by
  split_ifs with same
  · subst same
    have inStep := tracked.inStep other connection found
    rw [← arm_loop tracked found, ← spaceOf_loop tracked found, ← recorded_step inStep taken]
    obtain rfl := (inStep_step _ turn loop inStep taken).key
    simp only [spaceOf, Loop.shown, viewState]
  · have away : key ≠ other := fun equal => same equal.symm
    simp only [spaceOf, viewState, others key away]

theorem spaceOf_step {event : HerdrEvent} (tracked : Tracked server)
    (taken : step zellijValidate backends (muxSender serialize) server event = some next) :
    spaceOf next key = recordsSpace key server (spaceOf server key) event := by
  have consistent := tracked.steady.consistent
  have same {service : MuxrService HerdrMuxSender World} {arms : AList (fun _ : String => Arm)}
      (viewState : service.viewState = server.service.viewState) :
      spaceOf { service, arms } key = spaceOf server key :=
    congrArg (fun registry : ViewStateRegistry => spaceMemory.entry (registry.lookup key)) viewState
  cases event with
  | service event =>
    obtain ⟨service, beside, stepped, rfl⟩ := service_some taken
    cases event with
    | attach =>
      obtain rfl | ⟨_, _, _, _, rfl⟩ := attach_some stepped
      · rfl
      · rfl
    | dequeue => simp [runsBesideArms] at beside
    | relay other event =>
      obtain ⟨connection, found, stepped⟩ := step_relay stepped
      obtain ⟨relay, _, own, moved, rfl⟩ := relayStep_some stepped
      have viewState := (settle_same (store server.service connection relay) connection event).2
      have alone : runsBeside (loopOf server connection).arm event = true := arm_loop tracked found ▸ beside
      have turned : Arms.step (muxSender serialize) (loopOf server connection) (.other event) =
          some { loopOf server connection with relay } := by
        simp only [Arms.step, alone, if_true]
        rw [show Inbound.step (muxSender serialize) (loopOf server connection).relay event = some relay from moved]
        rfl
      exact spaceOf_turn tracked found turned (stepped_frame consistent found own moved).2 viewState
    | rpc id caller request =>
      obtain ⟨_, ⟨outcome, after, handled, rfl⟩ | rfl⟩ := step_rpc stepped
      · exact same (handle_same handled).2
      · rfl
    | repoint id posted => exact same (repoint_same stepped).2
    | elsewhere answer =>
      obtain rfl := Option.some.inj stepped
      rfl
    | reorder control =>
      obtain ⟨_, rfl⟩ := step_reorder stepped
      rfl
  | takes other =>
    obtain ⟨connection, channel, ticket, cmd, rest, found, running, idle, looked, waiting, rfl⟩ :=
      takes_some consistent taken
    rfl
  | performs other query answer =>
    obtain ⟨connection, ticket, cmd, found, busy, rfl⟩ := performs_some consistent taken
    exact same (perform_calls _ ticket cmd query answer _).viewState
  | records other =>
    obtain ⟨connection, found, taken⟩ := Option.bind_eq_some_iff.mp taken
    obtain ⟨loop, moved, rfl⟩ := Option.map_eq_some_iff.mp taken
    have continues := Arms.turn_continues (by simp) moved
    refine spaceOf_turn tracked found moved ?_ rfl
    intro other different
    apply continues.others other
    rwa [show (loopOf server connection).relay.connectionId = _ from consistent.keyed _ connection found]

theorem spaceOf_run (key : String) {final : HerdrServer} {events : List HerdrEvent} (tracked : Tracked server)
    (ran : Transition.run (step zellijValidate backends (muxSender serialize)) server events = some final) :
    spaceOf final key =
      recordedSpace (step zellijValidate backends (muxSender serialize)) key server (spaceOf server key) events := by
  induction events generalizing server with
  | nil =>
    obtain rfl : server = final := by simpa using ran
    rfl
  | cons event rest ih =>
    obtain ⟨next, taken, ran⟩ := Transition.run_cons.mp ran
    rw [ih (tracked_step server event next tracked taken) ran, spaceOf_step tracked taken]
    simp only [recordedSpace, taken]

end Recorded

section Steering

variable {Backend : Type} {zellijValidate : String -> Except (List Piece) Unit} {backends : BackendSet Backend}
  {service after next : HerdrService} {server started : HerdrServer}
  {session connectionId spaceId : String} {id : Nat}

/-- The sender a CloseSpace that went through re-points, if it re-points anybody. -/
def steered (service : HerdrService) (session connectionId spaceId : String) : Option Nat :=
  if connectionCurrentSpace service.viewState session connectionId = some spaceId then
    resolveSpaceRelay service.control session connectionId
  else none

theorem closeSpace_spec {ticket : Ticket} {caller : Option Bool} {listed : Except String (List SpaceSnapshot)}
    {closed : Except String ActionAck} {outcome : Outcome}
    (handled : handle zellijValidate backends service ticket caller
      (.closeSpace session connectionId spaceId listed closed) = .ok (outcome, after)) :
    ∃ ack, outcome = .acked ack ∧
      after = if ack.ok then startRepoint service ticket session connectionId spaceId else service := by
  obtain ⟨_, _, rest⟩ := bind_ok.mp handled
  obtain ⟨_, _, rest⟩ := bind_ok.mp rest
  obtain ⟨_, _, answered⟩ := bind_ok.mp rest
  split at answered
  · contradiction
  · split_ifs at answered
    · obtain ⟨rfl, rfl⟩ : _ = outcome ∧ service = after := by simpa [pure, Except.pure] using answered
      exact ⟨_, rfl, rfl⟩
    · split at answered
      · contradiction
      next closing =>
        split_ifs at answered with done
        · obtain ⟨rfl, rfl⟩ : _ = outcome ∧ startRepoint service ticket session connectionId spaceId = after := by
            simpa [pure, Except.pure] using answered
          exact ⟨_, rfl, rfl⟩
        · obtain ⟨rfl, rfl⟩ : _ = outcome ∧ service = after := by simpa [pure, Except.pure] using answered
          exact ⟨_, rfl, by simp [done]⟩

theorem startRepoint_eq (ticket : Ticket) : startRepoint service ticket session connectionId spaceId =
    match steered service session connectionId spaceId with
    | some sender => { service with repoints := service.repoints.insert ticket.id sender }
    | none => service := by
  unfold startRepoint steered
  split_ifs <;> rfl

theorem repoints_kept {id : Nat} (passed : id < service.nextTicket) {event : Service.Event Answer HerdrMuxSender}
    (pending : ∀ posted, event ≠ .repoint id posted)
    (taken : Service.step zellijValidate backends (muxSender serialize) service event = some next) :
    next.repoints.lookup id = service.repoints.lookup id := by
  cases event with
  | attach =>
    obtain rfl | ⟨_, _, _, _, rfl⟩ := attach_some taken
    · rfl
    · rfl
  | relay connectionId event =>
    obtain ⟨connection, _, taken⟩ := step_relay taken
    obtain ⟨relay, _, _, _, rfl⟩ := relayStep_some taken
    cases event <;> rfl
  | dequeue connectionId query answer =>
    obtain ⟨connection, _, taken⟩ := step_dequeue taken
    obtain ⟨_, _, _, _, relay, _, _, _, rfl⟩ := dequeue_some taken
    rfl
  | rpc other caller request =>
    obtain ⟨numbered, ⟨outcome, after, handled, rfl⟩ | rfl⟩ := step_rpc taken
    · rcases handle_cases handled with rfl | ⟨_, _, _, _, _, rfl, _⟩ | ⟨_, _, sender, _, _, _, _, rfl⟩
      · rfl
      · rfl
      · -- Requests that come later have other numbers.
        have different : id ≠ other := by omega
        exact AList.lookup_insert_ne different
    · rfl
  | repoint other posted =>
    have different : id ≠ other := by
      rintro rfl
      exact pending posted rfl
    obtain ⟨_, _, rfl | ⟨_, _, _, _, rfl⟩⟩ := repoint_some taken
    · exact AList.lookup_erase_ne different
    · exact AList.lookup_erase_ne different
  | elsewhere answer => exact Option.some.inj taken ▸ rfl
  | reorder control =>
    obtain ⟨_, rfl⟩ := step_reorder taken
    rfl

theorem repoints_kept_step {event : HerdrEvent} (passed : id < server.service.nextTicket)
    (pending : ∀ posted, event ≠ .service (.repoint id posted))
    (taken : step zellijValidate backends (muxSender serialize) server event = some started) :
    started.service.repoints.lookup id = server.service.repoints.lookup id := by
  by_cases inner : ∃ served, event = .service served
  · obtain ⟨served, rfl⟩ := inner
    obtain ⟨service, _, stepped, rfl⟩ := service_some taken
    refine repoints_kept passed ?_ stepped
    rintro posted rfl
    exact pending posted rfl
  · push Not at inner
    obtain ⟨_, connection, _, loop, channels, _, _, _, rfl⟩ := turn_some inner taken
    rfl

structure Steering (id : Nat) (connectionId : String) (server : HerdrServer) : Prop where
  steady : Steady server
  passed : id < server.service.nextTicket
  own : ∀ sender, server.service.repoints.lookup id = some sender -> sender ∈ server.service.channels ∧
    ∀ key connection, server.service.connections.lookup key = some connection -> connection.channel = sender ->
      key = connectionId

theorem steering_step (server : HerdrServer) (event : HerdrEvent) (next : HerdrServer)
    (steering : Steering id connectionId server)
    (taken : step zellijValidate backends (muxSender serialize) server event = some next) :
    Steering id connectionId next := by
  have shifts := step_shifts steering.steady taken
  constructor
  · exact steady_step server event next steering.steady taken
  · exact lt_of_lt_of_le steering.passed shifts.later
  · intro sender waiting
    rcases shifts.repointed id sender waiting with before | new
    · obtain ⟨member, own⟩ := steering.own sender before
      refine ⟨shifts.kept sender member, ?_⟩
      intro key connection found same
      rcases shifts.connected key connection found with ⟨old, was, channel, _⟩ | ⟨_, new⟩
      · exact own key old was (channel.symm.trans same)
      · rw [same] at new
        exact absurd member new
    · exact absurd new (Nat.not_le.mpr steering.passed)

theorem asks_some {caller : Option Bool} {request : Request}
    (asked : step zellijValidate backends (muxSender serialize) server (.service (.rpc id caller request)) =
      some started) :
    server.service.nextTicket ≤ id ∧ ∃ after, started.arms = server.arms ∧
      started.service = { after with nextTicket := id + 1 } ∧
      ((∃ outcome, handle zellijValidate backends server.service (ticketOf id caller) caller request =
        .ok (outcome, after)) ∨
        (∃ status, handle zellijValidate backends server.service (ticketOf id caller) caller request = .error status) ∧
          after = server.service) := by
  obtain ⟨service, _, stepped, rfl⟩ := service_some asked
  simp only [Service.step] at stepped
  split_ifs at stepped with numbered
  refine ⟨numbered, ?_⟩
  cases handled : handle zellijValidate backends server.service (ticketOf id caller) caller request with
  | ok answered =>
    rw [handled] at stepped
    exact ⟨answered.2, rfl, (Option.some.inj stepped).symm, .inl ⟨answered.1, rfl⟩⟩
  | error status =>
    rw [handled] at stepped
    exact ⟨server.service, rfl, (Option.some.inj stepped).symm, .inr ⟨⟨status, rfl⟩, rfl⟩⟩

theorem unused_of_numbered (steady : Steady server) (numbered : server.service.nextTicket ≤ id) :
    server.service.repoints.lookup id = none := by
  by_contra used
  obtain ⟨sender, used⟩ := Option.ne_none_iff_exists'.mp used
  exact absurd (steady.consistent.repointed id sender used).1 (Nat.not_lt.mpr numbered)

theorem closeSpace_waiting (steady : Steady server) {caller : Option Bool}
    {listed : Except String (List SpaceSnapshot)} {closed : Except String ActionAck}
    (asked : step zellijValidate backends (muxSender serialize) server
      (.service (.rpc id caller (.closeSpace session connectionId spaceId listed closed))) = some started)
    {ack : ProtoAck}
    (handled : handle zellijValidate backends server.service (ticketOf id caller) caller
      (.closeSpace session connectionId spaceId listed closed) = .ok (.acked ack, after)) :
    started.service.repoints.lookup id =
      if ack.ok then steered server.service session connectionId spaceId else none := by
  obtain ⟨numbered, left, _, ended, answered⟩ := asks_some asked
  have unused := unused_of_numbered steady numbered
  obtain ⟨_, ⟨⟩, spec⟩ := closeSpace_spec handled
  obtain rfl : left = after := by
    rcases answered with ⟨outcome, again⟩ | ⟨⟨status, refused⟩, _⟩
    · rw [handled] at again
      exact (Prod.mk.inj (Except.ok.inj again)).2.symm
    · rw [handled] at refused
      contradiction
  rw [ended, spec]
  cases ack.ok with
  | false => exact unused
  | true =>
    simp only [if_true, startRepoint_eq]
    cases steered server.service session connectionId spaceId with
    | none => exact unused
    | some sender => exact AList.lookup_insert _

theorem closeSpace_starts (steady : Steady server) {caller : Option Bool}
    {listed : Except String (List SpaceSnapshot)} {closed : Except String ActionAck}
    (asked : step zellijValidate backends (muxSender serialize) server
      (.service (.rpc id caller (.closeSpace session connectionId spaceId listed closed))) = some started) :
    Steering id connectionId started ∧ started.service.channels = server.service.channels := by
  have later := steady_step server _ started steady asked
  obtain ⟨numbered, after, _, ended, answered⟩ := asks_some asked
  have unused := unused_of_numbered steady numbered
  have passed : id < started.service.nextTicket := by
    rw [ended]
    exact Nat.lt_succ_self id
  have left : after = server.service ∨
      ∃ sender, steered server.service session connectionId spaceId = some sender ∧
        after = { server.service with repoints := server.service.repoints.insert id sender } := by
    rcases answered with ⟨outcome, handled⟩ | ⟨_, quiet⟩
    · obtain ⟨ack, _, spec⟩ := closeSpace_spec handled
      rw [startRepoint_eq] at spec
      split_ifs at spec
      · split at spec
        next sender target => exact .inr ⟨sender, target, spec⟩
        · exact .inl spec
      · exact .inl spec
    · exact .inl quiet
  rcases left with rfl | ⟨sender, target, rfl⟩
  · refine ⟨{ steady := later, passed, own := ?_ }, by rw [ended]⟩
    intro sender waiting
    rw [ended] at waiting
    exact absurd (waiting.symm.trans unused) (by simp)
  · have resolved : resolveSpaceRelay server.service.control session connectionId = some sender :=
      (Option.ite_none_right_eq_some.mp target).2
    obtain ⟨entry, registered, _, rfl⟩ := resolveSpaceRelay_some resolved
    obtain ⟨connection, found, rfl⟩ := steady.consistent.registered connectionId entry registered
    refine ⟨{ steady := later, passed, own := ?_ }, by rw [ended]⟩
    intro other waiting
    rw [ended] at waiting ⊢
    obtain rfl := Option.some.inj ((AList.lookup_insert _).symm.trans waiting)
    refine ⟨steady.consistent.owned connectionId connection found, ?_⟩
    intro key looked there shared
    exact steady.consistent.distinct key connectionId looked connection there found shared

end Steering

section Repoint

variable {service next : HerdrService}

def Enqueued (id channel : Nat) (target : String) (service next : HerdrService) : Prop :=
  ∃ waiting, service.channels.lookup channel = some waiting ∧ next.channels = service.channels.insert channel
    { waiting with queue := waiting.queue ++ [(⟨id, false⟩, .switchSpace target id)] }

theorem repoint_sends {id : Nat} {posted : Except String (List SpaceSnapshot)}
    (taken : repoint service id posted = some next) :
    next.channels = service.channels ∨
      ∃ sender target, service.repoints.lookup id = some sender ∧ Enqueued id sender target service next := by
  obtain ⟨sender, waiting, rfl | ⟨target, channels, _, sent, rfl⟩⟩ := repoint_some taken
  · exact .inl rfl
  · obtain ⟨channel, found, _, rfl⟩ := Channels.send_eq_some.mp sent
    exact .inr ⟨sender, target, waiting, channel, found, rfl⟩

theorem repointTarget_listed {spaces : List SpaceSnapshot} (left : spaces ≠ []) :
    ∃ space ∈ spaces, repointTarget (.ok spaces) = some space.id := by
  cases focused : spaces.find? (·.active) with
  | some space => exact ⟨space, List.mem_of_find?_eq_some focused, by simp [repointTarget, focused]⟩
  | none =>
    cases spaces with
    | nil => contradiction
    | cons first rest => exact ⟨first, List.mem_cons_self, by simp [repointTarget, focused]⟩

theorem repoint_open {id sender : Nat} (waiting : service.repoints.lookup id = some sender)
    (alive : service.channels.isOpen sender = true) {spaces : List SpaceSnapshot} (left : spaces ≠ []) :
    ∃ next, repoint service id (.ok spaces) = some next ∧
      ∃ space ∈ spaces, Enqueued id sender space.id service next := by
  obtain ⟨space, member, chosen⟩ := repointTarget_listed left
  obtain ⟨channel, found, receiving⟩ := Channels.isOpen_eq_true.mp alive
  obtain ⟨channels, sent, after⟩ : ∃ channels, service.channels.send sender (⟨id, false⟩, .switchSpace space.id id) =
      some channels ∧ channels = service.channels.insert sender
        { channel with queue := channel.queue ++ [(⟨id, false⟩, .switchSpace space.id id)] } :=
    ⟨_, Channels.send_eq_some.mpr ⟨channel, found, receiving, rfl⟩, rfl⟩
  refine ⟨{ service with repoints := service.repoints.erase id, channels }, ?_, space, member, channel, found, after⟩
  simp only [repoint, waiting, chosen, sent]

end Repoint

section Returned

variable {Backend : Type} {zellijValidate : String -> Except (List Piece) Unit} {backends : BackendSet Backend}
  {server started final : HerdrServer} {id channel : Nat} {session connectionId spaceId : String}

def SparesOthers (step : HerdrServer -> HerdrEvent -> Option HerdrServer) (id : Nat) (connectionId : String)
    (server : HerdrServer) (event : HerdrEvent) : Prop :=
  ∀ posted next, event = .service (.repoint id posted) -> step server event = some next ->
    ∀ other connection, server.service.connections.lookup other = some connection -> other ≠ connectionId ->
      next.service.channels.lookup connection.channel = server.service.channels.lookup connection.channel

-- What the request waits for after the close: workspaces are left, and the relay is still there.
def ListsSpaces (id channel : Nat) (server : HerdrServer) : HerdrEvent -> Prop
  | .service (.repoint other posted) =>
    other = id -> server.service.channels.isOpen channel = true ∧ ∃ spaces, posted = .ok spaces ∧ spaces ≠ []
  | _ => True

def Sends (id channel : Nat) (server : HerdrServer) (event : HerdrEvent) (next : HerdrServer) : Prop :=
  ∃ spaces, event = .service (.repoint id (.ok spaces)) ∧
    ∃ space ∈ spaces, Enqueued id channel space.id server.service next.service

theorem repoint_step {posted : Except String (List SpaceSnapshot)} {next : HerdrServer}
    (taken : step zellijValidate backends (muxSender serialize) server (.service (.repoint id posted)) = some next) :
    ∃ service, repoint server.service id posted = some service ∧ next = { server with service } := by
  obtain ⟨service, _, stepped, rfl⟩ := service_some taken
  exact ⟨service, stepped, rfl⟩

theorem spares_others (steering : Steering id connectionId server) (event : HerdrEvent) :
    SparesOthers (step zellijValidate backends (muxSender serialize)) id connectionId server event := by
  rintro posted next rfl taken other connection found different
  obtain ⟨service, stepped, rfl⟩ := repoint_step taken
  rcases repoint_sends stepped with same | ⟨sender, target, waiting, queued, _, sent⟩
  · rw [same]
  · have apart : connection.channel ≠ sender := fun same =>
      different ((steering.own sender waiting).2 other connection found same)
    change service.channels.lookup connection.channel = _
    rw [sent, AList.lookup_insert_ne apart]

theorem sends_iff {target : Option Nat} (steering : Steering id connectionId started)
    (waiting : started.service.repoints.lookup id = target) (steers : ∀ sender, target = some sender -> sender = channel)
    {events : List HerdrEvent}
    (lists : Transition.Meets (step zellijValidate backends (muxSender serialize)) (ListsSpaces id channel) started events)
    (ran : Transition.run (step zellijValidate backends (muxSender serialize)) started events = some final)
    (returned : final.service.repoints.lookup id = none) :
    Transition.Occurs (step zellijValidate backends (muxSender serialize)) (Sends id channel) started events ↔
      target.isSome = true := by
  induction events generalizing started target with
  | nil =>
    obtain rfl : started = final := by simpa using ran
    simp [Transition.Occurs, ← waiting, returned]
  | cons event rest ih =>
    obtain ⟨next, taken, ran⟩ := Transition.run_cons.mp ran
    have later := steering_step started event next steering taken
    by_cases own : ∃ posted, event = .service (.repoint id posted)
    · obtain ⟨posted, rfl⟩ := own
      obtain ⟨service, stepped, rfl⟩ := repoint_step taken
      obtain ⟨sender, known, _⟩ := repoint_some stepped
      obtain rfl : some sender = target := known.symm.trans waiting
      obtain rfl := steers sender rfl
      obtain ⟨alive, spaces, rfl, left⟩ := lists.1 rfl
      obtain ⟨sent, stepping, space, member, enqueued⟩ := repoint_open known alive left
      obtain rfl := Option.some.inj (stepped.symm.trans stepping)
      exact iff_of_true ⟨_, taken, .inl ⟨spaces, rfl, space, member, enqueued⟩⟩ rfl
    · push Not at own
      have kept := repoints_kept_step steering.passed own taken
      rw [← ih later (kept.trans waiting) steers (lists.2 next taken) ran]
      constructor
      · rintro ⟨_, again, ⟨spaces, rfl, _⟩ | occurs⟩
        · exact absurd rfl (own (.ok spaces))
        · exact Option.some.inj (taken.symm.trans again) ▸ occurs
      · exact fun occurs => ⟨next, taken, .inr occurs⟩

theorem steered_live (tracked : Tracked server) {connection : Connection HerdrMuxSender World}
    (found : server.service.connections.lookup connectionId = some connection)
    (live : server.service.control.lookup connectionId = some connection.entry) :
    steered server.service connection.relay.session connectionId spaceId =
      if spaceOf server connectionId = some spaceId then some connection.channel else none := by
  have nonempty := tracked.nonempty connectionId (mem_iff_lookup.mpr ⟨connection, found⟩)
  have inStep := tracked.inStep connectionId connection found
  have current : connectionCurrentSpace server.service.viewState connection.relay.session connectionId =
      spaceOf server connectionId := (inStep.currentSpace nonempty).trans (spaceOf_loop tracked found)
  have resolved : resolveSpaceRelay server.service.control connection.relay.session connectionId =
      some connection.channel := by
    simp [resolveSpaceRelay, nonempty, live, Connection.entry]
  unfold steered
  rw [current, resolved]

/-- A CloseSpace steers no relay but the caller's own, and before it returns it re-points this one off the closed
space exactly when that is the space recorded for it. -/
theorem close_space_repoints {world : World} {past events : List HerdrEvent}
    (reached : Transition.run (step zellijValidate backends (muxSender serialize)) (Interleaving.empty world) past =
      some server)
    {caller : Option Bool} {listed : Except String (List SpaceSnapshot)} {closed : Except String ActionAck}
    (asked : step zellijValidate backends (muxSender serialize) server
      (.service (.rpc id caller (.closeSpace session connectionId spaceId listed closed))) = some started)
    (ran : Transition.run (step zellijValidate backends (muxSender serialize)) started events = some final) :
    (started.service.channels = server.service.channels ∧
      Transition.Meets (step zellijValidate backends (muxSender serialize))
        (SparesOthers (step zellijValidate backends (muxSender serialize)) id connectionId) started events) ∧
    (∀ ack after, handle zellijValidate backends server.service (ticketOf id caller) caller
        (.closeSpace session connectionId spaceId listed closed) = .ok (.acked ack, after) -> ack.ok = true ->
      ∀ connection, server.service.connections.lookup connectionId = some connection ->
        server.service.control.lookup connectionId = some connection.entry -> connection.relay.session = session ->
        connection.relay.sender.workspaceId = spaceId -> final.service.repoints.lookup id = none ->
        Transition.Meets (step zellijValidate backends (muxSender serialize)) (ListsSpaces id connection.channel) started
          events ->
        let recorded := recordedSpace (step zellijValidate backends (muxSender serialize)) connectionId
          (Interleaving.empty world) none past
        (Transition.Occurs (step zellijValidate backends (muxSender serialize)) (Sends id connection.channel) started
            events ↔ recorded = some spaceId) ∧
          ((loopOf server connection).between = false -> (recorded = some spaceId ↔ recorded ≠ none))) := by
  have tracked : Tracked server := tracked_of_reachable ⟨world, past, reached⟩
  have recording := spaceOf_run connectionId (Tracked.empty world) reached
  rw [show spaceOf (Interleaving.empty world) connectionId = none from rfl] at recording
  obtain ⟨steering, channels⟩ := closeSpace_starts tracked.steady asked
  constructor
  · refine ⟨channels, ?_⟩
    have any : Transition.Meets (step zellijValidate backends (muxSender serialize)) (fun _ _ => True) started events :=
      Transition.meets_of_forall (fun _ _ _ => trivial) started
    exact any.implied (fun server event next steering _ => steering_step server event next steering)
      (fun _ event steering _ => spares_others steering event) steering
  · rintro ack after handled ok connection found live rfl rfl returned lists recorded
    have waiting := closeSpace_waiting tracked.steady asked handled
    rw [ok, if_pos rfl, steered_live tracked found live, recording] at waiting
    constructor
    · rw [sends_iff steering waiting _ lists ran returned]
      · split_ifs with known
        · exact iff_of_true rfl known
        · exact iff_of_false (by simp) known
      · intro sender steers
        exact (Option.some.inj (Option.ite_none_right_eq_some.mp steers).2).symm
    · intro settled
      have viewing := recorded_viewed (tracked.inStep connectionId connection found) settled
      rw [spaceOf_loop tracked found, recording] at viewing
      exact viewing

end Returned

section Unswitched

def herdrStep : HerdrServer -> HerdrEvent -> Option HerdrServer :=
  step (fun _ => .ok ()) herdrOnly (muxSender standard)

def attaching : List HerdrEvent :=
  [.service (.attach (some false) (.frame (.attach { session := "herdr:herdr", rows := 24, cols := 80 })) none
      (.ok { workspaceId := "w1", currentTerminalId := "t1" }) 1 0),
    .service (.relay (mintConnectionId 1) (.initialised (.error "no layout")))]

def switching : List HerdrEvent :=
  attaching ++
    [.service (.rpc 0 (some false) (.switchSpace "herdr:herdr" (mintConnectionId 1) "w1")),
      .takes (mintConnectionId 1), .performs (mintConnectionId 1) .failed (writing 65536),
      .records (mintConnectionId 1)]

def serverAfter (events : List HerdrEvent) : HerdrServer :=
  (Transition.run herdrStep (Interleaving.empty openedWriter.2) events).getD (Interleaving.empty openedWriter.2)

def twoSpaces : List SpaceSnapshot :=
  [{ id := "w1", name := "main", active := true }, { id := "w2", name := "other", active := false }]

def leftSpaces : List SpaceSnapshot :=
  [{ id := "w2", name := "other", active := true }]

def closing : Request :=
  .closeSpace "herdr:herdr" (mintConnectionId 1) "w1" (.ok twoSpaces) (.ok { ok := true, error := none, info := none })

/-- The client closes the space it was attached to and never left: it is told that this worked, w2 is left, and
its relay is sent nothing. -/
theorem attach_space_not_repointed :
    Transition.run herdrStep (Interleaving.empty openedWriter.2) attaching = some (serverAfter attaching) ∧
      ∃ connection ack after started,
        (serverAfter attaching).service.connections.lookup (mintConnectionId 1) = some connection ∧
        (serverAfter attaching).service.control.lookup (mintConnectionId 1) = some connection.entry ∧
        connection.relay.sender.workspaceId = "w1" ∧
        handle (fun _ => .ok ()) herdrOnly (serverAfter attaching).service (ticketOf 0 (some false)) (some false) closing =
          .ok (.acked ack, after) ∧ ack.ok = true ∧
        herdrStep (serverAfter attaching) (.service (.rpc 0 (some false) closing)) = some started ∧
        (started.service.channels.lookup connection.channel).map (·.queue) = some [] ∧
        herdrStep started (.service (.repoint 0 (.ok leftSpaces))) = none :=
  ⟨rfl, _, _, _, _, rfl, rfl, rfl, rfl, rfl, rfl, rfl, rfl⟩

def closes : HerdrEvent := .service (.rpc 1 (some false) closing)

def repoints : HerdrEvent := .service (.repoint 1 (.ok leftSpaces))

theorem close_space_repoints_switched :
    herdrStep (serverAfter switching) closes = some (serverAfter (switching ++ [closes])) ∧
      Transition.Occurs herdrStep (Sends 1 0) (serverAfter (switching ++ [closes])) [repoints] := by
  have reached : Transition.run herdrStep (Interleaving.empty openedWriter.2) switching =
      some (serverAfter switching) := rfl
  have asked : herdrStep (serverAfter switching) closes = some (serverAfter (switching ++ [closes])) := rfl
  have ran : Transition.run herdrStep (serverAfter (switching ++ [closes])) [repoints] =
      some (serverAfter (switching ++ [closes, repoints])) := rfl
  have repointed := (close_space_repoints reached asked ran).2 _ _ rfl rfl _ rfl rfl rfl rfl rfl
    ⟨fun _ => ⟨rfl, leftSpaces, rfl, by decide⟩, fun _ _ => trivial⟩
  exact ⟨asked, repointed.1.mpr rfl⟩

end Unswitched

end Muxrd.CloseSpace
