import Muxrd.Grpc.Once
import Muxrd.Herdr.Lines

set_option autoImplicit false

namespace Muxrd.Refusal

open Routing Inbound Helpers Interleaving
open Arms (Arm perform perform_calls perform_asked perform_idle record record_notes record_answers)
open Service (MuxrService Command Outcome Answered Consistent AllReplyHome load store ticketOf nextCommand store_own
  store_other)

inductive Waited
  | replied (result : Except String Unit)
  -- The oneshot is dropped with the relay's channel.
  | cancelled
  -- `SWITCH_SPACE_TIMEOUT` has passed.
  | elapsed

def switchSpaceAck : Waited -> ProtoAck
  | .replied (.ok _) => { ok := true, error := "", info := "" }
  | .replied (.error message) => { ok := false, error := "SwitchSpace failed: " ++ message, info := "" }
  | .cancelled => { ok := false, error := "SwitchSpace: relay cancelled the request", info := "" }
  | .elapsed => { ok := false, error := "SwitchSpace: timed out waiting for the relay", info := "" }

structure Handlers (State World : Type) where
  server : Server State World
  waiting : List Nat
  answers : List (Nat × ProtoAck)

inductive Event (Answer State : Type)
  | server (event : Interleaving.Event Answer State)
  | replied (id : Nat) (connectionId : String)
  | cancelled (id : Nat)
  | elapsed (id : Nat)

section Steps

variable {Backend Answer State World : Type} (zellijValidate : String -> Except (List Piece) Unit)
  (backends : BackendSet Backend) (mux : MuxSender Answer State World)

def start (world : World) : Handlers State World :=
  { server := Interleaving.empty world, waiting := [], answers := [] }

def silent (service : MuxrService State World) (id : Nat) : Bool :=
  service.connections.entries.all fun entry => (entry.2.relay.answers id).isEmpty

def dropped (service : MuxrService State World) (id : Nat) : Bool :=
  service.channels.entries.any fun entry => !entry.2.receiverAlive && entry.2.queue.any (·.1.id = id)

def replyOf (service : MuxrService State World) (id : Nat) (connectionId : String) : Option (Except String Unit) :=
  (service.connections.lookup connectionId).bind fun connection => (connection.relay.answers id).head?

def note (id : Nat) (outcome : Outcome) (handlers : Handlers State World) : Handlers State World :=
  match outcome with
  | .acked ack => { handlers with answers := handlers.answers ++ [(id, ack)] }
  | .awaiting => { handlers with waiting := handlers.waiting ++ [id] }
  | .ephemeral => handlers

def notes (handlers : Handlers State World) : Interleaving.Event Answer State -> Handlers State World
  | .service (.rpc id caller (.switchSpace session connectionId spaceId)) =>
    match Service.switchSpace zellijValidate backends handlers.server.service (ticketOf id caller) caller session
      connectionId spaceId with
    | .ok handled => note id handled.1 handlers
    | .error _ => handlers
  | _ => handlers

def answer (handlers : Handlers State World) (id : Nat) (waited : Waited) : Handlers State World :=
  { handlers with
    waiting := handlers.waiting.erase id
    answers := handlers.answers ++ [(id, switchSpaceAck waited)] }

def step (handlers : Handlers State World) : Event Answer State -> Option (Handlers State World)
  | .server event =>
    (Interleaving.step zellijValidate backends mux handlers.server event).map fun server =>
      { notes zellijValidate backends handlers event with server }
  | .replied id connectionId =>
    if id ∈ handlers.waiting then
      (replyOf handlers.server.service id connectionId).map fun result => answer handlers id (.replied result)
    else none
  | .cancelled id =>
    if id ∈ handlers.waiting ∧ silent handlers.server.service id ∧ dropped handlers.server.service id then
      some (answer handlers id .cancelled)
    else none
  -- A reply that has come is taken even when the time is up.
  | .elapsed id =>
    if id ∈ handlers.waiting ∧ silent handlers.server.service id then some (answer handlers id .elapsed) else none

def onBehalf (handlers : Handlers State World) : Event Answer State -> Option Nat
  | .server (.service (.rpc id _ _)) => some id
  | .server (.service (.repoint id _)) => some id
  | .server (.service _) => none
  | .server (.takes key) => (nextCommand handlers.server.service key).map (·.1.id)
  | .server (.performs key _ _) | .server (.records key) => (handlers.server.arms.lookup key).map (·.ticket.id)
  | .replied id _ | .cancelled id | .elapsed id => some id

end Steps

section Known

variable {State World : Type} {handlers : Handlers State World}

def Known (handlers : Handlers State World) (id : Nat) : Prop :=
  id ∈ handlers.waiting ∨ ∃ ack, (id, ack) ∈ handlers.answers

structure SwitchOnly (id : Nat) (server : Server State World) : Prop where
  numbered : id < server.service.nextTicket
  own : server.service.repoints.lookup id = none
  queued : ∀ name channel, server.service.channels.lookup name = some channel -> ∀ command ∈ channel.queue,
    command.1.id = id -> ∃ spaceId reply, command.2 = .switchSpace spaceId reply
  held : ∀ key arm, server.arms.lookup key = some arm -> arm.ticket.id = id ->
    ∃ spaceId reply, arm.cmd = .switchSpace spaceId reply

structure Sound (handlers : Handlers State World) : Prop where
  once : Once handlers.server
  known : ∀ id, Known handlers id -> SwitchOnly id handlers.server

theorem Sound.start (world : World) : Sound (start world : Handlers State World) :=
  { once := Once.empty world
    known := by simp [Known, Refusal.start] }

theorem not_answered_of_silent {service : MuxrService State World} {id : Nat} (quiet : silent service id = true)
    (result : Except String Unit) : ¬ Answered service id result := by
  intro before
  obtain ⟨key, connection, found, member⟩ := before
  have all := List.all_eq_true.mp quiet ⟨key, connection⟩ (AList.mem_lookup_iff.mp found)
  rw [List.isEmpty_iff.mp all] at member
  contradiction

theorem answered_of_replyOf {service : MuxrService State World} {id : Nat} {connectionId : String}
    {result : Except String Unit} (reply : replyOf service id connectionId = some result) :
    Answered service id result := by
  obtain ⟨connection, found, first⟩ := Option.bind_eq_some_iff.mp reply
  exact ⟨connectionId, connection, found, List.mem_of_head? first⟩

end Known

section Runs

variable {Backend Answer State World : Type} {zellijValidate : String -> Except (List Piece) Unit}
  {backends : BackendSet Backend} {mux : MuxSender Answer State World} {handlers next : Handlers State World}

theorem note_known {outcome : Outcome} {id other : Nat} (known : Known (note other outcome handlers) id) :
    Known handlers id ∨ id = other := by
  cases outcome with
  | acked ack =>
    rcases known with still | ⟨given, member⟩
    · exact .inl (.inl still)
    · simp only [note, List.mem_append, List.mem_singleton, Prod.mk.injEq] at member
      rcases member with before | ⟨same, _⟩
      · exact .inl (.inr ⟨given, before⟩)
      · exact .inr same
  | awaiting =>
    rcases known with still | before
    · simp only [note, List.mem_append, List.mem_singleton] at still
      rcases still with before | same
      · exact .inl (.inl before)
      · exact .inr same
    · exact .inl (.inr before)
  | ephemeral => exact .inl known

theorem notes_known {event : Interleaving.Event Answer State} {id : Nat}
    (known : Known (notes zellijValidate backends handlers event) id) :
    Known handlers id ∨ ∃ caller session connectionId spaceId,
      event = .service (.rpc id caller (.switchSpace session connectionId spaceId)) := by
  unfold notes at known
  split at known
  next other caller session connectionId spaceId =>
    split at known
    next handled _ =>
      rcases note_known known with before | rfl
      · exact .inl before
      · exact .inr ⟨caller, session, connectionId, spaceId, rfl⟩
    · exact .inl known
  · exact .inl known

theorem answer_known {id other : Nat} {waited : Waited} (waiting : id ∈ handlers.waiting)
    (known : Known (answer handlers id waited) other) : Known handlers other := by
  rcases known with still | ⟨ack, member⟩
  · exact .inl (List.mem_of_mem_erase still)
  · simp only [answer, List.mem_append, List.mem_singleton, Prod.mk.injEq] at member
    rcases member with before | ⟨rfl, _⟩
    · exact .inr ⟨ack, before⟩
    · exact .inl waiting

theorem step_waits {event : Event Answer State}
    (taken : step zellijValidate backends mux handlers event = some next) :
    (∃ inner server, event = .server inner ∧
      Interleaving.step zellijValidate backends mux handlers.server inner = some server ∧
      next = { notes zellijValidate backends handlers inner with server }) ∨
    ∃ id waited, id ∈ handlers.waiting ∧ next = answer handlers id waited ∧
      match waited with
      | .replied result => Answered handlers.server.service id result
      | .cancelled =>
        (∀ result, ¬ Answered handlers.server.service id result) ∧ dropped handlers.server.service id = true
      | .elapsed => (∀ result, ¬ Answered handlers.server.service id result) ∧ event = .elapsed id := by
  cases event with
  | server inner =>
    obtain ⟨server, stepped, rfl⟩ := Option.map_eq_some_iff.mp taken
    exact .inl ⟨inner, server, rfl, stepped, rfl⟩
  | replied id connectionId =>
    simp only [step] at taken
    split_ifs at taken with waiting
    obtain ⟨result, reply, rfl⟩ := Option.map_eq_some_iff.mp taken
    exact .inr ⟨id, .replied result, waiting, rfl, answered_of_replyOf reply⟩
  | cancelled id =>
    simp only [step] at taken
    split_ifs at taken with enabled
    obtain ⟨waiting, quiet, gone⟩ := enabled
    exact .inr ⟨id, .cancelled, waiting, (Option.some.inj taken).symm, not_answered_of_silent quiet, gone⟩
  | elapsed id =>
    simp only [step] at taken
    split_ifs at taken with enabled
    exact .inr ⟨id, .elapsed, enabled.1, (Option.some.inj taken).symm, not_answered_of_silent enabled.2, rfl⟩

theorem SwitchOnly.step {server next : Server State World} (steady : Steady server) {id : Nat}
    (only : SwitchOnly id server) {event : Interleaving.Event Answer State}
    (taken : Interleaving.step zellijValidate backends mux server event = some next) : SwitchOnly id next := by
  have shifts := step_shifts steady taken
  have numbered := only.numbered
  constructor
  · exact lt_of_lt_of_le numbered shifts.later
  · cases asked : next.service.repoints.lookup id with
    | none => rfl
    | some sender =>
      rcases shifts.repointed id sender asked with before | new
      · rw [only.own] at before
        contradiction
      · omega
  · intro name channel looked command member same
    rcases shifts.queued name channel looked command member with ⟨old, found, before⟩ | new | repointed
    · exact only.queued name old found command before same
    · omega
    · rw [same, only.own] at repointed
      contradiction
  · intro key arm busy same
    rcases step_arms steady.consistent taken busy with ⟨old, before, ticket, cmd⟩ | ⟨name, channel, looked, member⟩
    · rw [← cmd]
      exact only.held key old before (ticket ▸ same)
    · exact only.queued name channel looked _ member same

theorem SwitchOnly.unused {server : Server State World} (steady : Steady server) {id : Nat}
    (numbered : server.service.nextTicket ≤ id) :
    SwitchOnly id { server with service := { server.service with nextTicket := id + 1 } } := by
  constructor
  · exact Nat.lt_succ_self id
  · cases waiting : server.service.repoints.lookup id with
    | none => rfl
    | some sender =>
      have earlier := (steady.consistent.repointed id sender waiting).1
      omega
  · intro name channel looked command member same
    have earlier := (steady.consistent.queued name channel looked command member).1
    omega
  · intro key arm busy same
    have earlier : arm.ticket.id < server.service.nextTicket := (steady.admissible key arm busy).1
    omega

theorem SwitchOnly.rpc {server next : Server State World} (steady : Steady server) {id : Nat}
    {caller : Option Bool} {session connectionId spaceId : String}
    (taken : Interleaving.step zellijValidate backends mux server
      (.service (.rpc id caller (.switchSpace session connectionId spaceId))) = some next) : SwitchOnly id next := by
  obtain ⟨service, _, stepped, rfl⟩ := service_some taken
  obtain ⟨numbered, ⟨outcome, after, handled, rfl⟩ | rfl⟩ := Service.step_rpc stepped
  · have unused := SwitchOnly.unused steady numbered
    rcases Service.handle_sends handled with rfl | ⟨sender, cmd, channels, _, sends, sent, rfl, _⟩ |
      ⟨_, _, _, sends, _⟩
    · exact unused
    · refine { unused with queued := ?_ }
      obtain ⟨channel, found, _, rfl⟩ := Channels.send_eq_some.mp sent
      intro name other looked command member same
      by_cases here : name = sender
      · subst here
        rw [AList.lookup_insert] at looked
        rw [← Option.some.inj looked, List.mem_append, List.mem_singleton] at member
        rcases member with before | rfl
        · exact unused.queued name channel found command before same
        · exact ⟨spaceId, id, (Option.some.inj sends).symm⟩
      · rw [AList.lookup_insert_ne here] at looked
        exact unused.queued name other looked command member same
    · contradiction
  · exact SwitchOnly.unused steady numbered

theorem sound_step (handlers : Handlers State World) (event : Event Answer State) (next : Handlers State World)
    (sound : Sound handlers) (taken : step zellijValidate backends mux handlers event = some next) :
    Sound next := by
  rcases step_waits taken with ⟨inner, server, rfl, stepped, rfl⟩ | ⟨id, waited, waiting, rfl, _⟩
  · constructor
    · exact once_step handlers.server inner server sound.once stepped
    · intro id known
      rcases notes_known known with before | ⟨caller, session, connectionId, spaceId, rfl⟩
      · exact (sound.known id before).step sound.once.steady stepped
      · exact SwitchOnly.rpc sound.once.steady stepped
  · constructor
    · exact sound.once
    · exact fun other known => sound.known other (answer_known waiting known)

theorem notes_answers {event : Interleaving.Event Answer State} {id : Nat} {ack : ProtoAck}
    (member : (id, ack) ∈ (notes zellijValidate backends handlers event).answers) :
    (id, ack) ∈ handlers.answers ∨ id ∈ sentBy event := by
  unfold notes at member
  split at member
  next other caller session connectionId spaceId =>
    split at member
    next handled _ =>
      unfold note at member
      split at member
      · simp only [List.mem_append, List.mem_singleton, Prod.mk.injEq] at member
        rcases member with before | ⟨rfl, _⟩
        · exact .inl before
        · exact .inr (List.mem_singleton_self id)
      · exact .inl member
      · exact .inl member
    · exact .inl member
  · exact .inl member

theorem mem_answer {id other : Nat} {waited : Waited} {ack : ProtoAck}
    (member : (id, ack) ∈ (answer handlers other waited).answers) :
    (id, ack) ∈ handlers.answers ∨ id = other ∧ ack = switchSpaceAck waited := by
  simpa only [answer, List.mem_append, List.mem_singleton, Prod.mk.injEq] using member

end Runs

def switched (arm : Arm) : Bool :=
  match arm with
  | ⟨_, .switchSpace _ _, .called _ (some (.ok _))⟩ => true
  | _ => false

theorem switched_iff {arm : Arm} : switched arm = true ↔
    ∃ ticket spaceId reply query, arm = ⟨ticket, .switchSpace spaceId reply, .called query (some (.ok ()))⟩ := by
  constructor
  · intro made
    unfold switched at made
    split at made
    next ticket spaceId reply query done => exact ⟨ticket, spaceId, reply, query, rfl⟩
    · contradiction
  · rintro ⟨ticket, spaceId, reply, query, rfl⟩
    rfl

-- A handler gives up on a switch that is made and not yet reported.
def givesUp {Answer State World : Type} (handlers : Handlers State World) : Event Answer State -> Bool
  | .elapsed id => handlers.server.arms.entries.any fun entry => entry.2.ticket.id = id && switched entry.2
  | _ => false

section Reports

variable {Backend Answer State World : Type} {zellijValidate : String -> Except (List Piece) Unit}
  {backends : BackendSet Backend} {mux : MuxSender Answer State World} {handlers next : Handlers State World}
  {server after : Server State World} {key : String} {arm : Arm} {id : Nat}

theorem switched_step (once : Once server) (busy : server.arms.lookup key = some arm) (made : switched arm = true)
    {event : Interleaving.Event Answer State}
    (taken : Interleaving.step zellijValidate backends mux server event = some after) :
    after.arms.lookup key = some arm ∨ Answered after.service arm.ticket.id (.ok ()) := by
  have consistent := once.steady.consistent
  cases event with
  | service event =>
    obtain ⟨service, _, _, rfl⟩ := service_some taken
    exact .inl busy
  | takes other =>
    obtain ⟨connection, channel, ticket, cmd, rest, _, _, idle, _, _, rfl⟩ := takes_some consistent taken
    left
    have apart : key ≠ other := by
      rintro rfl
      rw [idle] at busy
      contradiction
    rwa [AList.lookup_insert_ne apart]
  | performs other query answer =>
    obtain ⟨connection, ticket, cmd, _, begun, rfl⟩ := performs_some consistent taken
    left
    have apart : key ≠ other := by
      rintro rfl
      obtain rfl := Option.some.inj (busy.symm.trans begun)
      simp [switched] at made
    rwa [AList.lookup_insert_ne apart]
  | records other =>
    obtain ⟨connection, ticket, cmd, query, result, found, called, rfl⟩ := records_some consistent taken
    by_cases own : key = other
    · subst own
      right
      obtain ⟨_, spaceId, reply, _, rfl⟩ := switched_iff.mp made
      obtain ⟨⟩ := Option.some.inj (called.symm.trans busy)
      have home : reply = ticket.id := once.held key _ busy spaceId reply rfl
      have notes := record_notes (.switchSpace spaceId reply) query (some (.ok ())) (load server.service connection.relay)
      have named := (congrArg Task.connectionId notes.task).trans (consistent.keyed key connection found)
      refine ⟨key, _, store_own named, ?_⟩
      rw [record_answers]
      simp [Arms.sends, Arms.spaceAnswer, home]
    · left
      rwa [AList.lookup_erase_ne own]

theorem waits_apart (sound : Sound handlers) (busy : handlers.server.arms.lookup key = some arm)
    (made : switched arm = true) {event : Event Answer State} (timely : givesUp handlers event = false) {waited : Waited}
    (reason : match waited with
      | .replied result => Answered handlers.server.service id result
      | .cancelled =>
        (∀ result, ¬ Answered handlers.server.service id result) ∧ dropped handlers.server.service id = true
      | .elapsed => (∀ result, ¬ Answered handlers.server.service id result) ∧ event = .elapsed id) :
    arm.ticket.id ≠ id := by
  rintro rfl
  cases waited with
  | replied result => exact sound.once.unanswered busy result reason
  | cancelled =>
    obtain ⟨⟨name, channel⟩, listed, gone⟩ := List.any_eq_true.mp reason.2
    simp only [Bool.and_eq_true, List.any_eq_true, decide_eq_true_eq] at gone
    obtain ⟨_, command, queued, same⟩ := gone
    exact sound.once.unqueued busy (AList.mem_lookup_iff.mpr listed) queued same
  | elapsed =>
    obtain ⟨_, rfl⟩ := reason
    have given : givesUp handlers (.elapsed arm.ticket.id : Event Answer State) = true :=
      List.any_eq_true.mpr ⟨⟨key, arm⟩, AList.mem_lookup_iff.mp busy, by simp [made]⟩
    rw [given] at timely
    contradiction

structure Reported (id : Nat) (handlers : Handlers State World) : Prop where
  sound : Sound handlers
  numbered : id < handlers.server.service.nextTicket
  done : Answered handlers.server.service id (.ok ()) ∨
    ∃ key arm, handlers.server.arms.lookup key = some arm ∧ arm.ticket.id = id ∧ switched arm = true
  truthful : ∀ ack, (id, ack) ∈ handlers.answers -> ack.ok = true

structure Foreign (id : Nat) (handlers : Handlers State World) : Prop where
  sound : Sound handlers
  numbered : id < handlers.server.service.nextTicket
  unknown : ¬ Known handlers id

theorem reported_step (handlers : Handlers State World) (event : Event Answer State) (next : Handlers State World)
    (reported : Reported id handlers) (timely : givesUp handlers event = false)
    (taken : step zellijValidate backends mux handlers event = some next) : Reported id next := by
  have sound := sound_step handlers event next reported.sound taken
  have numbered := reported.numbered
  rcases step_waits taken with ⟨inner, server, rfl, stepped, rfl⟩ | ⟨other, waited, waiting, rfl, reason⟩
  · have once := reported.sound.once
    refine { sound, numbered := lt_of_lt_of_le numbered (step_shifts once.steady stepped).later, done := ?_,
             truthful := ?_ }
    · rcases reported.done with answered | ⟨key, arm, busy, rfl, made⟩
      · exact .inl ((step_carries once stepped).answered id _ answered)
      · rcases switched_step once busy made stepped with still | answered
        · exact .inr ⟨key, arm, still, rfl, made⟩
        · exact .inl answered
    · intro ack member
      rcases notes_answers member with before | new
      · exact reported.truthful ack before
      · have counted := (step_numbered_by stepped new).1
        omega
  · refine { reported with sound, truthful := ?_ }
    intro ack member
    rcases mem_answer member with before | ⟨rfl, rfl⟩
    · exact reported.truthful ack before
    · rcases reported.done with answered | ⟨key, arm, busy, own, made⟩
      · cases waited with
        | replied result =>
          have same : result = .ok () := reported.sound.once.unanimous reason answered
          rw [same]
          rfl
        | cancelled | elapsed => exact absurd answered (reason.1 _)
      · exact absurd own (waits_apart reported.sound busy made timely reason)

theorem foreign_step (handlers : Handlers State World) (event : Event Answer State) (next : Handlers State World)
    (foreign : Foreign id handlers) (taken : step zellijValidate backends mux handlers event = some next) :
    Foreign id next := by
  have sound := sound_step handlers event next foreign.sound taken
  have numbered := foreign.numbered
  rcases step_waits taken with ⟨inner, server, rfl, stepped, rfl⟩ | ⟨other, waited, waiting, rfl, _⟩
  · refine { sound, numbered := ?_, unknown := ?_ }
    · exact lt_of_lt_of_le numbered (step_shifts foreign.sound.once.steady stepped).later
    · intro known
      rcases notes_known known with before | ⟨caller, session, connectionId, spaceId, rfl⟩
      · exact foreign.unknown before
      · have counted := (step_numbered_by stepped (List.mem_singleton_self id)).1
        omega
  · exact { sound, numbered, unknown := fun known => foreign.unknown (answer_known waiting known) }

end Reports

section Switches

open Herdr

variable {serialize : ClientMessage -> Except String (List UInt8)} {answer : Herdr.Answer} {spaceId : String}

structure Untouched (service next : MuxrService LineSender Lines) : Prop where
  senders : ∀ key, (next.connections.lookup key).map (·.relay.sender) =
    (service.connections.lookup key).map (·.relay.sender)
  views : next.viewState = service.viewState
  lines : ∀ number, (next.world.line number).attachedTo = (service.world.line number).attachedTo

theorem Untouched.refl (service : MuxrService LineSender Lines) : Untouched service service :=
  { senders := fun _ => rfl, views := rfl, lines := fun _ => rfl }

theorem Untouched.store {service : MuxrService LineSender Lines} {key : String}
    {connection : Service.Connection LineSender Lines} (found : service.connections.lookup key = some connection)
    {relay : Relay LineSender Lines} (own : relay.connectionId = key) (sender : relay.sender = connection.relay.sender)
    (views : relay.viewState = service.viewState)
    (lines : ∀ number, (relay.world.line number).attachedTo = (service.world.line number).attachedTo) :
    Untouched service (store service connection relay) := by
  refine { senders := ?_, views, lines }
  intro other
  by_cases same : other = key
  · subst same
    rw [store_own own, found]
    exact congrArg some sender
  · rw [store_other own same]

-- What lets a relay turn the command down.
def turnsDown (serialize : ClientMessage -> Except String (List UInt8)) (service : MuxrService LineSender Lines)
    (key : String) (answer : Herdr.Answer) (spaceId : String) : Bool :=
  ((service.connections.lookup key).map (·.relay.readOnly)).getD true ||
    !canSwitch serialize answer spaceId service.world.ids

theorem perform_refused {relay : Relay LineSender Lines} (ticket : Ticket) (query : FloatQuery) (reply : Nat)
    (refused : relay.readOnly = true ∨ canSwitch serialize answer spaceId relay.world.ids = false)
    {result : Option (Except String Unit)} {after : Relay LineSender Lines}
    (performed : perform (lineSender serialize) ticket (.switchSpace spaceId reply) query answer relay =
      (result, after)) :
    (∀ done, result ≠ some (.ok done)) ∧ after.sender = relay.sender ∧
      ∀ number, (after.world.line number).attachedTo = (relay.world.line number).attachedTo := by
  cases readOnly : relay.readOnly with
  | true =>
    obtain ⟨none, sender, world⟩ := @perform_idle _ _ _ (.switchSpace spaceId reply) query relay
      (lineSender serialize) ticket answer rfl (.inl readOnly)
    rw [performed] at none sender world
    subst none
    exact ⟨by simp, sender, fun number => by rw [world]⟩
  | false =>
    have unable := refused.resolve_left (by simp [readOnly])
    rw [← @callOnLine_switchSpace serialize answer spaceId relay.sender relay.world] at unable
    rw [perform_asked _ _ _ readOnly rfl] at performed
    rcases called : callOnLine serialize answer (.switchSpace spaceId) relay.sender relay.world with
      ⟨message | done, left, lines⟩
    · have kept := callOnLine_failed rfl called
      have made : (lineSender serialize).call answer (.switchSpace spaceId) relay.sender relay.world =
          (.error message, left, lines) := called
      obtain ⟨rfl, rfl⟩ := Prod.mk.inj performed
      refine ⟨by simp [made], ?_, ?_⟩
      · exact (congrArg (·.2.1) made).trans kept.1
      · intro number
        exact (congrArg (fun outcome => (outcome.2.2.line number).attachedTo) made).trans (kept.2 number)
    · rw [called] at unable
      contradiction

theorem perform_made {relay : Relay LineSender Lines} (ticket : Ticket) (query : FloatQuery) (reply : Nat)
    (writable : relay.readOnly = false) (able : canSwitch serialize answer spaceId relay.world.ids = true) :
    (perform (lineSender serialize) ticket (.switchSpace spaceId reply) query answer relay).1 = some (.ok ()) := by
  rw [← @callOnLine_switchSpace serialize answer spaceId relay.sender relay.world] at able
  rw [perform_asked _ _ _ writable rfl]
  change some (callOnLine serialize answer (.switchSpace spaceId) relay.sender relay.world).1 = _
  cases result : (callOnLine serialize answer (.switchSpace spaceId) relay.sender relay.world).1 with
  | ok done => rfl
  | error message =>
    rw [result] at able
    contradiction

variable {Backend : Type} {zellijValidate : String -> Except (List Piece) Unit} {backends : BackendSet Backend}
  {handlers next : Handlers LineSender Lines}

/-- A SwitchSpace that its relay carries out when its handler has answered, or that its handler gives up before the
relay has recorded it. -/
def isLate (serialize : ClientMessage -> Except String (List UInt8)) (handlers : Handlers LineSender Lines) :
    Event Herdr.Answer LineSender -> Bool
  | .server (.performs key _ answer) =>
    match handlers.server.arms.lookup key with
    | some ⟨ticket, .switchSpace spaceId _, _⟩ =>
      handlers.answers.any (·.1 = ticket.id) && !turnsDown serialize handlers.server.service key answer spaceId
    | _ => false
  | event => givesUp handlers event

theorem givesUp_of_timely {event : Event Herdr.Answer LineSender} (timely : isLate serialize handlers event = false) :
    givesUp handlers event = false := by
  rcases event with (_ | _ | _ | _) | _ | _ | _
  · rfl
  · rfl
  · rfl
  · rfl
  · rfl
  · rfl
  · exact timely

def StaysRefused (serialize : ClientMessage -> Except String (List UInt8))
    (zellijValidate : String -> Except (List Piece) Unit) (backends : BackendSet Backend) (world : Lines)
    (events : List (Event Herdr.Answer LineSender)) (final : Handlers LineSender Lines) : Prop :=
  ∀ first event second before next, events = first ++ event :: second ->
    Transition.run (step zellijValidate backends (lineSender serialize)) (start world) first = some before ->
    step zellijValidate backends (lineSender serialize) before event = some next ->
    ∀ id ack, onBehalf before event = some id -> (id, ack) ∈ final.answers -> ack.ok = false ->
      Untouched before.server.service next.server.service

theorem rpc_untouched {service after : MuxrService LineSender Lines} {id : Nat} {caller : Option Bool}
    {request : Service.Request}
    (taken : Service.step zellijValidate backends (lineSender serialize) service (.rpc id caller request) =
      some after) : Untouched service after := by
  obtain ⟨_, ⟨outcome, handledAfter, handled, rfl⟩ | rfl⟩ := Service.step_rpc taken
  · rcases Service.handle_cases handled with rfl | ⟨_, _, _, _, _, rfl, _⟩ | ⟨_, _, _, _, _, _, _, rfl⟩
    · exact { Untouched.refl _ with }
    · exact { Untouched.refl _ with }
    · exact { Untouched.refl _ with }
  · exact { Untouched.refl _ with }

theorem repoint_untouched {service after : MuxrService LineSender Lines} {id : Nat}
    {listed : Except String (List SpaceSnapshot)} (taken : Service.repoint service id listed = some after) :
    Untouched service after := by
  obtain ⟨_, _, rfl | ⟨_, _, _, _, rfl⟩⟩ := Service.repoint_some taken
  · exact { Untouched.refl _ with }
  · exact { Untouched.refl _ with }

theorem performs_switch (sound : Sound handlers) {key : String} {query : FloatQuery} {ticket : Ticket} {reply : Nat}
    (busy : handlers.server.arms.lookup key = some ⟨ticket, .switchSpace spaceId reply, .taken⟩)
    (taken : step zellijValidate backends (lineSender serialize) handlers (.server (.performs key query answer)) =
      some next) :
    ∃ result, next.server.arms.lookup key = some ⟨ticket, .switchSpace spaceId reply, .called query result⟩ ∧
      if turnsDown serialize handlers.server.service key answer spaceId then
        (∀ done, result ≠ some (.ok done)) ∧ Untouched handlers.server.service next.server.service
      else result = some (.ok ()) := by
  have consistent := sound.once.steady.consistent
  obtain ⟨server, stepped, rfl⟩ := Option.map_eq_some_iff.mp taken
  obtain ⟨connection, _, _, found, same, rfl⟩ := performs_some consistent stepped
  obtain ⟨⟩ := Option.some.inj (busy.symm.trans same)
  refine ⟨_, AList.lookup_insert _, ?_⟩
  set loaded := load handlers.server.service connection.relay
  rcases performed : perform (lineSender serialize) ticket (.switchSpace spaceId reply) query answer loaded with
    ⟨result, after⟩
  have calls := perform_calls (lineSender serialize) ticket (.switchSpace spaceId reply) query answer loaded
  rw [performed] at calls
  have own := (congrArg Task.connectionId calls.task).trans (consistent.keyed key connection found)
  have flags : turnsDown serialize handlers.server.service key answer spaceId =
      (loaded.readOnly || !canSwitch serialize answer spaceId loaded.world.ids) := by
    simp only [turnsDown, found, Option.map_some, Option.getD_some]
    rfl
  rw [flags]
  split_ifs with down
  · have refused : loaded.readOnly = true ∨ canSwitch serialize answer spaceId loaded.world.ids = false := by
      simpa using down
    obtain ⟨undone, sender, lines⟩ := perform_refused ticket query reply refused performed
    exact ⟨undone, Untouched.store found own sender calls.viewState lines⟩
  · simp only [Bool.or_eq_true, Bool.not_eq_true', not_or, Bool.not_eq_true, Bool.not_eq_false] at down
    have made := perform_made ticket query reply down.1 down.2
    rw [performed] at made
    exact made

theorem switched_before {server after : Server LineSender Lines} (steady : Steady server)
    {event : Interleaving.Event Herdr.Answer LineSender}
    (taken : Interleaving.step zellijValidate backends (lineSender serialize) server event = some after) {key : String}
    {arm : Arm} (busy : after.arms.lookup key = some arm) (made : switched arm = true) :
    server.arms.lookup key = some arm ∨
      ∃ query answer begun, event = .performs key query answer ∧ server.arms.lookup key = some begun ∧
        begun = { arm with stage := .taken } := by
  cases event with
  | service event =>
    obtain ⟨service, _, _, rfl⟩ := service_some taken
    exact .inl busy
  | takes other =>
    obtain ⟨connection, channel, ticket, cmd, rest, _, _, _, _, _, rfl⟩ := takes_some steady.consistent taken
    left
    by_cases own : key = other
    · subst own
      rw [AList.lookup_insert] at busy
      obtain rfl := Option.some.inj busy
      simp [switched] at made
    · rwa [AList.lookup_insert_ne own] at busy
  | performs other query answer =>
    obtain ⟨connection, ticket, cmd, _, begun, rfl⟩ := performs_some steady.consistent taken
    by_cases own : key = other
    · subst own
      rw [AList.lookup_insert] at busy
      obtain rfl := Option.some.inj busy
      exact .inr ⟨query, answer, _, rfl, begun, rfl⟩
    · rw [AList.lookup_insert_ne own] at busy
      exact .inl busy
  | records other =>
    obtain ⟨connection, ticket, cmd, query, result, _, _, rfl⟩ := records_some steady.consistent taken
    left
    by_cases own : key = other
    · subst own
      rw [AList.lookup_erase] at busy
      contradiction
    · rwa [AList.lookup_erase_ne own] at busy

structure Timely (handlers : Handlers LineSender Lines) : Prop where
  sound : Sound handlers
  unanswered : ∀ key arm, handlers.server.arms.lookup key = some arm -> switched arm = true ->
    ∀ ack, (arm.ticket.id, ack) ∉ handlers.answers

theorem not_answered_of_timely {key : String} {query : FloatQuery} {ticket : Ticket} {reply : Nat}
    (busy : handlers.server.arms.lookup key = some ⟨ticket, .switchSpace spaceId reply, .taken⟩)
    (able : turnsDown serialize handlers.server.service key answer spaceId = false)
    (timely : isLate serialize handlers (.server (.performs key query answer)) = false) (ack : ProtoAck) :
    (ticket.id, ack) ∉ handlers.answers := by
  intro earlier
  have late : isLate serialize handlers (.server (.performs key query answer)) = true := by
    simp only [isLate, busy, able, Bool.not_false, Bool.and_true]
    exact List.any_eq_true.mpr ⟨_, earlier, by simp⟩
  rw [late] at timely
  contradiction

theorem timely_step (handlers : Handlers LineSender Lines) (event : Event Herdr.Answer LineSender)
    (next : Handlers LineSender Lines) (timely : Timely handlers) (inTime : isLate serialize handlers event = false)
    (taken : step zellijValidate backends (lineSender serialize) handlers event = some next) : Timely next := by
  have sound := timely.sound
  refine { sound := sound_step handlers event next sound taken, unanswered := ?_ }
  intro key arm busy made ack member
  rcases step_waits taken with ⟨inner, server, rfl, stepped, rfl⟩ | ⟨other, waited, waiting, rfl, reason⟩
  · have steady := sound.once.steady
    rcases notes_answers member with before | new
    · rcases switched_before steady stepped busy made with still | ⟨query, answer, _, rfl, begun, rfl⟩
      · exact timely.unanswered key arm still made ack before
      · obtain ⟨ticket, spaceId, reply, ready, rfl⟩ := switched_iff.mp made
        obtain ⟨result, now, carried⟩ := performs_switch sound begun taken
        obtain ⟨⟩ := Option.some.inj (busy.symm.trans now)
        split_ifs at carried with down
        · exact carried.1 () rfl
        · exact not_answered_of_timely begun (by simpa using down) inTime ack before
    · have counted := (step_numbered_by stepped new).1
      rcases step_arms steady.consistent stepped busy with ⟨old, before, ticket, _⟩ | ⟨name, channel, looked, queued⟩
      · have earlier : old.ticket.id < _ := (steady.admissible key old before).1
        rw [ticket] at earlier
        omega
      · have earlier : arm.ticket.id < _ := (steady.consistent.queued name channel looked _ queued).1
        omega
  · rcases mem_answer member with before | ⟨same, _⟩
    · exact timely.unanswered key arm busy made ack before
    · exact waits_apart sound busy made (givesUp_of_timely inTime) reason same

theorem turn_timely (timely : Timely handlers) {event : Interleaving.Event Herdr.Answer LineSender}
    (inTime : isLate serialize handlers (.server event) = false)
    (taken : step zellijValidate backends (lineSender serialize) handlers (.server event) = some next) {key : String}
    (own : (∃ query answer, event = .performs key query answer) ∨ event = .records key) {arm : Arm}
    (busy : handlers.server.arms.lookup key = some arm) :
    Untouched handlers.server.service next.server.service ∨ Reported arm.ticket.id next ∨ Foreign arm.ticket.id next := by
  have sound := timely.sound
  have steady := sound.once.steady
  have soundNext := sound_step handlers _ next sound taken
  have numbered : arm.ticket.id < handlers.server.service.nextTicket := (steady.admissible key arm busy).1
  by_cases known : Known handlers arm.ticket.id
  · obtain ⟨spaceId, reply, switches⟩ := (sound.known _ known).held key arm busy rfl
    obtain ⟨ticket, cmd, stage⟩ := arm
    obtain rfl : cmd = .switchSpace spaceId reply := switches
    have later : ticket.id < next.server.service.nextTicket := by
      obtain ⟨server, stepped, rfl⟩ := Option.map_eq_some_iff.mp taken
      exact lt_of_lt_of_le numbered (step_shifts steady stepped).later
    rcases own with ⟨query, answer, rfl⟩ | rfl
    · obtain ⟨server, stepped, same⟩ := Option.map_eq_some_iff.mp taken
      obtain ⟨_, _, _, _, begun, _⟩ := performs_some steady.consistent stepped
      obtain ⟨⟩ := Option.some.inj (busy.symm.trans begun)
      obtain ⟨result, now, carried⟩ := performs_switch sound busy taken
      split_ifs at carried with down
      · exact .inl carried.2
      · have unanswered := not_answered_of_timely busy (by simpa using down) inTime
        subst carried
        refine .inr (.inl { sound := soundNext, numbered := later, done := .inr ⟨key, _, now, rfl, rfl⟩, truthful := ?_ })
        intro ack member
        rw [← same] at member
        exact absurd member (unanswered ack)
    · obtain ⟨server, stepped, rfl⟩ := Option.map_eq_some_iff.mp taken
      obtain ⟨connection, _, _, query, result, found, called, same⟩ := records_some steady.consistent stepped
      obtain ⟨⟩ := Option.some.inj (busy.symm.trans called)
      by_cases made : switched ⟨ticket, .switchSpace spaceId reply, .called query result⟩ = true
      · have unanswered := timely.unanswered key _ busy made
        refine .inr (.inl { sound := soundNext, numbered := later, done := ?_, truthful := ?_ })
        · rcases switched_step sound.once busy made stepped with still | answered
          · rw [same, AList.lookup_erase] at still
            contradiction
          · exact .inl answered
        · exact fun ack member => absurd member (unanswered ack)
      · -- Nothing has been recorded, and the handler is told that the switch has failed.
        left
        have notes := record_notes (.switchSpace spaceId reply) query result
          (load handlers.server.service connection.relay)
        have named := (congrArg Task.connectionId notes.task).trans (steady.consistent.keyed key connection found)
        rw [same]
        refine Untouched.store found named notes.sender ?_ (fun number => by rw [notes.world]; rfl)
        rcases result with _ | _ | done
        · rfl
        · rfl
        · simp [switched] at made
  · have foreign : Foreign arm.ticket.id handlers := { sound, numbered, unknown := known }
    exact .inr (.inr (foreign_step handlers _ next foreign taken))

theorem takes_untouched {server after : Server LineSender Lines} (steady : Steady server) {key : String}
    (taken : Interleaving.step zellijValidate backends (lineSender serialize) server (.takes key) = some after) :
    Untouched server.service after.service := by
  obtain ⟨connection, channel, ticket, cmd, rest, found, _, _, _, _, rfl⟩ := takes_some steady.consistent taken
  have own : (load server.service connection.relay).connectionId = key := steady.consistent.keyed key connection found
  exact { Untouched.store found own rfl rfl (fun _ => rfl) with }

/-- In every run that carries no SwitchSpace out late, and gives none up that is about to be recorded, a refused one
stays refused. -/
theorem refused_switch_stays_refused {world : Lines} {events : List (Event Herdr.Answer LineSender)}
    {final : Handlers LineSender Lines}
    (inTime : Transition.Meets (step zellijValidate backends (lineSender serialize))
      (fun handlers event => isLate serialize handlers event = false) (start world) events)
    (ran : Transition.run (step zellijValidate backends (lineSender serialize)) (start world) events =
      some final) :
    StaysRefused serialize zellijValidate backends world events final := by
  intro first event second before next parts reached taken id ack made member refused
  subst parts
  have started : Timely (start world) := { sound := Sound.start world, unanswered := by simp [start, Interleaving.empty] }
  have timely : Timely before := Transition.invariant_of_meets timely_step started inTime.before reached
  obtain ⟨now, later⟩ := inTime.after reached
  have ends : Transition.run (step zellijValidate backends (lineSender serialize)) next second = some final := by
    rw [Transition.run_append, reached, Option.bind_some, Transition.run, taken] at ran
    exact ran
  have settled {number : Nat} (outcome : Untouched before.server.service next.server.service ∨ Reported number next ∨
      Foreign number next) (answered : (number, ack) ∈ final.answers) :
      Untouched before.server.service next.server.service := by
    rcases outcome with untouched | reported | foreign
    · exact untouched
    · have told := Transition.invariant_of_meets
        (fun handlers event next reported late => reported_step handlers event next reported (givesUp_of_timely late))
        reported (later next taken) ends
      rw [told.truthful ack answered] at refused
      contradiction
    · have still := Transition.invariant_of_run foreign_step foreign ends
      exact absurd (.inr ⟨ack, answered⟩) still.unknown
  cases event with
  | replied | cancelled | elapsed =>
    rcases step_waits taken with ⟨_, _, same, _⟩ | ⟨_, _, _, rfl, _⟩
    · contradiction
    · exact Untouched.refl _
  | server inner =>
    cases inner with
    | takes key =>
      obtain ⟨server, stepped, rfl⟩ := Option.map_eq_some_iff.mp taken
      exact takes_untouched timely.sound.once.steady stepped
    | performs key query answer =>
      obtain ⟨arm, busy, rfl⟩ := Option.map_eq_some_iff.mp made
      exact settled (turn_timely timely now taken (.inl ⟨query, answer, rfl⟩) busy) member
    | records key =>
      obtain ⟨arm, busy, rfl⟩ := Option.map_eq_some_iff.mp made
      exact settled (turn_timely timely now taken (.inr rfl) busy) member
    | service event =>
      obtain ⟨server, stepped, rfl⟩ := Option.map_eq_some_iff.mp taken
      obtain ⟨service, _, handled, rfl⟩ := service_some stepped
      cases event with
      | attach | relay | elsewhere | reorder | dequeue => contradiction
      | rpc other caller request => exact rpc_untouched handled
      | repoint other listed => exact repoint_untouched handled

end Switches

section Overdue

open Herdr

def anyName (_ : String) : Except (List Piece) Unit := .ok ()

def key : String := Registry.mintConnectionId 1

def firstLines : Lines :=
  { ids := openedWriter.2.ids
    line := fun _ => { wire := openedWriter.2.wire, sent := openedWriter.2.sent } }

def stepOf : Handlers LineSender Lines -> Event Herdr.Answer LineSender -> Option (Handlers LineSender Lines) :=
  step anyName herdrOnly (lineSender standard)

def switchTo (id : Nat) (spaceId : String) : Event Herdr.Answer LineSender :=
  .server (.service (.rpc id (some false) (.switchSpace "herdr:herdr" key spaceId)))

def twoSwitches : List (Event Herdr.Answer LineSender) :=
  [.server (.service (.attach (some false) (.frame (.attach { session := "herdr:herdr", rows := 24, cols := 80 })) none
      (.ok { line := 0, sender := { workspaceId := "w1", currentTerminalId := "t1" } }) 1 0)),
    .server (.service (.relay key (.initialised (.error "no layout")))),
    switchTo 0 "w3", switchTo 1 "w2"]

def stalled : Herdr.Answer :=
  { writing 65536 with
    daemon := fun _ => { oneWorkspace with paneList := fun _ => .error "herdr read timed out" } }

def takes : Event Herdr.Answer LineSender := .server (.takes key)

def performs (answer : Herdr.Answer) : Event Herdr.Answer LineSender := .server (.performs key .failed answer)

def records : Event Herdr.Answer LineSender := .server (.records key)

def timedOut : ProtoAck := switchSpaceAck .elapsed

-- herdr takes too long over the first one, and the relay goes on to the second.
def overdue : List (Event Herdr.Answer LineSender) :=
  twoSwitches ++ [takes, .elapsed 0, .elapsed 1, performs stalled, records, takes]

def after (events : List (Event Herdr.Answer LineSender)) : Handlers LineSender Lines :=
  (Transition.run stepOf (start firstLines) events).getD (start firstLines)

/-- The second request is refused while its command waits, and the relay carries it out later. -/
theorem timed_out_switch_carried_out :
    Transition.run stepOf (start firstLines) (overdue ++ [performs (writing 65536), records]) =
        some (after (overdue ++ [performs (writing 65536), records])) ∧
      ¬ StaysRefused standard anyName herdrOnly firstLines (overdue ++ [performs (writing 65536), records])
        (after (overdue ++ [performs (writing 65536), records])) := by
  refine ⟨rfl, ?_⟩
  intro stays
  have answers : (after (overdue ++ [performs (writing 65536), records])).answers = [(0, timedOut), (1, timedOut)] := rfl
  have untouched : Untouched (after overdue).server.service
      (after (overdue ++ [performs (writing 65536)])).server.service :=
    stays overdue (performs (writing 65536)) [records] (after overdue) (after (overdue ++ [performs (writing 65536)]))
      rfl rfl rfl 1 timedOut rfl (by simp [answers]) rfl
  have same : some ({ line := 0, sender := { workspaceId := "w2", currentTerminalId := "t1" } } : LineSender) =
      some { line := 0, sender := { workspaceId := "w1", currentTerminalId := "t1" } } := untouched.senders key
  simp at same

-- The first request is refused in the meantime, and the second one is carried out while it waits.
def punctual : List (Event Herdr.Answer LineSender) :=
  twoSwitches ++
    [takes, .elapsed 0, performs stalled, records, takes, performs (writing 65536), records, .replied 1 key]

theorem refused_switch_stays_refused_stalled :
    (after punctual).answers = [(0, timedOut), (1, switchSpaceAck (.replied (.ok ())))] ∧
      StaysRefused standard anyName herdrOnly firstLines punctual (after punctual) := by
  have inTime : Transition.Meets stepOf (fun handlers event => isLate standard handlers event = false)
      (start firstLines) punctual := by decide
  exact ⟨rfl, refused_switch_stays_refused inTime rfl⟩

end Overdue

end Muxrd.Refusal
