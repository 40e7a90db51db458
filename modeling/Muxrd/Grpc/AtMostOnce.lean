import Muxrd.Grpc.LastSpace
import Muxrd.Grpc.Unary
import Muxrd.Lib.Run
import Muxrd.Lib.Tables
import Muxrd.Multiplexer.Actions

set_option autoImplicit false

namespace Muxrd.Unary

open Routing Registry Helpers Service ZellijSender
open LastSpace (runAction)
open Actions (ServerToClientMsg TerminatesAt sendAction before ackOf drainLimit)

inductive Stage
  | called
  | attached
  | sent
  deriving DecidableEq, Repr

structure Task where
  rpc : Rpc
  accepted : Accepted
  stage : Stage
  deriving DecidableEq, Repr

/-- The unary requests of a server, with what its zellij sessions have been asked for on their account. A request's
id is its place among them. -/
structure Server where
  requests : List (Option Bool × Rpc)
  tasks : AList (fun _ : Nat => Task)
  asked : List (Nat × String × Action)
  answers : List (Nat × Except Status ProtoAck)
  hungUp : List Nat

def Server.start : Server :=
  { requests := [], tasks := ∅, asked := [], answers := [], hungUp := [] }

inductive Event
  -- With the relays that the handler finds if it looks for one.
  | rpc (caller : Option Bool) (rpc : Rpc) (relays : Registries)
  -- `send_action` up to its handshake, its second message, and its reads.
  | opens (id : Nat) (opened : Except String Unit)
  | sends (id : Nat) (sent : Except String Unit)
  | drains (id : Nat) (receive : Nat -> Option ServerToClientMsg)
  | elapses (id messages : Nat)
  | herdr (id : Nat) (result : Except String ActionAck)
  | panics (id : Nat) (message : String)
  -- The caller goes away; a closure that runs goes on.
  | hangsUp (id : Nat)

section Steps

variable {Backend : Type} (zellijValidate : String -> Except (List Piece) Unit) (backends : BackendSet Backend)

def Server.answer (server : Server) (id : Nat) (answer : Except Status ProtoAck) : Server :=
  { server with answers := server.answers ++ [(id, answer)] }

def Server.finish (server : Server) (id : Nat) (answer : Except Status ProtoAck) : Server :=
  let ended := { server with tasks := server.tasks.erase id }
  if id ∈ server.hungUp then ended else ended.answer id answer

def Server.begin (server : Server) (caller : Option Bool) (rpc : Rpc) (relays : Registries) : Server :=
  let id := server.requests.length
  let server := { server with requests := server.requests ++ [(caller, rpc)] }
  match accept zellijValidate backends caller rpc with
  | .error status => server.answer id (.error status)
  | .ok accepted =>
    match rpc.routed relays with
    | some ack => server.answer id (.ok ack)
    | none => { server with tasks := server.tasks.insert id { rpc, accepted, stage := .called } }

def Server.advance (server : Server) (id : Nat) (task : Task) : Event -> Option Server
  | .opens _ opened =>
    if task.stage = .called ∧ task.accepted.kind = .zellij then
      match opened with
      | .error message => some (server.finish id (runAction task.rpc.name (.error message)))
      | .ok _ => some { server with tasks := server.tasks.insert id { task with stage := .attached } }
    else none
  | .sends _ sent =>
    if task.stage = .attached then
      match sent with
      | .error message => some (server.finish id (runAction task.rpc.name (.error message)))
      | .ok _ =>
        some
          { server with
            tasks := server.tasks.insert id { task with stage := .sent }
            asked := server.asked ++ [(id, task.accepted.session, zellijAction task.accepted.call)] }
    else none
  | .drains _ receive =>
    if task.stage = .sent then some (server.finish id (runAction task.rpc.name (sendAction receive (.ok ())))) else none
  | .elapses _ messages =>
    if task.stage = .sent then
      let message := "send_action: timed out after " ++ toString messages ++ " messages waiting for action ack"
      some (server.finish id (runAction task.rpc.name (.error message)))
    else none
  | .herdr _ result =>
    if task.accepted.kind = .herdr then some (server.finish id (runAction task.rpc.name result)) else none
  | .panics _ message =>
    let message := "action task panicked: " ++ message
    some (server.finish id (runAction task.rpc.name (.error message)))
  | .hangsUp _ => some { server with hungUp := id :: server.hungUp }
  | .rpc _ _ _ => none

def Event.id : Event -> Nat
  | .opens id _ | .sends id _ | .drains id _ | .elapses id _ | .herdr id _ | .panics id _ | .hangsUp id => id
  | .rpc _ _ _ => 0

def step (server : Server) : Event -> Option Server
  | .rpc caller rpc relays => some (server.begin zellijValidate backends caller rpc relays)
  | event => (server.tasks.lookup event.id).bind fun task => server.advance event.id task event

end Steps

section Invariant

variable {Backend : Type} {zellijValidate : String -> Except (List Piece) Unit} {backends : BackendSet Backend}

def arrivals (events : List Event) : List (Option Bool × Rpc × Registries) :=
  events.filterMap fun event =>
    match event with
    | .rpc caller rpc relays => some (caller, rpc, relays)
    | _ => none

/-- Where an `ok` answer comes from: a relay took the command, the other backend acknowledged it, or the session was
asked and has said how it went. -/
inductive Grounds (events : List Event) (server : Server) (id : Nat) (caller : Option Bool) (rpc : Rpc)
    (accepted : Accepted) : ProtoAck -> Prop
  | routed {relays : Registries} {ack : ProtoAck} (received : (arrivals events)[id]? = some (caller, rpc, relays))
    (routed : rpc.routed relays = some ack) :
    Grounds events server id caller rpc accepted ack
  | herdr {ack : ActionAck} (kind : accepted.kind = .herdr) (answered : .herdr id (.ok ack) ∈ events) :
    Grounds events server id caller rpc accepted (toProto ack)
  | zellij {receive : Nat -> Option ServerToClientMsg} {ends : Nat}
    (asked : (id, accepted.session, zellijAction accepted.call) ∈ server.asked) (drained : .drains id receive ∈ events)
    (within : ends < drainLimit) (terminates : TerminatesAt receive ends) :
    Grounds events server id caller rpc accepted (toProto (ackOf (before receive ends)))

def Requested (zellijValidate : String -> Except (List Piece) Unit) (backends : BackendSet Backend) (server : Server)
    (id : Nat) (caller : Option Bool) (rpc : Rpc) (accepted : Accepted) : Prop :=
  server.requests[id]? = some (caller, rpc) ∧ accept zellijValidate backends caller rpc = .ok accepted

structure Running (zellijValidate : String -> Except (List Piece) Unit) (backends : BackendSet Backend)
    (server : Server) : Prop where
  pending : ∀ id task, server.tasks.lookup id = some task ->
    ∃ caller, Requested zellijValidate backends server id caller task.rpc task.accepted
  zellij : ∀ id task, server.tasks.lookup id = some task -> task.stage ≠ .called -> task.accepted.kind = .zellij
  sent : ∀ id task, server.tasks.lookup id = some task ->
    if task.stage = .sent then (id, task.accepted.session, zellijAction task.accepted.call) ∈ server.asked
    else id ∉ server.asked.map (·.1)

structure Asked (zellijValidate : String -> Except (List Piece) Unit) (backends : BackendSet Backend)
    (server : Server) : Prop where
  asked : ∀ id session action, (id, session, action) ∈ server.asked ->
    ∃ caller rpc accepted, Requested zellijValidate backends server id caller rpc accepted ∧
      accepted.kind = .zellij ∧ session = accepted.session ∧ action = zellijAction accepted.call
  once : (server.asked.map (·.1)).Nodup

structure Answered (zellijValidate : String -> Except (List Piece) Unit) (backends : BackendSet Backend)
    (events : List Event) (server : Server) : Prop where
  settled : ∀ id ∈ server.answers.map (·.1), server.tasks.lookup id = none ∧ id < server.requests.length
  once : (server.answers.map (·.1)).Nodup
  refused : ∀ id caller rpc status, server.requests[id]? = some (caller, rpc) ->
    accept zellijValidate backends caller rpc = .error status -> (id, .error status) ∈ server.answers
  acked : ∀ id ack, (id, .ok ack) ∈ server.answers ->
    ∃ caller rpc accepted, Requested zellijValidate backends server id caller rpc accepted ∧
      Grounds events server id caller rpc accepted ack
  kept : ∀ id < server.requests.length,
    id ∈ server.answers.map (·.1) ∨ (server.tasks.lookup id).isSome = true ∨ id ∈ server.hungUp

def Server.received (server : Server) (caller : Option Bool) (rpc : Rpc) : Server :=
  { server with requests := server.requests ++ [(caller, rpc)] }

inductive Ends (events : List Event) (id : Nat) (task : Task) : ProtoAck -> Prop
  | herdr {result : ActionAck} (kind : task.accepted.kind = .herdr) (heard : .herdr id (.ok result) ∈ events) :
    Ends events id task (toProto result)
  | zellij {receive : Nat -> Option ServerToClientMsg} {ends : Nat} (sent : task.stage = .sent)
    (drained : .drains id receive ∈ events) (within : ends < drainLimit) (terminates : TerminatesAt receive ends) :
    Ends events id task (toProto (ackOf (before receive ends)))

inductive Change (zellijValidate : String -> Except (List Piece) Unit) (backends : BackendSet Backend)
    (events : List Event) (server : Server) : Server -> Prop
  | refuses {caller : Option Bool} {rpc : Rpc} {status : Status}
    (refused : accept zellijValidate backends caller rpc = .error status) :
    Change zellijValidate backends events server
      ((server.received caller rpc).answer server.requests.length (.error status))
  | routes {caller : Option Bool} {rpc : Rpc} {accepted : Accepted} {relays : Registries} {ack : ProtoAck}
    (accepts : accept zellijValidate backends caller rpc = .ok accepted)
    (received : (arrivals events)[server.requests.length]? = some (caller, rpc, relays))
    (routed : rpc.routed relays = some ack) :
    Change zellijValidate backends events server
      ((server.received caller rpc).answer server.requests.length (.ok ack))
  | calls {caller : Option Bool} {rpc : Rpc} {accepted : Accepted}
    (accepts : accept zellijValidate backends caller rpc = .ok accepted) :
    Change zellijValidate backends events server
      { server.received caller rpc with
        tasks := server.tasks.insert server.requests.length { rpc, accepted, stage := .called } }
  | attaches {id : Nat} {task : Task} (found : server.tasks.lookup id = some task) (called : task.stage = .called)
    (kind : task.accepted.kind = .zellij) :
    Change zellijValidate backends events server
      { server with tasks := server.tasks.insert id { task with stage := .attached } }
  | asks {id : Nat} {task : Task} (found : server.tasks.lookup id = some task) (attached : task.stage = .attached) :
    Change zellijValidate backends events server
      { server with
        tasks := server.tasks.insert id { task with stage := .sent }
        asked := server.asked ++ [(id, task.accepted.session, zellijAction task.accepted.call)] }
  | finishes {id : Nat} {task : Task} {answer : Except Status ProtoAck}
    (found : server.tasks.lookup id = some task) (grounds : ∀ ack, answer = .ok ack -> Ends events id task ack) :
    Change zellijValidate backends events server (server.finish id answer)
  | hangsUp {id : Nat} {task : Task} (found : server.tasks.lookup id = some task) :
    Change zellijValidate backends events server { server with hungUp := id :: server.hungUp }

variable {events : List Event} {server next : Server} {event : Event}

def InTurn (events : List Event) (server : Server) (event : Event) : Prop :=
  event ∈ events ∧ ∀ caller rpc relays, event = .rpc caller rpc relays ->
    (arrivals events)[server.requests.length]? = some (caller, rpc, relays)

theorem step_change (taken : step zellijValidate backends server event = some next)
    (turn : InTurn events server event) : Change zellijValidate backends events server next := by
  have occurs := turn.1
  cases event with
  | rpc caller rpc relays =>
    obtain rfl := Option.some.inj taken
    simp only [Server.begin]
    cases accepts : accept zellijValidate backends caller rpc with
    | error status => exact .refuses accepts
    | ok accepted =>
      cases routed : rpc.routed relays with
      | none => exact .calls accepts
      | some ack => exact .routes accepts (turn.2 caller rpc relays rfl) routed
  | opens id opened =>
    obtain ⟨task, found, advanced⟩ := Option.bind_eq_some_iff.mp taken
    simp only [Server.advance] at advanced
    split_ifs at advanced with ready
    cases opened with
    | error message =>
      obtain rfl := Option.some.inj advanced
      exact .finishes found (fun ack answered => by cases answered)
    | ok _ =>
      obtain rfl := Option.some.inj advanced
      exact .attaches found ready.1 ready.2
  | sends id sent =>
    obtain ⟨task, found, advanced⟩ := Option.bind_eq_some_iff.mp taken
    simp only [Server.advance] at advanced
    split_ifs at advanced with ready
    cases sent with
    | error message =>
      obtain rfl := Option.some.inj advanced
      exact .finishes found (fun ack answered => by cases answered)
    | ok _ =>
      obtain rfl := Option.some.inj advanced
      exact .asks found ready
  | drains id receive =>
    obtain ⟨task, found, advanced⟩ := Option.bind_eq_some_iff.mp taken
    simp only [Server.advance] at advanced
    split_ifs at advanced with ready
    obtain rfl := Option.some.inj advanced
    refine .finishes found fun ack answered => ?_
    cases result : sendAction receive (.ok ()) with
    | error message =>
      rw [result] at answered
      cases answered
    | ok acked =>
      obtain ⟨ends, within, terminates, rfl⟩ := Actions.sendAction_ok.mp result
      rw [result] at answered
      obtain rfl := Except.ok.inj answered
      exact .zellij ready occurs within terminates
  | elapses id messages =>
    obtain ⟨task, found, advanced⟩ := Option.bind_eq_some_iff.mp taken
    simp only [Server.advance] at advanced
    split_ifs at advanced
    obtain rfl := Option.some.inj advanced
    exact .finishes found (fun ack answered => by cases answered)
  | panics id message =>
    obtain ⟨task, found, advanced⟩ := Option.bind_eq_some_iff.mp taken
    obtain rfl := Option.some.inj advanced
    exact .finishes found (fun ack answered => by cases answered)
  | herdr id result =>
    obtain ⟨task, found, advanced⟩ := Option.bind_eq_some_iff.mp taken
    simp only [Server.advance] at advanced
    split_ifs at advanced with kind
    obtain rfl := Option.some.inj advanced
    refine .finishes found fun ack answered => ?_
    cases result with
    | error message => cases answered
    | ok acked =>
      obtain rfl := Except.ok.inj answered
      exact .herdr kind occurs
  | hangsUp id =>
    obtain ⟨task, found, advanced⟩ := Option.bind_eq_some_iff.mp taken
    obtain rfl := Option.some.inj advanced
    exact .hangsUp found

theorem Requested.bound {id : Nat} {caller : Option Bool} {rpc : Rpc} {accepted : Accepted}
    (requested : Requested zellijValidate backends server id caller rpc accepted) : id < server.requests.length :=
  (List.getElem?_eq_some_iff.mp requested.1).1

theorem Requested.received {id : Nat} {caller : Option Bool} {rpc : Rpc} {accepted : Accepted}
    (requested : Requested zellijValidate backends server id caller rpc accepted) (other : Option Bool) (later : Rpc) :
    Requested zellijValidate backends (server.received other later) id caller rpc accepted := by
  refine ⟨?_, requested.2⟩
  rw [Server.received, List.getElem?_append_left requested.bound]
  exact requested.1

theorem received_getElem? {id : Nat} {caller other : Option Bool} {rpc later : Rpc}
    (there : (server.received caller rpc).requests[id]? = some (other, later)) :
    server.requests[id]? = some (other, later) ∨ (id = server.requests.length ∧ other = caller ∧ later = rpc) := by
  rcases Nat.lt_or_ge id server.requests.length with below | beyond
  · rw [Server.received, List.getElem?_append_left below] at there
    exact .inl there
  · have bound := (List.getElem?_eq_some_iff.mp there).1
    simp only [Server.received, List.length_append, List.length_singleton] at bound
    obtain rfl : id = server.requests.length := by omega
    obtain ⟨rfl, rfl⟩ : caller = other ∧ rpc = later := by simpa [Server.received] using there
    exact .inr ⟨rfl, rfl, rfl⟩

theorem Running.fresh (running : Running zellijValidate backends server) :
    server.tasks.lookup server.requests.length = none := by
  by_contra there
  obtain ⟨task, found⟩ := Option.ne_none_iff_exists'.mp there
  obtain ⟨caller, requested⟩ := running.pending _ task found
  exact absurd requested.bound (lt_irrefl _)

theorem Asked.fresh (asked : Asked zellijValidate backends server) :
    server.requests.length ∉ server.asked.map (·.1) := by
  intro member
  obtain ⟨⟨id, session, action⟩, entry, rfl⟩ := List.mem_map.mp member
  obtain ⟨caller, rpc, accepted, requested, _⟩ := asked.asked _ session action entry
  exact absurd requested.bound (lt_irrefl _)

theorem finish_eq (server : Server) (id : Nat) (answer : Except Status ProtoAck) :
    (server.finish id answer).requests = server.requests ∧ (server.finish id answer).asked = server.asked ∧
      (server.finish id answer).tasks = server.tasks.erase id ∧ (server.finish id answer).hungUp = server.hungUp ∧
      (server.finish id answer).answers =
        server.answers ++ if id ∈ server.hungUp then [] else [(id, answer)] := by
  unfold Server.finish Server.answer
  split_ifs <;> simp

theorem running_change (running : Running zellijValidate backends server) (asked : Asked zellijValidate backends server)
    (change : Change zellijValidate backends events server next) : Running zellijValidate backends next := by
  obtain ⟨pending, zellij, sent⟩ := running
  cases change with
  | refuses refused | routes accepts received routed =>
    refine { pending := fun id task found => ?_, zellij, sent }
    obtain ⟨caller, requested⟩ := pending id task found
    exact ⟨caller, requested.received _ _⟩
  | @calls caller rpc accepted accepts =>
    constructor
    · intro id task found
      rcases AList.of_lookup_insert found with ⟨rfl, rfl⟩ | ⟨_, old⟩
      · exact ⟨caller, by simp [Server.received], accepts⟩
      · obtain ⟨caller, requested⟩ := pending id task old
        exact ⟨caller, requested.received _ _⟩
    · intro id task found begun
      rcases AList.of_lookup_insert found with ⟨rfl, rfl⟩ | ⟨_, old⟩
      · exact absurd rfl begun
      · exact zellij id task old begun
    · intro id task found
      rcases AList.of_lookup_insert found with ⟨rfl, rfl⟩ | ⟨_, old⟩
      · exact asked.fresh
      · exact sent id task old
  | @attaches id task found called kind =>
    constructor
    · intro key other there
      rcases AList.of_lookup_insert there with ⟨rfl, rfl⟩ | ⟨_, old⟩
      · exact pending _ task found
      · exact pending key other old
    · intro key other there begun
      rcases AList.of_lookup_insert there with ⟨rfl, rfl⟩ | ⟨_, old⟩
      · exact kind
      · exact zellij key other old begun
    · intro key other there
      rcases AList.of_lookup_insert there with ⟨rfl, rfl⟩ | ⟨_, old⟩
      · simpa [called] using sent _ task found
      · exact sent key other old
  | @asks id task found attached =>
    constructor
    · intro key other there
      rcases AList.of_lookup_insert there with ⟨rfl, rfl⟩ | ⟨_, old⟩
      · exact pending _ task found
      · exact pending key other old
    · intro key other there begun
      rcases AList.of_lookup_insert there with ⟨rfl, rfl⟩ | ⟨_, old⟩
      · exact zellij _ task found (by simp [attached])
      · exact zellij key other old begun
    · intro key other there
      rcases AList.of_lookup_insert there with ⟨rfl, rfl⟩ | ⟨different, old⟩
      · simp
      · have before := sent key other old
        split_ifs at before ⊢
        · exact List.mem_append_left _ before
        · simpa [different] using before
  | @finishes id task answer found grounds =>
    obtain ⟨requests, askedBefore, tasks, _, _⟩ := finish_eq server id answer
    constructor
    · intro key other there
      rw [tasks] at there
      obtain ⟨caller, requested⟩ := pending key other (AList.of_lookup_erase there).2
      exact ⟨caller, by rw [requests]; exact requested.1, requested.2⟩
    · intro key other there
      rw [tasks] at there
      exact zellij key other (AList.of_lookup_erase there).2
    · intro key other there
      rw [tasks] at there
      rw [askedBefore]
      exact sent key other (AList.of_lookup_erase there).2
  | hangsUp found => exact { pending, zellij, sent }

theorem asked_change (running : Running zellijValidate backends server) (asked : Asked zellijValidate backends server)
    (change : Change zellijValidate backends events server next) : Asked zellijValidate backends next := by
  have received (caller : Option Bool) (rpc : Rpc) : Asked zellijValidate backends (server.received caller rpc) := by
    refine { asked := fun id session action member => ?_, once := asked.once }
    obtain ⟨caller, rpc, accepted, requested, facts⟩ := asked.asked id session action member
    exact ⟨caller, rpc, accepted, requested.received _ _, facts⟩
  cases change with
  | refuses refused => exact { received _ _ with }
  | routes accepts arrived routed => exact { received _ _ with }
  | calls accepts => exact { received _ _ with }
  | attaches found called kind => exact { asked with }
  | hangsUp found => exact { asked with }
  | @asks id task found attached =>
    constructor
    · intro key session action member
      rcases List.mem_append.mp member with old | new
      · exact asked.asked key session action old
      · obtain ⟨rfl, rfl, rfl⟩ : key = id ∧ session = task.accepted.session ∧
            action = zellijAction task.accepted.call := by
          simpa using new
        obtain ⟨caller, requested⟩ := running.pending _ task found
        exact ⟨caller, task.rpc, task.accepted, requested, running.zellij _ task found (by simp [attached]), rfl, rfl⟩
    · have unasked : id ∉ server.asked.map (·.1) := by simpa [attached] using running.sent id task found
      rw [List.map_append, List.nodup_append]
      refine ⟨asked.once, by simp, fun key old other new => ?_⟩
      rintro rfl
      obtain rfl : key = id := by simpa using new
      exact unasked old
  | @finishes id task answer found grounds =>
    obtain ⟨requests, askedBefore, _, _, _⟩ := finish_eq server id answer
    constructor
    · rw [askedBefore]
      intro key session action member
      obtain ⟨caller, rpc, accepted, requested, facts⟩ := asked.asked key session action member
      exact ⟨caller, rpc, accepted, ⟨by rw [requests]; exact requested.1, requested.2⟩, facts⟩
    · rw [askedBefore]
      exact asked.once

theorem Grounds.mono {id : Nat} {caller : Option Bool} {rpc : Rpc} {accepted : Accepted} {ack : ProtoAck}
    (grounds : Grounds events server id caller rpc accepted ack) (grown : server.asked ⊆ next.asked) :
    Grounds events next id caller rpc accepted ack := by
  cases grounds with
  | routed received routed => exact .routed received routed
  | herdr kind answered => exact .herdr kind answered
  | zellij asked drained within terminates => exact .zellij (grown asked) drained within terminates

theorem Answered.unanswered (answered : Answered zellijValidate backends events server) {id : Nat}
    (pending : (server.tasks.lookup id).isSome = true ∨ server.requests.length ≤ id) :
    id ∉ server.answers.map (·.1) := by
  intro member
  obtain ⟨ended, below⟩ := answered.settled id member
  rcases pending with there | beyond
  · simp [ended] at there
  · omega

theorem answered_received (running : Running zellijValidate backends server)
    (answered : Answered zellijValidate backends events server) {caller : Option Bool} {rpc : Rpc}
    {answer : Except Status ProtoAck}
    (refused : ∀ status, accept zellijValidate backends caller rpc = .error status -> answer = .error status)
    (acked : ∀ ack, answer = .ok ack -> ∃ accepted relays, accept zellijValidate backends caller rpc = .ok accepted ∧
      (arrivals events)[server.requests.length]? = some (caller, rpc, relays) ∧ rpc.routed relays = some ack) :
    Answered zellijValidate backends events
      ((server.received caller rpc).answer server.requests.length answer) := by
  have new : (server.received caller rpc).requests[server.requests.length]? = some (caller, rpc) := by
    simp [Server.received]
  constructor
  · intro id member
    simp only [Server.answer, Server.received, List.map_append, List.mem_append, List.map_cons, List.map_nil,
      List.mem_singleton] at member
    rcases member with old | rfl
    · obtain ⟨ended, below⟩ := answered.settled id old
      exact ⟨ended, by simp only [Server.answer, Server.received, List.length_append]; omega⟩
    · exact ⟨running.fresh, by simp [Server.answer, Server.received]⟩
  · have unanswered := answered.unanswered (.inr (Nat.le_refl server.requests.length))
    simp only [Server.answer, Server.received, List.map_append, List.nodup_append]
    refine ⟨answered.once, by simp, fun key old other added => ?_⟩
    rintro rfl
    obtain rfl : key = server.requests.length := by simpa using added
    exact unanswered old
  · intro id other later status there rejects
    rcases received_getElem? there with old | ⟨rfl, rfl, rfl⟩
    · exact List.mem_append_left _ (answered.refused id other later status old rejects)
    · rw [refused status rejects]
      exact List.mem_append_right _ (List.mem_singleton.mpr rfl)
  · intro id ack member
    rcases List.mem_append.mp member with old | added
    · obtain ⟨other, later, accepted, requested, grounds⟩ := answered.acked id ack old
      exact ⟨other, later, accepted, requested.received _ _, grounds.mono (List.Subset.refl _)⟩
    · obtain ⟨rfl, same⟩ : id = server.requests.length ∧ Except.ok ack = answer := by simpa using added
      obtain ⟨accepted, relays, accepts, received, routed⟩ := acked ack same.symm
      exact ⟨caller, rpc, accepted, ⟨new, accepts⟩, .routed received routed⟩
  · intro id below
    simp only [Server.answer, Server.received, List.length_append, List.length_singleton] at below
    rcases Nat.lt_succ_iff_lt_or_eq.mp below with old | rfl
    · rcases answered.kept id old with told | there
      · exact .inl (by simp [Server.answer, Server.received] at told ⊢; exact .inl told)
      · exact .inr there
    · exact .inl (by simp [Server.answer])

theorem answered_continues (answered : Answered zellijValidate backends events server) {id : Nat} {task after : Task}
    (more : List (Nat × String × Action)) (found : server.tasks.lookup id = some task) :
    Answered zellijValidate backends events
      { server with tasks := server.tasks.insert id after, asked := server.asked ++ more } := by
  refine { answered with settled := fun key member => ?_, acked := fun key ack member => ?_, kept := fun key below => ?_ }
  · obtain ⟨ended, below⟩ := answered.settled key member
    have other : key ≠ id := by
      rintro rfl
      rw [found] at ended
      cases ended
    exact ⟨by rw [AList.lookup_insert_ne other]; exact ended, below⟩
  · obtain ⟨caller, rpc, accepted, requested, grounds⟩ := answered.acked key ack member
    exact ⟨caller, rpc, accepted, requested, grounds.mono (List.subset_append_left _ _)⟩
  · rcases answered.kept key below with told | there | left
    · exact .inl told
    · refine .inr (.inl ?_)
      by_cases same : key = id
      · rw [same, AList.lookup_insert]
        rfl
      · rw [AList.lookup_insert_ne same]
        exact there
    · exact .inr (.inr left)

theorem answered_calls (answered : Answered zellijValidate backends events server) {caller : Option Bool} {rpc : Rpc}
    {accepted : Accepted} (accepts : accept zellijValidate backends caller rpc = .ok accepted) :
    Answered zellijValidate backends events
      { server.received caller rpc with
        tasks := server.tasks.insert server.requests.length { rpc, accepted, stage := .called } } := by
  constructor
  · intro id member
    obtain ⟨ended, below⟩ := answered.settled id member
    have other : id ≠ server.requests.length := by omega
    refine ⟨by rw [AList.lookup_insert_ne other]; exact ended, ?_⟩
    simp only [Server.received, List.length_append]
    omega
  · exact answered.once
  · intro id other later status there rejects
    rcases received_getElem? there with old | ⟨rfl, rfl, rfl⟩
    · exact answered.refused id other later status old rejects
    · rw [accepts] at rejects
      cases rejects
  · intro id ack member
    obtain ⟨other, later, accepted, requested, grounds⟩ := answered.acked id ack member
    exact ⟨other, later, accepted, requested.received _ _, grounds.mono (List.Subset.refl _)⟩
  · intro id below
    simp only [Server.received, List.length_append, List.length_singleton] at below
    rcases Nat.lt_succ_iff_lt_or_eq.mp below with old | rfl
    · rcases answered.kept id old with told | there | left
      · exact .inl told
      · refine .inr (.inl ?_)
        rw [AList.lookup_insert_ne (by omega)]
        exact there
      · exact .inr (.inr left)
    · exact .inr (.inl (by rw [AList.lookup_insert]; rfl))

section Finishing

variable {id : Nat} {task : Task} {answer : Except Status ProtoAck}

theorem mem_finish {key : Nat} {other : Except Status ProtoAck}
    (member : (key, other) ∈ (server.finish id answer).answers) :
    (key, other) ∈ server.answers ∨ (key = id ∧ other = answer) := by
  obtain ⟨_, _, _, _, answers⟩ := finish_eq server id answer
  rw [answers] at member
  split_ifs at member
  · exact .inl (by simpa using member)
  · simpa using member

theorem Requested.finish {key : Nat} {caller : Option Bool} {rpc : Rpc} {accepted : Accepted}
    (requested : Requested zellijValidate backends server key caller rpc accepted) :
    Requested zellijValidate backends (server.finish id answer) key caller rpc accepted := by
  obtain ⟨requests, _, _, _, _⟩ := finish_eq server id answer
  exact ⟨by rw [requests]; exact requested.1, requested.2⟩

theorem answered_ended (running : Running zellijValidate backends server)
    (answered : Answered zellijValidate backends events server) (found : server.tasks.lookup id = some task) :
    (∀ key ∈ (server.finish id answer).answers.map (·.1), (server.finish id answer).tasks.lookup key = none ∧
      key < (server.finish id answer).requests.length) ∧ ((server.finish id answer).answers.map (·.1)).Nodup := by
  obtain ⟨requests, _, tasks, _, answers⟩ := finish_eq server id answer
  obtain ⟨caller, requested⟩ := running.pending id task found
  constructor
  · intro key member
    obtain ⟨⟨key, other⟩, entry, rfl⟩ := List.mem_map.mp member
    rw [requests, tasks]
    rcases mem_finish entry with old | ⟨rfl, rfl⟩
    · obtain ⟨ended, below⟩ := answered.settled key (List.mem_map_of_mem old)
      refine ⟨?_, below⟩
      by_cases same : key = id
      · rw [same, AList.lookup_erase]
      · rw [AList.lookup_erase_ne same]
        exact ended
    · exact ⟨AList.lookup_erase _ _, requested.bound⟩
  · have unanswered : id ∉ server.answers.map (·.1) := answered.unanswered (.inl (by simp [found]))
    rw [answers]
    split_ifs
    · simpa using answered.once
    · rw [List.map_append, List.nodup_append]
      refine ⟨answered.once, by simp, fun key old other new => ?_⟩
      rintro rfl
      obtain rfl : key = id := by simpa using new
      exact unanswered old

theorem answered_finishes (running : Running zellijValidate backends server)
    (answered : Answered zellijValidate backends events server) (found : server.tasks.lookup id = some task)
    (grounds : ∀ ack, answer = .ok ack -> Ends events id task ack) :
    Answered zellijValidate backends events (server.finish id answer) := by
  obtain ⟨requests, askedBefore, tasks, hungUp, answers⟩ := finish_eq server id answer
  obtain ⟨settled, once⟩ := answered_ended running answered found
  refine { settled, once, refused := ?_, acked := ?_, kept := ?_ }
  · intro key other later status there rejects
    rw [requests] at there
    rw [answers]
    exact List.mem_append_left _ (answered.refused key other later status there rejects)
  · intro key ack member
    rcases mem_finish member with old | ⟨rfl, same⟩
    · obtain ⟨other, rpc, accepted, requested, grounds⟩ := answered.acked key ack old
      exact ⟨other, rpc, accepted, requested.finish, grounds.mono (by rw [askedBefore]; exact List.Subset.refl _)⟩
    · obtain ⟨caller, requested⟩ := running.pending key task found
      refine ⟨caller, task.rpc, task.accepted, requested.finish, ?_⟩
      cases grounds ack same.symm with
      | herdr kind heard => exact .herdr kind heard
      | zellij sent drained within last =>
        have asked : (key, task.accepted.session, zellijAction task.accepted.call) ∈ server.asked := by
          simpa [sent] using running.sent key task found
        exact .zellij (by rw [askedBefore]; exact asked) drained within last
  · intro key below
    rw [requests] at below
    rw [hungUp, tasks, answers]
    by_cases same : key = id
    · subst same
      by_cases left : key ∈ server.hungUp
      · exact .inr (.inr left)
      · exact .inl (by simp [left])
    · rcases answered.kept key below with told | there | left
      · exact .inl (by rw [List.map_append]; exact List.mem_append_left _ told)
      · exact .inr (.inl (by rw [AList.lookup_erase_ne same]; exact there))
      · exact .inr (.inr left)

end Finishing

theorem answered_hangsUp (answered : Answered zellijValidate backends events server) (id : Nat) :
    Answered zellijValidate backends events { server with hungUp := id :: server.hungUp } := by
  refine { answered with acked := fun key ack member => ?_, kept := fun key below => ?_ }
  · obtain ⟨caller, rpc, accepted, requested, grounds⟩ := answered.acked key ack member
    exact ⟨caller, rpc, accepted, requested, grounds.mono (List.Subset.refl _)⟩
  · rcases answered.kept key below with told | there | left
    · exact .inl told
    · exact .inr (.inl there)
    · exact .inr (.inr (List.mem_cons_of_mem _ left))

theorem answered_change (running : Running zellijValidate backends server)
    (answered : Answered zellijValidate backends events server)
    (change : Change zellijValidate backends events server next) :
    Answered zellijValidate backends events next := by
  cases change with
  | refuses refused =>
    refine answered_received running answered (fun status rejects => ?_) (fun ack ok => by cases ok)
    rw [Except.error.inj (refused.symm.trans rejects)]
  | routes accepts received routed =>
    refine answered_received running answered (fun status rejects => ?_) (fun ack ok => ?_)
    · rw [accepts] at rejects
      cases rejects
    · obtain rfl := Except.ok.inj ok
      exact ⟨_, _, accepts, received, routed⟩
  | calls accepts => exact answered_calls answered accepts
  | attaches found called kind => simpa using answered_continues answered [] found
  | asks found attached => exact answered_continues answered _ found
  | finishes found grounds => exact answered_finishes running answered found grounds
  | hangsUp found => exact answered_hangsUp answered _

-- The three hold of a server together; each step needs the others of the state it is taken in.
structure Sound (zellijValidate : String -> Except (List Piece) Unit) (backends : BackendSet Backend)
    (events : List Event) (server : Server) : Prop where
  running : Running zellijValidate backends server
  asked : Asked zellijValidate backends server
  answered : Answered zellijValidate backends events server

theorem sound_start : Sound zellijValidate backends events Server.start := by
  constructor
  · constructor <;> simp [Server.start]
  · constructor <;> simp [Server.start]
  · constructor <;> simp [Server.start]

theorem sound_step (sound : Sound zellijValidate backends events server) (turn : InTurn events server event)
    (taken : step zellijValidate backends server event = some next) : Sound zellijValidate backends events next := by
  have change := step_change taken turn
  constructor
  · exact running_change sound.running sound.asked change
  · exact asked_change sound.running sound.asked change
  · exact answered_change sound.running sound.answered change

theorem step_requests (taken : step zellijValidate backends server event = some next) :
    next.requests.length = server.requests.length + (arrivals [event]).length := by
  have advanced {id : Nat} {answer : Except Status ProtoAck} :
      (server.finish id answer).requests.length = server.requests.length := by
    rw [(finish_eq server id answer).1]
  cases event with
  | rpc caller rpc relays =>
    obtain rfl := Option.some.inj taken
    simp only [Server.begin]
    split
    · simp [Server.answer, arrivals]
    · split <;> simp [Server.answer, arrivals]
  | opens id result | sends id result =>
    obtain ⟨task, found, taken⟩ := Option.bind_eq_some_iff.mp taken
    simp only [Server.advance] at taken
    split_ifs at taken
    cases result <;> obtain rfl := Option.some.inj taken
    · exact advanced
    · rfl
  | drains id receive | elapses id messages | herdr id result =>
    obtain ⟨task, found, taken⟩ := Option.bind_eq_some_iff.mp taken
    simp only [Server.advance] at taken
    split_ifs at taken
    obtain rfl := Option.some.inj taken
    exact advanced
  | panics id message =>
    obtain ⟨task, found, taken⟩ := Option.bind_eq_some_iff.mp taken
    obtain rfl := Option.some.inj taken
    exact advanced
  | hangsUp id =>
    obtain ⟨task, found, taken⟩ := Option.bind_eq_some_iff.mp taken
    obtain rfl := Option.some.inj taken
    rfl

theorem in_turn {rest : List Event} (earlier : List Event)
    (received : server.requests.length = (arrivals earlier).length) :
    Transition.Meets (step zellijValidate backends) (InTurn (earlier ++ rest)) server rest := by
  induction rest generalizing server earlier with
  | nil => trivial
  | cons event rest ih =>
    refine ⟨⟨by simp, ?_⟩, fun next taken => ?_⟩
    · rintro caller rpc relays rfl
      simp [arrivals, received]
    · have later := @ih next (earlier ++ [event]) ?_
      · simpa using later
      · rw [step_requests taken, received]
        simp [arrivals]

theorem sound_run {final : Server}
    (ran : Transition.run (step zellijValidate backends) Server.start events = some final) :
    Sound zellijValidate backends events final := by
  refine Transition.invariant_of_meets (fun _ _ _ sound turn taken => ?_) sound_start (in_turn [] rfl) ran
  exact sound_step sound turn taken

structure Served (zellijValidate : String -> Except (List Piece) Unit) (backends : BackendSet Backend)
    (events : List Event) (final : Server) : Prop where
  askedOnce : (final.asked.map (·.1)).Nodup
  answeredOnce : (final.answers.map (·.1)).Nodup
  asked : ∀ id session action, (id, session, action) ∈ final.asked ->
    ∃ caller rpc accepted, Requested zellijValidate backends final id caller rpc accepted ∧
      accepted.kind = .zellij ∧ session = accepted.session ∧ readAction action = some accepted.call ∧
      Addressed zellijValidate backends rpc accepted ∧ (caller = some false ∨ rpc.observes = true)
  refused : ∀ id caller rpc status, final.requests[id]? = some (caller, rpc) ->
    accept zellijValidate backends caller rpc = .error status ->
      (id, .error status) ∈ final.answers ∧ id ∉ final.asked.map (·.1)
  acknowledged : ∀ id ack, (id, .ok ack) ∈ final.answers -> ack.ok = true ->
    ∃ caller rpc accepted, Requested zellijValidate backends final id caller rpc accepted ∧
      ((∃ relays, (arrivals events)[id]? = some (caller, rpc, relays) ∧ Taken rpc relays) ∨
        (accepted.kind = .herdr ∧ ∃ result, .herdr id (.ok result) ∈ events ∧ ack = toProto result) ∨
        ((id, accepted.session, zellijAction accepted.call) ∈ final.asked ∧ ∃ receive ends,
          .drains id receive ∈ events ∧ ends < drainLimit ∧ TerminatesAt receive ends ∧
            ∀ lines, .logError lines ∈ before receive ends -> lines = []))
  kept : ∀ id < final.requests.length,
    id ∈ final.answers.map (·.1) ∨ (final.tasks.lookup id).isSome = true ∨ id ∈ final.hungUp

end Invariant

section Closing

def zellijAlone : BackendSet BackendKind :=
  { backends := [(.zellij, .zellij)], nonempty := by simp }

def anyTitle (_ : String) : Except (List Piece) Unit := .ok ()

def ofPane : PaneTarget :=
  { session := "zellij:dev", connectionId := "", pane := .terminal 4 }

def closed : Nat -> Option ServerToClientMsg
  | 0 | 2 => some .unblockInputThread
  | 1 => some (.log ["terminal_4"])
  | _ => none

-- A pane is closed while a read-only token asks for the same.
def closing : List Event :=
  [.rpc (some false) (.closePane ofPane) Registries.empty, .opens 0 (.ok ()),
    .rpc (some true) (.closePane ofPane) Registries.empty, .sends 0 (.ok ()), .drains 0 closed]

end Closing

end Muxrd.Unary
