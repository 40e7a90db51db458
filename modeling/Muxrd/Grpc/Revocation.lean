import Muxrd.Grpc.Confinement

set_option autoImplicit false

namespace Muxrd.Access

open Routing Attach Helpers Service Auth
open Registry (mintConnectionId)
open Inbound (Relay Phase Task)

section Phases

variable {Answer State World : Type} {mux : MuxSender Answer State World} {relay next : Relay State World}

def ended : Phase -> Bool
  | .initialising | .running => false
  | .broken | .deregistered | .closed => true

theorem ended_step {event : Inbound.Event Answer} (finished : ended relay.phase = true)
    (taken : Inbound.step mux relay event = some next) : ended next.phase = true := by
  have stopped : relay.phase ≠ .running := by
    intro running
    rw [running] at finished
    contradiction
  cases event with
  | initialised layout =>
    simp only [Inbound.step] at taken
    split_ifs at taken with starting
    rw [starting] at finished
    contradiction
  | recheck | command | frame | streamError | streamEnd =>
    simp only [Inbound.step, stopped, if_false] at taken
    contradiction
  | cancelled answer | deregister | dropGuard answer =>
    simp only [Inbound.step] at taken
    split_ifs at taken
    obtain rfl := Option.some.inj taken
    rfl
  | layoutTask index answer =>
    simp only [Inbound.step] at taken
    split at taken
    · obtain rfl := Option.some.inj taken
      exact finished
    · contradiction
  | renderThreadEnds | elsewhere =>
    obtain rfl := Option.some.inj taken
    exact finished
  | sibling connectionId entry =>
    simp only [Inbound.step] at taken
    split_ifs at taken
    obtain rfl := Option.some.inj taken
    exact finished

def Ended {State World : Type} (service : MuxrService State World) (key : String) : Prop :=
  ∃ connection, service.connections.lookup key = some connection ∧ ended connection.relay.phase = true

variable {Backend : Type} {zellijValidate : String -> Except (List Piece) Unit} {backends : BackendSet Backend}
  {service after : MuxrService State World} {key : String}

theorem Ended.stored (consistent : Consistent service) (finished : Ended service key) {other : String}
    {connection : Connection State World} (found : service.connections.lookup other = some connection)
    {relay : Relay State World} (task : relay.task = connection.relay.task)
    (stays : ended connection.relay.phase = true -> ended relay.phase = true) :
    Ended (store service connection relay) key := by
  have own : relay.connectionId = other :=
    (congrArg Task.connectionId task).trans (consistent.keyed other connection found)
  obtain ⟨mine, there, past⟩ := finished
  by_cases same : key = other
  · subst same
    obtain rfl := Option.some.inj (there.symm.trans found)
    exact ⟨_, store_own own, stays past⟩
  · exact ⟨mine, (store_other own same).trans there, past⟩

theorem settle_connections (connection : Connection State World) (event : Inbound.Event Answer) :
    (settle service connection event).connections = service.connections := by
  cases event <;> rfl

theorem Ended.step (consistent : Consistent service) (finished : Ended service key) {event : Service.Event Answer State}
    (taken : Service.step zellijValidate backends mux service event = some after) : Ended after key := by
  cases event with
  | attach caller first size opened random channel =>
    obtain rfl | ⟨target, sender, unminted, _, rfl⟩ := attach_some taken
    · exact finished
    · obtain ⟨mine, there, past⟩ := finished
      have different : key ≠ mintConnectionId random := by
        rintro rfl
        exact unminted (Visible.mem_iff_lookup.mpr ⟨mine, there⟩)
      exact ⟨mine, (AList.lookup_insert_ne different).trans there, past⟩
  | relay other event =>
    obtain ⟨connection, found, taken⟩ := step_relay taken
    obtain ⟨relay, _, own, moved, rfl⟩ := relayStep_some taken
    have stays (past : ended (load service connection.relay).phase = true) := ended_step past moved
    have stored : Ended (store service connection relay) key :=
      finished.stored consistent found (stepped_frame consistent found own moved).1 stays
    unfold Ended at *
    rw [settle_connections]
    exact stored
  | dequeue other query answer =>
    obtain ⟨connection, found, taken⟩ := step_dequeue taken
    obtain ⟨channel, ticket, cmd, rest, relay, _, _, moved, rfl⟩ := dequeue_some taken
    have own (name : String) (entry : Option ViewStateEntry) :
        (.command ticket cmd query answer : Inbound.Event Answer) ≠ .sibling name entry := by simp
    have stays (past : ended (load service connection.relay).phase = true) := ended_step past moved
    exact finished.stored consistent found (stepped_frame consistent found own moved).1 stays
  | rpc id caller request =>
    obtain ⟨_, ⟨outcome, moved, handled, rfl⟩ | rfl⟩ := step_rpc taken
    · rcases handle_cases handled with rfl | ⟨_, _, _, _, _, rfl, _⟩ | ⟨_, _, _, _, _, _, _, rfl⟩ <;> exact finished
    · exact finished
  | repoint id listed =>
    obtain ⟨_, _, rfl | ⟨_, _, _, _, rfl⟩⟩ := repoint_some taken <;> exact finished
  | elsewhere answer =>
    obtain rfl := Option.some.inj taken
    exact finished
  | reorder control =>
    obtain ⟨_, rfl⟩ := step_reorder taken
    exact finished

-- What a relay takes in for its client: the frames of the stream, and the commands routed to it.
def serves (key : String) : Service.Event Answer State -> Bool
  | .relay other (.frame _ _) => other = key
  | .dequeue other _ _ => other = key
  | _ => false

theorem Ended.idle (finished : Ended service key) {event : Service.Event Answer State}
    (taken : Service.step zellijValidate backends mux service event = some after) : serves key event = false := by
  obtain ⟨mine, there, past⟩ := finished
  have stopped : (load service mine.relay).phase ≠ .running := by
    intro running
    have phase : mine.relay.phase = .running := running
    rw [phase] at past
    contradiction
  cases event with
  | relay other event =>
    cases event with
    | frame frame answer =>
      simp only [serves, decide_eq_false_iff_not]
      rintro rfl
      obtain ⟨connection, found, taken⟩ := step_relay taken
      obtain rfl := Option.some.inj (there.symm.trans found)
      obtain ⟨_, _, _, moved, _⟩ := relayStep_some taken
      simp only [Inbound.step, stopped, if_false] at moved
      contradiction
    | _ => rfl
  | dequeue other query answer =>
    simp only [serves, decide_eq_false_iff_not]
    rintro rfl
    obtain ⟨connection, found, taken⟩ := step_dequeue taken
    obtain rfl := Option.some.inj (there.symm.trans found)
    obtain ⟨_, _, _, _, _, _, _, moved, _⟩ := dequeue_some taken
    simp only [Inbound.step, stopped, if_false] at moved
    contradiction
  | attach | rpc | repoint | elsewhere | reorder => rfl

end Phases

section Locked

variable {Backend Db : Type} {zellijValidate : String -> Except (List Piece) Unit} {backends : BackendSet Backend}
  {sync : Bool} {tokens : TokenDb Db} {writes live : Db -> String -> Prop} {revoked gateway moved next : Gateway Db}
  {token : String}

structure Locked (live : Db -> String -> Prop) (token : String) (revoked gateway : Gateway Db) : Prop where
  dead : ¬ live gateway.db token
  issued : token ∈ gateway.issued
  arrived : ∀ id pending seen, gateway.pending.lookup id = some pending -> pending.stage = .arrived seen ->
    id ∈ revoked.pending ∨ ¬ live seen token
  admitted : ∀ id pending caller, gateway.pending.lookup id = some pending ->
    pending.stage = .admitted caller (some token) -> id ∈ revoked.pending
  answered : ∀ given ∈ gateway.answers, given.token = some token ->
    given ∈ revoked.answers ∨ given.id ∈ revoked.pending

theorem Locked.start (dead : ¬ live revoked.db token) (issued : token ∈ revoked.issued) :
    Locked live token revoked revoked :=
  { dead, issued
    arrived := fun _ pending _ found _ => .inl (Visible.mem_iff_lookup.mpr ⟨pending, found⟩)
    admitted := fun _ pending _ found _ => Visible.mem_iff_lookup.mpr ⟨pending, found⟩
    answered := fun _ member _ => .inl member }

theorem dead_applied (lawful : Lawful tokens writes live) {db after : Db} {call : DbCall} {minted issued : List String}
    (applied : apply tokens db call = (minted, after)) (fresh : ∀ secret ∈ minted, secret ∉ issued)
    (dead : ¬ live db token) (known : token ∈ issued) : ¬ live after token := by
  intro lives
  rcases lawful.lives applied lives with before | new
  · exact dead before
  · exact fresh token new known

theorem Locked.answer (lawful : Lawful tokens writes live) (locked : Locked live token revoked gateway) {id : Nat}
    {pending : Pending Db} {caller : Option Bool} {given : Option String} {reply : Reply} {db : Db}
    (admitted : given = some token -> id ∈ revoked.pending)
    (touches : Touches tokens caller gateway.db pending.call reply db)
    (answered : answer gateway id pending given reply db = some next) : Locked live token revoked next := by
  obtain ⟨fresh, rfl⟩ := answer_some answered
  constructor
  · cases touches with
    | nothing => exact locked.dead
    | login _ applied _ => exact dead_applied lawful applied fresh locked.dead locked.issued
    | writable _ applied => exact dead_applied lawful applied fresh locked.dead locked.issued
  · exact List.mem_append_left _ locked.issued
  · intro other waiting seen found
    exact locked.arrived other waiting seen (AList.of_lookup_erase found).2
  · intro other waiting caller found
    exact locked.admitted other waiting caller (AList.of_lookup_erase found).2
  · intro answer member
    rcases List.mem_append.mp member with before | new
    · exact locked.answered answer before
    · rw [List.mem_singleton.mp new]
      exact fun same => .inr (admitted same)

theorem Locked.insert (locked : Locked live token revoked gateway) {id : Nat} {pending : Pending Db}
    (arrived : ∀ seen, pending.stage = .arrived seen -> id ∈ revoked.pending ∨ ¬ live seen token)
    (admitted : ∀ caller, pending.stage = .admitted caller (some token) -> id ∈ revoked.pending) :
    Locked live token revoked { gateway with pending := gateway.pending.insert id pending } := by
  refine { locked with arrived := ?_, admitted := ?_ }
  · intro other waiting seen found
    by_cases same : other = id
    · rw [same, AList.lookup_insert] at found
      obtain rfl := Option.some.inj found
      rw [same]
      exact arrived seen
    · rw [AList.lookup_insert_ne same] at found
      exact locked.arrived other waiting seen found
  · intro other waiting caller found
    by_cases same : other = id
    · rw [same, AList.lookup_insert] at found
      obtain rfl := Option.some.inj found
      rw [same]
      exact admitted caller
    · rw [AList.lookup_insert_ne same] at found
      exact locked.admitted other waiting caller found

theorem Locked.take (locked : Locked live token revoked gateway) {outsider : Bool}
    {event : Service.Event (Except String Unit) Unit}
    (taken : take zellijValidate backends sync gateway outsider event = some moved) :
    Locked live token revoked moved := by
  obtain ⟨_, _, rfl⟩ := take_some taken
  exact { locked with }

theorem Locked.earlier (locked : Locked live token revoked gateway) {id : Nat} {pending : Pending Db}
    {caller : Option Bool} {given : Option String} (found : gateway.pending.lookup id = some pending)
    (admitted : pending.stage = .admitted caller given) (same : given = some token) : id ∈ revoked.pending := by
  rw [same] at admitted
  exact locked.admitted id pending caller found admitted

theorem locked_step (lawful : Lawful tokens writes live) (gateway : Gateway Db) (event : Event) (next : Gateway Db)
    (locked : Locked live token revoked gateway)
    (taken : step zellijValidate backends sync tokens gateway event = some next) : Locked live token revoked next := by
  cases step_stepped taken with
  | arrives _ _ =>
    apply locked.insert
    · intro seen arrived
      unfold entry at arrived
      split_ifs at arrived
      obtain rfl := Stage.arrived.inj arrived
      exact .inr locked.dead
    · intro caller admitted
      unfold entry at admitted
      split_ifs at admitted
      cases (Stage.admitted.inj admitted).2
  | @admitted _ pending seen readOnly given found arrived checked =>
    obtain ⟨_, valid, _⟩ := (checkBearer_ok tokens).mp checked
    apply locked.insert
    · intro _ arrived
      cases arrived
    · intro caller admitted
      obtain rfl := Option.some.inj (Stage.admitted.inj admitted).2
      exact (locked.arrived _ _ _ found arrived).resolve_right fun dead => dead (lawful.valid valid)
  | rejected found answered =>
    exact locked.answer lawful (fun same => by cases same) (@Touches.nothing _ tokens none _ _ _ rfl (.inl rfl)) answered
  | @unrouted _ _ caller _ _ found admitted answered =>
    exact locked.answer lawful (locked.earlier found admitted)
      (@Touches.nothing _ tokens caller _ _ _ rfl (.inl rfl)) answered
  | plain found admitted _ responded answered =>
    exact locked.answer lawful (locked.earlier found admitted) (respond_touches responded) answered
  | routed found admitted _ responded moves answered =>
    have after := locked.take moves
    obtain ⟨_, _, rfl⟩ := take_some moves
    exact after.answer lawful (locked.earlier found admitted) (respond_touches responded) answered
  | @opened _ _ _ _ random _ _ caller given moved _ found admitted _ moves answered =>
    have registered : Locked live token revoked
        { moved with streams := streamsWith gateway moved (mintConnectionId random) given } :=
      { locked.take moves with }
    exact registered.answer lawful (locked.earlier found admitted)
      (@Touches.nothing _ tokens caller _ _ _ rfl (.inl rfl)) answered
  | service _ moves => exact locked.take moves
  | admin applied fresh =>
    refine { locked with dead := ?_, issued := ?_ }
    · exact dead_applied lawful applied fresh locked.dead locked.issued
    · exact List.mem_append_left _ locked.issued

end Locked

section Runs

variable {Backend Db : Type} {zellijValidate : String -> Except (List Piece) Unit} {backends : BackendSet Backend}
  {sync : Bool} {tokens : TokenDb Db} {writes live : Db -> String -> Prop} {gateway revoked next : Gateway Db}
  {token key : String}

theorem Replays.consistent (replays : Replays zellijValidate backends sync gateway) : Consistent gateway.service :=
  consistent_of_reachable ⟨(), gateway.history, replays⟩

structure Over (zellijValidate : String -> Except (List Piece) Unit) (backends : BackendSet Backend) (sync : Bool)
    (key : String) (gateway : Gateway Db) : Prop where
  replays : Replays zellijValidate backends sync gateway
  finished : Ended gateway.service key

theorem over_step (gateway : Gateway Db) (event : Event) (next : Gateway Db)
    (finished : Over zellijValidate backends sync key gateway)
    (taken : step zellijValidate backends sync tokens gateway event = some next) :
    Over zellijValidate backends sync key next := by
  refine { replays := replays_step gateway event next finished.replays taken, finished := ?_ }
  rcases step_journals taken with ⟨same, _⟩ | ⟨_, _, _, stepped⟩
  · rw [same]
    exact finished.finished
  · exact finished.finished.step finished.replays.consistent stepped

theorem service_taken {inner : Service.Event (Except String Unit) Unit}
    (taken : step zellijValidate backends sync tokens gateway (.service inner) = some next) :
    isAside tokens gateway inner = true ∧
      Service.step zellijValidate backends (MuxSender.answering sync) gateway.service inner = some next.service := by
  cases step_stepped taken with
  | service aside moves =>
    obtain ⟨service, stepped, rfl⟩ := take_some moves
    exact ⟨aside, stepped⟩

theorem recheck_fails (lawful : Lawful tokens writes live) (replays : Replays zellijValidate backends sync gateway)
    (dead : ¬ live gateway.db token) (checks : gateway.streams.lookup key = some (some token)) {valid : Bool}
    (taken : step zellijValidate backends sync tokens gateway (.service (.relay key (.recheck valid))) = some next) :
    valid = false ∧ Ended next.service key := by
  obtain ⟨aside, stepped⟩ := service_taken taken
  have refused : revalidateToken tokens (some token) gateway.db = false := by
    by_contra accepted
    rw [Bool.not_eq_false, revalidateToken_some] at accepted
    exact dead (lawful.valid accepted)
  have invalid : valid = false := by
    simpa [isAside, checks, refused] using aside
  subst invalid
  obtain ⟨connection, found, moved⟩ := step_relay stepped
  obtain ⟨relay, _, own, checked, same⟩ := relayStep_some moved
  refine ⟨rfl, ?_⟩
  have keyed := replays.consistent.keyed key connection found
  have task := (stepped_frame replays.consistent found own checked).1
  have owned : relay.connectionId = key := (congrArg Task.connectionId task).trans keyed
  have broken : relay.phase = .broken := by
    simp only [Inbound.step, Bool.false_eq_true, if_false] at checked
    split_ifs at checked
    rw [← Option.some.inj checked]
  rw [same]
  exact ⟨_, store_own owned, by rw [broken]; rfl⟩

/-- From when a session token is no longer good, nobody is let in with it whose request had not come before; and a
relay that was attached with it takes in no frame and no command after its next check. -/
theorem revoked_session_locked_out (lawful : Lawful tokens writes live) {db : Db} {known others : List String}
    (reached : Transition.Reachable (step zellijValidate backends sync tokens) (start db known others) revoked)
    (issued : token ∈ revoked.issued) (dead : ¬ live revoked.db token) {events : List Event}
    (ran : Transition.run (step zellijValidate backends sync tokens) revoked events = some gateway) :
    ¬ live gateway.db token ∧
      (∀ given ∈ gateway.answers, given.token = some token ->
        given ∈ revoked.answers ∨ given.id ∈ revoked.pending) ∧
      ∀ before key valid after middle, events = before ++ .service (.relay key (.recheck valid)) :: after ->
        Transition.run (step zellijValidate backends sync tokens) revoked before = some middle ->
        middle.streams.lookup key = some (some token) ->
        valid = false ∧ ∀ inner, .service inner ∈ after -> serves key inner = false := by
  have locked : Locked live token revoked gateway :=
    Transition.invariant_of_run (locked_step lawful) (Locked.start dead issued) ran
  have begun : Replays zellijValidate backends sync revoked :=
    Transition.invariant_of_reachable replays_step (rfl : Replays zellijValidate backends sync (start db known others))
      reached
  refine ⟨locked.dead, locked.answered, ?_⟩
  intro before key valid after middle split first checks
  have lockedMiddle : Locked live token revoked middle :=
    Transition.invariant_of_run (locked_step lawful) (Locked.start dead issued) first
  have replays : Replays zellijValidate backends sync middle :=
    Transition.invariant_of_run replays_step begun first
  rw [split, Transition.run_append, first] at ran
  obtain ⟨checked, taken, rest⟩ := Transition.run_cons.mp ran
  obtain ⟨invalid, ended⟩ := recheck_fails lawful replays lockedMiddle.dead checks taken
  refine ⟨invalid, fun inner member => ?_⟩
  have finished : Over zellijValidate backends sync key checked :=
    { replays := replays_step middle _ checked replays taken, finished := ended }
  obtain ⟨state, later, stays, served⟩ := Transition.taken_of_mem over_step finished rest member
  exact stays.finished.idle (service_taken served).2

end Runs

section Sampled

open Registry (mintConnectionId)

def revokedMidStream : List Event :=
  [.arrives 0 false "/muxr.v1.Muxr/Login" none (.login "admin" true), .handled 0,
    .arrives 1 false "/muxr.v1.Muxr/AttachTerminal" viewersBearer .attachTerminal, .checked 1,
    .opened 1 (.frame (.attach { session := "zellij:dev", rows := 24, cols := 80 })) none (.ok ()) 1 0,
    .service (.relay (mintConnectionId 1) (.initialised (.error "no layout"))), .admin (.revokeToken "token_1")]

def persists : List Event :=
  [.arrives 2 false "/muxr.v1.Muxr/ListSessions" viewersBearer (.unary ⟨.backend .listSessions, rfl⟩), .checked 2,
    .service (.relay (mintConnectionId 1) (.recheck false)), .service (.relay (mintConnectionId 1) .deregister)]

theorem revoked_session_locked_out_admin : ∃ revoked gateway,
    Transition.run (step Acknowledged.anyName Acknowledged.zellijOnly false sampledTokens)
      (start sampledDb [] ["admin", "viewer"]) revokedMidStream = some revoked ∧
      Transition.run (step Acknowledged.anyName Acknowledged.zellijOnly false sampledTokens) revoked persists =
        some gateway ∧
      gateway.answers.map (·.token) = [none, some "s1", none] ∧
      ∀ given ∈ gateway.answers, given.token = some "s1" -> given ∈ revoked.answers ∨ given.id ∈ revoked.pending := by
  obtain ⟨revoked, first, rows, issued, gateway, ran, served⟩ : ∃ revoked,
      Transition.run (step Acknowledged.anyName Acknowledged.zellijOnly false sampledTokens)
        (start sampledDb [] ["admin", "viewer"]) revokedMidStream = some revoked ∧
      revoked.db.rows = [⟨"viewer", "token_2", true, false⟩] ∧ revoked.issued = ["admin", "viewer", "s1"] ∧
      ∃ gateway, Transition.run (step Acknowledged.anyName Acknowledged.zellijOnly false sampledTokens) revoked
        persists = some gateway ∧ gateway.answers.map (·.token) = [none, some "s1", none] := ⟨_, rfl, rfl, rfl, _, rfl, rfl⟩
  have dead : ¬ SampledLive revoked.db "s1" := by
    simp [SampledLive, rows]
  have locked := revoked_session_locked_out sampledTokens_lawful ⟨_, first⟩ (by simp [issued]) dead ran
  exact ⟨revoked, gateway, first, ran, served, locked.2.1⟩

end Sampled

end Muxrd.Access
