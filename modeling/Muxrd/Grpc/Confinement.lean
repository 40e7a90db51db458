import Muxrd.Grpc.Access
import Muxrd.Grpc.NonInterference

set_option autoImplicit false

namespace Muxrd.Access

open Routing Attach Helpers Service Auth Readers
open Inbound (Ticket)
open Registry (mintConnectionId)

section Answers

variable {Backend Db : Type} {zellijValidate : String -> Except (List Piece) Unit} {backends : BackendSet Backend}
  {tokens : TokenDb Db} {caller : Option Bool} {db after : Db} {service : MuxrService Unit Unit} {call : Call}
  {reply : Reply}

def openToAll : Request -> Bool
  | .focusPane _ | .getLayout _ _ => true
  | .backend rpc => !rpc.gated
  | _ => false

theorem handle_open {ticket : Ticket} {request : Request} {outcome : Outcome} {next : MuxrService Unit Unit}
    (handled : handle zellijValidate backends service ticket caller request = .ok (outcome, next)) :
    caller = some false ∨ openToAll request = true := by
  cases request with
  | focusPane | getLayout => exact .inr rfl
  | backend rpc =>
    obtain ⟨_, gate, _⟩ := bind_ok.mp handled
    unfold BackendRpc.gate at gate
    split_ifs at gate with gated
    · exact .inl ((rejectIfReadOnly_ok caller).mp gate)
    · exact .inr (by simp [openToAll, gated])
  | goToTab | togglePaneFullscreen | switchSpace | closeSpace =>
    obtain ⟨_, gate, _⟩ := bind_ok.mp handled
    exact .inl ((rejectIfReadOnly_ok caller).mp gate)

def Answered.Confined (given : Answered) : Prop :=
  match given.reply with
  | .created _ | .listed _ | .acked _ => False
  | .handled _ => ∃ request, given.call = .unary request ∧ openToAll request.val = true
  | _ => True

theorem respond_confined {id : Nat} {outsider : Bool} {token : Option String} (reads : caller ≠ some false)
    (responded : respond zellijValidate backends tokens caller db service call = (reply, after)) :
    Answered.Confined { id, outsider, token, call, reply } := by
  cases call with
  | getVersion | attachTerminal =>
    obtain ⟨rfl, rfl⟩ := Prod.mk.inj responded
    trivial
  | login authToken rememberMe =>
    simp only [respond] at responded
    split at responded <;>
    · obtain ⟨rfl, rfl⟩ := Prod.mk.inj responded
      trivial
  | unary request =>
    simp only [respond] at responded
    split at responded
    next handled =>
      obtain ⟨rfl, rfl⟩ := Prod.mk.inj responded
      exact ⟨request, rfl, (handle_open handled).resolve_left reads⟩
    next =>
      obtain ⟨rfl, rfl⟩ := Prod.mk.inj responded
      trivial
  | tokens call =>
    rcases gate_cases caller with ⟨status, gate⟩ | ⟨writable, _⟩
    · cases call <;>
      · simp only [respond, createToken, listTokens, revokeToken, gate, bind, Except.bind] at responded
        obtain ⟨rfl, rfl⟩ := Prod.mk.inj responded
        trivial
    · exact absurd writable reads

end Answers

section Confinement

variable {Backend Db : Type} {zellijValidate : String -> Except (List Piece) Unit} {backends : BackendSet Backend}
  {sync : Bool} {tokens : TokenDb Db} {writes live : Db -> String -> Prop} {gateway moved next : Gateway Db}

structure Confined (writes : Db -> String -> Prop) (gateway : Gateway Db) : Prop where
  powerless : ∀ secret ∈ gateway.known, ¬ writes gateway.db secret
  counted : ∀ secret ∈ gateway.known, secret ∈ gateway.issued
  carries : ∀ id pending, gateway.pending.lookup id = some pending -> pending.outsider = true ->
    ∀ secret ∈ credentials pending.authorization pending.call, secret ∈ gateway.known
  reads : ∀ id pending caller token, gateway.pending.lookup id = some pending -> pending.outsider = true ->
    pending.stage = .admitted caller token -> caller ≠ some false
  answered : ∀ given ∈ gateway.answers, given.outsider = true -> given.Confined
  tagged : ∀ entry ∈ gateway.journal, entry.1 = true -> byReader entry.2 = true

theorem Confined.start {db : Db} {known others : List String} (powerless : ∀ secret ∈ known, ¬ writes db secret) :
    Confined writes (start db known others) := by
  refine { powerless, counted := ?_, carries := ?_, reads := ?_, answered := ?_, tagged := ?_ }
  · exact fun secret member => List.mem_append_left others member
  · intro id pending found
    cases found
  · intro id pending caller token found
    cases found
  · intro given member
    cases member
  · intro entry member
    cases member

theorem reader_of_ne {caller : Option Bool} (reads : caller ≠ some false) : caller.getD true = true := by
  rcases caller with _ | (_ | _)
  · rfl
  · exact absurd rfl reads
  · rfl

theorem Confined.applied (lawful : Lawful tokens writes live) (confined : Confined writes gateway) {call : DbCall}
    {minted : List String} {after : Db} (applied : apply tokens gateway.db call = (minted, after))
    (fresh : ∀ secret ∈ minted, secret ∉ gateway.issued) {secret : String} (known : secret ∈ gateway.known) :
    ¬ writes after secret := by
  intro gained
  rcases lawful.rights applied gained with ⟨_, before⟩ | ⟨new, _⟩
  · exact confined.powerless secret known before
  · exact fresh secret new (confined.counted secret known)

theorem Confined.take (confined : Confined writes gateway) {outsider : Bool}
    {event : Service.Event (Except String Unit) Unit} (reads : outsider = true -> byReader event = true)
    (taken : take zellijValidate backends sync gateway outsider event = some moved) : Confined writes moved := by
  obtain ⟨service, _, rfl⟩ := take_some taken
  refine { confined with tagged := ?_ }
  intro entry member
  simp only [List.mem_append, List.mem_singleton] at member
  rcases member with before | rfl
  · exact confined.tagged entry before
  · exact reads

theorem Confined.answer (lawful : Lawful tokens writes live) (confined : Confined writes gateway) {id : Nat}
    {pending : Pending Db} {caller : Option Bool} {token : Option String} {reply : Reply} {db : Db}
    (carries : pending.outsider = true -> ∀ secret ∈ credentials pending.authorization pending.call,
      secret ∈ gateway.known)
    (reads : pending.outsider = true -> caller ≠ some false)
    (touches : Touches tokens caller gateway.db pending.call reply db)
    (permitted : pending.outsider = true ->
      Answered.Confined { id, outsider := pending.outsider, token, call := pending.call, reply })
    (answered : answer gateway id pending token reply db = some next) : Confined writes next := by
  obtain ⟨fresh, rfl⟩ := answer_some answered
  have still (secret : String) (known : secret ∈ gateway.known) : ¬ writes db secret := by
    cases touches with
    | nothing => exact confined.powerless secret known
    | login _ applied _ => exact confined.applied lawful applied fresh known
    | writable _ applied => exact confined.applied lawful applied fresh known
  have learned (outsider : pending.outsider = true) (secret : String) (member : secret ∈ reply.secrets) :
      secret ∈ reply.minted ∧ ¬ writes db secret := by
    cases touches with
    | nothing _ silent =>
      rcases silent with silent | writable
      · rw [silent] at member
        cases member
      · exact absurd writable (reads outsider)
    | login asked applied own =>
      rw [own] at member
      refine ⟨member, fun gained => ?_⟩
      rcases lawful.rights applied gained with ⟨old, _⟩ | ⟨_, granted⟩
      · exact old member
      · apply confined.powerless _ (carries outsider _ _) granted
        rw [asked]
        exact List.mem_cons_self
    | writable writable _ => exact absurd writable (reads outsider)
  constructor
  · intro secret member
    split_ifs at member with outsider
    · rcases List.mem_append.mp member with known | new
      · exact still secret known
      · exact (learned outsider secret new).2
    · exact still secret member
  · intro secret member
    split_ifs at member with outsider
    · rcases List.mem_append.mp member with known | new
      · exact List.mem_append_left _ (confined.counted secret known)
      · exact List.mem_append_right _ (learned outsider secret new).1
    · exact List.mem_append_left _ (confined.counted secret member)
  · intro other waiting found outsider secret member
    have known := confined.carries other waiting (AList.of_lookup_erase found).2 outsider secret member
    split_ifs
    · exact List.mem_append_left _ known
    · exact known
  · intro other waiting caller token found
    exact confined.reads other waiting caller token (AList.of_lookup_erase found).2
  · intro given member
    rcases List.mem_append.mp member with before | new
    · exact confined.answered given before
    · rw [List.mem_singleton.mp new]
      exact permitted
  · exact confined.tagged

theorem Confined.insert (confined : Confined writes gateway) {id : Nat} {pending : Pending Db}
    (carries : pending.outsider = true -> ∀ secret ∈ credentials pending.authorization pending.call,
      secret ∈ gateway.known)
    (reads : ∀ caller token, pending.outsider = true -> pending.stage = .admitted caller token ->
      caller ≠ some false) :
    Confined writes { gateway with pending := gateway.pending.insert id pending } := by
  refine { confined with carries := ?_, reads := ?_ }
  · intro other waiting found
    by_cases same : other = id
    · rw [same, AList.lookup_insert] at found
      obtain rfl := Option.some.inj found
      exact carries
    · rw [AList.lookup_insert_ne same] at found
      exact confined.carries other waiting found
  · intro other waiting caller token found
    by_cases same : other = id
    · rw [same, AList.lookup_insert] at found
      obtain rfl := Option.some.inj found
      exact reads caller token
    · rw [AList.lookup_insert_ne same] at found
      exact confined.reads other waiting caller token found

theorem confined_step (lawful : Lawful tokens writes live) (gateway : Gateway Db) (event : Event)
    (next : Gateway Db) (confined : Confined writes gateway)
    (taken : step zellijValidate backends sync tokens gateway event = some next) : Confined writes next := by
  have carries (id : Nat) (pending : Pending Db) (found : gateway.pending.lookup id = some pending) :=
    confined.carries id pending found
  cases step_stepped taken with
  | arrives new sendable =>
    apply confined.insert sendable
    intro caller token _ admitted
    unfold entry at admitted
    split_ifs at admitted
    obtain ⟨rfl, _⟩ := Stage.admitted.inj admitted
    exact (Option.some_ne_none _).symm
  | @admitted _ pending seen readOnly token found arrived checked =>
    obtain ⟨sent, _, flag⟩ := (checkBearer_ok tokens).mp checked
    have sendable := carries _ _ found
    refine confined.insert sendable ?_
    intro caller given outsider admitted writable
    obtain ⟨rfl, _⟩ := Stage.admitted.inj admitted
    apply confined.powerless token (sendable outsider token (bearer_carried pending.call sent))
    apply lawful.flag
    obtain rfl := Option.some.inj writable
    rcases told : tokens.isSessionTokenReadOnly token gateway.db with error | readOnly
    · simp [told, Except.toOption] at flag
    · simp only [told, Except.toOption, Option.getD_some] at flag
      rw [← flag]
  | @rejected _ pending _ _ found answered =>
    have reads (_ : pending.outsider = true) : none ≠ some false := (Option.some_ne_none _).symm
    refine confined.answer lawful (carries _ _ found) reads (.nothing rfl (.inl rfl)) (fun _ => ?_) answered
    trivial
  | unrouted found admitted answered =>
    refine confined.answer lawful (carries _ _ found) (fun outsider => confined.reads _ _ _ _ found outsider admitted)
      (.nothing rfl (.inl rfl)) (fun _ => ?_) answered
    trivial
  | @plain _ pending _ _ _ _ _ found admitted _ responded answered =>
    have reads (outsider : pending.outsider = true) := confined.reads _ _ _ _ found outsider admitted
    exact confined.answer lawful (carries _ _ found) reads (respond_touches responded)
      (fun outsider => respond_confined (reads outsider) responded) answered
  | @routed _ pending caller _ request moved _ _ _ found admitted _ responded moves answered =>
    have reads (outsider : pending.outsider = true) := confined.reads _ _ _ _ found outsider admitted
    have tagged (outsider : pending.outsider = true) :
        byReader (.rpc gateway.service.nextTicket caller request) = true := reader_of_ne (reads outsider)
    have after := confined.take tagged moves
    obtain ⟨_, _, rfl⟩ := take_some moves
    exact after.answer lawful (carries _ _ found) reads (respond_touches responded)
      (fun outsider => respond_confined (reads outsider) responded) answered
  | @opened _ first size opened random channel pending caller token moved _ found admitted _ moves answered =>
    have reads (outsider : pending.outsider = true) := confined.reads _ _ _ _ found outsider admitted
    have tagged (outsider : pending.outsider = true) :
        byReader (.attach caller first size opened random channel) = true := reader_of_ne (reads outsider)
    have after := confined.take tagged moves
    obtain ⟨service, _, same⟩ := take_some moves
    have known : moved.known = gateway.known := by rw [same]
    have registered : Confined writes
        { moved with streams := streamsWith gateway moved (mintConnectionId random) token } := { after with }
    refine registered.answer lawful ?_ reads (.nothing rfl (.inl rfl)) (fun _ => ?_) answered
    · rw [known]
      exact carries _ _ found
    · trivial
  | service _ moves => exact confined.take (fun outsider => by cases outsider) moves
  | admin applied fresh =>
    refine { confined with powerless := ?_, counted := ?_ }
    · exact fun secret known => confined.applied lawful applied fresh known
    · exact fun secret known => List.mem_append_left _ (confined.counted secret known)

end Confinement

section Authentication

variable {Backend Db : Type} {zellijValidate : String -> Except (List Piece) Unit} {backends : BackendSet Backend}
  {sync : Bool} {tokens : TokenDb Db} {gateway moved next : Gateway Db}

def Answered.Public (given : Answered) : Prop :=
  given.call = .getVersion ∨ (∃ authToken rememberMe, given.call = .login authToken rememberMe) ∨
    given.reply = .unimplemented ∨ ∃ message, given.reply = .unauthenticated message

structure Gated (gateway : Gateway Db) : Prop where
  bypasses : ∀ id pending caller, gateway.pending.lookup id = some pending -> pending.stage = .admitted caller none ->
    pending.path ∈ publicPaths
  answered : ∀ given ∈ gateway.answers, given.token = none -> given.Public

theorem Gated.insert (gated : Gated gateway) {id : Nat} {pending : Pending Db}
    (bypasses : ∀ caller, pending.stage = .admitted caller none -> pending.path ∈ publicPaths) :
    Gated { gateway with pending := gateway.pending.insert id pending } := by
  refine { gated with bypasses := ?_ }
  intro other waiting caller found
  by_cases same : other = id
  · rw [same, AList.lookup_insert] at found
    obtain rfl := Option.some.inj found
    exact bypasses caller
  · rw [AList.lookup_insert_ne same] at found
    exact gated.bypasses other waiting caller found

theorem Gated.answer (gated : Gated gateway) {id : Nat} {pending : Pending Db} {token : Option String} {reply : Reply}
    {db : Db}
    (published : token = none -> Answered.Public { id, outsider := pending.outsider, token, call := pending.call, reply })
    (answered : answer gateway id pending token reply db = some next) : Gated next := by
  obtain ⟨_, rfl⟩ := answer_some answered
  constructor
  · intro other waiting caller found
    exact gated.bypasses other waiting caller (AList.of_lookup_erase found).2
  · intro given member
    rcases List.mem_append.mp member with before | new
    · exact gated.answered given before
    · rw [List.mem_singleton.mp new]
      exact published

theorem Gated.take (gated : Gated gateway) {outsider : Bool} {event : Service.Event (Except String Unit) Unit}
    (taken : take zellijValidate backends sync gateway outsider event = some moved) : Gated moved := by
  obtain ⟨_, _, rfl⟩ := take_some taken
  exact { gated with }

theorem Gated.named (gated : Gated gateway) {id : Nat} {pending : Pending Db} {caller : Option Bool}
    {token : Option String} {reply : Reply} (found : gateway.pending.lookup id = some pending)
    (admitted : pending.stage = .admitted caller token) (named : pending.path = pending.call.path)
    (absent : token = none) :
    Answered.Public { id, outsider := pending.outsider, token, call := pending.call, reply } := by
  rw [absent] at admitted
  have bypasses := gated.bypasses id pending caller found admitted
  rw [named] at bypasses
  rcases path_public bypasses with version | login
  · exact .inl version
  · exact .inr (.inl login)

theorem gated_step (gateway : Gateway Db) (event : Event) (next : Gateway Db) (gated : Gated gateway)
    (taken : step zellijValidate backends sync tokens gateway event = some next) : Gated next := by
  cases step_stepped taken with
  | arrives _ _ =>
    apply gated.insert
    intro caller admitted
    unfold entry at admitted
    split_ifs at admitted with published
    exact published
  | admitted found _ _ =>
    apply gated.insert
    intro caller admitted
    cases (Stage.admitted.inj admitted).2
  | rejected found answered => exact gated.answer (fun _ => .inr (.inr (.inr ⟨_, rfl⟩))) answered
  | unrouted found admitted answered => exact gated.answer (fun _ => .inr (.inr (.inl rfl))) answered
  | plain found admitted named responded answered => exact gated.answer (gated.named found admitted named) answered
  | routed found admitted named responded moves answered =>
    exact (gated.take moves).answer (gated.named found admitted named) answered
  | @opened _ _ _ _ random _ _ _ token moved _ found admitted named moves answered =>
    have registered : Gated { moved with streams := streamsWith gateway moved (mintConnectionId random) token } :=
      { gated.take moves with }
    exact registered.answer (gated.named found admitted named) answered
  | service _ moves => exact gated.take moves
  | admin _ _ => exact { gated with }

end Authentication

section Runs

variable {Backend Db : Type} {zellijValidate : String -> Except (List Piece) Unit} {backends : BackendSet Backend}
  {sync : Bool} {tokens : TokenDb Db} {writes live : Db -> String -> Prop} {gateway next : Gateway Db}

theorem step_journals {event : Event} (taken : step zellijValidate backends sync tokens gateway event = some next) :
    next.service = gateway.service ∧ next.journal = gateway.journal ∨
      ∃ outsider event, next.journal = gateway.journal ++ [(outsider, event)] ∧
        Service.step zellijValidate backends (MuxSender.answering sync) gateway.service event = some next.service := by
  cases step_stepped taken with
  | arrives | admitted | admin => exact .inl ⟨rfl, rfl⟩
  | rejected _ answered | unrouted _ _ answered | plain _ _ _ _ answered =>
    obtain ⟨_, rfl⟩ := answer_some answered
    exact .inl ⟨rfl, rfl⟩
  | routed _ _ _ _ moves answered | opened _ _ _ moves answered =>
    obtain ⟨service, stepped, rfl⟩ := take_some moves
    obtain ⟨_, rfl⟩ := answer_some answered
    exact .inr ⟨_, _, rfl, stepped⟩
  | service _ moves =>
    obtain ⟨service, stepped, rfl⟩ := take_some moves
    exact .inr ⟨_, _, rfl, stepped⟩

def Gateway.history (gateway : Gateway Db) : List (Service.Event (Except String Unit) Unit) :=
  gateway.journal.map (·.2)

/-- The journal is a run of the service that ends in what the service is now. -/
def Replays (zellijValidate : String -> Except (List Piece) Unit) (backends : BackendSet Backend) (sync : Bool)
    (gateway : Gateway Db) : Prop :=
  Transition.run (Service.step zellijValidate backends (MuxSender.answering sync)) (empty ()) gateway.history =
    some gateway.service

theorem replays_step (gateway : Gateway Db) (event : Event) (next : Gateway Db)
    (replays : Replays zellijValidate backends sync gateway)
    (taken : step zellijValidate backends sync tokens gateway event = some next) :
    Replays zellijValidate backends sync next := by
  unfold Replays Gateway.history at *
  rcases step_journals taken with ⟨service, journal⟩ | ⟨outsider, moved, journal, stepped⟩
  · rw [service, journal]
    exact replays
  · rw [journal, List.map_append]
    apply Transition.run_trans replays
    simp [Transition.run, stepped]

-- What a writer's relay does and shows is the same without the readers, but for the focus.
theorem writer_related {mark : Mark} {main quiet : MuxrService Unit Unit} (ends : Related mark main quiet)
    {key : String} {connection : Connection Unit Unit} (found : main.connections.lookup key = some connection)
    (writable : connection.relay.readOnly = false) :
    key ∈ quiet.connections ∧
      ((callsOf quiet key).filter fun entry => entry.2.isMutating) = mark.writes (callsOf main key) ∧
      (quiet.viewState.lookup key).map blur = (main.viewState.lookup key).map blur := by
  have shown : mark.hides main key = false := by simp [Mark.hides, found, writable]
  obtain ⟨other, there, _, near⟩ := ends.near.connected key connection found shown
  refine ⟨Visible.mem_iff_lookup.mpr ⟨_, there⟩, ?_, ?_⟩
  · have unsteered : mark.steady other.relay.calls = true := near.unsteered
    have calls : callsOf main key = connection.relay.calls := by simp [callsOf, found]
    have quietCalls : callsOf quiet key = other.relay.calls := by simp [callsOf, there]
    rw [quietCalls, calls, ← writes_of_steady unsteered]
    exact near.writes
  · have view : ownView (load main connection.relay) = main.viewState.lookup key :=
      congrArg main.viewState.lookup (ends.consistent.keyed key connection found)
    have quietView : ownView (load quiet other.relay) = quiet.viewState.lookup key :=
      congrArg quiet.viewState.lookup (ends.shadowConsistent.keyed key other there)
    rw [← view, ← quietView]
    exact near.outline

/-- Nobody is served without a token, but on the public paths. Whoever starts out with nothing but read-only secrets
never gets one that writes, is never answered what takes one, and all it does is invisible to the writers, whatever
other clients, zellij and the command line do meanwhile. -/
theorem read_only_secrets_confined (lawful : Lawful tokens writes live) {db : Db} {known others : List String}
    (powerless : ∀ secret ∈ known, ¬ writes db secret) {events : List Event}
    (ran : Transition.run (step zellijValidate backends sync tokens) (start db known others) events = some gateway) :
    (∀ given ∈ gateway.answers, given.token = none -> given.Public) ∧
      (∀ secret ∈ gateway.known, ¬ writes gateway.db secret) ∧
      (∀ given ∈ gateway.answers, given.outsider = true -> given.Confined) ∧
      Transition.run (Service.step zellijValidate backends (MuxSender.answering sync)) (empty ()) gateway.history =
        some gateway.service ∧
      ∃ quiet,
        Transition.run (Service.step zellijValidate backends (MuxSender.answering sync)) (empty ())
          (withoutReaders zellijValidate backends sync (empty ()) gateway.history) = some quiet ∧
        (∀ entry ∈ gateway.journal, entry.1 = true ->
          entry.2 ∉ withoutReaders zellijValidate backends sync (empty ()) gateway.history) ∧
        ∀ key connection, gateway.service.connections.lookup key = some connection ->
          connection.relay.readOnly = false ->
          key ∈ quiet.connections ∧
            ((callsOf quiet key).filter fun entry => entry.2.isMutating) =
              (markOf (empty () : MuxrService Unit Unit)).writes (callsOf gateway.service key) ∧
            (quiet.viewState.lookup key).map blur = (gateway.service.viewState.lookup key).map blur := by
  have confined : Confined writes gateway :=
    Transition.invariant_of_run (confined_step lawful) (Confined.start powerless) ran
  have blank : Gated (start db known others) :=
    { bypasses := fun _ _ _ found => by cases found
      answered := fun _ member => by cases member }
  have gated : Gated gateway := Transition.invariant_of_run gated_step blank ran
  have replays : Replays zellijValidate backends sync gateway :=
    Transition.invariant_of_run replays_step (rfl : Replays zellijValidate backends sync (start db known others)) ran
  have begun : Service.Reachable zellijValidate backends (MuxSender.answering sync) (empty ()) := ⟨(), [], rfl⟩
  have started := Related.start (consistent_of_reachable begun) (numbered_of_reachable begun)
  obtain ⟨quiet, quietRan, ends⟩ := Transition.run_project related_kept related_dropped started replays
  refine ⟨gated.answered, confined.powerless, confined.answered, replays, quiet, quietRan, ?_, ?_⟩
  · intro entry member outsider kept
    have unread := withoutReaders_unread kept
    rw [confined.tagged entry member outsider] at unread
    contradiction
  · exact fun key connection found writable => writer_related ends found writable

end Runs

section Sampled

def climbs : List Event :=
  [.arrives 0 true "/muxr.v1.Muxr/Login" none (.login "viewer" true), .handled 0,
    .arrives 1 true "/muxr.v1.Muxr/CreateToken" viewersBearer (.tokens (.createToken "mine" false)), .checked 1,
    .handled 1]

theorem read_only_secrets_confined_viewer : ∃ gateway,
    Transition.run (step Acknowledged.anyName Acknowledged.zellijOnly false sampledTokens)
      (start sampledDb ["viewer"] ["admin"]) climbs = some gateway ∧
      gateway.known = ["viewer", "s1"] ∧ gateway.answers.length = 2 ∧
      (∀ secret ∈ gateway.known, ¬ SampledWrites gateway.db secret) ∧
      ∀ given ∈ gateway.answers, given.outsider = true -> given.Confined := by
  obtain ⟨gateway, ran, known, answers⟩ : ∃ gateway,
      Transition.run (step Acknowledged.anyName Acknowledged.zellijOnly false sampledTokens)
        (start sampledDb ["viewer"] ["admin"]) climbs = some gateway ∧
        gateway.known = ["viewer", "s1"] ∧ gateway.answers.length = 2 := ⟨_, rfl, rfl, rfl⟩
  have powerless : ∀ secret ∈ ["viewer"], ¬ SampledWrites sampledDb secret := by
    simp [SampledWrites, sampledDb]
  obtain ⟨_, confined, answered, _⟩ := read_only_secrets_confined sampledTokens_lawful powerless ran
  exact ⟨gateway, ran, known, answers, confined, answered⟩

end Sampled

end Muxrd.Access
