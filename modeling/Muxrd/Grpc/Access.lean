import Muxrd.Grpc.Auth
import Muxrd.Grpc.Consistency
import Muxrd.Lib.Tables

set_option autoImplicit false

namespace Muxrd.Access

open Routing Attach Helpers Service Auth
open Registry (mintConnectionId)

-- What anybody does to tokens.db, through this server or past it.
inductive DbCall
  | createToken (name : Option String) (readOnly : Bool)
  | createSessionToken (authToken : String) (rememberMe : Bool)
  | revokeToken (name : String)
  | expire

section Database

variable {Db : Type} (tokens : TokenDb Db)

def apply (db : Db) : DbCall -> List String × Db
  | .createToken name readOnly =>
    match tokens.createToken name readOnly db with
    | (.ok (token, _), after) => ([token], after)
    | (.error _, after) => ([], after)
  | .createSessionToken authToken rememberMe =>
    match tokens.createSessionToken authToken rememberMe db with
    | (.ok sessionToken, after) => ([sessionToken], after)
    | (.error _, after) => ([], after)
  | .revokeToken name => ([], (tokens.revokeToken name db).2)
  | .expire => ([], tokens.expire db)

def DbCall.Grants (writes : String -> Prop) : DbCall -> Prop
  | .createToken _ readOnly => readOnly = false
  | .createSessionToken authToken _ => writes authToken
  | _ => False

/-- What is relied on: a session has the rights of the token it was made from, a token the rights it was made with,
and nothing gives rights or life to a secret but its minting. `writes` is said of both kinds of secrets. -/
structure Lawful (writes live : Db -> String -> Prop) : Prop where
  flag : ∀ {db token}, tokens.isSessionTokenReadOnly token db = .ok false -> writes db token
  valid : ∀ {db token}, tokens.validateSessionToken token db = .ok true -> live db token
  rights : ∀ {db after call minted secret}, apply tokens db call = (minted, after) -> writes after secret ->
    secret ∉ minted ∧ writes db secret ∨ secret ∈ minted ∧ call.Grants (writes db)
  lives : ∀ {db after call minted secret}, apply tokens db call = (minted, after) -> live after secret ->
    live db secret ∨ secret ∈ minted

end Database

inductive Stage (Db : Type)
  -- With the database that its token was looked up in.
  | arrived (seen : Db)
  | admitted (caller : Option Bool) (token : Option String)

structure Pending (Db : Type) where
  outsider : Bool
  path : String
  authorization : Option (List UInt8)
  call : Call
  stage : Stage Db

inductive Reply
  | version
  | session (response : LoginResponse)
  | created (info : TokenInfo)
  | listed (infos : List TokenInfo)
  | acked (ack : ProtoAck)
  | handled (outcome : Outcome)
  | stream
  | unauthenticated (message : String)
  | refused (status : Status)
  | unimplemented

def Reply.minted : Reply -> List String
  | .session response => [response.sessionToken]
  | .created info => [info.token]
  | _ => []

def Reply.secrets : Reply -> List String
  | .session response => [response.sessionToken]
  | .created info => [info.token]
  | .listed infos => infos.map (·.token)
  | _ => []

structure Answered where
  id : Nat
  outsider : Bool
  token : Option String
  call : Call
  reply : Reply

structure Gateway (Db : Type) where
  db : Db
  service : MuxrService Unit Unit
  pending : AList fun _ : Nat => Pending Db
  streams : AList fun _ : String => Option String
  -- What the outsider has got to know; every secret there has been.
  known : List String
  issued : List String
  answers : List Answered
  journal : List (Bool × Service.Event (Except String Unit) Unit)

inductive Event
  | arrives (id : Nat) (outsider : Bool) (path : String) (authorization : Option (List UInt8)) (call : Call)
  | checked (id : Nat)
  | handled (id : Nat)
  | opened (id : Nat) (first : FirstFrame) (size : Option (UInt16 × UInt16)) (opened : Except String Unit)
    (random : BitVec 128) (channel : Nat)
  | service (event : Service.Event (Except String Unit) Unit)
  | admin (call : DbCall)

section Steps

variable {Backend Db : Type} (zellijValidate : String -> Except (List Piece) Unit) (backends : BackendSet Backend)
  (sync : Bool) (tokens : TokenDb Db)

def start (db : Db) (known others : List String) : Gateway Db :=
  { db, service := empty (), pending := ∅, streams := ∅, known, issued := known ++ others, answers := []
    journal := [] }

def credentials (authorization : Option (List UInt8)) : Call -> List String
  | .login authToken _ => authToken :: (bearerToken authorization).toOption.toList
  | _ => (bearerToken authorization).toOption.toList

-- The layer passes public paths on without its extensions.
def entry (path : String) (db : Db) : Stage Db :=
  if path ∈ publicPaths then .admitted none none else .arrived db

def respond (caller : Option Bool) (db : Db) (service : MuxrService Unit Unit) : Call -> Reply × Db
  | .getVersion => (.version, db)
  | .login authToken rememberMe =>
    match login tokens authToken rememberMe db with
    | (.ok response, after) => (.session response, after)
    | (.error message, after) => (.unauthenticated message, after)
  | .tokens (.createToken name readOnly) =>
    match createToken tokens caller name readOnly db with
    | (.ok info, after) => (.created info, after)
    | (.error status, after) => (.refused status, after)
  | .tokens .listTokens =>
    match listTokens tokens caller db with
    | .ok infos => (.listed infos, db)
    | .error status => (.refused status, db)
  | .tokens (.revokeToken name) =>
    match revokeToken tokens caller name db with
    | (.ok ack, after) => (.acked ack, after)
    | (.error status, after) => (.refused status, after)
  | .unary request =>
    match handle zellijValidate backends service (ticketOf service.nextTicket caller) caller request.val with
    | .ok (outcome, _) => (.handled outcome, db)
    | .error status => (.refused status, db)
  | .attachTerminal => (.stream, db)

def asRequest : Call -> Option Request
  | .tokens call => some (.backend call.rpc)
  | .unary request => some request.val
  | _ => none

def take (gateway : Gateway Db) (outsider : Bool) (event : Service.Event (Except String Unit) Unit) :
    Option (Gateway Db) :=
  (Service.step zellijValidate backends (MuxSender.answering sync) gateway.service event).map fun service =>
    { gateway with service, journal := gateway.journal ++ [(outsider, event)] }

def answer (gateway : Gateway Db) (id : Nat) (pending : Pending Db) (token : Option String) (reply : Reply)
    (db : Db) : Option (Gateway Db) :=
  -- No secret is minted twice.
  if ∀ secret ∈ reply.minted, secret ∉ gateway.issued then
    some { gateway with
      db
      pending := gateway.pending.erase id
      known := if pending.outsider then gateway.known ++ reply.secrets else gateway.known
      issued := gateway.issued ++ reply.minted
      answers := gateway.answers ++ [{ id, outsider := pending.outsider, token, call := pending.call, reply }] }
  else none

def serve (gateway : Gateway Db) (id : Nat) (pending : Pending Db) (caller : Option Bool) (token : Option String) :
    Option (Gateway Db) :=
  let (reply, db) := respond zellijValidate backends tokens caller gateway.db gateway.service pending.call
  match asRequest pending.call with
  | none => answer gateway id pending token reply db
  | some request =>
    (take zellijValidate backends sync gateway pending.outsider (.rpc gateway.service.nextTicket caller request)).bind
      fun moved => answer moved id pending token reply db

def streamsWith (gateway moved : Gateway Db) (key : String) (token : Option String) :
    AList fun _ : String => Option String :=
  if key ∉ gateway.service.connections ∧ key ∈ moved.service.connections then moved.streams.insert key token
  else moved.streams

def attachTerminal (gateway : Gateway Db) (id : Nat) (pending : Pending Db) (caller : Option Bool)
    (token : Option String) (first : FirstFrame) (size : Option (UInt16 × UInt16)) (opened : Except String Unit)
    (random : BitVec 128) (channel : Nat) : Option (Gateway Db) :=
  let key := mintConnectionId random
  (take zellijValidate backends sync gateway pending.outsider (.attach caller first size opened random channel)).bind
    fun moved =>
      answer { moved with streams := streamsWith gateway moved key token } id pending token .stream moved.db

def isAside (gateway : Gateway Db) : Service.Event (Except String Unit) Unit -> Bool
  | .attach _ _ _ _ _ _ | .rpc _ _ _ => false
  | .relay connectionId (.recheck valid) =>
    valid == revalidateToken tokens (gateway.streams.lookup connectionId).join gateway.db
  | _ => true

def step (gateway : Gateway Db) : Event -> Option (Gateway Db)
  | .arrives id outsider path authorization call =>
    if id ∈ gateway.pending ∨ id ∈ gateway.answers.map (·.id) then none
    -- The outsider can only send what it knows.
    else if outsider ∧ ¬ ∀ secret ∈ credentials authorization call, secret ∈ gateway.known then none
    else
      let stage := entry path gateway.db
      some { gateway with pending := gateway.pending.insert id { outsider, path, authorization, call, stage } }
  | .checked id =>
    match gateway.pending.lookup id with
    | some pending =>
      match pending.stage with
      | .arrived seen =>
        match checkBearer tokens pending.authorization seen gateway.db with
        | .ok (readOnly, token) =>
          let stage := .admitted (some readOnly) (some token)
          some { gateway with pending := gateway.pending.insert id { pending with stage } }
        | .error message => answer gateway id pending none (.unauthenticated message) gateway.db
      | .admitted _ _ => none
    | none => none
  | .handled id =>
    match gateway.pending.lookup id with
    | some pending =>
      match pending.stage with
      | .admitted caller token =>
        if pending.path ≠ pending.call.path then answer gateway id pending token .unimplemented gateway.db
        else if pending.call.isAttach then none
        else serve zellijValidate backends sync tokens gateway id pending caller token
      | .arrived _ => none
    | none => none
  | .opened id first size opened random channel =>
    match gateway.pending.lookup id with
    | some pending =>
      match pending.stage with
      | .admitted caller token =>
        if pending.path = pending.call.path ∧ pending.call.isAttach then
          attachTerminal zellijValidate backends sync gateway id pending caller token first size opened random channel
        else none
      | .arrived _ => none
    | none => none
  | .service event =>
    if isAside tokens gateway event then take zellijValidate backends sync gateway false event else none
  | .admin call =>
    let (minted, db) := apply tokens gateway.db call
    if ∀ secret ∈ minted, secret ∉ gateway.issued then
      some { gateway with db, issued := gateway.issued ++ minted }
    else none

end Steps

section Answers

variable {Backend Db : Type} {zellijValidate : String -> Except (List Piece) Unit} {backends : BackendSet Backend}
  {tokens : TokenDb Db} {caller : Option Bool} {db after : Db} {service : MuxrService Unit Unit} {call : Call}
  {reply : Reply}

inductive Touches (tokens : TokenDb Db) (caller : Option Bool) (db : Db) (call : Call) : Reply -> Db -> Prop
  | nothing {reply : Reply} (minted : reply.minted = []) (silent : reply.secrets = [] ∨ caller = some false) :
    Touches tokens caller db call reply db
  | login {reply : Reply} {after : Db} {authToken : String} {rememberMe : Bool}
    (asked : call = .login authToken rememberMe)
    (applied : apply tokens db (.createSessionToken authToken rememberMe) = (reply.minted, after))
    (own : reply.secrets = reply.minted) : Touches tokens caller db call reply after
  | writable {reply : Reply} {after : Db} {dbCall : DbCall} (writable : caller = some false)
    (applied : apply tokens db dbCall = (reply.minted, after)) : Touches tokens caller db call reply after

theorem gate_cases (caller : Option Bool) : (∃ status, rejectIfReadOnly caller = .error status) ∨
    caller = some false ∧ rejectIfReadOnly caller = .ok () := by
  rcases caller with _ | (_ | _)
  · exact .inl ⟨_, rfl⟩
  · exact .inr ⟨rfl, rfl⟩
  · exact .inl ⟨_, rfl⟩

theorem respond_touches (responded : respond zellijValidate backends tokens caller db service call = (reply, after)) :
    Touches tokens caller db call reply after := by
  cases call with
  | getVersion =>
    obtain ⟨rfl, rfl⟩ := Prod.mk.inj responded
    exact .nothing rfl (.inl rfl)
  | attachTerminal =>
    obtain ⟨rfl, rfl⟩ := Prod.mk.inj responded
    exact .nothing rfl (.inl rfl)
  | login authToken rememberMe =>
    simp only [respond, login] at responded
    rcases created : tokens.createSessionToken authToken rememberMe db with ⟨_ | sessionToken, changed⟩
    · simp only [created] at responded
      obtain ⟨rfl, rfl⟩ := Prod.mk.inj responded
      exact .login rfl (by simp [apply, created, Reply.minted]) rfl
    · simp only [created] at responded
      obtain ⟨rfl, rfl⟩ := Prod.mk.inj responded
      exact .login rfl (by simp [apply, created, Reply.minted]) rfl
  | unary request =>
    simp only [respond] at responded
    split at responded <;>
    · obtain ⟨rfl, rfl⟩ := Prod.mk.inj responded
      exact .nothing rfl (.inl rfl)
  | tokens call =>
    rcases gate_cases caller with ⟨status, gate⟩ | ⟨writable, gate⟩
    · cases call <;>
      · simp only [respond, createToken, listTokens, revokeToken, gate, bind, Except.bind] at responded
        obtain ⟨rfl, rfl⟩ := Prod.mk.inj responded
        exact .nothing rfl (.inl rfl)
    · cases call with
      | createToken name readOnly =>
        simp only [respond, createToken, gate] at responded
        suffices applied : apply tokens db (.createToken (requestedName name) readOnly) = (reply.minted, after) from
          .writable writable applied
        rcases created : tokens.createToken (requestedName name) readOnly db with ⟨_ | ⟨token, given⟩, changed⟩
        · simp only [created] at responded
          obtain ⟨rfl, rfl⟩ := Prod.mk.inj responded
          simp [apply, created, Reply.minted]
        · simp only [created] at responded
          obtain ⟨rfl, rfl⟩ := Prod.mk.inj responded
          simp [apply, created, Reply.minted]
      | listTokens =>
        simp only [respond] at responded
        split at responded <;>
        · obtain ⟨rfl, rfl⟩ := Prod.mk.inj responded
          exact .nothing rfl (.inr writable)
      | revokeToken name =>
        simp only [respond, revokeToken, gate] at responded
        by_cases blank : (RustStd.trim name).isEmpty = true
        · simp only [blank, if_true] at responded
          obtain ⟨rfl, rfl⟩ := Prod.mk.inj responded
          exact .nothing rfl (.inl rfl)
        · simp only [blank, Bool.false_eq_true, if_false] at responded
          suffices applied : apply tokens db (.revokeToken name) = (reply.minted, after) from
            .writable writable applied
          rcases removed : tokens.revokeToken name db with ⟨_ | found, changed⟩ <;>
          · simp only [removed] at responded
            obtain ⟨rfl, rfl⟩ := Prod.mk.inj responded
            simp [apply, removed, Reply.minted]

end Answers

section Steps

variable {Backend Db : Type} {zellijValidate : String -> Except (List Piece) Unit} {backends : BackendSet Backend}
  {sync : Bool} {tokens : TokenDb Db} {gateway moved next : Gateway Db}

theorem take_some {outsider : Bool} {event : Service.Event (Except String Unit) Unit}
    (taken : take zellijValidate backends sync gateway outsider event = some moved) :
    ∃ service, Service.step zellijValidate backends (MuxSender.answering sync) gateway.service event = some service ∧
      moved = { gateway with service, journal := gateway.journal ++ [(outsider, event)] } := by
  obtain ⟨service, stepped, rfl⟩ := Option.map_eq_some_iff.mp taken
  exact ⟨service, stepped, rfl⟩

theorem answer_some {id : Nat} {pending : Pending Db} {token : Option String} {reply : Reply} {db : Db}
    (answered : answer gateway id pending token reply db = some next) :
    (∀ secret ∈ reply.minted, secret ∉ gateway.issued) ∧
      next = { gateway with
        db
        pending := gateway.pending.erase id
        known := if pending.outsider then gateway.known ++ reply.secrets else gateway.known
        issued := gateway.issued ++ reply.minted
        answers := gateway.answers ++ [{ id, outsider := pending.outsider, token, call := pending.call, reply }] } := by
  unfold answer at answered
  split at answered
  next fresh => exact ⟨fresh, (Option.some.inj answered).symm⟩
  · contradiction

/-- What a step does. A request is answered with what `respond` makes of it, where it gets as far as a handler. -/
inductive Stepped (zellijValidate : String -> Except (List Piece) Unit) (backends : BackendSet Backend) (sync : Bool)
    (tokens : TokenDb Db) (gateway : Gateway Db) : Event -> Gateway Db -> Prop
  | arrives {id : Nat} {outsider : Bool} {path : String} {authorization : Option (List UInt8)} {call : Call}
    (new : id ∉ gateway.pending ∧ id ∉ gateway.answers.map (·.id))
    (sendable : outsider = true -> ∀ secret ∈ credentials authorization call, secret ∈ gateway.known) :
    Stepped zellijValidate backends sync tokens gateway (.arrives id outsider path authorization call)
      { gateway with
        pending := gateway.pending.insert id
          { outsider, path, authorization, call, stage := entry path gateway.db } }
  | admitted {id : Nat} {pending : Pending Db} {seen : Db} {readOnly : Bool} {token : String}
    (found : gateway.pending.lookup id = some pending) (arrived : pending.stage = .arrived seen)
    (checked : checkBearer tokens pending.authorization seen gateway.db = .ok (readOnly, token)) :
    Stepped zellijValidate backends sync tokens gateway (.checked id)
      { gateway with
        pending := gateway.pending.insert id { pending with stage := .admitted (some readOnly) (some token) } }
  | rejected {id : Nat} {pending : Pending Db} {message : String} {next : Gateway Db}
    (found : gateway.pending.lookup id = some pending)
    (answered : answer gateway id pending none (.unauthenticated message) gateway.db = some next) :
    Stepped zellijValidate backends sync tokens gateway (.checked id) next
  | unrouted {id : Nat} {pending : Pending Db} {caller : Option Bool} {token : Option String} {next : Gateway Db}
    (found : gateway.pending.lookup id = some pending) (admitted : pending.stage = .admitted caller token)
    (answered : answer gateway id pending token .unimplemented gateway.db = some next) :
    Stepped zellijValidate backends sync tokens gateway (.handled id) next
  | plain {id : Nat} {pending : Pending Db} {caller : Option Bool} {token : Option String} {reply : Reply} {db : Db}
    {next : Gateway Db} (found : gateway.pending.lookup id = some pending)
    (admitted : pending.stage = .admitted caller token) (named : pending.path = pending.call.path)
    (responded : respond zellijValidate backends tokens caller gateway.db gateway.service pending.call = (reply, db))
    (answered : answer gateway id pending token reply db = some next) :
    Stepped zellijValidate backends sync tokens gateway (.handled id) next
  | routed {id : Nat} {pending : Pending Db} {caller : Option Bool} {token : Option String} {request : Request}
    {moved : Gateway Db} {reply : Reply} {db : Db} {next : Gateway Db}
    (found : gateway.pending.lookup id = some pending) (admitted : pending.stage = .admitted caller token)
    (named : pending.path = pending.call.path)
    (responded : respond zellijValidate backends tokens caller gateway.db gateway.service pending.call = (reply, db))
    (taken : take zellijValidate backends sync gateway pending.outsider
      (.rpc gateway.service.nextTicket caller request) = some moved)
    (answered : answer moved id pending token reply db = some next) :
    Stepped zellijValidate backends sync tokens gateway (.handled id) next
  | opened {id : Nat} {first : FirstFrame} {size : Option (UInt16 × UInt16)} {opened : Except String Unit}
    {random : BitVec 128} {channel : Nat} {pending : Pending Db} {caller : Option Bool} {token : Option String}
    {moved next : Gateway Db}
    (found : gateway.pending.lookup id = some pending) (admitted : pending.stage = .admitted caller token)
    (named : pending.path = pending.call.path)
    (taken : take zellijValidate backends sync gateway pending.outsider
      (.attach caller first size opened random channel) = some moved)
    (answered : answer { moved with streams := streamsWith gateway moved (mintConnectionId random) token } id pending
      token .stream moved.db = some next) :
    Stepped zellijValidate backends sync tokens gateway (.opened id first size opened random channel) next
  | service {event : Service.Event (Except String Unit) Unit} {next : Gateway Db}
    (aside : isAside tokens gateway event = true)
    (taken : take zellijValidate backends sync gateway false event = some next) :
    Stepped zellijValidate backends sync tokens gateway (.service event) next
  | admin {call : DbCall} {minted : List String} {db : Db} (applied : apply tokens gateway.db call = (minted, db))
    (fresh : ∀ secret ∈ minted, secret ∉ gateway.issued) :
    Stepped zellijValidate backends sync tokens gateway (.admin call)
      { gateway with db, issued := gateway.issued ++ minted }

theorem step_stepped {event : Event} (taken : step zellijValidate backends sync tokens gateway event = some next) :
    Stepped zellijValidate backends sync tokens gateway event next := by
  cases event with
  | arrives id outsider path authorization call =>
    simp only [step] at taken
    split_ifs at taken with used unknown
    push Not at used unknown
    obtain rfl := Option.some.inj taken
    exact .arrives used unknown
  | checked id =>
    simp only [step] at taken
    split at taken
    next pending found =>
      split at taken
      next seen arrived =>
        split at taken
        next readOnly token checked =>
          obtain rfl := Option.some.inj taken
          exact .admitted found arrived checked
        · exact .rejected found taken
      · contradiction
    · contradiction
  | handled id =>
    simp only [step] at taken
    split at taken
    next pending found =>
      split at taken
      next caller token admitted =>
        split_ifs at taken with named
        · exact .unrouted found admitted taken
        · push Not at named
          simp only [serve] at taken
          rcases responded : respond zellijValidate backends tokens caller gateway.db gateway.service pending.call with
            ⟨reply, db⟩
          rw [responded] at taken
          split at taken
          · exact .plain found admitted named responded taken
          · obtain ⟨moved, moves, answered⟩ := Option.bind_eq_some_iff.mp taken
            exact .routed found admitted named responded moves answered
      · contradiction
    · contradiction
  | opened id first size opened random channel =>
    simp only [step] at taken
    split at taken
    next pending found =>
      split at taken
      next caller token admitted =>
        split_ifs at taken with named
        obtain ⟨moved, moves, answered⟩ := Option.bind_eq_some_iff.mp taken
        exact .opened found admitted named.1 moves answered
      · contradiction
    · contradiction
  | service event =>
    simp only [step] at taken
    split_ifs at taken with aside
    exact .service aside taken
  | admin call =>
    simp only [step] at taken
    rcases applied : apply tokens gateway.db call with ⟨minted, db⟩
    simp only [applied] at taken
    split at taken
    next fresh =>
      obtain rfl := Option.some.inj taken
      exact .admin applied fresh
    · contradiction

theorem bearer_carried {authorization : Option (List UInt8)} {token : String} (call : Call)
    (sent : bearerToken authorization = .ok token) : token ∈ credentials authorization call := by
  cases call <;> simp [credentials, sent, Except.toOption]

end Steps

section Sampled

structure Row where
  secret : String
  name : String
  readOnly : Bool
  isSession : Bool

structure SampledDb where
  rows : List Row
  coming : List String

def SampledDb.add (db : SampledDb) (name : String) (readOnly isSession : Bool) : Except String String × SampledDb :=
  match db.coming with
  | [] => (.error "no entropy", db)
  | secret :: coming =>
    if db.rows.any (·.secret = secret) then (.error "UNIQUE constraint failed", { db with coming })
    else (.ok secret, { rows := { secret, name, readOnly, isSession } :: db.rows, coming })

def sampledTokens : TokenDb SampledDb where
  createToken name readOnly db :=
    let name := name.getD "token_1"
    match db.add name readOnly false with
    | (.ok secret, after) => (.ok (secret, name), after)
    | (.error error, after) => (.error error, after)
  listTokens db := .ok ((db.rows.filter fun row => !row.isSession).map fun row => ⟨row.name, "", row.readOnly⟩)
  revokeToken name db :=
    (.ok (db.rows.any (·.name = name)), { db with rows := db.rows.filter (·.name ≠ name) })
  createSessionToken authToken _ db :=
    match db.rows.find? fun row => row.secret = authToken && !row.isSession with
    | some row => db.add row.name row.readOnly true
    | none => (.error "invalid token", db)
  validateSessionToken token db := .ok (db.rows.any fun row => row.secret = token && row.isSession)
  isSessionTokenReadOnly token db :=
    match db.rows.find? fun row => row.secret = token && row.isSession with
    | some row => .ok row.readOnly
    | none => .error "no such session"
  expire db := { db with rows := db.rows.filter fun row => !row.isSession }

def SampledWrites (db : SampledDb) (secret : String) : Prop :=
  ∃ row ∈ db.rows, row.secret = secret ∧ row.readOnly = false

def SampledLive (db : SampledDb) (secret : String) : Prop :=
  ∃ row ∈ db.rows, row.secret = secret ∧ row.isSession = true

theorem add_cases (db : SampledDb) (name : String) (readOnly isSession : Bool) :
    (∃ error coming, db.add name readOnly isSession = (.error error, { db with coming })) ∨
      ∃ secret coming, (∀ row ∈ db.rows, row.secret ≠ secret) ∧
        db.add name readOnly isSession =
          (.ok secret, { rows := { secret, name, readOnly, isSession } :: db.rows, coming }) := by
  unfold SampledDb.add
  split
  · exact .inl ⟨_, db.coming, rfl⟩
  next secret coming _ =>
    split
    next => exact .inl ⟨_, coming, rfl⟩
    next unused => exact .inr ⟨secret, coming, by simpa using unused, rfl⟩

theorem apply_rows {db after : SampledDb} {call : DbCall} {minted : List String}
    (applied : apply sampledTokens db call = (minted, after)) {row : Row} (member : row ∈ after.rows) :
    row ∈ db.rows ∧ row.secret ∉ minted ∨
      row.secret ∈ minted ∧ (row.readOnly = false -> call.Grants (SampledWrites db)) := by
  cases call with
  | createToken name readOnly =>
    simp only [apply, sampledTokens] at applied
    rcases add_cases db (name.getD "token_1") readOnly false with ⟨_, _, added⟩ | ⟨token, coming, new, added⟩
    · rw [added] at applied
      obtain ⟨rfl, rfl⟩ := Prod.mk.inj applied
      exact .inl ⟨member, List.not_mem_nil⟩
    · rw [added] at applied
      obtain ⟨rfl, rfl⟩ := Prod.mk.inj applied
      rcases List.mem_cons.mp member with rfl | before
      · exact .inr ⟨List.mem_singleton_self _, id⟩
      · exact .inl ⟨before, by simpa using new row before⟩
  | createSessionToken authToken rememberMe =>
    simp only [apply, sampledTokens] at applied
    split at applied
    next changed made =>
      split at made
      next owner found =>
        have here := List.find?_some found
        simp only [Bool.and_eq_true, decide_eq_true_eq] at here
        rcases add_cases db owner.name owner.readOnly true with ⟨_, _, added⟩ | ⟨token, coming, new, added⟩
        · rw [added] at made
          cases made
        · rw [added] at made
          obtain ⟨same, rfl⟩ := Prod.mk.inj made
          obtain rfl := Except.ok.inj same
          obtain ⟨rfl, rfl⟩ := Prod.mk.inj applied
          rcases List.mem_cons.mp member with rfl | before
          · exact .inr ⟨List.mem_singleton_self _, fun writable =>
              ⟨owner, List.mem_of_find?_eq_some found, here.1, writable⟩⟩
          · exact .inl ⟨before, by simpa using new row before⟩
      · cases made
    next changed made =>
      obtain ⟨rfl, rfl⟩ := Prod.mk.inj applied
      split at made
      next owner found =>
        rcases add_cases db owner.name owner.readOnly true with ⟨_, _, added⟩ | ⟨token, coming, _, added⟩
        · rw [added] at made
          obtain ⟨_, rfl⟩ := Prod.mk.inj made
          exact .inl ⟨member, List.not_mem_nil⟩
        · rw [added] at made
          cases made
      · obtain ⟨_, rfl⟩ := Prod.mk.inj made
        exact .inl ⟨member, List.not_mem_nil⟩
  | revokeToken name | expire =>
    obtain ⟨rfl, rfl⟩ := Prod.mk.inj applied
    exact .inl ⟨(List.mem_filter.mp member).1, List.not_mem_nil⟩

theorem sampledTokens_lawful : Lawful sampledTokens SampledWrites SampledLive := by
  constructor
  · intro db token told
    simp only [sampledTokens] at told
    split at told
    next row found =>
      have here := List.find?_some found
      simp only [Bool.and_eq_true, decide_eq_true_eq] at here
      exact ⟨row, List.mem_of_find?_eq_some found, here.1, Except.ok.inj told⟩
    · contradiction
  · intro db token told
    have found := Except.ok.inj told
    simpa [SampledLive] using found
  · rintro db after call minted _ applied ⟨row, member, rfl, writable⟩
    rcases apply_rows applied member with ⟨before, old⟩ | ⟨new, granted⟩
    · exact .inl ⟨old, row, before, rfl, writable⟩
    · exact .inr ⟨new, granted writable⟩
  · rintro db after call minted _ applied ⟨row, member, rfl, session⟩
    rcases apply_rows applied member with ⟨before, _⟩ | ⟨new, _⟩
    · exact .inl ⟨row, before, rfl, session⟩
    · exact .inr new

def sampledDb : SampledDb :=
  { rows := [⟨"admin", "token_1", false, false⟩, ⟨"viewer", "token_2", true, false⟩], coming := ["s1", "s2", "s3"] }

-- `Bearer s1`.
def viewersBearer : Option (List UInt8) :=
  some [66, 101, 97, 114, 101, 114, 32, 115, 49]

end Sampled

end Muxrd.Access
