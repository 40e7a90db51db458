import Muxrd.Relay.Reader

set_option autoImplicit false

namespace Muxrd.Query

open RenderLoop

inductive Half
  | tabs
  | panes
  deriving DecidableEq, Repr

structure Ask where
  reply : Nat
  half : Half
  deriving DecidableEq, Repr

-- Where the inbound task is in a `QueryLayout` arm: the hand-off, `ListTabs`, then `ListPanes`.
inductive InboundPc
  | idle
  | askTabs (reply : Nat)
  | askPanes (reply : Nat)
  deriving DecidableEq, Repr

/-- One in-band relay and its server. The asks are kept in the order they were sent in: `captured` went
through the reader, `streamed` was answered, `server` still waits for its answer. -/
structure Session where
  reader : Reader
  inbound : InboundPc
  nextQuerySeq : UInt64
  used : List Nat
  captured : List (Ask × String)
  streamed : List (Ask × String)
  server : List Ask
  deriving DecidableEq, Repr

def initial (connectionId : String) : Session :=
  { reader := spawned connectionId
    inbound := .idle
    nextQuerySeq := 0
    used := []
    captured := []
    streamed := []
    server := [] }

inductive Event
  | query (reply : Nat)
  | askTabs (ok : Bool)
  | askPanes (ok : Bool)
  -- The server answers the oldest action it has received.
  | answer (text : String)
  | message (msg : MuxServerMsg)
  | streamEnds
  -- A caller times out and drops its receiver.
  | closeReply (reply : Nat)
  | stop
  | clientReads
  | clientLeaves
  | reader
  deriving DecidableEq, Repr

namespace Session

variable (session : Session)

def answers : List (Ask × String) :=
  session.captured ++ session.streamed

def outstanding : List Ask :=
  session.streamed.map (·.1) ++ session.server

def sent : List Ask :=
  session.captured.map (·.1) ++ session.outstanding

end Session

def isLog : MuxServerMsg -> Bool
  | .log _ => true
  | _ => false

def step (session : Session) : Event -> Option Session
  | .query reply =>
    if session.inbound = .idle ∧ reply ∉ session.used then
      -- A hand-off to a thread that is gone is answered with an error, and nothing is sent.
      if session.reader.pc = .returned then
        some { session with nextQuerySeq := session.nextQuerySeq + 1, used := reply :: session.used }
      else
        some { session with
          reader := { session.reader with
            queries := session.reader.queries ++ [{ seq := session.nextQuerySeq, reply, tabs := none }] }
          inbound := .askTabs reply
          nextQuerySeq := session.nextQuerySeq + 1
          used := reply :: session.used }
    else none
  | .askTabs ok =>
    match session.inbound with
    | .askTabs reply =>
      -- A failed ListTabs is not followed by ListPanes.
      if ok then
        some { session with
          inbound := .askPanes reply, server := session.server ++ [{ reply, half := .tabs }] }
      else some { session with inbound := .idle }
    | _ => none
  | .askPanes ok =>
    match session.inbound with
    | .askPanes reply =>
      if ok then
        some { session with inbound := .idle, server := session.server ++ [{ reply, half := .panes }] }
      else some { session with inbound := .idle }
    | _ => none
  | .answer text =>
    match session.server with
    | ask :: rest =>
      if session.reader.eof then none
      else
        some { session with
          reader := { session.reader with incoming := session.reader.incoming ++ [.log text] }
          streamed := session.streamed ++ [(ask, text)]
          server := rest }
    | [] => none
  | .message msg =>
    if session.reader.eof || isLog msg then none
    else
      some { session with reader := { session.reader with incoming := session.reader.incoming ++ [msg] } }
  | .streamEnds => some { session with reader := { session.reader with eof := true } }
  | .closeReply reply =>
    some { session with
      reader := { session.reader with closedReplies := reply :: session.reader.closedReplies } }
  | .stop => some { session with reader := { session.reader with stop := true } }
  | .clientReads =>
    some { session with reader := { session.reader with outbound := session.reader.outbound.tail } }
  | .clientLeaves => some { session with reader := { session.reader with receiverOpen := false } }
  | .reader =>
    match session.reader.step with
    | none => none
    | some reader =>
      match session.reader.pc, session.streamed with
      | .matching (.log _), entry :: rest =>
        some { session with reader, captured := session.captured ++ [entry], streamed := rest }
      | _, _ => some { session with reader }

def isDraining : Pc -> Bool
  | .drainBefore => true
  | .drainAfter _ => true
  | _ => false

/-- A drain that leaves a newly picked-up query held, and still wanted, happens only when no log of an
earlier query is still to come. -/
def CleanPickUp (session : Session) : Event -> Prop
  | .reader =>
    isDraining session.reader.pc = true -> ∀ query ∈ session.reader.queries.getLast?,
      session.reader.isClosed query = false -> ∀ ask ∈ session.outstanding, ask.reply = query.reply
  | _ => True

instance (session : Session) (event : Event) : Decidable (CleanPickUp session event) :=
  match event with
  | .reader =>
    inferInstanceAs (Decidable (isDraining session.reader.pc = true ->
      ∀ query ∈ session.reader.queries.getLast?, session.reader.isClosed query = false ->
        ∀ ask ∈ session.outstanding, ask.reply = query.reply))
  | .query _ | .askTabs _ | .askPanes _ | .answer _ | .message _ | .streamEnds => .isTrue trivial
  | .closeReply _ | .stop | .clientReads | .clientLeaves => .isTrue trivial

def WellAttributed (session : Session) : Prop :=
  ∀ fulfilment ∈ session.reader.fulfilled, ∀ text,
    (({ reply := fulfilment.query.reply, half := .tabs }, text) ∈ session.answers ↔ text = fulfilment.tabs) ∧
    (({ reply := fulfilment.query.reply, half := .panes }, text) ∈ session.answers ↔ text = fulfilment.panes)

end Muxrd.Query
