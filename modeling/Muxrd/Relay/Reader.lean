import Muxrd.Lib.Run
import Muxrd.Types

set_option autoImplicit false

namespace Muxrd.RenderLoop

inductive ServerFrame
  | render (content : List UInt8)
  | control (kind payload : String)
  deriving DecidableEq, Repr

inductive Pc
  -- Before the stop check at the head of the loop.
  | top
  | drainBefore
  -- In the blocking `recv`.
  | receiving
  -- Before the stop check after `recv`.
  | received (msg : MuxServerMsg)
  | drainAfter (msg : MuxServerMsg)
  | matching (msg : MuxServerMsg)
  -- In `blocking_send`; the thread leaves the loop afterwards when this was an exit frame.
  | sending (frame : ServerFrame) (last : Bool)
  | returned
  deriving DecidableEq, Repr

structure Fulfilment where
  query : InFlightQuery
  tabs : String
  panes : String
  deriving DecidableEq, Repr

structure Reader where
  pc : Pc
  inFlight : Option InFlightQuery
  renders : Nat
  fulfilled : List Fulfilment
  stop : Bool
  -- Messages the backend has sent, oldest first, and whether the stream has ended behind them.
  incoming : List MuxServerMsg
  eof : Bool
  queries : List InFlightQuery
  outbound : List ServerFrame
  receiverOpen : Bool
  closedReplies : List Nat
  deriving DecidableEq, Repr

def renderChannelBound : Nat := 64

def connectionIdFrame (connectionId : String) : ServerFrame :=
  .control "connection_id" connectionId

def spawned (connectionId : String) : Reader :=
  { pc := .top
    inFlight := none
    renders := 0
    fulfilled := []
    stop := false
    incoming := []
    eof := false
    queries := []
    outbound := [connectionIdFrame connectionId]
    receiverOpen := true
    closedReplies := [] }

namespace Reader

variable (reader : Reader)

def isClosed (query : InFlightQuery) : Bool :=
  reader.closedReplies.contains query.reply

-- Retire a held query whose consumer has gone away.
def retired : Option InFlightQuery :=
  reader.inFlight.filter fun query => !reader.isClosed query

-- The last query handed off wins.
def drainQueries : Reader :=
  { reader with
    inFlight := reader.queries.foldl (fun _ query => some query) reader.retired
    queries := [] }

def captureQueryLog (json : String) : Reader :=
  match reader.inFlight with
  | none => reader
  | some query =>
    if reader.isClosed query then { reader with inFlight := none }
    else
      match query.tabs with
      | none => { reader with inFlight := some { query with tabs := some json } }
      | some tabs =>
        { reader with inFlight := none, fulfilled := reader.fulfilled ++ [{ query, tabs, panes := json }] }

-- Returning drops `in_flight`, `query_rx` and `tx`.
def exit : Reader :=
  { reader with pc := .returned, inFlight := none, queries := [] }

def frameOf : MuxServerMsg -> Option (ServerFrame × Bool)
  | .render content => some (.render content, false)
  | .event (.exit reason) => some (.control "exit" reason, true)
  | .event (.renamedSession name) => some (.control "renamed_session" name, false)
  | .event .configUpdated => some (.control "config_updated" "", false)
  | .event (.switchSession name) => some (.control "switch_session" name, false)
  | .log _ => none
  | .other => none

def isRender : ServerFrame -> Bool
  | .render _ => true
  | .control _ _ => false

def forward (frame : ServerFrame) : Reader :=
  { reader with
    outbound := reader.outbound ++ [frame]
    renders := if isRender frame then reader.renders + 1 else reader.renders }

/-- One step of the thread, `none` while it is blocked or has returned. -/
def step : Option Reader :=
  match reader.pc with
  | .top => if reader.stop then some reader.exit else some { reader with pc := .drainBefore }
  | .drainBefore => some { reader.drainQueries with pc := .receiving }
  | .receiving =>
    match reader.incoming with
    | msg :: rest => some { reader with pc := .received msg, incoming := rest }
    | [] => if reader.eof then some reader.exit else none
  | .received msg => if reader.stop then some reader.exit else some { reader with pc := .drainAfter msg }
  | .drainAfter msg => some { reader.drainQueries with pc := .matching msg }
  | .matching msg =>
    match msg with
    | .log json => some { reader.captureQueryLog json with pc := .top }
    | _ =>
      match frameOf msg with
      | some (frame, last) =>
        -- An exit drops the held query before its frame is sent.
        some { reader with pc := .sending frame last, inFlight := if last then none else reader.inFlight }
      | none => some { reader with pc := .top }
  | .sending frame last =>
    if reader.receiverOpen then
      if reader.outbound.length < renderChannelBound then
        some (if last then (reader.forward frame).exit else { reader.forward frame with pc := .top })
      else none
    else some reader.exit
  | .returned => none

end Reader

-- The reply `capture_query_log` sends, over the parse of the two JSON payloads.
def layoutReply (parse : String -> String -> Except String LayoutSnapshot) (fulfilment : Fulfilment) :
    Except String LayoutSnapshot :=
  if fulfilment.tabs.isEmpty then
    .error ("empty tabs JSON from relay query (seq=" ++ toString fulfilment.query.seq.toNat ++ ")")
  else if fulfilment.panes.isEmpty then
    .error ("empty panes JSON from relay query (seq=" ++ toString fulfilment.query.seq.toNat ++ ")")
  else parse fulfilment.tabs fulfilment.panes

theorem foldl_last {α : Type} (items : List α) (start : Option α) :
    items.foldl (fun _ item => some item) start = items.getLast?.or start := by
  induction items generalizing start with
  | nil => simp
  | cons item rest ih => cases rest <;> simp_all [List.getLast?_cons]

@[simp] theorem drainQueries_inFlight (reader : Reader) :
    reader.drainQueries.inFlight = reader.queries.getLast?.or reader.retired :=
  foldl_last reader.queries reader.retired

@[simp] theorem drainQueries_queries (reader : Reader) : reader.drainQueries.queries = [] := rfl

theorem captureQueryLog_cases (reader : Reader) (json : String) :
    (reader.inFlight = none ∧ reader.captureQueryLog json = reader) ∨
      ∃ query, reader.inFlight = some query ∧
        ((reader.isClosed query = true ∧ reader.captureQueryLog json = { reader with inFlight := none }) ∨
        (reader.isClosed query = false ∧ query.tabs = none ∧
          reader.captureQueryLog json = { reader with inFlight := some { query with tabs := some json } }) ∨
        (reader.isClosed query = false ∧ ∃ tabs, query.tabs = some tabs ∧
          reader.captureQueryLog json =
            { reader with
              inFlight := none, fulfilled := reader.fulfilled ++ [{ query, tabs, panes := json }] })) := by
  unfold Reader.captureQueryLog
  cases held : reader.inFlight with
  | none => simp
  | some query =>
    refine .inr ⟨query, rfl, ?_⟩
    cases closed : reader.isClosed query with
    | true => simp [closed]
    | false => cases filled : query.tabs <;> simp [closed, filled]

@[simp] theorem captureQueryLog_stop (reader : Reader) (json : String) :
    (reader.captureQueryLog json).stop = reader.stop := by
  rcases captureQueryLog_cases reader json with ⟨_, captured⟩ | ⟨_, _, ⟨_, captured⟩ | ⟨_, _, captured⟩ | ⟨_, _, _, captured⟩⟩ <;>
    rw [captured]

theorem step_matching {reader : Reader} {msg : MuxServerMsg} (pc : reader.pc = .matching msg) :
    (∃ json, msg = .log json ∧ reader.step = some { reader.captureQueryLog json with pc := .top }) ∨
      (∃ frame last, Reader.frameOf msg = some (frame, last) ∧
        reader.step = some { reader with
          pc := .sending frame last, inFlight := if last then none else reader.inFlight }) ∨
      (msg = .other ∧ reader.step = some { reader with pc := .top }) := by
  cases msg with
  | log json => exact .inl ⟨json, rfl, by simp [Reader.step, pc]⟩
  | render content => exact .inr (.inl ⟨_, _, rfl, by simp [Reader.step, pc, Reader.frameOf]⟩)
  | event event =>
    cases event <;> exact .inr (.inl ⟨_, _, rfl, by simp [Reader.step, pc, Reader.frameOf]⟩)
  | other => exact .inr (.inr ⟨rfl, by simp [Reader.step, pc, Reader.frameOf]⟩)

theorem step_sending {reader : Reader} {frame : ServerFrame} {last : Bool}
    (pc : reader.pc = .sending frame last) :
    (reader.receiverOpen = false ∧ reader.step = some reader.exit) ∨
      (reader.outbound.length < renderChannelBound ∧ reader.step =
        some (if last then (reader.forward frame).exit else { reader.forward frame with pc := .top })) ∨
      (reader.receiverOpen = true ∧ renderChannelBound ≤ reader.outbound.length ∧ reader.step = none) := by
  by_cases connected : reader.receiverOpen <;> by_cases room : reader.outbound.length < renderChannelBound <;>
    simp [Reader.step, pc, connected, room, Nat.le_of_not_lt]

end Muxrd.RenderLoop
