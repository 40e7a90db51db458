import Muxrd.Relay.Teardown

set_option autoImplicit false

namespace Muxrd.Watch

open RenderLoop

inductive Happening
  | armed (query : InFlightQuery)
  -- A Log, and the reply of the query that took it.
  | logged (json : String) (taker : Option Nat)
  | answered (fulfilment : Fulfilment)
  | dropped (query : InFlightQuery)
  -- Dropped with the query channel, before the thread saw it.
  | discarded (query : InFlightQuery)
  deriving DecidableEq, Repr

-- `drain_queries` goes through the channel: each query replaces the one held.
def picked : Option InFlightQuery -> List InFlightQuery -> List Happening
  | _, [] => []
  | held, query :: rest => held.toList.map .dropped ++ .armed query :: picked (some query) rest

def Happening.fulfilment : Happening -> Option Fulfilment
  | .answered fulfilment => some fulfilment
  | _ => none

section Step

variable (reader : Reader)

def drainHappenings : List Happening :=
  (reader.inFlight.toList.filter fun query => reader.isClosed query).map .dropped ++
    picked reader.retired reader.queries

def captureHappenings (json : String) : List Happening :=
  match reader.inFlight with
  | none => [.logged json none]
  | some query =>
    if reader.isClosed query then [.logged json none, .dropped query]
    else
      match query.tabs with
      | none => [.logged json (some query.reply)]
      | some tabs => [.logged json (some query.reply), .answered { query, tabs, panes := json }]

-- The slot and the channel are dropped when the loop is left.
def exitHappenings : List Happening :=
  reader.inFlight.toList.map .dropped ++ reader.queries.map .discarded

def happenings : List Happening :=
  match reader.pc with
  | .top | .received _ => if reader.stop then exitHappenings reader else []
  | .drainBefore | .drainAfter _ => drainHappenings reader
  | .receiving => if reader.incoming.isEmpty then exitHappenings reader else []
  | .matching (.log json) => captureHappenings reader json
  | .matching (.event (.exit _)) => reader.inFlight.toList.map .dropped
  | .matching _ => []
  | .sending _ last => if last || !reader.receiverOpen then exitHappenings reader else []
  | .returned => []

end Step

inductive Moves (reader : Reader) : Reader -> List Happening -> Prop
  | passes (running : reader.stop = false) (pc : Pc)
      (standing : (reader.pc = .top ∧ pc = .drainBefore) ∨ ∃ msg, reader.pc = .received msg ∧ pc = .drainAfter msg) :
      Moves reader { reader with pc } []
  | drains (pc : Pc)
      (standing : (reader.pc = .drainBefore ∧ pc = .receiving) ∨ ∃ msg, reader.pc = .drainAfter msg ∧ pc = .matching msg) :
      Moves reader { reader.drainQueries with pc } (drainHappenings reader)
  | receives (standing : reader.pc = .receiving) (msg : MuxServerMsg) (rest : List MuxServerMsg)
      (arrived : reader.incoming = msg :: rest) :
      Moves reader { reader with pc := .received msg, incoming := rest } []
  | captures (json : String) (standing : reader.pc = .matching (.log json)) :
      Moves reader { reader.captureQueryLog json with pc := .top } (captureHappenings reader json)
  | skips (standing : reader.pc = .matching .other) : Moves reader { reader with pc := .top } []
  | frames (msg : MuxServerMsg) (standing : reader.pc = .matching msg) (frame : ServerFrame) (last : Bool)
      (image : Reader.frameOf msg = some (frame, last)) :
      Moves reader { reader with pc := .sending frame last, inFlight := if last then none else reader.inFlight }
        (if last then reader.inFlight.toList.map .dropped else [])
  | forwards (frame : ServerFrame) (standing : reader.pc = .sending frame false) :
      Moves reader { reader.forward frame with pc := .top } []
  | finishes (frame : ServerFrame) (standing : reader.pc = .sending frame true) :
      Moves reader (reader.forward frame).exit (exitHappenings reader)
  | stops (stopped : reader.stop = true) (standing : reader.pc = .top ∨ ∃ msg, reader.pc = .received msg) :
      Moves reader reader.exit (exitHappenings reader)
  | ends (standing : reader.pc = .receiving) (empty : reader.incoming = []) (eof : reader.eof = true) :
      Moves reader reader.exit (exitHappenings reader)
  | breaks (frame : ServerFrame) (last : Bool) (standing : reader.pc = .sending frame last)
      (gone : reader.receiverOpen = false) : Moves reader reader.exit (exitHappenings reader)

theorem step_moves {reader next : Reader} (taken : reader.step = some next) :
    Moves reader next (happenings reader) := by
  cases pc : reader.pc with
  | top =>
    simp only [Reader.step, pc] at taken
    simp only [happenings, pc]
    split_ifs at taken ⊢ with stopped <;> obtain rfl := Option.some.inj taken
    · exact .stops stopped (.inl pc)
    · exact .passes (by simpa using stopped) _ (.inl ⟨pc, rfl⟩)
  | received msg =>
    simp only [Reader.step, pc] at taken
    simp only [happenings, pc]
    split_ifs at taken ⊢ with stopped <;> obtain rfl := Option.some.inj taken
    · exact .stops stopped (.inr ⟨msg, pc⟩)
    · exact .passes (by simpa using stopped) _ (.inr ⟨msg, pc, rfl⟩)
  | drainBefore =>
    simp only [Reader.step, pc] at taken
    simp only [happenings, pc]
    obtain rfl := Option.some.inj taken
    exact .drains _ (.inl ⟨pc, rfl⟩)
  | drainAfter msg =>
    simp only [Reader.step, pc] at taken
    simp only [happenings, pc]
    obtain rfl := Option.some.inj taken
    exact .drains _ (.inr ⟨msg, pc, rfl⟩)
  | receiving =>
    simp only [Reader.step, pc] at taken
    simp only [happenings, pc]
    cases arrived : reader.incoming with
    | cons msg rest =>
      simp only [arrived] at taken
      obtain rfl := Option.some.inj taken
      exact .receives pc msg rest arrived
    | nil =>
      simp only [arrived] at taken
      split_ifs at taken with eof
      obtain rfl := Option.some.inj taken
      exact .ends pc arrived eof
  | matching msg =>
    rcases step_matching pc with ⟨json, rfl, moves⟩ | ⟨frame, last, image, moves⟩ | ⟨rfl, moves⟩ <;>
      obtain rfl := Option.some.inj (moves.symm.trans taken)
    · simp only [happenings, pc]
      exact .captures json pc
    · have done : happenings reader = if last then reader.inFlight.toList.map .dropped else [] := by
        cases msg with
        | event event => cases event <;> cases image <;> simp [happenings, pc]
        | _ => cases image <;> simp [happenings, pc]
      rw [done]
      exact .frames msg pc frame last image
    · simp only [happenings, pc]
      exact .skips pc
  | sending frame last =>
    simp only [Reader.step, pc] at taken
    simp only [happenings, pc]
    cases connected : reader.receiverOpen with
    | false =>
      simp only [connected, Bool.false_eq_true, if_false] at taken
      obtain rfl := Option.some.inj taken
      simpa using Moves.breaks frame last pc connected
    | true =>
      simp only [connected, if_true] at taken
      split_ifs at taken with room ending
      · obtain rfl := Option.some.inj taken
        subst ending
        simpa using Moves.finishes frame pc
      · obtain rfl := Option.some.inj taken
        obtain rfl : last = false := by simpa using ending
        exact .forwards frame pc
  | returned => simp [Reader.step, pc] at taken

structure Watched where
  reader : Reader
  handedOff : List Nat
  history : List Happening
  sent : List MuxServerMsg
  read : List ServerFrame
  deriving DecidableEq, Repr

def initial (connectionId : String) : Watched :=
  { reader := spawned connectionId, handedOff := [], history := [], sent := [], read := [] }

-- The surroundings may do anything at any time.
inductive Event
  | stop
  | message (msg : MuxServerMsg)
  | streamEnds
  | handOff (query : InFlightQuery)
  | closeReply (reply : Nat)
  | clientReads
  | clientLeaves
  | reader
  deriving DecidableEq, Repr

def step (watched : Watched) : Event -> Option Watched
  | .stop => some { watched with reader := { watched.reader with stop := true } }
  | .message msg =>
    if watched.reader.eof then none
    else
      some { watched with
        reader := { watched.reader with incoming := watched.reader.incoming ++ [msg] }
        sent := watched.sent ++ [msg] }
  | .streamEnds => some { watched with reader := { watched.reader with eof := true } }
  | .handOff query =>
    -- A query has a reply channel of its own and starts out without tabs; the channel refuses it once the
    -- thread is gone.
    if watched.reader.pc ≠ .returned ∧ query.tabs = none ∧ query.reply ∉ watched.handedOff then
      some { watched with
        reader := { watched.reader with queries := watched.reader.queries ++ [query] }
        handedOff := watched.handedOff ++ [query.reply] }
    else none
  | .closeReply reply =>
    some { watched with
      reader := { watched.reader with closedReplies := reply :: watched.reader.closedReplies } }
  | .clientReads =>
    some { watched with
      reader := { watched.reader with outbound := watched.reader.outbound.tail }
      read := watched.read ++ watched.reader.outbound.head?.toList }
  | .clientLeaves => some { watched with reader := { watched.reader with receiverOpen := false } }
  | .reader =>
    watched.reader.step.map fun reader =>
      { watched with reader, history := watched.history ++ happenings watched.reader }

def Watched.frames (watched : Watched) : List ServerFrame :=
  watched.read ++ watched.reader.outbound

section Cases

variable {watched next : Watched} {event : Event}

theorem step_reader : step watched .reader = some next ↔
    ∃ reader, watched.reader.step = some reader ∧
      { watched with reader, history := watched.history ++ happenings watched.reader } = next :=
  Option.map_eq_some_iff

structure Outside (watched next : Watched) : Prop where
  pc : next.reader.pc = watched.reader.pc
  inFlight : next.reader.inFlight = watched.reader.inFlight
  fulfilled : next.reader.fulfilled = watched.reader.fulfilled
  history : next.history = watched.history
  queries : (next.reader.queries = watched.reader.queries ∧ next.handedOff = watched.handedOff) ∨
    ∃ query, next.reader.queries = watched.reader.queries ++ [query] ∧
      next.handedOff = watched.handedOff ++ [query.reply] ∧ query.tabs = none ∧
      query.reply ∉ watched.handedOff ∧ watched.reader.pc ≠ .returned

theorem step_outside (outside : event ≠ .reader) (taken : step watched event = some next) :
    Outside watched next := by
  cases event with
  | reader => exact absurd rfl outside
  | handOff query =>
    simp only [step] at taken
    split_ifs at taken with allowed
    obtain rfl := Option.some.inj taken
    exact { pc := rfl, inFlight := rfl, fulfilled := rfl, history := rfl
            queries := .inr ⟨query, rfl, rfl, allowed.2.1, allowed.2.2, allowed.1⟩ }
  | message msg =>
    simp only [step] at taken
    split_ifs at taken
    obtain rfl := Option.some.inj taken
    exact { pc := rfl, inFlight := rfl, fulfilled := rfl, history := rfl, queries := .inl ⟨rfl, rfl⟩ }
  | stop | streamEnds | closeReply | clientReads | clientLeaves =>
    obtain rfl := Option.some.inj taken
    exact { pc := rfl, inFlight := rfl, fulfilled := rfl, history := rfl, queries := .inl ⟨rfl, rfl⟩ }

end Cases

section Relays

def ofRelay : Teardown.Event -> Option Event
  | .inboundEnds _ | .nudge | .join => none
  | .setStop => some .stop
  | .message msg => some (.message msg)
  | .streamEnds => some .streamEnds
  | .handOff query => some (.handOff query)
  | .closeReply reply => some (.closeReply reply)
  | .clientReads => some .clientReads
  | .clientLeaves => some .clientLeaves
  | .reader => some .reader

def HandsOff (watched : Watched) : Teardown.Event -> Prop
  | .handOff query => query.tabs = none ∧ query.reply ∉ watched.handedOff
  | _ => True

/-- A relay moves its thread in no other way than the surroundings here do. -/
theorem relay_step {relay next : Teardown.Relay} {watched : Watched} {event : Teardown.Event}
    (same : watched.reader = relay.reader) (allowed : HandsOff watched event)
    (taken : Teardown.step relay event = some next) :
    (ofRelay event = none ∧ next.reader = relay.reader) ∨
      ∃ outside after, ofRelay event = some outside ∧ step watched outside = some after ∧
        after.reader = next.reader := by
  cases event with
  | inboundEnds | nudge | join =>
    simp only [Teardown.step] at taken
    split_ifs at taken
    obtain rfl := Option.some.inj taken
    exact .inl ⟨rfl, rfl⟩
  | setStop =>
    simp only [Teardown.step] at taken
    split_ifs at taken
    obtain rfl := Option.some.inj taken
    exact .inr ⟨_, _, rfl, rfl, by simp [same]⟩
  | message msg =>
    simp only [Teardown.step] at taken
    split_ifs at taken with connected
    obtain rfl := Option.some.inj taken
    exact .inr ⟨_, _, rfl, if_neg (by rwa [same]), by simp [same]⟩
  | handOff query =>
    simp only [Teardown.step] at taken
    split_ifs at taken with running
    obtain rfl := Option.some.inj taken
    have enabled : watched.reader.pc ≠ .returned ∧ query.tabs = none ∧ query.reply ∉ watched.handedOff :=
      ⟨same ▸ running.2, allowed⟩
    exact .inr ⟨_, _, rfl, if_pos enabled, by simp [same]⟩
  | streamEnds | closeReply | clientReads | clientLeaves =>
    obtain rfl := Option.some.inj taken
    exact .inr ⟨_, _, rfl, rfl, by simp [same]⟩
  | reader =>
    obtain ⟨reader, moved, rfl⟩ := Option.map_eq_some_iff.mp taken
    exact .inr ⟨_, _, rfl, step_reader.mpr ⟨reader, same ▸ moved, rfl⟩, rfl⟩

end Relays

end Muxrd.Watch
