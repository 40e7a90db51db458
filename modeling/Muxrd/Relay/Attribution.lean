import Muxrd.Relay.Query

set_option autoImplicit false

namespace Muxrd.Attribution

open RenderLoop Query

def tabsOf (reply : Nat) : Ask :=
  { reply, half := .tabs }

def panesOf (reply : Nat) : Ask :=
  { reply, half := .panes }

def inHand : Pc -> List MuxServerMsg
  | .received msg | .drainAfter msg | .matching msg => [msg]
  | _ => []

def logText : MuxServerMsg -> Option String
  | .log json => some json
  | _ => none

def logsAhead (reader : Reader) : List String :=
  (inHand reader.pc ++ reader.incoming).filterMap logText

/-- How far the capture of a held query is: its own logs before the missing one went through, and no
log of a query that is not queued behind it is on its way. -/
structure Expecting (session : Session) (query : InFlightQuery) : Prop where
  ahead : ∀ ask ∈ session.outstanding, ask.reply = query.reply ∨
    ∃ queued ∈ session.reader.queries, ask.reply = queued.reply
  captured : match query.tabs with
    | none => ∀ entry ∈ session.captured, entry.1.reply ≠ query.reply
    | some text => (tabsOf query.reply, text) ∈ session.captured ∧
        panesOf query.reply ∉ session.captured.map (·.1)

theorem Expecting.transfer {session next : Session} {query : InFlightQuery}
    (expecting : Expecting session query) (outstanding : next.outstanding = session.outstanding)
    (queries : next.reader.queries = session.reader.queries)
    (captured : next.captured = session.captured) :
    Expecting next query := by
  constructor
  · simpa only [outstanding, queries] using expecting.ahead
  · simpa only [captured] using expecting.captured

structure Attributed (session : Session) : Prop where
  texts : session.reader.pc ≠ .returned -> logsAhead session.reader = session.streamed.map (·.2)
  once : session.sent.Nodup
  ordered : ∀ before reply after, session.sent = before ++ panesOf reply :: after -> tabsOf reply ∈ before
  known : ∀ ask ∈ session.sent, ask.reply ∈ session.used
  queued : ∀ query ∈ session.reader.queries, query.tabs = none ∧ query.reply ∈ session.used ∧
    ∀ entry ∈ session.captured, entry.1.reply ≠ query.reply
  matched : ∀ json, session.reader.pc = .matching (.log json) -> ∀ entry ∈ session.streamed.head?,
    ∀ query ∈ session.reader.queries, entry.1.reply ≠ query.reply
  askingTabs : ∀ reply, session.inbound = .askTabs reply ->
    reply ∈ session.used ∧ ∀ ask ∈ session.sent, ask.reply ≠ reply
  askingPanes : ∀ reply, session.inbound = .askPanes reply ->
    reply ∈ session.used ∧ tabsOf reply ∈ session.sent ∧ panesOf reply ∉ session.sent
  -- The query being sent is the newest one: last in the queue, or the held one, or gone.
  newest : ∀ reply, session.inbound = .askTabs reply ∨ session.inbound = .askPanes reply ->
    match session.reader.queries.getLast? with
    | some query => query.reply = reply
    | none => ∀ query, session.reader.inFlight = some query -> query.reply = reply
  held : ∀ query, session.reader.inFlight = some query -> session.reader.isClosed query = false ->
    Expecting session query
  fulfilled : ∀ fulfilment ∈ session.reader.fulfilled,
    (tabsOf fulfilment.query.reply, fulfilment.tabs) ∈ session.captured ∧
      (panesOf fulfilment.query.reply, fulfilment.panes) ∈ session.captured

theorem attributed_initial (connectionId : String) : Attributed (initial connectionId) := by
  constructor <;> simp [initial, spawned, logsAhead, inHand, Session.sent, Session.outstanding]

theorem Attributed.wellAttributed {session : Session} (attributed : Attributed session) :
    WellAttributed session := by
  intro fulfilment member text
  have distinct : (session.answers.map (·.1)).Nodup := by
    have once := attributed.once
    simp only [Session.sent, Session.outstanding, ← List.append_assoc] at once
    simpa [Session.answers] using (List.nodup_append.mp once).1
  have unique (ask : Ask) (answer : String) (captured : (ask, answer) ∈ session.captured) :
      (ask, text) ∈ session.answers ↔ text = answer := by
    have present : (ask, answer) ∈ session.answers := List.mem_append_left _ captured
    constructor
    · intro found
      exact congrArg Prod.snd (List.inj_on_of_nodup_map distinct found present rfl)
    · rintro rfl
      exact present
  obtain ⟨tabs, panes⟩ := attributed.fulfilled fulfilment member
  exact ⟨unique _ _ tabs, unique _ _ panes⟩

structure SameQueries (session next : Session) : Prop where
  inbound : next.inbound = session.inbound
  used : next.used = session.used
  captured : next.captured = session.captured
  streamed : next.streamed = session.streamed
  server : next.server = session.server
  queries : next.reader.queries = session.reader.queries
  inFlight : next.reader.inFlight = session.reader.inFlight
  fulfilled : next.reader.fulfilled = session.reader.fulfilled
  closed : ∀ query, next.reader.isClosed query = false -> session.reader.isClosed query = false
  logs : next.reader.pc ≠ .returned ->
    session.reader.pc ≠ .returned ∧ logsAhead next.reader = logsAhead session.reader
  matched : ∀ json, next.reader.pc = .matching (.log json) -> session.reader.pc = .matching (.log json)

theorem Attributed.same {session next : Session} (attributed : Attributed session)
    (same : SameQueries session next) : Attributed next := by
  have outstanding : next.outstanding = session.outstanding := by
    simp only [Session.outstanding, same.streamed, same.server]
  have sent : next.sent = session.sent := by
    simp only [Session.sent, outstanding, same.captured]
  constructor
  · intro running
    obtain ⟨before, logs⟩ := same.logs running
    rw [logs, same.streamed]
    exact attributed.texts before
  · simpa only [sent] using attributed.once
  · simpa only [sent] using attributed.ordered
  · simpa only [sent, same.used] using attributed.known
  · simpa only [same.queries, same.captured, same.used] using attributed.queued
  · intro json matching
    rw [same.streamed, same.queries]
    exact attributed.matched json (same.matched json matching)
  · simpa only [sent, same.inbound, same.used] using attributed.askingTabs
  · simpa only [sent, same.inbound, same.used] using attributed.askingPanes
  · simpa only [same.queries, same.inbound, same.inFlight] using attributed.newest
  · intro query holding wanted
    rw [same.inFlight] at holding
    exact (attributed.held query holding (same.closed query wanted)).transfer outstanding same.queries
      same.captured
  · simpa only [same.fulfilled, same.captured] using attributed.fulfilled

theorem attributed_exit {session : Session} (attributed : Attributed session) (reader : Reader)
    (fulfilled : reader.fulfilled = session.reader.fulfilled) :
    Attributed { session with reader := reader.exit } := by
  constructor
  · intro running
    exact absurd rfl running
  · exact attributed.once
  · exact attributed.ordered
  · exact attributed.known
  · simp [Reader.exit]
  · simp [Reader.exit]
  · exact attributed.askingTabs
  · exact attributed.askingPanes
  · simp [Reader.exit]
  · simp [Reader.exit]
  · simpa [Reader.exit, fulfilled] using attributed.fulfilled

theorem attributed_drain {session : Session} (attributed : Attributed session) {pc : Pc}
    (running : session.reader.pc ≠ .returned) (sameHand : inHand pc = inHand session.reader.pc)
    (clean : ∀ query, session.reader.queries.getLast? = some query -> session.reader.isClosed query = false ->
      ∀ ask ∈ session.outstanding, ask.reply = query.reply) :
    Attributed { session with reader := { session.reader.drainQueries with pc } } := by
  have holding (query : InFlightQuery) (held : session.reader.drainQueries.inFlight = some query) :
      session.reader.queries.getLast? = some query ∨
        session.reader.queries = [] ∧ session.reader.inFlight = some query := by
    rw [drainQueries_inFlight] at held
    cases last : session.reader.queries.getLast? with
    | some newest => exact .inl (by simpa [last] using held)
    | none =>
      simp only [last, Option.none_or, Reader.retired, Option.filter_eq_some_iff] at held
      exact .inr ⟨List.getLast?_eq_none_iff.mp last, held.1⟩
  constructor
  · intro _
    have texts := attributed.texts running
    simpa [logsAhead, sameHand, Reader.drainQueries] using texts
  · exact attributed.once
  · exact attributed.ordered
  · exact attributed.known
  · simp
  · simp
  · exact attributed.askingTabs
  · exact attributed.askingPanes
  · intro reply asking
    have newest := attributed.newest reply asking
    intro query held
    rcases holding query held with last | ⟨empty, before⟩
    · simpa [last] using newest
    · simp only [empty, List.getLast?_nil] at newest
      exact newest query before
  · intro query held wanted
    rcases holding query held with last | ⟨empty, before⟩
    · obtain ⟨unfilled, _, untouched⟩ := attributed.queued query (List.mem_of_getLast? last)
      exact { ahead := fun ask member => .inl (clean query last wanted ask member)
              captured := by simpa [unfilled] using untouched }
    · have expecting := attributed.held query before wanted
      constructor
      · intro ask member
        refine .inl ((expecting.ahead ask member).resolve_right ?_)
        simp [empty]
      · exact expecting.captured
  · exact attributed.fulfilled

theorem attributed_query {session : Session} (attributed : Attributed session) {reply : Nat}
    (fresh : reply ∉ session.used) :
    Attributed { session with
      reader := { session.reader with
        queries := session.reader.queries ++ [{ seq := session.nextQuerySeq, reply, tabs := none }] }
      inbound := .askTabs reply
      nextQuerySeq := session.nextQuerySeq + 1
      used := reply :: session.used } := by
  have unasked (ask : Ask) (member : ask ∈ session.sent) : ask.reply ≠ reply := by
    rintro rfl
    exact fresh (attributed.known ask member)
  constructor
  · exact attributed.texts
  · exact attributed.once
  · exact attributed.ordered
  · intro ask member
    exact List.mem_cons_of_mem _ (attributed.known ask member)
  · intro query member
    rcases List.mem_append.mp member with before | new
    · obtain ⟨unfilled, used, untouched⟩ := attributed.queued query before
      exact ⟨unfilled, List.mem_cons_of_mem _ used, untouched⟩
    · obtain rfl := List.mem_singleton.mp new
      refine ⟨rfl, List.mem_cons_self, fun entry captured => unasked entry.1 ?_⟩
      exact List.mem_append_left _ (List.mem_map_of_mem captured)
  · intro json matching entry head query member
    rcases List.mem_append.mp member with before | new
    · exact attributed.matched json matching entry head query before
    · obtain rfl := List.mem_singleton.mp new
      apply unasked entry.1
      simp only [Session.sent, Session.outstanding, List.mem_append]
      exact .inr (.inl (List.mem_map_of_mem (List.mem_of_mem_head? head)))
  · rintro _ ⟨⟩
    exact ⟨List.mem_cons_self, unasked⟩
  · intro other asking
    cases asking
  · rintro _ (⟨⟨⟩⟩ | ⟨⟨⟩⟩)
    simp
  · intro query holding wanted
    have expecting := attributed.held query holding wanted
    constructor
    · intro ask member
      refine (expecting.ahead ask member).imp_right ?_
      rintro ⟨queued, inQueue, same⟩
      exact ⟨queued, List.mem_append_left _ inQueue, same⟩
    · exact expecting.captured
  · exact attributed.fulfilled

theorem attributed_idle {session : Session} (attributed : Attributed session) :
    Attributed { session with inbound := .idle } :=
  { texts := attributed.texts
    once := attributed.once
    ordered := attributed.ordered
    known := attributed.known
    queued := attributed.queued
    matched := attributed.matched
    askingTabs := by simp
    askingPanes := by simp
    newest := by simp
    held := fun query holding wanted => (attributed.held query holding wanted).transfer rfl rfl rfl
    fulfilled := attributed.fulfilled }

theorem append_singleton_split {α : Type} {items before after : List α} {last middle : α}
    (split : items ++ [last] = before ++ middle :: after) :
    (items = before ∧ last = middle) ∨ ∃ rest, items = before ++ middle :: rest := by
  rcases List.eq_nil_or_concat after with rfl | ⟨rest, final, rfl⟩
  · exact .inl (by simpa using List.append_inj' split rfl)
  · rw [List.concat_eq_append, ← List.cons_append, ← List.append_assoc] at split
    exact .inr ⟨rest, (List.append_inj' split rfl).1⟩

theorem attributed_send {session : Session} (attributed : Attributed session) {ask : Ask}
    {inbound : InboundPc}
    (asking : session.inbound = .askTabs ask.reply ∨ session.inbound = .askPanes ask.reply)
    (used : ask.reply ∈ session.used) (fresh : ask ∉ session.sent)
    (order : ask = panesOf ask.reply -> tabsOf ask.reply ∈ session.sent)
    (goesOn : inbound = .idle ∨
      (inbound = .askPanes ask.reply ∧ ask = tabsOf ask.reply ∧ panesOf ask.reply ∉ session.sent)) :
    Attributed { session with inbound, server := session.server ++ [ask] } := by
  have sent : Session.sent { session with inbound, server := session.server ++ [ask] } =
      session.sent ++ [ask] := by
    simp [Session.sent, Session.outstanding]
  have outstanding : Session.outstanding { session with inbound, server := session.server ++ [ask] } =
      session.outstanding ++ [ask] := by
    simp [Session.outstanding]
  constructor
  · exact attributed.texts
  · rw [sent]
    exact attributed.once.append (List.nodup_singleton ask) (by simpa using fresh)
  · intro before reply after split
    rw [sent] at split
    rcases append_singleton_split split with ⟨rfl, last⟩ | ⟨rest, split⟩
    · obtain rfl : ask.reply = reply := congrArg Ask.reply last
      exact order last
    · exact attributed.ordered before reply rest split
  · intro other member
    rw [sent, List.mem_append, List.mem_singleton] at member
    rcases member with before | rfl
    · exact attributed.known other before
    · exact used
  · exact attributed.queued
  · exact attributed.matched
  · rcases goesOn with rfl | ⟨rfl, _⟩ <;> simp
  · rcases goesOn with rfl | ⟨rfl, tabs, unasked⟩
    · simp
    · rintro _ ⟨⟩
      rw [sent]
      refine ⟨used, List.mem_append_right _ (by rw [← tabs]; simp), ?_⟩
      rw [List.mem_append, List.mem_singleton, not_or]
      refine ⟨unasked, fun same => ?_⟩
      rw [tabs] at same
      cases same
  · intro reply again
    have same : ask.reply = reply := by
      rcases goesOn with rfl | ⟨rfl, _⟩
      · simp at again
      · simpa using again
    subst same
    exact attributed.newest ask.reply asking
  · intro query holding wanted
    have expecting := attributed.held query holding wanted
    constructor
    · intro other member
      rw [outstanding, List.mem_append, List.mem_singleton] at member
      rcases member with before | rfl
      · exact expecting.ahead other before
      · have newest := attributed.newest _ asking
        cases last : session.reader.queries.getLast? with
        | some queued =>
          simp only [last] at newest
          exact .inr ⟨queued, List.mem_of_getLast? last, newest.symm⟩
        | none =>
          simp only [last] at newest
          exact .inl (newest query holding).symm
    · exact expecting.captured
  · exact attributed.fulfilled

theorem attributed_answer {session : Session} (attributed : Attributed session) {ask : Ask}
    {rest : List Ask}
    (waiting : session.server = ask :: rest) (text : String) :
    Attributed { session with
      reader := { session.reader with incoming := session.reader.incoming ++ [.log text] }
      streamed := session.streamed ++ [(ask, text)]
      server := rest } := by
  have outstanding : Session.outstanding { session with
      reader := { session.reader with incoming := session.reader.incoming ++ [.log text] }
      streamed := session.streamed ++ [(ask, text)]
      server := rest } = session.outstanding := by
    simp [Session.outstanding, waiting]
  have sent : Session.sent { session with
      reader := { session.reader with incoming := session.reader.incoming ++ [.log text] }
      streamed := session.streamed ++ [(ask, text)]
      server := rest } = session.sent := by
    simp only [Session.sent, outstanding]
  constructor
  · intro running
    have texts := attributed.texts running
    simp only [logsAhead, List.filterMap_append, List.map_append] at texts ⊢
    rw [← List.append_assoc, texts]
    simp [logText]
  · simpa only [sent] using attributed.once
  · simpa only [sent] using attributed.ordered
  · simpa only [sent] using attributed.known
  · exact attributed.queued
  · intro json matching entry head
    -- The log in hand was answered before, so the head of the stream stays the same.
    have holding : session.reader.pc = .matching (.log json) := matching
    have texts := attributed.texts (by simp [holding])
    cases stream : session.streamed with
    | nil => simp [logsAhead, inHand, holding, logText, stream] at texts
    | cons first others =>
      simp only [stream, List.cons_append, List.head?_cons] at head
      exact attributed.matched json matching entry (by simpa [stream] using head)
  · simpa only [sent] using attributed.askingTabs
  · simpa only [sent] using attributed.askingPanes
  · exact attributed.newest
  · intro query holding wanted
    exact (attributed.held query holding wanted).transfer outstanding rfl rfl
  · exact attributed.fulfilled

theorem Expecting.next_log {session : Session} {query : InFlightQuery}
    (expecting : Expecting session query)
    (attributed : Attributed session) {entry : Ask × String} {rest : List (Ask × String)}
    (stream : session.streamed = entry :: rest)
    (unqueued : ∀ queued ∈ session.reader.queries, entry.1.reply ≠ queued.reply) :
    entry.1 = if query.tabs.isSome then panesOf query.reply else tabsOf query.reply := by
  have onItsWay : entry.1 ∈ session.outstanding := by simp [Session.outstanding, stream]
  have own : entry.1.reply = query.reply := by
    refine (expecting.ahead entry.1 onItsWay).resolve_right ?_
    rintro ⟨queued, member, same⟩
    exact unqueued queued member same
  have sent : session.sent = session.captured.map (·.1) ++ entry.1 :: (rest.map (·.1) ++ session.server) := by
    simp [Session.sent, Session.outstanding, stream]
  have captured := expecting.captured
  obtain ⟨⟨reply, half⟩, text⟩ := entry
  obtain rfl : reply = query.reply := own
  cases filled : query.tabs with
  | none =>
    simp only [filled] at captured
    cases half with
    | tabs => rfl
    | panes =>
      -- A panes log comes after the tabs log, which was not captured.
      have earlier := attributed.ordered _ _ _ sent
      obtain ⟨other, member, same⟩ := List.mem_map.mp earlier
      exact absurd (congrArg Ask.reply same) (captured other member)
  | some tabs =>
    simp only [filled] at captured
    cases half with
    | panes => rfl
    | tabs =>
      -- The tabs log was captured already, and no action is answered twice.
      have once := attributed.once
      rw [sent] at once
      exact absurd rfl ((List.nodup_append.mp once).2.2 _ (List.mem_map_of_mem captured.1) _
        List.mem_cons_self)

theorem Attributed.log_in_hand {session : Session} (attributed : Attributed session) {json : String}
    (matching : session.reader.pc = .matching (.log json)) {entry : Ask × String}
    {rest : List (Ask × String)} (stream : session.streamed = entry :: rest) :
    json = entry.2 ∧ session.reader.incoming.filterMap logText = rest.map (·.2) := by
  have texts := attributed.texts (by simp [matching])
  simpa [logsAhead, inHand, matching, logText, stream] using texts

theorem attributed_log {session : Session} (attributed : Attributed session) {json : String}
    (matching : session.reader.pc = .matching (.log json)) {entry : Ask × String}
    {rest : List (Ask × String)} (stream : session.streamed = entry :: rest)
    {inFlight : Option InFlightQuery} {fulfilled : List Fulfilment}
    (kept : ∀ query, inFlight = some query ->
      ∃ before, session.reader.inFlight = some before ∧ before.reply = query.reply)
    (filled : ∀ query, inFlight = some query -> session.reader.isClosed query = false ->
      query.tabs = some entry.2 ∧ entry.1 = tabsOf query.reply ∧
        ∀ other ∈ session.captured, other.1.reply ≠ query.reply)
    (replied : ∀ fulfilment ∈ fulfilled, fulfilment ∈ session.reader.fulfilled ∨
      (tabsOf fulfilment.query.reply, fulfilment.tabs) ∈ session.captured ∧
        entry = (panesOf fulfilment.query.reply, fulfilment.panes)) :
    Attributed { session with
      reader := { session.reader with pc := .top, inFlight, fulfilled }
      captured := session.captured ++ [entry]
      streamed := rest } := by
  have sent : Session.sent { session with
      reader := { session.reader with pc := .top, inFlight, fulfilled }
      captured := session.captured ++ [entry]
      streamed := rest } = session.sent := by
    simp [Session.sent, Session.outstanding, stream]
  have unqueued := attributed.matched json matching entry (by simp [stream])
  constructor
  · intro _
    exact (attributed.log_in_hand matching stream).2
  · simpa only [sent] using attributed.once
  · simpa only [sent] using attributed.ordered
  · simpa only [sent] using attributed.known
  · intro query member
    obtain ⟨unfilled, used, untouched⟩ := attributed.queued query member
    refine ⟨unfilled, used, fun other captured => ?_⟩
    rcases List.mem_append.mp captured with before | last
    · exact untouched other before
    · obtain rfl := List.mem_singleton.mp last
      exact unqueued query member
  · simp
  · simpa only [sent] using attributed.askingTabs
  · simpa only [sent] using attributed.askingPanes
  · intro reply asking
    have newest := attributed.newest reply asking
    cases last : session.reader.queries.getLast? with
    | some query => simpa [last] using newest
    | none =>
      simp only [last] at newest ⊢
      intro query holding
      obtain ⟨before, held, same⟩ := kept query holding
      exact same.symm.trans (newest before held)
  · intro query holding wanted
    obtain ⟨text, tabs, untouched⟩ := filled query holding wanted
    obtain ⟨before, held, same⟩ := kept query holding
    have closed : session.reader.isClosed before = false := by
      simpa [Reader.isClosed, same] using wanted
    have expecting := attributed.held before held closed
    constructor
    · intro ask member
      rw [← same]
      exact expecting.ahead ask (by
        simp only [Session.outstanding, stream, List.map_cons, List.cons_append]
        exact List.mem_cons_of_mem _ member)
    · simp only [text]
      constructor
      · rw [← tabs]
        simp
      · simp only [List.map_append, List.mem_append, not_or]
        constructor
        · rintro panes
          obtain ⟨other, member, answered⟩ := List.mem_map.mp panes
          exact untouched other member (congrArg Ask.reply answered)
        · simp [tabs, tabsOf, panesOf]
  · intro fulfilment member
    rcases replied fulfilment member with before | ⟨tabs, panes⟩
    · obtain ⟨tabs, panes⟩ := attributed.fulfilled fulfilment before
      exact ⟨List.mem_append_left _ tabs, List.mem_append_left _ panes⟩
    · exact ⟨List.mem_append_left _ tabs, List.mem_append_right _ (by simp [panes])⟩

theorem attributed_capture {session : Session} (attributed : Attributed session) {json : String}
    (matching : session.reader.pc = .matching (.log json)) {entry : Ask × String}
    {rest : List (Ask × String)} (stream : session.streamed = entry :: rest) :
    Attributed { session with
      reader := { session.reader.captureQueryLog json with pc := .top }
      captured := session.captured ++ [entry]
      streamed := rest } := by
  have text := (attributed.log_in_hand matching stream).1
  have unqueued := attributed.matched json matching entry (by simp [stream])
  rcases captureQueryLog_cases session.reader json with
    ⟨idle, captured⟩ | ⟨query, holding, ⟨_, captured⟩ | ⟨wanted, empty, captured⟩ |
      ⟨wanted, tabs, half, captured⟩⟩
  · rw [captured]
    exact attributed_log attributed matching stream (by simp [idle]) (by simp [idle]) (fun _ => .inl)
  · rw [captured]
    exact attributed_log attributed matching stream (by simp) (by simp) (fun _ => .inl)
  · have expecting := attributed.held query holding wanted
    have own := expecting.next_log attributed stream unqueued
    have untouched := expecting.captured
    simp only [empty, Option.isSome_none, Bool.false_eq_true, if_false] at own untouched
    rw [captured]
    refine attributed_log attributed matching stream ?_ ?_ (fun _ => .inl)
    · rintro _ ⟨⟩
      exact ⟨query, holding, rfl⟩
    · rintro _ ⟨⟩ _
      exact ⟨congrArg some text, own, untouched⟩
  · have expecting := attributed.held query holding wanted
    have own := expecting.next_log attributed stream unqueued
    have answered := expecting.captured
    simp only [half, Option.isSome_some, if_true] at own answered
    rw [captured]
    refine attributed_log attributed matching stream (by simp) (by simp) ?_
    intro fulfilment member
    rcases List.mem_append.mp member with before | new
    · exact .inl before
    · obtain rfl := List.mem_singleton.mp new
      exact .inr ⟨answered.1, by rw [← own, text]⟩

theorem attributed_move {session : Session} (attributed : Attributed session) {reader : Reader}
    (queries : reader.queries = session.reader.queries)
    (inFlight : reader.inFlight = session.reader.inFlight)
    (fulfilled : reader.fulfilled = session.reader.fulfilled)
    (closed : reader.closedReplies = session.reader.closedReplies)
    (logs : reader.pc ≠ .returned ->
      session.reader.pc ≠ .returned ∧ logsAhead reader = logsAhead session.reader)
    (matched : ∀ json, reader.pc = .matching (.log json) -> session.reader.pc = .matching (.log json)) :
    Attributed { session with reader } :=
  attributed.same
    { inbound := rfl
      used := rfl
      captured := rfl
      streamed := rfl
      server := rfl
      queries
      inFlight
      fulfilled
      closed := fun query => by simp [Reader.isClosed, closed]
      logs
      matched }

theorem attributed_drop {session : Session} (attributed : Attributed session) :
    Attributed { session with reader := { session.reader with inFlight := none } } :=
  { attributed with
    newest := fun reply asking => by
      have newest := attributed.newest reply asking
      cases last : session.reader.queries.getLast? with
      | some query => simpa [last] using newest
      | none => simp
    held := by simp }

section Reads

variable {session next : Session} (attributed : Attributed session) (taken : step session .reader = some next)

include attributed taken

theorem attributed_receiving (pc : session.reader.pc = .receiving) : Attributed next := by
  cases arrived : session.reader.incoming with
  | nil =>
    by_cases ended : session.reader.eof
    · obtain rfl : { session with reader := session.reader.exit } = next := by
        simpa [step, Reader.step, pc, arrived, ended] using taken
      exact attributed_exit attributed _ rfl
    · simp [step, Reader.step, pc, arrived, ended] at taken
  | cons msg rest =>
    obtain rfl : { session with reader := { session.reader with pc := .received msg, incoming := rest } } = next := by
      simpa [step, Reader.step, pc, arrived] using taken
    exact attributed_move attributed rfl rfl rfl rfl (fun _ => by simp [pc, logsAhead, inHand, arrived]) (by simp)

theorem attributed_logged {json : String} (pc : session.reader.pc = .matching (.log json)) : Attributed next := by
  cases stream : session.streamed with
  | nil =>
    have texts := attributed.texts (by simp [pc])
    simp [logsAhead, inHand, pc, logText, stream] at texts
  | cons entry rest =>
    obtain rfl : { session with
        reader := { session.reader.captureQueryLog json with pc := .top }
        captured := session.captured ++ [entry]
        streamed := rest } = next := by
      simpa [step, Reader.step, pc, stream] using taken
    exact attributed_capture attributed pc stream

theorem attributed_sending {frame : ServerFrame} {last : Bool} (pc : session.reader.pc = .sending frame last) :
    Attributed next := by
  by_cases connected : session.reader.receiverOpen
  · by_cases room : session.reader.outbound.length < renderChannelBound
    · cases last with
      | true =>
        obtain rfl : { session with reader := (session.reader.forward frame).exit } = next := by
          simpa [step, Reader.step, pc, connected, room] using taken
        exact attributed_exit attributed _ rfl
      | false =>
        obtain rfl : { session with reader := { session.reader.forward frame with pc := .top } } = next := by
          simpa [step, Reader.step, pc, connected, room] using taken
        exact attributed_move attributed rfl rfl rfl rfl
          (fun _ => by simp [pc, logsAhead, inHand, Reader.forward]) (by simp)
    · simp [step, Reader.step, pc, connected, room] at taken
  · obtain rfl : { session with reader := session.reader.exit } = next := by
      simpa [step, Reader.step, pc, connected] using taken
    exact attributed_exit attributed _ rfl

end Reads

theorem attributed_forward {session : Session} (attributed : Attributed session) {msg : MuxServerMsg}
    (pc : session.reader.pc = .matching msg) (silent : logText msg = none) (frame : ServerFrame) (last : Bool) :
    Attributed { session with
      reader := { session.reader with
        pc := .sending frame last
        inFlight := if last then none else session.reader.inFlight } } := by
  have running : session.reader.pc ≠ .returned := by simp [pc]
  have ahead : logsAhead session.reader = session.reader.incoming.filterMap logText := by
    simp [logsAhead, inHand, pc, List.filterMap_cons_none silent]
  cases last with
  | false => exact attributed_move attributed rfl rfl rfl rfl (fun _ => ⟨running, ahead.symm⟩) (by simp)
  | true =>
    exact attributed_move (attributed_drop attributed) rfl rfl rfl rfl (fun _ => ⟨running, ahead.symm⟩) (by simp)

theorem attributed_matching {session next : Session} (attributed : Attributed session) {msg : MuxServerMsg}
    (taken : step session .reader = some next) (pc : session.reader.pc = .matching msg) : Attributed next := by
  cases msg with
  | log json => exact attributed_logged attributed taken pc
  | render content =>
    obtain rfl := Option.some.inj (by simpa [step, Reader.step, pc, Reader.frameOf] using taken)
    exact attributed_forward attributed pc rfl (.render content) false
  | event event =>
    cases event <;>
      obtain rfl := Option.some.inj (by simpa [step, Reader.step, pc, Reader.frameOf] using taken) <;>
      exact attributed_forward attributed pc rfl _ _
  | other =>
    obtain rfl : { session with reader := { session.reader with pc := .top } } = next := by
      simpa [step, Reader.step, pc, Reader.frameOf] using taken
    exact attributed_move attributed rfl rfl rfl rfl
      (fun _ => by simp [pc, logsAhead, inHand, List.filterMap_cons, logText]) (by simp)

theorem attributed_reader {session next : Session} (attributed : Attributed session)
    (clean : CleanPickUp session .reader)
    (taken : step session .reader = some next) : Attributed next := by
  cases pc : session.reader.pc with
  | top =>
    by_cases stopped : session.reader.stop
    · obtain rfl : { session with reader := session.reader.exit } = next := by
        simpa [step, Reader.step, pc, stopped] using taken
      exact attributed_exit attributed _ rfl
    · obtain rfl : { session with reader := { session.reader with pc := .drainBefore } } = next := by
        simpa [step, Reader.step, pc, stopped] using taken
      exact attributed_move attributed rfl rfl rfl rfl (fun _ => by simp [pc, logsAhead, inHand]) (by simp)
  | drainBefore =>
    obtain rfl : { session with reader := { session.reader.drainQueries with pc := .receiving } } = next := by
      simpa [step, Reader.step, pc] using taken
    exact attributed_drain attributed (by simp [pc]) (by simp [pc, inHand])
      (clean (by simp [pc, isDraining]))
  | receiving => exact attributed_receiving attributed taken pc
  | received msg =>
    by_cases stopped : session.reader.stop
    · obtain rfl : { session with reader := session.reader.exit } = next := by
        simpa [step, Reader.step, pc, stopped] using taken
      exact attributed_exit attributed _ rfl
    · obtain rfl : { session with reader := { session.reader with pc := .drainAfter msg } } = next := by
        simpa [step, Reader.step, pc, stopped] using taken
      exact attributed_move attributed rfl rfl rfl rfl (fun _ => by simp [pc, logsAhead, inHand]) (by simp)
  | drainAfter msg =>
    obtain rfl : { session with reader := { session.reader.drainQueries with pc := .matching msg } } = next := by
      simpa [step, Reader.step, pc] using taken
    exact attributed_drain attributed (by simp [pc]) (by simp [pc, inHand])
      (clean (by simp [pc, isDraining]))
  | matching msg => exact attributed_matching attributed taken pc
  | sending frame last => exact attributed_sending attributed taken pc
  | returned => simp [step, Reader.step, pc] at taken

theorem attributed_step (session : Session) (event : Event) (next : Session)
    (attributed : Attributed session)
    (clean : CleanPickUp session event) (taken : step session event = some next) : Attributed next := by
  cases event with
  | query reply =>
    simp only [step] at taken
    split_ifs at taken with ready gone
    · obtain ⟨idle, _⟩ := ready
      obtain rfl := Option.some.inj taken
      exact { attributed with
        known := fun ask member => List.mem_cons_of_mem _ (attributed.known ask member)
        queued := fun query member =>
          let ⟨unfilled, used, untouched⟩ := attributed.queued query member
          ⟨unfilled, List.mem_cons_of_mem _ used, untouched⟩
        askingTabs := by simp [idle]
        askingPanes := by simp [idle]
        held := fun query holding wanted => (attributed.held query holding wanted).transfer rfl rfl rfl }
    · obtain rfl := Option.some.inj taken
      exact attributed_query attributed ready.2
  | askTabs ok =>
    simp only [step] at taken
    split at taken
    · rename_i reply asking
      have unasked := attributed.askingTabs reply asking
      have absent (half : Half) : { reply, half } ∉ session.sent := fun member => unasked.2 _ member rfl
      split_ifs at taken
      · obtain rfl := Option.some.inj taken
        exact attributed_send attributed (.inl asking) unasked.1 (absent .tabs)
          (fun same => by cases same) (.inr ⟨rfl, rfl, absent .panes⟩)
      · exact Option.some.inj taken ▸ attributed_idle attributed
    · cases taken
  | askPanes ok =>
    simp only [step] at taken
    split at taken
    · rename_i reply asking
      obtain ⟨used, tabs, panes⟩ := attributed.askingPanes reply asking
      split_ifs at taken
      · obtain rfl := Option.some.inj taken
        exact attributed_send attributed (.inr asking) used panes (fun _ => tabs) (.inl rfl)
      · exact Option.some.inj taken ▸ attributed_idle attributed
    · cases taken
  | answer text =>
    simp only [step] at taken
    split at taken
    · rename_i ask rest waiting
      split_ifs at taken
      exact Option.some.inj taken ▸ attributed_answer attributed waiting text
    · cases taken
  | message msg =>
    simp only [step] at taken
    split_ifs at taken with refused
    obtain rfl := Option.some.inj taken
    have silent : logText msg = none := by
      cases msg <;> simp_all [isLog, logText]
    exact attributed_move attributed rfl rfl rfl rfl
      (fun running => ⟨running, by simp [logsAhead, List.filterMap_append, silent]⟩) (fun _ => id)
  | streamEnds =>
    exact Option.some.inj taken ▸ attributed_move attributed rfl rfl rfl rfl (fun running => ⟨running, rfl⟩)
      (fun _ => id)
  | closeReply reply =>
    obtain rfl := Option.some.inj taken
    exact attributed.same
      { inbound := rfl
        used := rfl
        captured := rfl
        streamed := rfl
        server := rfl
        queries := rfl
        inFlight := rfl
        fulfilled := rfl
        closed := fun query => by simp [Reader.isClosed]
        logs := fun running => ⟨running, rfl⟩
        matched := fun _ => id }
  | stop =>
    exact Option.some.inj taken ▸ attributed_move attributed rfl rfl rfl rfl (fun running => ⟨running, rfl⟩)
      (fun _ => id)
  | clientReads =>
    exact Option.some.inj taken ▸ attributed_move attributed rfl rfl rfl rfl (fun running => ⟨running, rfl⟩)
      (fun _ => id)
  | clientLeaves =>
    exact Option.some.inj taken ▸ attributed_move attributed rfl rfl rfl rfl (fun running => ⟨running, rfl⟩)
      (fun _ => id)
  | reader => exact attributed_reader attributed clean taken

/-- In a run that picks its queries up cleanly, every fulfilled query got its own two answers. -/
theorem query_attribution (connectionId : String) {events : List Event} {session : Session}
    (clean : Transition.Meets step CleanPickUp (initial connectionId) events)
    (ran : Transition.run step (initial connectionId) events = some session) : WellAttributed session :=
  (Transition.invariant_of_meets attributed_step (attributed_initial connectionId) clean ran).wellAttributed

-- Two polls one after the other; the second is sent once the first was answered and captured.
def serialPolls : List Event :=
  [.query 1, .askTabs true, .askPanes true, .answer "tabs 1", .answer "panes 1"] ++
    List.replicate 13 .reader ++
    [.query 2, .askTabs true, .askPanes true, .answer "tabs 2", .answer "panes 2"] ++
    List.replicate 12 .reader

theorem query_attribution_serial :
    ∃ session, Transition.run step (initial "c1") serialPolls = some session ∧
      session.reader.fulfilled.length = 2 ∧ WellAttributed session := by
  have clean : Transition.Meets step CleanPickUp (initial "c1") serialPolls := by decide
  exact ⟨_, rfl, rfl, query_attribution "c1" clean rfl⟩

-- A second poll replaces the first while both logs of the first are on their way.
def replacedPoll : List Event :=
  [.query 1, .askTabs true, .askPanes true, .reader, .reader, .query 2, .askTabs true, .askPanes true,
    .answer "tabs 1", .answer "panes 1", .answer "tabs 2", .answer "panes 2"] ++ List.replicate 10 .reader

theorem replaced_query_misattributed :
    ∃ session, Transition.run step (initial "c1") replacedPoll = some session ∧
      session.reader.fulfilled =
        [{ query := { seq := 1, reply := 2, tabs := some "tabs 1" }, tabs := "tabs 1", panes := "panes 1" }] ∧
      (tabsOf 2, "tabs 2") ∈ session.answers ∧ ¬ WellAttributed session := by
  refine ⟨_, rfl, by decide, by decide, fun attributed => ?_⟩
  have misled := (attributed _ List.mem_cons_self "tabs 2").1.mp (by decide)
  exact absurd misled (by decide)

end Muxrd.Attribution
