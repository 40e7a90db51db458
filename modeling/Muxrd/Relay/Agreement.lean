import Muxrd.Multiplexer.Ephemeral
import Muxrd.Relay.Attribution

set_option autoImplicit false

namespace Muxrd.Agreement

open Actions Attribution Ephemeral Query RenderLoop Zellij

/-- One in-band relay on a session that changes. What the session was at each moment is its revision. -/
structure World where
  session : Query.Session
  revision : Nat
  -- The revisions at which the queries were handed off, the newest first.
  asked : List (Nat × Nat)
  -- And those at which the server answered, the oldest first.
  answered : List (Ask × Nat)

def World.start (connectionId : String) : World :=
  { session := Query.initial connectionId, revision := 0, asked := [], answered := [] }

inductive Event
  | changes
  | relay (event : Query.Event)
  deriving DecidableEq, Repr

section Step

variable (shows : Half -> Nat -> String)

def truthful (world : World) : Query.Event -> Bool
  | .answer text => world.session.server.head?.all fun ask => text = shows ask.half world.revision
  | _ => true

def asks : Query.Event -> List Nat
  | .query reply => [reply]
  | _ => []

def given (session : Query.Session) : Query.Event -> List (Ask × String)
  | .answer text => session.server.head?.toList.map (·, text)
  | _ => []

def step (world : World) : Event -> Option World
  | .changes => some { world with revision := world.revision + 1 }
  | .relay event =>
    if truthful shows world event then
      match Query.step world.session event with
      | none => none
      | some session =>
        some { world with
          session
          asked := (asks event).map (·, world.revision) ++ world.asked
          answered := world.answered ++ (given world.session event).map fun entry => (entry.1, world.revision) }
    else none

def CleanPickUp (world : World) : Event -> Prop
  | .changes => True
  | .relay event => Query.CleanPickUp world.session event

instance (world : World) (event : Event) : Decidable (CleanPickUp world event) :=
  match event with
  | .changes => .isTrue trivial
  | .relay event => inferInstanceAs (Decidable (Query.CleanPickUp world.session event))

end Step

/-- The backend's own layout query on the same session: the panes are asked for once the tabs are there. -/
structure Poll where
  revision : Nat
  tabs : List ServerToClientMsg
  panes : Option (List ServerToClientMsg)

namespace Poll

def start (revision : Nat) : Poll :=
  { revision, tabs := [], panes := none }

inductive Event
  | changes
  | message (msg : ServerToClientMsg)
  | opens
  deriving DecidableEq, Repr

variable (shows : Half -> Nat -> String) (poll : Poll)

def half : Half :=
  if poll.panes.isSome then .panes else .tabs

def truthful : ServerToClientMsg -> Bool
  | .log lines => "\n".intercalate lines = shows poll.half poll.revision
  | _ => true

def step : Event -> Option Poll
  | .changes => some { poll with revision := poll.revision + 1 }
  | .message msg =>
    if poll.truthful shows msg then
      match poll.panes with
      | none => some { poll with tabs := poll.tabs ++ [msg] }
      | some panes => some { poll with panes := some (panes ++ [msg]) }
    else none
  | .opens => if poll.panes = none then some { poll with panes := some [] } else none

def result (decoders : Decoders) (tabsDeadline panesDeadline : Option Nat) : Except Failure LayoutSnapshot :=
  queryLayout decoders (streaming poll.tabs tabsDeadline) (streaming (poll.panes.getD []) panesDeadline)

end Poll

section Moves

structure Moves (session after : Query.Session) (event : Query.Event) : Prop where
  answers : after.answers = session.answers ++ given session event
  used : after.used = asks event ++ session.used
  new : ∀ reply ∈ asks event, reply ∉ session.used

variable {session after : Query.Session} {event : Query.Event}

theorem Moves.quiet (captured : after.captured = session.captured) (streamed : after.streamed = session.streamed)
    (used : after.used = session.used) (gives : given session event = []) (silent : asks event = []) :
    Moves session after event := by
  refine ⟨?_, ?_, ?_⟩
  · simp [Query.Session.answers, captured, streamed, gives]
  · rw [used, silent, List.nil_append]
  · simp [silent]

theorem moves_of_step (taken : Query.step session event = some after) : Moves session after event := by
  cases event with
  | answer text =>
    simp only [Query.step] at taken
    split at taken
    next ask rest waiting =>
      split_ifs at taken
      rw [← Option.some.inj taken]
      exact ⟨by simp [Query.Session.answers, given, waiting], rfl, by simp [asks]⟩
    · cases taken
  | reader =>
    simp only [Query.step] at taken
    split at taken
    · cases taken
    · split at taken
      next streamed =>
        rw [← Option.some.inj taken]
        exact ⟨by simp [Query.Session.answers, given, streamed], rfl, by simp [asks]⟩
      · rw [← Option.some.inj taken]
        exact .quiet rfl rfl rfl rfl rfl
  | query reply =>
    simp only [Query.step] at taken
    split_ifs at taken with idle
    · rw [← Option.some.inj taken]
      exact ⟨by simp [Query.Session.answers, given], rfl, by simp [asks, idle.2]⟩
    · rw [← Option.some.inj taken]
      exact ⟨by simp [Query.Session.answers, given], rfl, by simp [asks, idle.2]⟩
  | askTabs ok | askPanes ok =>
    simp only [Query.step] at taken
    split at taken
    · split_ifs at taken
      · rw [← Option.some.inj taken]
        exact .quiet rfl rfl rfl rfl rfl
      · rw [← Option.some.inj taken]
        exact .quiet rfl rfl rfl rfl rfl
    · cases taken
  | message msg =>
    simp only [Query.step] at taken
    split_ifs at taken
    rw [← Option.some.inj taken]
    exact .quiet rfl rfl rfl rfl rfl
  | streamEnds | closeReply reply | stop | clientReads | clientLeaves =>
    simp only [Query.step] at taken
    rw [← Option.some.inj taken]
    exact .quiet rfl rfl rfl rfl rfl

end Moves

section Dated

variable {shows : Half -> Nat -> String} {world next : World} {event : Event}

variable (shows) in
structure Dated (world : World) : Prop where
  attributed : Attributed world.session
  used : world.session.used = world.asked.map (·.1)
  texts : world.session.answers = world.answered.map fun entry => (entry.1, shows entry.1.half entry.2)
  sorted : world.answered.Pairwise fun earlier later => earlier.2 ≤ later.2
  recent : ∀ entry ∈ world.answered, entry.2 ≤ world.revision
  since : ∀ entry ∈ world.answered, ∀ asked ∈ world.asked, asked.1 = entry.1.reply -> asked.2 ≤ entry.2
  past : ∀ asked ∈ world.asked, asked.2 ≤ world.revision

theorem Dated.sent_of_answered (dated : Dated shows world) : ∃ waiting,
    world.session.sent = world.answered.map (·.1) ++ waiting := by
  refine ⟨world.session.server, ?_⟩
  have asked := congrArg (List.map (·.1)) dated.texts
  simp only [List.map_map, Function.comp_def] at asked
  rw [← asked]
  simp [Query.Session.sent, Query.Session.outstanding, Query.Session.answers]

theorem Dated.used_of_answered (dated : Dated shows world) {entry : Ask × Nat} (member : entry ∈ world.answered) :
    entry.1.reply ∈ world.session.used := by
  obtain ⟨waiting, sent⟩ := dated.sent_of_answered
  apply dated.attributed.known
  rw [sent]
  exact List.mem_append_left _ (List.mem_map_of_mem member)

theorem dated_start (connectionId : String) : Dated shows (World.start connectionId) := by
  have fresh := attributed_initial connectionId
  constructor <;> simp_all [World.start, Query.initial, Query.Session.answers]

theorem dated_step (dated : Dated shows world) (clean : CleanPickUp world event)
    (taken : step shows world event = some next) : Dated shows next := by
  cases event with
  | changes =>
    simp only [step] at taken
    rw [← Option.some.inj taken]
    exact { dated with
      recent := fun entry member => Nat.le_succ_of_le (dated.recent entry member)
      past := fun asked member => Nat.le_succ_of_le (dated.past asked member) }
  | relay event =>
    simp only [step] at taken
    split_ifs at taken with truthful
    split at taken
    · cases taken
    next after relayed =>
      have moves := moves_of_step relayed
      have shown : given world.session event =
          ((given world.session event).map fun entry => (entry.1, world.revision)).map
            fun entry => (entry.1, shows entry.1.half entry.2) := by
        cases event with
        | answer text =>
          simp only [Agreement.truthful] at truthful
          cases waiting : world.session.server.head? with
          | none => simp [given, waiting]
          | some ask =>
            rw [waiting] at truthful
            simp only [Option.all_some, decide_eq_true_eq] at truthful
            simp [given, waiting, truthful]
        | _ => rfl
      rw [← Option.some.inj taken]
      refine { attributed := attributed_step _ _ _ dated.attributed clean relayed, used := ?_, texts := ?_,
               sorted := ?_, recent := ?_, since := ?_, past := ?_ }
      · simp [moves.used, dated.used, Function.comp_def]
      · rw [moves.answers, dated.texts, List.map_append, ← shown]
      · refine List.pairwise_append.mpr ⟨dated.sorted, ?_, ?_⟩
        · exact List.pairwise_map.mpr (List.pairwise_of_forall fun _ _ => le_rfl)
        · intro earlier old later new
          obtain ⟨entry, _, rfl⟩ := List.mem_map.mp new
          exact dated.recent earlier old
      · intro entry member
        rcases List.mem_append.mp member with old | new
        · exact dated.recent entry old
        · obtain ⟨_, _, rfl⟩ := List.mem_map.mp new
          exact le_rfl
      · intro entry member asked made same
        have earlier (made : asked ∈ world.asked) : asked.2 ≤ entry.2 := by
          rcases List.mem_append.mp member with old | new
          · exact dated.since entry old asked made same
          · obtain ⟨_, _, rfl⟩ := List.mem_map.mp new
            exact dated.past asked made
        rcases List.mem_append.mp made with new | old
        · -- Nothing has been answered to a query that is only now handed off.
          obtain ⟨reply, asked, rfl⟩ := List.mem_map.mp new
          rcases List.mem_append.mp member with before | now
          · have used := dated.used_of_answered before
            rw [← same] at used
            exact absurd used (moves.new reply asked)
          · obtain ⟨_, _, rfl⟩ := List.mem_map.mp now
            exact le_rfl
        · exact earlier old
      · intro asked made
        rcases List.mem_append.mp made with new | old
        · obtain ⟨_, _, rfl⟩ := List.mem_map.mp new
          exact le_rfl
        · exact dated.past asked old

theorem Dated.fulfilled (dated : Dated shows world) {fulfilment : Fulfilment}
    (member : fulfilment ∈ world.session.reader.fulfilled) :
    ∃ asked tabs panes, (fulfilment.query.reply, asked) ∈ world.asked ∧ asked ≤ tabs ∧ tabs ≤ panes ∧
      panes ≤ world.revision ∧ fulfilment.tabs = shows .tabs tabs ∧ fulfilment.panes = shows .panes panes := by
  have captured := (dated.attributed.fulfilled fulfilment member).2
  have answered : (panesOf fulfilment.query.reply, fulfilment.panes) ∈ world.session.answers :=
    List.mem_append_left _ captured
  rw [dated.texts, List.mem_map] at answered
  obtain ⟨⟨ask, panes⟩, found, same⟩ := answered
  obtain ⟨rfl, shown⟩ := Prod.mk.inj same
  obtain ⟨before, behind, parts⟩ := List.append_of_mem found
  -- The tabs were asked for before the panes, and answered before them.
  obtain ⟨waiting, sent⟩ := dated.sent_of_answered
  rw [parts, List.map_append, List.map_cons, List.append_assoc, List.cons_append] at sent
  have asked := dated.attributed.ordered _ _ _ sent
  obtain ⟨⟨ask, tabs⟩, earlier, sameAsk⟩ := List.mem_map.mp asked
  obtain rfl : ask = tabsOf fulfilment.query.reply := sameAsk
  have tabsFound : (tabsOf fulfilment.query.reply, tabs) ∈ world.answered := by
    rw [parts]
    exact List.mem_append_left _ earlier
  have sorted := dated.sorted
  rw [parts] at sorted
  have later : tabs ≤ panes := (List.pairwise_append.mp sorted).2.2 _ earlier _ List.mem_cons_self
  have tabsShown : (tabsOf fulfilment.query.reply, shows .tabs tabs) ∈ world.session.answers := by
    rw [dated.texts]
    exact List.mem_map.mpr ⟨_, tabsFound, rfl⟩
  have sole := dated.attributed.wellAttributed fulfilment member (shows .tabs tabs)
  have used := dated.used_of_answered found
  rw [dated.used, List.mem_map] at used
  obtain ⟨⟨reply, since⟩, made, sameReply⟩ := used
  obtain rfl : reply = fulfilment.query.reply := sameReply
  exact ⟨since, tabs, panes, made, dated.since _ tabsFound _ made rfl, later, dated.recent _ found,
    (sole.1.mp tabsShown).symm, shown.symm⟩

end Dated

section Polls

variable {shows : Half -> Nat -> String} {decoders : Decoders} {poll next : Poll} {asked : Nat}

theorem queryJson_ok_of_log {text : String} (nonempty : text ≠ "") :
    queryJson (streaming [.log [text]] none) = .ok text := by
  have alone : "\n".intercalate [text] = text := rfl
  exact queryJson_ok.mpr ⟨nonempty, [text], rfl, ⟨0, by decide, rfl, by simp⟩, alone.symm⟩

theorem run_changes (poll : Poll) (count : Nat) :
    Transition.run (Poll.step shows) poll (List.replicate count .changes) =
      some { poll with revision := poll.revision + count } := by
  induction count generalizing poll with
  | zero => rfl
  | succ count ih =>
    rw [List.replicate_succ, Transition.run_cons]
    refine ⟨_, rfl, ?_⟩
    rw [ih]
    simp [Nat.add_assoc, Nat.add_comm 1 count]

theorem poll_of_revisions {tabs panes now : Nat} {snapshot : LayoutSnapshot} (since : asked ≤ tabs)
    (later : tabs ≤ panes) (upTo : panes ≤ now) (tabsSome : shows .tabs tabs ≠ "") (panesSome : shows .panes panes ≠ "")
    (parsed : parseZellijLayout decoders (shows .tabs tabs) (shows .panes panes) = .ok snapshot) :
    ∃ events poll, Transition.run (Poll.step shows) (Poll.start asked) events = some poll ∧ poll.revision = now ∧
      poll.result decoders none none = .ok snapshot := by
  have tabsSeen : Transition.run (Poll.step shows) { revision := tabs, tabs := [], panes := none }
      [.message (.log [shows .tabs tabs]), .opens] =
        some { revision := tabs, tabs := [.log [shows .tabs tabs]], panes := some [] } := by
    simp [Transition.run, Poll.step, Poll.truthful, Poll.half, String.intercalate_singleton]
  have panesSeen : Transition.run (Poll.step shows)
      { revision := panes, tabs := [.log [shows .tabs tabs]], panes := some [] }
      [.message (.log [shows .panes panes])] =
        some { revision := panes, tabs := [.log [shows .tabs tabs]], panes := some [.log [shows .panes panes]] } := by
    simp [Transition.run, Poll.step, Poll.truthful, Poll.half, String.intercalate_singleton]
  have waits := @run_changes shows (Poll.start asked) (tabs - asked)
  have between := @run_changes shows
    { revision := tabs, tabs := [.log [shows .tabs tabs]], panes := some [] } (panes - tabs)
  have after := @run_changes shows
    { revision := panes, tabs := [.log [shows .tabs tabs]], panes := some [.log [shows .panes panes]] } (now - panes)
  simp only [Poll.start, Nat.add_sub_of_le since, Nat.add_sub_of_le later, Nat.add_sub_of_le upTo] at waits between after
  refine ⟨_, _, Transition.run_trans waits (Transition.run_trans tabsSeen
    (Transition.run_trans between (Transition.run_trans panesSeen after))), rfl, ?_⟩
  simp only [Poll.result, queryLayout, queryListTabsJson, queryListPanesJson, Option.getD_some,
    queryJson_ok_of_log tabsSome, queryJson_ok_of_log panesSome, parsed]
  rfl

variable (shows asked) in
structure Shown (poll : Poll) : Prop where
  begun : asked ≤ poll.revision
  tabs : ∀ lines, .log lines ∈ poll.tabs -> ∃ seen, asked ≤ seen ∧ seen ≤ poll.revision ∧
    "\n".intercalate lines = shows .tabs seen
  panes : ∀ lines, .log lines ∈ poll.panes.getD [] -> ∃ seen, asked ≤ seen ∧ seen ≤ poll.revision ∧
    "\n".intercalate lines = shows .panes seen

theorem shown_step (poll : Poll) (event : Poll.Event) (next : Poll) (shown : Shown shows asked poll)
    (taken : Poll.step shows poll event = some next) : Shown shows asked next := by
  cases event with
  | changes =>
    simp only [Poll.step] at taken
    rw [← Option.some.inj taken]
    refine ⟨Nat.le_succ_of_le shown.begun, fun lines member => ?_, fun lines member => ?_⟩
    · obtain ⟨seen, since, upTo, same⟩ := shown.tabs lines member
      exact ⟨seen, since, Nat.le_succ_of_le upTo, same⟩
    · obtain ⟨seen, since, upTo, same⟩ := shown.panes lines member
      exact ⟨seen, since, Nat.le_succ_of_le upTo, same⟩
  | opens =>
    simp only [Poll.step] at taken
    split_ifs at taken
    rw [← Option.some.inj taken]
    exact ⟨shown.begun, shown.tabs, by simp⟩
  | message msg =>
    simp only [Poll.step] at taken
    split_ifs at taken with truthful
    have now (lines : List String) (log : msg = .log lines) :
        "\n".intercalate lines = shows poll.half poll.revision := by
      rw [log] at truthful
      simpa [Poll.truthful] using truthful
    cases opened : poll.panes with
    | none =>
      simp only [opened] at taken
      have half : poll.half = .tabs := by simp [Poll.half, opened]
      rw [← Option.some.inj taken]
      refine ⟨shown.begun, fun lines member => ?_, by simp⟩
      rcases List.mem_append.mp member with old | new
      · exact shown.tabs lines old
      · exact ⟨poll.revision, shown.begun, le_rfl, half ▸ now lines (List.mem_singleton.mp new).symm⟩
    | some panes =>
      simp only [opened] at taken
      have half : poll.half = .panes := by simp [Poll.half, opened]
      rw [← Option.some.inj taken]
      refine ⟨shown.begun, shown.tabs, fun lines member => ?_⟩
      rcases List.mem_append.mp member with old | new
      · exact shown.panes lines (by rw [opened]; exact old)
      · exact ⟨poll.revision, shown.begun, le_rfl, half ▸ now lines (List.mem_singleton.mp new).symm⟩

theorem json_of_logs {stream : List ServerToClientMsg} {deadline : Option Nat} {json : String}
    (queried : queryJson (streaming stream deadline) = .ok json) :
    ∃ lines, .log lines ∈ stream ∧ json = "\n".intercalate lines := by
  obtain ⟨_, lines, _, logs, same⟩ := queryJson_ok.mp queried
  obtain ⟨index, _, read, _⟩ := logs.first
  exact ⟨lines, mem_of_received read, same⟩

theorem result_ok {tabsDeadline panesDeadline : Option Nat} {snapshot : LayoutSnapshot} (shown : Shown shows asked poll)
    (result : poll.result decoders tabsDeadline panesDeadline = .ok snapshot) :
    ∃ tabs panes, asked ≤ tabs ∧ tabs ≤ poll.revision ∧ asked ≤ panes ∧ panes ≤ poll.revision ∧
      parseZellijLayout decoders (shows .tabs tabs) (shows .panes panes) = .ok snapshot := by
  unfold Poll.result queryLayout queryListTabsJson queryListPanesJson at result
  cases tabsQueried : queryJson (streaming poll.tabs tabsDeadline) with
  | error failure => simp [tabsQueried] at result
  | ok tabsJson =>
    cases panesQueried : queryJson (streaming (poll.panes.getD []) panesDeadline) with
    | error failure => simp [tabsQueried, panesQueried] at result
    | ok panesJson =>
      obtain ⟨tabsLines, tabsLogged, rfl⟩ := json_of_logs tabsQueried
      obtain ⟨panesLines, panesLogged, rfl⟩ := json_of_logs panesQueried
      obtain ⟨tabs, tabsSince, tabsUpTo, tabsSame⟩ := shown.tabs tabsLines tabsLogged
      obtain ⟨panes, panesSince, panesUpTo, panesSame⟩ := shown.panes panesLines panesLogged
      refine ⟨tabs, panes, tabsSince, tabsUpTo, panesSince, panesUpTo, ?_⟩
      simp only [tabsQueried, panesQueried, tabsSame, panesSame] at result
      cases parsed : parseZellijLayout decoders (shows .tabs tabs) (shows .panes panes) with
      | error message => simp [parsed, Except.mapError] at result
      | ok other => simpa [parsed, Except.mapError] using result

end Polls

section Agree

variable {shows : Half -> Nat -> String} {decoders : Decoders}

theorem layoutReply_ok {fulfilment : Fulfilment} {snapshot : LayoutSnapshot}
    (replied : layoutReply (parseZellijLayout decoders) fulfilment = .ok snapshot) :
    fulfilment.tabs ≠ "" ∧ fulfilment.panes ≠ "" ∧
      parseZellijLayout decoders fulfilment.tabs fulfilment.panes = .ok snapshot := by
  unfold layoutReply at replied
  split_ifs at replied with tabsEmpty panesEmpty
  exact ⟨fun nothing => tabsEmpty (String.isEmpty_iff.mpr nothing),
    fun nothing => panesEmpty (String.isEmpty_iff.mpr nothing),
    replied⟩

end Agree

section Changed

def reloaded : Half -> Nat -> String
  | .tabs, 0 => "[]"
  | .tabs, _ => "[tab 0]"
  | .panes, _ => "[pane 1]"

def reading : Decoders :=
  { tabs := fun text => .ok (if text = "[]" then [] else [tab 0])
    panes := fun _ => .ok [pane 1 0 0] }

-- The session gets its first tab after the query was handed off, and before the server answers it.
def changedUnderway : List Event :=
  [.relay (.query 1), .relay (.askTabs true), .relay (.askPanes true), .changes, .relay (.answer "[tab 0]"),
    .relay (.answer "[pane 1]")] ++ List.replicate 13 (.relay .reader)

def firstTab : Fulfilment :=
  { query := { seq := 0, reply := 1, tabs := some "[tab 0]" }, tabs := "[tab 0]", panes := "[pane 1]" }

end Changed

end Muxrd.Agreement
