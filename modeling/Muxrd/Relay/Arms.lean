import Muxrd.Relay.Answers

set_option autoImplicit false

namespace Muxrd.Arms

open Inbound

variable {Answer State World : Type}

inductive Stage
  -- The backend's call, or the floating query before it, has not come back yet.
  | taken
  -- With the result of the call, if one was made. The view state and the caller still have to be told.
  | called (query : FloatQuery) (result : Option (Except String Unit))
  deriving DecidableEq

structure Arm where
  ticket : Ticket
  cmd : RelayControl
  stage : Stage
  deriving DecidableEq

section Parts

variable (mux : MuxSender Answer State World)

-- An arm up to the end of its backend call.
def perform (ticket : Ticket) (cmd : RelayControl) (query : FloatQuery) (answer : Answer)
    (relay : Relay State World) : Option (Except String Unit) × Relay State World :=
  match relay.readOnly, asks query cmd with
  | false, some muxCall =>
    let (result, after) := relay.call mux (.command ticket) answer muxCall
    (some result, after)
  | _, _ =>
    match cmd with
    | .queryLayout _ => (none, onControl mux ticket cmd query answer relay)
    | _ => (none, relay)

-- What is left of it: the view state, and the reply of a SwitchSpace.
def note (cmd : RelayControl) (query : FloatQuery) (result : Option (Except String Unit))
    (relay : Relay State World) : Relay State World :=
  match result with
  | some (.ok _) => relay.updateView (records query cmd)
  | _ => relay

def spaceAnswer (result : Option (Except String Unit)) : Except String Unit :=
  result.getD (.error "read-only token: SwitchSpace is not allowed")

def record (cmd : RelayControl) (query : FloatQuery) (result : Option (Except String Unit))
    (relay : Relay State World) : Relay State World :=
  match cmd with
  | .switchSpace _ reply => (note cmd query result relay).answerReply reply (.space (spaceAnswer result))
  | _ => note cmd query result relay

theorem onControl_eq (ticket : Ticket) (cmd : RelayControl) (query : FloatQuery) (answer : Answer)
    (relay : Relay State World) :
    onControl mux ticket cmd query answer relay =
      record cmd query (perform mux ticket cmd query answer relay).1
        (perform mux ticket cmd query answer relay).2 := by
  cases gate : relay.readOnly with
  | true =>
    cases cmd <;> simp [perform, record, note, spaceAnswer, gate, asks, onControl, onSwitchTab, onFocusPane, onSwitchSpace,
      onToggleFullscreen]
  | false =>
    cases cmd with
    | switchTab tabId =>
      simp only [perform, record, note, gate, asks, onControl, onSwitchTab, Bool.false_eq_true, if_false]
      rcases relay.call mux (.command ticket) answer (.goToTab tabId) with ⟨_ | _, after⟩ <;> rfl
    | focusPane pane =>
      simp only [perform, record, note, gate, asks, onControl, onFocusPane, Bool.false_eq_true, if_false]
      rcases relay.call mux (.command ticket) answer (.focusPane pane) with ⟨_ | _, after⟩ <;> rfl
    | switchSpace workspaceId reply =>
      simp only [perform, record, note, spaceAnswer, gate, asks, onControl, onSwitchSpace, Bool.false_eq_true, if_false]
      rcases relay.call mux (.command ticket) answer (.switchSpace workspaceId) with ⟨_ | _, after⟩ <;> rfl
    | toggleFullscreen pane hint =>
      simp only [perform, record, note, gate, asks, onControl, onToggleFullscreen, Bool.false_eq_true, if_false]
      cases resolved : resolveHint pane hint query with
      | none => rfl
      | some hinted =>
        rcases called : relay.call mux (.command ticket) answer (.toggleFullscreen pane hinted) with ⟨_ | _, after⟩
        · simp [called]
        · simp [called, records_toggle resolved]
    | queryLayout reply => simp [perform, record, note, gate, asks]

end Parts

section Loop

structure Loop (State World : Type) where
  relay : Relay State World
  arm : Option Arm

inductive Event (Answer : Type)
  | takes (ticket : Ticket) (cmd : RelayControl)
  | performs (query : FloatQuery) (answer : Answer)
  | records
  | other (event : Inbound.Event Answer)

-- The loop itself does nothing else while it is at work on an arm.
def runsBeside (arm : Option Arm) : Inbound.Event Answer -> Bool
  | .command _ _ _ _ => false
  | .layoutTask _ _ | .renderThreadEnds | .sibling _ _ | .elsewhere _ => true
  | _ => arm.isNone

def step (mux : MuxSender Answer State World) (loop : Loop State World) : Event Answer -> Option (Loop State World)
  | .takes ticket cmd =>
    if loop.relay.phase = .running ∧ loop.arm = none then some { loop with arm := some ⟨ticket, cmd, .taken⟩ }
    else none
  | .performs query answer =>
    match loop.arm with
    | some ⟨ticket, cmd, .taken⟩ =>
      let (result, relay) := perform mux ticket cmd query answer loop.relay
      some { relay, arm := some ⟨ticket, cmd, .called query result⟩ }
    | _ => none
  | .records =>
    match loop.arm with
    | some ⟨_, cmd, .called query result⟩ => some { relay := record cmd query result loop.relay, arm := none }
    | _ => none
  | .other event =>
    if runsBeside loop.arm event then (Inbound.step mux loop.relay event).map fun relay => { loop with relay }
    else none

def Arm.unrecorded (arm : Arm) : Bool :=
  match arm.stage with
  | .called _ (some (.ok _)) => true
  | _ => false

def Loop.between (loop : Loop State World) : Bool :=
  loop.arm.any Arm.unrecorded

def recordsSpace (arm : Option Arm) (last : Option String) : Event Answer -> Option String
  | .records =>
    match arm with
    | some ⟨_, .switchSpace spaceId _, .called _ (some (.ok _))⟩ => some spaceId
    | _ => last
  | .other (.initialised _) | .other .deregister => none
  | _ => last

def recordedSpace (mux : MuxSender Answer State World) :
    Loop State World -> Option String -> List (Event Answer) -> Option String
  | _, last, [] => last
  | loop, last, event :: rest =>
    match step mux loop event with
    | some next => recordedSpace mux next (recordsSpace loop.arm last event) rest
    | none => last

variable {mux : MuxSender Answer State World}

/-- Taken in one go, the steps of an arm are the loop's turn on its command. -/
theorem run_turn {ticket : Ticket} {cmd : RelayControl} {query : FloatQuery} {answer : Answer}
    {relay next : Relay State World} :
    Transition.run (step mux) { relay, arm := none } [.takes ticket cmd, .performs query answer, .records] =
        some { relay := next, arm := none } ↔
      Inbound.step mux relay (.command ticket cmd query answer) = some next := by
  by_cases running : relay.phase = .running
  · simp [Transition.run, step, Inbound.step, running, onControl_eq]
  · simp [Transition.run, step, Inbound.step, running]

theorem other_taken {loop next : Loop State World} {event : Inbound.Event Answer}
    (taken : step mux loop (.other event) = some next) :
    ∃ relay, runsBeside loop.arm event = true ∧ Inbound.step mux loop.relay event = some relay ∧
      next = { loop with relay } := by
  simp only [step] at taken
  split_ifs at taken with beside
  obtain ⟨relay, moved, rfl⟩ := Option.map_eq_some_iff.mp taken
  exact ⟨relay, beside, moved, rfl⟩

theorem performs_taken {loop next : Loop State World} {query : FloatQuery} {answer : Answer}
    (taken : step mux loop (.performs query answer) = some next) :
    ∃ ticket cmd, loop.arm = some ⟨ticket, cmd, .taken⟩ ∧
      next =
        { relay := (perform mux ticket cmd query answer loop.relay).2
          arm := some ⟨ticket, cmd, .called query (perform mux ticket cmd query answer loop.relay).1⟩ } := by
  simp only [step] at taken
  split at taken
  next ticket cmd busy => exact ⟨ticket, cmd, busy, (Option.some.inj taken).symm⟩
  · contradiction

theorem records_taken {loop next : Loop State World} (taken : step mux loop .records = some next) :
    ∃ ticket cmd query result, loop.arm = some ⟨ticket, cmd, .called query result⟩ ∧
      next = { relay := record cmd query result loop.relay, arm := none } := by
  simp only [step] at taken
  split at taken
  next ticket cmd query result busy => exact ⟨ticket, cmd, query, result, busy, (Option.some.inj taken).symm⟩
  · contradiction

end Loop

section Specs

variable {mux : MuxSender Answer State World} {ticket : Ticket} {cmd : RelayControl} {query : FloatQuery}
  {answer : Answer} {relay : Relay State World} {result : Option (Except String Unit)}

structure Calls (relay next : Relay State World) : Prop extends Continues relay next where
  viewState : next.viewState = relay.viewState
  answers : ∀ id, next.answers id = relay.answers id

theorem perform_calls (mux : MuxSender Answer State World) (ticket : Ticket) (cmd : RelayControl) (query : FloatQuery)
    (answer : Answer) (relay : Relay State World) : Calls relay (perform mux ticket cmd query answer relay).2 := by
  have idle : Calls relay relay := { Continues.refl relay with viewState := rfl, answers := fun _ => rfl }
  unfold perform
  split
  next muxCall _ _ =>
    rcases called : relay.call mux (.command ticket) answer muxCall with ⟨result, after⟩
    exact
      { Continues.call called with
        viewState := (Relay.call_eq relay called).2.2.2.1
        answers := answers_of_replies (call_replies called) }
  · split
    next reply _ =>
      refine { onControl_continues mux ticket (.queryLayout reply) query answer relay with viewState := ?_, answers := ?_ }
      · simp only [onControl, handleQueryLayout]
        split_ifs <;> rfl
      · intro id
        rw [onControl_answers]
        exact List.append_nil _
    · exact idle

theorem perform_asked (mux : MuxSender Answer State World) (ticket : Ticket) (answer : Answer) {muxCall : MuxCall}
    (writable : relay.readOnly = false) (asked : asks query cmd = some muxCall) :
    perform mux ticket cmd query answer relay =
      (some (mux.call answer muxCall relay.sender relay.world).1,
        (relay.call mux (.command ticket) answer muxCall).2) := by
  simp only [perform, writable, asked]
  rfl

theorem perform_idle (mux : MuxSender Answer State World) (ticket : Ticket) (answer : Answer)
    (sync : mux.hasSyncLayout = true) (idle : relay.readOnly = true ∨ asks query cmd = none) :
    (perform mux ticket cmd query answer relay).1 = none ∧
      (perform mux ticket cmd query answer relay).2.sender = relay.sender ∧
      (perform mux ticket cmd query answer relay).2.world = relay.world := by
  have silent : ∀ muxCall, ¬ (relay.readOnly = false ∧ asks query cmd = some muxCall) := by
    rintro muxCall ⟨writable, asked⟩
    rcases idle with readOnly | quiet
    · rw [readOnly] at writable
      contradiction
    · rw [quiet] at asked
      contradiction
  unfold perform
  split
  next muxCall writable asked => exact absurd ⟨writable, asked⟩ (silent muxCall)
  · split
    · simp [onControl, handleQueryLayout, sync]
    · exact ⟨rfl, rfl, rfl⟩

def noted (cmd : RelayControl) (query : FloatQuery) (result : Option (Except String Unit))
    (entry : Option ViewStateEntry) : Option ViewStateEntry :=
  match result with
  | some result => viewAfter (records query cmd) result entry
  | none => entry

structure Notes (cmd : RelayControl) (query : FloatQuery) (result : Option (Except String Unit))
    (relay next : Relay State World) : Prop extends Continues relay next where
  sender : next.sender = relay.sender
  world : next.world = relay.world
  pool : next.pool = relay.pool
  calls : next.calls = relay.calls
  view : next.viewState.lookup relay.connectionId = noted cmd query result (relay.viewState.lookup relay.connectionId)

theorem note_notes (cmd : RelayControl) (query : FloatQuery) (result : Option (Except String Unit))
    (relay : Relay State World) : Notes cmd query result relay (note cmd query result relay) := by
  have idle : Continues relay relay := Continues.refl relay
  rcases result with _ | _ | done
  · exact { idle with sender := rfl, world := rfl, pool := rfl, calls := rfl, view := rfl }
  · exact { idle with sender := rfl, world := rfl, pool := rfl, calls := rfl, view := rfl }
  · exact
      { idle.updateView (records query cmd) with
        sender := updateView_sender _ relay
        world := relay.updateView_world _
        pool := relay.updateView_pool _
        calls := updateView_calls _ relay
        view := lookup_updateView_own _ relay }

theorem record_notes (cmd : RelayControl) (query : FloatQuery) (result : Option (Except String Unit))
    (relay : Relay State World) : Notes cmd query result relay (record cmd query result relay) := by
  have notes := note_notes cmd query result relay
  cases cmd with
  | switchSpace workspaceId reply => exact { notes with }
  | _ => exact notes

def Loop.shown (loop : Loop State World) : Option ViewStateEntry :=
  loop.relay.viewState.lookup loop.relay.connectionId

def Loop.settled (loop : Loop State World) : Option ViewStateEntry :=
  match loop.arm with
  | some ⟨_, cmd, .called query result⟩ => noted cmd query result loop.shown
  | _ => loop.shown

theorem shown_of_task {loop : Loop State World} {relay : Relay State World} (same : relay.task = loop.relay.task)
    (arm : Option Arm) :
    ({ relay, arm } : Loop State World).shown = relay.viewState.lookup loop.relay.connectionId := by
  have named : relay.connectionId = loop.relay.connectionId := congrArg Task.connectionId same
  change relay.viewState.lookup relay.connectionId = _
  rw [named]

theorem settled_of_idle {loop : Loop State World} (idle : loop.arm = none) : loop.settled = loop.shown := by
  simp only [Loop.settled, idle]

theorem settled_of_recorded {loop : Loop State World} (recorded : loop.between = false) :
    loop.settled = loop.shown := by
  obtain ⟨relay, arm⟩ := loop
  match arm with
  | none => rfl
  | some ⟨_, _, .taken⟩ => rfl
  | some ⟨_, _, .called _ none⟩ => rfl
  | some ⟨_, _, .called _ (some (.error _))⟩ => rfl
  | some ⟨_, _, .called _ (some (.ok _))⟩ => simp [Loop.between, Arm.unrecorded] at recorded

theorem turn_continues {loop next : Loop State World} {event : Event Answer}
    (own : ∀ beside, event ≠ .other beside) (taken : step mux loop event = some next) :
    Continues loop.relay next.relay := by
  cases event with
  | takes ticket cmd =>
    obtain ⟨_, same⟩ := Option.ite_none_right_eq_some.mp taken
    rw [← Option.some.inj same]
    exact Continues.refl loop.relay
  | performs query answer =>
    obtain ⟨ticket, cmd, _, rfl⟩ := performs_taken taken
    exact (perform_calls mux ticket cmd query answer loop.relay).toContinues
  | records =>
    obtain ⟨ticket, cmd, query, result, _, rfl⟩ := records_taken taken
    exact (record_notes cmd query result loop.relay).toContinues
  | other beside => exact absurd rfl (own beside)

theorem step_running {relay next : Relay State World} {event : Inbound.Event Answer}
    (taken : Inbound.step mux relay event = some next) (running : next.phase = .running) :
    relay.phase = .running ∨ ∃ layout, event = .initialised layout := by
  cases event with
  | initialised layout => exact .inr ⟨layout, rfl⟩
  | command ticket cmd query answer =>
    simp only [Inbound.step] at taken
    split_ifs at taken with before
    exact .inl before
  | frame frame answer =>
    simp only [Inbound.step] at taken
    split_ifs at taken with before
    exact .inl before
  | recheck valid =>
    simp only [Inbound.step] at taken
    split_ifs at taken with before
    · exact .inl before
    · exact .inl before
  | streamError | streamEnd | deregister | cancelled | dropGuard =>
    simp only [Inbound.step] at taken
    split_ifs at taken
    rw [← Option.some.inj taken] at running
    simp [dropGuard] at running
  | sibling key entry =>
    simp only [Inbound.step] at taken
    split_ifs at taken
    rw [← Option.some.inj taken] at running
    exact .inl running
  | layoutTask index answer =>
    simp only [Inbound.step] at taken
    split at taken
    · rw [← Option.some.inj taken] at running
      exact .inl running
    · contradiction
  | renderThreadEnds | elsewhere answer =>
    rw [← Option.some.inj taken] at running
    exact .inl running

theorem beside_busy {loop : Loop State World} {next : Relay State World} {event : Inbound.Event Answer}
    (busy : loop.arm.isSome = true) (beside : runsBeside loop.arm event = true)
    (taken : Inbound.step mux loop.relay event = some next) :
    next.phase = loop.relay.phase ∧ entryAfter mux loop.relay event = loop.shown := by
  have away : loop.arm.isNone = false := by simpa using busy
  cases event with
  | command | initialised | cancelled | recheck | frame | streamError | streamEnd | deregister | dropGuard =>
    simp [runsBeside, away] at beside
  | sibling key entry =>
    simp only [Inbound.step] at taken
    split_ifs at taken
    exact ⟨Option.some.inj taken ▸ rfl, rfl⟩
  | layoutTask index answer =>
    simp only [Inbound.step] at taken
    split at taken
    · exact ⟨Option.some.inj taken ▸ rfl, rfl⟩
    · contradiction
  | renderThreadEnds | elsewhere answer => exact ⟨Option.some.inj taken ▸ rfl, rfl⟩

def sends (cmd : RelayControl) (result : Option (Except String Unit)) (id : Nat) : List (Except String Unit) :=
  match cmd with
  | .switchSpace _ reply => if reply = id then [spaceAnswer result] else []
  | _ => []

theorem record_answers (cmd : RelayControl) (query : FloatQuery) (result : Option (Except String Unit))
    (relay : Relay State World) (id : Nat) :
    (record cmd query result relay).answers id = relay.answers id ++ sends cmd result id := by
  have quiet : (note cmd query result relay).answers id = relay.answers id := by
    apply answers_of_replies
    rcases result with _ | _ | done
    · rfl
    · rfl
    · exact updateView_replies _ relay
  cases cmd with
  | switchSpace workspaceId reply => simp [record, sends, quiet, Reply.spaceResult]
  | _ => simpa [record, sends] using quiet

end Specs

end Muxrd.Arms
