import Muxrd.Relay.Attach
import Muxrd.Relay.Commands

set_option autoImplicit false

namespace Muxrd.Inbound

variable {Answer State World : Type}

-- What `attach_relay` registers for a layout query that succeeded, or failed.
def initialView (layout : Except String LayoutSnapshot) : RelayViewState :=
  match layout with
  | .ok snapshot => initRelayViewState snapshot
  | .error _ => {}

def entryAfter (mux : MuxSender Answer State World) (relay : Relay State World) :
    Event Answer -> Option ViewStateEntry
  | .initialised layout => some { session := relay.session, state := initialView layout }
  | .deregister => none
  | .command _ cmd query answer =>
    match relay.readOnly, asks query cmd with
    | false, some call =>
      viewAfter (records query cmd) (mux.call answer call relay.sender relay.world).1
        (relay.viewState.lookup relay.connectionId)
    | _, _ => relay.viewState.lookup relay.connectionId
  | _ => relay.viewState.lookup relay.connectionId

def senderAfter (mux : MuxSender Answer State World) (relay : Relay State World) : Event Answer -> State
  | .command _ cmd query answer =>
    match relay.readOnly, asks query cmd with
    | false, some call => (mux.call answer call relay.sender relay.world).2.1
    | _, _ => relay.sender
  | .frame frame answer =>
    match frameCall relay.readOnly frame with
    | some call => (mux.call answer call relay.sender relay.world).2.1
    | none => relay.sender
  | _ => relay.sender

section

variable {mux : MuxSender Answer State World} {relay next : Relay State World} {event : Event Answer}

theorem step_task (taken : step mux relay event = some next) : next.task = relay.task := by
  cases event with
  | sibling key entry =>
    simp only [step] at taken
    split_ifs at taken
    rw [← Option.some.inj taken]
    rfl
  | _ => exact (step_frame (by simp) taken).1

theorem step_connectionId (taken : step mux relay event = some next) :
    next.connectionId = relay.connectionId :=
  congrArg Task.connectionId (step_task taken)

theorem run_task {final : Relay State World} {events : List (Event Answer)}
    (ran : Transition.run (step mux) relay events = some final) : final.task = relay.task := by
  have preserved (current : Relay State World) (event : Event Answer) (next : Relay State World)
      (same : current.task = relay.task) (taken : step mux current event = some next) :
      next.task = relay.task := (step_task taken).trans same
  exact Transition.invariant_of_run preserved rfl ran

theorem step_entry (taken : step mux relay event = some next) :
    next.viewState.lookup relay.connectionId = entryAfter mux relay event := by
  cases event with
  | sibling key entry =>
    simp only [step] at taken
    split_ifs at taken with other
    rw [← Option.some.inj taken]
    cases entry with
    | none => exact AList.lookup_erase_ne (Ne.symm other)
    | some entry => exact AList.lookup_insert_ne (Ne.symm other)
  | command ticket cmd query answer =>
    simp only [step] at taken
    split_ifs at taken
    have spec := onControl_spec mux ticket cmd query answer relay
    rw [← Option.some.inj taken]
    cases gate : relay.readOnly with
    | true =>
      simp only [gate] at spec
      simpa only [entryAfter, gate] using spec.view
    | false =>
      cases asked : asks query cmd with
      | none =>
        simp only [gate, asked] at spec
        simpa only [entryAfter, gate, asked] using spec.view
      | some call =>
        simp only [gate, asked] at spec
        simpa only [entryAfter, gate, asked] using spec.view
  | frame frame answer =>
    simp only [step] at taken
    split_ifs at taken
    obtain ⟨sender, world, spec⟩ := onFrame_spec mux answer frame relay
    rw [← Option.some.inj taken, spec]
    rfl
  | recheck valid =>
    simp only [step] at taken
    split_ifs at taken
    · exact Option.some.inj taken ▸ rfl
    · exact Option.some.inj taken ▸ rfl
  | initialised layout =>
    simp only [step] at taken
    split_ifs at taken
    rw [← Option.some.inj taken]
    exact AList.lookup_insert _
  | deregister =>
    simp only [step] at taken
    split_ifs at taken
    rw [← Option.some.inj taken]
    exact AList.lookup_erase _ _
  | streamError | streamEnd | cancelled | dropGuard =>
    simp only [step] at taken
    split_ifs at taken
    exact Option.some.inj taken ▸ rfl
  | layoutTask index answer =>
    simp only [step] at taken
    split at taken
    · exact Option.some.inj taken ▸ rfl
    · contradiction
  | renderThreadEnds | elsewhere => exact Option.some.inj taken ▸ rfl

theorem started_step (started : relay.phase ≠ .initialising)
    (taken : step mux relay event = some next) : next.phase ≠ .initialising := by
  cases event with
  | initialised layout => simp [step, started] at taken
  | cancelled answer => simp [step, started] at taken
  | command ticket cmd query answer =>
    simp only [step] at taken
    split_ifs at taken
    rw [← Option.some.inj taken, (onControl_continues mux ticket cmd query answer relay).phase]
    exact started
  | frame frame answer =>
    simp only [step] at taken
    split_ifs at taken
    obtain ⟨sender, world, spec⟩ := onFrame_spec mux answer frame relay
    rw [← Option.some.inj taken, spec]
    exact started
  | recheck valid =>
    simp only [step] at taken
    split_ifs at taken
    · exact Option.some.inj taken ▸ started
    · simp [← Option.some.inj taken]
  | deregister | streamError | streamEnd | dropGuard =>
    simp only [step] at taken
    split_ifs at taken
    simp [← Option.some.inj taken, dropGuard]
  | sibling key entry =>
    simp only [step] at taken
    split_ifs at taken
    exact Option.some.inj taken ▸ started
  | layoutTask index answer =>
    simp only [step] at taken
    split at taken
    · exact Option.some.inj taken ▸ started
    · contradiction
  | renderThreadEnds | elsewhere => exact Option.some.inj taken ▸ started

theorem updateView_sender (update : RelayViewState -> RelayViewState) (relay : Relay State World) :
    (relay.updateView update).sender = relay.sender := by
  unfold Relay.updateView
  cases relay.viewState.lookup relay.connectionId <;> rfl

theorem onControl_sender (sync : mux.hasSyncLayout = true) (ticket : Ticket) (cmd : RelayControl)
    (query : FloatQuery) (answer : Answer) :
    (onControl mux ticket cmd query answer relay).sender =
      senderAfter mux relay (.command ticket cmd query answer) := by
  have called {muxCall : MuxCall} {result : Except String Unit} {after : Relay State World}
      (called : relay.call mux (.command ticket) answer muxCall = (result, after)) :
      after.sender = (mux.call answer muxCall relay.sender relay.world).2.1 := by
    rw [(Relay.call_eq relay called).1]
  cases gate : relay.readOnly with
  | true => cases cmd <;> simp [senderAfter, onControl, onSwitchTab, onFocusPane, onSwitchSpace,
      onToggleFullscreen, handleQueryLayout, Relay.answerReply, gate, sync]
  | false =>
    cases cmd with
    | switchTab tabId =>
      simp only [senderAfter, asks, onControl, onSwitchTab, gate, Bool.false_eq_true, if_false]
      split
      next after failed => exact called failed
      next after done => rw [updateView_sender, called done]
    | focusPane pane =>
      simp only [senderAfter, asks, onControl, onFocusPane, gate, Bool.false_eq_true, if_false]
      split
      next after failed => exact called failed
      next after done => rw [updateView_sender, called done]
    | switchSpace workspaceId reply =>
      simp only [senderAfter, asks, onControl, onSwitchSpace, gate, Bool.false_eq_true, if_false]
      split
      next message after failed =>
        have left := called failed
        exact left
      next after done => exact (updateView_sender _ _).trans (called done)
    | toggleFullscreen pane hint =>
      simp only [senderAfter, asks, onControl, onToggleFullscreen, gate, Bool.false_eq_true, if_false]
      cases resolveHint pane hint query with
      | none => rfl
      | some resolved =>
        simp only [Option.map_some]
        split
        next after failed => exact called failed
        next after done => rw [updateView_sender, called done]
    | queryLayout reply => simp [senderAfter, asks, onControl, handleQueryLayout, gate, sync]

theorem onFrame_sender (answer : Answer) (frame : ClientFrame) :
    (onFrame mux answer frame relay).sender = senderAfter mux relay (.frame frame answer) := by
  cases frame with
  | attach req => rfl
  | empty => rfl
  | resize rows cols =>
    by_cases gate : relay.readOnly = true
    · simp [onFrame, senderAfter, frameCall, gate]
    · simp [onFrame, senderAfter, frameCall, gate, Relay.call]
  | input bytes =>
    by_cases gate : relay.readOnly = true
    · simp [onFrame, senderAfter, frameCall, gate]
    · by_cases long : bytes.length > maxInputFrameBytes
      · simp [onFrame, senderAfter, frameCall, gate, long]
      · simp only [onFrame, senderAfter, frameCall, forwardInput, if_neg gate, if_neg long]
        cases RustStd.fromUtf8 bytes <;> rfl

theorem step_sender (sync : mux.hasSyncLayout = true) (taken : step mux relay event = some next) :
    next.sender = senderAfter mux relay event := by
  cases event with
  | command ticket cmd query answer =>
    simp only [step] at taken
    split_ifs at taken
    rw [← Option.some.inj taken]
    exact onControl_sender sync ticket cmd query answer
  | frame frame answer =>
    simp only [step] at taken
    split_ifs at taken
    rw [← Option.some.inj taken]
    exact onFrame_sender answer frame
  | recheck valid =>
    simp only [step] at taken
    split_ifs at taken
    · exact Option.some.inj taken ▸ rfl
    · exact Option.some.inj taken ▸ rfl
  | initialised | deregister | streamError | streamEnd | cancelled | dropGuard | sibling =>
    simp only [step] at taken
    split_ifs at taken
    exact Option.some.inj taken ▸ rfl
  | layoutTask index answer =>
    simp only [step] at taken
    split at taken
    · exact Option.some.inj taken ▸ rfl
    · contradiction
  | renderThreadEnds | elsewhere => exact Option.some.inj taken ▸ rfl

end

/-- A part of the view state, with what each command that is carried out makes of it. -/
structure Memory (Value : Type) where
  read : RelayViewState -> Option Value
  moved : MuxCall -> Option Value -> Option Value
  sound : ∀ {query : FloatQuery} {cmd : RelayControl} {call : MuxCall}, asks query cmd = some call ->
    ∀ state, read (records query cmd state) = moved call (read state)

namespace Memory

variable {Value : Type} (memory : Memory Value)

def entry (registered : Option ViewStateEntry) : Option Value :=
  registered.bind fun entry => memory.read entry.state

def kept (result : Except String Unit) (call : MuxCall) (last : Option Value) : Option Value :=
  match result with
  | .ok _ => memory.moved call last
  | .error _ => last

def after (mux : MuxSender Answer State World) (relay : Relay State World) (last : Option Value) :
    Event Answer -> Option Value
  | .initialised layout => memory.read (initialView layout)
  | .deregister => none
  | .command _ cmd query answer =>
    match relay.readOnly, asks query cmd with
    | false, some call => memory.kept (mux.call answer call relay.sender relay.world).1 call last
    | _, _ => last
  | _ => last

def last (mux : MuxSender Answer State World) : Relay State World -> Option Value -> List (Event Answer) -> Option Value
  | _, value, [] => value
  | relay, value, event :: rest =>
    match step mux relay event with
    | some next => last mux next (memory.after mux relay value event) rest
    | none => value

variable {memory} {mux : MuxSender Answer State World} {relay next final : Relay State World}

theorem entry_viewAfter {query : FloatQuery} {cmd : RelayControl} {call : MuxCall}
    (asked : asks query cmd = some call) (result : Except String Unit) {registered : Option ViewStateEntry}
    (present : registered.isSome = true) :
    memory.entry (viewAfter (records query cmd) result registered) =
      memory.kept result call (memory.entry registered) := by
  obtain ⟨found, rfl⟩ := Option.isSome_iff_exists.mp present
  cases result with
  | error message => rfl
  | ok value => exact memory.sound asked found.state

structure Remembers (memory : Memory Value) (connectionId : String) (relay : Relay State World)
    (last : Option Value) : Prop where
  key : relay.connectionId = connectionId
  registered : relay.phase = .running -> (relay.viewState.lookup connectionId).isSome = true
  value : memory.entry (relay.viewState.lookup connectionId) = last

theorem remembers_step {connectionId : String} {relay next : Relay State World} {last : Option Value}
    {event : Event Answer} (remembers : Remembers memory connectionId relay last)
    (taken : step mux relay event = some next) :
    Remembers memory connectionId next (memory.after mux relay last event) := by
  obtain rfl := remembers.key
  have entry := step_entry taken
  have key := step_connectionId taken
  have kept (same : next.viewState.lookup relay.connectionId = relay.viewState.lookup relay.connectionId)
      (running : next.phase = .running -> relay.phase = .running) :
      Remembers memory relay.connectionId next last :=
    { key
      registered := fun phase => by
        rw [same]
        exact remembers.registered (running phase)
      value := by
        rw [same]
        exact remembers.value }
  cases event with
  | initialised layout =>
    exact { key, registered := fun _ => by simp [entry, entryAfter], value := by rw [entry]; rfl }
  | deregister =>
    have left : next.phase = .deregistered := by
      simp only [step] at taken
      split_ifs at taken
      rw [← Option.some.inj taken]
    exact { key, registered := by simp [left], value := by rw [entry]; rfl }
  | command ticket cmd query answer =>
    simp only [step] at taken
    split_ifs at taken with running
    have present := remembers.registered running
    have stays : next.phase = .running := by
      rw [← Option.some.inj taken, (onControl_continues mux ticket cmd query answer relay).phase]
      exact running
    simp only [entryAfter] at entry
    cases gate : relay.readOnly with
    | true =>
      simp only [gate] at entry
      simpa only [Memory.after, gate] using kept entry fun _ => running
    | false =>
      cases asked : asks query cmd with
      | none =>
        simp only [gate, asked] at entry
        simpa only [Memory.after, gate, asked] using kept entry fun _ => running
      | some call =>
        simp only [gate, asked] at entry
        refine { key, registered := fun _ => ?_, value := ?_ }
        · rw [entry]
          cases (mux.call answer call relay.sender relay.world).1 <;> simpa [viewAfter] using present
        · rw [entry, entry_viewAfter asked _ present, remembers.value]
          simp only [Memory.after, gate, asked]
  | recheck valid =>
    simp only [step] at taken
    split_ifs at taken with running
    · exact kept entry fun _ => running
    · exact kept entry fun _ => running
  | frame frame answer =>
    simp only [step] at taken
    split_ifs at taken with running
    exact kept entry fun _ => running
  | streamError | streamEnd =>
    simp only [step] at taken
    split_ifs at taken with running
    exact kept entry fun _ => running
  | cancelled answer | dropGuard answer =>
    simp only [step] at taken
    split_ifs at taken
    refine kept entry fun phase => ?_
    rw [← Option.some.inj taken] at phase
    simp [dropGuard] at phase
  | layoutTask index answer =>
    simp only [step] at taken
    split at taken
    · refine kept entry fun phase => ?_
      rw [← Option.some.inj taken] at phase
      exact phase
    · contradiction
  | renderThreadEnds | elsewhere answer =>
    refine kept entry fun phase => ?_
    rw [← Option.some.inj taken] at phase
    exact phase
  | sibling other changed =>
    simp only [step] at taken
    split_ifs at taken
    refine kept entry fun phase => ?_
    rw [← Option.some.inj taken] at phase
    exact phase

theorem remembers_run {connectionId : String} {relay final : Relay State World} {last : Option Value}
    {events : List (Event Answer)} (remembers : Remembers memory connectionId relay last)
    (ran : Transition.run (step mux) relay events = some final) :
    Remembers memory connectionId final (memory.last mux relay last events) := by
  induction events generalizing relay last with
  | nil =>
    obtain rfl : relay = final := by simpa using ran
    exact remembers
  | cons event rest ih =>
    obtain ⟨next, taken, ran⟩ := Transition.run_cons.mp ran
    simpa [Memory.last, taken] using ih (remembers_step remembers taken) ran

theorem remembers_attached {Backend : Type} (opened : Attach.Opening Backend) (connectionId : String) (sender : State)
    (world : World) (viewState : ViewStateRegistry) :
    Remembers memory connectionId (Attach.attached mux opened connectionId sender world viewState)
      (memory.entry (viewState.lookup connectionId)) :=
  { key := rfl, registered := by simp [Attach.attached], value := rfl }

end Memory

end Muxrd.Inbound
