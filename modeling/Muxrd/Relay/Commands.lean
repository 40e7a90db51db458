import Muxrd.Relay.Shared

set_option autoImplicit false

namespace Muxrd.Inbound

variable {Answer State World : Type} {mux : MuxSender Answer State World}

structure Task where
  readOnly : Bool
  connectionId : String
  session : String
  rows : UInt16
  cols : UInt16

def Relay.task (relay : Relay State World) : Task :=
  { readOnly := relay.readOnly
    connectionId := relay.connectionId
    session := relay.session
    rows := relay.rows
    cols := relay.cols }

def asks (query : FloatQuery) : RelayControl -> Option MuxCall
  | .switchTab tabId => some (.goToTab tabId)
  | .focusPane pane => some (.focusPane pane)
  | .switchSpace workspaceId _ => some (.switchSpace workspaceId)
  | .toggleFullscreen pane hint => (resolveHint pane hint query).map (.toggleFullscreen pane)
  | .queryLayout _ => none

def records (query : FloatQuery) : RelayControl -> RelayViewState -> RelayViewState
  | .switchTab tabId, view => { view with activeTab := some tabId, focusedPane := none }
  | .focusPane pane, view => { view with focusedPane := some pane }
  | .switchSpace workspaceId _, _ =>
    { activeTab := none, focusedPane := none, currentSpace := some workspaceId }
  | .toggleFullscreen pane hint, view =>
    match resolveHint pane hint query with
    | some resolved => { view with focusedPane := if isHide resolved then none else some pane }
    | none => view
  | .queryLayout _, view => view

theorem records_toggle {query : FloatQuery} {pane : PaneRef} {hint : Option FloatingHint}
    {resolved : FullscreenHint} (hinted : resolveHint pane hint query = some resolved) :
    records query (.toggleFullscreen pane hint) = fun view =>
      { view with focusedPane := if isHide resolved then none else some pane } := by
  funext view
  simp only [records, hinted]

def viewAfter (update : RelayViewState -> RelayViewState) (result : Except String Unit)
    (entry : Option ViewStateEntry) : Option ViewStateEntry :=
  match result with
  | .ok _ => entry.map fun entry => { entry with state := update entry.state }
  | .error _ => entry

theorem lookup_updateView_own (update : RelayViewState -> RelayViewState) (relay : Relay State World) :
    (relay.updateView update).viewState.lookup relay.connectionId =
      (relay.viewState.lookup relay.connectionId).map fun entry => { entry with state := update entry.state } := by
  unfold Relay.updateView
  cases found : relay.viewState.lookup relay.connectionId with
  | none => simp [found]
  | some entry => simp

theorem lookup_updateView_other (update : RelayViewState -> RelayViewState) {relay : Relay State World}
    {key : String} (other : key ≠ relay.connectionId) :
    (relay.updateView update).viewState.lookup key = relay.viewState.lookup key := by
  unfold Relay.updateView
  cases found : relay.viewState.lookup relay.connectionId with
  | none => rfl
  | some entry => exact AList.lookup_insert_ne other

structure Continues (relay next : Relay State World) : Prop where
  task : next.task = relay.task
  phase : next.phase = relay.phase
  others : ∀ key, key ≠ relay.connectionId -> next.viewState.lookup key = relay.viewState.lookup key

theorem Continues.refl (relay : Relay State World) : Continues relay relay :=
  { task := rfl, phase := rfl, others := fun _ _ => rfl }

theorem Continues.call {cause : Cause} {answer : Answer} {muxCall : MuxCall} {result : Except String Unit}
    {relay after : Relay State World} (called : relay.call mux cause answer muxCall = (result, after)) :
    Continues relay after := by
  rw [← (Prod.mk.inj called).2]
  exact { task := rfl, phase := rfl, others := fun _ _ => rfl }

theorem Continues.updateView {relay called : Relay State World} (continues : Continues relay called)
    (update : RelayViewState -> RelayViewState) : Continues relay (called.updateView update) := by
  have same : (called.updateView update).task = called.task ∧ (called.updateView update).phase = called.phase := by
    unfold Relay.updateView
    cases called.viewState.lookup called.connectionId with
    | none => exact ⟨rfl, rfl⟩
    | some entry => exact ⟨rfl, rfl⟩
  have key : called.connectionId = relay.connectionId := congrArg Task.connectionId continues.task
  constructor
  · exact same.1.trans continues.task
  · exact same.2.trans continues.phase
  · intro other different
    rw [lookup_updateView_other update (by rwa [key]), continues.others other different]

theorem updateView_calls (update : RelayViewState -> RelayViewState) (relay : Relay State World) :
    (relay.updateView update).calls = relay.calls := by
  unfold Relay.updateView
  cases relay.viewState.lookup relay.connectionId <;> rfl

structure Performs (ticket : Ticket) (call : MuxCall) (update : RelayViewState -> RelayViewState)
    (result : Except String Unit) (relay next : Relay State World) :
    Prop extends Continues relay next where
  calls : next.calls = relay.calls ++ [(.command ticket, call)]
  view : next.viewState.lookup relay.connectionId =
    viewAfter update result (relay.viewState.lookup relay.connectionId)

structure Drops (ticket : Ticket) (relay next : Relay State World) : Prop extends Continues relay next where
  calls : next.calls = relay.calls ∨ next.calls = relay.calls ++ [(.command ticket, .queryLayout)]
  view : next.viewState.lookup relay.connectionId = relay.viewState.lookup relay.connectionId

theorem Drops.refl (ticket : Ticket) (relay : Relay State World) : Drops ticket relay relay :=
  { Continues.refl relay with calls := .inl rfl, view := rfl }

theorem Performs.failed {ticket : Ticket} {answer : Answer} {muxCall : MuxCall} {message : String}
    {update : RelayViewState -> RelayViewState} {relay after : Relay State World}
    (called : relay.call mux (.command ticket) answer muxCall = (.error message, after)) :
    Performs ticket muxCall update (.error message) relay after := by
  obtain ⟨_, _, _, view, calls⟩ := Relay.call_eq relay called
  exact { Continues.call called with calls, view := by rw [view]; rfl }

theorem Performs.done {ticket : Ticket} {answer : Answer} {muxCall : MuxCall} {value : Unit}
    (update : RelayViewState -> RelayViewState) {relay after : Relay State World}
    (called : relay.call mux (.command ticket) answer muxCall = (.ok value, after)) :
    Performs ticket muxCall update (.ok value) relay (after.updateView update) := by
  obtain ⟨_, key, _, view, calls⟩ := Relay.call_eq relay called
  refine { (Continues.call called).updateView update with calls := ?_, view := ?_ }
  · rw [updateView_calls, calls]
  · rw [← key, lookup_updateView_own, view]
    rfl

variable (mux)

theorem onControl_spec (ticket : Ticket) (cmd : RelayControl) (query : FloatQuery) (answer : Answer)
    (relay : Relay State World) :
    match relay.readOnly, asks query cmd with
    | false, some call =>
      Performs ticket call (records query cmd) (mux.call answer call relay.sender relay.world).1 relay
        (onControl mux ticket cmd query answer relay)
    | _, _ => Drops ticket relay (onControl mux ticket cmd query answer relay) := by
  have answered {muxCall : MuxCall} {result : Except String Unit} {after : Relay State World}
      (called : relay.call mux (.command ticket) answer muxCall = (result, after)) :
      (mux.call answer muxCall relay.sender relay.world).1 = result :=
    congrArg (·.1) (Relay.call_eq relay called).1
  cases cmd with
  | switchTab tabId =>
    cases gate : relay.readOnly with
    | true => simpa [onControl, onSwitchTab, gate] using Drops.refl ticket relay
    | false =>
      simp only [asks, onControl, onSwitchTab, gate, Bool.false_eq_true, if_false]
      split
      next called =>
        rw [answered called]
        exact Performs.failed called
      next called =>
        rw [answered called]
        exact Performs.done (records query (.switchTab tabId)) called
  | focusPane pane =>
    cases gate : relay.readOnly with
    | true => simpa [onControl, onFocusPane, gate] using Drops.refl ticket relay
    | false =>
      simp only [asks, onControl, onFocusPane, gate, Bool.false_eq_true, if_false]
      split
      next called =>
        rw [answered called]
        exact Performs.failed called
      next called =>
        rw [answered called]
        exact Performs.done (records query (.focusPane pane)) called
  | switchSpace workspaceId reply =>
    cases gate : relay.readOnly with
    | true =>
      simp only [onControl, onSwitchSpace, gate, if_true]
      exact { Drops.refl ticket relay with }
    | false =>
      simp only [asks, onControl, onSwitchSpace, gate, Bool.false_eq_true, if_false]
      split
      next called =>
        rw [answered called]
        exact { Performs.failed called with }
      next called =>
        rw [answered called]
        exact { Performs.done (records query (.switchSpace workspaceId reply)) called with }
  | toggleFullscreen pane hint =>
    cases gate : relay.readOnly with
    | true => simpa [onControl, onToggleFullscreen, gate] using Drops.refl ticket relay
    | false =>
      cases resolved : resolveHint pane hint query with
      | none => simpa [asks, onControl, onToggleFullscreen, gate, resolved] using Drops.refl ticket relay
      | some hinted =>
        simp only [asks, onControl, onToggleFullscreen, gate, resolved, Bool.false_eq_true, if_false,
          Option.map_some]
        rw [records_toggle resolved]
        rcases called : relay.call mux (.command ticket) answer (.toggleFullscreen pane hinted) with ⟨_ | _, after⟩
        · rw [answered called]
          exact Performs.failed called
        · rw [answered called]
          exact Performs.done _ called
  | queryLayout reply =>
    have queried : Drops ticket relay (onControl mux ticket (.queryLayout reply) query answer relay) := by
      simp only [onControl, handleQueryLayout]
      split_ifs
      · exact { Drops.refl ticket relay with }
      · exact { Drops.refl ticket relay with calls := .inr rfl }
      · exact { Drops.refl ticket relay with }
    cases relay.readOnly <;> exact queried

theorem onControl_continues (ticket : Ticket) (cmd : RelayControl) (query : FloatQuery) (answer : Answer)
    (relay : Relay State World) : Continues relay (onControl mux ticket cmd query answer relay) := by
  have spec := onControl_spec mux ticket cmd query answer relay
  split at spec
  · exact spec.toContinues
  · exact spec.toContinues

-- The call a client frame becomes.
def frameCall (readOnly : Bool) : ClientFrame -> Option MuxCall
  | .input bytes =>
    if readOnly then none
    else if bytes.length > maxInputFrameBytes then none
    else
      match RustStd.fromUtf8 bytes with
      | some text => some (.sendInputChars text)
      | none => some (.sendInputBytes bytes)
  | .resize rows cols =>
    if readOnly then none else some (.sendResize (clampDim rows 24) (clampDim cols 80))
  | .attach _ | .empty => none

theorem onFrame_spec (answer : Answer) (frame : ClientFrame) (relay : Relay State World) :
    ∃ sender world, onFrame mux answer frame relay =
      { relay with
        sender, world
        calls := relay.calls ++ (frameCall relay.readOnly frame).toList.map fun call => (.frame, call) } := by
  have kept (dropped : frameCall relay.readOnly frame = none) : relay =
      { relay with
        calls := relay.calls ++ (frameCall relay.readOnly frame).toList.map fun call => (.frame, call) } := by
    rw [dropped]
    simp
  cases frame with
  | attach req => exact ⟨relay.sender, relay.world, kept rfl⟩
  | empty => exact ⟨relay.sender, relay.world, kept rfl⟩
  | resize rows cols =>
    by_cases gate : relay.readOnly = true
    · rw [onFrame, if_pos gate]
      exact ⟨relay.sender, relay.world, kept (if_pos gate)⟩
    · simp only [onFrame, frameCall, if_neg gate]
      exact ⟨_, _, rfl⟩
  | input bytes =>
    by_cases gate : relay.readOnly = true
    · rw [onFrame, if_pos gate]
      exact ⟨relay.sender, relay.world, kept (if_pos gate)⟩
    · by_cases long : bytes.length > maxInputFrameBytes
      · rw [onFrame, if_neg gate, if_pos long]
        exact ⟨relay.sender, relay.world, kept (by simp [frameCall, gate, long])⟩
      · simp only [onFrame, frameCall, forwardInput, if_neg gate, if_neg long]
        cases RustStd.fromUtf8 bytes with
        | some text => exact ⟨_, _, rfl⟩
        | none => exact ⟨_, _, rfl⟩

variable {mux}

theorem step_frame {relay next : Relay State World} {event : Event Answer}
    (own : ∀ key entry, event ≠ .sibling key entry) (taken : step mux relay event = some next) :
    next.task = relay.task ∧
      ∀ key, key ≠ relay.connectionId -> next.viewState.lookup key = relay.viewState.lookup key := by
  cases event with
  | sibling key entry => exact absurd rfl (own key entry)
  | command ticket cmd query answer =>
    simp only [step] at taken
    split_ifs at taken
    rw [← Option.some.inj taken]
    have continues := onControl_continues mux ticket cmd query answer relay
    exact ⟨continues.task, continues.others⟩
  | frame frame answer =>
    simp only [step] at taken
    split_ifs at taken
    obtain ⟨sender, world, spec⟩ := onFrame_spec mux answer frame relay
    rw [← Option.some.inj taken, spec]
    exact ⟨rfl, fun _ _ => rfl⟩
  | recheck valid =>
    simp only [step] at taken
    split_ifs at taken
    · rw [← Option.some.inj taken]
      exact ⟨rfl, fun _ _ => rfl⟩
    · rw [← Option.some.inj taken]
      exact ⟨rfl, fun _ _ => rfl⟩
  | initialised layout =>
    simp only [step] at taken
    split_ifs at taken
    rw [← Option.some.inj taken]
    exact ⟨rfl, fun _ other => AList.lookup_insert_ne other⟩
  | deregister =>
    simp only [step] at taken
    split_ifs at taken
    rw [← Option.some.inj taken]
    exact ⟨rfl, fun _ other => AList.lookup_erase_ne other⟩
  | streamError | streamEnd | cancelled | dropGuard =>
    simp only [step] at taken
    split_ifs at taken
    rw [← Option.some.inj taken]
    exact ⟨rfl, fun _ _ => rfl⟩
  | layoutTask index answer =>
    simp only [step] at taken
    split at taken
    · rw [← Option.some.inj taken]
      exact ⟨rfl, fun _ _ => rfl⟩
    · contradiction
  | renderThreadEnds | elsewhere =>
    rw [← Option.some.inj taken]
    exact ⟨rfl, fun _ _ => rfl⟩

theorem step_calls {relay next : Relay State World} {event : Event Answer}
    (taken : step mux relay event = some next)
    {ticket : Ticket} {muxCall : MuxCall} (made : (.command ticket, muxCall) ∈ next.calls) :
    (.command ticket, muxCall) ∈ relay.calls ∨
      ∃ cmd query answer, event = .command ticket cmd query answer := by
  cases event with
  | command other cmd query answer =>
    simp only [step] at taken
    split_ifs at taken
    rw [← Option.some.inj taken] at made
    have grown : ∃ added, (onControl mux other cmd query answer relay).calls = relay.calls ++ added ∧
        ∀ entry ∈ added, entry.1 = .command other := by
      have spec := onControl_spec mux other cmd query answer relay
      split at spec
      · exact ⟨_, spec.calls, by simp⟩
      · rcases spec.calls with same | queried
        · exact ⟨[], by simp [same]⟩
        · exact ⟨_, queried, by simp⟩
    obtain ⟨added, calls, own⟩ := grown
    rw [calls, List.mem_append] at made
    rcases made with before | new
    · exact .inl before
    · obtain rfl : ticket = other := by simpa using own _ new
      exact .inr ⟨cmd, query, answer, rfl⟩
  | frame frame answer =>
    simp only [step] at taken
    split_ifs at taken
    obtain ⟨sender, world, spec⟩ := onFrame_spec mux answer frame relay
    rw [← Option.some.inj taken, spec] at made
    left
    simpa using made
  | recheck valid =>
    simp only [step] at taken
    split_ifs at taken
    · rw [← Option.some.inj taken] at made
      exact .inl made
    · rw [← Option.some.inj taken] at made
      exact .inl made
  | cancelled answer | dropGuard answer =>
    simp only [step] at taken
    split_ifs at taken
    rw [← Option.some.inj taken] at made
    left
    simpa [dropGuard] using made
  | initialised | deregister | streamError | streamEnd | sibling =>
    simp only [step] at taken
    split_ifs at taken
    rw [← Option.some.inj taken] at made
    exact .inl made
  | layoutTask index answer =>
    simp only [step] at taken
    split at taken
    · rw [← Option.some.inj taken] at made
      left
      simpa [runLayoutTask, Relay.answerReply] using made
    · contradiction
  | renderThreadEnds | elsewhere =>
    rw [← Option.some.inj taken] at made
    exact .inl made

-- A read-only relay never records a space.
theorem step_spaceless {relay next : Relay State World} {event : Event Answer}
    (readOnly : relay.readOnly = true)
    (own : ∀ key entry, event ≠ .sibling key entry) (taken : step mux relay event = some next)
    (spaceless : ∀ entry, relay.viewState.lookup relay.connectionId = some entry -> entry.state.currentSpace = none)
    {entry : ViewStateEntry} (found : next.viewState.lookup relay.connectionId = some entry) :
    entry.state.currentSpace = none := by
  cases event with
  | sibling key entry => exact absurd rfl (own key entry)
  | command ticket cmd query answer =>
    simp only [step] at taken
    split_ifs at taken
    have spec := onControl_spec mux ticket cmd query answer relay
    rw [readOnly] at spec
    rw [← Option.some.inj taken, spec.view] at found
    exact spaceless entry found
  | frame frame answer =>
    simp only [step] at taken
    split_ifs at taken
    obtain ⟨sender, world, spec⟩ := onFrame_spec mux answer frame relay
    rw [← Option.some.inj taken, spec] at found
    exact spaceless entry found
  | recheck valid =>
    simp only [step] at taken
    split_ifs at taken
    · rw [← Option.some.inj taken] at found
      exact spaceless entry found
    · rw [← Option.some.inj taken] at found
      exact spaceless entry found
  | initialised layout =>
    simp only [step] at taken
    split_ifs at taken
    rw [← Option.some.inj taken, AList.lookup_insert] at found
    rw [← Option.some.inj found]
    cases layout <;> rfl
  | deregister =>
    simp only [step] at taken
    split_ifs at taken
    rw [← Option.some.inj taken, AList.lookup_erase] at found
    contradiction
  | streamError | streamEnd | cancelled | dropGuard =>
    simp only [step] at taken
    split_ifs at taken
    rw [← Option.some.inj taken] at found
    exact spaceless entry found
  | layoutTask index answer =>
    simp only [step] at taken
    split at taken
    · rw [← Option.some.inj taken] at found
      exact spaceless entry found
    · contradiction
  | renderThreadEnds | elsewhere =>
    rw [← Option.some.inj taken] at found
    exact spaceless entry found

end Muxrd.Inbound
