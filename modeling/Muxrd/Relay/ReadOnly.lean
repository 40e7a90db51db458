import Muxrd.Relay.Attach

set_option autoImplicit false

namespace Muxrd.ReadOnly

open Inbound Attach

variable {Answer State World : Type} {mux : MuxSender Answer State World}

def Registered (relay : Relay State World) : Prop :=
  relay.phase = .running ∨ relay.phase = .broken

structure Observes (relay next : Relay State World) : Prop where
  readOnly : next.readOnly = relay.readOnly
  connectionId : next.connectionId = relay.connectionId
  calls : ∃ added, next.calls = relay.calls ++ added ∧
    ∀ entry ∈ added, entry.1 ≠ .teardown ∧ entry.2.isLayoutQuery = true
  replies : ∃ added, next.replies = relay.replies ++ added ∧
    ∀ entry ∈ added, ∀ result, entry.2 = .space result -> ∃ message, result = .error message
  view : next.viewState.lookup relay.connectionId = relay.viewState.lookup relay.connectionId
  phase : next.phase = relay.phase ∨ (relay.phase = .running ∧ next.phase = .broken)

theorem Observes.same (relay : Relay State World) : Observes relay relay :=
  { readOnly := rfl
    connectionId := rfl
    calls := ⟨[], by simp⟩
    replies := ⟨[], by simp⟩
    view := rfl
    phase := .inl rfl }

theorem onControl_observes {relay : Relay State World} (readOnly : relay.readOnly = true)
    (ticket : Ticket)
    (cmd : RelayControl) (query : FloatQuery) (answer : Answer) :
    Observes relay (onControl mux ticket cmd query answer relay) := by
  cases cmd with
  | switchTab tabId => simpa [onControl, onSwitchTab, readOnly] using Observes.same relay
  | focusPane pane => simpa [onControl, onFocusPane, readOnly] using Observes.same relay
  | toggleFullscreen pane hint => simpa [onControl, onToggleFullscreen, readOnly] using Observes.same relay
  | switchSpace workspaceId reply =>
    rw [onControl, onSwitchSpace, if_pos readOnly]
    exact { Observes.same relay with replies := ⟨_, rfl, by simp⟩ }
  | queryLayout reply =>
    simp only [onControl, handleQueryLayout]
    split_ifs with outOfBand alive
    · exact { Observes.same relay with }
    · exact { Observes.same relay with calls := ⟨_, rfl, by simp [MuxCall.isLayoutQuery]⟩ }
    · exact { Observes.same relay with replies := ⟨_, rfl, by simp⟩ }

theorem onFrame_readOnly {relay : Relay State World} (readOnly : relay.readOnly = true) (answer : Answer)
    (frame : ClientFrame) : onFrame mux answer frame relay = relay := by
  cases frame <;> simp [onFrame, readOnly]

theorem step_cases {relay next : Relay State World} {event : Event Answer}
    (readOnly : relay.readOnly = true)
    (taken : step mux relay event = some next) :
    Observes relay next ∨
      (relay.phase = .initialising ∧ ∃ entry,
        next = { relay with
          phase := .running, viewState := relay.viewState.insert relay.connectionId entry }) ∨
      (relay.phase = .broken ∧
        next = { relay with phase := .deregistered, viewState := relay.viewState.erase relay.connectionId }) ∨
      ((relay.phase = .initialising ∨ relay.phase = .deregistered) ∧ ∃ nudge world,
        next = { relay with
          phase := .closed, nudge, world, calls := relay.calls ++ [(.teardown, .sendClientExited)] }) := by
  have dropped (answer : Answer) : ∃ nudge world, dropGuard mux answer relay =
      { relay with
        phase := .closed, nudge, world, calls := relay.calls ++ [(.teardown, .sendClientExited)] } := by
    simp [dropGuard, readOnly]
  cases event with
  | initialised layout =>
    simp only [step] at taken
    split_ifs at taken with initialising
    exact .inr (.inl ⟨initialising, _, (Option.some.inj taken).symm⟩)
  | cancelled answer =>
    simp only [step] at taken
    split_ifs at taken with initialising
    obtain ⟨nudge, world, closed⟩ := dropped answer
    exact .inr (.inr (.inr ⟨.inl initialising, nudge, world, (Option.some.inj taken).symm.trans closed⟩))
  | recheck valid =>
    simp only [step] at taken
    split_ifs at taken with running
    · exact .inl (Option.some.inj taken ▸ Observes.same relay)
    · exact .inl (Option.some.inj taken ▸ { Observes.same relay with phase := .inr ⟨running, rfl⟩ })
  | command ticket cmd query answer =>
    simp only [step] at taken
    split_ifs at taken
    exact .inl (Option.some.inj taken ▸ onControl_observes readOnly ticket cmd query answer)
  | frame frame answer =>
    simp only [step, onFrame_readOnly readOnly] at taken
    split_ifs at taken
    exact .inl (Option.some.inj taken ▸ Observes.same relay)
  | streamError =>
    simp only [step] at taken
    split_ifs at taken with running
    exact .inl (Option.some.inj taken ▸ { Observes.same relay with phase := .inr ⟨running, rfl⟩ })
  | streamEnd =>
    simp only [step] at taken
    split_ifs at taken with running
    exact .inl (Option.some.inj taken ▸ { Observes.same relay with phase := .inr ⟨running, rfl⟩ })
  | deregister =>
    simp only [step] at taken
    split_ifs at taken with broken
    exact .inr (.inr (.inl ⟨broken, (Option.some.inj taken).symm⟩))
  | dropGuard answer =>
    simp only [step] at taken
    split_ifs at taken with deregistered
    obtain ⟨nudge, world, closed⟩ := dropped answer
    exact .inr (.inr (.inr ⟨.inr deregistered, nudge, world, (Option.some.inj taken).symm.trans closed⟩))
  | layoutTask index answer =>
    simp only [step] at taken
    split at taken
    · obtain rfl := Option.some.inj taken
      exact .inl
        { Observes.same relay with
          calls := ⟨_, rfl, by simp [MuxCall.isLayoutQuery]⟩
          replies := ⟨_, rfl, by simp⟩ }
    · cases taken
  | renderThreadEnds => exact .inl (Option.some.inj taken ▸ { Observes.same relay with })
  | sibling connectionId entry =>
    simp only [step] at taken
    split_ifs at taken with own
    refine .inl (Option.some.inj taken ▸ { Observes.same relay with view := ?_ })
    cases entry with
    | none => exact AList.lookup_erase_ne (Ne.symm own)
    | some entry => exact AList.lookup_insert_ne (Ne.symm own)
  | elsewhere answer => exact .inl (Option.some.inj taken ▸ { Observes.same relay with })

theorem step_mutating {relay next : Relay State World} {event : Event Answer}
    (readOnly : relay.readOnly = true)
    (taken : step mux relay event = some next) {entry : Cause × MuxCall} (member : entry ∈ next.calls)
    (mutating : entry.2.isMutating = true) : entry ∈ relay.calls := by
  rcases step_cases readOnly taken with observes | ⟨_, _, rfl⟩ | ⟨_, rfl⟩ | ⟨_, _, _, rfl⟩
  · obtain ⟨added, calls, looks⟩ := observes.calls
    rw [calls, List.mem_append] at member
    rcases member with before | new
    · exact before
    · have query := (looks entry new).2
      cases call : entry.2 <;> simp [call, MuxCall.isMutating, MuxCall.isLayoutQuery] at mutating query
  · exact member
  · exact member
  · rcases List.mem_append.mp member with before | new
    · exact before
    · obtain rfl := List.mem_singleton.mp new
      contradiction

structure Quiet (connectionId : String) (relay : Relay State World) : Prop where
  readOnly : relay.readOnly = true
  key : relay.connectionId = connectionId
  calls : ∀ entry ∈ relay.calls, entry.2.isLayoutQuery = true ∨ entry = (.teardown, .sendClientExited)
  teardown : relay.calls.count (.teardown, .sendClientExited) = if relay.phase = .closed then 1 else 0
  replies : ∀ entry ∈ relay.replies, ∀ result, entry.2 = .space result -> ∃ message, result = .error message
  registered : Registered relay -> ∃ entry, relay.viewState.lookup connectionId = some entry

theorem Quiet.observes {connectionId : String} {relay next : Relay State World}
    (quiet : Quiet connectionId relay) (observes : Observes relay next) : Quiet connectionId next := by
  obtain ⟨queries, calls, looked⟩ := observes.calls
  obtain ⟨refusals, replies, refused⟩ := observes.replies
  have unrelated : queries.count (.teardown, .sendClientExited) = 0 := by
    apply List.count_eq_zero.mpr
    intro member
    exact (looked _ member).1 rfl
  have sameClosed : next.phase = .closed ↔ relay.phase = .closed := by
    rcases observes.phase with same | ⟨running, broken⟩
    · rw [same]
    · simp [running, broken]
  constructor
  · exact observes.readOnly.trans quiet.readOnly
  · exact observes.connectionId.trans quiet.key
  · intro entry member
    rw [calls, List.mem_append] at member
    rcases member with before | added
    · exact quiet.calls entry before
    · exact .inl (looked entry added).2
  · simp only [calls, List.count_append, quiet.teardown, unrelated, sameClosed, Nat.add_zero]
  · intro entry member
    rw [replies, List.mem_append] at member
    rcases member with before | added
    · exact quiet.replies entry before
    · exact refused entry added
  · intro registered
    have view := observes.view
    rw [quiet.key] at view
    rw [view]
    apply quiet.registered
    rcases observes.phase with same | ⟨running, _⟩
    · simpa [Registered, same] using registered
    · exact .inl running

theorem quiet_step {connectionId : String} (relay : Relay State World) (event : Event Answer)
    (next : Relay State World) (quiet : Quiet connectionId relay)
    (taken : step mux relay event = some next) :
    Quiet connectionId next := by
  rcases step_cases quiet.readOnly taken with
    observes | ⟨initialising, entry, rfl⟩ | ⟨broken, rfl⟩ | ⟨opened, nudge, world, rfl⟩
  · exact quiet.observes observes
  · have teardown := quiet.teardown
    exact { quiet with
      teardown := by simpa [initialising] using teardown
      registered := fun _ => ⟨entry, by simp [quiet.key]⟩ }
  · have teardown := quiet.teardown
    exact { quiet with
      teardown := by simpa [broken] using teardown
      registered := by simp [Registered] }
  · have unsent : relay.calls.count (.teardown, .sendClientExited) = 0 := by
      rcases opened with phase | phase <;> simpa [phase] using quiet.teardown
    exact { quiet with
      calls := by
        intro entry member
        rw [List.mem_append, List.mem_singleton] at member
        exact member.elim (quiet.calls entry) .inr
      teardown := by simp [List.count_append, unsent]
      registered := by simp [Registered] }

structure Holds (connectionId : String) (entry : Option ViewStateEntry) (relay : Relay State World) : Prop where
  readOnly : relay.readOnly = true
  key : relay.connectionId = connectionId
  phase : relay.phase ≠ .initialising
  view : Registered relay -> relay.viewState.lookup connectionId = entry

theorem holds_step {connectionId : String} {entry : Option ViewStateEntry} (relay : Relay State World)
    (event : Event Answer) (next : Relay State World) (holds : Holds connectionId entry relay)
    (taken : step mux relay event = some next) : Holds connectionId entry next := by
  have key := holds.key
  rcases step_cases holds.readOnly taken with
    observes | ⟨initialising, _⟩ | ⟨broken, rfl⟩ | ⟨opened, nudge, world, rfl⟩
  · constructor
    · exact observes.readOnly.trans holds.readOnly
    · exact observes.connectionId.trans key
    · rcases observes.phase with same | ⟨_, broken⟩
      · rw [same]
        exact holds.phase
      · simp [broken]
    · intro registered
      have before : Registered relay := by
        rcases observes.phase with same | ⟨running, _⟩
        · simpa [Registered, same] using registered
        · exact .inl running
      have view := observes.view
      rw [key] at view
      exact view.trans (holds.view before)
  · exact absurd initialising holds.phase
  · exact { readOnly := holds.readOnly, key, phase := by simp, view := by simp [Registered] }
  · exact { readOnly := holds.readOnly, key, phase := by simp, view := by simp [Registered] }

theorem quiet_attached {Backend : Type} {opened : Opening Backend} (readOnly : opened.readOnly = true)
    (connectionId : String) (sender : State) (world : World) (viewState : ViewStateRegistry) :
    Quiet connectionId (attached mux opened connectionId sender world viewState) :=
  { readOnly
    key := rfl
    calls := by simp [attached]
    teardown := by simp [attached]
    replies := by simp [attached]
    registered := by simp [Registered, attached] }

theorem readOnly_relay_never_mutates {Backend : Type} (mux : MuxSender Answer State World)
    {opened : Opening Backend} (readOnly : opened.readOnly = true) (connectionId : String)
    (sender : State)
    (world : World) (viewState : ViewStateRegistry) :
    (∀ events final,
      Transition.run (step mux) (attached mux opened connectionId sender world viewState) events = some final ->
        (∀ entry ∈ final.calls, entry.2.isLayoutQuery = true ∨ entry = (.teardown, .sendClientExited)) ∧
        final.calls.count (.teardown, .sendClientExited) = (if final.phase = .closed then 1 else 0) ∧
        (∀ entry ∈ final.replies, ∀ result, entry.2 = .space result -> ∃ message, result = .error message)) ∧
    (∀ before middle after final,
      Transition.run (step mux) (attached mux opened connectionId sender world viewState) before = some middle ->
      Transition.run (step mux) middle after = some final -> Registered middle -> Registered final ->
        ∃ entry, middle.viewState.lookup connectionId = some entry ∧
          final.viewState.lookup connectionId = some entry) ∧
    (∀ (zellijValidate : String -> Except (List Piece) Unit) (backends : Routing.BackendSet Backend)
      (querySessionSize : Backend -> String -> Option (UInt16 × UInt16)) (session : String)
      (rows cols otherRows otherCols : UInt32),
      opening zellijValidate backends querySessionSize true (.frame (.attach { session, rows, cols })) =
        opening zellijValidate backends querySessionSize true
          (.frame (.attach { session, rows := otherRows, cols := otherCols }))) := by
  have quiet : Quiet connectionId (attached mux opened connectionId sender world viewState) :=
    quiet_attached readOnly connectionId sender world viewState
  refine ⟨?_, ?_, fun zellijValidate backends querySessionSize =>
    opening_readOnly_size zellijValidate backends querySessionSize⟩
  · intro events final ran
    have final := Transition.invariant_of_run quiet_step quiet ran
    exact ⟨final.calls, final.teardown, final.replies⟩
  · intro before middle after final ranBefore ranAfter registered still
    have quietMiddle := Transition.invariant_of_run quiet_step quiet ranBefore
    obtain ⟨entry, found⟩ := quietMiddle.registered registered
    have holds : Holds connectionId (some entry) middle :=
      { readOnly := quietMiddle.readOnly
        key := quietMiddle.key
        phase := by rcases registered with phase | phase <;> simp [phase]
        view := fun _ => found }
    exact ⟨entry, found, (Transition.invariant_of_run holds_step holds ranAfter).view still⟩

def observer : Opening Unit :=
  { id := "zellij:dev", kind := .zellij, backend := (), session := "dev", rows := 50, cols := 200,
    readOnly := true }

-- A tab switch, a space switch, input and a resize, a layout query, then the client goes away.
def observerEvents : List (Event (Except String Unit)) :=
  [.initialised (.error "no layout"), .command ⟨0, false⟩ (.switchTab 3) .failed (.ok ()),
    .command ⟨1, false⟩ (.switchSpace "w2" 7) .failed (.ok ()), .frame (.resize 10 20) (.ok ()),
    .command ⟨2, false⟩ (.queryLayout 8) .failed (.ok ()), .streamEnd, .deregister, .dropGuard (.ok ())]

theorem readOnly_relay_never_mutates_observer :
    ∃ final, Transition.run (step (MuxSender.answering false))
        (attached (MuxSender.answering false) observer "c1" () () ∅) observerEvents = some final ∧
      final.calls.count (.teardown, .sendClientExited) = 1 ∧ final.replies.length = 1 := by
  have safe := readOnly_relay_never_mutates (MuxSender.answering false) (rfl : observer.readOnly = true) "c1"
    () () ∅
  exact ⟨_, rfl, (safe.1 observerEvents _ rfl).2.1, rfl⟩

end Muxrd.ReadOnly
