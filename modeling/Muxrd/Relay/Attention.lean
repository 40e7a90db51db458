import Muxrd.Relay.Uplink

set_option autoImplicit false

namespace Muxrd.Uplink

open Inbound Attach ReadOnly ZellijSender

section Attention

@[ext] structure Attention where
  activeTab : Option UInt64
  focusedPane : Option PaneRef
  deriving DecidableEq, Repr

def attentionOf (state : RelayViewState) : Attention :=
  { activeTab := state.activeTab, focusedPane := state.focusedPane }

/-- What a message makes of it. Which pane has the focus of another tab, or once the floating panes are hidden, it
does not tell. -/
def turn (attention : Attention) : ClientToServerMsg -> Attention
  | .action (.goToTabById id) _ _ _ => { activeTab := some id, focusedPane := none }
  | .action (.focusPaneByPaneId paneId) _ _ _ => { attention with focusedPane := some (fromPaneId paneId) }
  | .action (.hideFloatingPanes _) _ _ _ => { attention with focusedPane := none }
  | _ => attention

def replay (start : Attention) (messages : List ClientToServerMsg) : Attention :=
  messages.foldl turn start

def BreaksOff : Event Nat -> Prop
  | .command _ cmd query lasts => ∃ pane hint,
    asks query cmd = some (.toggleFullscreen pane hint) ∧ 0 < lasts ∧
      lasts < (script (.toggleFullscreen pane hint)).length
  | _ => False

def Recorded (start : Attention) (broken : Prop) (world : List ClientToServerMsg) (shown : Option ViewStateEntry) :
    Prop :=
  ∃ entry, shown = some entry ∧ entry.state.currentSpace = none ∧
    entry.state.activeTab = (replay start world).activeTab ∧
    (¬ broken -> entry.state.focusedPane = (replay start world).focusedPane)

structure Attends (connectionId : String) (start : Attention) (broken : Prop) (relay : ZellijRelay) : Prop where
  key : relay.connectionId = connectionId
  started : relay.phase ≠ .initialising
  entry : Registered relay -> Recorded start broken relay.world (relay.viewState.lookup connectionId)

variable {relay next : ZellijRelay} {event : Event Nat}

theorem replay_append (start : Attention) (first second : List ClientToServerMsg) :
    replay start (first ++ second) = replay (replay start first) second :=
  List.foldl_append

def Still (messages : List ClientToServerMsg) : Prop :=
  ∀ msg ∈ messages, ∀ attention, turn attention msg = attention

theorem replay_still {messages : List ClientToServerMsg} (still : Still messages) (start : Attention) :
    replay start messages = start := by
  induction messages generalizing start with
  | nil => rfl
  | cons msg rest ih =>
    rw [replay, List.foldl_cons, still msg List.mem_cons_self]
    exact ih (fun later member => still later (List.mem_cons_of_mem msg member)) start

theorem replay_activeTab {first second : Attention} (same : first.activeTab = second.activeTab)
    (messages : List ClientToServerMsg) : (replay first messages).activeTab = (replay second messages).activeTab := by
  induction messages generalizing first second with
  | nil => exact same
  | cons msg rest ih =>
    apply ih
    cases msg with
    | action action terminalId clientId isCliClient => cases action <;> first | rfl | exact same
    | _ => exact same

theorem Recorded.still {start : Attention} {broken more : Prop} {world said : List ClientToServerMsg}
    {shown : Option ViewStateEntry} (recorded : Recorded start broken world shown) (still : Still said) :
    Recorded start (broken ∨ more) (world ++ said) shown := by
  obtain ⟨entry, found, spaceless, activeTab, focusedPane⟩ := recorded
  rw [Recorded, replay_append, replay_still still]
  exact ⟨entry, found, spaceless, activeTab, fun whole => focusedPane fun was => whole (.inl was)⟩

theorem still_queryLayout : Still (script .queryLayout) := by
  intro msg member attention
  simp only [script, List.mem_cons, List.not_mem_nil, or_false] at member
  rcases member with rfl | rfl <;> rfl

theorem still_frameCall {readOnly : Bool} {frame : ClientFrame} {muxCall : MuxCall}
    (forwarded : frameCall readOnly frame = some muxCall) : Still (script muxCall) := by
  intro msg member attention
  cases frame with
  | input bytes =>
    simp only [frameCall] at forwarded
    split_ifs at forwarded
    split at forwarded <;>
      · obtain rfl := Option.some.inj forwarded
        obtain rfl := List.mem_singleton.mp member
        rfl
  | resize rows cols =>
    simp only [frameCall] at forwarded
    split_ifs at forwarded
    obtain rfl := Option.some.inj forwarded
    obtain rfl := List.mem_singleton.mp member
    rfl
  | attach req => cases forwarded
  | empty => cases forwarded

theorem replay_recorded {query : FloatQuery} {cmd : RelayControl} {muxCall : MuxCall}
    (asked : asks query cmd = some muxCall) (spaceless : ∀ spaceId, muxCall ≠ .switchSpace spaceId)
    (state : RelayViewState) :
    replay (attentionOf state) (script muxCall) = attentionOf (records query cmd state) ∧
      (records query cmd state).currentSpace = state.currentSpace := by
  cases cmd with
  | switchTab tabId | focusPane pane =>
    obtain rfl := Option.some.inj asked
    simp [replay, script, asSelf, turn, records, attentionOf]
  | switchSpace workspaceId reply =>
    obtain rfl := Option.some.inj asked
    exact absurd rfl (spaceless workspaceId)
  | toggleFullscreen pane hint =>
    obtain ⟨resolved, resolves, rfl⟩ := Option.map_eq_some_iff.mp asked
    obtain ⟨isFloating, floatingVisible, isFocusedFloating⟩ := resolved
    cases isFloating <;> cases floatingVisible <;> cases isFocusedFloating <;>
      simp [replay, script, asSelf, turn, records, resolves, attentionOf, isHide]
  | queryLayout reply => cases asked

theorem replay_cut {muxCall : MuxCall} {lasts : Nat} (cut : lasts < (script muxCall).length) (start : Attention) :
    (replay start ((script muxCall).take lasts)).activeTab = start.activeTab ∧
      (lasts = 0 ∨ (∃ pane hint, muxCall = .toggleFullscreen pane hint) ∨ Still (script muxCall)) := by
  cases lasts with
  | zero => exact ⟨rfl, .inl rfl⟩
  | succ lasts =>
    cases muxCall with
    | queryLayout =>
      have still : Still ((script .queryLayout).take (lasts + 1)) :=
        fun msg member => still_queryLayout msg (List.mem_of_mem_take member)
      exact ⟨by rw [replay_still still], .inr (.inr still_queryLayout)⟩
    | toggleFullscreen pane hint =>
      refine ⟨?_, .inr (.inl ⟨pane, hint, rfl⟩)⟩
      obtain ⟨isFloating, floatingVisible, isFocusedFloating⟩ := hint
      rcases lasts with _ | _ | lasts <;> cases isFloating <;> cases floatingVisible <;> cases isFocusedFloating <;>
        simp [replay, script, asSelf, turn] at cut ⊢
    | _ => simp [script] at cut

theorem registered_before (started : relay.phase ≠ .initialising) (taken : step zellijMuxSender relay event = some next)
    (registered : Registered next) : Registered relay := by
  have kept (same : next.phase = relay.phase) : Registered relay := by
    simpa only [Registered, same] using registered
  cases event with
  | initialised layout => simp [step, started] at taken
  | command ticket cmd query lasts =>
    simp only [step] at taken
    split_ifs at taken
    rw [← Option.some.inj taken] at kept
    exact kept (onControl_continues zellijMuxSender ticket cmd query lasts relay).phase
  | frame frame lasts =>
    simp only [step] at taken
    split_ifs at taken with running
    exact .inl running
  | recheck valid =>
    simp only [step] at taken
    split_ifs at taken with running <;> exact .inl running
  | streamError | streamEnd =>
    simp only [step] at taken
    split_ifs at taken with running
    exact .inl running
  | deregister | cancelled | dropGuard =>
    simp only [step] at taken
    split_ifs at taken
    rw [← Option.some.inj taken] at registered
    simp [Registered, dropGuard] at registered
  | sibling key entry =>
    simp only [step] at taken
    split_ifs at taken
    rw [← Option.some.inj taken] at kept
    exact kept rfl
  | layoutTask index lasts =>
    simp only [step] at taken
    split at taken
    · rw [← Option.some.inj taken] at kept
      exact kept rfl
    · contradiction
  | renderThreadEnds | elsewhere =>
    rw [← Option.some.inj taken] at kept
    exact kept rfl

variable {connectionId : String} {start : Attention} {broken : Prop}

theorem still_said {made : Made} (still : Still (script made.muxCall)) : Still made.said :=
  fun msg member => still msg (Made.mem_script member)

theorem makes_still (stays : Nudge.isTeardown event = false) (still : ∀ ticket cmd query lasts,
      event = .command ticket cmd query lasts -> relay.readOnly = false -> asks query cmd = none) :
    Still ((makes relay event).toList.flatMap Made.said) := by
  cases made : makes relay event with
  | none => simp [Still]
  | some call =>
    simp only [Option.toList_some, List.flatMap_singleton]
    apply still_said
    cases event with
    | command ticket cmd query lasts =>
      rcases makes_command (Option.mem_def.mpr made) with query | ⟨writable, asked⟩
      · exact query ▸ still_queryLayout
      · rw [still ticket cmd query lasts rfl writable] at asked
        cases asked
    | frame frame lasts =>
      obtain ⟨muxCall, forwarded, rfl⟩ := Option.map_eq_some_iff.mp made
      exact still_frameCall forwarded
    | layoutTask index lasts =>
      obtain rfl := Option.some.inj made
      exact fun msg member => by cases member
    | cancelled lasts | dropGuard lasts => cases stays
    | _ => cases made

section Carried

variable {ticket : Ticket} {cmd : RelayControl} {query : FloatQuery} {lasts : Nat} {muxCall : MuxCall}
  {world : List ClientToServerMsg} {entry : ViewStateEntry}

theorem Recorded.done {more : Prop} (recorded : Recorded start broken world (some entry))
    (asked : asks query cmd = some muxCall) (spaceless : ∀ spaceId, muxCall ≠ .switchSpace spaceId) :
    Recorded start (broken ∨ more) (world ++ script muxCall)
      (some { entry with state := records query cmd entry.state }) := by
  obtain ⟨_, same, noSpace, activeTab, focusedPane⟩ := recorded
  obtain rfl := Option.some.inj same
  obtain ⟨turned, space⟩ := replay_recorded asked spaceless entry.state
  rw [Recorded, replay_append]
  refine ⟨_, rfl, space.trans noSpace, ?_, fun unbroken => ?_⟩
  · have tab : (attentionOf entry.state).activeTab = (replay start world).activeTab := activeTab
    have same := replay_activeTab tab (script muxCall)
    rw [turned] at same
    exact same
  · have same : attentionOf entry.state = replay start world :=
      Attention.ext activeTab (focusedPane fun was => unbroken (.inl was))
    rw [← same, turned]
    rfl

theorem Recorded.failed {shown : Option ViewStateEntry} (recorded : Recorded start broken world shown)
    (asked : asks query cmd = some muxCall)
    (failed : (∃ spaceId, muxCall = .switchSpace spaceId) ∨ lasts < (script muxCall).length) :
    Recorded start (broken ∨ BreaksOff (.command ticket cmd query lasts))
      (world ++ (script muxCall).take lasts) shown := by
  rcases failed with ⟨spaceId, rfl⟩ | short
  · exact recorded.still (fun msg member => by simp [script] at member)
  · obtain ⟨entry, found, spaceless, activeTab, focusedPane⟩ := recorded
    obtain ⟨sameTab, parts⟩ := replay_cut short (replay start world)
    rw [Recorded, replay_append]
    refine ⟨entry, found, spaceless, activeTab.trans sameTab.symm, fun unbroken => ?_⟩
    rw [focusedPane fun was => unbroken (.inl was)]
    rcases parts with rfl | ⟨pane, hint, rfl⟩ | still
    · rfl
    · have untold : lasts = 0 := by
        by_contra told
        exact unbroken (.inr ⟨pane, hint, asked, Nat.pos_of_ne_zero told, short⟩)
      rw [untold]
      rfl
    · rw [replay_still fun msg member => still msg (List.mem_of_mem_take member)]

theorem recorded_command (gate : relay.readOnly = false) (asked : asks query cmd = some muxCall)
    (recorded : Recorded start broken relay.world (relay.viewState.lookup relay.connectionId)) :
    Recorded start (broken ∨ BreaksOff (.command ticket cmd query lasts))
      (relay.world ++ (script muxCall).take lasts)
      (entryAfter zellijMuxSender relay (.command ticket cmd query lasts)) := by
  obtain ⟨entry, found, holds⟩ := recorded
  simp only [entryAfter, gate, asked]
  cases result : (zellijMuxSender.call lasts muxCall relay.sender relay.world).1 with
  | ok value =>
    obtain ⟨carried, whole⟩ := call_done result
    rw [found, List.take_of_length_le whole]
    exact Recorded.done ⟨entry, rfl, holds⟩ asked carried
  | error failure => exact Recorded.failed ⟨entry, found, holds⟩ asked (call_failed result)

end Carried

theorem attends_step (attends : Attends connectionId start broken relay)
    (taken : step zellijMuxSender relay event = some next) :
    Attends connectionId start (broken ∨ BreaksOff event) next := by
  obtain rfl := attends.key
  refine
    { key := step_connectionId taken
      started := started_step attends.started taken
      entry := fun registered => ?_ }
  have recorded := attends.entry (registered_before attends.started taken registered)
  have after := step_entry taken
  rw [(step_tells taken).world, after]
  cases event with
  | command ticket cmd query lasts =>
    have still := @makes_still relay (.command ticket cmd query lasts) rfl
    cases gate : relay.readOnly with
    | true =>
      simp only [entryAfter, gate]
      exact recorded.still (still fun _ _ _ _ _ writable => by simp [gate] at writable)
    | false =>
      cases asked : asks query cmd with
      | none =>
        simp only [entryAfter, gate, asked]
        exact recorded.still (still fun _ _ _ _ same _ => by cases same; exact asked)
      | some muxCall =>
        have said : (makes relay (.command ticket cmd query lasts)).toList.flatMap Made.said =
            (script muxCall).take lasts := by
          simp [makes, gate, asked, Made.said_eq]
        rw [said]
        exact recorded_command gate asked recorded
  | initialised layout => simp [step, attends.started] at taken
  | deregister | cancelled | dropGuard =>
    simp only [step] at taken
    split_ifs at taken
    rw [← Option.some.inj taken] at registered
    simp [Registered, dropGuard] at registered
  | _ => exact recorded.still (makes_still rfl fun _ _ _ _ same => by cases same)

theorem attends_run {final : ZellijRelay} {events : List (Event Nat)}
    (attends : Attends connectionId start broken relay)
    (ran : Transition.run (step zellijMuxSender) relay events = some final) :
    Attends connectionId start (broken ∨ ∃ event ∈ events, BreaksOff event) final := by
  induction events generalizing relay broken with
  | nil =>
    obtain rfl : relay = final := by simpa using ran
    simpa using attends
  | cons event rest ih =>
    obtain ⟨next, taken, ran⟩ := Transition.run_cons.mp ran
    have later := ih (attends_step attends taken) ran
    simpa [or_assoc] using later

structure Fresh (hello : ClientToServerMsg) (connectionId : String) (relay : ZellijRelay) : Prop where
  key : relay.connectionId = connectionId
  world : relay.phase = .initialising -> relay.world = [hello]

theorem fresh_step {hello : ClientToServerMsg} (relay : ZellijRelay) (event : Event Nat) (next : ZellijRelay)
    (fresh : Fresh hello connectionId relay) (taken : step zellijMuxSender relay event = some next) :
    Fresh hello connectionId next := by
  refine { key := (step_connectionId taken).trans fresh.key, world := fun phase => ?_ }
  have before : relay.phase = .initialising := by
    by_contra started
    exact started_step started taken phase
  have stays : Nudge.isTeardown event = false := by
    have closes := Nudge.step_closes taken
    cases teardown : Nudge.isTeardown event with
    | false => rfl
    | true => simp [teardown, phase] at closes
  have silent : (makes relay event).toList.flatMap Made.said = [] := by
    rw [List.flatMap_eq_nil_iff]
    exact fun made calls => (makes_stays taken stays (Option.mem_toList.mp calls)).2 (by simp [before])
  rw [(step_tells taken).world, silent, List.append_nil, fresh.world before]

theorem attends_initialised {layout : Except String LayoutSnapshot} {rows cols : Nat}
    (fresh : Fresh (.attachClient rows cols none none false) connectionId relay)
    (taken : step zellijMuxSender relay (.initialised layout) = some next) :
    Attends connectionId (attentionOf (initialView layout)) False next := by
  obtain rfl := fresh.key
  have after := step_entry taken
  have world := (step_tells taken).world
  have phase : relay.phase = .initialising ∧ next.phase = .running := by
    simp only [step] at taken
    split_ifs at taken with before
    exact ⟨before, by rw [← Option.some.inj taken]⟩
  refine { key := step_connectionId taken, started := by simp [phase.2], entry := fun _ => ?_ }
  have said : next.world = [.attachClient rows cols none none false] := by
    simpa [makes, fresh.world phase.1] using world
  rw [said]
  refine ⟨_, after, ?_, rfl, fun _ => rfl⟩
  cases layout <;> rfl

end Attention

/-- What a session hears of a relay that starts out so, and what the relay remembers of it. -/
structure Speaks {Backend : Type} (opened : Opening Backend) (connectionId : String) (start : ZellijRelay)
    (events : List (Event Nat)) (final : ZellijRelay) : Prop where
  heard : Heard (.attachClient opened.rows.toNat opened.cols.toNat none none false) (makings start events) final
  keystrokes : final.world.flatMap keystrokes = events.flatMap (typedIn opened.readOnly)
  left : opened.readOnly = true -> final.phase = .closed -> ∃ lasts,
    { cause := .teardown, muxCall := .sendClientExited, lasts } ∈ makings start events ∧
      (0 < lasts -> ∃ earlier, final.world = earlier ++ [.clientExited])
  attends : ∀ before layout after, events = before ++ .initialised layout :: after -> Registered final ->
    Recorded (attentionOf (initialView layout)) (∃ event ∈ after, BreaksOff event) final.world
      (final.viewState.lookup connectionId)

section Watching

def phone : Opening Unit :=
  { id := "zellij:dev", kind := .zellij, backend := (), session := "dev", rows := 24, cols := 80, readOnly := false }

def observer : Opening Unit :=
  { phone with readOnly := true }

def listening : Socket :=
  { checked := .ok (), path := "/run/zellij/dev", pathExists := true, connected := .ok () }

theorem listening_opens : Sending.runProgram (openAttach listening "dev" 24 80) { lasts := 1, received := [] } =
    (.ok (), { lasts := 0, received := [.attachClient 24 80 none none false] }) := rfl

-- A tab, two keys, a floating pane that is to fill the screen, a layout query, then the client goes away.
def working : List (Event Nat) :=
  [.initialised (.error "no layout"), .command ⟨0, false⟩ (.switchTab 3) .failed 9, .frame (.input [108, 115]) 9,
    .command ⟨1, false⟩ (.toggleFullscreen (PaneRef.terminal 5) none) (.answered true false none) 9,
    .command ⟨2, false⟩ (.queryLayout 8) .failed 9, .streamEnd]

-- One that may not type. The socket fails between the two halves of its second query.
def watching : List (Event Nat) :=
  [.initialised (.error "no layout"), .frame (.input [108, 115]) 9, .command ⟨0, false⟩ (.queryLayout 8) .failed 9,
    .command ⟨1, false⟩ (.queryLayout 9) .failed 1, .streamEnd, .deregister, .dropGuard 1]

end Watching

end Muxrd.Uplink
