import Muxrd.Grpc.Overrides

set_option autoImplicit false

namespace Muxrd.Navigation

open Layout Inbound Attach Overrides
open Registry (mintConnectionId mintConnectionId_nonempty)

section Shown

def isPane (pane : PaneRef) (id : UInt32) (isPlugin : Bool) : Prop :=
  id = pane.id ∧ isPlugin = pane.isPlugin

def ShowsTab (view : Option RelayViewState) (snapshot : LayoutSnapshot) (tabId : UInt64) : Prop :=
  ∀ tab ∈ snapshot.tabs, ((tabMsg view tab).active = true ↔ tab.tabId = tabId)

def ShowsPane (view : Option RelayViewState) (tab : TabSnapshot) (pane : PaneRef) : Prop :=
  ∀ shown ∈ (tabMsg view tab).panes, (shown.isFocused = true ↔ isPane pane shown.id shown.isPlugin)

def Reflects (view : Option RelayViewState) (snapshot : LayoutSnapshot) (home : TabSnapshot) : RelayControl -> Prop
  | .switchTab _ => ShowsTab view snapshot home.tabId
  | .focusPane pane => ShowsTab view snapshot home.tabId ∧ ShowsPane view home pane
  | _ => True

def Leads (snapshot : LayoutSnapshot) (home : TabSnapshot) : RelayControl -> Prop
  | .switchTab tabId => home ∈ snapshot.tabs ∧ home.tabId = tabId
  | .focusPane pane => home ∈ snapshot.tabs ∧ ∃ shown ∈ home.panes,
    paneIsClientVisible shown.isPlugin = true ∧ isPane pane shown.id shown.isPlugin
  | _ => False

def Marks (snapshot : LayoutSnapshot) (home : TabSnapshot) : RelayControl -> Prop
  | .focusPane pane => (∀ tab ∈ snapshot.tabs, (tab.active = true ↔ tab.tabId = home.tabId)) ∧
    ∀ shown ∈ home.panes, paneIsClientVisible shown.isPlugin = true ->
      (shown.isFocused = true ↔ isPane pane shown.id shown.isPlugin)
  | _ => ∀ tab ∈ snapshot.tabs, (tab.active = true ↔ tab.tabId = home.tabId)

-- The tab the relay remembers once the command went through; FocusPane leaves it as it was.
def tabOf (before : Option UInt64) : RelayControl -> Option UInt64
  | .switchTab tabId => some tabId
  | _ => before

/-- The remembered tab is the one the command has led to, or without one the snapshot agrees by itself. -/
def AtHome (snapshot : LayoutSnapshot) (home : TabSnapshot) (cmd : RelayControl) : Option UInt64 -> Prop
  | some tab => tab = home.tabId
  | none => Marks snapshot home cmd

variable {view : Option RelayViewState} {snapshot : LayoutSnapshot} {home : TabSnapshot}

theorem showsTab_plain (unset : activeOverride view = none) :
    ShowsTab view snapshot home.tabId ↔ ∀ tab ∈ snapshot.tabs, (tab.active = true ↔ tab.tabId = home.tabId) := by
  simp only [ShowsTab, tabMsg_active_plain unset]

theorem showsTab_override {active : UInt64} (overrides : activeOverride view = some active)
    (member : home ∈ snapshot.tabs) : ShowsTab view snapshot home.tabId ↔ active = home.tabId := by
  simp only [ShowsTab, tabMsg_active_override overrides, decide_eq_true_eq]
  constructor
  · exact fun shown => ((shown home member).mpr rfl).symm
  · rintro rfl tab _
    rfl

theorem showsPane_iff {pane : PaneRef} : ShowsPane view home pane ↔
    ∀ shown ∈ home.panes, paneIsClientVisible shown.isPlugin = true ->
      ((paneMsg view (((activeOverride view).map fun active => decide (home.tabId = active)).getD false)
        shown).isFocused = true ↔ isPane pane shown.id shown.isPlugin) := by
  simp only [ShowsPane, tabMsg, List.forall_mem_map, List.mem_filter, and_imp]
  rfl

theorem showsPane_plain {pane : PaneRef} (unset : activeOverride view = none) : ShowsPane view home pane ↔
    ∀ shown ∈ home.panes, paneIsClientVisible shown.isPlugin = true ->
      (shown.isFocused = true ↔ isPane pane shown.id shown.isPlugin) := by
  simp [showsPane_iff, unset, paneMsg]

theorem showsPane_override {state : RelayViewState} {pane : PaneRef} (active : state.activeTab = some home.tabId)
    (focused : state.focusedPane = some pane) : ShowsPane (some state) home pane := by
  rw [showsPane_iff]
  intro shown _ _
  have own : (((activeOverride (some state)).map fun active => decide (home.tabId = active)).getD false) = true := by
    simp [activeOverride, active]
  simp only [own, paneMsg, if_true, Option.bind_some, focused, isPane, Bool.and_eq_true, decide_eq_true_eq]
  constructor
  · rintro ⟨plugin, id⟩
    exact ⟨id.symm, plugin.symm⟩
  · rintro ⟨id, plugin⟩
    exact ⟨plugin.symm, id.symm⟩

theorem reflects_plain {cmd : RelayControl} (unset : activeOverride view = none) (leads : Leads snapshot home cmd) :
    Reflects view snapshot home cmd ↔ Marks snapshot home cmd := by
  cases cmd with
  | switchTab tabId => exact showsTab_plain unset
  | focusPane pane => exact and_congr (showsTab_plain unset) (showsPane_plain unset)
  | _ => exact absurd leads id

theorem reflects_override {cmd : RelayControl} {state : RelayViewState} {active : UInt64} {query : FloatQuery}
    (overrides : (records query cmd state).activeTab = some active) (leads : Leads snapshot home cmd) :
    Reflects (some (records query cmd state)) snapshot home cmd ↔ active = home.tabId := by
  have overridden : activeOverride (some (records query cmd state)) = some active := overrides
  cases cmd with
  | switchTab tabId => exact showsTab_override overridden leads.1
  | focusPane pane =>
    constructor
    · exact fun reflects => (showsTab_override overridden leads.1).mp reflects.1
    · intro same
      refine ⟨(showsTab_override overridden leads.1).mpr same, ?_⟩
      exact showsPane_override (overrides.trans (congrArg some same)) rfl
  | _ => exact absurd leads id

end Shown

section Settled

variable {Answer State World : Type} {mux : MuxSender Answer State World} {relay next final : Relay State World}

def isNavigation : Event Answer -> Bool
  | .command _ (.queryLayout _) _ _ => false
  | .command _ _ _ _ => true
  | _ => false

structure Settled (connectionId : String) (entry : Option ViewStateEntry) (relay : Relay State World) : Prop where
  key : relay.connectionId = connectionId
  started : relay.phase ≠ .initialising
  held : relay.viewState.lookup connectionId = entry ∨ relay.viewState.lookup connectionId = none

theorem entryAfter_settled {event : Event Answer} (started : relay.phase ≠ .initialising)
    (later : isNavigation event = false) (taken : step mux relay event = some next) :
    entryAfter mux relay event = relay.viewState.lookup relay.connectionId ∨ entryAfter mux relay event = none := by
  cases event with
  | initialised layout => simp [step, started] at taken
  | deregister => exact .inr rfl
  | command ticket cmd query answer =>
    cases cmd with
    | queryLayout reply =>
      left
      unfold entryAfter
      cases relay.readOnly <;> rfl
    | _ => simp [isNavigation] at later
  | _ => exact .inl rfl

theorem settled_step {connectionId : String} {entry : Option ViewStateEntry} (relay : Relay State World)
    (event : Event Answer) (next : Relay State World) (settled : Settled connectionId entry relay)
    (later : isNavigation event = false) (taken : step mux relay event = some next) :
    Settled connectionId entry next := by
  obtain rfl := settled.key
  have left := step_entry taken
  constructor
  · exact step_connectionId taken
  · exact started_step settled.started taken
  · rw [left]
    rcases entryAfter_settled settled.started later taken with same | gone
    · rw [same]
      exact settled.held
    · exact .inr gone

theorem settled_run {connectionId : String} {entry : Option ViewStateEntry} {events : List (Event Answer)}
    (settled : Settled connectionId entry relay) (later : ∀ event ∈ events, isNavigation event = false)
    (ran : Transition.run (step mux) relay events = some final) : Settled connectionId entry final := by
  have meets : Transition.Meets (step mux) (fun _ event => isNavigation event = false) relay events :=
    Transition.meets_of_forall (fun event member _ => later event member) relay
  exact Transition.invariant_of_meets settled_step settled meets ran

end Settled

/-- What the own GetLayout shows after a SwitchTab or FocusPane went through, and no other command since. -/
theorem navigation_reflected {Backend Answer State World : Type} {mux : MuxSender Answer State World}
    {opened : Opening Backend} {random : BitVec 128} {sender : State} {world : World}
    {viewState : ViewStateRegistry} {before after : List (Event Answer)} {relay moved final : Relay State World}
    (writable : opened.readOnly = false)
    (reached : Transition.run (step mux)
      (attached mux opened (mintConnectionId random) sender world viewState) before = some relay)
    (ticket : Ticket) {cmd : RelayControl} {query : FloatQuery} (answer : Answer) {call : MuxCall}
    (asked : asks query cmd = some call)
    (navigated : step mux relay (.command ticket cmd query answer) = some moved)
    (done : (mux.call answer call relay.sender relay.world).1 = .ok ())
    (later : ∀ event ∈ after, isNavigation event = false)
    (ran : Transition.run (step mux) moved after = some final)
    {snapshot : LayoutSnapshot} {home : TabSnapshot} (leads : Leads snapshot home cmd) :
    Reflects (relayView final.viewState true (mintConnectionId random) (mintConnectionId random)) snapshot home cmd ↔
      AtHome snapshot home cmd (if (final.viewState.lookup (mintConnectionId random)).isSome then
        tabOf (tabMemory.entry (relay.viewState.lookup (mintConnectionId random))) cmd else none) := by
  have task := run_task reached
  have key : relay.connectionId = mintConnectionId random := congrArg Task.connectionId task
  have gate : relay.readOnly = false := (congrArg Task.readOnly task).trans writable
  have entry := step_entry navigated
  rw [key] at entry
  simp only [entryAfter, gate, asked, done] at entry
  rw [key] at entry
  have started : moved.phase ≠ .initialising := by
    simp only [step] at navigated
    split_ifs at navigated with running
    rw [← Option.some.inj navigated, (onControl_continues mux ticket cmd query answer relay).phase, running]
    simp
  have settled : Settled (mintConnectionId random)
      (viewAfter (records query cmd) (.ok ()) (relay.viewState.lookup (mintConnectionId random))) final :=
    settled_run { key := (step_connectionId navigated).trans key, started, held := .inl entry } later ran
  have own : shouldApplyViewStateOverride true (mintConnectionId random) (mintConnectionId random) = true := by
    simp [shouldApplyViewStateOverride, mintConnectionId_nonempty]
  simp only [relayView, own, if_true]
  cases held : final.viewState.lookup (mintConnectionId random) with
  | none =>
    have plain : Reflects none snapshot home cmd ↔ Marks snapshot home cmd := reflects_plain rfl leads
    simpa [AtHome] using plain
  | some last =>
    obtain ⟨old, found, rfl⟩ : ∃ old, relay.viewState.lookup (mintConnectionId random) = some old ∧
        { old with state := records query cmd old.state } = last := by
      rcases settled.held with same | gone
      · simpa [held, viewAfter, eq_comm] using same
      · simp [held] at gone
    have remembered : (records query cmd old.state).activeTab = tabOf (tabMemory.read old.state) cmd := by
      cases cmd with
      | switchTab tabId => rfl
      | focusPane pane => rfl
      | _ => exact absurd leads id
    simp only [Option.map_some, Option.isSome_some, if_true, found, Memory.entry, Option.bind_some]
    cases tab : tabOf (tabMemory.read old.state) cmd with
    | none => exact reflects_plain (remembered.trans tab) leads
    | some active => exact reflects_override (remembered.trans tab) leads

section Moved

def terminal (id : UInt32) (focused : Bool) : PaneSnapshot :=
  { id
    title := ""
    isFocused := focused
    isFloating := false
    exited := false
    command := ""
    cwd := ""
    x := 0
    y := 0
    rows := 24
    cols := 80
    isPlugin := false
    isFullscreen := false }

def firstTab (active : Bool) : TabSnapshot :=
  { shell 1 active with panes := [terminal 1 true, terminal 3 false] }

def secondTab (active : Bool) : TabSnapshot :=
  { shell 2 active with panes := [terminal 2 true] }

def attachedToFirst : List (Event (Except String Unit)) :=
  [.initialised (.ok { tabs := [firstTab true, secondTab false] })]

def focusing (pane : UInt32) : RelayControl :=
  .focusPane { id := pane, isPlugin := false }

/-- The relay is on the first tab and focuses the pane of the second: the poll goes on showing the first,
though the multiplexer itself reports the second. -/
theorem focused_pane_in_other_tab :
    ∃ relay moved, Transition.run (step (MuxSender.answering false)) attachedWritable attachedToFirst = some relay ∧
      step (MuxSender.answering false) relay (.command ⟨0, false⟩ (focusing 2) .failed (.ok ())) = some moved ∧
      Leads { tabs := [firstTab false, secondTab true] } (secondTab true) (focusing 2) ∧
      ¬ Reflects (relayView moved.viewState true connection connection)
        { tabs := [firstTab false, secondTab true] } (secondTab true) (focusing 2) := by
  refine ⟨_, _, rfl, rfl, ?_, ?_⟩
  · exact ⟨by decide, terminal 2 true, by decide, rfl, rfl, rfl⟩
  · intro reflects
    have shown := (reflects.1 (firstTab false) (by decide)).mp (by decide)
    exact absurd shown (by decide)

def switchedToFirst : List (Event (Except String Unit)) :=
  [.initialised (.error "no layout"), .command ⟨0, false⟩ (.switchTab 1) .failed (.ok ())]

theorem navigation_reflected_same_tab :
    ∃ relay moved, Transition.run (step (MuxSender.answering false)) attachedWritable switchedToFirst = some relay ∧
      step (MuxSender.answering false) relay (.command ⟨1, false⟩ (focusing 3) .failed (.ok ())) = some moved ∧
      Reflects (relayView moved.viewState true connection connection)
        { tabs := [firstTab false, secondTab true] } (firstTab false) (focusing 3) := by
  refine ⟨_, _, rfl, rfl, ?_⟩
  have reached : Transition.run (step (MuxSender.answering false)) attachedWritable switchedToFirst = some _ := rfl
  have leads : Leads { tabs := [firstTab false, secondTab true] } (firstTab false) (focusing 3) :=
    ⟨by decide, terminal 3 false, by decide, rfl, rfl, rfl⟩
  have asked : asks .failed (focusing 3) = some (.focusPane { id := 3, isPlugin := false }) := rfl
  have reflected := navigation_reflected rfl reached ⟨1, false⟩ (.ok ()) asked rfl rfl (List.forall_mem_nil _) rfl leads
  exact reflected.mpr rfl

end Moved

end Muxrd.Navigation
