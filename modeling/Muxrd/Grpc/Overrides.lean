import Muxrd.Grpc.Layout
import Muxrd.Relay.Views

set_option autoImplicit false

namespace Muxrd.Overrides

open Layout Inbound Attach
open Memory (Remembers remembers_attached remembers_run)
open Registry (mintConnectionId mintConnectionId_nonempty)

def activeTabs (response : Response) : Nat :=
  response.tabs.countP (·.active)

section ActiveTab

variable {view : Option RelayViewState} {snapshot : LayoutSnapshot}

theorem tabMsg_active_plain (unset : activeOverride view = none) (tab : TabSnapshot) :
    (tabMsg view tab).active = tab.active := by
  simp [tabMsg, unset]

theorem tabMsg_active_override {active : UInt64} (overrides : activeOverride view = some active) (tab : TabSnapshot) :
    (tabMsg view tab).active = decide (tab.tabId = active) := by
  simp [tabMsg, overrides]

theorem activeTabs_respond : activeTabs (respond view snapshot) =
    match activeOverride view with
    | none => snapshot.tabs.countP (·.active)
    | some active => (snapshot.tabs.map (·.tabId)).count active := by
  have counted : activeTabs (respond view snapshot) = snapshot.tabs.countP fun tab => (tabMsg view tab).active := by
    simp [activeTabs, respond, List.countP_map, Function.comp_def]
  rw [counted]
  cases overridden : activeOverride view with
  | none => simp [tabMsg_active_plain overridden]
  | some active =>
    simp only [tabMsg_active_override overridden, List.count, List.countP_map, Function.comp_def]
    exact List.countP_congr (by simp)

end ActiveTab

-- SwitchTab sets the remembered tab, SwitchSpace forgets it, and nothing else moves it.
def tabMemory : Memory UInt64 where
  read state := state.activeTab
  moved call last :=
    match call with
    | .goToTab tabId => some tabId
    | .switchSpace _ => none
    | _ => last
  sound := by
    intro query cmd call asked state
    cases cmd with
    | switchTab | focusPane | switchSpace =>
      obtain rfl := Option.some.inj asked
      rfl
    | toggleFullscreen pane hint =>
      obtain ⟨resolved, hinted, rfl⟩ := Option.map_eq_some_iff.mp asked
      simp [records, hinted]
    | queryLayout reply => simp [asks] at asked

/-- After any run of a relay, the layout its own client is shown has one active tab exactly when the tab
the run left the relay on, if any, is still in the snapshot. -/
theorem one_active_tab {Backend Answer State World : Type} {mux : MuxSender Answer State World}
    {opened : Opening Backend} {connectionId : String} {sender : State} {world : World}
    {viewState : ViewStateRegistry} {events : List (Event Answer)} {relay : Relay State World}
    (fresh : viewState.lookup connectionId = none)
    (ran : Transition.run (step mux) (attached mux opened connectionId sender world viewState) events = some relay)
    {snapshot : LayoutSnapshot} (distinct : (snapshot.tabs.map (·.tabId)).Nodup)
    (one : snapshot.tabs.countP (·.active) = 1) (viaRelay : Bool) (relayConnId : String) :
    activeTabs (respond (relayView relay.viewState viaRelay connectionId relayConnId) snapshot) = 1 ↔
      (shouldApplyViewStateOverride viaRelay connectionId relayConnId = true ->
        ∀ tab ∈ tabMemory.last mux (attached mux opened connectionId sender world viewState) none events,
          tab ∈ snapshot.tabs.map (·.tabId)) := by
  have start : Remembers tabMemory connectionId (attached mux opened connectionId sender world viewState) none := by
    have attaching : Remembers tabMemory connectionId (attached mux opened connectionId sender world viewState)
        (tabMemory.entry (viewState.lookup connectionId)) :=
      remembers_attached opened connectionId sender world viewState
    simpa [fresh, Memory.entry] using attaching
  have remembered := (remembers_run start ran).value
  rw [activeTabs_respond]
  cases own : shouldApplyViewStateOverride viaRelay connectionId relayConnId with
  | false => simpa [relayView, own, activeOverride] using one
  | true =>
    obtain rfl : relayConnId = connectionId := by simpa using (Bool.and_eq_true_iff.mp own).2
    have applied : activeOverride (relayView relay.viewState viaRelay relayConnId relayConnId) =
        tabMemory.entry (relay.viewState.lookup relayConnId) := by
      simp [relayView, own, activeOverride, Memory.entry, tabMemory, Option.bind_map]
    rw [applied, remembered]
    cases tabMemory.last mux (attached mux opened relayConnId sender world viewState) none events with
    | none => simpa using one
    | some active =>
      by_cases present : active ∈ snapshot.tabs.map (·.tabId)
      · have single := List.count_eq_one_of_mem distinct present
        simpa [single] using present
      · have absent := List.count_eq_zero_of_not_mem present
        simpa [absent] using present

section Closed

def shell (tabId : UInt64) (active : Bool) : TabSnapshot :=
  { tabId
    position := tabId.toUInt32
    name := "shell"
    active
    hasBell := false
    panesToHide := 0
    fullscreenActive := false
    floatingPanesVisible := false
    panes := [] }

def writable : Opening Unit :=
  { id := "zellij:dev", kind := .zellij, backend := (), session := "dev", rows := 24, cols := 80, readOnly := false }

def connection : String := mintConnectionId 1

def attachedWritable : Relay Unit Unit :=
  attached (MuxSender.answering false) writable connection () () ∅

-- The client switches to the second tab, which is then closed by a unary CloseTab or somebody else.
def switchedToSecond : List (Event (Except String Unit)) :=
  [.initialised (.ok { tabs := [shell 1 true, shell 2 false] }),
    .command ⟨0, false⟩ (.switchTab 2) .failed (.ok ())]

/-- The poll after the remembered tab was closed shows no active tab at all. -/
theorem closed_tab_hides_active :
    ∃ relay, Transition.run (step (MuxSender.answering false)) attachedWritable switchedToSecond = some relay ∧
      activeTabs (respond (relayView relay.viewState true connection connection) { tabs := [shell 1 true] }) = 0 :=
  ⟨_, rfl, by decide⟩

theorem one_active_tab_open :
    ∃ relay, Transition.run (step (MuxSender.answering false)) attachedWritable switchedToSecond = some relay ∧
      activeTabs (respond (relayView relay.viewState true connection connection)
        { tabs := [shell 1 true, shell 2 false] }) = 1 := by
  refine ⟨_, rfl, ?_⟩
  have ran : Transition.run (step (MuxSender.answering false)) attachedWritable switchedToSecond = some _ := rfl
  have last : tabMemory.last (MuxSender.answering false) attachedWritable none switchedToSecond = some 2 := rfl
  refine (one_active_tab rfl ran (by decide) (by decide) true connection).mpr ?_
  intro _ tab remembered
  obtain rfl : 2 = tab := Option.some.inj (last.symm.trans remembered)
  exact List.mem_cons_of_mem _ List.mem_cons_self

end Closed

end Muxrd.Overrides
