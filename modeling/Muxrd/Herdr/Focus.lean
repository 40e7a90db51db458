import Muxrd.Herdr.Atomicity
import Muxrd.Relay.Arms

set_option autoImplicit false

namespace Muxrd.Herdr

open Framing Inbound Attach
open Arms (Arm Loop perform perform_asked perform_idle perform_calls performs_taken record_notes records_taken other_taken
  runsBeside noted)

structure Focus where
  workspaceId : String
  tabId : String
  paneId : String
  deriving DecidableEq, Repr

structure Focus.SeenBy (focus : Focus) (session : String) (api : Api) : Prop where
  workspace : ∀ id, resolveWorkspace api session = .ok id -> id = focus.workspaceId
  listed : ∀ workspaces, api.workspaceList = .ok workspaces -> ∃ found ∈ workspaces,
    found.workspaceId = focus.workspaceId
  activeTab : ∀ workspaces, api.workspaceList = .ok workspaces -> ∀ found ∈ workspaces,
    found.workspaceId = focus.workspaceId -> found.activeTabId = focus.tabId
  present : ∀ panes, api.paneList focus.workspaceId = .ok panes -> ∃ pane ∈ panes, pane.focused = true
  marked : ∀ panes, api.paneList focus.workspaceId = .ok panes -> ∀ pane ∈ panes,
    (pane.focused = true ↔ pane.paneId = focus.paneId)
  layout : ∀ request snapshot, api.paneLayout request = .ok snapshot -> snapshot.tabId = focus.tabId ->
    ∀ pane ∈ snapshot.panes, pane.focused = true -> pane.paneId = focus.paneId

def Knows (registry : HerdrPaneRegistry) (pane terminal : String) : Prop :=
  ∃ id, registry.idOf pane = some id ∧ registry.terminalId id = some terminal

section Pick

theorem knows_assigned {registry : HerdrPaneRegistry} {panes : Nat} (room : registry.hasRoom (panes + 1))
    (pane terminal : String) : Knows (registry.assignOrGet pane terminal).2 pane terminal :=
  ⟨_, HerdrPaneRegistry.idOf_assigned, HerdrPaneRegistry.terminalId_assigned room⟩

theorem Knows.other {registry : HerdrPaneRegistry} {pane terminal other : String} {panes : Nat}
    (knows : Knows registry pane terminal) (room : registry.hasRoom (panes + 1)) (apart : pane ≠ other)
    (otherTerminal : String) : Knows (registry.assignOrGet other otherTerminal).2 pane terminal := by
  obtain ⟨id, known, registered⟩ := knows
  refine ⟨id, HerdrPaneRegistry.idOf_stable known, ?_⟩
  rw [HerdrPaneRegistry.terminalId_other room known apart]
  exact registered

theorem pick_knows {paneId : String} (panes : List PaneInfo) (pick : Pick)
    (room : pick.registry.hasRoom panes.length)
    (marked : ∀ pane ∈ panes, (pane.focused = true ↔ pane.paneId = paneId))
    (holds : ∀ terminal, pick.focused = some terminal -> Knows pick.registry paneId terminal) :
    ∀ terminal, (panes.foldl (pickStep fun _ => true) pick).focused = some terminal ->
      Knows (panes.foldl (pickStep fun _ => true) pick).registry paneId terminal := by
  induction panes generalizing pick with
  | nil => exact holds
  | cons pane rest ih =>
    apply ih
    · exact HerdrPaneRegistry.hasRoom_assigned room
    · exact fun other member => marked other (List.mem_cons_of_mem _ member)
    · intro terminal focused
      have own := marked pane List.mem_cons_self
      by_cases here : pane.focused = true
      · obtain rfl : pane.terminalId = terminal := by simpa [pickStep, here] using focused
        rw [← own.mp here]
        exact knows_assigned room pane.paneId pane.terminalId
      · have before : pick.focused = some terminal := by simpa [pickStep, here] using focused
        have apart : paneId ≠ pane.paneId := fun same => here (own.mpr same.symm)
        exact (holds terminal before).other room apart pane.terminalId

theorem pick_finds (panes : List PaneInfo) (pick : Pick)
    (present : pick.focused ≠ none ∨ ∃ pane ∈ panes, pane.focused = true) :
    (panes.foldl (pickStep fun _ => true) pick).focused ≠ none := by
  induction panes generalizing pick with
  | nil => simpa using present
  | cons pane rest ih =>
    apply ih
    by_cases here : pane.focused = true
    · simp [pickStep, here]
    · rcases present with before | ⟨found, member, focused⟩
      · exact .inl (by simpa [pickStep, here] using before)
      · rcases List.mem_cons.mp member with rfl | later
        · contradiction
        · exact .inr ⟨found, later, focused⟩

end Pick

section Opening

variable {serialize : ClientMessage -> Except String (List UInt8)}

theorem resolveFocused_knows {focus : Focus} {session : String} {api : Api} {ids after : Ids}
    {terminal : String} (seen : focus.SeenBy session api)
    (room : ∀ panes, api.paneList focus.workspaceId = .ok panes -> ids.panes.hasRoom panes.length)
    (resolved : resolveFocusedTerminal api focus.workspaceId ids = (.ok terminal, after)) :
    Knows after.panes focus.paneId terminal := by
  unfold resolveFocusedTerminal at resolved
  cases listed : api.paneList focus.workspaceId with
  | error message => simp [listed] at resolved
  | ok panes =>
    have found := pick_finds panes (Pick.start ids.panes) (.inr (seen.present panes listed))
    have knows := pick_knows panes (Pick.start ids.panes) (room panes listed) (seen.marked panes listed)
      (by simp [Pick.start])
    obtain ⟨picked, focused⟩ := Option.ne_none_iff_exists'.mp found
    simp only [listed, pickTerminal, focused, Option.orElse_some, Prod.mk.injEq, Except.ok.injEq] at resolved
    rw [← resolved.2, ← resolved.1]
    exact knows picked focused

theorem handshake_attached {handshake : Handshake} {terminal : String} {rows cols : UInt16}
    {world after : World} {value : Unit}
    (done : handshakeSteps serialize handshake terminal rows cols world = (.ok value, after)) :
    after.ids = world.ids ∧ after.attachedTo = some (terminal, world.ids.panes) := by
  unfold handshakeSteps at done
  split at done
  · simp at done
  · split at done
    · simp at done
    next greeted greeting =>
      have greetedIds : greeted.ids = world.ids := by
        have ids := write_ids serialize "send herdr Hello: " (helloMessage rows cols) handshake.hello world
        rwa [greeting] at ids
      split at done
      · simp at done
      · split at done
        · simp at done
        · split at done
          · simp at done
          next attached attaching =>
            have attachedIds := write_ids serialize "send herdr AttachTerminal: "
              (.attachTerminal terminal true) handshake.attach greeted
            rw [attaching] at attachedIds
            rw [← (Prod.mk.inj done).2, ← greetedIds]
            exact ⟨attachedIds, write_attaches serialize attaching⟩

theorem openAttach_attached {focus : Focus} {session : String} {api : Api} {handshake : Handshake}
    {rows cols : UInt16} {ids : Ids} {sender : HerdrMuxSender} {world : World}
    (seen : focus.SeenBy session api)
    (room : ∀ panes, api.paneList focus.workspaceId = .ok panes -> ids.panes.hasRoom panes.length)
    (opened : openAttach serialize api handshake focus.workspaceId rows cols ids = (.ok sender, world)) :
    ∃ terminal, world.attachedTo = some (terminal, world.ids.panes) ∧
      Knows world.ids.panes focus.paneId terminal := by
  unfold openAttach at opened
  split at opened
  · simp at opened
  next terminal known resolved =>
    have knows := resolveFocused_knows seen room resolved
    dsimp only at opened
    split at opened
    · simp at opened
    next after done =>
      have attached := handshake_attached done
      obtain rfl : after = world := (Prod.mk.inj opened).2
      refine ⟨terminal, ?_, ?_⟩
      · rw [attached.2, attached.1]
      · rw [attached.1]
        exact knows

end Opening

section Shown

def Focus.Marks (focus : Focus) (layout : PaneLayoutSnapshot) : Prop :=
  layout.tabId = focus.tabId -> ∀ pane ∈ layout.panes, pane.focused = true -> pane.paneId = focus.paneId

theorem fetchLayouts_keyed {focus : Focus} {session : String} {daemon : Daemon}
    (seen : ∀ moment, focus.SeenBy session (daemon moment))
    (representative : AList (fun _ : String => String)) (request : Nat) (tabs : List TabInfo)
    (layouts : TabLayouts) {fetched : TabLayouts}
    (keyed : ∀ id layout, layouts.lookup id = some layout -> layout.tabId = id ∧ focus.Marks layout)
    (done : fetchLayouts daemon representative request tabs layouts = .ok fetched) :
    ∀ id layout, fetched.lookup id = some layout -> layout.tabId = id ∧ focus.Marks layout := by
  induction tabs generalizing request layouts with
  | nil =>
    obtain rfl : layouts = fetched := by simpa [fetchLayouts] using done
    exact keyed
  | cons tab rest ih =>
    unfold fetchLayouts at done
    split_ifs at done with known
    · exact ih request layouts keyed done
    · split at done
      · exact ih request layouts keyed done
      · split at done
        · contradiction
        next layout answered =>
          apply ih (request + 1) (layouts.insert layout.tabId layout) _ done
          intro id found present
          by_cases own : id = layout.tabId
          · subst own
            obtain rfl : layout = found := by simpa using present
            exact ⟨rfl, (seen request).layout _ layout answered⟩
          · rw [AList.lookup_insert_ne own] at present
            exact keyed id found present

theorem registerPanes_stable {paneId : String} {id : UInt32} (panes : List PaneInfo)
    (registry : HerdrPaneRegistry) (known : registry.idOf paneId = some id) :
    (registerPanes panes registry).idOf paneId = some id := by
  unfold registerPanes
  induction panes generalizing registry with
  | nil => exact known
  | cons pane rest ih =>
    apply ih
    exact HerdrPaneRegistry.idOf_stable known

variable {infos : AList (fun _ : String => PaneInfo)} {paneId : String} {id : UInt32}

theorem transcodePanes_stable {zoomed : Bool} (panes : List PaneLayoutPane) (registry : HerdrPaneRegistry)
    (known : registry.idOf paneId = some id) :
    (transcodePanes infos zoomed panes registry).2.idOf paneId = some id := by
  induction panes generalizing registry with
  | nil => exact known
  | cons pane rest ih =>
    apply ih
    exact HerdrPaneRegistry.idOf_stable known

theorem transcodePanes_focused {zoomed : Bool} (panes : List PaneLayoutPane)
    (registry : HerdrPaneRegistry)
    (known : registry.idOf paneId = some id)
    (marked : ∀ pane ∈ panes, pane.focused = true -> pane.paneId = paneId) :
    ∀ snapshot ∈ (transcodePanes infos zoomed panes registry).1, snapshot.isFocused = true ->
      snapshot.id = id := by
  induction panes generalizing registry with
  | nil => simp [transcodePanes]
  | cons pane rest ih =>
    intro snapshot member focused
    rcases List.mem_cons.mp member with rfl | after
    · have own : pane.paneId = paneId := marked pane List.mem_cons_self focused
      rw [← own] at known
      exact HerdrPaneRegistry.assignOrGet_known known
    · have stable : (transcodePane infos zoomed pane registry).2.idOf paneId = some id :=
        HerdrPaneRegistry.idOf_stable known
      have later (other : PaneLayoutPane) (inside : other ∈ rest) := marked other (List.mem_cons_of_mem _ inside)
      exact ih _ stable later snapshot after focused

theorem transcodeTabs_focused {focus : Focus} {layouts : TabLayouts}
    (keyed : ∀ tabId layout, layouts.lookup tabId = some layout -> layout.tabId = tabId ∧ focus.Marks layout)
    (tabs : List TabInfo) (ids : Ids) (known : ids.panes.idOf focus.paneId = some id) :
    ∀ tab ∈ (transcodeTabs infos layouts focus.tabId tabs ids).1, tab.active = true ->
      ∀ pane ∈ tab.panes, pane.isFocused = true -> pane.id = id := by
  induction tabs generalizing ids with
  | nil => simp [transcodeTabs]
  | cons tab rest ih =>
    intro snapshot member active
    rcases List.mem_cons.mp member with rfl | after
    · have own : tab.tabId = focus.tabId := by simpa [transcodeTab] using active
      apply transcodePanes_focused _ ids.panes known
      cases found : layouts.lookup tab.tabId with
      | none => simp
      | some layout =>
        obtain ⟨key, marks⟩ := keyed tab.tabId layout found
        exact marks (key.trans own)
    · exact ih _ (transcodePanes_stable _ ids.panes known) snapshot after active

theorem activeTab_found {focus : Focus} {session : String} {api : Api} (seen : focus.SeenBy session api)
    {workspaces : List WorkspaceInfo} (listed : api.workspaceList = .ok workspaces) :
    ((workspaces.find? (·.workspaceId = focus.workspaceId)).map (·.activeTabId)).getD "" = focus.tabId := by
  obtain ⟨entry, member, own⟩ := seen.listed workspaces listed
  have viewed : (workspaces.find? (·.workspaceId = focus.workspaceId)).isSome = true := by
    rw [List.find?_isSome]
    exact ⟨entry, member, by simpa using own⟩
  obtain ⟨found, first⟩ := Option.isSome_iff_exists.mp viewed
  have same : found.workspaceId = focus.workspaceId := by simpa using List.find?_some first
  simpa [first] using seen.activeTab workspaces listed found (List.mem_of_find?_eq_some first) same

theorem init_focused {focus : Focus} {session : String} {daemon : Daemon} {ids : Ids}
    {snapshot : LayoutSnapshot} {pane : PaneRef}
    (seen : ∀ moment, focus.SeenBy session (daemon moment))
    (known : ids.panes.idOf focus.paneId = some id)
    (queried : (backendQueryLayout daemon session ids).1 = .ok snapshot)
    (shown : (initRelayViewState snapshot).focusedPane = some pane) : pane.id = id := by
  have focused (active : ∀ tab ∈ snapshot.tabs, tab.active = true -> ∀ shown ∈ tab.panes,
      shown.isFocused = true -> shown.id = id) : pane.id = id := by
    simp only [initRelayViewState, Option.bind_eq_some_iff, Option.map_eq_some_iff] at shown
    obtain ⟨tab, isActive, found, isFocused, rfl⟩ := shown
    exact active tab (List.mem_of_find?_eq_some isActive) (by simpa using List.find?_some isActive) found
      (List.mem_of_find?_eq_some isFocused) (by simpa using List.find?_some isFocused)
  apply focused
  unfold backendQueryLayout at queried
  split at queried
  · contradiction
  next workspaceId resolved =>
    obtain rfl := (seen 0).workspace workspaceId resolved
    unfold queryLayout at queried
    split at queried
    · contradiction
    · contradiction
    · contradiction
    next workspaces tabs panes listed _ _ =>
      dsimp only at queried
      rw [activeTab_found (seen 1) listed] at queried
      split at queried
      · contradiction
      next layouts fetched =>
        have keyed := fetchLayouts_keyed (fun moment => seen (moment + 1)) _ 3 tabs ∅ (by simp) fetched
        obtain rfl := Except.ok.inj queried
        exact transcodeTabs_focused keyed tabs _ (registerPanes_stable panes ids.panes known)

end Shown

section Calls

variable {serialize : ClientMessage -> Except String (List UInt8)} {answer : Answer}
  {sender senderAfter : HerdrMuxSender} {world after : World}

def AttachedTo (world : World) (pane : PaneRef) : Prop :=
  ∃ terminal registry, world.attachedTo = some (terminal, registry) ∧
    registry.terminalId pane.id = some terminal

theorem reattach_failed {terminal message : String} {socket : SocketWrite}
    (failed : reattach serialize terminal socket sender world = (.error message, senderAfter, after)) :
    after.attachedTo = world.attachedTo := by
  unfold reattach at failed
  split at failed
  next written =>
    rw [← (Prod.mk.inj (Prod.mk.inj failed).2).2]
    exact write_failed serialize written
  · simp at failed

theorem reattach_done {terminal : String} {value : Unit} {socket : SocketWrite}
    (done : reattach serialize terminal socket sender world = (.ok value, senderAfter, after)) :
    after.attachedTo = some (terminal, world.ids.panes) := by
  unfold reattach at done
  split at done
  · simp at done
  next written =>
    rw [← (Prod.mk.inj (Prod.mk.inj done).2).2]
    exact write_attaches serialize written

theorem call_stays (sender : HerdrMuxSender) (muxCall : MuxCall) (stays : muxCall.repoints = false) :
    (call serialize answer muxCall sender world).2.2.attachedTo = world.attachedTo := by
  cases muxCall with
  | goToTab | focusPane | switchSpace => simp [MuxCall.repoints] at stays
  | toggleFullscreen pane hint =>
    simp only [call, toggleFullscreen]
    split <;> rfl
  | sendInputChars _ | sendInputBytes _ | sendResize _ _ | sendClientExited =>
    exact write_elsewise serialize "herdr wire write failed: " rfl
  | queryLayout | queryLayoutResult => rfl

theorem call_failed {muxCall : MuxCall} {message : String}
    (failed : call serialize answer muxCall sender world = (.error message, senderAfter, after)) :
    after.attachedTo = world.attachedTo := by
  have stays (other : muxCall.repoints = false) : after.attachedTo = world.attachedTo := by
    have kept := @call_stays serialize answer world sender muxCall other
    rwa [failed] at kept
  cases muxCall with
  | goToTab tabId =>
    simp only [call, goToTab] at failed
    split at failed
    · rw [← (Prod.mk.inj (Prod.mk.inj failed).2).2]
    · split at failed
      · rw [← (Prod.mk.inj (Prod.mk.inj failed).2).2]
        rfl
      · have same := reattach_failed failed
        exact same
  | focusPane pane =>
    simp only [call, focusPane] at failed
    split at failed
    · rw [← (Prod.mk.inj (Prod.mk.inj failed).2).2]
    · exact reattach_failed failed
  | switchSpace spaceId =>
    simp only [call, switchSpace] at failed
    split at failed
    · rw [← (Prod.mk.inj (Prod.mk.inj failed).2).2]
      rfl
    · split at failed
      next stopped =>
        have same := reattach_failed stopped
        rw [← (Prod.mk.inj (Prod.mk.inj failed).2).2]
        exact same
      · simp at failed
  | _ => exact stays rfl

theorem focusPane_done {pane : PaneRef} {value : Unit}
    (done : call serialize answer (.focusPane pane) sender world = (.ok value, senderAfter, after)) :
    AttachedTo after pane := by
  simp only [call, focusPane] at done
  split at done
  · simp at done
  next terminal registered => exact ⟨terminal, world.ids.panes, reattach_done done, registered⟩

-- A toggle zooms and leaves the wire where it is.
theorem toggle_done {pane : PaneRef} {value : Unit}
    (done : toggleFullscreen answer pane sender world = (.ok value, senderAfter, after)) :
    after = world ∧ (zoomPane answer.daemon pane.id world.ids).isOk = true := by
  unfold toggleFullscreen at done
  split at done
  · simp at done
  next ack zoomed =>
    constructor
    · exact (Prod.mk.inj (Prod.mk.inj done).2).2.symm
    · simp [zoomed, Except.isOk, Except.toBool]

end Calls

section Steps

variable {serialize : ClientMessage -> Except String (List UInt8)} {focus : Focus} {connectionId : String}
  {loop next : Loop HerdrMuxSender World} {relay : Relay HerdrMuxSender World}

structure Synced (focus : Focus) (connectionId : String) (loop : Loop HerdrMuxSender World) : Prop where
  key : loop.relay.connectionId = connectionId
  busy : loop.arm.isSome = true -> loop.relay.phase = .running
  starting : loop.relay.phase = .initialising -> loop.relay.pool = [] ∧
    ∃ id, loop.relay.world.ids.panes.idOf focus.paneId = some id ∧
      ∀ pane : PaneRef, pane.id = id -> AttachedTo loop.relay.world pane
  shown : ∀ entry pane, loop.settled = some entry -> entry.state.focusedPane = some pane ->
    AttachedTo loop.relay.world pane

/-- The steps after which the two still agree: the first view state is queried while herdr's focus
stays as it was, and a toggle that goes through and does not hide is of the pane the wire is on. -/
def Agrees (session : String) (focus : Focus) (loop : Loop HerdrMuxSender World) : Arms.Event Answer -> Prop
  | .other (.initialised layout) =>
    (∃ message, layout = .error message) ∨
      ∃ daemon : Daemon, (∀ moment, focus.SeenBy session (daemon moment)) ∧
        layout = (backendQueryLayout daemon session loop.relay.world.ids).1
  | .performs query answer =>
    ∀ ticket pane hint, loop.arm = some ⟨ticket, .toggleFullscreen pane hint, .taken⟩ ->
      ∀ resolved, resolveHint pane hint query = some resolved -> isHide resolved = false ->
        (zoomPane answer.daemon pane.id loop.relay.world.ids).isOk = true -> AttachedTo loop.relay.world pane
  | _ => True

theorem attachedTo_congr {world after : World} {pane : PaneRef}
    (same : after.attachedTo = world.attachedTo)
    (attached : AttachedTo world pane) : AttachedTo after pane := by
  unfold AttachedTo
  rw [same]
  exact attached

theorem Synced.keep (synced : Synced focus connectionId loop)
    (key : next.relay.connectionId = loop.relay.connectionId) (arm : next.arm = loop.arm)
    (busy : next.arm.isSome = true -> next.relay.phase = .running)
    (starting : next.relay.phase = .initialising -> loop.relay.phase = .initialising ∧ next.relay.pool = loop.relay.pool ∧
      ∀ id, loop.relay.world.ids.panes.idOf focus.paneId = some id ->
        next.relay.world.ids.panes.idOf focus.paneId = some id)
    (attached : next.relay.world.attachedTo = loop.relay.world.attachedTo) (shown : next.shown = loop.shown) :
    Synced focus connectionId next := by
  have settled : next.settled = loop.settled := by
    unfold Loop.settled
    rw [arm, shown]
  constructor
  · exact key.trans synced.key
  · exact busy
  · intro phase
    obtain ⟨before, pool, stable⟩ := starting phase
    obtain ⟨empty, id, known, own⟩ := synced.starting before
    refine ⟨pool.trans empty, id, stable id known, ?_⟩
    intro pane same
    exact attachedTo_congr attached (own pane same)
  · intro entry pane found focused
    rw [settled] at found
    exact attachedTo_congr attached (synced.shown entry pane found focused)

theorem recorded_attached {query : FloatQuery} {cmd : RelayControl} {muxCall : MuxCall} {answer : Answer}
    {sender left : HerdrMuxSender} {world after : World} {value : Unit} (asked : asks query cmd = some muxCall)
    (called : call serialize answer muxCall sender world = (.ok value, left, after))
    (agrees : ∀ pane hint, cmd = .toggleFullscreen pane hint -> ∀ resolved, resolveHint pane hint query = some resolved ->
      isHide resolved = false -> (zoomPane answer.daemon pane.id world.ids).isOk = true -> AttachedTo world pane)
    {view : RelayViewState} {pane : PaneRef} (focused : (records query cmd view).focusedPane = some pane) :
    AttachedTo after pane := by
  cases cmd with
  | switchTab tabId => simp [records] at focused
  | switchSpace workspaceId reply => simp [records] at focused
  | queryLayout reply => simp [asks] at asked
  | focusPane shown =>
    obtain rfl := Option.some.inj asked
    obtain rfl : shown = pane := by simpa [records] using focused
    exact focusPane_done called
  | toggleFullscreen shown hint =>
    obtain ⟨resolved, hinted, rfl⟩ := Option.map_eq_some_iff.mp asked
    obtain ⟨rfl, zoomed⟩ := toggle_done called
    rw [records_toggle hinted] at focused
    cases hides : isHide resolved with
    | true => simp [hides] at focused
    | false =>
      obtain rfl : shown = pane := by simpa [hides] using focused
      exact agrees shown hint rfl resolved hinted hides zoomed

theorem synced_performs {session : String} (synced : Synced focus connectionId loop) {ticket : Ticket}
    {cmd : RelayControl} (arm : loop.arm = some ⟨ticket, cmd, .taken⟩) (query : FloatQuery) (answer : Answer)
    (agrees : Agrees session focus loop (.performs query answer)) :
    Synced focus connectionId
      { relay := (perform (muxSender serialize) ticket cmd query answer loop.relay).2
        arm := some ⟨ticket, cmd, .called query
          (perform (muxSender serialize) ticket cmd query answer loop.relay).1⟩ } := by
  have calls := perform_calls (muxSender serialize) ticket cmd query answer loop.relay
  have running : _ = Phase.running := calls.phase.trans (synced.busy (by simp [arm]))
  have before := synced.shown
  rw [show loop.settled = loop.shown by simp [Loop.settled, arm]] at before
  set performed := perform (muxSender serialize) ticket cmd query answer loop.relay with performing
  have shown (after : Option Arm) : ({ relay := performed.2, arm := after } : Loop _ _).shown = loop.shown := by
    rw [Arms.shown_of_task calls.task, calls.viewState]
    rfl
  refine { key := (congrArg Task.connectionId calls.task).trans synced.key, busy := fun _ => running,
           starting := fun phase => absurd (running.symm.trans phase) (by simp), shown := ?_ }
  simp only [Loop.settled, shown]
  by_cases idle : loop.relay.readOnly = true ∨ asks query cmd = none
  · obtain ⟨result, _, world⟩ := perform_idle (muxSender serialize) ticket answer rfl idle
    rw [← performing] at result world
    simpa only [result, world, noted] using before
  · push Not at idle
    obtain ⟨muxCall, asked⟩ := Option.ne_none_iff_exists'.mp idle.2
    have called := perform_asked (muxSender serialize) ticket answer
      (by simpa using idle.1) asked
    rw [← performing] at called
    rcases made : call serialize answer muxCall loop.relay.sender loop.relay.world with ⟨message | done, left, after⟩
    · have kept := call_failed made
      have world : performed.2.world = after := by
        rw [called]
        exact congrArg (fun outcome => outcome.2.2) made
      have result : performed.1 = some (.error message) := by
        rw [called]
        exact congrArg (fun outcome => some outcome.1) made
      rw [result, world]
      exact fun entry pane found focused => attachedTo_congr kept (before entry pane found focused)
    · have world : performed.2.world = after := by
        rw [called]
        exact congrArg (fun outcome => outcome.2.2) made
      have result : performed.1 = some (.ok done) := by
        rw [called]
        exact congrArg (fun outcome => some outcome.1) made
      rw [result, world]
      intro entry pane found focused
      obtain ⟨old, _, rfl⟩ := Option.map_eq_some_iff.mp found
      apply recorded_attached asked made _ focused
      rintro toggled hint rfl
      exact agrees ticket toggled hint arm

theorem synced_records (synced : Synced focus connectionId loop) {ticket : Ticket} {cmd : RelayControl}
    {query : FloatQuery} {result : Option (Except String Unit)}
    (arm : loop.arm = some ⟨ticket, cmd, .called query result⟩) :
    Synced focus connectionId { relay := Arms.record cmd query result loop.relay, arm := none } := by
  have notes := record_notes cmd query result loop.relay
  have running : _ = Phase.running := notes.phase.trans (synced.busy (by simp [arm]))
  have shown : ({ relay := Arms.record cmd query result loop.relay, arm := none } : Loop _ _).settled =
      loop.settled := by
    change Loop.shown _ = _
    rw [Arms.shown_of_task notes.task, notes.view]
    simp only [Loop.settled, arm]
    rfl
  refine { key := (congrArg Task.connectionId notes.task).trans synced.key, busy := by simp,
           starting := fun phase => absurd (running.symm.trans phase) (by simp), shown := ?_ }
  rw [shown, notes.world]
  exact synced.shown

theorem synced_initialised {session : String} (synced : Synced focus connectionId loop)
    {layout : Except String LayoutSnapshot}
    (idle : loop.arm = none) (agrees : Agrees session focus loop (.other (.initialised layout)))
    (taken : step (muxSender serialize) loop.relay (.initialised layout) = some relay) :
    Synced focus connectionId { loop with relay } := by
  have shown := (Arms.shown_of_task (step_task taken) loop.arm).trans (step_entry taken)
  have after : ({ loop with relay } : Loop _ _).arm = none := idle
  have settled := (Arms.settled_of_idle after).trans shown
  simp only [step] at taken
  split_ifs at taken with starting
  obtain ⟨_, id, known, own⟩ := synced.starting starting
  obtain rfl := Option.some.inj taken
  refine { key := synced.key, busy := by simp [idle], starting := by simp, shown := ?_ }
  intro entry pane found focused
  obtain rfl := Option.some.inj (settled.symm.trans found)
  apply own
  rcases agrees with ⟨message, rfl⟩ | ⟨daemon, seen, queried⟩
  · simp [initialView] at focused
  · cases layout with
    | error message => simp [initialView] at focused
    | ok snapshot => exact init_focused seen known queried.symm focused

theorem frame_attachedTo (relay : Relay HerdrMuxSender World) (frame : ClientFrame) (answer : Answer) :
    (onFrame (muxSender serialize) answer frame relay).world.attachedTo = relay.world.attachedTo := by
  -- Input and resizes go to the terminal the wire is on.
  cases frame with
  | attach req => rfl
  | empty => rfl
  | resize rows cols =>
    simp only [onFrame]
    split_ifs
    · rfl
    · exact call_stays relay.sender (.sendResize _ _) rfl
  | input bytes =>
    simp only [onFrame, forwardInput]
    split_ifs
    · rfl
    · rfl
    · split
      next text _ => exact call_stays relay.sender (.sendInputChars text) rfl
      · exact call_stays relay.sender (.sendInputBytes bytes) rfl

theorem synced_other {session : String} (synced : Synced focus connectionId loop) {event : Event Answer}
    (beside : runsBeside loop.arm event = true) (agrees : Agrees session focus loop (.other event))
    (taken : step (muxSender serialize) loop.relay event = some relay) :
    Synced focus connectionId { loop with relay } := by
  have shown := (Arms.shown_of_task (step_task taken) loop.arm).trans (step_entry taken)
  have busy (working : loop.arm.isSome = true) : relay.phase = .running :=
    (Arms.beside_busy working beside taken).1.trans (synced.busy working)
  cases event with
  | command => simp [runsBeside] at beside
  | initialised layout => exact synced_initialised synced (by simpa [runsBeside] using beside) agrees taken
  | recheck valid =>
    simp only [step] at taken
    split_ifs at taken with running
    · obtain rfl := Option.some.inj taken
      exact synced.keep rfl rfl busy (by simp [running]) rfl shown
    · obtain rfl := Option.some.inj taken
      exact synced.keep rfl rfl busy (by simp) rfl shown
  | streamError | streamEnd =>
    simp only [step] at taken
    split_ifs at taken
    obtain rfl := Option.some.inj taken
    exact synced.keep rfl rfl busy (by simp) rfl shown
  | frame frame answer =>
    simp only [step] at taken
    split_ifs at taken with running
    obtain rfl := Option.some.inj taken
    obtain ⟨sender, world, spec⟩ := onFrame_spec (muxSender serialize) answer frame loop.relay
    have still : (onFrame (muxSender serialize) answer frame loop.relay).phase = .running := by
      rw [spec]
      exact running
    refine synced.keep (by rw [spec]) rfl busy ?_ (frame_attachedTo loop.relay frame answer) shown
    exact fun phase => absurd (still.symm.trans phase) (by simp)
  | deregister =>
    have idle : loop.arm = none := by simpa [runsBeside] using beside
    have after : ({ loop with relay } : Loop _ _).arm = none := idle
    have settled := (Arms.settled_of_idle after).trans shown
    simp only [step] at taken
    split_ifs at taken
    obtain rfl := Option.some.inj taken
    refine { key := synced.key, busy := by simp [idle], starting := by simp, shown := ?_ }
    exact fun entry pane found => absurd (settled.symm.trans found) (by simp [entryAfter])
  | cancelled answer | dropGuard answer =>
    simp only [step] at taken
    split_ifs at taken
    obtain rfl := Option.some.inj taken
    refine synced.keep rfl rfl busy (by simp [dropGuard]) ?_ shown
    simp only [dropGuard]
    split_ifs
    · exact call_stays loop.relay.nudge .sendClientExited rfl
    · exact call_stays loop.relay.nudge (.sendResize _ _) rfl
  | layoutTask index answer =>
    simp only [step] at taken
    split at taken
    next waiting =>
      obtain rfl := Option.some.inj taken
      refine synced.keep rfl rfl busy ?_ rfl shown
      intro starting
      have empty := (synced.starting starting).1
      simp [empty] at waiting
    · contradiction
  | renderThreadEnds =>
    obtain rfl := Option.some.inj taken
    exact synced.keep rfl rfl busy (fun starting => ⟨starting, rfl, fun _ known => known⟩) rfl shown
  | sibling other entry =>
    simp only [step] at taken
    split_ifs at taken
    obtain rfl := Option.some.inj taken
    exact synced.keep rfl rfl busy (fun starting => ⟨starting, rfl, fun _ known => known⟩) rfl shown
  | elsewhere answer =>
    obtain rfl := Option.some.inj taken
    refine synced.keep rfl rfl busy ?_ rfl shown
    exact fun starting => ⟨starting, rfl, fun id known => registerPanes_stable answer.seenPanes _ known⟩

theorem synced_step {session : String} (loop : Loop HerdrMuxSender World) (event : Arms.Event Answer)
    (next : Loop HerdrMuxSender World) (synced : Synced focus connectionId loop)
    (agrees : Agrees session focus loop event) (taken : Arms.step (muxSender serialize) loop event = some next) :
    Synced focus connectionId next := by
  cases event with
  | takes ticket cmd =>
    obtain ⟨⟨running, idle⟩, same⟩ := Option.ite_none_right_eq_some.mp taken
    obtain rfl := Option.some.inj same
    have settled : loop.settled = loop.shown := by simp only [Loop.settled, idle]
    have shown := synced.shown
    rw [settled] at shown
    exact { synced with busy := fun _ => running, shown }
  | performs query answer =>
    obtain ⟨ticket, cmd, arm, rfl⟩ := performs_taken taken
    exact synced_performs synced arm query answer agrees
  | records =>
    obtain ⟨ticket, cmd, query, result, arm, rfl⟩ := records_taken taken
    exact synced_records synced arm
  | other event =>
    obtain ⟨relay, beside, moved, rfl⟩ := other_taken taken
    exact synced_other synced beside agrees moved

theorem loop_logged (loop : Loop HerdrMuxSender World) (event : Arms.Event Answer) (next : Loop HerdrMuxSender World)
    (logged : loop.relay.world.Logged serialize) (taken : Arms.step (muxSender serialize) loop event = some next) :
    next.relay.world.Logged serialize := by
  cases event with
  | takes ticket cmd =>
    obtain ⟨_, same⟩ := Option.ite_none_right_eq_some.mp taken
    rw [← Option.some.inj same]
    exact logged
  | performs query answer =>
    obtain ⟨ticket, cmd, arm, rfl⟩ := performs_taken taken
    by_cases idle : loop.relay.readOnly = true ∨ asks query cmd = none
    · obtain ⟨_, _, world⟩ := perform_idle (muxSender serialize) ticket answer rfl idle
      rw [world]
      exact logged
    · push Not at idle
      obtain ⟨muxCall, asked⟩ := Option.ne_none_iff_exists'.mp idle.2
      rw [perform_asked _ _ _ (by simpa using idle.1) asked]
      exact call_logged logged answer muxCall _
  | records =>
    obtain ⟨ticket, cmd, query, result, arm, rfl⟩ := records_taken taken
    rw [(record_notes cmd query result loop.relay).world]
    exact logged
  | other event =>
    obtain ⟨relay, beside, moved, rfl⟩ := other_taken taken
    rcases step_world moved with same | ⟨answer, given, stepped⟩
    · rw [same]
      exact logged
    · exact worldStep_logged logged stepped

end Steps

section Runs

variable {Backend : Type}

def twoPanes : Api :=
  { workspaceList := .ok [{ workspaceId := "w1", label := "main", focused := true, activeTabId := "tab1" }]
    tabList := fun _ => .ok [{ tabId := "tab1", number := 1, label := "shell" }]
    paneList := fun _ =>
      .ok [{ paneId := "p1", terminalId := "t1", tabId := "tab1", focused := true, cwd := none, label := none,
             title := none },
        { paneId := "p2", terminalId := "t2", tabId := "tab1", focused := false, cwd := none, label := none,
          title := none }]
    paneLayout := fun _ =>
      .ok { tabId := "tab1", zoomed := false,
            panes := [{ paneId := "p1", focused := true, rect := { x := 0, y := 0, width := 40, height := 24 } },
              { paneId := "p2", focused := false, rect := { x := 40, y := 0, width := 40, height := 24 } }] }
    paneZoom := fun _ => .ok { ok := true, error := none, info := none } }

def firstPane : Focus :=
  { workspaceId := "w1", tabId := "tab1", paneId := "p1" }

theorem firstPane_seen : firstPane.SeenBy "herdr" twoPanes := by
  constructor
  · intro id resolved
    exact (Except.ok.inj resolved).symm
  · intro workspaces listed
    obtain rfl := Except.ok.inj listed
    decide
  · intro workspaces listed
    obtain rfl := Except.ok.inj listed
    decide
  · intro panes listed
    obtain rfl := Except.ok.inj listed
    decide
  · intro panes listed
    obtain rfl := Except.ok.inj listed
    decide
  · intro request layout answered
    obtain rfl := Except.ok.inj answered
    decide

def openedOnFirst : Except String HerdrMuxSender × World :=
  backendOpenAttach standard (fun _ => twoPanes) smooth writer.session writer.rows writer.cols noIds

def attachedToFirst : Loop HerdrMuxSender World :=
  { relay := attached (muxSender standard) writer "c1" { workspaceId := "w1", currentTerminalId := "t1" }
      openedOnFirst.2 ∅
    arm := none }

def answeredBy (api : Api) : Answer :=
  { daemon := fun _ => api, socket := takesAll, seenPanes := [], seenTabs := [] }

-- The view-state query of the attach, then a toggle: herdr has no floating panes to report.
def toggled (pane : PaneRef) : List (Arms.Event Answer) :=
  [.other (.initialised (backendQueryLayout (fun _ => twoPanes) "herdr" openedOnFirst.2.ids).1),
    .takes ⟨0, false⟩ (.toggleFullscreen pane none), .performs (.answered false false none) (answeredBy twoPanes),
    .records]

instance (world : World) (pane : PaneRef) : Decidable (AttachedTo world pane) :=
  match attached : world.attachedTo with
  | none => .isFalse (by simp [AttachedTo, attached])
  | some (terminal, registry) =>
    decidable_of_iff (registry.terminalId pane.id = some terminal) (by simp [AttachedTo, attached])

end Runs

end Muxrd.Herdr
