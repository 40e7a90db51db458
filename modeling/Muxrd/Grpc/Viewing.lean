import Muxrd.Grpc.Siblings
import Muxrd.Herdr.Frames
import Muxrd.Relay.Arms

set_option autoImplicit false

namespace Muxrd.Viewing

open Inbound Attach Herdr
open Arms (Loop perform perform_calls perform_asked perform_idle performs_taken record record_notes records_taken
  runsBeside other_taken recordsSpace recordedSpace)
open Spaces (Space markedSpaces connectionCurrentSpace)
open Siblings (Peers getSpaces)
open Registry (mintConnectionId mintConnectionId_nonempty)

variable {serialize : ClientMessage -> Except String (List UInt8)}

-- Only a space switch that goes through moves a sender to another workspace.
def workspaceAfter (result : Except String Unit) (muxCall : MuxCall) (workspaceId : String) : String :=
  match result, muxCall with
  | .ok _, .switchSpace spaceId => spaceId
  | _, _ => workspaceId

theorem stays_of_other {muxCall : MuxCall} {workspaceId : String} (result : Except String Unit)
    (other : ∀ spaceId, muxCall ≠ .switchSpace spaceId) :
    workspaceAfter result muxCall workspaceId = workspaceId := by
  unfold workspaceAfter
  split
  next value spaceId => exact absurd rfl (other spaceId)
  · rfl

section Calls

variable {sender : HerdrMuxSender} {world : World}

theorem reattach_workspace (terminalId : String) (socket : SocketWrite) :
    (reattach serialize terminalId socket sender world).2.1.workspaceId = sender.workspaceId := by
  unfold reattach
  split <;> rfl

theorem call_workspace (answer : Answer) (muxCall : MuxCall) :
    (call serialize answer muxCall sender world).2.1.workspaceId =
      workspaceAfter (call serialize answer muxCall sender world).1 muxCall sender.workspaceId := by
  cases muxCall with
  | switchSpace spaceId =>
    simp only [call, switchSpace]
    split
    · rfl
    next terminalId ids resolved =>
      rcases moved : reattach serialize terminalId answer.socket sender { world with ids } with ⟨_ | _, after, left⟩
      · have same : (reattach serialize terminalId answer.socket sender { world with ids }).2.1.workspaceId =
            sender.workspaceId := reattach_workspace terminalId answer.socket
        rw [moved] at same
        exact same
      · rfl
  | goToTab tabId =>
    rw [stays_of_other _ (by simp)]
    simp only [call, goToTab]
    split
    · rfl
    · split
      · rfl
      · exact reattach_workspace _ _
  | focusPane pane =>
    rw [stays_of_other _ (by simp)]
    simp only [call, focusPane]
    split
    · rfl
    · exact reattach_workspace _ _
  | toggleFullscreen pane hint =>
    rw [stays_of_other _ (by simp)]
    simp only [call, toggleFullscreen]
    split <;> rfl
  | _ => exact (stays_of_other _ (by simp)).symm

end Calls

-- SwitchSpace is what the relay records, and nothing else.
def spaceMemory : Memory String where
  read state := state.currentSpace
  moved call last :=
    match call with
    | .switchSpace spaceId => some spaceId
    | _ => last
  sound := by
    intro query cmd call asked state
    cases cmd with
    | switchTab | focusPane | switchSpace =>
      obtain rfl := Option.some.inj asked
      rfl
    | toggleFullscreen pane hint =>
      obtain ⟨resolved, hinted, rfl⟩ := Option.map_eq_some_iff.mp asked
      simp [records, hinted]
    | queryLayout reply => simp [asks] at asked

section InStep

variable {loop next : Loop HerdrMuxSender World} {relay : Relay HerdrMuxSender World} {connectionId session : String}

structure InStep (connectionId session : String) (loop : Loop HerdrMuxSender World) : Prop where
  key : loop.relay.connectionId = connectionId
  opened : loop.relay.session = session
  busy : loop.arm.isSome = true -> loop.relay.phase = .running
  registered : loop.relay.phase = .running -> loop.shown.isSome = true
  owned : ∀ entry, loop.shown = some entry -> entry.session = session
  space : ∀ spaceId, spaceMemory.entry loop.settled = some spaceId -> loop.relay.sender.workspaceId = spaceId

theorem frame_workspace (relay : Relay HerdrMuxSender World) (frame : ClientFrame) (answer : Answer) :
    (senderAfter (muxSender serialize) relay (.frame frame answer)).workspaceId = relay.sender.workspaceId := by
  simp only [senderAfter]
  cases called : frameCall relay.readOnly frame with
  | none => rfl
  | some muxCall =>
    refine (call_workspace answer muxCall).trans ?_
    cases frame with
    | input bytes =>
      simp only [frameCall] at called
      split_ifs at called
      split at called <;> rw [← Option.some.inj called] <;> simp [workspaceAfter]
    | resize rows cols =>
      simp only [frameCall] at called
      split_ifs at called
      rw [← Option.some.inj called]
      simp [workspaceAfter]
    | attach req => simp [frameCall] at called
    | empty => simp [frameCall] at called

theorem viewAfter_session {update : RelayViewState -> RelayViewState} {result : Except String Unit}
    {registered : Option ViewStateEntry} (owned : ∀ entry, registered = some entry -> entry.session = session)
    (entry : ViewStateEntry) (found : viewAfter update result registered = some entry) : entry.session = session := by
  cases result with
  | error message => exact owned entry found
  | ok value =>
    obtain ⟨old, registered, rfl⟩ := Option.map_eq_some_iff.mp found
    exact owned old registered

theorem kept_space {result : Except String Unit} {muxCall : MuxCall} {recorded : Option String} {workspaceId : String}
    (before : ∀ spaceId, recorded = some spaceId -> workspaceId = spaceId) (spaceId : String)
    (after : spaceMemory.kept result muxCall recorded = some spaceId) :
    workspaceAfter result muxCall workspaceId = spaceId := by
  cases result with
  | error message => exact before spaceId after
  | ok value =>
    cases muxCall with
    | switchSpace target => exact Option.some.inj after
    | _ => exact before spaceId after

theorem InStep.keep (inStep : InStep connectionId session loop) (task : next.relay.task = loop.relay.task)
    (arm : next.arm = loop.arm) (phase : next.relay.phase = .running -> loop.relay.phase = .running)
    (busy : next.arm.isSome = true -> next.relay.phase = .running) (shown : next.shown = loop.shown)
    (same : next.relay.sender.workspaceId = loop.relay.sender.workspaceId) : InStep connectionId session next := by
  have settled : next.settled = loop.settled := by
    unfold Loop.settled
    rw [arm, shown]
  constructor
  · exact (congrArg Task.connectionId task).trans inStep.key
  · exact (congrArg Task.session task).trans inStep.opened
  · exact busy
  · intro running
    rw [shown]
    exact inStep.registered (phase running)
  · rw [shown]
    exact inStep.owned
  · rw [settled, same]
    exact inStep.space

theorem inStep_performs (inStep : InStep connectionId session loop) {ticket : Ticket} {cmd : RelayControl}
    (arm : loop.arm = some ⟨ticket, cmd, .taken⟩) (query : FloatQuery) (answer : Answer) :
    InStep connectionId session
      { relay := (perform (muxSender serialize) ticket cmd query answer loop.relay).2
        arm := some ⟨ticket, cmd, .called query (perform (muxSender serialize) ticket cmd query answer loop.relay).1⟩ } := by
  have calls := perform_calls (muxSender serialize) ticket cmd query answer loop.relay
  have named := congrArg Task.connectionId calls.task
  have running := inStep.busy (by simp [arm])
  have present := inStep.registered running
  set performed := perform (muxSender serialize) ticket cmd query answer loop.relay with performing
  have shown (after : Option Arms.Arm) : ({ relay := performed.2, arm := after } : Loop _ _).shown = loop.shown := by
    rw [Arms.shown_of_task calls.task, calls.viewState]
    rfl
  have viewing := inStep.space
  rw [show loop.settled = loop.shown by simp [Loop.settled, arm]] at viewing
  refine { key := named.trans inStep.key, opened := (congrArg Task.session calls.task).trans inStep.opened,
           busy := fun _ => calls.phase.trans running, registered := fun _ => ?_, owned := ?_, space := ?_ }
  · rw [shown]
    exact present
  · rw [shown]
    exact inStep.owned
  · simp only [Loop.settled, shown]
    by_cases idle : loop.relay.readOnly = true ∨ asks query cmd = none
    · obtain ⟨result, sender, _⟩ := perform_idle (muxSender serialize) ticket answer rfl idle
      rw [← performing] at result sender
      simpa only [result, sender, Arms.noted] using viewing
    · push Not at idle
      obtain ⟨muxCall, asked⟩ := Option.ne_none_iff_exists'.mp idle.2
      have called := perform_asked (muxSender serialize) ticket answer
        (by simpa using idle.1) asked
      rw [← performing] at called
      simp only [called, Arms.noted, Memory.entry_viewAfter asked _ present]
      intro spaceId recorded
      exact (call_workspace answer muxCall).trans (kept_space viewing spaceId recorded)

theorem inStep_records (inStep : InStep connectionId session loop) {ticket : Ticket} {cmd : RelayControl}
    {query : FloatQuery} {result : Option (Except String Unit)}
    (arm : loop.arm = some ⟨ticket, cmd, .called query result⟩) :
    InStep connectionId session { relay := record cmd query result loop.relay, arm := none } := by
  have notes := record_notes cmd query result loop.relay
  have running := inStep.busy (by simp [arm])
  have present := inStep.registered running
  have shown : ({ relay := record cmd query result loop.relay, arm := none } : Loop _ _).shown = loop.settled := by
    rw [Arms.shown_of_task notes.task, notes.view]
    simp only [Loop.settled, arm]
    rfl
  refine { key := (congrArg Task.connectionId notes.task).trans inStep.key,
           opened := (congrArg Task.session notes.task).trans inStep.opened, busy := by simp,
           registered := fun _ => ?_, owned := ?_, space := ?_ }
  · rw [shown]
    rcases result with _ | _ | done <;> simpa [Loop.settled, arm, Arms.noted, viewAfter] using present
  · rw [shown]
    rcases result with _ | result
    · simpa [Loop.settled, arm, Arms.noted] using inStep.owned
    · simpa [Loop.settled, arm, Arms.noted] using viewAfter_session inStep.owned
  · change ∀ spaceId, spaceMemory.entry (Loop.shown _) = some spaceId -> _
    rw [shown, notes.sender]
    exact inStep.space

theorem inStep_other (inStep : InStep connectionId session loop) {event : Event Answer}
    (beside : runsBeside loop.arm event = true)
    (taken : step (muxSender serialize) loop.relay event = some relay) :
    InStep connectionId session { loop with relay } := by
  obtain rfl := inStep.key
  have entry := step_entry taken
  have sender := step_sender rfl taken
  have task := step_task taken
  have shown : ({ loop with relay } : Loop HerdrMuxSender World).shown =
      entryAfter (muxSender serialize) loop.relay event := (Arms.shown_of_task task loop.arm).trans entry
  have key : relay.connectionId = loop.relay.connectionId := congrArg Task.connectionId task
  have opened : relay.session = session := (congrArg Task.session task).trans inStep.opened
  have busy (working : loop.arm.isSome = true) : relay.phase = .running :=
    (Arms.beside_busy working beside taken).1.trans (inStep.busy working)
  -- Whatever does not start or end the loop leaves its entry alone, and only frames use its sender.
  have kept (running : relay.phase = .running -> loop.relay.phase = .running)
      (same : ({ loop with relay } : Loop HerdrMuxSender World).shown = loop.shown)
      (workspace : relay.sender.workspaceId = loop.relay.sender.workspaceId) :
      InStep loop.relay.connectionId session { loop with relay } :=
    inStep.keep task rfl running busy same workspace
  have idle {answered : Inbound.Event Answer} (own : event = answered)
      (away : runsBeside loop.arm answered = loop.arm.isNone) :
      loop.arm = none := by
    rw [own, away] at beside
    simpa using beside
  have ran (running : relay.phase = .running) (other : ∀ layout, event ≠ .initialised layout) :
      loop.relay.phase = .running :=
    (Arms.step_running taken running).resolve_right fun ⟨layout, same⟩ => other layout same
  cases event with
  | command => simp [runsBeside] at beside
  | initialised layout =>
    have settled : ({ loop with relay } : Loop HerdrMuxSender World).settled =
        some { session := loop.relay.session, state := initialView layout } := by
      simp only [Loop.settled, idle rfl rfl]
      exact shown
    refine { key, opened, busy, registered := ?_, owned := ?_, space := ?_ }
    · simp [shown, entryAfter]
    · rw [shown]
      rintro _ ⟨⟩
      exact inStep.opened
    · rw [settled]
      cases layout <;> simp [Memory.entry, spaceMemory, initialView, initRelayViewState]
  | deregister =>
    have settled : ({ loop with relay } : Loop HerdrMuxSender World).settled = none := by
      simp only [Loop.settled, idle rfl rfl]
      exact shown
    have left : relay.phase = .deregistered := by
      simp only [step] at taken
      split_ifs at taken
      exact Option.some.inj taken ▸ rfl
    refine { key, opened, busy, registered := ?_, owned := ?_, space := ?_ }
    · simp [left]
    · simp [shown, entryAfter]
    · simp [settled, Memory.entry]
  | frame frame answer =>
    exact kept (ran · (by simp)) shown (by rw [sender]; exact frame_workspace loop.relay frame answer)
  | _ => exact kept (ran · (by simp)) shown (by rw [sender]; rfl)

theorem inStep_step (loop : Loop HerdrMuxSender World) (event : Arms.Event Herdr.Answer) (next : Loop HerdrMuxSender World)
    (inStep : InStep connectionId session loop)
    (taken : Arms.step (muxSender serialize) loop event = some next) : InStep connectionId session next := by
  cases event with
  | takes ticket cmd =>
    simp only [Arms.step] at taken
    split_ifs at taken with idle
    rw [← Option.some.inj taken]
    have settled : loop.settled = loop.shown := by simp [Loop.settled, idle.2]
    have viewing := inStep.space
    rw [settled] at viewing
    exact { inStep with busy := fun _ => idle.1, space := viewing }
  | performs query answer =>
    obtain ⟨ticket, cmd, arm, rfl⟩ := performs_taken taken
    exact inStep_performs inStep arm query answer
  | records =>
    obtain ⟨ticket, cmd, query, result, arm, rfl⟩ := records_taken taken
    exact inStep_records inStep arm
  | other event =>
    obtain ⟨relay, beside, moved, rfl⟩ := other_taken taken
    exact inStep_other inStep beside moved

theorem inStep_attached {Backend : Type} (serialize : ClientMessage -> Except String (List UInt8))
    (opened : Opening Backend) (sender : HerdrMuxSender) (world : World)
    {viewState : ViewStateRegistry} (fresh : viewState.lookup connectionId = none) :
    InStep connectionId opened.id
      { relay := attached (muxSender serialize) opened connectionId sender world viewState, arm := none } :=
  { key := rfl
    opened := rfl
    busy := by simp
    registered := by simp [attached]
    owned := by simp [attached, Loop.shown, fresh]
    space := by simp [attached, Loop.settled, Loop.shown, fresh, Memory.entry] }

theorem inStep_run {final : Loop HerdrMuxSender World} {events : List (Arms.Event Answer)}
    (inStep : InStep connectionId session loop)
    (ran : Transition.run (Arms.step (muxSender serialize)) loop events = some final) :
    InStep connectionId session final :=
  Transition.invariant_of_run inStep_step inStep ran

theorem InStep.currentSpace (inStep : InStep connectionId session loop) (nonempty : connectionId ≠ "") :
    connectionCurrentSpace loop.relay.viewState session connectionId = spaceMemory.entry loop.shown := by
  obtain rfl := inStep.key
  simp only [connectionCurrentSpace, if_neg nonempty]
  have owned := inStep.owned
  unfold Loop.shown at owned ⊢
  cases found : loop.relay.viewState.lookup loop.relay.connectionId with
  | none => rfl
  | some entry => simp [owned entry found, Memory.entry, spaceMemory]

theorem noted_space {cmd : RelayControl} {query : FloatQuery} {shown : Option ViewStateEntry}
    (present : shown.isSome = true) (result : Option (Except String Unit)) (ticket : Ticket) :
    spaceMemory.entry (Arms.noted cmd query result shown) =
      recordsSpace (some ⟨ticket, cmd, .called query result⟩) (spaceMemory.entry shown)
        (.records : Arms.Event Answer) := by
  obtain ⟨entry, rfl⟩ := Option.isSome_iff_exists.mp present
  rcases result with _ | _ | done
  · cases cmd <;> rfl
  · cases cmd <;> rfl
  · cases cmd with
    | toggleFullscreen pane hint =>
      cases hinted : resolveHint pane hint query <;>
        simp [Arms.noted, viewAfter, recordsSpace, Memory.entry, spaceMemory, records, hinted]
    | _ => rfl

theorem recorded_step (inStep : InStep connectionId session loop) {event : Arms.Event Answer}
    (taken : Arms.step (muxSender serialize) loop event = some next) :
    spaceMemory.entry next.shown = recordsSpace loop.arm (spaceMemory.entry loop.shown) event := by
  cases event with
  | takes ticket cmd =>
    simp only [Arms.step] at taken
    split_ifs at taken
    rw [← Option.some.inj taken]
    rfl
  | performs query answer =>
    obtain ⟨ticket, cmd, _, rfl⟩ := performs_taken taken
    have calls := perform_calls (muxSender serialize) ticket cmd query answer loop.relay
    rw [Arms.shown_of_task calls.task, calls.viewState]
    rfl
  | records =>
    obtain ⟨ticket, cmd, query, result, arm, rfl⟩ := records_taken taken
    have notes := record_notes cmd query result loop.relay
    rw [Arms.shown_of_task notes.task, notes.view, arm]
    exact noted_space (inStep.registered (inStep.busy (by simp [arm]))) result ticket
  | other event =>
    obtain ⟨relay, beside, moved, rfl⟩ := other_taken taken
    rw [Arms.shown_of_task (step_task moved), step_entry moved]
    cases event with
    | command => simp [runsBeside] at beside
    | initialised layout => cases layout <;> rfl
    | _ => rfl

theorem recorded_run {final : Loop HerdrMuxSender World} {events : List (Arms.Event Answer)}
    (inStep : InStep connectionId session loop)
    (ran : Transition.run (Arms.step (muxSender serialize)) loop events = some final) :
    spaceMemory.entry final.shown = recordedSpace (muxSender serialize) loop (spaceMemory.entry loop.shown) events := by
  induction events generalizing loop with
  | nil =>
    obtain rfl : loop = final := by simpa using ran
    rfl
  | cons event rest ih =>
    obtain ⟨next, taken, ran⟩ := Transition.run_cons.mp ran
    rw [ih (inStep_step loop event next inStep taken) ran, recorded_step inStep taken]
    simp only [recordedSpace, taken]

theorem recorded_viewed (inStep : InStep connectionId session loop) (recorded : loop.between = false) :
    spaceMemory.entry loop.shown = some loop.relay.sender.workspaceId ↔ spaceMemory.entry loop.shown ≠ none := by
  have viewing := inStep.space
  rw [Arms.settled_of_recorded recorded] at viewing
  cases known : spaceMemory.entry loop.shown with
  | none => simp
  | some spaceId => simp [viewing spaceId known]

end InStep

/-- The claim of a GetSpaces: the workspace is marked, and no other, if it is listed at all. -/
def MarksViewed (workspaceId : String) (spaces : List Space) : Prop :=
  (∃ space ∈ spaces, space.id = workspaceId) ->
    ∀ space ∈ spaces, (space.active = true ↔ space.id = workspaceId)

theorem marksViewed_map (workspaces : List WorkspaceInfo) (viewed : String) {mark : WorkspaceInfo -> Space}
    (named : ∀ workspace, (mark workspace).id = workspace.workspaceId) :
    MarksViewed viewed (workspaces.map mark) ↔
      (∀ workspace ∈ workspaces, workspace.workspaceId ≠ viewed) ∨
        ∀ workspace ∈ workspaces, ((mark workspace).active = true ↔ workspace.workspaceId = viewed) := by
  simp only [MarksViewed, List.forall_mem_map, named]
  constructor
  · intro marked
    by_cases present : ∃ workspace ∈ workspaces, workspace.workspaceId = viewed
    · obtain ⟨workspace, member, same⟩ := present
      exact .inr (marked ⟨mark workspace, List.mem_map_of_mem member, (named workspace).trans same⟩)
    · push Not at present
      exact .inl present
  · rintro (absent | marked) ⟨space, member, same⟩
    · obtain ⟨workspace, listed, rfl⟩ := List.mem_map.mp member
      exact absurd ((named workspace).symm.trans same) (absent workspace listed)
    · exact marked

theorem recorded_marks (workspaces : List WorkspaceInfo) (viewed recorded : String) :
    ((∀ workspace ∈ workspaces, workspace.workspaceId ≠ viewed) ∨
        ∀ workspace ∈ workspaces, (workspace.workspaceId = recorded ↔ workspace.workspaceId = viewed)) ↔
      (∀ workspace ∈ workspaces, workspace.workspaceId ≠ viewed) ∨ recorded = viewed := by
  constructor
  · rintro (absent | marked)
    · exact .inl absent
    · by_cases present : ∃ workspace ∈ workspaces, workspace.workspaceId = viewed
      · obtain ⟨workspace, member, same⟩ := present
        exact .inr (((marked workspace member).mpr same).symm.trans same)
      · push Not at present
        exact .inl present
  · rintro (absent | rfl)
    · exact .inl absent
    · exact .inr fun _ _ => Iff.rfl

/-- The own GetSpaces marks exactly the workspace the relay is on when that is the space recorded for it. Where
none is recorded, herdr's focus has to be there as well; a space that is not listed is not marked. -/
theorem spaces_mark_viewed {Backend Server : Type} {zellijValidate : String -> Except (List Piece) Unit}
    {backends : Routing.BackendSet Server} {opened : Opening Backend} {random : BitVec 128}
    {sender : HerdrMuxSender} {world : World} {viewState : ViewStateRegistry} {events : List (Arms.Event Answer)}
    {loop : Loop HerdrMuxSender World} (fresh : viewState.lookup (mintConnectionId random) = none)
    (ran : Transition.run (Arms.step (muxSender serialize))
      { relay := attached (muxSender serialize) opened (mintConnectionId random) sender world viewState, arm := none }
      events = some loop)
    {peers : Peers} (shared : peers.registries.viewState = loop.relay.viewState) {api : Api}
    {workspaces : List WorkspaceInfo} (listed : api.workspaceList = .ok workspaces) {spaces : List Space}
    (answered : getSpaces zellijValidate backends peers api opened.id (mintConnectionId random) = .ok spaces) :
    let viewed := loop.relay.sender.workspaceId
    let recorded := recordedSpace (muxSender serialize)
      { relay := attached (muxSender serialize) opened (mintConnectionId random) sender world viewState, arm := none }
      none events
    (MarksViewed viewed spaces ↔
      (∀ workspace ∈ workspaces, workspace.workspaceId ≠ viewed) ∨ recorded = some viewed ∨
        (recorded = none ∧ ∀ workspace ∈ workspaces, (workspace.focused = true ↔ workspace.workspaceId = viewed))) ∧
    (loop.between = false -> (recorded = some viewed ↔ recorded ≠ none)) := by
  have start := inStep_attached serialize opened sender world fresh
  have inStep := inStep_run start ran
  have nothing : spaceMemory.entry (Loop.shown
      { relay := attached (muxSender serialize) opened (mintConnectionId random) sender world viewState, arm := none }) =
      none := by simp [Loop.shown, attached, fresh, Memory.entry]
  have recording := recorded_run start ran
  rw [nothing] at recording
  have current := inStep.currentSpace (mintConnectionId_nonempty random)
  intro viewed recorded
  constructor
  · obtain ⟨target, resolved⟩ : ∃ target, Routing.resolveSession zellijValidate backends opened.id = .ok target := by
      cases resolved : Routing.resolveSession zellijValidate backends opened.id with
      | error status => simp [getSpaces, resolved] at answered
      | ok target => exact ⟨target, rfl⟩
    rw [recording] at current
    simp only [getSpaces, resolved, markedSpaces, listSpaces, listed, Except.map, shared, current] at answered
    obtain rfl := Except.ok.inj answered
    rw [List.map_map, marksViewed_map workspaces viewed (fun _ => rfl)]
    cases last : recordedSpace (muxSender serialize) _ none events with
    | none => simp [recorded, last, spaceFromWorkspace]
    | some spaceId =>
      have marked := recorded_marks workspaces viewed spaceId
      simp only [recorded, last, Option.some.injEq, reduceCtorEq, false_and, or_false]
      rw [← marked]
      exact or_congr Iff.rfl (forall₂_congr fun workspace _ => iff_congr decide_eq_true_iff Iff.rfl)
  · intro settled
    have viewing := recorded_viewed inStep settled
    rw [recording] at viewing
    exact viewing

section Shared

def workspace (workspaceId : String) (focused : Bool) : WorkspaceInfo :=
  { workspaceId, label := workspaceId, focused, activeTabId := "tab1" }

-- herdr after somebody's CreateSpace, which focuses what it creates.
def createdAnother : Api :=
  { oneWorkspace with workspaceList := .ok [workspace "w1" false, workspace "w2" true] }

def connected : Loop HerdrMuxSender World :=
  { relay := attached (muxSender standard) writer (mintConnectionId 1) { workspaceId := "w1", currentTerminalId := "t1" }
      openedWriter.2 ∅
    arm := none }

def sharing (loop : Loop HerdrMuxSender World) : Peers :=
  { registries := { Helpers.attachedWith writer.id with viewState := loop.relay.viewState }
    workspaceOf := fun _ => loop.relay.sender.workspaceId }

/-- Before its first SwitchSpace the client is shown the new space as its own, though its stream is still on
the space it was attached to. -/
theorem created_space_shown_active :
    ∃ loop spaces, Transition.run (Arms.step (muxSender standard)) connected
        [.other (.initialised (.error "no layout"))] = some loop ∧
      loop.arm = none ∧ loop.relay.sender.workspaceId = "w1" ∧
      getSpaces (fun _ => .ok ()) Helpers.herdrOnly (sharing loop) createdAnother writer.id (mintConnectionId 1) =
        .ok spaces ∧ ¬ MarksViewed "w1" spaces := by
  refine ⟨_, [{ id := "w1", name := "w1", active := false }, { id := "w2", name := "w2", active := true }], rfl, rfl, rfl,
    by decide, ?_⟩
  intro marks
  have marked := (marks ⟨_, List.mem_cons_self, rfl⟩ _ List.mem_cons_self).mpr rfl
  contradiction

def switched : List (Arms.Event Answer) :=
  [.other (.initialised (.error "no layout")), .takes ⟨0, false⟩ (.switchSpace "w1" 0),
    .performs .failed (writing 65536), .records]

def onOwnSpace : Loop HerdrMuxSender World :=
  (Transition.run (Arms.step (muxSender standard)) connected switched).getD connected

theorem spaces_mark_viewed_switched :
    ∃ spaces, getSpaces (fun _ => .ok ()) Helpers.herdrOnly (sharing onOwnSpace) createdAnother writer.id
        (mintConnectionId 1) = .ok spaces ∧ MarksViewed onOwnSpace.relay.sender.workspaceId spaces := by
  have ran : Transition.run (Arms.step (muxSender standard)) connected switched = some onOwnSpace := rfl
  have shared : (sharing onOwnSpace).registries.viewState = onOwnSpace.relay.viewState := rfl
  have listed : createdAnother.workspaceList = .ok [workspace "w1" false, workspace "w2" true] := rfl
  obtain ⟨spaces, answered⟩ : ∃ spaces, getSpaces (fun _ => .ok ()) Helpers.herdrOnly (sharing onOwnSpace)
      createdAnother writer.id (mintConnectionId 1) = .ok spaces := ⟨_, rfl⟩
  exact ⟨spaces, answered, (spaces_mark_viewed rfl ran shared listed answered).1.mpr (.inr (.inl (by decide)))⟩

end Shared

end Muxrd.Viewing
