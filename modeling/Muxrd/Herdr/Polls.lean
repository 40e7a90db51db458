import Muxrd.Herdr.Atomicity
import Muxrd.Herdr.Stability
import Muxrd.Lib.Run

set_option autoImplicit false

namespace Muxrd.Polls

open Herdr Transition

section Assigns

inductive Assign
  | pane (paneId terminalId : String)
  | tab (tabId : String)
  deriving DecidableEq, Repr

def assign (ids : Ids) : Assign -> Ids
  | .pane paneId terminalId => { ids with panes := (ids.panes.assignOrGet paneId terminalId).2 }
  | .tab tabId => { ids with tabs := (ids.tabs.assignOrGet tabId).2 }

def listedAssigns (panes : List PaneInfo) : List Assign :=
  panes.map fun pane => .pane pane.paneId pane.terminalId

-- A pane that is in the layout but not in the list is registered without a terminal.
def layoutAssigns (panes : List PaneInfo) (layout : PaneLayoutSnapshot) : List Assign :=
  layout.panes.map fun pane =>
    .pane pane.paneId ((((infoByPane panes).lookup pane.paneId).map (·.terminalId)).getD "")

def tabAssigns (panes : List PaneInfo) (layouts : TabLayouts) (tab : TabInfo) : List Assign :=
  .tab tab.tabId :: ((layouts.lookup tab.tabId).map (layoutAssigns panes)).getD []

-- What `transcode_layout` does to the registries, in order.
def transcodeAssigns (tabs : List TabInfo) (panes : List PaneInfo) (layouts : TabLayouts) : List Assign :=
  listedAssigns panes ++ tabs.flatMap (tabAssigns panes layouts)

variable (ids : Ids) (panes : List PaneInfo)

theorem registerPanes_assigns :
    (listedAssigns panes).foldl assign ids = { ids with panes := registerPanes panes ids.panes } := by
  induction panes generalizing ids with
  | nil => rfl
  | cons pane rest ih => exact ih _

theorem pickTerminal_registers (inScope : PaneInfo -> Bool) (registry : HerdrPaneRegistry) :
    (pickTerminal inScope panes registry).2 = registerPanes panes registry := by
  have picks (pick : Pick) : (panes.foldl (pickStep inScope) pick).registry = registerPanes panes pick.registry := by
    induction panes generalizing pick with
    | nil => rfl
    | cons pane rest ih =>
      rw [List.foldl_cons, ih, registerPanes, registerPanes, List.foldl_cons]
      unfold pickStep
      split_ifs <;> rfl
  exact picks (Pick.start registry)

theorem transcodePanes_assigns (zoomed : Bool) (layout : List PaneLayoutPane) :
    { ids with panes := (transcodePanes (infoByPane panes) zoomed layout ids.panes).2 } =
      (layout.map fun pane =>
        Assign.pane pane.paneId ((((infoByPane panes).lookup pane.paneId).map (·.terminalId)).getD "")).foldl assign
        ids := by
  induction layout generalizing ids with
  | nil => rfl
  | cons pane rest ih => exact ih { ids with panes := _ }

theorem transcodeTab_assigns (layouts : TabLayouts) (activeTabId : String) (tab : TabInfo) :
    (transcodeTab (infoByPane panes) layouts activeTabId tab ids).2 = (tabAssigns panes layouts tab).foldl assign ids := by
  rw [tabAssigns, List.foldl_cons]
  cases found : layouts.lookup tab.tabId with
  | none =>
    simp only [transcodeTab, found]
    rfl
  | some layout =>
    have laid := transcodePanes_assigns (assign ids (.tab tab.tabId)) panes layout.zoomed layout.panes
    simp only [transcodeTab, found]
    exact laid

theorem transcodeTabs_assigns (layouts : TabLayouts) (activeTabId : String) (tabs : List TabInfo) :
    (transcodeTabs (infoByPane panes) layouts activeTabId tabs ids).2 =
      (tabs.flatMap (tabAssigns panes layouts)).foldl assign ids := by
  induction tabs generalizing ids with
  | nil => rfl
  | cons tab rest ih =>
    rw [List.flatMap_cons, List.foldl_append, ← transcodeTab_assigns ids panes layouts activeTabId tab]
    exact ih _

theorem transcodeLayout_assigns (tabs : List TabInfo) (layouts : TabLayouts) (activeTabId : String) :
    (transcodeLayout tabs panes layouts activeTabId ids).2 = (transcodeAssigns tabs panes layouts).foldl assign ids := by
  rw [transcodeAssigns, List.foldl_append, registerPanes_assigns, ← transcodeTabs_assigns]
  rfl

end Assigns

section Steps

/-- A `query_layout` or a resolution between two steps: the request it waits for, with what it has fetched so
far, or what it still registers. The active tab only reaches the snapshot, so it is not kept. -/
inductive Poll
  | workspaces (workspaceId : String)
  | tabs (workspaceId : String)
  | panes (workspaceId : String) (tabs : List TabInfo)
  | layout (tabs : List TabInfo) (panes : List PaneInfo) (layouts : TabLayouts) (paneId : String) (rest : List TabInfo)
  | fetched (tabs : List TabInfo) (panes : List PaneInfo) (layouts : TabLayouts)
  | resolving (workspaceId : String)
  | registering (pending : List Assign)

def pursue (tabs : List TabInfo) (panes : List PaneInfo) (layouts : TabLayouts) : List TabInfo -> Poll
  | [] => .fetched tabs panes layouts
  | tab :: rest =>
    if tab.tabId ∈ layouts then pursue tabs panes layouts rest
    else
      match (representatives panes).lookup tab.tabId with
      | none => pursue tabs panes layouts rest
      | some paneId => .layout tabs panes layouts paneId rest

-- `none` for a poll that waits for no answer; an error ends the poll.
def answered (api : Api) : Poll -> Option (Except String Poll)
  | .workspaces workspaceId => some (api.workspaceList.map fun _ => .tabs workspaceId)
  | .tabs workspaceId => some ((api.tabList workspaceId).map fun tabs => .panes workspaceId tabs)
  | .panes workspaceId tabs => some ((api.paneList workspaceId).map fun panes => pursue tabs panes ∅ tabs)
  | .layout tabs panes layouts paneId rest =>
    some ((api.paneLayout (some paneId)).map fun layout =>
      pursue tabs panes (layouts.insert layout.tabId layout) rest)
  | .resolving workspaceId => some ((api.paneList workspaceId).map fun panes => .registering (listedAssigns panes))
  | .fetched .. | .registering _ => none

def terminalsOf (panes : List PaneInfo) : List (String × String) :=
  panes.map fun pane => (pane.paneId, pane.terminalId)

def reports (api : Api) : Poll -> List (String × String)
  | .panes workspaceId _ | .resolving workspaceId =>
    match api.paneList workspaceId with
    | .ok panes => terminalsOf panes
    | .error _ => []
  | _ => []

def Assign.paneOps : Assign -> List PaneOp
  | .pane paneId terminalId => [.assignOrGet paneId terminalId]
  | .tab _ => []

structure Shared where
  ids : Ids
  polls : AList (fun _ : Nat => Poll)
  -- Bookkeeping: what `pane.list` answered, what was registered, and where `focus_pane` attached to.
  reported : List (String × String)
  registered : List PaneOp
  attached : List (UInt32 × String)

namespace Shared

def new : Shared :=
  { ids := { panes := .new, tabs := .new }, polls := ∅, reported := [], registered := [], attached := [] }

def settle (shared : Shared) (task : Nat) : Except String Poll -> Shared
  | .error _ => { shared with polls := shared.polls.erase task }
  | .ok poll => { shared with polls := shared.polls.insert task poll }

def begin (shared : Shared) (task : Nat) (poll : Poll) : Option Shared :=
  if task ∈ shared.polls then none else some (shared.settle task (.ok poll))

def register (shared : Shared) (next : Assign) : Shared :=
  { shared with ids := assign shared.ids next, registered := shared.registered ++ next.paneOps }

end Shared

inductive Event
  | queryLayout (task : Nat) (workspaceId : String)
  -- `resolve_focused_terminal` and `resolve_tab_focused_pane`, which register alike.
  | resolve (task : Nat) (workspaceId : String)
  | answer (task : Nat) (api : Api)
  | advance (task : Nat)
  | focusPane (pane : PaneRef)

/-- One step of one of the polls: a request answered, or one registration under the registry's lock. -/
def step (shared : Shared) : Event -> Option Shared
  | .queryLayout task workspaceId => shared.begin task (.workspaces workspaceId)
  | .resolve task workspaceId => shared.begin task (.resolving workspaceId)
  | .answer task api =>
    match shared.polls.lookup task with
    | none => none
    | some poll =>
      (answered api poll).map fun outcome =>
        { shared with reported := shared.reported ++ reports api poll }.settle task outcome
  | .advance task =>
    match shared.polls.lookup task with
    | some (.fetched tabs panes layouts) =>
      some (shared.settle task (.ok (.registering (transcodeAssigns tabs panes layouts))))
    | some (.registering []) => some { shared with polls := shared.polls.erase task }
    | some (.registering (next :: pending)) => some ((shared.register next).settle task (.ok (.registering pending)))
    | _ => none
  | .focusPane pane =>
    let terminal := shared.ids.panes.terminalId pane.id
    some { shared with attached := shared.attached ++ (terminal.map fun terminalId => (pane.id, terminalId)).toList }

end Steps

section Alone

variable {daemon : Daemon} {task : Nat} {shared : Shared}

def IsOwn (daemon : Daemon) (task : Nat) (event : Event) : Prop :=
  event = .advance task ∨ ∃ request, event = .answer task (daemon request)

def Ends (daemon : Daemon) (task : Nat) (shared : Shared) (ids : Ids) : Prop :=
  ∃ events final, (∀ event ∈ events, IsOwn daemon task event) ∧ run step shared events = some final ∧
    task ∉ final.polls ∧ final.ids = ids

theorem Ends.cons {event : Event} {next : Shared} {ids : Ids} (own : IsOwn daemon task event)
    (taken : step shared event = some next) (ends : Ends daemon task next ids) : Ends daemon task shared ids := by
  obtain ⟨events, final, owned, ran, rest⟩ := ends
  refine ⟨event :: events, final, ?_, run_cons.mpr ⟨next, taken, ran⟩, rest⟩
  intro other member
  rcases List.mem_cons.mp member with rfl | member
  · exact own
  · exact owned other member

theorem step_answer {api : Api} {poll : Poll} {outcome : Except String Poll}
    (waiting : shared.polls.lookup task = some poll) (answer : answered api poll = some outcome) :
    step shared (.answer task api) =
      some ({ shared with reported := shared.reported ++ reports api poll }.settle task outcome) := by
  simp only [step, waiting, answer, Option.map_some]

theorem Ends.ended {poll : Poll} (request : Nat) (message : String)
    (waiting : shared.polls.lookup task = some poll)
    (failed : answered (daemon request) poll = some (.error message)) : Ends daemon task shared shared.ids := by
  refine ⟨[.answer task (daemon request)], _, ?_, run_cons.mpr ⟨_, step_answer waiting failed, rfl⟩, ?_, rfl⟩
  · intro event member
    exact .inr ⟨request, List.mem_singleton.mp member⟩
  · exact fun member => (AList.mem_erase.mp member).1 rfl

theorem Ends.answered {poll next : Poll} {ids : Ids} (request : Nat)
    (waiting : shared.polls.lookup task = some poll)
    (answer : answered (daemon request) poll = some (.ok next))
    (ends : ∀ later : Shared, later.ids = shared.ids -> later.polls.lookup task = some next ->
      Ends daemon task later ids) : Ends daemon task shared ids := by
  refine .cons (.inr ⟨request, rfl⟩) (step_answer waiting answer) (ends _ rfl ?_)
  exact AList.lookup_insert _

theorem registers_alone (pending : List Assign) (waiting : shared.polls.lookup task = some (.registering pending)) :
    Ends daemon task shared (pending.foldl assign shared.ids) := by
  induction pending generalizing shared with
  | nil =>
    refine ⟨[.advance task], { shared with polls := shared.polls.erase task }, ?_, ?_, ?_, rfl⟩
    · exact fun event member => .inl (List.mem_singleton.mp member)
    · simp [run, step, waiting]
    · exact fun member => (AList.mem_erase.mp member).1 rfl
  | cons next pending ih =>
    have taken : step shared (.advance task) =
        some ((shared.register next).settle task (.ok (.registering pending))) := by simp [step, waiting]
    refine .cons (.inl rfl) taken (ih ?_)
    exact AList.lookup_insert _

theorem fetches_alone (tabs : List TabInfo) (panes : List PaneInfo) (rest : List TabInfo) (request : Nat)
    (layouts : TabLayouts) (waiting : shared.polls.lookup task = some (pursue tabs panes layouts rest)) :
    Ends daemon task shared
      (match fetchLayouts daemon (representatives panes) request rest layouts with
      | .error _ => shared.ids
      | .ok fetched => (transcodeAssigns tabs panes fetched).foldl assign shared.ids) := by
  induction rest generalizing request layouts shared with
  | nil =>
    have taken : step shared (.advance task) =
        some (shared.settle task (.ok (.registering (transcodeAssigns tabs panes layouts)))) := by
      simp [step, waiting, pursue]
    refine .cons (.inl rfl) taken ?_
    exact registers_alone _ (AList.lookup_insert _)
  | cons tab rest ih =>
    rw [pursue] at waiting
    rw [fetchLayouts]
    by_cases known : tab.tabId ∈ layouts
    · rw [if_pos known] at waiting ⊢
      exact ih request layouts waiting
    · rw [if_neg known] at waiting ⊢
      cases found : (representatives panes).lookup tab.tabId with
      | none =>
        rw [found] at waiting
        exact ih request layouts waiting
      | some paneId =>
        rw [found] at waiting
        cases answers : (daemon request).paneLayout (some paneId) with
        | error message =>
          have failed : answered (daemon request) (.layout tabs panes layouts paneId rest) = some (.error message) := by
            simp [answered, answers, Except.map]
          simp only [answers]
          exact .ended request message waiting failed
        | ok layout =>
          have answer : answered (daemon request) (.layout tabs panes layouts paneId rest) =
              some (.ok (pursue tabs panes (layouts.insert layout.tabId layout) rest)) := by
            simp [answered, answers, Except.map]
          refine .answered request waiting answer ?_
          intro later same waitingLater
          have ends := ih (request + 1) (layouts.insert layout.tabId layout) waitingLater
          rw [same] at ends
          simp only [answers]
          exact ends

/-- A query that meets no other poll leaves the registries as `query_layout` does. -/
theorem queryLayout_alone (workspaceId : String) (waiting : shared.polls.lookup task = some (.workspaces workspaceId)) :
    Ends daemon task shared (queryLayout daemon workspaceId shared.ids).2 := by
  unfold queryLayout
  cases workspacesAnswer : (daemon 0).workspaceList with
  | error message => exact .ended 0 message waiting (by simp [answered, workspacesAnswer, Except.map])
  | ok workspaces =>
    have answer : answered (daemon 0) (.workspaces workspaceId) = some (.ok (.tabs workspaceId)) := by
      simp [answered, workspacesAnswer, Except.map]
    refine .answered 0 waiting answer ?_
    intro first sameFirst waiting
    rw [← sameFirst]
    cases tabsAnswer : (daemon 1).tabList workspaceId with
    | error message => exact .ended 1 message waiting (by simp [answered, tabsAnswer, Except.map])
    | ok tabs =>
      have answer : answered (daemon 1) (.tabs workspaceId) = some (.ok (.panes workspaceId tabs)) := by
        simp [answered, tabsAnswer, Except.map]
      refine .answered 1 waiting answer ?_
      intro second sameSecond waiting
      rw [← sameSecond]
      cases panesAnswer : (daemon 2).paneList workspaceId with
      | error message => exact .ended 2 message waiting (by simp [answered, panesAnswer, Except.map])
      | ok panes =>
        have answer : answered (daemon 2) (.panes workspaceId tabs) = some (.ok (pursue tabs panes ∅ tabs)) := by
          simp [answered, panesAnswer, Except.map]
        refine .answered 2 waiting answer ?_
        intro third sameThird waiting
        rw [← sameThird]
        have ends : Ends daemon task third _ := fetches_alone tabs panes tabs 3 ∅ waiting
        cases fetched : fetchLayouts daemon (representatives panes) 3 tabs ∅ with
        | error message =>
          rw [fetched] at ends
          simp only [fetched]
          exact ends
        | ok layouts =>
          rw [fetched] at ends
          simp only [fetched, transcodeLayout_assigns]
          exact ends

theorem resolves_alone (inScope : PaneInfo -> Bool) (workspaceId : String) (request : Nat)
    (waiting : shared.polls.lookup task = some (.resolving workspaceId)) :
    Ends daemon task shared
      (match (daemon request).paneList workspaceId with
      | .error _ => shared.ids
      | .ok panes => { shared.ids with panes := (pickTerminal inScope panes shared.ids.panes).2 }) := by
  cases answers : (daemon request).paneList workspaceId with
  | error message => exact .ended request message waiting (by simp [answered, answers, Except.map])
  | ok panes =>
    have answer : answered (daemon request) (.resolving workspaceId) =
        some (.ok (.registering (listedAssigns panes))) := by simp [answered, answers, Except.map]
    refine .answered request waiting answer ?_
    intro later same waiting
    have ends : Ends daemon task later _ := registers_alone _ waiting
    rw [registerPanes_assigns, same] at ends
    simp only [pickTerminal_registers]
    exact ends

theorem focusPane_attaches {serialize : ClientMessage -> Except String (List UInt8)} {answer : Answer} {pane : PaneRef}
    {sender after : HerdrMuxSender} {world worldAfter : World} (same : world.ids = shared.ids)
    (done : focusPane serialize answer pane sender world = (.ok (), after, worldAfter)) :
    ∃ terminalId frame, step shared (.focusPane pane) =
        some { shared with attached := shared.attached ++ [(pane.id, terminalId)] } ∧
      after.currentTerminalId = terminalId ∧ encode serialize (.attachTerminal terminalId true) = .ok frame ∧
      worldAfter.wire.accepted = world.wire.accepted ++ frame := by
  unfold focusPane at done
  rw [same] at done
  cases known : shared.ids.panes.terminalId pane.id with
  | none => simp [known] at done
  | some terminalId =>
    simp only [known] at done
    obtain ⟨rfl, frame, encoded, sent⟩ := reattach_ok done
    exact ⟨terminalId, frame, by simp [step, known], rfl, encoded, sent⟩

end Alone

end Muxrd.Polls
