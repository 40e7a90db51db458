import Muxrd.Grpc.Layout
import Muxrd.Herdr.Snapshot
import Muxrd.Relay.Answers

set_option autoImplicit false

namespace Muxrd.Recovery

open Inbound Attach Herdr Layout

/-- A GetLayout that names its own relay. `viewing` is the workspace of the relay's sender when the
query is taken, or falls back, and `asked` is herdr as that query met it. -/
inductive Call
  | idle
  | waiting (viewing : Option String) (asked : Option Daemon)
  | fallingBack
  | done (viewing : Option String) (asked : Option Daemon) (response : Response)
  | failed (status : Status)

structure Polling where
  relay : Relay HerdrMuxSender World
  call : Call

structure Request where
  session : String
  bare : String
  connectionId : String
  replyId : Nat
  deriving DecidableEq

inductive Event
  | relay (event : Inbound.Event Answer)
  | route (control : ControlRegistry) (channels : Channels RelayControl)
  | take (ticket : Ticket) (query : FloatQuery) (answer : Answer)
  | reply
  | cancelled
  | elapsed
  | ephemeral (daemon : Daemon)

-- The reply channel is the request's own: nothing else is answered there.
def isOwn (request : Request) : Inbound.Event Answer -> Bool
  | .command _ (.queryLayout reply) _ _ | .command _ (.switchSpace _ reply) _ _ => reply = request.replyId
  | _ => false

def noteTask (request : Request) (relay : Relay HerdrMuxSender World) (call : Call) :
    Inbound.Event Answer -> Call
  | .layoutTask index answer =>
    match call with
    | .waiting viewing none =>
      if relay.pool[index]?.any (·.2 = request.replyId) then .waiting viewing (some answer.daemon) else call
    | _ => call
  | _ => call

-- The relay the request is routed to is the one registered under its connection id.
def routeTo (request : Request) (control : ControlRegistry)
    (channels : Channels RelayControl) : Option Call :=
  match relayEntry control request.session request.connectionId with
  | some (relayConnId, sender) =>
    if relayConnId = request.connectionId then
      some (if channels.isOpen sender then .waiting none none else .fallingBack)
    else none
  | none => none

def ownReply (request : Request) (relay : Relay HerdrMuxSender World) : Option Reply :=
  (relay.replies.find? fun reply => reply.1 = request.replyId).map (·.2)

variable (serialize : ClientMessage -> Except String (List UInt8)) (request : Request)

def step (polling : Polling) : Event -> Option Polling
  | .relay event =>
    if isOwn request event then none
    else
      (Inbound.step (muxSender serialize) polling.relay event).map fun relay =>
        { relay, call := noteTask request polling.relay polling.call event }
  | .route control channels =>
    match polling.call with
    | .idle =>
      if polling.relay.connectionId = request.connectionId then
        (routeTo request control channels).map fun call => { polling with call }
      else none
    | _ => none
  | .take ticket query answer =>
    match polling.call with
    | .waiting none _ =>
      (Inbound.step (muxSender serialize) polling.relay
        (.command ticket (.queryLayout request.replyId) query answer)).map fun relay =>
          { relay, call := .waiting (some polling.relay.sender.workspaceId) none }
    | _ => none
  | .reply =>
    match polling.call, ownReply request polling.relay with
    | .waiting viewing asked, some (.layout (.ok snapshot)) =>
      let view := relayView polling.relay.viewState true request.connectionId request.connectionId
      some { polling with call := .done viewing asked (respond view snapshot) }
    | .waiting _ _, some (.layout (.error _)) => some { polling with call := .fallingBack }
    | _, _ => none
  | .cancelled | .elapsed =>
    match polling.call with
    | .waiting _ _ => some { polling with call := .fallingBack }
    | _ => none
  | .ephemeral daemon =>
    match polling.call with
    | .fallingBack =>
      let (result, ids) := backendQueryLayout daemon request.bare polling.relay.world.ids
      let relay := { polling.relay with world := { polling.relay.world with ids } }
      match ephemeral result with
      | .ok snapshot =>
        let view := relayView relay.viewState false request.connectionId ""
        some { relay, call := .done (some relay.sender.workspaceId) (some daemon) (respond view snapshot) }
      | .error status => some { relay, call := .failed status }
    | _ => none

/-- A fallback query that succeeds is of the workspace the relay is viewing. -/
def FallsBackHome (polling : Polling) : Event -> Prop
  | .ephemeral daemon =>
    ∀ workspaceId, resolveWorkspace (daemon 0) request.bare = .ok workspaceId ->
      (backendQueryLayout daemon request.bare polling.relay.world.ids).1.isOk = true ->
      workspaceId = polling.relay.sender.workspaceId
  | _ => True

section Returned

structure ShownAs (registry : HerdrTabRegistry) (tab : TabInfo) (shown : TabMsg) : Prop where
  name : shown.name = tab.label
  position : shown.position = UInt32.ofNat tab.number
  id : (registry.idOf tab.tabId).map UInt64.toUInt32 = some shown.tabId

def OfWorkspace (daemon : Daemon) (workspaceId : String) (registry : HerdrTabRegistry) (response : Response) :
    Prop :=
  ∃ request tabs, (daemon request).tabList workspaceId = .ok tabs ∧
    List.Forall₂ (ShownAs registry) tabs response.tabs

def Keeps (before after : HerdrTabRegistry) : Prop :=
  ∀ tab id, before.idOf tab = some id -> after.idOf tab = some id

variable {daemon : Daemon} {workspaceId : String} {ids : Ids} {before after : HerdrTabRegistry} {response : Response}

theorem ShownAs.kept {tab : TabInfo} {shown : TabMsg} (as : ShownAs before tab shown) (keeps : Keeps before after) :
    ShownAs after tab shown := by
  obtain ⟨id, known, same⟩ := Option.map_eq_some_iff.mp as.id
  exact { as with id := by rw [keeps _ _ known, Option.map_some, same] }

theorem OfWorkspace.kept (of : OfWorkspace daemon workspaceId before response) (keeps : Keeps before after) :
    OfWorkspace daemon workspaceId after response := by
  obtain ⟨request, tabs, listed, shown⟩ := of
  exact ⟨request, tabs, listed, shown.imp fun _ _ as => as.kept keeps⟩

theorem transcodeTabs_shownAs (infos : List PaneInfo) (layouts : TabLayouts) (activeTabId : String)
    (view : Option RelayViewState) (tabs : List TabInfo) (ids : Ids) :
    List.Forall₂ (ShownAs (transcodeTabs (infoByPane infos) layouts activeTabId tabs ids).2.tabs) tabs
      ((transcodeTabs (infoByPane infos) layouts activeTabId tabs ids).1.map (tabMsg view)) := by
  induction tabs generalizing ids with
  | nil => exact .nil
  | cons tab rest ih =>
    have own : ShownAs (transcodeTab (infoByPane infos) layouts activeTabId tab ids).2.tabs tab
        (tabMsg view (transcodeTab (infoByPane infos) layouts activeTabId tab ids).1) := by
      have known : (transcodeTab (infoByPane infos) layouts activeTabId tab ids).2.tabs.idOf tab.tabId =
          some (transcodeTab (infoByPane infos) layouts activeTabId tab ids).1.tabId :=
        Interning.Table.lookup_assigned _ _
      exact { name := rfl, position := rfl, id := by rw [known]; rfl }
    refine .cons (own.kept ?_) (ih _)
    change Keeps _ (transcodeTabs (infoByPane infos) layouts activeTabId rest _).2.tabs
    rw [Polls.transcodeTabs_assigns]
    exact (Ids.extends_assigns _ _).tabs

theorem queryLayout_ofWorkspace {snapshot : LayoutSnapshot}
    (queried : (queryLayout daemon workspaceId ids).1 = .ok snapshot) (view : Option RelayViewState) :
    OfWorkspace daemon workspaceId (queryLayout daemon workspaceId ids).2.tabs (respond view snapshot) := by
  revert queried
  unfold queryLayout
  split
  · simp
  · simp
  · simp
  next workspaces tabs panes _ listed _ =>
    dsimp only
    split
    · simp
    next layouts _ =>
      intro queried
      rw [← Except.ok.inj queried]
      exact ⟨1, tabs, listed, transcodeTabs_shownAs panes layouts _ view tabs _⟩

theorem backendQueryLayout_ofWorkspace {session : String} {snapshot : LayoutSnapshot}
    (queried : (backendQueryLayout daemon session ids).1 = .ok snapshot) (view : Option RelayViewState) :
    ∃ workspaceId, resolveWorkspace (daemon 0) session = .ok workspaceId ∧
      OfWorkspace daemon workspaceId (backendQueryLayout daemon session ids).2.tabs (respond view snapshot) := by
  revert queried
  unfold backendQueryLayout
  split
  · simp
  next workspaceId resolved =>
    intro queried
    obtain ⟨request, tabs, listed, shown⟩ := queryLayout_ofWorkspace queried view
    exact ⟨workspaceId, resolved, request + 1, tabs, listed, shown⟩

section Ids

variable {serialize : ClientMessage -> Except String (List UInt8)} (world : World)

theorem queryLayout_keeps (daemon : Daemon) (workspaceId : String) (ids : Ids) :
    Keeps ids.tabs (queryLayout daemon workspaceId ids).2.tabs := by
  unfold queryLayout
  split
  · exact fun _ _ known => known
  · exact fun _ _ known => known
  · exact fun _ _ known => known
  · dsimp only
    split
    · exact fun _ _ known => known
    · rw [show ∀ tabs panes layouts active, (transcodeLayout tabs panes layouts active ids).2 = _ from
        fun tabs panes layouts active => Polls.transcodeLayout_assigns ids panes tabs layouts active]
      exact (Ids.extends_assigns _ _).tabs

@[simp] theorem reattach_ids (terminalId : String) (socket : SocketWrite) (sender : HerdrMuxSender) :
    (reattach serialize terminalId socket sender world).2.2.ids = world.ids := by
  rw [reattach_world]
  rfl

-- Panes are registered where a terminal is resolved; tabs never are.
theorem call_tabs (answer : Answer) (muxCall : MuxCall) (sender : HerdrMuxSender) :
    (call serialize answer muxCall sender world).2.2.ids.tabs = world.ids.tabs := by
  have resolved {result : Except String String} {ids : Ids} {api : Api} {workspaceId : String}
      (resolved : resolveFocusedTerminal api workspaceId world.ids = (result, ids)) : ids.tabs = world.ids.tabs := by
    unfold resolveFocusedTerminal at resolved
    split at resolved
    · rw [← (Prod.mk.inj resolved).2]
    · split at resolved <;> rw [← (Prod.mk.inj resolved).2]
  have picked {result : Except String String} {ids : Ids} {api : Api} {workspaceId tab : String}
      (picked : resolveTabFocusedPane api workspaceId tab world.ids = (result, ids)) :
      ids.tabs = world.ids.tabs := by
    unfold resolveTabFocusedPane at picked
    split at picked
    · rw [← (Prod.mk.inj picked).2]
    · split at picked <;> rw [← (Prod.mk.inj picked).2]
  cases muxCall with
  | goToTab tabId =>
    simp only [call, goToTab]
    split
    · rfl
    · split
      next found => exact picked found
      next found => simpa using picked found
  | focusPane pane =>
    simp only [call, focusPane]
    split
    · rfl
    · simp
  | switchSpace spaceId =>
    simp only [call, switchSpace]
    split
    next found => exact resolved found
    next terminalId ids found =>
      have same := @reattach_ids serialize { world with ids } terminalId answer.socket sender
      split
      next failed =>
        rw [failed] at same
        exact (congrArg Ids.tabs same).trans (resolved found)
      next done =>
        rw [done] at same
        exact (congrArg Ids.tabs same).trans (resolved found)
  | toggleFullscreen pane hint =>
    simp only [call, toggleFullscreen]
    split <;> rfl
  | _ => rfl

theorem seen_keeps (seen : List String) (registry : HerdrTabRegistry) :
    Keeps registry (seen.foldl (fun tabs tab => (tabs.assignOrGet tab).2) registry) := by
  induction seen generalizing registry with
  | nil => exact fun _ _ known => known
  | cons tab rest ih =>
    intro other id known
    apply ih
    exact Interning.Table.lookup_stable _ (tabSighting tab) known

theorem worldStep_keeps {answer : Answer} {world after : World}
    (stepped : WorldStep (muxSender serialize) answer world after) : Keeps world.ids.tabs after.ids.tabs := by
  cases stepped with
  | call muxCall sender =>
    change Keeps _ (call serialize answer muxCall sender world).2.2.ids.tabs
    rw [call_tabs]
    exact fun _ _ known => known
  | query sender => exact queryLayout_keeps _ _ _
  | elsewhere =>
    exact seen_keeps answer.seenTabs world.ids.tabs

end Ids

end Returned

section

variable {serialize request}

def Tracked (request : Request) (polling : Polling) : Prop :=
  match polling.call with
  | .idle | .waiting none _ =>
    (∀ task ∈ polling.relay.pool, task.2 ≠ request.replyId) ∧ ownReply request polling.relay = none
  | .waiting (some viewing) asked =>
    (∀ task ∈ polling.relay.pool, task.2 = request.replyId -> task.1.workspaceId = viewing) ∧
      (ownReply request polling.relay = none ↔ asked = none) ∧
      ∀ snapshot, ownReply request polling.relay = some (.layout (.ok snapshot)) ->
        ∃ daemon, asked = some daemon ∧
          ∀ view, OfWorkspace daemon viewing polling.relay.world.ids.tabs (respond view snapshot)
  | .done viewing asked response =>
    ∃ workspaceId daemon, viewing = some workspaceId ∧ asked = some daemon ∧
      OfWorkspace daemon workspaceId polling.relay.world.ids.tabs response
  | .fallingBack | .failed _ => True

theorem step_keeps {relay next : Relay HerdrMuxSender World} {event : Inbound.Event Answer}
    (taken : Inbound.step (muxSender serialize) relay event = some next) :
    Keeps relay.world.ids.tabs next.world.ids.tabs := by
  rcases step_world taken with same | ⟨answer, _, stepped⟩
  · rw [same]
    exact fun _ _ known => known
  · exact worldStep_keeps stepped

theorem ownReply_kept {relay next : Relay HerdrMuxSender World} {event : Inbound.Event Answer}
    (taken : Inbound.step (muxSender serialize) relay event = some next) {reply : Reply}
    (replied : ownReply request relay = some reply) : ownReply request next = some reply := by
  obtain ⟨found, first, rfl⟩ := Option.map_eq_some_iff.mp replied
  rw [ownReply, step_replies taken, List.find?_append, first]
  rfl

theorem ownReply_sent {relay next : Relay HerdrMuxSender World} {event : Inbound.Event Answer}
    (taken : Inbound.step (muxSender serialize) relay event = some next) (other : isOwn request event = false)
    (unreplied : ownReply request relay = none) :
    (ownReply request next = none ∧ ∀ call, noteTask request relay call event = call) ∨
      ∃ index answer sender, event = .layoutTask index answer ∧
        relay.pool[index]? = some (sender, request.replyId) ∧
        ownReply request next = some (.layout (taskResult (muxSender serialize) answer sender relay.world)) := by
  have sent : ownReply request next = ((sentReplies (muxSender serialize) relay event).find?
      fun reply => reply.1 = request.replyId).map (·.2) := by
    rw [ownReply, step_replies taken, List.find?_append, Option.map_eq_none_iff.mp unreplied, Option.none_or]
  rw [sent]
  cases event with
  | command ticket cmd query answer =>
    left
    refine ⟨?_, fun _ => rfl⟩
    cases cmd with
    | switchSpace workspaceId reply =>
      have apart : reply ≠ request.replyId := by simpa [isOwn] using other
      simp [sentReplies, apart]
    | _ => rfl
  | layoutTask index answer =>
    cases waiting : relay.pool[index]? with
    | none =>
      left
      refine ⟨by simp [sentReplies, waiting], fun call => ?_⟩
      simp only [noteTask, waiting, Option.any_none, Bool.false_eq_true, if_false]
      split <;> rfl
    | some task =>
      obtain ⟨sender, reply⟩ := task
      by_cases own : reply = request.replyId
      · right
        subst own
        exact ⟨index, answer, sender, rfl, waiting, by simp [sentReplies, waiting]⟩
      · left
        refine ⟨by simp [sentReplies, waiting, own], fun call => ?_⟩
        simp only [noteTask, waiting, Option.any_some, own, decide_false, Bool.false_eq_true, if_false]
        split <;> rfl
  | _ => exact .inl ⟨rfl, fun _ => rfl⟩

-- Nothing else queries under this reply channel.
theorem older_task {relay next : Relay HerdrMuxSender World} {event : Inbound.Event Answer}
    (taken : Inbound.step (muxSender serialize) relay event = some next) (other : isOwn request event = false)
    {task : HerdrMuxSender × Nat} (member : task ∈ next.pool) (own : task.2 = request.replyId) :
    task ∈ relay.pool := by
  rcases step_pool taken member with before | ⟨⟨ticket, query, answer, rfl⟩, _⟩
  · exact before
  · simp [isOwn, own] at other

theorem relay_tracked {polling : Polling} {event : Inbound.Event Answer}
    {relay : Relay HerdrMuxSender World}
    (tracked : Tracked request polling) (other : isOwn request event = false)
    (taken : Inbound.step (muxSender serialize) polling.relay event = some relay) :
    Tracked request { relay, call := noteTask request polling.relay polling.call event } := by
  obtain ⟨current, call⟩ := polling
  have untouched (unspawned : ∀ task ∈ current.pool, task.2 ≠ request.replyId)
      (unreplied : ownReply request current = none) :
      noteTask request current call event = call ∧ (∀ task ∈ relay.pool, task.2 ≠ request.replyId) ∧
        ownReply request relay = none := by
    rcases ownReply_sent taken other unreplied with ⟨silent, same⟩ | ⟨index, answer, sender, -, waiting, -⟩
    · exact ⟨same call, fun task member own => unspawned task (older_task taken other member own) own, silent⟩
    · exact absurd rfl (unspawned _ (List.mem_of_getElem? waiting))
  match call with
  | .idle =>
    obtain ⟨same, kept⟩ := untouched tracked.1 tracked.2
    rw [same]
    exact kept
  | .waiting none asked =>
    obtain ⟨same, kept⟩ := untouched tracked.1 tracked.2
    rw [same]
    exact kept
  | .waiting (some viewing) asked =>
    obtain ⟨spawned, noted, answered⟩ := tracked
    have older (task : HerdrMuxSender × Nat) (member : task ∈ relay.pool) (own : task.2 = request.replyId) :
        task.1.workspaceId = viewing :=
      spawned task (older_task taken other member own) own
    cases replied : ownReply request current with
    | some reply =>
      have known : asked ≠ none := by
        intro absent
        have unreplied : ownReply request current = none := noted.mpr absent
        simp [replied] at unreplied
      obtain ⟨daemon, rfl⟩ := Option.ne_none_iff_exists'.mp known
      have kept := ownReply_kept taken replied
      have same : noteTask request current (.waiting (some viewing) (some daemon)) event =
          .waiting (some viewing) (some daemon) := by cases event <;> rfl
      rw [same]
      refine ⟨older, by simp [kept], fun snapshot ok => ?_⟩
      obtain ⟨daemon, same, of⟩ := answered snapshot (by rw [replied, ← kept, ok])
      exact ⟨daemon, same, fun view => (of view).kept (step_keeps taken)⟩
    | none =>
      obtain rfl := noted.mp replied
      rcases ownReply_sent taken other replied with ⟨silent, same⟩ | ⟨index, answer, sender, rfl, waiting, sent⟩
      · rw [same]
        exact ⟨older, by simp [silent], by simp [silent]⟩
      · have asked : noteTask request current (.waiting (some viewing) none) (.layoutTask index answer) =
            .waiting (some viewing) (some answer.daemon) := by simp [noteTask, waiting]
        rw [asked]
        refine ⟨older, by simp [sent], fun snapshot ok => ⟨answer.daemon, rfl, fun view => ?_⟩⟩
        have home : sender.workspaceId = viewing := spawned _ (List.mem_of_getElem? waiting) rfl
        have queried : taskResult (muxSender serialize) answer sender current.world = .ok snapshot :=
          Reply.layout.inj (Option.some.inj (sent.symm.trans ok))
        have after : relay.world.ids = (queryLayout answer.daemon sender.workspaceId current.world.ids).2 := by
          simp only [Inbound.step, waiting] at taken
          rw [← Option.some.inj taken]
          rfl
        rw [after, ← home]
        exact queryLayout_ofWorkspace queried view
  | .fallingBack =>
    have same : noteTask request current .fallingBack event = .fallingBack := by cases event <;> rfl
    rw [same]
    trivial
  | .failed status =>
    have same : noteTask request current (.failed status) event = .failed status := by cases event <;> rfl
    rw [same]
    trivial
  | .done viewing asked response =>
    have same : noteTask request current (.done viewing asked response) event = .done viewing asked response := by
      cases event <;> rfl
    rw [same]
    obtain ⟨workspaceId, daemon, viewed, met, of⟩ := tracked
    exact ⟨workspaceId, daemon, viewed, met, of.kept (step_keeps taken)⟩

theorem step_tracked (polling : Polling) (event : Event) (next : Polling)
    (tracked : Tracked request polling)
    (home : FallsBackHome request polling event)
    (taken : step serialize request polling event = some next) :
    Tracked request next := by
  obtain ⟨relay, call⟩ := polling
  cases event with
  | relay event =>
    simp only [step] at taken
    split_ifs at taken with other
    rw [Option.map_eq_some_iff] at taken
    obtain ⟨after, stepped, rfl⟩ := taken
    exact relay_tracked tracked (by simpa using other) stepped
  | route control channels =>
    simp only [step] at taken
    split at taken
    · split_ifs at taken
      rw [Option.map_eq_some_iff] at taken
      obtain ⟨routed, target, rfl⟩ := taken
      unfold routeTo at target
      split at target
      · split_ifs at target
        · rw [← Option.some.inj target]
          exact tracked
        · rw [← Option.some.inj target]
          trivial
      · contradiction
    · contradiction
  | take ticket query answer =>
    simp only [step] at taken
    split at taken
    next asked =>
      rw [Option.map_eq_some_iff] at taken
      obtain ⟨after, stepped, rfl⟩ := taken
      have silent : ownReply request after = none := by
        rw [ownReply, step_replies stepped]
        simpa [sentReplies, muxSender, ownReply] using tracked.2
      refine ⟨fun task member own => ?_, by simp [silent], by simp [silent]⟩
      rcases step_pool stepped member with before | ⟨_, cloned⟩
      · exact absurd own (tracked.1 task before)
      · rw [cloned]
        rfl
    · contradiction
  | reply =>
    simp only [step] at taken
    split at taken
    next viewing asked snapshot replied =>
      rw [← Option.some.inj taken]
      cases viewing with
      | none => simp [tracked.2] at replied
      | some workspaceId =>
        obtain ⟨daemon, met, of⟩ := tracked.2.2 snapshot replied
        exact ⟨workspaceId, daemon, rfl, met, of _⟩
    · rw [← Option.some.inj taken]
      trivial
    · contradiction
  | cancelled | elapsed =>
    simp only [step] at taken
    split at taken
    · rw [← Option.some.inj taken]
      trivial
    · contradiction
  | ephemeral daemon =>
    simp only [step] at taken
    split at taken
    · split at taken
      next snapshot answered =>
        rw [← Option.some.inj taken]
        have queried : (backendQueryLayout daemon request.bare relay.world.ids).1 = .ok snapshot := by
          cases result : (backendQueryLayout daemon request.bare relay.world.ids).1 with
          | ok shown => simpa [result, ephemeral, Except.mapError] using answered
          | error message => simp [result, ephemeral, Except.mapError] at answered
        obtain ⟨workspaceId, resolved, of⟩ := backendQueryLayout_ofWorkspace queried
          (relayView relay.viewState false request.connectionId "")
        have here := home workspaceId resolved (by rw [queried]; rfl)
        exact ⟨workspaceId, daemon, congrArg some here.symm, rfl, of⟩
      · rw [← Option.some.inj taken]
        trivial
    · contradiction

end

section Closed

-- herdr with these workspaces, each with one tab and one pane named like it; any other is unknown.
def daemonWith (workspaceIds : List String) : Api :=
  { workspaceList := .ok (workspaceIds.map fun id =>
      { workspaceId := id, label := id, focused := id = "w1", activeTabId := id })
    tabList := fun id =>
      if id ∈ workspaceIds then .ok [{ tabId := id, number := 1, label := id }]
      else .error "herdr tab.list error not_found: unknown workspace"
    paneList := fun id =>
      if id ∈ workspaceIds then
        .ok [{ paneId := id, terminalId := id, tabId := id, focused := id = "w1", cwd := none, label := none,
               title := none }]
      else .error "herdr pane.list error not_found: unknown workspace"
    paneLayout := fun pane =>
      .ok { tabId := pane.getD "w1", zoomed := false,
            panes := [{ paneId := pane.getD "w1", focused := true,
                        rect := { x := 0, y := 0, width := 80, height := 24 } }] }
    paneZoom := fun _ => .ok { ok := true, error := none, info := none } }

def answering (workspaceIds : List String) : Answer :=
  { daemon := fun _ => daemonWith workspaceIds, socket := takesAll, seenPanes := [], seenTabs := [] }

def poll : Request :=
  { session := "herdr:herdr", bare := "herdr", connectionId := "c1", replyId := 7 }

def registeredWriter : ControlRegistry :=
  (∅ : ControlRegistry).insert "c1" { session := "herdr:herdr", sender := 0, readOnly := false }

def openChannel : Channels RelayControl :=
  (∅ : Channels RelayControl).insert 0 { queue := [], receiverAlive := true }

def attachedPolling : Polling :=
  { relay := attachedWriter, call := .idle }

-- The relay switches to `w2`, and its poll meets a herdr with these workspaces.
def pollOnSecond (left : List String) : List Event :=
  [.relay (.initialised (.error "no layout")),
    .relay (.command ⟨0, false⟩ (.switchSpace "w2" 3) .failed (answering ["w1", "w2"])),
    .route registeredWriter openChannel, .take ⟨1, false⟩ .failed (answering left),
    .relay (.layoutTask 0 (answering left)), .reply]

end Closed

end Muxrd.Recovery
