import Muxrd.Grpc.Helpers
import Muxrd.Grpc.Layout
import Muxrd.Grpc.Spaces
import Muxrd.Herdr.Control

set_option autoImplicit false

namespace Muxrd.Siblings

open Layout Herdr
open Spaces (Space markedSpaces connectionCurrentSpace)

/-- The server as a read meets it. `workspaceOf` is the workspace the relay behind a channel views. -/
structure Peers where
  registries : Registry.Registries
  workspaceOf : Nat -> String

inductive Timing
  | answered
  -- The loop drops the reply without running the query.
  | cancelled
  -- The query runs, but its reply comes after the timeout.
  | late
  deriving DecidableEq, Repr

-- GetLayout on a resolved herdr session, with herdr unchanged while it runs.
def routedLayout (peers : Peers) (api : Api) (ids : Ids) (timing : Timing)
    (session bare connectionId : String) : Except Status Response :=
  let fallback (ids : Ids) : Except Status Response :=
    (ephemeral (backendQueryLayout (fun _ => api) bare ids).1).map
      (respond (relayView peers.registries.viewState false connectionId ""))
  match relayEntry peers.registries.control session connectionId with
  | none => fallback ids
  | some (relayConnId, sender) =>
    if peers.registries.channels.isOpen sender then
      match timing, queryLayout (fun _ => api) (peers.workspaceOf sender) ids with
      | .answered, (.ok snapshot, _) =>
        .ok (respond (relayView peers.registries.viewState true connectionId relayConnId) snapshot)
      | .answered, (.error _, after) => fallback after
      | .cancelled, _ => fallback ids
      | .late, (_, after) => fallback after
    else fallback ids

section

variable {Backend : Type} (zellijValidate : String -> Except (List Piece) Unit)
  (backends : Routing.BackendSet Backend) (peers : Peers) (api : Api)

def getLayout (ids : Ids) (timing : Timing) (session connectionId : String) : Except Status Response :=
  match Routing.resolveSession zellijValidate backends session with
  | .error status => .error status
  | .ok (_, bare) => routedLayout peers api ids timing session bare connectionId

def getSpaces (session connectionId : String) : Except Status (List Space) :=
  match Routing.resolveSession zellijValidate backends session with
  | .error status => .error status
  | .ok _ => markedSpaces (listSpaces api) peers.registries.viewState session connectionId

end

def NoLiveRelay (peers : Peers) (session connectionId : String) : Prop :=
  connectionId = "" ∨
    (∀ entry, peers.registries.control.lookup connectionId = some entry -> entry.session ≠ session) ∧
      (∀ entry, peers.registries.viewState.lookup connectionId = some entry -> entry.session ≠ session)

def siblingWorkspace (peers : Peers) (session : String) : Option String :=
  match sessionRelay peers.registries.control session with
  | some (_, sender) =>
    if peers.registries.channels.isOpen sender then some (peers.workspaceOf sender) else none
  | none => none

section

variable {peers : Peers} {session connectionId bare : String}

theorem connectionCurrentSpace_none (absent : NoLiveRelay peers session connectionId) :
    connectionCurrentSpace peers.registries.viewState session connectionId = none := by
  unfold connectionCurrentSpace
  rcases absent with empty | ⟨_, elsewhere⟩
  · simp [empty]
  · split_ifs
    · rfl
    · cases found : peers.registries.viewState.lookup connectionId with
      | none => rfl
      | some entry => simp [elsewhere entry found]

theorem exactRelay_none (absent : NoLiveRelay peers session connectionId) :
    exactRelay peers.registries.control session connectionId = none := by
  unfold exactRelay
  rcases absent with empty | ⟨elsewhere, _⟩
  · simp [empty]
  · split_ifs
    · rfl
    · cases found : peers.registries.control.lookup connectionId with
      | none => rfl
      | some entry => simp [elsewhere entry found]

theorem relayView_none (absent : NoLiveRelay peers session connectionId) {relayConnId : String}
    {sender : Nat}
    (chosen : sessionRelay peers.registries.control session = some (relayConnId, sender)) :
    relayView peers.registries.viewState true connectionId relayConnId = none := by
  unfold relayView shouldApplyViewStateOverride
  by_cases own : relayConnId = connectionId
  · subst own
    obtain ⟨entry, found, same, _⟩ := sessionRelay_some chosen
    rcases absent with empty | ⟨elsewhere, _⟩
    · simp [empty]
    · exact absurd same (elsewhere entry found)
  · simp [own]

theorem routedLayout_cases (absent : NoLiveRelay peers session connectionId) (api : Api) (ids : Ids)
    (timing : Timing) :
    routedLayout peers api ids timing session bare connectionId =
      match siblingWorkspace peers session, timing with
      | some workspaceId, .answered =>
        match queryLayout (fun _ => api) workspaceId ids with
        | (.ok snapshot, _) => .ok (respond none snapshot)
        | (.error _, after) => (ephemeral (backendQueryLayout (fun _ => api) bare after).1).map (respond none)
      | some workspaceId, .late =>
        (ephemeral (backendQueryLayout (fun _ => api) bare
          (queryLayout (fun _ => api) workspaceId ids).2).1).map (respond none)
      | some _, .cancelled | none, _ =>
        (ephemeral (backendQueryLayout (fun _ => api) bare ids).1).map (respond none) := by
  have plain : relayView peers.registries.viewState false connectionId "" = none := by
    simp [relayView, shouldApplyViewStateOverride]
  simp only [routedLayout, relayEntry, exactRelay_none absent, Option.orElse_none, siblingWorkspace, plain]
  cases chosen : sessionRelay peers.registries.control session with
  | none => cases timing <;> rfl
  | some relay =>
    obtain ⟨relayConnId, sender⟩ := relay
    cases taken : peers.registries.channels.isOpen sender with
    | false => cases timing <;> simp [taken]
    | true =>
      simp only [taken, if_true, relayView_none absent chosen]
      rcases queried : queryLayout (fun _ => api) (peers.workspaceOf sender) ids with ⟨result, after⟩
      cases timing <;> cases result <;> simp [queried]

end

section Distinguish

variable {bare : String}

-- A daemon whose focused workspace, and every other one, has a tab, except the given one.
def oneEmpty (bare empty : String) : Api :=
  { workspaceList :=
      .ok [{ workspaceId := empty ++ "-other", label := bare, focused := true, activeTabId := "tab1" }]
    tabList := fun workspaceId =>
      .ok (if workspaceId = empty then [] else [{ tabId := "tab1", number := 1, label := "shell" }])
    paneList := fun _ => .ok []
    paneLayout := fun _ => .error "no pane"
    paneZoom := fun _ => .error "no pane" }

theorem other_ne (empty : String) : empty ++ "-other" ≠ empty := by
  intro same
  have length := congrArg (fun text : String => text.toList.length) same
  simp at length

theorem oneEmpty_tabs (empty workspaceId : String) (ids : Ids) :
    (queryLayout (fun _ => oneEmpty bare empty) workspaceId ids).1.map (·.tabs.length) =
      .ok (if workspaceId = empty then 0 else 1) := by
  by_cases same : workspaceId = empty
  · simp [queryLayout, oneEmpty, same, fetchLayouts, transcodeLayout, transcodeTabs, Except.map]
  · simp [queryLayout, oneEmpty, same, fetchLayouts, representatives, transcodeLayout, transcodeTabs, Except.map]

theorem oneEmpty_resolved (empty : String) :
    resolveWorkspace (oneEmpty bare empty) bare = .ok (empty ++ "-other") := by
  unfold resolveWorkspace
  split_ifs
  · simp [activeOrFirstWorkspaceId, oneEmpty, pickActiveOrFirst]
  · simp [workspaceIdFor, oneEmpty]

variable {peers : Peers} {session connectionId : String}

theorem routedLayout_oneEmpty (absent : NoLiveRelay peers session connectionId) (empty : String)
    (ids : Ids) :
    (routedLayout peers (oneEmpty bare empty) ids .answered session bare connectionId).map (·.tabs.length) =
      .ok (if siblingWorkspace peers session = some empty then 0 else 1) := by
  rw [routedLayout_cases absent]
  cases siblingWorkspace peers session with
  | none =>
    have tabs : (queryLayout (fun _ => oneEmpty bare empty) (empty ++ "-other") ids).1.map (·.tabs.length) =
        .ok 1 := by
      rw [oneEmpty_tabs, if_neg (other_ne empty)]
    simp only [backendQueryLayout, oneEmpty_resolved]
    generalize (queryLayout (fun _ => oneEmpty bare empty) (empty ++ "-other") ids).1 = result at tabs
    cases result with
    | error message => simp [Except.map] at tabs
    | ok snapshot => simpa [ephemeral, Except.map, Except.mapError, respond] using tabs
  | some workspaceId =>
    have tabs : (queryLayout (fun _ => oneEmpty bare empty) workspaceId ids).1.map (·.tabs.length) =
        .ok (if workspaceId = empty then 0 else 1) := oneEmpty_tabs empty workspaceId ids
    dsimp only
    rcases queried : queryLayout (fun _ => oneEmpty bare empty) workspaceId ids with ⟨result, after⟩
    rw [queried] at tabs
    cases result with
    | error message => simp [Except.map] at tabs
    | ok snapshot => simpa [Except.map, respond] using tabs

end Distinguish

section

variable {Backend : Type} {zellijValidate : String -> Except (List Piece) Unit}
  {backends : Routing.BackendSet Backend} {backend : Backend} {session bare connectionId : String}
  {left right : Peers}

theorem routedLayout_agrees (absentLeft : NoLiveRelay left session connectionId)
    (absentRight : NoLiveRelay right session connectionId) :
    (∀ api ids timing, routedLayout left api ids timing session bare connectionId =
        routedLayout right api ids timing session bare connectionId) ↔
      siblingWorkspace left session = siblingWorkspace right session := by
  constructor
  · intro same
    have agree (empty : String) : siblingWorkspace left session = some empty ↔
        siblingWorkspace right session = some empty := by
      have answers := congrArg (Except.map (·.tabs.length))
        (same (oneEmpty bare empty) { panes := .new, tabs := .new } .answered)
      rw [routedLayout_oneEmpty absentLeft, routedLayout_oneEmpty absentRight] at answers
      by_cases here : siblingWorkspace left session = some empty <;>
        by_cases there : siblingWorkspace right session = some empty <;> simp_all
    exact Option.ext agree
  · intro same api ids timing
    rw [routedLayout_cases absentLeft, routedLayout_cases absentRight, same]

theorem reads_ignore_siblings
    (resolved : Routing.resolveSessionKind zellijValidate backends session = .ok (.herdr, backend, bare))
    (absentLeft : NoLiveRelay left session connectionId)
    (absentRight : NoLiveRelay right session connectionId) :
    (∀ api, getSpaces zellijValidate backends left api session connectionId =
      getSpaces zellijValidate backends right api session connectionId) ∧
    ((∀ api ids timing, getLayout zellijValidate backends left api ids timing session connectionId =
        getLayout zellijValidate backends right api ids timing session connectionId) ↔
      siblingWorkspace left session = siblingWorkspace right session) := by
  have target : Routing.resolveSession zellijValidate backends session = .ok (backend, bare) := by
    simp [Routing.resolveSession, resolved, Except.map]
  simp only [getLayout, getSpaces, target]
  constructor
  · intro api
    simp only [markedSpaces, connectionCurrentSpace_none absentLeft, connectionCurrentSpace_none absentRight]
  · exact routedLayout_agrees absentLeft absentRight

def oneSibling (workspaceId : String) : Peers :=
  { registries := Helpers.attachedWith "herdr:herdr", workspaceOf := fun _ => workspaceId }

def nobody : Peers :=
  { registries := Registry.Registries.empty, workspaceOf := fun _ => "" }

theorem noLiveRelay_empty (peers : Peers) (session : String) : NoLiveRelay peers session "" :=
  .inl rfl

/-- A client without a connection id is shown the sibling's workspace, which has no tab, and the
focused one, which has a tab, when the sibling is not there. -/
theorem layout_shows_sibling :
    Registry.Reachable (oneSibling "w2").registries ∧ Registry.Reachable nobody.registries ∧
      Routing.resolveSessionKind (fun _ => .ok ()) Helpers.herdrOnly "herdr:herdr" = .ok (.herdr, (), "herdr") ∧
      ¬ ∀ api ids timing,
        getLayout (fun _ => .ok ()) Helpers.herdrOnly (oneSibling "w2") api ids timing "herdr:herdr" "" =
          getLayout (fun _ => .ok ()) Helpers.herdrOnly nobody api ids timing "herdr:herdr" "" := by
  refine ⟨Helpers.attachedWith_reachable "herdr:herdr", ⟨[], rfl⟩, by rfl, ?_⟩
  intro same
  have target : Routing.resolveSession (fun _ => .ok ()) Helpers.herdrOnly "herdr:herdr" = .ok ((), "herdr") := by
    rfl
  simp only [getLayout, target] at same
  have routed := (routedLayout_agrees (noLiveRelay_empty (oneSibling "w2") "herdr:herdr")
    (noLiveRelay_empty nobody "herdr:herdr")).mp same
  have apart : siblingWorkspace (oneSibling "w2") "herdr:herdr" ≠ siblingWorkspace nobody "herdr:herdr" := by
    decide
  exact apart routed

theorem reads_ignore_siblings_alone :
    getSpaces (fun _ => .ok ()) Helpers.herdrOnly (oneSibling "w2") (oneEmpty "herdr" "w2") "herdr:herdr" "" =
      getSpaces (fun _ => .ok ()) Helpers.herdrOnly nobody (oneEmpty "herdr" "w2") "herdr:herdr" "" := by
  have resolved : Routing.resolveSessionKind (fun _ => .ok ()) Helpers.herdrOnly "herdr:herdr" =
      .ok (.herdr, (), "herdr") := by rfl
  exact (reads_ignore_siblings resolved (noLiveRelay_empty _ _) (noLiveRelay_empty _ _)).1 (oneEmpty "herdr" "w2")

end

end Muxrd.Siblings
