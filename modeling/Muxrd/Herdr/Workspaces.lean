import Muxrd.Herdr.Control

set_option autoImplicit false

namespace Muxrd.Herdr

inductive Exchange
  | answered
  -- herdr answers with an API error and has done nothing.
  | refused (message : String)
  -- The answer never arrives; the request may have been carried out.
  | lost (message : String) (carriedOut : Bool)
  deriving DecidableEq, Repr

def Exchange.carriesOut : Exchange -> Bool
  | .answered => true
  | .refused _ => false
  | .lost _ carriedOut => carriedOut

def ackOk : ActionAck := { ok := true, error := none, info := none }

def ackErr (message : String) : ActionAck := { ok := false, error := some message, info := none }

def herdrSessionImmutableMsg : String :=
  "the herdr session cannot be killed or renamed — manage workspaces via CloseSpace/RenameSpace"

section Requests

variable (exchange : Exchange) (workspaces : List WorkspaceInfo)

def listWorkspaces : Except String (List WorkspaceInfo) :=
  match exchange with
  | .answered => .ok workspaces
  | .refused message | .lost message _ => .error message

-- `call_action`: `change` is what herdr does when it carries the request out, `none` if it never would.
def callAction (change : Option (List WorkspaceInfo)) : Option (Except String ActionAck × List WorkspaceInfo) :=
  match exchange with
  | .answered => change.map fun after => (.ok ackOk, after)
  | .refused message => some (.ok (ackErr message), workspaces)
  | .lost message true => change.map fun after => (.error message, after)
  | .lost message false => some (.error message, workspaces)

def hasWorkspace (workspaceId : String) : Bool :=
  workspaces.any (·.workspaceId = workspaceId)

-- Which workspace is created beyond its label is up to herdr. The request asks for the focus.
def createWorkspace (label : Option String) (created : WorkspaceInfo) :
    Option (Except String ActionAck × List WorkspaceInfo) :=
  callAction exchange workspaces
    (if hasWorkspace workspaces created.workspaceId || !created.focused || label.any (· != created.label) then none
    else some (workspaces.map (fun workspace => { workspace with focused := false }) ++ [created]))

def renameWorkspace (workspaceId label : String) : Option (Except String ActionAck × List WorkspaceInfo) :=
  callAction exchange workspaces
    (if hasWorkspace workspaces workspaceId then
      some (workspaces.map fun workspace =>
        if workspace.workspaceId = workspaceId then { workspace with label } else workspace)
    else none)

def closeWorkspace (workspaceId : String) : Option (Except String ActionAck × List WorkspaceInfo) :=
  callAction exchange workspaces
    (if hasWorkspace workspaces workspaceId then some (workspaces.eraseP (·.workspaceId = workspaceId)) else none)

def workspaceIdListed (session : String) : Except String String :=
  workspaceIdFor
    { workspaceList := listWorkspaces exchange workspaces
      tabList := fun _ => .error "tab.list"
      paneList := fun _ => .error "pane.list"
      paneLayout := fun _ => .error "pane.layout"
      paneZoom := fun _ => .error "pane.zoom" } session

end Requests

section Left

variable {exchange : Exchange} {workspaces after : List WorkspaceInfo} {result : Except String ActionAck}

theorem callAction_cases {change : Option (List WorkspaceInfo)}
    (called : callAction exchange workspaces change = some (result, after)) :
    (exchange.carriesOut = true ∧ change = some after) ∨ (exchange.carriesOut = false ∧ after = workspaces) := by
  cases exchange with
  | answered =>
    obtain ⟨changed, rfl, same⟩ := Option.map_eq_some_iff.mp called
    exact .inl ⟨rfl, congrArg some (Prod.mk.inj same).2⟩
  | refused message => exact .inr ⟨rfl, (Prod.mk.inj (Option.some.inj called)).2.symm⟩
  | lost message carriedOut =>
    cases carriedOut with
    | true =>
      obtain ⟨changed, rfl, same⟩ := Option.map_eq_some_iff.mp called
      exact .inl ⟨rfl, congrArg some (Prod.mk.inj same).2⟩
    | false => exact .inr ⟨rfl, (Prod.mk.inj (Option.some.inj called)).2.symm⟩

theorem createWorkspace_length {label : Option String} {created : WorkspaceInfo}
    (called : createWorkspace exchange workspaces label created = some (result, after)) :
    workspaces.length ≤ after.length := by
  rcases callAction_cases called with ⟨_, changed⟩ | ⟨_, rfl⟩
  · split_ifs at changed
    rw [← Option.some.inj changed]
    simp
  · exact le_rfl

theorem renameWorkspace_length {workspaceId label : String}
    (called : renameWorkspace exchange workspaces workspaceId label = some (result, after)) :
    after.length = workspaces.length := by
  rcases callAction_cases called with ⟨_, changed⟩ | ⟨_, rfl⟩
  · split_ifs at changed
    rw [← Option.some.inj changed]
    simp
  · rfl

theorem closeWorkspace_length {workspaceId : String}
    (called : closeWorkspace exchange workspaces workspaceId = some (result, after)) :
    after.length + (if exchange.carriesOut then 1 else 0) = workspaces.length := by
  rcases callAction_cases called with ⟨carried, changed⟩ | ⟨ignored, rfl⟩
  · split_ifs at changed with found
    obtain ⟨workspace, member, named⟩ := List.any_eq_true.mp found
    have erased : (workspaces.eraseP fun workspace => workspace.workspaceId = workspaceId).length =
        workspaces.length - 1 := List.length_eraseP_of_mem member named
    have positive := List.length_pos_of_mem member
    rw [← Option.some.inj changed, erased, carried]
    simp only [if_true]
    omega
  · simp [ignored]

end Left

end Muxrd.Herdr
