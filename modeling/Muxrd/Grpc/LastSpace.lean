import Muxrd.Grpc.Helpers
import Muxrd.Grpc.Spaces
import Muxrd.Herdr.Workspaces
import Muxrd.Relay.Attach

set_option autoImplicit false

namespace Muxrd.LastSpace

open Routing Helpers Herdr
open Attach (FirstFrame opening)
open Spaces (validateSpaceId validateSpaceLabel wouldCloseLastSpace)

inductive Request
  | closeSpace (session spaceId : String)
  | killSession (session : String)
  | createSession (name layout : String) (backend : Int)
  | createSpace (session label : String)
  | renameSpace (session spaceId label : String)
  | renameSession (session name : String)
  | attach (first : FirstFrame)

inductive Task
  | countSpaces (spaceId : String)
  | closeSpace (spaceId : String)
  | findKilled (session : String)
  | killWorkspace (workspaceId : String)
  | checkName (name : String)
  | createSession (name : String)
  | createSpace (label : Option String)
  | renameSpace (spaceId label : String)
  | findRenamed (session newName : String)
  | renameWorkspace (workspaceId newName : String)
  -- Resolving the workspace, and then its panes: nothing but listing.
  | openAttach (session : String)
  deriving DecidableEq, Repr

inductive Progress
  | asks (task : Task)
  | answers (response : Except Status ProtoAck)
  | attached
  | elsewhere

def internal {α : Type} (message : String) : Except Status α :=
  .error { code := .internal, message := [.text message] }

section Gates

variable {Backend : Type} (zellijValidate : String -> Except (List Piece) Unit) (backends : BackendSet Backend)
  (caller : Option Bool)

def onHerdr (kind : BackendKind) (progress : Progress) : Progress :=
  match kind with
  | .herdr => progress
  | .zellij => .elsewhere

def closeSpace (session spaceId : String) : Except Status Progress := do
  rejectIfReadOnly caller
  let (kind, _, _) ← resolveSessionKind zellijValidate backends session
  validateSpaceId spaceId
  return onHerdr kind (.asks (.countSpaces spaceId))

-- The gate looks at the id as it was sent; the backend once more at the bare name.
def killSession (session : String) : Except Status Progress := do
  rejectIfReadOnly caller
  if isCollapsedBackendSession session then
    throw
      { code := .invalidArgument
        message := [.text "the herdr session cannot be killed — manage its workspaces via CloseSpace"] }
  else
    let (kind, _, bare) ← resolveSessionKind zellijValidate backends session
    return onHerdr kind
      (if bare = herdrSession then .answers (internal ("KillSession: " ++ herdrSessionImmutableMsg))
      else .asks (.findKilled bare))

def requestedKind (backend : Int) : Except Status BackendKind :=
  match kindFromTag backend with
  | none =>
    .error
      { code := .invalidArgument
        message := [.text ("CreateSession: unknown backend tag " ++ toString backend)] }
  | some (some kind) => .ok kind
  | some none =>
    if backends.len = 1 then .ok backends.primary.1
    else
      .error
        { code := .invalidArgument
          message := [.text ("CreateSession: this server runs multiple backends — specify which " ++
            "backend to create the session on")] }

def createSession (name layout : String) (backend : Int) : Except Status Progress := do
  rejectIfReadOnly caller
  let kind ← requestedKind backends backend
  match backends.get kind with
  | none =>
    throw
      { code := .notFound
        message := [.text ("CreateSession: backend '" ++ kindName kind ++
          "' is recognised but not running on this server — re-list to see available backends")] }
  | some _ =>
    validateSession zellijValidate name
    if layout ≠ "" then validateLayoutName layout
    return onHerdr kind (.asks (.checkName name))

def createSpace (session label : String) : Except Status Progress := do
  rejectIfReadOnly caller
  let (kind, _, _) ← resolveSessionKind zellijValidate backends session
  if label = "" then return onHerdr kind (.asks (.createSpace none))
  else
    validateSpaceLabel label
    return onHerdr kind (.asks (.createSpace (some label)))

def renameSpace (session spaceId label : String) : Except Status Progress := do
  rejectIfReadOnly caller
  let (kind, _, _) ← resolveSessionKind zellijValidate backends session
  validateSpaceId spaceId
  validateSpaceLabel label
  return onHerdr kind (.asks (.renameSpace spaceId label))

def renameSession (session name : String) : Except Status Progress := do
  rejectIfReadOnly caller
  let (kind, _, bare) ← resolveSessionKind zellijValidate backends session
  validateSession zellijValidate name
  return onHerdr kind
    (if bare = herdrSession then .answers (.ok (toProto (ackErr herdrSessionImmutableMsg)))
    else .asks (.findRenamed bare name))

-- The size query of a read-only attach comes before and lists as well.
def attachTerminal (first : FirstFrame) : Except Status Progress := do
  let target ← opening zellijValidate backends (fun _ _ => none) (caller.getD true) first
  return onHerdr target.kind (.asks (.openAttach target.session))

def accept : Request -> Except Status Progress
  | .closeSpace session spaceId => closeSpace zellijValidate backends caller session spaceId
  | .killSession session => killSession zellijValidate backends caller session
  | .createSession name layout backend => createSession zellijValidate backends caller name layout backend
  | .createSpace session label => createSpace zellijValidate backends caller session label
  | .renameSpace session spaceId label => renameSpace zellijValidate backends caller session spaceId label
  | .renameSession session name => renameSession zellijValidate backends caller session name
  | .attach first => attachTerminal zellijValidate backends caller first

end Gates

section Handlers

-- `run_action` passes the error on, `run_space_action` hides it.
def runAction (rpc : String) (result : Except String ActionAck) : Except Status ProtoAck :=
  match result with
  | .error message => internal (rpc ++ ": " ++ message)
  | .ok ack => .ok (toProto ack)

def runSpaceAction (rpc : String) (result : Except String ActionAck) : Except Status ProtoAck :=
  match result with
  | .error _ => internal (rpc ++ ": backend error")
  | .ok ack => .ok (toProto ack)

-- The caller's relay is re-pointed before this is answered, which herdr is only listed for.
def closeSpaceAnswer (result : Except String ActionAck) : Except Status ProtoAck :=
  match result with
  | .error _ => internal "CloseSpace: backend error"
  | .ok ack => .ok (if ack.ok then { ok := true, error := "", info := "" } else toProto ack)

def killSessionAnswer (result : Except String ActionAck) : Except Status ProtoAck :=
  match result with
  | .error message => internal ("KillSession: " ++ message)
  | .ok ack =>
    if ack.ok then .ok { ok := true, error := "", info := "" }
    else internal ("KillSession: herdr workspace.close failed: " ++ ack.error.getD "unknown error")

variable (exchange : Exchange) (created : WorkspaceInfo) (workspaces : List WorkspaceInfo)

def advance : Task -> Option (Progress × List WorkspaceInfo)
  | .countSpaces spaceId =>
    match listWorkspaces exchange workspaces with
    | .error _ => some (.answers (internal "CloseSpace: failed to enumerate spaces"), workspaces)
    | .ok spaces =>
      if wouldCloseLastSpace spaces.length then
        some (.answers (.ok { ok := false, error := "cannot close the last space", info := "" }), workspaces)
      else some (.asks (.closeSpace spaceId), workspaces)
  | .closeSpace spaceId =>
    (closeWorkspace exchange workspaces spaceId).map fun (result, after) =>
      (.answers (closeSpaceAnswer result), after)
  | .findKilled session =>
    match workspaceIdListed exchange workspaces session with
    | .error message => some (.answers (internal ("KillSession: " ++ message)), workspaces)
    | .ok workspaceId => some (.asks (.killWorkspace workspaceId), workspaces)
  | .killWorkspace workspaceId =>
    (closeWorkspace exchange workspaces workspaceId).map fun (result, after) =>
      (.answers (killSessionAnswer result), after)
  | .checkName name =>
    match listWorkspaces exchange workspaces with
    | .error message => some (.answers (runAction "CreateSession" (.error message)), workspaces)
    | .ok listed =>
      if listed.any (·.label = name) then
        some (.answers (runAction "CreateSession" (.ok (ackErr ("session '" ++ name ++ "' already exists")))), workspaces)
      else some (.asks (.createSession name), workspaces)
  | .createSession name =>
    (createWorkspace exchange workspaces (some name) created).map fun (result, after) =>
      (.answers (runAction "CreateSession" result), after)
  | .createSpace label =>
    (createWorkspace exchange workspaces label created).map fun (result, after) =>
      (.answers (runSpaceAction "CreateSpace" result), after)
  | .renameSpace spaceId label =>
    (Herdr.renameWorkspace exchange workspaces spaceId label).map fun (result, after) =>
      (.answers (runSpaceAction "RenameSpace" result), after)
  | .findRenamed session newName =>
    match workspaceIdListed exchange workspaces session with
    | .error message => some (.answers (runAction "RenameSession" (.error message)), workspaces)
    | .ok workspaceId => some (.asks (.renameWorkspace workspaceId newName), workspaces)
  | .renameWorkspace workspaceId newName =>
    (Herdr.renameWorkspace exchange workspaces workspaceId newName).map fun (result, after) =>
      (.answers (runAction "RenameSession" result), after)
  | .openAttach _ => some (.attached, workspaces)

end Handlers

/-- herdr with the handlers that are on their way through it, what each found there when it last asked, and
what they have answered. -/
structure Server where
  workspaces : List WorkspaceInfo
  pending : AList (fun _ : Nat => Task)
  found : Nat -> List WorkspaceInfo
  answers : List (Nat × Except Status ProtoAck)

inductive Event
  | request (id : Nat) (caller : Option Bool) (request : Request)
  | call (id : Nat) (exchange : Exchange) (created : WorkspaceInfo)
  | abandon (id : Nat)
  -- Others create, rename and focus workspaces, but close none.
  | elsewhere (after : List WorkspaceInfo)

def Server.ask (server : Server) (id : Nat) : Server :=
  { server with found := Function.update server.found id server.workspaces }

def Server.settle (server : Server) (id : Nat) (progress : Progress) (workspaces : List WorkspaceInfo) : Server :=
  match progress with
  | .asks task => { server with workspaces, pending := server.pending.insert id task }
  | .answers response =>
    { server with workspaces, pending := server.pending.erase id, answers := server.answers ++ [(id, response)] }
  | .attached | .elsewhere => { server with workspaces, pending := server.pending.erase id }

section Steps

variable {Backend : Type} (zellijValidate : String -> Except (List Piece) Unit) (backends : BackendSet Backend)

def step (server : Server) : Event -> Option Server
  | .request id caller request =>
    if id ∈ server.pending then none
    else
      match accept zellijValidate backends caller request with
      | .error status => some (server.settle id (.answers (.error status)) server.workspaces)
      | .ok progress => some (server.settle id progress server.workspaces)
  | .call id exchange created =>
    match server.pending.lookup id with
    | some task =>
      (advance exchange created server.workspaces task).map fun (progress, after) =>
        (server.ask id).settle id progress after
    | none => none
  | .abandon id => some { server with pending := server.pending.erase id }
  | .elsewhere after =>
    if (server.workspaces.map (·.workspaceId)).Subperm (after.map (·.workspaceId)) then
      some { server with workspaces := after }
    else none

end Steps

section Kept

def Progress.task : Progress -> Option Task
  | .asks task => some task
  | _ => none

def Task.closes : Task -> Option String
  | .closeSpace spaceId => some spaceId
  | .killWorkspace workspaceId => some workspaceId
  | _ => none

def Task.kills : Task -> Bool
  | .killWorkspace _ => true
  | _ => false

/-- Nothing the request has found there is gone since. -/
def Undisturbed (server : Server) (id : Nat) : Prop :=
  ((server.found id).map (·.workspaceId)).Subperm (server.workspaces.map (·.workspaceId))

/-- No `workspace.close` that herdr carries out is overtaken by another one since its request has listed the
workspaces, and where it kills a session the request had listed more than one. -/
def Unovertaken (server : Server) : Event -> Prop
  | .call id exchange _ => ∀ task ∈ server.pending.lookup id, task.closes.isSome = true ->
    exchange.carriesOut = true -> Undisturbed server id ∧ (task.kills = true -> 2 ≤ (server.found id).length)
  | _ => True

instance (server : Server) (id : Nat) : Decidable (Undisturbed server id) :=
  inferInstanceAs (Decidable (List.Subperm _ _))

instance (server : Server) : (event : Event) -> Decidable (Unovertaken server event)
  | .call _ _ _ => inferInstanceAs (Decidable (∀ task ∈ _, _ = true -> _ = true -> _ ∧ (_ = true -> _ ≤ _)))
  | .request _ _ _ | .abandon _ | .elsewhere _ => inferInstanceAs (Decidable True)

variable {exchange : Exchange} {created : WorkspaceInfo} {workspaces after : List WorkspaceInfo} {task : Task}
  {progress : Progress}

theorem advance_closes {workspaceId : String} (closes : task.closes = some workspaceId)
    (taken : advance exchange created workspaces task = some (progress, after)) :
    after.length + (if exchange.carriesOut then 1 else 0) = workspaces.length := by
  cases task with
  | closeSpace spaceId =>
    obtain ⟨⟨result, left⟩, closed, same⟩ := Option.map_eq_some_iff.mp taken
    obtain rfl := (Prod.mk.inj same).2
    exact closeWorkspace_length closed
  | killWorkspace workspaceId =>
    obtain ⟨⟨result, left⟩, closed, same⟩ := Option.map_eq_some_iff.mp taken
    obtain rfl := (Prod.mk.inj same).2
    exact closeWorkspace_length closed
  | _ => contradiction

theorem advance_keeps (keeps : task.closes = none)
    (taken : advance exchange created workspaces task = some (progress, after)) :
    workspaces.length ≤ after.length := by
  cases task with
  | closeSpace | killWorkspace => contradiction
  | countSpaces spaceId =>
    simp only [advance] at taken
    split at taken
    · exact (Prod.mk.inj (Option.some.inj taken)).2 ▸ le_rfl
    · split_ifs at taken <;> exact (Prod.mk.inj (Option.some.inj taken)).2 ▸ le_rfl
  | checkName name =>
    simp only [advance] at taken
    split at taken
    · exact (Prod.mk.inj (Option.some.inj taken)).2 ▸ le_rfl
    · split_ifs at taken <;> exact (Prod.mk.inj (Option.some.inj taken)).2 ▸ le_rfl
  | findKilled | findRenamed =>
    simp only [advance] at taken
    split at taken <;> exact (Prod.mk.inj (Option.some.inj taken)).2 ▸ le_rfl
  | createSession | createSpace =>
    obtain ⟨⟨result, left⟩, made, same⟩ := Option.map_eq_some_iff.mp taken
    obtain rfl := (Prod.mk.inj same).2
    exact createWorkspace_length made
  | renameSpace | renameWorkspace =>
    obtain ⟨⟨result, left⟩, renamed, same⟩ := Option.map_eq_some_iff.mp taken
    obtain rfl := (Prod.mk.inj same).2
    exact (renameWorkspace_length renamed).ge
  | openAttach session => exact (Prod.mk.inj (Option.some.inj taken)).2 ▸ le_rfl

@[simp] theorem settle_workspaces (server : Server) (id : Nat) (progress : Progress) (workspaces : List WorkspaceInfo) :
    (server.settle id progress workspaces).workspaces = workspaces := by
  cases progress <;> rfl

variable {server : Server} {id : Nat}

theorem settle_pending (other : Nat) :
    (server.settle id progress workspaces).pending.lookup other =
      if other = id then progress.task else server.pending.lookup other := by
  by_cases same : other = id
  · subst same
    cases progress <;> simp [Server.settle, Progress.task]
  · rw [if_neg same]
    cases progress with
    | asks task => exact AList.lookup_insert_ne same
    | _ => exact AList.lookup_erase_ne same

@[simp] theorem settle_found : (server.settle id progress workspaces).found = server.found := by
  cases progress <;> rfl

-- Only a count that leaves something is followed by a close.
theorem advance_asks {spaceId : String}
    (taken : advance exchange created workspaces task = some (.asks (.closeSpace spaceId), after)) :
    2 ≤ workspaces.length := by
  cases task with
  | countSpaces spaceId =>
    simp only [advance] at taken
    split at taken
    · simp at taken
    next spaces listed =>
      split_ifs at taken with last
      · simp at taken
      · have same : workspaces = spaces := by
          cases exchange <;> simp [listWorkspaces] at listed
          exact listed
        subst same
        simp only [wouldCloseLastSpace, decide_eq_true_eq] at last
        omega
  | checkName name =>
    simp only [advance] at taken
    split at taken
    · simp at taken
    · split_ifs at taken <;> simp at taken
  | findKilled | findRenamed =>
    simp only [advance] at taken
    split at taken <;> simp at taken
  | closeSpace | killWorkspace | createSession | createSpace | renameSpace | renameWorkspace =>
    obtain ⟨_, _, same⟩ := Option.map_eq_some_iff.mp taken
    simp at same
  | openAttach session => simp [advance] at taken

variable {asked : Task} {Backend : Type} {zellijValidate : String -> Except (List Piece) Unit}
  {backends : BackendSet Backend}

theorem onHerdr_task {kind : BackendKind} (found : (onHerdr kind progress).task = some task) :
    progress.task = some task := by
  cases kind with
  | herdr => exact found
  | zellij => contradiction

theorem asks_mild {kind : BackendKind}
    (accepted : (.ok (onHerdr kind (.asks asked)) : Except Status Progress) = .ok progress)
    (mild : asked.closes = none) (found : progress.task = some task) : task.closes = none := by
  rw [← Except.ok.inj accepted] at found
  obtain rfl := Option.some.inj (onHerdr_task found)
  exact mild

theorem accept_task {caller : Option Bool} {request : Request}
    (accepted : accept zellijValidate backends caller request = .ok progress) (found : progress.task = some task) :
    task.closes = none := by
  cases request with
  | closeSpace session spaceId =>
    obtain ⟨_, _, rest⟩ := bind_ok.mp accepted
    obtain ⟨_, _, rest⟩ := bind_ok.mp rest
    obtain ⟨_, _, rest⟩ := bind_ok.mp rest
    exact asks_mild rest rfl found
  | killSession session =>
    obtain ⟨_, _, rest⟩ := bind_ok.mp accepted
    split_ifs at rest
    obtain ⟨_, _, rest⟩ := bind_ok.mp rest
    rw [← Except.ok.inj rest] at found
    have inner := onHerdr_task found
    split_ifs at inner
    · contradiction
    · obtain rfl := Option.some.inj inner
      rfl
  | createSession name layout backend =>
    obtain ⟨_, _, rest⟩ := bind_ok.mp accepted
    obtain ⟨kind, _, rest⟩ := bind_ok.mp rest
    split at rest
    · contradiction
    · obtain ⟨_, _, rest⟩ := bind_ok.mp rest
      split_ifs at rest
      · obtain ⟨_, _, rest⟩ := bind_ok.mp rest
        exact asks_mild rest rfl found
      · exact asks_mild rest rfl found
  | createSpace session label =>
    obtain ⟨_, _, rest⟩ := bind_ok.mp accepted
    obtain ⟨_, _, rest⟩ := bind_ok.mp rest
    split_ifs at rest
    · exact asks_mild rest rfl found
    · obtain ⟨_, _, rest⟩ := bind_ok.mp rest
      exact asks_mild rest rfl found
  | renameSpace session spaceId label =>
    obtain ⟨_, _, rest⟩ := bind_ok.mp accepted
    obtain ⟨_, _, rest⟩ := bind_ok.mp rest
    obtain ⟨_, _, rest⟩ := bind_ok.mp rest
    obtain ⟨_, _, rest⟩ := bind_ok.mp rest
    exact asks_mild rest rfl found
  | renameSession session name =>
    obtain ⟨_, _, rest⟩ := bind_ok.mp accepted
    obtain ⟨_, _, rest⟩ := bind_ok.mp rest
    obtain ⟨_, _, rest⟩ := bind_ok.mp rest
    rw [← Except.ok.inj rest] at found
    have inner := onHerdr_task found
    split_ifs at inner
    · contradiction
    · obtain rfl := Option.some.inj inner
      exact rfl
  | attach first =>
    obtain ⟨target, _, rest⟩ := bind_ok.mp accepted
    exact asks_mild rest rfl found

structure Counted (server : Server) : Prop where
  left : server.workspaces ≠ []
  closing : ∀ id spaceId, server.pending.lookup id = some (.closeSpace spaceId) -> 2 ≤ (server.found id).length

theorem settle_counted {found : Nat -> List WorkspaceInfo} (counted : Counted server)
    (others : ∀ other, other ≠ id -> found other = server.found other) (left : workspaces ≠ [])
    (asks : ∀ spaceId, progress.task = some (.closeSpace spaceId) -> 2 ≤ (found id).length) :
    Counted ({ server with found }.settle id progress workspaces) := by
  refine { left := by simpa using left, closing := ?_ }
  intro other spaceId waiting
  rw [settle_pending] at waiting
  rw [settle_found]
  split_ifs at waiting with same
  · exact same ▸ asks spaceId waiting
  · change 2 ≤ (found other).length
    rw [others other same]
    exact counted.closing other spaceId waiting

-- A close takes one of two at least: those that were found, and are all still there.
theorem closes_leave {workspaceId : String} (counted : Counted server) (waiting : server.pending.lookup id = some task)
    (closes : task.closes = some workspaceId) (unovertaken : Unovertaken server (.call id exchange created))
    (taken : advance exchange created server.workspaces task = some (progress, after)) : after ≠ [] := by
  have positive := List.length_pos_iff.mpr counted.left
  have count := advance_closes closes taken
  rw [← List.length_pos_iff]
  cases carried : exchange.carriesOut with
  | false =>
    rw [carried] at count
    simp only [Bool.false_eq_true, if_false] at count
    omega
  | true =>
    obtain ⟨undisturbed, killed⟩ := unovertaken task waiting (by rw [closes]; rfl) carried
    have still := undisturbed.length_le
    simp only [List.length_map] at still
    have two : 2 ≤ (server.found id).length := by
      cases task with
      | closeSpace spaceId => exact counted.closing id spaceId waiting
      | killWorkspace workspaceId => exact killed rfl
      | _ => contradiction
    rw [carried, if_pos rfl] at count
    omega

theorem counted_step (server : Server) (event : Event) (next : Server) (counted : Counted server)
    (unovertaken : Unovertaken server event) (taken : step zellijValidate backends server event = some next) :
    Counted next := by
  have unchanged {id : Nat} (progress : Progress)
      (mild : ∀ spaceId, progress.task ≠ some (.closeSpace spaceId)) :
      Counted (server.settle id progress server.workspaces) :=
    settle_counted counted (fun _ _ => rfl) counted.left fun spaceId asks => absurd asks (mild spaceId)
  cases event with
  | request id caller request =>
    simp only [step] at taken
    split_ifs at taken
    split at taken
    · rw [← Option.some.inj taken]
      exact unchanged _ (by simp [Progress.task])
    next progress accepted =>
      rw [← Option.some.inj taken]
      apply unchanged
      intro spaceId asks
      have quiet := accept_task accepted asks
      contradiction
  | abandon id =>
    rw [← Option.some.inj taken]
    exact unchanged .attached (by simp [Progress.task])
  | elsewhere after =>
    simp only [step] at taken
    split_ifs at taken with kept
    have length := kept.length_le
    simp only [List.length_map] at length
    have positive := List.length_pos_iff.mpr counted.left
    rw [← Option.some.inj taken]
    exact { counted with left := List.length_pos_iff.mp (by simp only; omega) }
  | call id exchange created =>
    simp only [step] at taken
    split at taken
    next task waiting =>
      obtain ⟨⟨progress, after⟩, advanced, rfl⟩ := Option.map_eq_some_iff.mp taken
      have positive := List.length_pos_iff.mpr counted.left
      have left : after ≠ [] := by
        cases closes : task.closes with
        | some workspaceId => exact closes_leave counted waiting closes unovertaken advanced
        | none =>
          have kept := advance_keeps closes advanced
          exact List.length_pos_iff.mp (by omega)
      apply settle_counted counted (fun other apart => Function.update_of_ne apart _ _) left
      intro spaceId asks
      cases progress with
      | asks asked =>
        obtain rfl := Option.some.inj asks
        rw [Function.update_self]
        exact advance_asks advanced
      | _ => contradiction
    · contradiction

/-- While no close is overtaken by another, and none kills by label what may be the last workspace, herdr is
never emptied. -/
theorem last_workspace_kept {server : Server} {events : List Event} (left : server.workspaces ≠ [])
    (idle : server.pending = ∅)
    (unovertaken : Transition.Meets (step zellijValidate backends) Unovertaken server events) :
    Transition.Throughout (step zellijValidate backends) (fun passed => passed.workspaces ≠ []) server events := by
  have start : Counted server := { left, closing := by simp [idle] }
  exact Transition.throughout_of_meets counted_step (fun _ counted => counted.left) start unovertaken

end Kept

section Emptied

def space (workspaceId : String) (focused : Bool) : WorkspaceInfo :=
  { workspaceId, label := workspaceId, focused, activeTabId := "tab1" }

def twoSpaces : Server :=
  { workspaces := [space "w1" true, space "w2" false], pending := ∅, found := fun _ => [], answers := [] }

-- Both requests count two spaces before either has closed its own.
def crossing : List Event :=
  [.request 0 (some false) (.closeSpace "herdr:herdr" "w1"),
    .request 1 (some false) (.closeSpace "herdr:herdr" "w2"),
    .call 0 .answered (space "" true), .call 1 .answered (space "" true),
    .call 0 .answered (space "" true), .call 1 .answered (space "" true)]

theorem crossing_closes_empty_herdr :
    ∃ final, Transition.run (step (fun _ => .ok ()) herdrOnly) twoSpaces crossing = some final ∧
      final.workspaces = [] ∧
      final.answers = [(0, .ok { ok := true, error := "", info := "" }), (1, .ok { ok := true, error := "", info := "" })] :=
  ⟨_, rfl, rfl, rfl⟩

-- A bare label is not the collapsed session's id, and killing it asks for no count.
def killing : List Event :=
  [.request 0 (some false) (.killSession "w1"), .call 0 .answered (space "" true), .call 0 .answered (space "" true)]

example : ∃ final, Transition.run (step (fun _ => .ok ()) herdrOnly) { twoSpaces with workspaces := [space "w1" true] }
        killing = some final ∧
      final.workspaces = [] ∧ final.answers = [(0, .ok { ok := true, error := "", info := "" })] :=
  ⟨_, rfl, rfl, rfl⟩

-- One request after the other: a kill and a close, and then a close that is refused.
def inTurn : List Event :=
  [.elsewhere [space "w1" true, space "w2" false, space "w3" false],
    .request 0 (some false) (.killSession "w2"), .call 0 .answered (space "" true), .call 0 .answered (space "" true),
    .request 1 (some false) (.closeSpace "herdr:herdr" "w1"), .call 1 .answered (space "" true),
    .call 1 .answered (space "" true),
    .request 2 (some false) (.closeSpace "herdr:herdr" "w3"), .call 2 .answered (space "" true)]

theorem last_workspace_kept_inTurn :
    (∃ final, Transition.run (step (fun _ => .ok ()) herdrOnly) twoSpaces inTurn = some final ∧
      final.workspaces = [space "w3" false] ∧
      final.answers = [(0, .ok { ok := true, error := "", info := "" }), (1, .ok { ok := true, error := "", info := "" }),
        (2, .ok { ok := false, error := "cannot close the last space", info := "" })]) ∧
    Transition.Throughout (step (fun _ => .ok ()) herdrOnly) (fun passed => passed.workspaces ≠ []) twoSpaces inTurn := by
  refine ⟨⟨_, rfl, rfl, rfl⟩, last_workspace_kept (by decide) rfl ?_⟩
  decide

end Emptied

end Muxrd.LastSpace
