import Muxrd.Herdr.Workspaces
import Muxrd.Lib.Run

set_option autoImplicit false

namespace Muxrd.Herdr.Labels

inductive Operation
  | createSession (name : String) (layout : Option String)
  | createSpace (label : Option String)
  | renameSpace (spaceId label : String)
  | renameSession (session newName : String)
  | closeSpace (spaceId : String)
  | killSession (session : String)
  deriving DecidableEq, Repr

/-- An operation with how its listing and its change end, and the workspace herdr would create for it. -/
structure Event where
  operation : Operation
  probe : Exchange
  exchange : Exchange
  created : WorkspaceInfo
  deriving DecidableEq, Repr

section Operations

variable (probe exchange : Exchange) (created : WorkspaceInfo) (workspaces : List WorkspaceInfo)

-- The layout is ignored.
def createSession (name : String) (_layout : Option String) : Option (Except String ActionAck × List WorkspaceInfo) :=
  match listWorkspaces probe workspaces with
  | .error message => some (.error message, workspaces)
  | .ok listed =>
    if listed.any (·.label = name) then
      some (.ok (ackErr ("session '" ++ name ++ "' already exists")), workspaces)
    else createWorkspace exchange workspaces (some name) created

def closeFailed (ack : ActionAck) : String :=
  "herdr workspace.close failed: " ++ ack.error.getD "unknown error"

def killed (result : Except String ActionAck) : Except String Unit :=
  match result with
  | .error message => .error message
  | .ok ack => if ack.ok then .ok () else .error (closeFailed ack)

def killSession (session : String) : Option (Except String Unit × List WorkspaceInfo) :=
  if session = herdrSession then some (.error herdrSessionImmutableMsg, workspaces)
  else
    match workspaceIdListed probe workspaces session with
    | .error message => some (.error message, workspaces)
    | .ok workspaceId => (closeWorkspace exchange workspaces workspaceId).map fun outcome => (killed outcome.1, outcome.2)

def renameSession (session newName : String) : Option (Except String ActionAck × List WorkspaceInfo) :=
  if session = herdrSession then some (.ok (ackErr herdrSessionImmutableMsg), workspaces)
  else
    match workspaceIdListed probe workspaces session with
    | .error message => some (.error message, workspaces)
    | .ok workspaceId => renameWorkspace exchange workspaces workspaceId newName

-- herdr names a workspace itself when no label is given, and then freshly.
def createSpace (label : Option String) : Option (Except String ActionAck × List WorkspaceInfo) :=
  if label = none && workspaces.any (·.label = created.label) then none
  else createWorkspace exchange workspaces label created

end Operations

def step (workspaces : List WorkspaceInfo) (event : Event) : Option (List WorkspaceInfo) :=
  match event.operation with
  | .createSession name layout =>
    (createSession event.probe event.exchange event.created workspaces name layout).map (·.2)
  | .createSpace label => (createSpace event.exchange event.created workspaces label).map (·.2)
  | .renameSpace spaceId label => (renameWorkspace event.exchange workspaces spaceId label).map (·.2)
  | .renameSession session newName => (renameSession event.probe event.exchange workspaces session newName).map (·.2)
  | .closeSpace spaceId => (closeWorkspace event.exchange workspaces spaceId).map (·.2)
  | .killSession session => (killSession event.probe event.exchange workspaces session).map (·.2)

/-- herdr's key is the id; the labels are what muxrd needs distinct. -/
structure Distinct (workspaces : List WorkspaceInfo) : Prop where
  ids : (workspaces.map (·.workspaceId)).Nodup
  labels : (workspaces.map (·.label)).Nodup

def ambiguous (session : String) : String :=
  "herdr: ambiguous session: multiple herdr workspaces labeled '" ++ session ++ "'"

def Unambiguous (workspaces : List WorkspaceInfo) : Prop :=
  ∀ session, workspaceIdListed .answered workspaces session ≠ .error (ambiguous session)

def WritesFresh (workspaces : List WorkspaceInfo) (event : Event) : Prop :=
  match event.operation with
  | .createSpace (some label) =>
    event.exchange.carriesOut = true -> ∀ other ∈ workspaces, other.label ≠ label
  | .renameSpace spaceId label =>
    event.exchange.carriesOut = true -> ∀ other ∈ workspaces, other.workspaceId ≠ spaceId -> other.label ≠ label
  | .renameSession session newName =>
    -- The rename is sent only once the session has been found.
    session ≠ herdrSession ∧ event.probe = .answered ∧ session ∈ workspaces.map (·.label) ∧
      event.exchange.carriesOut = true ->
        ∀ other ∈ workspaces, other.label ≠ session -> other.label ≠ newName
  | .createSession _ _ | .createSpace none | .closeSpace _ | .killSession _ => True

instance (workspaces : List WorkspaceInfo) (event : Event) : Decidable (WritesFresh workspaces event) :=
  match event with
  | ⟨.createSpace (some _), _, _, _⟩ => inferInstanceAs (Decidable (_ -> ∀ other ∈ workspaces, _))
  | ⟨.renameSpace _ _, _, _, _⟩ => inferInstanceAs (Decidable (_ -> ∀ other ∈ workspaces, _))
  | ⟨.renameSession _ _, _, _, _⟩ => inferInstanceAs (Decidable (_ ∧ _ -> ∀ other ∈ workspaces, _))
  | ⟨.createSession _ _, _, _, _⟩ => .isTrue trivial
  | ⟨.createSpace none, _, _, _⟩ => .isTrue trivial
  | ⟨.closeSpace _, _, _, _⟩ => .isTrue trivial
  | ⟨.killSession _, _, _, _⟩ => .isTrue trivial

section Changes

variable {exchange : Exchange} {workspaces after : List WorkspaceInfo} {result : Except String ActionAck}

theorem Distinct.nodup (distinct : Distinct workspaces) : workspaces.Nodup :=
  distinct.ids.of_map _

theorem closed_distinct {workspaceId : String} (distinct : Distinct workspaces)
    (called : closeWorkspace exchange workspaces workspaceId = some (result, after)) : Distinct after := by
  rcases callAction_cases called with ⟨_, changed⟩ | ⟨_, rfl⟩
  · split_ifs at changed
    have rest : after.Sublist workspaces := by
      rw [← Option.some.inj changed]
      exact List.eraseP_sublist
    exact { ids := distinct.ids.sublist (rest.map _), labels := distinct.labels.sublist (rest.map _) }
  · exact distinct

theorem created_distinct {label : Option String} {created : WorkspaceInfo} (distinct : Distinct workspaces)
    (called : createWorkspace exchange workspaces label created = some (result, after)) :
    Distinct after ↔ (exchange.carriesOut = true -> ∀ other ∈ workspaces, other.label ≠ created.label) := by
  rcases callAction_cases called with ⟨carried, changed⟩ | ⟨ignored, rfl⟩
  · split_ifs at changed with refused
    have fresh : ∀ other ∈ workspaces, other.workspaceId ≠ created.workspaceId := by
      simp only [Bool.or_eq_true, not_or, hasWorkspace, List.any_eq_true, not_exists, not_and, decide_eq_true_eq] at refused
      exact refused.1.1
    rw [← Option.some.inj changed]
    constructor
    · intro kept _ other member same
      have labels := kept.labels
      simp only [List.map_append, List.map_map, Function.comp_def, List.map_cons, List.map_nil] at labels
      have apart := (List.nodup_append.mp labels).2.2 other.label (List.mem_map_of_mem member) created.label
        (List.mem_singleton_self _)
      exact apart same
    · intro apart
      constructor
      · simp only [List.map_append, List.map_map, Function.comp_def, List.map_cons, List.map_nil]
        refine List.nodup_append.mpr ⟨distinct.ids, List.nodup_singleton _, ?_⟩
        intro id member newId isNew
        rcases List.mem_map.mp member with ⟨other, here, rfl⟩
        rw [List.mem_singleton.mp isNew]
        exact fresh other here
      · simp only [List.map_append, List.map_map, Function.comp_def, List.map_cons, List.map_nil]
        refine List.nodup_append.mpr ⟨distinct.labels, List.nodup_singleton _, ?_⟩
        intro label member newLabel isNew
        rcases List.mem_map.mp member with ⟨other, here, rfl⟩
        rw [List.mem_singleton.mp isNew]
        exact apart carried other here
  · simp [ignored, distinct]

theorem createWorkspace_label {label : String} {created : WorkspaceInfo}
    (called : createWorkspace exchange workspaces (some label) created = some (result, after))
    (carried : exchange.carriesOut = true) : created.label = label := by
  rcases callAction_cases called with ⟨_, changed⟩ | ⟨ignored, _⟩
  · split_ifs at changed with refused
    simp only [Bool.or_eq_true, not_or, Option.any_some, bne_iff_ne, ne_eq, not_not] at refused
    exact refused.2.symm
  · simp [carried] at ignored

-- Whatever a relabelling does to the labels, it is injective when nobody else carries the new one.
theorem relabel_nodup_iff {workspaceId : String} (label : String) (distinct : Distinct workspaces)
    (present : hasWorkspace workspaces workspaceId = true) :
    ((workspaces.map fun workspace =>
      if workspace.workspaceId = workspaceId then { workspace with label } else workspace).map (·.label)).Nodup ↔
      ∀ other ∈ workspaces, other.workspaceId ≠ workspaceId -> other.label ≠ label := by
  rw [List.map_map, List.nodup_map_iff_inj_on distinct.nodup]
  constructor
  · intro injective other member elsewhere same
    rcases List.any_eq_true.mp present with ⟨target, here, named⟩
    have own : target.workspaceId = workspaceId := by simpa using named
    have merged : target = other := by
      apply injective target here other member
      simp [own, elsewhere, same]
    exact elsewhere (merged ▸ own)
  · intro apart first here second there same
    by_cases one : first.workspaceId = workspaceId
    · by_cases two : second.workspaceId = workspaceId
      · exact List.inj_on_of_nodup_map distinct.ids here there (one.trans two.symm)
      · have taken : second.label = label := by simpa [one, two] using same.symm
        exact absurd taken (apart second there two)
    · by_cases two : second.workspaceId = workspaceId
      · have taken : first.label = label := by simpa [one, two] using same
        exact absurd taken (apart first here one)
      · have labels : first.label = second.label := by simpa [one, two] using same
        exact List.inj_on_of_nodup_map distinct.labels here there labels

theorem renamed_distinct {workspaceId label : String} (distinct : Distinct workspaces)
    (called : renameWorkspace exchange workspaces workspaceId label = some (result, after)) :
    Distinct after ↔
      (exchange.carriesOut = true -> ∀ other ∈ workspaces, other.workspaceId ≠ workspaceId -> other.label ≠ label) := by
  rcases callAction_cases called with ⟨carried, changed⟩ | ⟨ignored, rfl⟩
  · split_ifs at changed with present
    have ids : (after.map (·.workspaceId)) = workspaces.map (·.workspaceId) := by
      rw [← Option.some.inj changed, List.map_map]
      apply List.map_congr_left
      intro workspace _
      by_cases named : workspace.workspaceId = workspaceId <;> simp [named]
    have relabelled := relabel_nodup_iff label distinct present
    rw [Option.some.inj changed] at relabelled
    constructor
    · intro kept _
      exact relabelled.mp kept.labels
    · intro apart
      exact { ids := ids ▸ distinct.ids, labels := relabelled.mpr (apart carried) }
  · simp [ignored, distinct]

end Changes

section Lookup

variable {probe : Exchange} {workspaces : List WorkspaceInfo}

theorem filter_label (distinct : Distinct workspaces) (session : String) :
    (workspaces.filter (·.label = session) = [] ∧ session ∉ workspaces.map (·.label)) ∨
      ∃ workspace ∈ workspaces, workspace.label = session ∧ workspaces.filter (·.label = session) = [workspace] := by
  have listed : ∀ workspace ∈ workspaces.filter (·.label = session), workspace ∈ workspaces ∧ workspace.label = session := by
    intro workspace member
    simpa using List.mem_filter.mp member
  have unique : (workspaces.filter (·.label = session)).Nodup := distinct.nodup.filter _
  cases found : workspaces.filter (·.label = session) with
  | nil =>
    refine .inl ⟨rfl, ?_⟩
    intro member
    rcases List.mem_map.mp member with ⟨workspace, here, labelled⟩
    have kept : workspace ∈ workspaces.filter (·.label = session) := by simp [here, labelled]
    rw [found] at kept
    exact absurd kept List.not_mem_nil
  | cons first rest =>
    rw [found] at listed unique
    have one := listed first List.mem_cons_self
    right
    refine ⟨first, one.1, one.2, ?_⟩
    cases rest with
    | nil => rfl
    | cons second others =>
      have two := listed second (List.mem_cons_of_mem _ List.mem_cons_self)
      have same : first = second := List.inj_on_of_nodup_map distinct.labels one.1 two.1 (one.2.trans two.2.symm)
      simp [same] at unique

def missing (session : String) : String :=
  "herdr: no workspace with label '" ++ session ++ "'"

theorem missing_ne_ambiguous (session : String) : missing session ≠ ambiguous session := by
  intro same
  unfold missing ambiguous at same
  have letters := congrArg String.toList same
  simp at letters

theorem unambiguous_of_distinct (distinct : Distinct workspaces) : Unambiguous workspaces := by
  intro session
  rcases filter_label distinct session with ⟨unlisted, _⟩ | ⟨workspace, _, _, found⟩
  · simp only [workspaceIdListed, workspaceIdFor, listWorkspaces, unlisted]
    intro same
    exact missing_ne_ambiguous session (Except.error.inj same)
  · simp [workspaceIdListed, workspaceIdFor, listWorkspaces, found]

variable (probe) in
theorem workspaceIdListed_cases (distinct : Distinct workspaces) (session : String) :
    (∃ message, workspaceIdListed probe workspaces session = .error message ∧
        ¬ (probe = .answered ∧ session ∈ workspaces.map (·.label))) ∨
      ∃ workspace ∈ workspaces, workspace.label = session ∧ probe = .answered ∧
        workspaceIdListed probe workspaces session = .ok workspace.workspaceId := by
  cases probe with
  | refused message => exact .inl ⟨message, rfl, by simp⟩
  | lost message carriedOut => exact .inl ⟨message, rfl, by simp⟩
  | answered =>
    rcases filter_label distinct session with ⟨unlisted, absent⟩ | ⟨workspace, here, labelled, found⟩
    · left
      refine ⟨missing session, ?_, by simpa using absent⟩
      simp only [workspaceIdListed, workspaceIdFor, listWorkspaces, unlisted]
      rfl
    · right
      refine ⟨workspace, here, labelled, rfl, ?_⟩
      simp only [workspaceIdListed, workspaceIdFor, listWorkspaces, found]

end Lookup

section Steps

variable {probe exchange : Exchange} {created : WorkspaceInfo} {workspaces after : List WorkspaceInfo}

theorem createSession_distinct {name : String} {layout : Option String} {result : Except String ActionAck}
    (distinct : Distinct workspaces)
    (called : createSession probe exchange created workspaces name layout = some (result, after)) : Distinct after := by
  unfold createSession at called
  cases listed : listWorkspaces probe workspaces with
  | error message =>
    simp only [listed, Option.some.injEq, Prod.mk.injEq] at called
    exact called.2 ▸ distinct
  | ok found =>
    have same : found = workspaces := by
      cases probe <;> simp [listWorkspaces] at listed
      exact listed.symm
    simp only [listed, same] at called
    by_cases known : workspaces.any (·.label = name) = true
    · simp only [known, if_true, Option.some.injEq, Prod.mk.injEq] at called
      exact called.2 ▸ distinct
    · simp only [known, Bool.false_eq_true, if_false] at called
      refine (created_distinct distinct called).mpr ?_
      intro carried other member
      rw [createWorkspace_label called carried]
      simp only [List.any_eq_true, decide_eq_true_eq, not_exists, not_and] at known
      exact known other member

theorem killSession_distinct {session : String} {result : Except String Unit} (distinct : Distinct workspaces)
    (called : killSession probe exchange workspaces session = some (result, after)) : Distinct after := by
  unfold killSession at called
  by_cases sentinel : session = herdrSession
  · simp only [sentinel, if_true, Option.some.injEq, Prod.mk.injEq] at called
    exact called.2 ▸ distinct
  · simp only [sentinel, if_false] at called
    cases found : workspaceIdListed probe workspaces session with
    | error message =>
      simp only [found, Option.some.injEq, Prod.mk.injEq] at called
      exact called.2 ▸ distinct
    | ok workspaceId =>
      simp only [found] at called
      obtain ⟨⟨ack, left⟩, closed, same⟩ := Option.map_eq_some_iff.mp called
      obtain rfl := (Prod.mk.inj same).2
      exact closed_distinct distinct closed

theorem renameSession_distinct {session newName : String} {result : Except String ActionAck}
    (distinct : Distinct workspaces)
    (called : renameSession probe exchange workspaces session newName = some (result, after)) :
    Distinct after ↔
      (session ≠ herdrSession ∧ probe = .answered ∧ session ∈ workspaces.map (·.label) ∧ exchange.carriesOut = true ->
        ∀ other ∈ workspaces, other.label ≠ session -> other.label ≠ newName) := by
  unfold renameSession at called
  by_cases sentinel : session = herdrSession
  · simp only [sentinel, if_true, Option.some.injEq, Prod.mk.injEq] at called
    simp [← called.2, distinct, sentinel]
  · simp only [sentinel, if_false] at called
    rcases workspaceIdListed_cases probe distinct session with
      ⟨message, missing, absent⟩ | ⟨target, here, labelled, answered, found⟩
    · simp only [missing, Option.some.injEq, Prod.mk.injEq] at called
      rw [← called.2]
      refine iff_of_true distinct ?_
      intro premises
      exact absurd ⟨premises.2.1, premises.2.2.1⟩ absent
    · simp only [found] at called
      have same : ∀ other ∈ workspaces, (other.workspaceId ≠ target.workspaceId ↔ other.label ≠ session) := by
        intro other member
        rw [← labelled, not_iff_not]
        constructor
        · intro ids
          rw [List.inj_on_of_nodup_map distinct.ids member here ids]
        · intro labels
          rw [List.inj_on_of_nodup_map distinct.labels member here labels]
      have present : session ∈ workspaces.map (·.label) := labelled ▸ List.mem_map_of_mem here
      rw [renamed_distinct distinct called]
      constructor
      · intro apart premises other member elsewhere
        exact apart premises.2.2.2 other member ((same other member).mpr elsewhere)
      · intro apart carried other member elsewhere
        exact apart ⟨sentinel, answered, present, carried⟩ other member ((same other member).mp elsewhere)

end Steps

theorem step_distinct {workspaces after : List WorkspaceInfo} {event : Event} (distinct : Distinct workspaces)
    (taken : step workspaces event = some after) : Distinct after ↔ WritesFresh workspaces event := by
  rcases event with ⟨operation, probe, exchange, created⟩
  cases operation with
  | createSession name layout =>
    obtain ⟨⟨result, left⟩, called, rfl⟩ := Option.map_eq_some_iff.mp taken
    exact iff_of_true (createSession_distinct distinct called) trivial
  | createSpace label =>
    obtain ⟨⟨result, left⟩, called, rfl⟩ := Option.map_eq_some_iff.mp taken
    unfold createSpace at called
    split_ifs at called with used
    have kept := created_distinct distinct called
    cases label with
    | none =>
      refine iff_of_true (kept.mpr ?_) trivial
      intro _ other member same
      exact used (by simpa using ⟨other, member, same⟩)
    | some label =>
      constructor
      · intro after carried
        rw [← createWorkspace_label called carried]
        exact kept.mp after carried
      · intro apart
        refine kept.mpr ?_
        intro carried
        rw [createWorkspace_label called carried]
        exact apart carried
  | renameSpace spaceId label =>
    obtain ⟨⟨result, left⟩, called, rfl⟩ := Option.map_eq_some_iff.mp taken
    exact renamed_distinct distinct called
  | renameSession session newName =>
    obtain ⟨⟨result, left⟩, called, rfl⟩ := Option.map_eq_some_iff.mp taken
    exact renameSession_distinct distinct called
  | closeSpace spaceId =>
    obtain ⟨⟨result, left⟩, called, rfl⟩ := Option.map_eq_some_iff.mp taken
    exact iff_of_true (closed_distinct distinct called) trivial
  | killSession session =>
    obtain ⟨⟨result, left⟩, called, rfl⟩ := Option.map_eq_some_iff.mp taken
    exact iff_of_true (killSession_distinct distinct called) trivial

/-- Over a run of operations the labels stay distinct, and no lookup ambiguous, exactly when no operation writes
a label that another workspace carries. -/
theorem labels_stay_distinct_iff {workspaces final : List WorkspaceInfo} {events : List Event}
    (distinct : Distinct workspaces) (ran : Transition.run step workspaces events = some final) :
    Transition.Throughout step (fun workspaces => Distinct workspaces ∧ Unambiguous workspaces) workspaces events ↔
      Transition.Meets step WritesFresh workspaces events := by
  refine Transition.throughout_iff_meets ?_ ⟨distinct, unambiguous_of_distinct distinct⟩ ran
  intro current event next holds taken
  rw [← step_distinct holds.1 taken]
  constructor
  · intro both
    exact both.1
  · intro kept
    exact ⟨kept, unambiguous_of_distinct kept⟩

section Renamed

def mainWorkspace : WorkspaceInfo :=
  { workspaceId := "w1", label := "main", focused := true, activeTabId := "t1" }

def logsWorkspace : WorkspaceInfo :=
  { workspaceId := "w2", label := "logs", focused := false, activeTabId := "t2" }

theorem mainAndLogs_distinct : Distinct [mainWorkspace, logsWorkspace] :=
  { ids := by decide, labels := by decide }

def performing (operation : Operation) : Event :=
  { operation
    probe := .answered
    exchange := .answered
    created := { workspaceId := "w3", label := "api", focused := true, activeTabId := "t3" } }

/-- RenameSpace onto the label of another workspace: the session `main` can no longer be found. -/
theorem renamed_space_is_ambiguous :
    Distinct [mainWorkspace, logsWorkspace] ∧
      ∃ final, Transition.run step [mainWorkspace, logsWorkspace] [performing (.renameSpace "w2" "main")] = some final ∧
        ¬ Distinct final ∧ workspaceIdListed .answered final "main" = .error (ambiguous "main") := by
  refine ⟨mainAndLogs_distinct, _, rfl, ?_, rfl⟩
  intro distinct
  exact absurd distinct.labels (by decide)

theorem labels_stay_distinct_fresh :
    Transition.Throughout step (fun workspaces => Distinct workspaces ∧ Unambiguous workspaces)
      [mainWorkspace, logsWorkspace]
      [performing (.createSession "api" none), performing (.renameSession "api" "web"),
        performing (.renameSpace "w2" "old logs"), performing (.killSession "main")] := by
  refine (labels_stay_distinct_iff mainAndLogs_distinct rfl).mpr ?_
  decide

end Renamed

end Muxrd.Herdr.Labels
