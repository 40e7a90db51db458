import Muxrd.ClientCount
import Muxrd.Herdr.Workspaces
import Muxrd.Multiplexer.RoundTrip

set_option autoImplicit false

namespace Muxrd.Sessions

open ClientCount Herdr Routing

structure ListedSession where
  name : String
  ageSecs : UInt64
  resurrectable : Bool
  deriving DecidableEq, Repr

-- `BACKEND_UNSPECIFIED` is never written.
inductive ProtoBackend
  | unspecified
  | zellij
  | herdr
  deriving DecidableEq, Repr

def protoBackend : BackendKind -> ProtoBackend
  | .zellij => .zellij
  | .herdr => .herdr

structure SessionInfo where
  name : String
  ageSecs : UInt64
  resurrectable : Bool
  tabCount : UInt32
  paneCount : UInt32
  hasBell : Bool
  isCurrent : Bool
  connectedClients : UInt32
  backend : ProtoBackend
  id : String
  spaceCount : UInt32
  deriving DecidableEq, Repr

/-- How a blocking call under the per-backend ceiling ends. -/
inductive Task
  | finished
  | panicked
  | elapsed
  deriving DecidableEq, Repr

-- What is behind a backend while one request runs. herdr is asked for its workspaces twice.
inductive MuxBackend
  | zellij (live : Except String (List (String × UInt64))) (resurrectable : List (String × UInt64))
  | herdr (listed recounted : Except String (List WorkspaceInfo))

structure Probed where
  backend : MuxBackend
  sessionsTask : Task
  spacesTask : Task

-- Resurrectable sessions that are not also live come after the live ones.
def mergeResurrectables (live resurrectable : List (String × UInt64)) : List ListedSession :=
  (live.map fun session => { name := session.1, ageSecs := session.2, resurrectable := false }) ++
    ((resurrectable.filter fun session => session.1 ∉ live.map (·.1)).map fun session =>
      { name := session.1, ageSecs := session.2, resurrectable := true })

def listSessionsWithResurrectables : MuxBackend -> Except String (List ListedSession)
  | .zellij live resurrectable => live.map fun live => mergeResurrectables live resurrectable
  | .herdr listed _ => listed.map fun _ => [{ name := herdrSession, ageSecs := 0, resurrectable := false }]

def listSpaces : MuxBackend -> Except String (List SpaceSnapshot)
  | .zellij _ _ => .ok []
  | .herdr _ recounted => recounted.map (·.map spaceFromWorkspace)

-- `u32::try_from(len).unwrap_or(u32::MAX)`.
def countU32 (length : Nat) : UInt32 :=
  if length < UInt32.size then length.toUInt32 else 4294967295

def herdrSpaceCount (kind : BackendKind) (probed : Probed) : UInt32 :=
  match kind, probed.spacesTask, listSpaces probed.backend with
  | .herdr, .finished, .ok spaces => countU32 spaces.length
  | _, _, _ => 0

def sessionInfo (clients : SessionClients) (kind : BackendKind) (spaceCount : UInt32)
    (session : ListedSession) : SessionInfo :=
  { name := session.name
    ageSecs := session.ageSecs
    resurrectable := session.resurrectable
    tabCount := 0
    paneCount := 0
    hasBell := false
    isCurrent := false
    connectedClients := clients.count (makeId kind session.name)
    backend := protoBackend kind
    id := makeId kind session.name
    spaceCount }

-- A backend that fails, panics or runs out of time is skipped.
def backendSessions (clients : SessionClients) (kind : BackendKind) (probed : Probed) : List SessionInfo :=
  match probed.sessionsTask, listSessionsWithResurrectables probed.backend with
  | .finished, .ok sessions => sessions.map (sessionInfo clients kind (herdrSpaceCount kind probed))
  | _, _ => []

def listSessions (clients : SessionClients) (backends : BackendSet Probed) : List SessionInfo :=
  backends.backends.flatMap fun entry => backendSessions clients entry.1 entry.2

def reportedNames (probed : Probed) : List String :=
  match probed.sessionsTask, probed.backend with
  | .finished, .zellij (.ok live) resurrectable => live.map (·.1) ++ resurrectable.map (·.1)
  | .finished, .herdr (.ok _) _ => [herdrSession]
  | _, _ => []

-- The directories zellij reads its sessions from name each of them once.
def NamedOnce : MuxBackend -> Prop
  | .zellij (.ok live) resurrectable => (live.map (·.1)).Nodup ∧ (resurrectable.map (·.1)).Nodup
  | _ => True

structure Addressable (zellijValidate : String -> Except (List Piece) Unit) (backends : BackendSet Probed)
    (response : List SessionInfo) : Prop where
  resolves : ∀ info ∈ response, ∃ kind probed, info.backend = protoBackend kind ∧
    resolveSessionKind zellijValidate backends info.id = .ok (kind, probed, info.name)
  distinct : (response.map (·.id)).Nodup

theorem mergeResurrectables_names (live resurrectable : List (String × UInt64)) :
    (mergeResurrectables live resurrectable).map (·.name) =
      live.map (·.1) ++ (resurrectable.map (·.1)).filter fun name => name ∉ live.map (·.1) := by
  simp [mergeResurrectables, List.filter_map, Function.comp_def]

theorem mem_mergeResurrectables (live resurrectable : List (String × UInt64)) (name : String) :
    name ∈ (mergeResurrectables live resurrectable).map (·.name) ↔
      name ∈ live.map (·.1) ++ resurrectable.map (·.1) := by
  rw [mergeResurrectables_names, List.mem_append, List.mem_append, List.mem_filter]
  by_cases alive : name ∈ live.map (·.1) <;> simp [alive]

theorem mergeResurrectables_nodup {live resurrectable : List (String × UInt64)}
    (once : (live.map (·.1)).Nodup ∧ (resurrectable.map (·.1)).Nodup) :
    ((mergeResurrectables live resurrectable).map (·.name)).Nodup := by
  rw [mergeResurrectables_names]
  refine List.Nodup.append once.1 (once.2.filter _) ?_
  intro name alive dead
  simpa [alive] using (List.mem_filter.mp dead).2

section OneBackend

variable (clients : SessionClients) (kind : BackendKind) {probed : Probed}

theorem backendSessions_ids :
    (backendSessions clients kind probed).map (·.id) =
      ((backendSessions clients kind probed).map (·.name)).map (makeId kind) := by
  unfold backendSessions
  split <;> simp [sessionInfo, Function.comp_def]

theorem backendSessions_tag {info : SessionInfo} (listed : info ∈ backendSessions clients kind probed) :
    info.backend = protoBackend kind ∧ info.id = makeId kind info.name := by
  unfold backendSessions at listed
  split at listed
  · simp only [List.mem_map] at listed
    rcases listed with ⟨session, _, rfl⟩
    exact ⟨rfl, rfl⟩
  · simp at listed

theorem mem_listedNames (name : String) :
    name ∈ (backendSessions clients kind probed).map (·.name) ↔ name ∈ reportedNames probed := by
  rcases probed with ⟨backend, sessionsTask, spacesTask⟩
  cases sessionsTask with
  | panicked => simp [backendSessions, reportedNames]
  | elapsed => simp [backendSessions, reportedNames]
  | finished =>
    cases backend with
    | herdr listed recounted =>
      cases listed <;> simp [backendSessions, listSessionsWithResurrectables, reportedNames, sessionInfo, Except.map]
    | zellij live resurrectable =>
      cases live with
      | error error => simp [backendSessions, listSessionsWithResurrectables, reportedNames, Except.map]
      | ok live =>
        have merged := mem_mergeResurrectables live resurrectable name
        simpa [backendSessions, listSessionsWithResurrectables, reportedNames, sessionInfo, Except.map,
          Function.comp_def] using merged

theorem listedNames_nodup (once : NamedOnce probed.backend) :
    ((backendSessions clients kind probed).map (·.name)).Nodup := by
  rcases probed with ⟨backend, sessionsTask, spacesTask⟩
  cases sessionsTask with
  | panicked => simp [backendSessions]
  | elapsed => simp [backendSessions]
  | finished =>
    cases backend with
    | herdr listed recounted =>
      cases listed <;> simp [backendSessions, listSessionsWithResurrectables, Except.map]
    | zellij live resurrectable =>
      cases live with
      | error error => simp [backendSessions, listSessionsWithResurrectables, Except.map]
      | ok live =>
        have merged := mergeResurrectables_nodup once
        simpa [backendSessions, listSessionsWithResurrectables, sessionInfo, Except.map,
          Function.comp_def] using merged

end OneBackend

section AllBackends

variable {zellijValidate : String -> Except (List Piece) Unit} (clients : SessionClients)
  {backends : BackendSet Probed}

-- No two backends of one kind report the same name. Detection registers each kind once.
def NoneShared (backends : BackendSet Probed) : Prop :=
  backends.backends.Pairwise fun first second =>
    first.1 = second.1 -> ∀ name ∈ reportedNames first.2, name ∉ reportedNames second.2

def NamesAllowed (backends : BackendSet Probed) : Prop :=
  ∀ entry ∈ backends.backends, ∀ name ∈ reportedNames entry.2, BareName name

theorem ids_disjoint {first second : BackendKind × Probed} :
    List.Disjoint ((backendSessions clients first.1 first.2).map (·.id))
        ((backendSessions clients second.1 second.2).map (·.id)) ↔
      (first.1 = second.1 -> ∀ name ∈ reportedNames first.2, name ∉ reportedNames second.2) := by
  rw [backendSessions_ids, backendSessions_ids]
  constructor
  · intro disjoint kinds name here there
    have inFirst := List.mem_map_of_mem (f := makeId first.1) ((mem_listedNames clients first.1 name).mpr here)
    have inSecond := List.mem_map_of_mem (f := makeId second.1) ((mem_listedNames clients second.1 name).mpr there)
    rw [← kinds] at inSecond
    exact disjoint inFirst (kinds ▸ inSecond)
  · intro apart id inFirst inSecond
    rcases List.mem_map.mp inFirst with ⟨name, here, rfl⟩
    rcases List.mem_map.mp inSecond with ⟨other, there, same⟩
    have parts := makeId_injective same
    rw [parts.2] at there
    exact apart parts.1.symm name ((mem_listedNames _ _ name).mp here) ((mem_listedNames _ _ name).mp there)

theorem ids_nodup (once : ∀ entry ∈ backends.backends, NamedOnce entry.2.backend) :
    ((listSessions clients backends).map (·.id)).Nodup ↔ NoneShared backends := by
  unfold listSessions
  rw [List.map_flatMap, List.nodup_flatMap]
  constructor
  · intro distinct
    exact distinct.2.imp (ids_disjoint clients).mp
  · intro apart
    refine ⟨?_, apart.imp (ids_disjoint clients).mpr⟩
    intro entry member
    rw [backendSessions_ids]
    refine List.Nodup.map ?_ (listedNames_nodup clients entry.1 (once entry member))
    intro name other same
    exact (makeId_injective same).2

theorem resolves_iff (accepts : AcceptsBareNames zellijValidate) :
    (∀ info ∈ listSessions clients backends, ∃ kind probed, info.backend = protoBackend kind ∧
      resolveSessionKind zellijValidate backends info.id = .ok (kind, probed, info.name)) ↔
      NamesAllowed backends := by
  constructor
  · intro resolves entry member name reported
    have listed := (mem_listedNames clients entry.1 name).mpr reported
    rcases List.mem_map.mp listed with ⟨info, here, rfl⟩
    have inResponse : info ∈ listSessions clients backends := List.mem_flatMap.mpr ⟨entry, member, here⟩
    rcases resolves info inResponse with ⟨kind, probed, _, resolved⟩
    exact (resolveSessionKind_eq_ok.mp resolved).2.2
  · intro allowed info listed
    rcases List.mem_flatMap.mp listed with ⟨entry, member, here⟩
    have tag := backendSessions_tag clients entry.1 here
    have reported := (mem_listedNames clients entry.1 info.name).mp (List.mem_map_of_mem here)
    have running := running_of_mem member
    rcases running with ⟨probed, found⟩
    refine ⟨entry.1, probed, tag.1, ?_⟩
    rw [tag.2]
    exact resolve_makeId accepts found (allowed entry member info.name reported)

end AllBackends

/-- ListSessions is addressable exactly when every name a backend reports is in the allowlist that
resolution applies, provided no two backends of one kind report the same name. -/
theorem listSessions_addressable_iff {zellijValidate : String -> Except (List Piece) Unit}
    (accepts : AcceptsBareNames zellijValidate) (clients : SessionClients) (backends : BackendSet Probed)
    (once : ∀ entry ∈ backends.backends, NamedOnce entry.2.backend) :
    Addressable zellijValidate backends (listSessions clients backends) ↔
      NamesAllowed backends ∧ NoneShared backends := by
  rw [← resolves_iff clients accepts, ← ids_nodup clients once]
  constructor
  · intro addressable
    exact ⟨addressable.resolves, addressable.distinct⟩
  · intro parts
    exact { resolves := parts.1, distinct := parts.2 }

def mixedServer (live : List (String × UInt64)) : BackendSet Probed :=
  { backends :=
      [(.zellij, { backend := .zellij (.ok live) [("old", 90)], sessionsTask := .finished, spacesTask := .finished }),
        (.herdr, { backend := .herdr (.ok []) (.ok []), sessionsTask := .finished, spacesTask := .finished })]
    nonempty := List.cons_ne_nil _ _ }

theorem mixedServer_once (live : List (String × UInt64)) (distinct : (live.map (·.1)).Nodup) :
    ∀ entry ∈ (mixedServer live).backends, NamedOnce entry.2.backend := by
  simp [mixedServer, NamedOnce, distinct]

theorem listSessions_addressable_mixed :
    Addressable documentedCheck (mixedServer [("dev", 5)]) (listSessions .new (mixedServer [("dev", 5)])) := by
  have names : (BareName "dev" ∧ BareName "old") ∧ BareName herdrSession := by decide
  refine (listSessions_addressable_iff documentedCheck_accepts .new (mixedServer [("dev", 5)])
    (mixedServer_once _ (List.nodup_singleton "dev"))).mpr ⟨?allowed, ?apart⟩
  case allowed => simpa [NamesAllowed, mixedServer, reportedNames] using names
  case apart => simp [NoneShared, mixedServer]

-- zellij admits a name with a blank in it; the id it is listed under does not resolve.
theorem listSessions_blank_not_addressable :
    documentedCheck "my project" = .ok () ∧ documentedCheck "old" = .ok () ∧
      (∀ entry ∈ (mixedServer [("my project", 5)]).backends, NamedOnce entry.2.backend) ∧
      ¬ Addressable documentedCheck (mixedServer [("my project", 5)])
        (listSessions .new (mixedServer [("my project", 5)])) := by
  refine ⟨by decide, by decide, mixedServer_once _ (List.nodup_singleton "my project"), ?_⟩
  intro addressable
  have allowed := (resolves_iff .new documentedCheck_accepts).mp addressable.resolves
  have name : BareName "my project" := by
    refine allowed _ (List.mem_cons_self ..) "my project" ?_
    simp [reportedNames]
  revert name
  decide

end Muxrd.Sessions
