import Mathlib.Algebra.BigOperators.Group.List.Lemmas
import Muxrd.ClientCount
import Muxrd.Lib.Visible
import Muxrd.Relay.Attach
import Muxrd.Relay.Registry

set_option autoImplicit false

namespace Muxrd.Lifecycle

open Attach Registry Routing ClientCount Visible

inductive Stage
  -- Awaits the view-state query.
  | initialising
  -- Between the insertions, and before the spawn, nothing is awaited.
  | viewed
  | registered
  | running
  | ended
  | uncontrolled
  | unviewed
  deriving DecidableEq, Repr

def Stage.inControl : Stage -> Bool
  | .registered | .running | .ended => true
  | _ => false

def Stage.inView : Stage -> Bool
  | .viewed | .registered | .running | .ended | .uncontrolled => true
  | _ => false

structure Attachment (Backend : Type) where
  opening : Opening Backend
  sender : Nat
  stage : Stage

namespace Attachment

variable {Backend : Type} (attachment : Attachment Backend)

def countKey : String := makeId attachment.opening.kind attachment.opening.session

def entry : ControlEntry :=
  { session := attachment.opening.id, sender := attachment.sender, readOnly := attachment.opening.readOnly }

end Attachment

/-- The maps that the attaches of a server share. The attaches are kept by their connection ids. -/
structure Server (Backend : Type) where
  attachments : AList (fun _ : String => Attachment Backend)
  minted : List String
  control : ControlRegistry
  viewState : ViewStateRegistry
  clients : SessionClients

section Step

variable {Backend : Type}

def Server.new : Server Backend :=
  { attachments := ∅, minted := [], control := ∅, viewState := ∅, clients := SessionClients.new }

inductive Event
  -- A call up to its view-state query, with what the first frame, the backend and the generator gave it.
  | attach (readOnly : Bool) (first : FirstFrame) (size : Option (UInt16 × UInt16)) (opened : Bool)
      (random : BitVec 128) (sender : Nat)
  | cancel (connectionId : String)
  | insertView (connectionId : String) (layout : Except String LayoutSnapshot)
  | insertControl (connectionId : String)
  | spawn (connectionId : String)
  | update (connectionId : String) (change : RelayViewState -> RelayViewState)
  | leave (connectionId : String)
  | removeControl (connectionId : String)
  | removeView (connectionId : String)
  | dropGuard (connectionId : String)

def atStage (server : Server Backend) (connectionId : String) (stage : Stage) : Option (Attachment Backend) :=
  (server.attachments.lookup connectionId).filter fun attachment => attachment.stage = stage

def moveTo (server : Server Backend) (connectionId : String) (attachment : Attachment Backend) (stage : Stage) :
    Server Backend :=
  { server with attachments := server.attachments.insert connectionId { attachment with stage } }

-- The future, or the task, is dropped with the guard it holds.
def release (server : Server Backend) (connectionId : String) (attachment : Attachment Backend) : Server Backend :=
  { server with
    attachments := server.attachments.erase connectionId
    clients := server.clients.dropGuard attachment.countKey }

variable (zellijValidate : String -> Except (List Piece) Unit) (backends : BackendSet Backend)

-- `sockets` is how many sockets the process can have open. An open attach keeps its own until it has dropped
-- its client guard.
def step (sockets : Nat) (server : Server Backend) : Event -> Option (Server Backend)
  | .attach readOnly first size opened random sender =>
    match opening zellijValidate backends (fun _ _ => size) readOnly first with
    | .error _ => some server
    | .ok opening =>
      if opened then
        -- Minted ids never repeat, and no attach opens without a socket.
        if mintConnectionId random ∈ server.minted ∨ sockets ≤ server.attachments.entries.length then none
        else
          (server.clients.attach (makeId opening.kind opening.session)).map fun clients =>
            { server with
              attachments := server.attachments.insert (mintConnectionId random)
                { opening, sender, stage := .initialising }
              minted := mintConnectionId random :: server.minted
              clients }
      else some server
  | .cancel connectionId => (atStage server connectionId .initialising).map (release server connectionId)
  | .insertView connectionId layout =>
    (atStage server connectionId .initialising).map fun attachment =>
      let state := match layout with
        | .ok snapshot => Inbound.initRelayViewState snapshot
        | .error _ => {}
      { moveTo server connectionId attachment .viewed with
        viewState := server.viewState.insert connectionId { session := attachment.opening.id, state } }
  | .insertControl connectionId =>
    (atStage server connectionId .viewed).map fun attachment =>
      { moveTo server connectionId attachment .registered with
        control := server.control.insert connectionId attachment.entry }
  | .spawn connectionId =>
    (atStage server connectionId .registered).map fun attachment => moveTo server connectionId attachment .running
  | .update connectionId change =>
    (atStage server connectionId .running).map fun _ =>
      match server.viewState.lookup connectionId with
      | some entry =>
        { server with
          viewState := server.viewState.insert connectionId { entry with state := change entry.state } }
      | none => server
  | .leave connectionId =>
    (atStage server connectionId .running).map fun attachment => moveTo server connectionId attachment .ended
  | .removeControl connectionId =>
    (atStage server connectionId .ended).map fun attachment =>
      { moveTo server connectionId attachment .uncontrolled with control := server.control.erase connectionId }
  | .removeView connectionId =>
    (atStage server connectionId .uncontrolled).map fun attachment =>
      { moveTo server connectionId attachment .unviewed with viewState := server.viewState.erase connectionId }
  | .dropGuard connectionId => (atStage server connectionId .unviewed).map (release server connectionId)

end Step

section Invariant

variable {Backend : Type}

def Attachment.controlled (attachment : Attachment Backend) : Option ControlEntry :=
  if attachment.stage.inControl then some attachment.entry else none

def Attachment.viewed (attachment : Attachment Backend) : Option String :=
  if attachment.stage.inView then some attachment.opening.id else none

structure Registered (server : Server Backend) : Prop where
  minted : ∀ connectionId ∈ server.attachments, connectionId ∈ server.minted
  control : ∀ connectionId, server.control.lookup connectionId =
    (server.attachments.lookup connectionId).bind Attachment.controlled
  view : ∀ connectionId, (server.viewState.lookup connectionId).map (·.session) =
    (server.attachments.lookup connectionId).bind Attachment.viewed

def heldFor (server : Server Backend) (session : String) : Nat :=
  Weighing.total (fun attachment => if attachment.countKey = session then 1 else 0) server.attachments

def heldIn (server : Server Backend) : Nat :=
  Weighing.total (fun _ => 1) server.attachments

structure Own (connectionId : String) (server next : Server Backend) : Prop where
  attachments : ∀ other, other ≠ connectionId ->
    next.attachments.lookup other = server.attachments.lookup other
  control : ∀ other, other ≠ connectionId -> next.control.lookup other = server.control.lookup other
  view : ∀ other, other ≠ connectionId -> next.viewState.lookup other = server.viewState.lookup other

variable {server next : Server Backend} {connectionId : String} {attachment : Attachment Backend}

theorem Registered.own (registered : Registered server) (own : Own connectionId server next)
    (minted : ∀ other, other ∈ server.minted ∨ other = connectionId -> other ∈ next.minted)
    (control : next.control.lookup connectionId =
      (next.attachments.lookup connectionId).bind Attachment.controlled)
    (view : (next.viewState.lookup connectionId).map (·.session) =
      (next.attachments.lookup connectionId).bind Attachment.viewed) : Registered next := by
  constructor
  · intro other present
    by_cases same : other = connectionId
    · exact minted other (.inr same)
    · obtain ⟨found, here⟩ := mem_iff_lookup.mp present
      rw [own.attachments other same] at here
      exact minted other (.inl (registered.minted other (mem_iff_lookup.mpr ⟨found, here⟩)))
  · intro other
    by_cases same : other = connectionId
    · rw [same]
      exact control
    · rw [own.control other same, own.attachments other same]
      exact registered.control other
  · intro other
    by_cases same : other = connectionId
    · rw [same]
      exact view
    · rw [own.view other same, own.attachments other same]
      exact registered.view other

theorem Registered.moved (registered : Registered server) (own : Own connectionId server next)
    (found : server.attachments.lookup connectionId = some attachment) {stage : Stage}
    (attachments : next.attachments = server.attachments.insert connectionId { attachment with stage })
    (minted : next.minted = server.minted)
    (control : next.control.lookup connectionId = if stage.inControl then some attachment.entry else none)
    (view : (next.viewState.lookup connectionId).map (·.session) =
      if stage.inView then some attachment.opening.id else none) : Registered next := by
  apply registered.own own
  · rw [minted]
    rintro other (before | rfl)
    · exact before
    · exact registered.minted other (mem_iff_lookup.mpr ⟨attachment, found⟩)
  · rw [attachments, AList.lookup_insert]
    exact control
  · rw [attachments, AList.lookup_insert]
    exact view

theorem Registered.released (registered : Registered server)
    (own : Own connectionId server (release server connectionId attachment))
    (found : server.attachments.lookup connectionId = some attachment) (out : attachment.stage.inView = false)
    (gone : attachment.stage.inControl = false) : Registered (release server connectionId attachment) := by
  have control := registered.control connectionId
  have view := registered.view connectionId
  apply registered.own own
  · rintro other (before | rfl)
    · exact before
    · exact registered.minted other (mem_iff_lookup.mpr ⟨attachment, found⟩)
  · simpa [release, found, Attachment.controlled, gone] using control
  · simpa [release, found, Attachment.viewed, out] using view

theorem Stage.inView_of_inControl {stage : Stage} (inside : stage.inControl = true) : stage.inView = true := by
  cases stage <;> simp [Stage.inControl, Stage.inView] at inside ⊢

theorem Registered.controlled (registered : Registered server) {entry : ControlEntry}
    (found : server.control.lookup connectionId = some entry) :
    ∃ attachment, server.attachments.lookup connectionId = some attachment ∧ attachment.entry = entry ∧
      attachment.stage.inControl = true := by
  have control := registered.control connectionId
  rw [found] at control
  obtain ⟨attachment, here, shown⟩ := Option.bind_eq_some_iff.mp control.symm
  unfold Attachment.controlled at shown
  split_ifs at shown with inside
  exact ⟨attachment, here, Option.some.inj shown, inside⟩

theorem Registered.viewed (registered : Registered server) {entry : ViewStateEntry}
    (found : server.viewState.lookup connectionId = some entry) :
    ∃ attachment, server.attachments.lookup connectionId = some attachment ∧ attachment.stage.inView = true := by
  have view := registered.view connectionId
  rw [found] at view
  obtain ⟨attachment, here, shown⟩ := Option.bind_eq_some_iff.mp view.symm
  unfold Attachment.viewed at shown
  split_ifs at shown with inside
  exact ⟨attachment, here, inside⟩

def Counted (server : Server Backend) : Prop :=
  Counts server.clients (heldFor server) (heldIn server)

theorem atStage_some {stage : Stage} (here : atStage server connectionId stage = some attachment) :
    server.attachments.lookup connectionId = some attachment ∧ attachment.stage = stage := by
  simpa [atStage, Option.filter_eq_some_iff] using here

theorem heldIn_moved (found : server.attachments.lookup connectionId = some attachment) {stage : Stage}
    (attachments : next.attachments = server.attachments.insert connectionId { attachment with stage }) :
    heldIn next = heldIn server := by
  rw [heldIn, attachments]
  exact Weighing.total_replace found rfl

theorem heldIn_released (found : server.attachments.lookup connectionId = some attachment) :
    heldIn (release server connectionId attachment) + 1 = heldIn server :=
  Weighing.total_remove found

theorem heldIn_attached (fresh : connectionId ∉ server.attachments)
    (attachments : next.attachments = server.attachments.insert connectionId attachment) :
    heldIn next = heldIn server + 1 := by
  rw [heldIn, attachments]
  exact Weighing.total_fresh fresh attachment

theorem counted_moved (counted : Counted server) (found : server.attachments.lookup connectionId = some attachment)
    (clients : next.clients = server.clients) {stage : Stage}
    (attachments : next.attachments = server.attachments.insert connectionId { attachment with stage }) :
    Counted next := by
  have held : heldFor next = heldFor server := by
    funext session
    rw [heldFor, attachments]
    exact Weighing.total_replace found rfl
  rw [Counted, clients, held, heldIn_moved found attachments]
  exact counted

theorem counted_released (counted : Counted server)
    (found : server.attachments.lookup connectionId = some attachment) :
    Counted (release server connectionId attachment) := by
  have share (session : String) : heldFor (release server connectionId attachment) session +
      (if attachment.countKey = session then 1 else 0) = heldFor server session :=
    Weighing.total_remove found
  apply counts_dropGuard counted
  · have own := share attachment.countKey
    simpa using own.symm
  · intro other different
    have kept := share other
    rw [if_neg (Ne.symm different)] at kept
    exact kept
  · exact (heldIn_released found).symm

theorem counted_attached (counted : Counted server) (fresh : connectionId ∉ server.attachments)
    (attachments : next.attachments = server.attachments.insert connectionId attachment)
    (attached : server.clients.attach attachment.countKey = some next.clients) : Counted next := by
  have share (session : String) : heldFor next session =
      heldFor server session + if attachment.countKey = session then 1 else 0 := by
    rw [heldFor, attachments]
    exact Weighing.total_fresh fresh attachment
  rw [Counted, heldIn_attached fresh attachments]
  apply counts_attach counted attached
  · simp [share]
  · intro other different
    rw [share, if_neg (Ne.symm different), Nat.add_zero]

end Invariant

section Runs

variable {Backend : Type} {zellijValidate : String -> Except (List Piece) Unit} {backends : BackendSet Backend}
  {sockets : Nat} {server next : Server Backend} {event : Event}

structure Sound (sockets : Nat) (server : Server Backend) : Prop where
  registered : Registered server
  counted : Counted server
  few : heldIn server ≤ sockets

theorem sound_new : Sound sockets (Server.new : Server Backend) := by
  constructor
  · constructor <;> simp [Server.new]
  · exact counts_new
  · exact Nat.zero_le sockets

def Event.connectionId : Event -> String
  | .attach _ _ _ _ random _ => mintConnectionId random
  | .cancel connectionId | .insertView connectionId _ | .insertControl connectionId | .spawn connectionId
  | .update connectionId _ | .leave connectionId | .removeControl connectionId | .removeView connectionId
  | .dropGuard connectionId => connectionId

theorem attach_cases {readOnly : Bool} {first : FirstFrame} {size : Option (UInt16 × UInt16)} {opened : Bool}
    {random : BitVec 128} {sender : Nat}
    (taken : step zellijValidate backends sockets server (.attach readOnly first size opened random sender) = some next) :
    next = server ∨ ∃ opening clients, mintConnectionId random ∉ server.minted ∧ heldIn server < sockets ∧
      server.clients.attach (makeId opening.kind opening.session) = some clients ∧
      next =
        { server with
          attachments := server.attachments.insert (mintConnectionId random) { opening, sender, stage := .initialising }
          minted := mintConnectionId random :: server.minted
          clients } := by
  simp only [step] at taken
  cases opens : opening zellijValidate backends (fun _ _ => size) readOnly first with
  | error status =>
    simp only [opens] at taken
    exact .inl (Option.some.inj taken).symm
  | ok opening =>
    simp only [opens] at taken
    split_ifs at taken with reached used
    · push Not at used
      obtain ⟨clients, attached, rfl⟩ := Option.map_eq_some_iff.mp taken
      refine .inr ⟨opening, clients, used.1, ?_, attached, rfl⟩
      simpa [heldIn, Weighing.total] using used.2
    · exact .inl (Option.some.inj taken).symm

theorem step_own (taken : step zellijValidate backends sockets server event = some next) :
    Own event.connectionId server next := by
  have untouched : Own event.connectionId server server := ⟨fun _ _ => rfl, fun _ _ => rfl, fun _ _ => rfl⟩
  cases event with
  | attach readOnly first size opened random sender =>
    rcases attach_cases taken with rfl | ⟨opening, clients, _, _, _, rfl⟩
    · exact untouched
    · exact ⟨fun _ different => AList.lookup_insert_ne different, fun _ _ => rfl, fun _ _ => rfl⟩
  | update connectionId change =>
    obtain ⟨attachment, _, rfl⟩ := Option.map_eq_some_iff.mp taken
    cases server.viewState.lookup connectionId with
    | none => exact untouched
    | some entry => exact ⟨fun _ _ => rfl, fun _ _ => rfl, fun _ different => AList.lookup_insert_ne different⟩
  | insertView | insertControl | removeControl | removeView | spawn | leave | cancel | dropGuard =>
    obtain ⟨attachment, _, rfl⟩ := Option.map_eq_some_iff.mp taken
    constructor <;> intro other different <;> simp only [Event.connectionId] at different <;>
      simp [moveTo, release, AList.lookup_insert_ne different, AList.lookup_erase_ne different]

theorem sound_step (server : Server Backend) (event : Event) (next : Server Backend) (sound : Sound sockets server)
    (taken : step zellijValidate backends sockets server event = some next) : Sound sockets next := by
  obtain ⟨registered, counted, few⟩ := sound
  have own := step_own taken
  cases event with
  | attach readOnly first size opened random sender =>
    rcases attach_cases taken with rfl | ⟨opening, clients, new, room, attached, rfl⟩
    · exact ⟨registered, counted, few⟩
    · have fresh : mintConnectionId random ∉ server.attachments := fun present => new (registered.minted _ present)
      have control := registered.control (mintConnectionId random)
      have view := registered.view (mintConnectionId random)
      rw [AList.lookup_eq_none.mpr fresh, Option.bind_none] at control view
      constructor
      · apply registered.own own
        · rintro other (before | rfl)
          · exact List.mem_cons_of_mem _ before
          · exact List.mem_cons_self
        · simpa [Event.connectionId, Attachment.controlled, Stage.inControl] using control
        · simpa [Event.connectionId, Attachment.viewed, Stage.inView] using view
      · exact counted_attached counted fresh rfl attached
      · rw [heldIn_attached fresh rfl]
        exact room
  | update connectionId change =>
    obtain ⟨attachment, here, rfl⟩ := Option.map_eq_some_iff.mp taken
    cases held : server.viewState.lookup connectionId with
    | none => exact ⟨registered, counted, few⟩
    | some entry =>
      simp only [held] at own
      have view := registered.view connectionId
      refine ⟨?_, counted, few⟩
      apply registered.own own
      · rintro other (before | rfl)
        · exact before
        · exact registered.minted other (mem_iff_lookup.mpr ⟨attachment, (atStage_some here).1⟩)
      · exact registered.control connectionId
      · simpa [Event.connectionId, held] using view
  | insertView | removeView =>
    obtain ⟨attachment, here, rfl⟩ := Option.map_eq_some_iff.mp taken
    obtain ⟨found, stage⟩ := atStage_some here
    have control := (registered.control _).trans (congrArg (Option.bind · _) found)
    refine ⟨registered.moved own found rfl rfl ?_ ?_, counted_moved counted found rfl rfl,
      (heldIn_moved found rfl).trans_le few⟩
    · simpa [moveTo, Event.connectionId, Attachment.controlled, stage, Stage.inControl] using control
    · simp [Event.connectionId, Stage.inView]
  | insertControl | removeControl =>
    obtain ⟨attachment, here, rfl⟩ := Option.map_eq_some_iff.mp taken
    obtain ⟨found, stage⟩ := atStage_some here
    have view := (registered.view _).trans (congrArg (Option.bind · _) found)
    refine ⟨registered.moved own found rfl rfl ?_ ?_, counted_moved counted found rfl rfl,
      (heldIn_moved found rfl).trans_le few⟩
    · simp [Event.connectionId, Stage.inControl]
    · simpa [moveTo, Event.connectionId, Attachment.viewed, stage, Stage.inView] using view
  | spawn | leave =>
    obtain ⟨attachment, here, rfl⟩ := Option.map_eq_some_iff.mp taken
    obtain ⟨found, stage⟩ := atStage_some here
    have control := (registered.control _).trans (congrArg (Option.bind · _) found)
    have view := (registered.view _).trans (congrArg (Option.bind · _) found)
    refine ⟨registered.moved own found rfl rfl ?_ ?_, counted_moved counted found rfl rfl,
      (heldIn_moved found rfl).trans_le few⟩
    · simpa [moveTo, Event.connectionId, Attachment.controlled, stage, Stage.inControl] using control
    · simpa [moveTo, Event.connectionId, Attachment.viewed, stage, Stage.inView] using view
  | cancel | dropGuard =>
    obtain ⟨attachment, here, rfl⟩ := Option.map_eq_some_iff.mp taken
    obtain ⟨found, stage⟩ := atStage_some here
    refine ⟨registered.released own found (by rw [stage]; rfl) (by rw [stage]; rfl), counted_released counted found, ?_⟩
    exact le_trans (Nat.le_of_lt (Nat.lt_of_succ_le (heldIn_released found).le)) few

end Runs

section Lifecycle

variable {Backend : Type} {zellijValidate : String -> Except (List Piece) Unit} {backends : BackendSet Backend}
  {sockets : Nat} {server next : Server Backend}

structure Guard where
  kind : BackendKind
  bare : String
  deriving DecidableEq, Repr

def guards (server : Server Backend) : List Guard :=
  server.attachments.entries.map fun entry => { kind := entry.2.opening.kind, bare := entry.2.opening.session }

theorem makeId_injective {first second : BackendKind} {left right : String}
    (same : makeId first left = makeId second right) : first = second ∧ left = right := by
  have texts := congrArg String.toList same
  cases first <;> cases second <;> simp [makeId, kindName, String.toList_inj] at texts ⊢ <;> exact texts

theorem sum_indicator {α : Type} (items : List α) (wanted : α -> Prop) [DecidablePred wanted] :
    (items.map fun item => if wanted item then 1 else 0).sum = items.countP fun item => wanted item := by
  induction items with
  | nil => rfl
  | cons item rest ih =>
    rw [List.map_cons, List.sum_cons, ih, List.countP_cons]
    simp [Nat.add_comm]

theorem heldFor_makeId (server : Server Backend) (guard : Guard) :
    heldFor server (makeId guard.kind guard.bare) = (guards server).count guard := by
  have same (attachment : Attachment Backend) : attachment.countKey = makeId guard.kind guard.bare ↔
      ({ kind := attachment.opening.kind, bare := attachment.opening.session } : Guard) = guard := by
    constructor
    · intro keys
      obtain ⟨kinds, names⟩ := makeId_injective keys
      rw [kinds, names]
    · rintro rfl
      rfl
  simp only [heldFor, Weighing.total, sum_indicator, same, guards, List.count, List.countP_map]
  rfl

theorem heldIn_guards (server : Server Backend) : heldIn server = (guards server).length := by
  simp [heldIn, Weighing.total, guards]

structure Coherent (server : Server Backend) : Prop where
  keys : ∀ connectionId entry, server.control.lookup connectionId = some entry ->
    ∃ view, server.viewState.lookup connectionId = some view ∧ view.session = entry.session
  attached : ∀ connectionId, connectionId ∈ server.control ∨ connectionId ∈ server.viewState ->
    ∃ attachment, server.attachments.lookup connectionId = some attachment ∧ attachment.stage.inView = true
  count : ∀ kind bare, (server.clients.count (makeId kind bare)).toNat = (guards server).count { kind, bare }
  total : server.clients.totalCount.toNat = ((guards server).dedup.map (guards server).count).sum
  -- A guard that is dropped finds its counter above zero.
  counters : ∀ guard ∈ guards server, ∃ counter,
    server.clients.inner.lookup (makeId guard.kind guard.bare) = some counter ∧
    counter.clients.toNat = (guards server).count guard ∧ 0 < counter.clients.toNat

theorem Sound.coherent (sound : Sound sockets server) (bounded : sockets < 2 ^ 31) : Coherent server := by
  obtain ⟨registered, counted, few⟩ := sound
  rw [heldIn_guards] at few
  constructor
  · intro connectionId entry found
    obtain ⟨attachment, here, rfl, inside⟩ := registered.controlled found
    have view := registered.view connectionId
    rw [here, Option.bind_some, Attachment.viewed, if_pos (Stage.inView_of_inControl inside)] at view
    exact Option.map_eq_some_iff.mp view
  · rintro connectionId (inControl | inView)
    · obtain ⟨entry, found⟩ := mem_iff_lookup.mp inControl
      obtain ⟨attachment, here, _, inside⟩ := registered.controlled found
      exact ⟨attachment, here, Stage.inView_of_inControl inside⟩
    · obtain ⟨entry, found⟩ := mem_iff_lookup.mp inView
      exact registered.viewed found
  · intro kind bare
    have share : (guards server).count { kind, bare } ≤ (guards server).length := List.count_le_length
    have held : heldFor server (makeId kind bare) = (guards server).count { kind, bare } :=
      heldFor_makeId server { kind, bare }
    rw [counted.count, held]
    exact Nat.mod_eq_of_lt (by omega)
  · rw [counted.totalCount, heldIn_guards, List.sum_map_count_dedup_eq_length]
    exact Nat.mod_eq_of_lt (by omega)
  · intro guard held
    have positive := List.count_pos_iff.mpr held
    have key := heldFor_makeId server guard
    cases found : server.clients.inner.lookup (makeId guard.kind guard.bare) with
    | none =>
      have absent := counted.unknown _ found
      omega
    | some counter =>
      obtain ⟨agrees, _, _⟩ := counted.known _ counter found
      exact ⟨counter, rfl, by omega, by omega⟩

def RemovesOwn (server : Server Backend) (event : Event) (next : Server Backend) : Prop :=
  ∀ connectionId,
    (connectionId ∈ server.control ∧ connectionId ∉ next.control ↔ event = .removeControl connectionId) ∧
    (connectionId ∈ server.viewState ∧ connectionId ∉ next.viewState ↔ event = .removeView connectionId)

theorem Registered.present (registered : Registered server) {connectionId : String} {attachment : Attachment Backend}
    (found : server.attachments.lookup connectionId = some attachment) :
    (attachment.stage.inControl = true -> connectionId ∈ server.control) ∧
      (attachment.stage.inView = true -> connectionId ∈ server.viewState) := by
  have control := registered.control connectionId
  have view := registered.view connectionId
  rw [found, Option.bind_some] at control view
  constructor
  · intro inside
    rw [Attachment.controlled, if_pos inside] at control
    exact mem_iff_lookup.mpr ⟨_, control⟩
  · intro inside
    rw [Attachment.viewed, if_pos inside] at view
    obtain ⟨entry, here, _⟩ := Option.map_eq_some_iff.mp view
    exact mem_iff_lookup.mpr ⟨entry, here⟩

theorem erased_iff {Value : Type} {map : AList (fun _ : String => Value)} {key owner : String} (present : owner ∈ map) :
    key ∈ map ∧ key ∉ map.erase owner ↔ owner = key := by
  by_cases same : key = owner
  · simp [AList.mem_erase, same, present]
  · simp [AList.mem_erase, same, Ne.symm same]

theorem removes_own (registered : Registered server) {event : Event}
    (taken : step zellijValidate backends sockets server event = some next) : RemovesOwn server event next := by
  intro connectionId
  cases event with
  | attach readOnly first size opened random sender =>
    rcases attach_cases taken with rfl | ⟨opening, clients, _, _, _, rfl⟩ <;> simp
  | update owner change =>
    obtain ⟨attachment, _, rfl⟩ := Option.map_eq_some_iff.mp taken
    cases held : server.viewState.lookup owner <;> simp_all
  | insertView owner layout =>
    obtain ⟨attachment, _, rfl⟩ := Option.map_eq_some_iff.mp taken
    simp_all [moveTo]
  | insertControl owner =>
    obtain ⟨attachment, _, rfl⟩ := Option.map_eq_some_iff.mp taken
    simp_all [moveTo]
  | spawn owner | leave owner | cancel owner | dropGuard owner =>
    obtain ⟨attachment, _, rfl⟩ := Option.map_eq_some_iff.mp taken
    simp [moveTo, release]
  | removeControl owner =>
    obtain ⟨attachment, here, rfl⟩ := Option.map_eq_some_iff.mp taken
    obtain ⟨found, stage⟩ := atStage_some here
    have present := (registered.present found).1 (by rw [stage]; rfl)
    constructor
    · rw [Event.removeControl.injEq]
      exact erased_iff present
    · simp [moveTo]
  | removeView owner =>
    obtain ⟨attachment, here, rfl⟩ := Option.map_eq_some_iff.mp taken
    obtain ⟨found, stage⟩ := atStage_some here
    have present := (registered.present found).2 (by rw [stage]; rfl)
    constructor
    · simp [moveTo]
    · rw [Event.removeView.injEq]
      exact erased_iff present

end Lifecycle

section Session

def herdrServer : BackendSet Unit :=
  { backends := [(.herdr, ())], nonempty := List.cons_ne_nil _ _ }

def herdrGuard : Guard :=
  { kind := .herdr, bare := "herdr" }

def client : String := mintConnectionId 1

-- One client comes and goes while another attach is cancelled.
def comings : List Event :=
  [.attach false (.frame (.attach { session := "herdr:herdr", rows := 24, cols := 80 })) none true 1 0,
    .attach false (.frame (.attach { session := "herdr", rows := 24, cols := 80 })) none true 2 1,
    .insertView client (.error "no layout"), .insertControl client, .cancel (mintConnectionId 2), .spawn client,
    .leave client, .removeControl client]

end Session

end Muxrd.Lifecycle
