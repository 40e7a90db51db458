import Muxrd.Relay.Geometry

set_option autoImplicit false

namespace Muxrd.Geometry

open Actions Ephemeral Inbound Meet

section Floor

variable (areas : String -> Except String (List TabArea)) (floor : Size)

def Tells (msg : ServerToClientMsg) : Prop :=
  ∀ lines tabs, msg = .log lines -> areas ("\n".intercalate lines) = .ok tabs ->
    ∀ tab ∈ tabs, floor ≤ (tab.displayAreaRows.toNat, tab.displayAreaColumns.toNat)

def Told : Sizing -> Prop
  | .draining stream => floor ≤ neutral ∧ ∀ msg ∈ stream, Tells areas floor msg
  | .returned size => ∀ told ∈ size, floor ≤ dims told

structure Above (session : Session) : Prop where
  clients : ∀ id client, session.clients.lookup id = some client -> floor ≤ client.size
  sizings : ∀ id sizing, session.sizings.lookup id = some sizing -> Told areas floor sizing

variable {areas} {floor} {zellij : ZellijServer} {session : Session}

theorem Above.mono {lower : Size} (above : Above areas floor session) (below : lower ≤ floor) :
    Above areas lower session := by
  refine ⟨fun id client here => below.trans (above.clients id client here), fun id sizing here => ?_⟩
  have told := above.sizings id sizing here
  cases sizing with
  | returned size => exact fun size said => below.trans (told size said)
  | draining stream =>
    refine ⟨below.trans told.1, fun msg streamed lines tabs log decoded tab listed => ?_⟩
    exact below.trans (told.2 msg streamed lines tabs log decoded tab listed)

theorem tells_of_sends {area : Size} {msg : ServerToClientMsg} (lists : ListsGeometry areas zellij)
    (sent : zellij.sends area msg = true) (low : floor ≤ area) : Tells areas floor msg := by
  rintro lines tabs rfl decoded tab listed
  rw [lists area lines tabs sent decoded tab listed]
  exact low

theorem told_answer {stream : List ServerToClientMsg} (deadline : Option Nat)
    (told : Told areas floor (.draining stream)) :
    Told areas floor (.returned (sizeAnswer areas stream deadline)) := by
  rintro ⟨rows, cols⟩ returned
  have sized : querySessionSize areas (streaming stream deadline) =
      .ok (rows, cols) := by
    unfold sizeAnswer at returned
    cases queried : querySessionSize areas (streaming stream deadline) with
    | error failure => simp [queried, Except.toOption] at returned
    | ok size =>
      simp only [queried, Except.toOption, Option.mem_def, Option.some.injEq] at returned
      rw [returned]
  obtain ⟨lines, tabs, logs, decoded, tab, listed, rfl, rfl⟩ := querySessionSize_ok sized
  obtain ⟨index, _, read, _⟩ := logs.first
  have least := told.2 _ (mem_of_received read) lines tabs rfl decoded tab listed
  have small : floor ≤ (100, 320) := told.1
  obtain ⟨rows, cols⟩ := floor
  simp only [dims, clampUsizeDim_toNat, Prod.mk_le_mk] at least small ⊢
  omega

end Floor

section Sizes

variable {zellij : ZellijServer} {session : Session} {floor : Size} {id : Nat} {client : Client}

theorem mem_sizes {size : Size} : size ∈ session.sizes ↔
    ∃ id client, session.clients.lookup id = some client ∧ client.size = size := by
  simp only [Session.sizes, List.mem_map, Sigma.exists, ← Option.mem_def, AList.mem_lookup_iff]

theorem mem_driversSizes {size : Size} :
    size ∈ (session.clients.entries.filter (·.2.role.drives)).map (·.2.size) ↔
      ∃ id client, session.clients.lookup id = some client ∧ client.role.drives = true ∧ client.size = size := by
  simp only [List.mem_map, List.mem_filter, Sigma.exists, ← Option.mem_def, AList.mem_lookup_iff, and_assoc]

theorem exists_driversSize (here : session.clients.lookup id = some client) (drives : client.role.drives = true) :
    ∃ least, session.driversSize = some least :=
  exists_meet (mem_driversSizes.mpr ⟨id, client, here, drives, rfl⟩)

theorem driversSize_le {least : Size} (driven : session.driversSize = some least)
    (here : session.clients.lookup id = some client) (drives : client.role.drives = true) : least ≤ client.size :=
  meet_le driven (mem_driversSizes.mpr ⟨id, client, here, drives, rfl⟩)

theorem le_driversSize {least : Size} (driven : session.driversSize = some least)
    (above : ∀ id client, session.clients.lookup id = some client -> client.role.drives = true ->
      floor ≤ client.size) : floor ≤ least := by
  rw [le_meet_iff driven]
  intro size member
  obtain ⟨id, client, here, drives, rfl⟩ := mem_driversSizes.mp member
  exact above id client here drives

theorem fitted_isGLB (minimum : TakesMinimum zellij) (here : session.clients.lookup id = some client) :
    IsGLB {size | size ∈ session.sizes} (session.fitted zellij).area :=
  minimum session.area session.sizes (List.ne_nil_of_mem (mem_sizes.mpr ⟨id, client, here, rfl⟩))

theorem le_fitted (minimum : TakesMinimum zellij) (here : session.clients.lookup id = some client)
    (above : ∀ id client, session.clients.lookup id = some client -> floor ≤ client.size) :
    floor ≤ (session.fitted zellij).area := by
  rw [le_isGLB_iff (fitted_isGLB minimum here)]
  intro size member
  obtain ⟨id, client, here, rfl⟩ := mem_sizes.mp member
  exact above id client here

theorem fitted_le (minimum : TakesMinimum zellij) (here : session.clients.lookup id = some client) :
    (session.fitted zellij).area ≤ client.size :=
  (fitted_isGLB minimum here).1 (mem_sizes.mpr ⟨id, client, here, rfl⟩)

end Sizes

section Invariants

variable {areas : String -> Except String (List TabArea)} {zellij : ZellijServer} {floor : Size}
  {session next : Session} {event : Event}

variable (areas floor) in
structure Floored (session : Session) : Prop extends Above areas floor session where
  area : ∀ id client, session.clients.lookup id = some client -> floor ≤ session.area

def Capped (session : Session) : Prop :=
  ∀ id client, session.clients.lookup id = some client -> session.area ≤ client.size

theorem clients_setClient {id : Nat} {client : Client} (above : Above areas floor session)
    (fits : floor ≤ client.size) (key : Nat) (found : Client)
    (here : (session.setClient zellij id client).clients.lookup key = some found) : floor ≤ found.size := by
  rcases AList.of_lookup_insert here with ⟨_, rfl⟩ | ⟨_, old⟩
  · exact fits
  · exact above.clients key found old

theorem told_of_hears {id : Nat} {sizing : Sizing} (lists : ListsGeometry areas zellij)
    (floored : Floored areas floor session) (hears : Hears areas zellij session id sizing) : Told areas floor sizing := by
  cases hears with
  | refused => simp [Told]
  | returned deadline here => exact told_answer deadline (floored.sizings id _ here)
  | message here attached sent =>
    have told := floored.sizings id _ here
    obtain ⟨client, attached⟩ := Option.isSome_iff_exists.mp (AList.lookup_isSome.mpr attached)
    refine ⟨told.1, fun streamed member => ?_⟩
    rcases List.mem_append.mp member with old | new
    · exact told.2 streamed old
    · rw [List.mem_singleton.mp new]
      exact tells_of_sends lists sent (floored.area id client attached)

theorem floored_step (minimum : TakesMinimum zellij) (lists : ListsGeometry areas zellij)
    (floored : Floored areas floor session) (sought : ∀ size ∈ asked session event, floor ≤ size)
    (taken : step areas zellij session event = some next) : Floored areas floor next := by
  have above := floored.toAbove
  cases step_stepped taken with
  | kept _ => exact floored
  | @attached id role size sizings _ _ brought pending =>
    have fits : floor ≤ size := by
      rcases brought with asks | ⟨_, sizing, told, here, rfl⟩
      · exact sought size asks
      · exact above.sizings sizing _ here told rfl
    have clients := @clients_setClient areas zellij floor session id { role, size, attached := size } above fits
    refine ⟨⟨clients, fun key sizing here => ?_⟩, fun key client here => le_fitted minimum here clients⟩
    rcases pending key sizing here with old | ⟨rfl, rfl⟩
    · exact above.sizings key sizing old
    · exact ⟨fits, by simp⟩
  | @resized id client size _ _ _ asks =>
    have clients := @clients_setClient areas zellij floor session id { client with size } above (sought size asks)
    exact ⟨⟨clients, above.sizings⟩, fun key client here => le_fitted minimum here clients⟩
  | @left id fits leaving =>
    have clients (key : Nat) (client : Client) (here : (session.clients.erase id).lookup key = some client) :
        floor ≤ client.size := above.clients key client (AList.of_lookup_erase here).2
    split_ifs
    · exact ⟨⟨clients, above.sizings⟩, fun key client here => le_fitted minimum here clients⟩
    · exact ⟨⟨clients, above.sizings⟩, fun key client here => floored.area key client (AList.of_lookup_erase here).2⟩
  | @sized id sizing hears _ =>
    refine ⟨⟨above.clients, fun key found here => ?_⟩, floored.area⟩
    rcases AList.of_lookup_insert here with ⟨_, rfl⟩ | ⟨_, old⟩
    · exact told_of_hears lists floored hears
    · exact above.sizings key found old

theorem capped_step (minimum : TakesMinimum zellij) (capped : Capped session)
    (taken : step areas zellij session event = some next) : Capped next := by
  cases step_stepped taken with
  | kept => exact capped
  | attached => exact fun _ _ here => fitted_le minimum here
  | resized => exact fun _ _ here => fitted_le minimum here
  | @left id fits leaving =>
    split_ifs
    · exact fun _ _ here => fitted_le minimum here
    · exact fun key client here => capped key client (AList.of_lookup_erase here).2
  | sized => exact capped

end Invariants

section Undisturbed

/-- The session is as large as the smallest of its terminals, and no bystander is, or has been told, any smaller. -/
def Undisturbed (areas : String -> Except String (List TabArea)) (session : Session) : Prop :=
  session.driversSize = some session.area ∧ Above areas session.area session

/-- No terminal grows or leaves, and what a bystander asks for leaves room for all of them. -/
def Steady (session : Session) (event : Event) : Prop :=
  (∀ id ∈ event.target, ∀ client ∈ session.clients.lookup id, ∀ size ∈ asked session event, size ≤ client.size) ∧
  (∀ id ∈ event.leaving, ∀ client ∈ session.clients.lookup id, client.role.drives = false) ∧
  (event.bystands = true -> ∀ size ∈ asked session event, ∀ least ∈ session.driversSize, least ≤ size)

instance (session : Session) (event : Event) : Decidable (Steady session event) :=
  inferInstanceAs (Decidable (_ ∧ _ ∧ _))

variable {areas : String -> Except String (List TabArea)} {zellij : ZellijServer} {session next : Session}
  {event : Event}

theorem exists_driver {least : Size} (driven : session.driversSize = some least) :
    ∃ id client, session.clients.lookup id = some client ∧ client.role.drives = true := by
  cases sizes : (session.clients.entries.filter (·.2.role.drives)).map (·.2.size) with
  | nil => simp [Session.driversSize, sizes, meet] at driven
  | cons size rest =>
    obtain ⟨id, client, here, drives, _⟩ := mem_driversSizes.mp (sizes ▸ List.mem_cons_self)
    exact ⟨id, client, here, drives⟩

theorem steady_drivers (steady : Steady session event) (taken : step areas zellij session event = some next)
    {id : Nat} {client : Client} (here : session.clients.lookup id = some client) (drives : client.role.drives = true) :
    ∃ later, next.clients.lookup id = some later ∧ later.role.drives = true ∧ later.size ≤ client.size := by
  cases step_stepped taken with
  | kept _ => exact ⟨client, here, drives, le_rfl⟩
  | sized _ _ => exact ⟨client, here, drives, le_rfl⟩
  | @attached other role size sizings new =>
    have apart : id ≠ other := by
      rintro rfl
      exact new (AList.lookup_isSome.mp (by rw [here]; rfl))
    exact ⟨client, (AList.lookup_insert_ne apart).trans here, drives, le_rfl⟩
  | @resized other old size target found _ asks =>
    by_cases own : id = other
    · subst own
      obtain rfl := Option.some.inj (here.symm.trans found)
      exact ⟨{ client with size }, AList.lookup_insert _, drives, steady.1 id target client here size asks⟩
    · exact ⟨client, (AList.lookup_insert_ne own).trans here, drives, le_rfl⟩
  | @left other fits leaving =>
    have apart : id ≠ other := by
      rintro rfl
      rw [steady.2.1 id (by rw [leaving]; rfl) client here] at drives
      cases drives
    have stays : (session.clients.erase other).lookup id = some client := (AList.lookup_erase_ne apart).trans here
    split_ifs
    · exact ⟨client, stays, drives, le_rfl⟩
    · exact ⟨client, stays, drives, le_rfl⟩

theorem steady_sought {least later : Size} (driven : session.driversSize = some least)
    (steady : Steady session event) (taken : step areas zellij session event = some next)
    (after : next.driversSize = some later) (shrunk : later ≤ least) :
    ∀ size ∈ asked session event, later ≤ size := by
  intro size sought
  have room (bystands : event.bystands = true) : later ≤ size :=
    shrunk.trans (steady.2.2 bystands size sought least driven)
  cases step_stepped taken with
  | kept silent => simp [silent] at sought
  | sized _ silent => simp [silent] at sought
  | left leaving => simp [leaving, asked] at sought
  | @resized id client own target here drives asks =>
    obtain rfl := Option.some.inj (asks.symm.trans sought)
    exact @driversSize_le _ id { client with size := own } _ after (AList.lookup_insert _) drives
  | @attached id role own sizings new bystands brought =>
    cases stands : event.bystands with
    | true => exact room stands
    | false =>
      rw [stands] at bystands
      rcases brought with asks | ⟨observer, _⟩
      · obtain rfl := Option.some.inj (asks.symm.trans sought)
        exact @driversSize_le _ id { role, size := own, attached := own } _ after (AList.lookup_insert _) bystands
      · rw [observer] at bystands
        cases bystands

theorem undisturbed_step (minimum : TakesMinimum zellij) (lists : ListsGeometry areas zellij)
    (undisturbed : Undisturbed areas session) (steady : Steady session event)
    (taken : step areas zellij session event = some next) : Undisturbed areas next := by
  obtain ⟨driven, above⟩ := undisturbed
  obtain ⟨id, client, here, drives⟩ := exists_driver driven
  obtain ⟨stays, still, drives, _⟩ := steady_drivers steady taken here drives
  obtain ⟨later, after⟩ := exists_driversSize still drives
  have shrunk : later ≤ session.area := by
    apply (le_meet_iff driven).mpr
    intro size member
    obtain ⟨id, client, here, drives, rfl⟩ := mem_driversSizes.mp member
    obtain ⟨smaller, stays, drives, less⟩ := steady_drivers steady taken here drives
    exact (driversSize_le after stays drives).trans less
  have floored : Floored areas later session := ⟨above.mono shrunk, fun _ _ _ => shrunk⟩
  have kept := floored_step minimum lists floored (steady_sought driven steady taken after shrunk) taken
  have least : next.area = later :=
    le_antisymm (le_driversSize after fun id client here _ => capped_step minimum above.clients taken id client here)
      (kept.area id stays still)
  rw [Undisturbed, least]
  exact ⟨after, kept.toAbove⟩

end Undisturbed

section Runs

variable {areas : String -> Except String (List TabArea)} {zellij : ZellijServer} {session next final : Session}
  {event : Event} {events : List Event}

theorem observer_step {id : Nat} {client : Client} (here : session.clients.lookup id = some client)
    (observer : client.role = .observer) (stays : event.leaving ≠ some id)
    (taken : step areas zellij session event = some next) : next.clients.lookup id = some client := by
  cases step_stepped taken with
  | kept _ => exact here
  | sized _ _ => exact here
  | @attached other role size sizings new =>
    have apart : id ≠ other := by
      rintro rfl
      exact new (AList.lookup_isSome.mp (by rw [here]; rfl))
    exact (AList.lookup_insert_ne apart).trans here
  | @resized other old size _ found drives _ =>
    have apart : id ≠ other := by
      rintro rfl
      rw [← Option.some.inj (here.symm.trans found), observer] at drives
      cases drives
    exact (AList.lookup_insert_ne apart).trans here
  | @left other fits leaving =>
    have apart : id ≠ other := by
      rintro rfl
      rw [leaving] at stays
      exact stays rfl
    have kept : (session.clients.erase other).lookup id = some client := (AList.lookup_erase_ne apart).trans here
    split_ifs
    · exact kept
    · exact kept

theorem observer_run {id : Nat} {client : Client} (here : session.clients.lookup id = some client)
    (observer : client.role = .observer) (stays : ∀ event ∈ events, event.leaving ≠ some id)
    (ran : Transition.run (step areas zellij) session events = some final) :
    final.clients.lookup id = some client := by
  have remains (session : Session) (event : Event) (next : Session)
      (here : session.clients.lookup id = some client) (stays : event.leaving ≠ some id)
      (taken : step areas zellij session event = some next) : next.clients.lookup id = some client :=
    observer_step here observer stays taken
  have staying : Transition.Meets (step areas zellij) (fun _ event => event.leaving ≠ some id) session events :=
    Transition.meets_of_forall (fun event member _ => stays event member) session
  exact Transition.invariant_of_meets remains here staying ran

theorem capped_run (minimum : TakesMinimum zellij) (capped : Capped session)
    (ran : Transition.run (step areas zellij) session events = some final) : Capped final :=
  Transition.invariant_of_run (fun _ _ _ capped taken => capped_step minimum capped taken) capped ran

theorem capped_created (area : Size) : Capped (created area) := by
  intro id client here
  simp [created] at here

theorem floored_created (floor area : Size) : Floored areas floor (created area) := by
  constructor
  · constructor <;> simp [created]
  · simp [created]

theorem undisturbed_alone (minimum : TakesMinimum zellij) {area size : Size} {id : Nat} {role : Role}
    (drives : role.drives = true) : Undisturbed areas ((created area).attach zellij id role size) := by
  have alone : ((created area).attach zellij id role size).clients.entries =
      [⟨id, { role, size, attached := size }⟩] := rfl
  have driven : ((created area).attach zellij id role size).driversSize = some size := by
    simp [Session.driversSize, alone, drives, meet]
  have fits : ((created area).attach zellij id role size).area = size := by
    apply (minimum area [size] (by simp)).unique
    simp
  rw [Undisturbed, fits]
  refine ⟨driven, ?_, ?_⟩
  · intro key client here
    rcases AList.of_lookup_insert here with ⟨_, rfl⟩ | ⟨_, old⟩
    · exact le_rfl
    · simp [created] at old
  · intro key sizing here
    simp [created, Session.attach, Session.setClient, Session.fitted] at here

end Runs

def Seeks (floor : Size) (session : Session) (event : Event) : Prop :=
  ∀ size ∈ asked session event, floor ≤ size

instance (floor : Size) (session : Session) (event : Event) : Decidable (Seeks floor session event) :=
  inferInstanceAs (Decidable (∀ size ∈ _, _))

section Watched

def shown : String -> Except String (List TabArea)
  | "[24x80]" => .ok [{ active := true, displayAreaRows := 24, displayAreaColumns := 80 }]
  | _ => .error "expected value"

def smallest : ZellijServer :=
  { sessionSize := fun area sizes => (meet sizes).getD area
    sends := fun area msg =>
      match msg with
      | .log lines =>
        match shown ("\n".intercalate lines) with
        | .ok tabs => tabs.all fun tab => (tab.displayAreaRows.toNat, tab.displayAreaColumns.toNat) = area
        | .error _ => true
      | _ => true }

theorem smallest_takesMinimum : TakesMinimum smallest := by
  intro area sizes occupied
  obtain ⟨size, member⟩ := List.exists_mem_of_ne_nil sizes occupied
  obtain ⟨least, met⟩ := exists_meet member
  have size : smallest.sessionSize area sizes = least := by simp [smallest, met]
  rw [size]
  exact ⟨fun _ member => meet_le met member, fun _ below => (le_meet_iff met).mpr fun _ member => below member⟩

theorem smallest_listsGeometry : ListsGeometry shown smallest := by
  intro area lines tabs sent decoded tab listed
  simp only [smallest, decoded, List.all_eq_true, decide_eq_true_eq] at sent
  exact sent tab listed

-- A phone of ten rows looks on.
def watching : List Event :=
  [.asks 2, .message 2 .other, .message 2 (.log ["[24x80]"]), .returns 2 none, .leaves 2 true,
    .observerAttaches 3 2 { session := "zellij:dev", rows := 10, cols := 10 }]

def desk : AttachReq :=
  { session := "zellij:dev", rows := 24, cols := 80 }

end Watched

end Muxrd.Geometry
