import Muxrd.Grpc.Shadow

set_option autoImplicit false

namespace Muxrd.Readers

open Routing Inbound Attach Helpers Service Visible

variable {mark : Mark} {main shadow : MuxrService Unit Unit}

section Senders

def Mark.hidesSender (mark : Mark) (control : ControlRegistry) (sender : Nat) : Bool :=
  control.entries.any fun entry => entry.2.sender = sender && mark.hidesEntry entry.1 entry.2

variable {control shown : ControlRegistry} {session connectionId : String}

theorem visible_of_sender {sender : Nat} (unhidden : mark.hidesSender control sender = false) {key : String}
    {entry : ControlEntry} (registered : control.lookup key = some entry) (same : entry.sender = sender) :
    mark.hidesEntry key entry = false := by
  by_contra hidden
  have member : (⟨key, entry⟩ : Sigma fun _ : String => ControlEntry) ∈ control.entries :=
    AList.mem_lookup_iff.mp registered
  have hit : mark.hidesSender control sender = true := by
    apply List.any_eq_true.mpr
    refine ⟨_, member, ?_⟩
    simpa [same] using hidden
  rw [hit] at unhidden
  contradiction

theorem exactSender_shown (shows : Shows (fun entry => !mark.hidesEntry entry.1 entry.2) control shown)
    (unhidden : ∀ sender, exactSender control session connectionId = some sender ->
      mark.hidesSender control sender = false) :
    exactSender shown session connectionId = exactSender control session connectionId := by
  unfold exactSender at *
  by_cases named : connectionId ≠ ""
  · rw [if_pos named, if_pos named, shows.lookup]
    rw [if_pos named] at unhidden
    cases registered : control.lookup connectionId with
    | none => rfl
    | some entry =>
      by_cases same : entry.session = session
      · have visible := visible_of_sender (unhidden entry.sender (by simp [registered, same])) registered rfl
        simp [Option.filter, visible]
      · by_cases visible : mark.hidesEntry connectionId entry = true <;> simp [Option.filter, same, visible]
  · rw [if_neg named, if_neg named]

theorem fallbackSender_shown (shows : Shows (fun entry => !mark.hidesEntry entry.1 entry.2) control shown) :
    fallbackSender shown session = fallbackSender control session := by
  unfold fallbackSender
  rw [shows, List.find?_filter]
  congr 2
  funext entry
  by_cases writable : entry.2.readOnly = true
  · simp [writable]
  · simp [Mark.hidesEntry, writable]

theorem sessionRelay_shown (shows : Shows (fun entry => !mark.hidesEntry entry.1 entry.2) control shown)
    (unhidden : ∀ key sender, Layout.sessionRelay control session = some (key, sender) ->
      mark.hidesSender control sender = false) :
    Layout.sessionRelay shown session = Layout.sessionRelay control session := by
  unfold Layout.sessionRelay at *
  cases hit : control.entries.find? fun entry => entry.2.session = session with
  | none =>
    have missed : (shown.entries.find? fun entry => entry.2.session = session) = none := by
      rw [List.find?_eq_none] at hit ⊢
      intro entry member
      rw [shows] at member
      exact hit entry (List.mem_filter.mp member).1
    rw [missed]
  | some entry =>
    have visible : mark.hidesEntry entry.1 entry.2 = false := by
      apply visible_of_sender (unhidden entry.1 entry.2.sender (by rw [hit]; rfl)) _ rfl
      exact AList.mem_lookup_iff.mpr (List.mem_of_find?_eq_some hit)
    rw [shows, find?_filter_hit hit (by simp [visible])]

theorem chosenSender_shown (shows : Shows (fun entry => !mark.hidesEntry entry.1 entry.2) control shown)
    (unhidden : ∀ sender, chosenSender control session connectionId = some sender ->
      mark.hidesSender control sender = false) :
    chosenSender shown session connectionId = chosenSender control session connectionId := by
  have exact : exactSender shown session connectionId = exactSender control session connectionId := by
    apply exactSender_shown shows
    intro sender hit
    apply unhidden
    simp [chosenSender, hit]
  unfold chosenSender
  rw [exact, fallbackSender_shown shows]

theorem resolveSpaceRelay_exact :
    Spaces.resolveSpaceRelay control session connectionId = exactSender control session connectionId := by
  unfold Spaces.resolveSpaceRelay exactSender
  by_cases named : connectionId = ""
  · simp [named]
  · rw [if_neg named, if_pos named]
    cases control.lookup connectionId with
    | none => rfl
    | some entry => by_cases same : entry.session = session <;> simp [Option.filter, same]

theorem resolveSpaceRelay_shown
    (shows : Shows (fun entry => !mark.hidesEntry entry.1 entry.2) control shown)
    (unhidden : ∀ sender, Spaces.resolveSpaceRelay control session connectionId = some sender ->
      mark.hidesSender control sender = false) :
    Spaces.resolveSpaceRelay shown session connectionId = Spaces.resolveSpaceRelay control session connectionId := by
  rw [resolveSpaceRelay_exact] at unhidden
  rw [resolveSpaceRelay_exact, resolveSpaceRelay_exact]
  exact exactSender_shown shows unhidden

theorem exactRelay_exact : Layout.exactRelay control session connectionId =
    (exactSender control session connectionId).map fun sender => (connectionId, sender) := by
  unfold Layout.exactRelay exactSender
  by_cases named : connectionId = ""
  · simp [named]
  · rw [if_neg named, if_pos named]
    cases control.lookup connectionId with
    | none => rfl
    | some entry => by_cases same : entry.session = session <;> simp [Option.filter, same]

theorem relayEntry_shown (shows : Shows (fun entry => !mark.hidesEntry entry.1 entry.2) control shown)
    (unhidden : ∀ sender, (Layout.relayEntry control session connectionId).map (·.2) = some sender ->
      mark.hidesSender control sender = false) :
    Layout.relayEntry shown session connectionId = Layout.relayEntry control session connectionId := by
  have exact : exactSender shown session connectionId = exactSender control session connectionId := by
    apply exactSender_shown shows
    intro sender hit
    apply unhidden
    simp [Layout.relayEntry, exactRelay_exact, hit]
  unfold Layout.relayEntry at *
  rw [exactRelay_exact] at unhidden
  rw [exactRelay_exact, exactRelay_exact, exact]
  cases hit : exactSender control session connectionId with
  | some sender => rfl
  | none =>
    apply sessionRelay_shown shows
    intro key sender chosen
    apply unhidden
    simp [hit, chosen]

end Senders

section Requests

def NearResult (mark : Mark) :
    Except Status (Handled Unit Unit) -> Except Status (Handled Unit Unit) -> Prop
  | .ok (_, main), .ok (_, shadow) => Near mark main shadow
  | .error _, .error _ => True
  | _, _ => False

theorem NearResult.bind {Value : Type} {check : Except Status Value}
    {first second : Value -> Except Status (Handled Unit Unit)}
    (rest : ∀ value, NearResult mark (first value) (second value)) :
    NearResult mark (check >>= first) (check >>= second) := by
  cases check with
  | error status => trivial
  | ok value => exact rest value

variable {session connectionId : String} {ticket : Ticket}

theorem Related.taker (related : Related mark main shadow) {sender : Nat}
    (unhidden : mark.hidesSender main.control sender = false) {key : String} {entry : ControlEntry}
    (registered : main.control.lookup key = some entry) (same : entry.sender = sender) :
    ∃ connection, main.connections.lookup key = some connection ∧ connection.channel = sender ∧
      mark.hides main key = false := by
  have visible := visible_of_sender unhidden registered same
  rw [related.hidden_entry registered] at visible
  obtain ⟨connection, found, rfl⟩ := related.consistent.registered key entry registered
  exact ⟨connection, found, same, visible⟩

theorem Related.send_to (related : Related mark main shadow) {sender : Nat}
    (unhidden : mark.hidesSender main.control sender = false) {key : String} {entry : ControlEntry}
    (registered : main.control.lookup key = some entry) (same : entry.sender = sender) {command : Command}
    (kept : mark.removes command.1 = false) :
    (main.channels.send sender command = none ∧ shadow.channels.send sender command = none) ∨
      ∃ channels shadowChannels, main.channels.send sender command = some channels ∧
        shadow.channels.send sender command = some shadowChannels ∧
        Near mark { main with channels } { shadow with channels := shadowChannels } := by
  obtain ⟨connection, found, rfl, shown⟩ := related.taker unhidden registered same
  exact related.send found shown kept

theorem Related.route (related : Related mark main shadow) (kept : mark.removes ticket = false)
    (unhidden : ∀ sender, chosenSender main.control session connectionId = some sender ->
      mark.hidesSender main.control sender = false) (cmd : RelayControl) :
    Near mark (route main ticket session connectionId cmd).2 (route shadow ticket session connectionId cmd).2 := by
  have same := chosenSender_shown related.near.control unhidden
  have ephemeral (service : MuxrService Unit Unit)
      (unsent : ∀ sender, chosenSender service.control session connectionId = some sender ->
        service.channels.send sender (ticket, cmd) = none) :
      (Service.route service ticket session connectionId cmd).2 = service := by
    unfold Service.route
    rw [tryRouteControl_unsent unsent]
    unfold unrouted
    split_ifs <;> rfl
  cases chosen : chosenSender main.control session connectionId with
  | none =>
    rw [ephemeral main (by simp [chosen]), ephemeral shadow (by simp [same, chosen])]
    exact related.near
  | some sender =>
    obtain ⟨key, entry, registered, _, taken⟩ := chosenSender_some chosen
    have keeps : mark.removes ((ticket, cmd) : Command).1 = false := kept
    rcases related.send_to (unhidden sender chosen) registered taken keeps with
      ⟨unsent, shadowUnsent⟩ | ⟨channels, shadowChannels, sent, shadowSent, next⟩
    · rw [ephemeral main (by simp [chosen, unsent]), ephemeral shadow (by simp [same, chosen, shadowUnsent])]
      exact related.near
    · obtain ⟨_, routed⟩ := tryRouteControl_sent chosen sent
      obtain ⟨_, shadowRouted⟩ := tryRouteControl_sent (same.trans chosen) shadowSent
      unfold Service.route
      rw [routed, shadowRouted]
      exact next

theorem Related.unviewed (related : Related mark main shadow)
    (unseen : mark.hides main connectionId = true ∨ main.connections.lookup connectionId = none) :
    shadow.viewState.lookup connectionId = none := by
  cases looked : shadow.viewState.lookup connectionId with
  | none => rfl
  | some view =>
    have member := related.shadowConsistent.viewed connectionId view looked
    obtain ⟨other, there⟩ := mem_iff_lookup.mp member
    obtain ⟨shown, present⟩ := related.near.absent connectionId other there
    rcases unseen with hidden | unknown
    · rw [hidden] at shown
      contradiction
    · simp [← AList.lookup_isSome, unknown] at present

theorem Related.outline (related : Related mark main shadow) {connection : Connection Unit Unit}
    (found : main.connections.lookup connectionId = some connection)
    (shown : mark.hides main connectionId = false) :
    (shadow.viewState.lookup connectionId).map blur = (main.viewState.lookup connectionId).map blur := by
  obtain ⟨other, there, _, near⟩ := related.near.connected connectionId connection found shown
  have keyed := related.consistent.keyed connectionId connection found
  have shadowKeyed := related.shadowConsistent.keyed connectionId other there
  have outline : (shadow.viewState.lookup other.relay.connectionId).map blur =
      (main.viewState.lookup connection.relay.connectionId).map blur := near.outline
  rwa [keyed, shadowKeyed] at outline

theorem currentSpace_blur (views : ViewStateRegistry) :
    Spaces.connectionCurrentSpace views session connectionId =
      if connectionId = "" then none
      else ((views.lookup connectionId).map blur).bind fun entry =>
        if entry.session = session then entry.state.currentSpace else none := by
  unfold Spaces.connectionCurrentSpace
  cases views.lookup connectionId <;> rfl

theorem Related.currentSpace (related : Related mark main shadow) :
    Spaces.connectionCurrentSpace shadow.viewState session connectionId =
      Spaces.connectionCurrentSpace main.viewState session connectionId := by
  cases found : main.connections.lookup connectionId with
  | none =>
    have unviewed : main.viewState.lookup connectionId = none := by
      cases looked : main.viewState.lookup connectionId with
      | none => rfl
      | some view =>
        have member := related.consistent.viewed connectionId view looked
        simp [← AList.lookup_isSome, found] at member
    unfold Spaces.connectionCurrentSpace
    rw [unviewed, related.unviewed (.inr found)]
  | some connection =>
    cases hidden : mark.hides main connectionId with
    | false => rw [currentSpace_blur, currentSpace_blur, related.outline found hidden]
    | true =>
      have readOnly : connection.relay.readOnly = true := by
        simp only [Mark.hides, found, Option.any_some, Bool.and_eq_true] at hidden
        exact hidden.2
      unfold Spaces.connectionCurrentSpace
      rw [related.unviewed (.inl hidden)]
      cases looked : main.viewState.lookup connectionId with
      | none => rfl
      | some view =>
        have spaceless := related.consistent.spaceless connectionId connection view found readOnly looked
        simp [spaceless]

theorem Related.startRepoint (related : Related mark main shadow) {session connectionId spaceId : String}
    (unhidden : ∀ sender, Spaces.resolveSpaceRelay main.control session connectionId = some sender ->
      mark.hidesSender main.control sender = false) :
    Near mark (startRepoint main ticket session connectionId spaceId)
      (startRepoint shadow ticket session connectionId spaceId) := by
  have near := related.near
  unfold Service.startRepoint
  rw [related.currentSpace, resolveSpaceRelay_shown near.control unhidden]
  split_ifs
  · cases Spaces.resolveSpaceRelay main.control session connectionId with
    | none => exact near
    | some sender => exact { near with repoints := by simp only [near.repoints] }
  · exact near

variable {Backend : Type} {zellijValidate : String -> Except (List Piece) Unit} {backends : BackendSet Backend}
  {caller : Option Bool}

theorem Related.handle (related : Related mark main shadow) (kept : mark.removes ticket = false)
    {request : Request}
    (unhidden : ∀ sender, request.sender main.control = some sender -> mark.hidesSender main.control sender = false) :
    NearResult mark (handle zellijValidate backends main ticket caller request)
      (handle zellijValidate backends shadow ticket caller request) := by
  have near := related.near
  cases request with
  | goToTab session connectionId tabId =>
    apply NearResult.bind
    intro _
    apply NearResult.bind
    intro _
    exact related.route kept unhidden (.switchTab tabId)
  | focusPane target =>
    apply NearResult.bind
    intro _
    exact related.route kept unhidden (.focusPane target.pane)
  | togglePaneFullscreen req =>
    apply NearResult.bind
    intro _
    cases named : req.target with
    | none => trivial
    | some target =>
      apply NearResult.bind
      intro _
      apply related.route kept
      intro sender chosen
      apply unhidden
      simpa [Request.sender, named] using chosen
  | switchSpace session connectionId spaceId =>
    apply NearResult.bind
    intro _
    apply NearResult.bind
    intro _
    apply NearResult.bind
    intro _
    rw [resolveSpaceRelay_shown near.control unhidden]
    cases resolved : Spaces.resolveSpaceRelay main.control session connectionId with
    | none => exact near
    | some sender =>
      obtain ⟨entry, registered, _, taken⟩ := resolveSpaceRelay_some resolved
      have keeps : mark.removes ((ticket, .switchSpace spaceId ticket.id) : Command).1 = false := kept
      rcases related.send_to (unhidden sender resolved) registered taken keeps with
        ⟨unsent, shadowUnsent⟩ | ⟨channels, shadowChannels, sent, shadowSent, next⟩
      · simp only [unsent, shadowUnsent]
        exact near
      · simp only [sent, shadowSent]
        exact next
  | closeSpace session connectionId spaceId listed closed =>
    apply NearResult.bind
    intro _
    apply NearResult.bind
    intro _
    apply NearResult.bind
    intro _
    cases listed with
    | error message => trivial
    | ok spaces =>
      by_cases last : Spaces.wouldCloseLastSpace spaces.length = true
      · simp only [last, if_true]
        exact near
      · simp only [if_neg last]
        cases closed with
        | error message => trivial
        | ok ack =>
          by_cases done : ack.ok = true
          · simp only [done, if_true]
            exact related.startRepoint unhidden
          · simp only [if_neg done]
            exact near
  | getLayout session connectionId =>
    apply NearResult.bind
    intro _
    rw [relayEntry_shown near.control unhidden]
    cases chosen : Layout.relayEntry main.control session connectionId with
    | none => exact near
    | some relay =>
      obtain ⟨key, sender⟩ := relay
      obtain ⟨entry, registered, _, taken⟩ := relayEntry_some chosen
      have keeps : mark.removes ((ticket, .queryLayout ticket.id) : Command).1 = false := kept
      rcases related.send_to (unhidden sender (by simp [Request.sender, chosen])) registered taken keeps with
        ⟨unsent, shadowUnsent⟩ | ⟨channels, shadowChannels, sent, shadowSent, next⟩
      · simp only [unsent, shadowUnsent]
        exact near
      · simp only [sent, shadowSent]
        exact next
  | backend rpc =>
    apply NearResult.bind
    intro _
    exact near

theorem Related.apart_of_hidden (related : Related mark main shadow) {sender : Nat}
    (hidden : mark.hidesSender main.control sender = true) :
    ∃ key connection, main.connections.lookup key = some connection ∧ connection.channel = sender ∧
      mark.hides main key = true := by
  obtain ⟨⟨key, entry⟩, member, hit⟩ := List.any_eq_true.mp hidden
  simp only [Bool.and_eq_true, decide_eq_true_eq] at hit
  have registered : main.control.lookup key = some entry := AList.mem_lookup_iff.mpr member
  rw [related.hidden_entry registered] at hit
  obtain ⟨connection, found, rfl⟩ := related.consistent.registered key entry registered
  exact ⟨key, connection, found, hit.1, hit.2⟩

theorem Related.unseen_request (related : Related mark main shadow) {id : Nat} {request : Request}
    {outcome : Outcome} {after : MuxrService Unit Unit}
    (handled : Service.handle zellijValidate backends main (ticketOf id caller) caller request = .ok (outcome, after))
    (unseen : mark.removes (ticketOf id caller) = true ∨
      ∃ sender, request.sender main.control = some sender ∧ mark.hidesSender main.control sender = true) :
    Near mark after shadow := by
  have near := related.near
  rcases handle_cases handled with rfl | ⟨sender, cmd, channels, handed, sent, rfl, _⟩ |
    ⟨session, connectionId, sender, writable, viewing, resolved, handed, rfl⟩
  · exact near
  · apply near.send_unseen sent
    intro key connection found shown same
    rcases unseen with removed | ⟨target, named, hidden⟩
    · exact removed
    · obtain rfl : sender = target := Option.some.inj (handed.symm.trans named)
      obtain ⟨other, owner, there, taken, concealed⟩ := related.apart_of_hidden hidden
      obtain rfl := related.consistent.distinct key other connection owner found there (same.trans taken.symm)
      rw [concealed] at shown
      contradiction
  · rcases unseen with removed | ⟨target, named, hidden⟩
    · simp [Mark.removes, ticketOf, writable] at removed
    · -- A hidden relay views no space, so it is not re-pointed.
      obtain rfl : sender = target := Option.some.inj (handed.symm.trans named)
      obtain ⟨other, owner, there, taken, concealed⟩ := related.apart_of_hidden hidden
      obtain ⟨entry, registered, _, same⟩ := resolveSpaceRelay_some resolved
      obtain ⟨connection, found, rfl⟩ := related.consistent.registered connectionId entry registered
      obtain rfl := related.consistent.distinct connectionId other connection owner found there
        (same.trans taken.symm)
      have viewless : Spaces.connectionCurrentSpace main.viewState session connectionId = none := by
        rw [← related.currentSpace]
        unfold Spaces.connectionCurrentSpace
        rw [related.unviewed (.inl concealed)]
        split_ifs <;> rfl
      rw [viewless] at viewing
      contradiction

end Requests

end Muxrd.Readers
