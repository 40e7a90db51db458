import Muxrd.Grpc.Acknowledged
import Muxrd.Grpc.Requests
import Muxrd.Herdr.Frames

set_option autoImplicit false

namespace Muxrd.Readers

open Routing Inbound Attach Helpers Service Visible
open Registry (mintConnectionId)

variable {mark : Mark} {main shadow : MuxrService Unit Unit}

section Runs

variable {Backend : Type} {zellijValidate : String -> Except (List Piece) Unit} {backends : BackendSet Backend}
  {sync : Bool}

theorem opening_readOnly {querySessionSize : Backend -> String -> Option (UInt16 × UInt16)}
    {readOnly : Bool}
    {first : FirstFrame} {target : Opening Backend}
    (opened : opening zellijValidate backends querySessionSize readOnly first = .ok target) :
    target.readOnly = readOnly := by
  unfold opening at opened
  split at opened
  · contradiction
  · split at opened
    · contradiction
    · rw [← Except.ok.inj opened]

theorem Related.connect (related : Related mark main shadow) {key : String}
    (unminted : key ∉ main.connections)
    {name : Nat} (unused : name ∉ main.channels) {relay : Relay Unit Unit} {channel : Channel Command}
    {connections : AList fun _ : String => Connection Unit Unit} {channels : Channels Command}
    (elsewhere : ∀ other, other ≠ key -> connections.lookup other = shadow.connections.lookup other)
    (others : ∀ other, other ≠ name -> channels.lookup other = shadow.channels.lookup other)
    (known : key ∈ connections -> relay.readOnly = false)
    (next : relay.readOnly = false -> channels.lookup name = some (mark.trim channel) ∧
      ∃ seen, connections.lookup key = some seen ∧ seen.channel = name ∧
        NearRelay mark (load main relay) (load shadow seen.relay)) :
    Near mark
      { main with
        connections := main.connections.insert key { channel := name, relay }
        channels := main.channels.insert name channel }
      { shadow with connections, channels } := by
  have near := related.near
  have absent : mark.present key = false := by
    by_contra present
    exact unminted (near.present key (by simpa using present))
  have hides (other : String) : mark.hides
      { main with
        connections := main.connections.insert key { channel := name, relay }
        channels := main.channels.insert name channel } other =
      if other = key then relay.readOnly else mark.hides main other := by
    by_cases same : other = key
    · subst same
      simp [Mark.hides, absent]
    · simp [Mark.hides, same, AList.lookup_insert_ne same]
  refine { near with connected := ?_, absent := ?_, channels := ?_, fresh := ?_, present := ?_ }
  · intro other connection found shown
    rw [hides other] at shown
    by_cases same : other = key
    · subst same
      rw [AList.lookup_insert] at found
      rw [if_pos rfl] at shown
      obtain ⟨_, seen, seenFound, seenChannel, seenNear⟩ := next shown
      rw [← Option.some.inj found]
      exact ⟨seen, seenFound, seenChannel, seenNear⟩
    · rw [AList.lookup_insert_ne same] at found
      rw [if_neg same] at shown
      obtain ⟨seen, seenFound, seenChannel, seenNear⟩ := near.connected other connection found shown
      exact ⟨seen, (elsewhere other same).trans seenFound, seenChannel, seenNear⟩
  · intro other connection found
    rw [hides other]
    by_cases same : other = key
    · subst same
      rw [if_pos rfl]
      refine ⟨known (mem_iff_lookup.mpr ⟨_, found⟩), ?_⟩
      simp [AList.mem_insert]
    · rw [if_neg same]
      obtain ⟨shown, member⟩ := near.absent other connection ((elsewhere other same).symm.trans found)
      exact ⟨shown, by simp [AList.mem_insert, member]⟩
  · intro other connection found shown
    rw [hides other] at shown
    by_cases same : other = key
    · subst same
      rw [AList.lookup_insert] at found
      rw [if_pos rfl] at shown
      rw [← Option.some.inj found, (next shown).1, AList.lookup_insert]
      rfl
    · rw [AList.lookup_insert_ne same] at found
      rw [if_neg same] at shown
      have apart : connection.channel ≠ name := by
        rintro rfl
        exact unused (related.consistent.owned other connection found)
      rw [others _ apart, AList.lookup_insert_ne apart]
      exact near.channels other connection found shown
  · intro other member
    by_cases same : other = name
    · simp [AList.mem_insert, same]
    · rw [← AList.lookup_isSome, others other same, AList.lookup_isSome] at member
      simp [AList.mem_insert, near.fresh other member]
  · intro other present
    simp [AList.mem_insert, near.present other present]

theorem attach_near (related : Related mark main shadow) {caller : Option Bool} {first : FirstFrame}
    {size : Option (UInt16 × UInt16)} {opened : Except String Unit} {random : BitVec 128} {channel : Nat}
    {next : MuxrService Unit Unit}
    (taken : attach zellijValidate backends (MuxSender.answering sync) main caller first size opened random channel =
      some next) :
    if caller.getD true = false then
      ∃ shadowNext, attach zellijValidate backends (MuxSender.answering sync) shadow caller first size opened random
        channel = some shadowNext ∧ Near mark next shadowNext
    else Near mark next shadow := by
  have near := related.near
  unfold attach at taken
  split at taken
  next target sender opened =>
    split_ifs at taken with used
    push Not at used
    obtain ⟨unminted, unused⟩ := used
    rw [← Option.some.inj taken]
    have flag := opening_readOnly opened
    have unknown : mintConnectionId random ∉ shadow.connections := by
      intro member
      obtain ⟨connection, found⟩ := mem_iff_lookup.mp member
      exact unminted (near.absent _ connection found).2
    have unopened : channel ∉ shadow.channels := fun member => unused (near.fresh channel member)
    have unviewed {service : MuxrService Unit Unit} (consistent : Consistent service)
        (new : mintConnectionId random ∉ service.connections) :
        service.viewState.lookup (mintConnectionId random) = none := by
      apply Option.eq_none_iff_forall_ne_some.mpr
      exact fun entry viewed => new (consistent.viewed _ entry viewed)
    split
    next writer =>
      refine ⟨{ shadow with
        connections := shadow.connections.insert (mintConnectionId random)
          { channel
            relay := attached (MuxSender.answering sync) target (mintConnectionId random) sender shadow.world
              shadow.viewState }
        channels := shadow.channels.insert channel { queue := [], receiverAlive := true } }, ?_, ?_⟩
      · unfold attach
        simp only [opened]
        rw [if_neg (by simp [unknown, unopened])]
      · apply related.connect unminted unused
        · exact fun other different => AList.lookup_insert_ne different
        · exact fun other different => AList.lookup_insert_ne different
        · exact fun _ => flag.trans writer
        · intro _
          refine ⟨AList.lookup_insert _, _, AList.lookup_insert _, rfl, ?_⟩
          have blank : ownView (load shadow (attached (MuxSender.answering sync) target (mintConnectionId random)
              sender shadow.world shadow.viewState)) =
              ownView (load main (attached (MuxSender.answering sync) target (mintConnectionId random)
                sender main.world main.viewState)) :=
            (unviewed related.shadowConsistent unknown).trans (unviewed related.consistent unminted).symm
          exact { task := rfl, phase := rfl, writes := rfl, outline := congrArg (·.map blur) blank,
                  focus := fun _ => blank, unsteered := rfl }
    next reader =>
      apply related.connect unminted unused (fun _ _ => rfl) (fun _ _ => rfl)
      · exact fun member => absurd member unknown
      · intro writable
        exact absurd (flag.symm.trans writable) reader
  next failed =>
    rw [← Option.some.inj taken]
    split
    · refine ⟨shadow, ?_, near⟩
      unfold attach
      split
      next target sender opened => exact absurd rfl (failed target sender opened)
      · rfl
    · exact near

theorem repoint_near (related : Related mark main shadow) {id : Nat}
    {listed : Except String (List SpaceSnapshot)}
    {next : MuxrService Unit Unit} (taken : repoint main id listed = some next) :
    ∃ shadowNext, repoint shadow id listed = some shadowNext ∧ Near mark next shadowNext := by
  have near := related.near
  have rest : Near mark { main with repoints := main.repoints.erase id }
      { shadow with repoints := shadow.repoints.erase id } := { near with repoints := by simp only [near.repoints] }
  unfold repoint at taken ⊢
  rw [near.repoints] at rest ⊢
  split at taken
  next sender waiting =>
    dsimp only at taken ⊢
    split at taken
    next target _ =>
      obtain ⟨_, key, connection, found, rfl, writable⟩ := related.consistent.repointed id sender waiting
      have shown : mark.hides main key = false := by simp [Mark.hides, found, writable]
      have kept : mark.removes ((⟨id, false⟩, .switchSpace target id) : Command).1 = false := rfl
      rcases related.send found shown kept with
        ⟨unsent, shadowUnsent⟩ | ⟨channels, shadowChannels, sent, shadowSent, sentNear⟩
      · simp only [unsent] at taken
        simp only [shadowUnsent]
        exact ⟨_, rfl, Option.some.inj taken ▸ rest⟩
      · simp only [sent] at taken
        simp only [shadowSent]
        exact ⟨_, rfl, Option.some.inj taken ▸ { sentNear with repoints := rfl }⟩
    · exact ⟨_, rfl, Option.some.inj taken ▸ rest⟩
  · contradiction

-- A request of a reader, or one that is handed to a hidden relay.
def Mark.removesRequest (mark : Mark) (control : ControlRegistry) (caller : Option Bool)
    (request : Request) : Bool :=
  caller.getD true || (request.sender control).any (mark.hidesSender control)

theorem rpc_near (related : Related mark main shadow) {id : Nat} (numbered : main.nextTicket ≤ id)
    {caller : Option Bool} {request : Request} {next : MuxrService Unit Unit}
    (taken : Service.step zellijValidate backends (MuxSender.answering sync) main (.rpc id caller request) =
      some next) :
    if mark.removesRequest main.control caller request = false then
      ∃ shadowNext, Service.step zellijValidate backends (MuxSender.answering sync) shadow (.rpc id caller request) =
        some shadowNext ∧ Near mark next shadowNext
    else Near mark next shadow := by
  have near := related.near
  have since := near.since
  have later := near.later
  simp only [Service.step, if_pos numbered] at taken
  have counted {after shadowAfter : MuxrService Unit Unit} (near : Near mark after shadowAfter) :
      Near mark { after with nextTicket := id + 1 } { shadowAfter with nextTicket := id + 1 } :=
    { near with later := le_rfl, since := by simp only; omega }
  have countedAlone {after : MuxrService Unit Unit} (near : Near mark after shadow) :
      Near mark { after with nextTicket := id + 1 } shadow :=
    { near with later := by simp only; omega, since := by simp only; omega }
  simp only [Service.step, if_pos (later.trans numbered)]
  split
  next kept =>
    simp only [Mark.removesRequest, Bool.or_eq_false_iff, Option.any_eq_false] at kept
    have unread : mark.removes (ticketOf id caller) = false := by simp [Mark.removes, ticketOf, kept.1]
    have handled : NearResult mark (Service.handle zellijValidate backends main (ticketOf id caller) caller request)
        (Service.handle zellijValidate backends shadow (ticketOf id caller) caller request) := by
      apply related.handle unread
      intro sender handed
      simpa [handed] using kept.2
    split at taken
    next outcome after done =>
      rw [done] at handled
      cases shadowDone : Service.handle zellijValidate backends shadow (ticketOf id caller) caller request with
      | error status =>
        rw [shadowDone] at handled
        exact handled.elim
      | ok result =>
        rw [shadowDone] at handled
        exact ⟨_, rfl, Option.some.inj taken ▸ counted handled⟩
    next status done =>
      rw [done] at handled
      cases shadowDone : Service.handle zellijValidate backends shadow (ticketOf id caller) caller request with
      | error other => exact ⟨_, rfl, Option.some.inj taken ▸ counted near⟩
      | ok result =>
        rw [shadowDone] at handled
        exact handled.elim
  next left =>
    split at taken
    next outcome after done =>
      rw [← Option.some.inj taken]
      apply countedAlone
      apply related.unseen_request done
      simp only [Mark.removesRequest, Bool.not_eq_false, Bool.or_eq_true, Option.any_eq_true] at left
      rcases left with reader | handed
      · left
        simp only [Mark.removes, ticketOf, reader, Bool.true_and, decide_eq_true_eq]
        exact since.trans numbered
      · exact .inr handed
    · exact Option.some.inj taken ▸ countedAlone near

def Mark.keeps (mark : Mark) (main : MuxrService Unit Unit) :
    Service.Event (Except String Unit) Unit -> Bool
  | .attach caller _ _ _ _ _ => !caller.getD true
  | .relay key event => !mark.hides main key && lasting event
  | .dequeue key _ _ => !mark.hides main key && !mark.removesNext main key
  | .rpc _ caller request => !mark.removesRequest main.control caller request
  | .repoint _ _ | .elsewhere _ | .reorder _ => true

def Mark.shown (mark : Mark) (control : ControlRegistry) : ControlRegistry :=
  only (fun entry => !mark.hidesEntry entry.1 entry.2) control

-- What is left of an event: where the map shows another order, that of the entries which are left.
def Mark.image (mark : Mark) (main : MuxrService Unit Unit) :
    Service.Event (Except String Unit) Unit -> Option (Service.Event (Except String Unit) Unit)
  | .reorder control => some (.reorder (mark.shown control))
  | event => if mark.keeps main event then some event else none

theorem reorder_near (related : Related mark main shadow) {control : ControlRegistry}
    {next : MuxrService Unit Unit}
    (taken : Service.step zellijValidate backends (MuxSender.answering sync) main (.reorder control) = some next) :
    ∃ shadowNext, Service.step zellijValidate backends (MuxSender.answering sync) shadow
      (.reorder (mark.shown control)) = some shadowNext ∧ Near mark next shadowNext := by
  simp only [Service.step] at taken ⊢
  split_ifs at taken with same
  have shown : (mark.shown control).entries.Perm shadow.control.entries := by
    rw [related.near.control]
    exact same.filter _
  rw [← Option.some.inj taken, if_pos shown]
  exact ⟨_, rfl, { related.near with control := shows_only control }⟩

theorem step_near (related : Related mark main shadow) {event : Service.Event (Except String Unit) Unit}
    (ordered : ∀ control, event ≠ .reorder control) {next : MuxrService Unit Unit}
    (taken : Service.step zellijValidate backends (MuxSender.answering sync) main event = some next) :
    if mark.keeps main event = true then
      ∃ shadowNext, Service.step zellijValidate backends (MuxSender.answering sync) shadow event = some shadowNext ∧
        Near mark next shadowNext
    else Near mark next shadow := by
  cases event with
  | attach =>
    have stepped := attach_near related taken
    simp only [Mark.keeps, Bool.not_eq_true']
    exact stepped
  | relay key event =>
    obtain ⟨connection, found, taken⟩ := step_relay taken
    have stepped := relay_near related found taken
    simp only [Mark.keeps, Bool.and_eq_true, Bool.not_eq_true']
    split
    next kept =>
      rw [if_pos kept] at stepped
      obtain ⟨other, shadowNext, shadowFound, shadowTaken, near⟩ := stepped
      refine ⟨shadowNext, ?_, near⟩
      simp only [Service.step, shadowFound]
      exact shadowTaken
    next left =>
      rw [if_neg left] at stepped
      exact stepped
  | dequeue key query answer =>
    obtain ⟨connection, found, taken⟩ := step_dequeue taken
    have stepped := dequeue_near related found taken
    simp only [Mark.keeps, Bool.and_eq_true, Bool.not_eq_true']
    split
    next kept =>
      rw [if_pos kept] at stepped
      obtain ⟨other, shadowNext, shadowFound, shadowTaken, near⟩ := stepped
      refine ⟨shadowNext, ?_, near⟩
      simp only [Service.step, shadowFound]
      exact shadowTaken
    next left =>
      rw [if_neg left] at stepped
      exact stepped
  | rpc id caller request =>
    have numbered : main.nextTicket ≤ id := by
      by_contra early
      simp [Service.step, early] at taken
    simpa [Mark.keeps] using rpc_near related numbered taken
  | repoint id listed => exact repoint_near related taken
  | elsewhere answer =>
    obtain rfl := Option.some.inj taken
    exact ⟨_, rfl, { related.near with }⟩
  | reorder control => exact absurd rfl (ordered control)

theorem image_eq {event : Service.Event (Except String Unit) Unit} (ordered : ∀ control, event ≠ .reorder control) :
    mark.image main event = if mark.keeps main event then some event else none := by
  cases event with
  | reorder control => exact absurd rfl (ordered control)
  | _ => rfl

theorem related_kept (main shadow : MuxrService Unit Unit)
    (event : Service.Event (Except String Unit) Unit)
    (next : MuxrService Unit Unit) (replacement : Service.Event (Except String Unit) Unit)
    (related : Related mark main shadow)
    (taken : Service.step zellijValidate backends (MuxSender.answering sync) main event = some next)
    (image : mark.image main event = some replacement) :
    ∃ shadowNext, Service.step zellijValidate backends (MuxSender.answering sync) shadow replacement =
      some shadowNext ∧ Related mark next shadowNext := by
  obtain ⟨shadowNext, shadowTaken, near⟩ : ∃ shadowNext, Service.step zellijValidate backends
      (MuxSender.answering sync) shadow replacement = some shadowNext ∧ Near mark next shadowNext := by
    by_cases reordered : ∃ control, event = .reorder control
    · obtain ⟨control, rfl⟩ := reordered
      rw [← Option.some.inj image]
      exact reorder_near related taken
    · have ordered : ∀ control, event ≠ .reorder control := fun control same => reordered ⟨control, same⟩
      rw [image_eq ordered] at image
      split_ifs at image with keeps
      rw [← Option.some.inj image]
      have stepped := step_near related ordered taken
      rw [if_pos keeps] at stepped
      exact stepped
  refine ⟨shadowNext, shadowTaken, { near, consistent := ?_, shadowConsistent := ?_ }⟩
  · exact step_consistent main event next related.consistent taken
  · exact step_consistent shadow replacement shadowNext related.shadowConsistent shadowTaken

theorem related_dropped (main shadow : MuxrService Unit Unit)
    (event : Service.Event (Except String Unit) Unit)
    (next : MuxrService Unit Unit) (related : Related mark main shadow)
    (taken : Service.step zellijValidate backends (MuxSender.answering sync) main event = some next)
    (image : mark.image main event = none) : Related mark next shadow := by
  have ordered : ∀ control, event ≠ .reorder control := by
    rintro control rfl
    cases image
  rw [image_eq ordered] at image
  split_ifs at image with keeps
  have stepped := step_near related ordered taken
  rw [if_neg keeps] at stepped
  exact { related with near := stepped, consistent := step_consistent main event next related.consistent taken }

/-- The run without what read-only callers do from `start` on. -/
def withoutReaders (zellijValidate : String -> Except (List Piece) Unit) (backends : BackendSet Backend)
    (sync : Bool) (start : MuxrService Unit Unit)
    (events : List (Service.Event (Except String Unit) Unit)) :
    List (Service.Event (Except String Unit) Unit) :=
  Transition.project (Service.step zellijValidate backends (MuxSender.answering sync))
    (markOf start).image start events

def byReader : Service.Event (Except String Unit) Unit -> Bool
  | .attach caller _ _ _ _ _ | .rpc _ caller _ => caller.getD true
  | _ => false

theorem withoutReaders_unread {start : MuxrService Unit Unit}
    {events : List (Service.Event (Except String Unit) Unit)}
    {event : Service.Event (Except String Unit) Unit}
    (member : event ∈ withoutReaders zellijValidate backends sync start events) :
    byReader event = false := by
  obtain ⟨main, original, image⟩ := Transition.mem_project member
  by_cases reordered : ∃ control, original = .reorder control
  · obtain ⟨control, rfl⟩ := reordered
    exact Option.some.inj image ▸ rfl
  · rw [image_eq fun control same => reordered ⟨control, same⟩] at image
    split_ifs at image with kept
    obtain rfl := Option.some.inj image
    cases original with
    | attach => simpa [Mark.keeps, byReader] using kept
    | rpc =>
      simp only [Mark.keeps, Mark.removesRequest, Bool.not_eq_true', Bool.or_eq_false_iff] at kept
      exact kept.1
    | relay | dequeue | repoint | elsewhere | reorder => rfl

theorem Related.start {start : MuxrService Unit Unit} (consistent : Consistent start)
    (numbered : Numbered start) :
    Related (markOf start) start start := by
  have old (ticket : Ticket) (earlier : ticket.id < start.nextTicket) : (markOf start).removes ticket = false := by
    simp [Mark.removes, markOf, Nat.not_le.mpr earlier]
  have shown (key : String) (member : key ∈ start.connections) : (markOf start).present key = true :=
    AList.lookup_isSome.mpr member
  have connected {key : String} {connection : Connection Unit Unit}
      (found : start.connections.lookup key = some connection) : key ∈ start.connections :=
    mem_iff_lookup.mpr ⟨_, found⟩
  refine { consistent, shadowConsistent := consistent, near := ?_ }
  constructor
  · refine (List.filter_eq_self.mpr ?_).symm
    intro entry member
    obtain ⟨connection, found, _⟩ := consistent.registered entry.1 entry.2 (AList.mem_lookup_iff.mpr member)
    simp [Mark.hidesEntry, shown _ (connected found)]
  · intro key connection found _
    refine ⟨connection, found, rfl, NearRelay.refl ?_⟩
    apply List.all_eq_true.mpr
    rintro ⟨cause, call⟩ made
    cases cause with
    | command ticket =>
      have earlier := numbered key ticket call (by simpa [callsOf, found, load] using made)
      cases call <;> simp [Mark.steers, old ticket earlier]
    | _ => rfl
  · intro key connection found
    have member := connected found
    exact ⟨by simp [Mark.hides, shown key member], member⟩
  · intro key connection found _
    cases looked : start.channels.lookup connection.channel with
    | none => rfl
    | some channel =>
      have whole : (channel.queue.filter fun command => !(markOf start).removes command.1) = channel.queue := by
        apply List.filter_eq_self.mpr
        intro command member
        simp [old command.1 (consistent.queued _ channel looked command member).1]
      simp [Mark.trim, whole]
  · exact fun _ member => member
  · rfl
  · exact le_rfl
  · exact le_rfl
  · exact fun key present => AList.lookup_isSome.mp present

theorem writers_undisturbed {start final : MuxrService Unit Unit}
    (reached : Reachable zellijValidate backends (MuxSender.answering sync) start)
    {events : List (Service.Event (Except String Unit) Unit)}
    (ran : Transition.run (Service.step zellijValidate backends (MuxSender.answering sync)) start events =
      some final) :
    ∃ quiet,
      Transition.run (Service.step zellijValidate backends (MuxSender.answering sync)) start
        (withoutReaders zellijValidate backends sync start events) = some quiet ∧
      (∀ event ∈ withoutReaders zellijValidate backends sync start events, byReader event = false) ∧
      (∀ key connection, final.connections.lookup key = some connection -> connection.relay.readOnly = false ->
        key ∈ quiet.connections ∧
        ((callsOf quiet key).filter fun entry => entry.2.isMutating) = (markOf start).writes (callsOf final key) ∧
        (quiet.viewState.lookup key).map blur = (final.viewState.lookup key).map blur ∧
        ((markOf start).steady (callsOf final key) = true ->
          quiet.viewState.lookup key = final.viewState.lookup key)) ∧
      ∀ key connection entry, final.connections.lookup key = some connection -> connection.relay.readOnly = true ->
        entry ∈ callsOf final key -> entry.2.isMutating = false := by
  have started := Related.start (consistent_of_reachable reached) (numbered_of_reachable reached)
  obtain ⟨quiet, quietRan, ends⟩ := Transition.run_project related_kept related_dropped started ran
  refine ⟨quiet, quietRan, fun _ member => withoutReaders_unread member, ?_, ?_⟩
  swap
  · intro key connection entry found readOnly member
    obtain ⟨world, before⟩ := reached
    have harmless := harmless_of_reachable ⟨world, before.trans ⟨events, ran⟩⟩
    apply harmless key connection entry found readOnly
    simpa [callsOf, found] using member
  intro key connection found writable
  have shown : (markOf start).hides final key = false := by simp [Mark.hides, found, writable]
  obtain ⟨other, there, _, near⟩ := ends.near.connected key connection found shown
  have calls : callsOf final key = connection.relay.calls := by simp [callsOf, found]
  have quietCalls : callsOf quiet key = other.relay.calls := by simp [callsOf, there]
  have view : ownView (load final connection.relay) = final.viewState.lookup key :=
    congrArg final.viewState.lookup (ends.consistent.keyed key connection found)
  have quietView : ownView (load quiet other.relay) = quiet.viewState.lookup key :=
    congrArg quiet.viewState.lookup (ends.shadowConsistent.keyed key other there)
  refine ⟨mem_iff_lookup.mpr ⟨_, there⟩, ?_, ?_, ?_⟩
  · have unsteered : (markOf start).steady other.relay.calls = true := near.unsteered
    rw [quietCalls, calls, ← writes_of_steady unsteered]
    exact near.writes
  · rw [← view, ← quietView]
    exact near.outline
  · intro still
    rw [← view, ← quietView]
    apply near.focus
    rw [calls] at still
    exact still

end Runs

section Steered

open Acknowledged (Answered stepOf anyName zellijOnly attachBy attachedBy)

-- A FocusPane without a connection id goes to a writable relay of the session.
def readerFocus : List (Service.Event Answered Unit) :=
  [.rpc 0 (some true) (.focusPane { session := "zellij:dev", connectionId := "", pane := .terminal 4 }),
    .dequeue (mintConnectionId 1) .failed (.ok ())]

def steered : MuxrService Unit Unit :=
  (Transition.run stepOf (attachedBy (some false)) readerFocus).getD (empty ())

def reader : Opening Unit :=
  { id := "herdr:herdr", kind := .herdr, backend := (), session := "herdr", rows := 50, cols := 200,
    readOnly := true }

/-- The FocusPane of a read-only client moves the focus of a writer, and its AttachTerminal takes over the
terminal that a writer is attached to. -/
theorem reader_steers_writer :
    Transition.run stepOf (empty ()) (attachBy (some false) 1 0) = some (attachedBy (some false)) ∧
      Transition.run stepOf (attachedBy (some false)) readerFocus = some steered ∧
      withoutReaders anyName zellijOnly false (attachedBy (some false)) readerFocus = [] ∧
      callsOf (attachedBy (some false)) (mintConnectionId 1) = [] ∧
      callsOf steered (mintConnectionId 1) = [(.command (ticketOf 0 (some true)), .focusPane (.terminal 4))] ∧
      (steered.viewState.lookup (mintConnectionId 1)).bind (·.state.focusedPane) = some (.terminal 4) ∧
      ((attachedBy (some false)).viewState.lookup (mintConnectionId 1)).bind (·.state.focusedPane) = none ∧
      opening anyName herdrOnly (fun _ _ => none) true
        (.frame (.attach { session := "herdr:herdr", rows := 24, cols := 80 })) = .ok reader ∧
      Herdr.openedWriter.1.toOption = some { workspaceId := "w1", currentTerminalId := "t1" } ∧
      ∃ hello takeover, Herdr.encode Herdr.standard (.attachTerminal "t1" true) = .ok takeover ∧
        (Herdr.backendOpenAttach Herdr.standard (fun _ => Herdr.oneWorkspace) Herdr.smooth reader.session
          reader.rows reader.cols Herdr.openedWriter.2.ids).2.wire.accepted = hello ++ takeover :=
  ⟨rfl, rfl, rfl, rfl, rfl, rfl, rfl, rfl, by decide, _, _, rfl, rfl⟩

theorem writers_undisturbed_steered :
    ∃ quiet, Transition.run stepOf (attachedBy (some false))
        (withoutReaders anyName zellijOnly false (attachedBy (some false)) readerFocus) = some quiet ∧
      ((callsOf quiet (mintConnectionId 1)).filter fun entry => entry.2.isMutating) = [] ∧
      (quiet.viewState.lookup (mintConnectionId 1)).map blur =
        (steered.viewState.lookup (mintConnectionId 1)).map blur := by
  have reached : Reachable anyName zellijOnly (MuxSender.answering false) (attachedBy (some false)) :=
    ⟨(), attachBy (some false) 1 0, rfl⟩
  have ran : Transition.run (Service.step anyName zellijOnly (MuxSender.answering false)) (attachedBy (some false))
      readerFocus = some steered := rfl
  obtain ⟨quiet, quietRan, _, writers, _⟩ := writers_undisturbed reached ran
  obtain ⟨_, writes, outline, _⟩ := writers (mintConnectionId 1) _ rfl rfl
  exact ⟨quiet, quietRan, writes, outline⟩

end Steered

end Muxrd.Readers
