import Muxrd.Grpc.Readers

set_option autoImplicit false

namespace Muxrd.Readers

open Routing Inbound Attach Helpers Service Visible

section Marks

variable (mark : Mark)

def Mark.hidesEntry (key : String) (entry : ControlEntry) : Bool :=
  !mark.present key && entry.readOnly

def Mark.hides {State World : Type} (service : MuxrService State World) (key : String) : Bool :=
  !mark.present key && (service.connections.lookup key).any (·.relay.readOnly)

def Mark.trim (channel : Channel Command) : Channel Command :=
  { channel with queue := channel.queue.filter fun command => !mark.removes command.1 }

def markOf {State World : Type} (service : MuxrService State World) : Mark :=
  { present := fun key => (service.connections.lookup key).isSome
    nextTicket := service.nextTicket }

end Marks

/-- The shadow is the service without what read-only callers have done since. -/
structure Near (mark : Mark) (main shadow : MuxrService Unit Unit) : Prop where
  control : Shows (fun entry => !mark.hidesEntry entry.1 entry.2) main.control shadow.control
  connected : ∀ key connection, main.connections.lookup key = some connection -> mark.hides main key = false ->
    ∃ other, shadow.connections.lookup key = some other ∧ other.channel = connection.channel ∧
      NearRelay mark (load main connection.relay) (load shadow other.relay)
  absent : ∀ key other, shadow.connections.lookup key = some other ->
    mark.hides main key = false ∧ key ∈ main.connections
  channels : ∀ key connection, main.connections.lookup key = some connection -> mark.hides main key = false ->
    shadow.channels.lookup connection.channel = (main.channels.lookup connection.channel).map mark.trim
  fresh : ∀ name ∈ shadow.channels, name ∈ main.channels
  repoints : shadow.repoints = main.repoints
  later : shadow.nextTicket ≤ main.nextTicket
  since : mark.nextTicket ≤ main.nextTicket
  present : ∀ key, mark.present key = true -> key ∈ main.connections

structure Related (mark : Mark) (main shadow : MuxrService Unit Unit) : Prop where
  consistent : Consistent main
  shadowConsistent : Consistent shadow
  near : Near mark main shadow

variable {mark : Mark} {main shadow : MuxrService Unit Unit}

theorem NearRelay.load {first second : Relay Unit Unit} (near : NearRelay mark first second)
    {views shadowViews : ViewStateRegistry}
    (same : views.lookup first.connectionId = first.viewState.lookup first.connectionId)
    (shadowSame : shadowViews.lookup second.connectionId = second.viewState.lookup second.connectionId) :
    NearRelay mark { first with viewState := views } { second with viewState := shadowViews } := by
  have outline := near.outline
  have focus := near.focus
  unfold ownView at outline focus
  rw [← same, ← shadowSame] at outline focus
  exact { near with outline, focus }

theorem Related.hidden_entry (related : Related mark main shadow) {key : String} {entry : ControlEntry}
    (registered : main.control.lookup key = some entry) :
    mark.hidesEntry key entry = mark.hides main key := by
  obtain ⟨connection, found, rfl⟩ := related.consistent.registered key entry registered
  simp [Mark.hidesEntry, Mark.hides, found, Connection.entry]

section Channels

theorem Near.of_channels (near : Near mark main shadow) {channels shadowChannels : Channels Command}
    (trimmed : ∀ key connection, main.connections.lookup key = some connection -> mark.hides main key = false ->
      shadowChannels.lookup connection.channel = (channels.lookup connection.channel).map mark.trim)
    (fresh : ∀ name ∈ shadowChannels, name ∈ channels) :
    Near mark { main with channels } { shadow with channels := shadowChannels } :=
  { near with channels := trimmed, fresh }

theorem Near.replace (near : Near mark main shadow) {name : Nat} {channel : Channel Command} :
    Near mark { main with channels := main.channels.insert name channel }
      { shadow with channels := shadow.channels.insert name (mark.trim channel) } := by
  apply near.of_channels
  · intro key connection found shown
    by_cases same : connection.channel = name
    · rw [same, AList.lookup_insert, AList.lookup_insert, Option.map_some]
    · rw [AList.lookup_insert_ne same, AList.lookup_insert_ne same]
      exact near.channels key connection found shown
  · intro other member
    rcases (AList.mem_insert _).mp member with same | before
    · simp [AList.mem_insert, same]
    · simp [AList.mem_insert, near.fresh other before]

theorem Near.replace_unseen (near : Near mark main shadow) {name : Nat} {channel next : Channel Command}
    (looked : main.channels.lookup name = some channel)
    (unseen : ∀ key connection, main.connections.lookup key = some connection -> mark.hides main key = false ->
      connection.channel = name -> mark.trim next = mark.trim channel) :
    Near mark { main with channels := main.channels.insert name next } shadow := by
  apply near.of_channels
  · intro key connection found shown
    rw [near.channels key connection found shown]
    by_cases same : connection.channel = name
    · rw [same, looked, AList.lookup_insert, Option.map_some, Option.map_some,
        unseen key connection found shown same]
    · rw [AList.lookup_insert_ne same]
  · intro other member
    simp [AList.mem_insert, near.fresh other member]

theorem trim_push {channel : Channel Command} {command : Command}
    (shown : mark.removes command.1 = false) :
    mark.trim { channel with queue := channel.queue ++ [command] } =
      { mark.trim channel with queue := (mark.trim channel).queue ++ [command] } := by
  simp [Mark.trim, shown]

theorem Related.send (related : Related mark main shadow) {key : String}
    {connection : Connection Unit Unit}
    (found : main.connections.lookup key = some connection) (shown : mark.hides main key = false)
    {command : Command} (kept : mark.removes command.1 = false) :
    (main.channels.send connection.channel command = none ∧
        shadow.channels.send connection.channel command = none) ∨
      ∃ channels shadowChannels, main.channels.send connection.channel command = some channels ∧
        shadow.channels.send connection.channel command = some shadowChannels ∧
        Near mark { main with channels } { shadow with channels := shadowChannels } := by
  have near := related.near
  have here := near.channels key connection found shown
  cases looked : main.channels.lookup connection.channel with
  | none => simp [Channels.send, here, looked]
  | some channel =>
    rw [looked, Option.map_some] at here
    cases alive : channel.receiverAlive with
    | false => simp [Channels.send, here, looked, Mark.trim, alive]
    | true =>
      right
      refine ⟨_, _, Channels.send_eq_some.mpr ⟨channel, looked, alive, rfl⟩,
        Channels.send_eq_some.mpr ⟨mark.trim channel, here, alive, rfl⟩, ?_⟩
      rw [← trim_push kept]
      exact near.replace

theorem Near.send_unseen (near : Near mark main shadow) {sender : Nat} {command : Command}
    {channels : Channels Command} (sent : main.channels.send sender command = some channels)
    (unseen : ∀ key connection, main.connections.lookup key = some connection -> mark.hides main key = false ->
      connection.channel = sender -> mark.removes command.1 = true) :
    Near mark { main with channels } shadow := by
  obtain ⟨channel, looked, _, rfl⟩ := Channels.send_eq_some.mp sent
  apply near.replace_unseen looked
  intro key connection found shown same
  simp [Mark.trim, unseen key connection found shown same]

end Channels

section Stores

theorem hides_store {key : String} {connection : Connection Unit Unit}
    (found : main.connections.lookup key = some connection) {relay : Relay Unit Unit}
    (task : relay.task = connection.relay.task) (keyed : connection.relay.connectionId = key)
    (other : String) :
    mark.hides (store main connection relay) other = mark.hides main other := by
  have own : relay.connectionId = key := (congrArg Task.connectionId task).trans keyed
  unfold Mark.hides
  by_cases same : other = key
  · subst same
    have flag : relay.readOnly = connection.relay.readOnly := congrArg Task.readOnly task
    rw [store_own own, found]
    simp [flag]
  · rw [store_other own same]

theorem Related.stored (related : Related mark main shadow) {key : String}
    {connection : Connection Unit Unit}
    (found : main.connections.lookup key = some connection) {relay : Relay Unit Unit}
    (task : relay.task = connection.relay.task)
    (others : ∀ name, name ≠ key -> relay.viewState.lookup name = main.viewState.lookup name)
    {connections : AList fun _ : String => Connection Unit Unit} {viewState : ViewStateRegistry}
    (elsewhere : ∀ name, name ≠ key -> connections.lookup name = shadow.connections.lookup name ∧
      viewState.lookup name = shadow.viewState.lookup name)
    (known : key ∈ connections -> key ∈ shadow.connections)
    (next : mark.hides main key = false -> ∃ seen, connections.lookup key = some seen ∧
      seen.channel = connection.channel ∧ NearRelay mark relay { seen.relay with viewState }) :
    Near mark (Service.store main connection relay) { shadow with connections, viewState } := by
  have near := related.near
  have keyed := related.consistent.keyed key connection found
  have own : relay.connectionId = key := (congrArg Task.connectionId task).trans keyed
  have hides (other : String) : mark.hides (Service.store main connection relay) other = mark.hides main other :=
    hides_store found task keyed other
  have shadowKnown (name : String) (member : name ∈ connections) : name ∈ shadow.connections := by
    by_cases same : name = key
    · subst same
      exact known member
    · rw [← AList.lookup_isSome, (elsewhere name same).1] at member
      exact AList.lookup_isSome.mp member
  refine { near with connected := ?_, absent := ?_, channels := ?_, present := ?_ }
  · intro name looked there shown
    rw [hides name] at shown
    by_cases same : name = key
    · subst same
      rw [store_own own] at there
      rw [← Option.some.inj there]
      exact next shown
    · rw [store_other own same] at there
      obtain ⟨seen, seenFound, seenChannel, seenNear⟩ := near.connected name looked there shown
      refine ⟨seen, (elsewhere name same).1.trans seenFound, seenChannel, ?_⟩
      apply seenNear.load
      · apply others
        change looked.relay.connectionId ≠ key
        rw [related.consistent.keyed name looked there]
        exact same
      · refine (elsewhere _ ?_).2
        change seen.relay.connectionId ≠ key
        rw [related.shadowConsistent.keyed name seen seenFound]
        exact same
  · intro name looked there
    obtain ⟨old, was⟩ := mem_iff_lookup.mp (shadowKnown name (mem_iff_lookup.mpr ⟨_, there⟩))
    obtain ⟨shown, member⟩ := near.absent name old was
    refine ⟨(hides name).trans shown, ?_⟩
    simp [mem_store own, member]
  · intro name looked there shown
    rw [hides name] at shown
    by_cases same : name = key
    · subst same
      rw [store_own own] at there
      rw [← Option.some.inj there]
      exact near.channels name connection found shown
    · rw [store_other own same] at there
      exact near.channels name looked there shown
  · intro name present
    simp [mem_store own, near.present name present]

theorem Related.store (related : Related mark main shadow) {key : String}
    {connection other : Connection Unit Unit}
    (found : main.connections.lookup key = some connection)
    (shadowFound : shadow.connections.lookup key = some other) {relay shadowRelay : Relay Unit Unit}
    (task : relay.task = connection.relay.task)
    (others : ∀ name, name ≠ key -> relay.viewState.lookup name = main.viewState.lookup name)
    (shadowOthers : ∀ name, name ≠ key -> shadowRelay.viewState.lookup name = shadow.viewState.lookup name)
    (channel : other.channel = connection.channel) (next : NearRelay mark relay shadowRelay) :
    Near mark (Service.store main connection relay) (Service.store shadow other shadowRelay) := by
  have keyed := related.consistent.keyed key connection found
  have shadowOwn : shadowRelay.connectionId = key :=
    (congrArg Task.connectionId next.task).trans ((congrArg Task.connectionId task).trans keyed)
  refine related.stored found task others ?_ ?_ ?_
  · intro name different
    rw [shadowOwn, AList.lookup_insert_ne different]
    exact ⟨rfl, shadowOthers name different⟩
  · exact fun _ => mem_iff_lookup.mpr ⟨_, shadowFound⟩
  · intro _
    rw [shadowOwn, AList.lookup_insert]
    exact ⟨_, rfl, channel, next⟩

theorem Related.store_unseen (related : Related mark main shadow) {key : String}
    {connection : Connection Unit Unit} (found : main.connections.lookup key = some connection)
    {relay : Relay Unit Unit} (task : relay.task = connection.relay.task)
    (others : ∀ name, name ≠ key -> relay.viewState.lookup name = main.viewState.lookup name)
    (next : ∀ other, mark.hides main key = false ->
      NearRelay mark (load main connection.relay) (load shadow other) -> NearRelay mark relay (load shadow other)) :
    Near mark (Service.store main connection relay) shadow := by
  refine related.stored found task others (fun _ _ => ⟨rfl, rfl⟩) id ?_
  intro shown
  obtain ⟨seen, seenFound, seenChannel, seenNear⟩ := related.near.connected key connection found shown
  exact ⟨seen, seenFound, seenChannel, next seen.relay shown seenNear⟩

theorem Related.stored_apart (related : Related mark main shadow) {key : String}
    {connection : Connection Unit Unit}
    (found : main.connections.lookup key = some connection) (hidden : mark.hides main key = true)
    {relay : Relay Unit Unit} (task : relay.task = connection.relay.task) (name : String)
    (other : Connection Unit Unit)
    (there : (Service.store main connection relay).connections.lookup name = some other)
    (shown : mark.hides (Service.store main connection relay) name = false) :
    other.channel ≠ connection.channel := by
  have keyed := related.consistent.keyed key connection found
  have own : relay.connectionId = key := (congrArg Task.connectionId task).trans keyed
  rw [hides_store found task keyed] at shown
  have apart : name ≠ key := by
    rintro rfl
    simp [hidden] at shown
  rw [store_other own apart] at there
  exact fun same => apart (related.consistent.distinct name key other connection there found same)

end Stores

section Relays

theorem lookup_dropReceiver (channels : Channels Command) (name other : Nat) :
    (dropReceiver channels name).lookup other =
      if other = name then (channels.lookup name).map fun channel => { channel with receiverAlive := false }
      else channels.lookup other := by
  unfold dropReceiver
  cases looked : channels.lookup name with
  | none =>
    by_cases same : other = name
    · rw [if_pos same, same, looked]
      rfl
    · rw [if_neg same]
  | some channel =>
    by_cases same : other = name
    · rw [if_pos same, same, AList.lookup_insert]
      rfl
    · rw [if_neg same, AList.lookup_insert_ne same]

theorem mem_dropReceiver {channels : Channels Command} {name other : Nat} :
    other ∈ dropReceiver channels name ↔ other ∈ channels := by
  rw [← AList.lookup_isSome, ← AList.lookup_isSome, lookup_dropReceiver]
  by_cases same : other = name
  · rw [if_pos same, same]
    simp
  · rw [if_neg same]

theorem Near.dropReceiver (near : Near mark main shadow) (name : Nat) :
    Near mark { main with channels := Service.dropReceiver main.channels name }
      { shadow with channels := Service.dropReceiver shadow.channels name } := by
  apply near.of_channels
  · intro key connection found shown
    have here := near.channels key connection found shown
    rw [lookup_dropReceiver, lookup_dropReceiver]
    by_cases same : connection.channel = name
    · rw [← same, if_pos rfl, if_pos rfl, here]
      cases main.channels.lookup connection.channel <;> rfl
    · rw [if_neg same, if_neg same, here]
  · exact fun other member => mem_dropReceiver.mpr (near.fresh other (mem_dropReceiver.mp member))

theorem Near.settle (near : Near mark main shadow) {connection other : Connection Unit Unit}
    (entry : other.entry = connection.entry)
    (keyed : other.relay.connectionId = connection.relay.connectionId)
    (shown : mark.hidesEntry connection.relay.connectionId connection.entry = false)
    (event : Inbound.Event (Except String Unit)) :
    Near mark (Service.settle main connection event) (Service.settle shadow other event) := by
  cases event with
  | initialised layout =>
    refine { near with control := ?_ }
    simp only [Service.settle, keyed, entry]
    apply near.control.insert
    simp [shown]
  | deregister =>
    refine { near with control := ?_ }
    simp only [Service.settle, keyed]
    exact near.control.erase _
  | dropGuard | cancelled =>
    have channel : other.channel = connection.channel := congrArg ControlEntry.sender entry
    simp only [Service.settle, channel]
    exact near.dropReceiver connection.channel
  | _ => exact near

theorem Near.settle_unseen (near : Near mark main shadow) {connection : Connection Unit Unit}
    (absent : connection.relay.connectionId ∉ shadow.control)
    (hidden : mark.hidesEntry connection.relay.connectionId connection.entry = true)
    (apart : ∀ key other, main.connections.lookup key = some other -> mark.hides main key = false ->
      other.channel ≠ connection.channel)
    (event : Inbound.Event (Except String Unit)) :
    Near mark (Service.settle main connection event) shadow := by
  have dropped : Near mark { main with channels := Service.dropReceiver main.channels connection.channel } shadow := by
    apply near.of_channels
    · intro key other found shown
      rw [lookup_dropReceiver, if_neg (apart key other found shown)]
      exact near.channels key other found shown
    · exact fun name member => mem_dropReceiver.mpr (near.fresh name member)
  cases event with
  | initialised layout =>
    refine { near with control := ?_ }
    apply near.control.insert_hidden _ absent
    simp [hidden]
  | deregister =>
    refine { near with control := ?_ }
    exact near.control.erase_hidden absent
  | dropGuard | cancelled => exact dropped
  | _ => exact near

theorem Related.entry_hidden (related : Related mark main shadow) {key : String}
    {connection : Connection Unit Unit} (found : main.connections.lookup key = some connection) :
    mark.hidesEntry connection.relay.connectionId connection.entry = mark.hides main key := by
  rw [related.consistent.keyed key connection found]
  simp [Mark.hidesEntry, Mark.hides, found, Connection.entry]

theorem Related.absent_control (related : Related mark main shadow) {key : String}
    (hidden : mark.hides main key = true) : key ∉ shadow.control := by
  intro member
  obtain ⟨entry, registered⟩ := mem_iff_lookup.mp member
  obtain ⟨other, found, _⟩ := related.shadowConsistent.registered key entry registered
  rw [(related.near.absent key other found).1] at hidden
  contradiction

variable {sync : Bool}

def lasting : Inbound.Event (Except String Unit) -> Bool
  | .layoutTask _ _ => false
  | _ => true

theorem relay_near (related : Related mark main shadow) {key : String} {connection : Connection Unit Unit}
    (found : main.connections.lookup key = some connection) {event : Inbound.Event (Except String Unit)}
    {next : MuxrService Unit Unit}
    (taken : relayStep (MuxSender.answering sync) main connection event = some next) :
    if mark.hides main key = false ∧ lasting event = true then
      ∃ other shadowNext, shadow.connections.lookup key = some other ∧
        relayStep (MuxSender.answering sync) shadow other event = some shadowNext ∧ Near mark next shadowNext
    else Near mark next shadow := by
  have keyed := related.consistent.keyed key connection found
  unfold relayStep at taken
  split_ifs at taken with own
  obtain ⟨relay, moved, rfl⟩ := Option.map_eq_some_iff.mp taken
  have unlike (name : String) (entry : Option ViewStateEntry) : event ≠ .sibling name entry := by
    rintro rfl
    contradiction
  obtain ⟨task, others⟩ := stepped_frame related.consistent found unlike moved
  split
  next kept =>
    obtain ⟨shown, lasts⟩ := kept
    obtain ⟨other, shadowFound, channel, nearRelay⟩ := related.near.connected key connection found shown
    have remains (index : Nat) (answer : Except String Unit) : event ≠ .layoutTask index answer := by
      rintro rfl
      contradiction
    obtain ⟨shadowRelay, shadowMoved, nearNext⟩ := near_step nearRelay own remains moved
    have shadowOthers := (stepped_frame related.shadowConsistent shadowFound unlike shadowMoved).2
    have shadowKeyed := related.shadowConsistent.keyed key other shadowFound
    have stored := related.store found shadowFound task others shadowOthers channel nearNext
    have entry : other.entry = connection.entry := by
      have session : other.relay.session = connection.relay.session := congrArg Task.session nearRelay.task
      have flag : other.relay.readOnly = connection.relay.readOnly := congrArg Task.readOnly nearRelay.task
      unfold Connection.entry
      rw [session, flag, channel]
    refine ⟨other, settle (Service.store shadow other shadowRelay) other event, shadowFound, ?_, ?_⟩
    · unfold relayStep
      rw [if_pos own, shadowMoved]
      rfl
    · apply stored.settle entry (shadowKeyed.trans keyed.symm)
      rw [related.entry_hidden found]
      exact shown
  next left =>
    by_cases hidden : mark.hides main key = true
    · have stored := related.store_unseen found task others (fun _ shown => by simp [hidden] at shown)
      apply stored.settle_unseen
      · rw [keyed]
        exact related.absent_control hidden
      · rw [related.entry_hidden found]
        exact hidden
      · exact related.stored_apart found hidden task
    · have passing : lasting event = false := by
        cases lasts : lasting event with
        | false => rfl
        | true => exact absurd ⟨by simpa using hidden, lasts⟩ left
      cases event with
      | layoutTask index answer =>
        exact related.store_unseen found task others fun _ _ near => near_layoutTask near moved
      | _ => contradiction

def Mark.removesNext (mark : Mark) {State World : Type} (service : MuxrService State World)
    (key : String) : Bool :=
  (nextCommand service key).any fun command => mark.removes command.1

theorem dequeue_near (related : Related mark main shadow) {key : String}
    {connection : Connection Unit Unit}
    (found : main.connections.lookup key = some connection) {query : FloatQuery}
    {answer : Except String Unit}
    {next : MuxrService Unit Unit}
    (taken : dequeue (MuxSender.answering sync) main connection query answer = some next) :
    if mark.hides main key = false ∧ mark.removesNext main key = false then
      ∃ other shadowNext, shadow.connections.lookup key = some other ∧
        dequeue (MuxSender.answering sync) shadow other query answer = some shadowNext ∧ Near mark next shadowNext
    else Near mark next shadow := by
  unfold dequeue at taken
  split at taken
  next channel looked =>
    split at taken
    next ticket cmd rest waiting =>
      obtain ⟨relay, moved, rfl⟩ := Option.map_eq_some_iff.mp taken
      have unlike (name : String) (entry : Option ViewStateEntry) :
          (.command ticket cmd query answer : Inbound.Event (Except String Unit)) ≠ .sibling name entry := by simp
      obtain ⟨task, others⟩ := stepped_frame related.consistent found unlike moved
      have head : mark.removesNext main key = mark.removes ticket := by
        simp [Mark.removesNext, nextCommand, found, looked, waiting]
      simp only [Inbound.step] at moved
      split_ifs at moved with running
      obtain rfl := Option.some.inj moved
      rw [head]
      split
      next kept =>
        obtain ⟨shown, kept⟩ := kept
        obtain ⟨other, shadowFound, same, nearRelay⟩ := related.near.connected key connection found shown
        have shadowMoved : Inbound.step (MuxSender.answering sync) (load shadow other.relay)
            (.command ticket cmd query answer) =
              some (onControl (MuxSender.answering sync) ticket cmd query answer (load shadow other.relay)) :=
          if_pos (nearRelay.phase.trans running)
        have shadowOthers := (stepped_frame related.shadowConsistent shadowFound unlike shadowMoved).2
        have stored := related.store found shadowFound task others shadowOthers same
          (near_onControl nearRelay kept cmd query answer)
        have here := related.near.channels key connection found shown
        rw [looked, Option.map_some, ← same] at here
        have queue : (mark.trim channel).queue =
            (ticket, cmd) :: (mark.trim { channel with queue := rest }).queue := by
          simp [Mark.trim, waiting, kept]
        refine ⟨other, _, shadowFound, ?_, stored.replace⟩
        unfold dequeue
        simp only [here, queue, shadowMoved, Option.map_some, same]
        rfl
      next left =>
        by_cases hidden : mark.hides main key = true
        · have stored := related.store_unseen found task others (fun _ shown => by simp [hidden] at shown)
          apply stored.replace_unseen looked
          intro name other there shown same
          exact absurd same (related.stored_apart found hidden task name other there shown)
        · have removed : mark.removes ticket = true := by
            cases reader : mark.removes ticket with
            | true => rfl
            | false => exact absurd ⟨by simpa using hidden, reader⟩ left
          have admissible := related.consistent.queued _ channel looked (ticket, cmd) (by simp [waiting])
          have opened : openToReaders cmd = true := by
            apply admissible.2
            simp only [Mark.removes, Bool.and_eq_true] at removed
            exact removed.1
          have stored := related.store_unseen found task others
            fun _ _ near => near_removed near removed opened query answer
          apply stored.replace_unseen looked
          intro _ _ _ _ _
          simp [Mark.trim, waiting, removed]
    · contradiction
  · contradiction

end Relays

end Muxrd.Readers
