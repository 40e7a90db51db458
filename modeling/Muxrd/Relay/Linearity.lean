import Muxrd.Relay.Watch

set_option autoImplicit false

namespace Muxrd.Watch

open RenderLoop

section Tally

inductive Fate
  | armed
  | answered
  | dropped
  | discarded
  deriving DecidableEq, Repr

def Happening.fate : Happening -> Option (Fate × Nat)
  | .armed query => some (.armed, query.reply)
  | .logged _ _ => none
  | .answered fulfilment => some (.answered, fulfilment.query.reply)
  | .dropped query => some (.dropped, query.reply)
  | .discarded query => some (.discarded, query.reply)

def tally (fate : Fate) (reply : Nat) (history : List Happening) : Nat :=
  history.countP fun happening => happening.fate = some (fate, reply)

def among (reply : Nat) (queries : List InFlightQuery) : Nat :=
  queries.countP (·.reply = reply)

@[simp] theorem tally_nil (fate : Fate) (reply : Nat) : tally fate reply [] = 0 := rfl

@[simp] theorem tally_append (fate : Fate) (reply : Nat) (first second : List Happening) :
    tally fate reply (first ++ second) = tally fate reply first + tally fate reply second :=
  List.countP_append

@[simp] theorem tally_cons (fate : Fate) (reply : Nat) (happening : Happening) (rest : List Happening) :
    tally fate reply (happening :: rest) =
      tally fate reply rest + if happening.fate = some (fate, reply) then 1 else 0 := by
  simp [tally, List.countP_cons]

@[simp] theorem among_nil (reply : Nat) : among reply [] = 0 := rfl

@[simp] theorem among_cons (reply : Nat) (query : InFlightQuery) (rest : List InFlightQuery) :
    among reply (query :: rest) = among reply rest + if query.reply = reply then 1 else 0 := by
  simp [among, List.countP_cons]

@[simp] theorem among_append (reply : Nat) (first second : List InFlightQuery) :
    among reply (first ++ second) = among reply first + among reply second :=
  List.countP_append

@[simp] theorem tally_dropped (fate : Fate) (reply : Nat) (queries : List InFlightQuery) :
    tally fate reply (queries.map .dropped) = if fate = .dropped then among reply queries else 0 := by
  induction queries with
  | nil => simp
  | cons query rest ih => cases fate <;> simp_all [Happening.fate]

@[simp] theorem tally_discarded (fate : Fate) (reply : Nat) (queries : List InFlightQuery) :
    tally fate reply (queries.map .discarded) = if fate = .discarded then among reply queries else 0 := by
  induction queries with
  | nil => simp
  | cons query rest ih => cases fate <;> simp_all [Happening.fate]

end Tally

section Balance

structure Balanced (reply : Nat) (reader next : Reader) (done : List Happening) : Prop where
  queued : among reply reader.queries =
    tally .armed reply done + tally .discarded reply done + among reply next.queries
  held : tally .armed reply done + among reply reader.inFlight.toList =
    tally .answered reply done + tally .dropped reply done + among reply next.inFlight.toList

theorem picked_tally (reply : Nat) (queries : List InFlightQuery) (held : Option InFlightQuery) :
    tally .armed reply (picked held queries) = among reply queries ∧
      tally .answered reply (picked held queries) = 0 ∧ tally .discarded reply (picked held queries) = 0 ∧
      among reply queries + among reply held.toList = tally .dropped reply (picked held queries) +
        among reply (queries.foldl (fun _ query => some query) held).toList := by
  induction queries generalizing held with
  | nil => simp [picked]
  | cons query rest ih =>
    obtain ⟨armed, answered, discarded, balance⟩ := ih (some query)
    simp only [picked, tally_append, tally_cons, tally_dropped, Happening.fate, List.foldl_cons, among_cons,
      Option.toList_some, among_nil] at balance ⊢
    refine ⟨?_, ?_, ?_, ?_⟩ <;> simp <;> omega

theorem retired_tally (reply : Nat) (reader : Reader) :
    among reply reader.inFlight.toList =
      among reply (reader.inFlight.toList.filter fun query => reader.isClosed query) +
        among reply reader.retired.toList := by
  unfold Reader.retired
  cases reader.inFlight with
  | none => simp
  | some query => cases closed : reader.isClosed query <;> simp [closed, Option.filter]

variable {reader next : Reader} {reply : Nat}

theorem drain_balanced (reader : Reader) (pc : Pc) :
    Balanced reply reader { reader.drainQueries with pc } (drainHappenings reader) := by
  obtain ⟨armed, answered, discarded, balance⟩ := picked_tally reply reader.queries reader.retired
  have retired := retired_tally reply reader
  constructor
  · simp [drainHappenings, Reader.drainQueries, armed, discarded]
  · simp only [drainHappenings, Reader.drainQueries, tally_append, tally_dropped, armed, answered]
    simp
    omega

theorem capture_balanced (reader : Reader) (json : String) :
    Balanced reply reader { reader.captureQueryLog json with pc := .top } (captureHappenings reader json) := by
  unfold Reader.captureQueryLog captureHappenings
  cases held : reader.inFlight with
  | none => constructor <;> simp [held, Happening.fate]
  | some query =>
    cases closed : reader.isClosed query with
    | true => constructor <;> simp [held, closed, Happening.fate]
    | false => cases filled : query.tabs <;> constructor <;> simp [held, closed, filled, Happening.fate]

theorem moves_balanced {done : List Happening} (moves : Moves reader next done) : Balanced reply reader next done := by
  cases moves with
  | passes | receives | skips | forwards => constructor <;> simp [Reader.forward]
  | drains pc => exact drain_balanced reader pc
  | captures json => exact capture_balanced reader json
  | frames msg standing frame last => cases last <;> constructor <;> simp
  | finishes frame => constructor <;> simp [exitHappenings, Reader.exit, Reader.forward]
  | stops | ends | breaks => constructor <;> simp [exitHappenings, Reader.exit]

end Balance

section Accounts

/-- Every reply handed off is in the channel, in the slot or settled, and in one of these places only. -/
structure Accounted (watched : Watched) : Prop where
  handed : ∀ reply, watched.handedOff.count reply = tally .armed reply watched.history +
    tally .discarded reply watched.history + among reply watched.reader.queries
  armed : ∀ reply, tally .armed reply watched.history = tally .answered reply watched.history +
    tally .dropped reply watched.history + among reply watched.reader.inFlight.toList
  nodup : watched.handedOff.Nodup

theorem accounted_initial (connectionId : String) : Accounted (initial connectionId) := by
  constructor <;> simp [initial, spawned]

theorem accounted_step (watched : Watched) (event : Event) (next : Watched) (accounted : Accounted watched)
    (taken : step watched event = some next) : Accounted next := by
  by_cases outside : event = .reader
  · subst outside
    obtain ⟨reader, thread, rfl⟩ := step_reader.mp taken
    have moves := step_moves thread
    constructor
    · intro reply
      have balanced := (moves_balanced moves : Balanced reply _ _ _).queued
      have before := accounted.handed reply
      simp only [tally_append]
      omega
    · intro reply
      have balanced := (moves_balanced moves : Balanced reply _ _ _).held
      have before := accounted.armed reply
      simp only [tally_append]
      omega
    · exact accounted.nodup
  · have outside := step_outside outside taken
    rcases outside.queries with ⟨same, handedOff⟩ | ⟨query, more, handedOff, _, fresh, _⟩
    · constructor
      · rw [handedOff, outside.history, same]
        exact accounted.handed
      · rw [outside.history, outside.inFlight]
        exact accounted.armed
      · rw [handedOff]
        exact accounted.nodup
    · constructor
      · intro reply
        have before := accounted.handed reply
        rw [handedOff, outside.history, more, List.count_append, among_append, before]
        simp [List.count_singleton, Nat.add_assoc]
      · rw [outside.history, outside.inFlight]
        exact accounted.armed
      · rw [handedOff]
        exact accounted.nodup.append (List.nodup_singleton _) (by simpa using fresh)

end Accounts

section Order

-- Every query picked up so far has been settled, but for the one held.
def Holding (history : List Happening) (held : Option InFlightQuery) : Prop :=
  ∀ reply, tally .armed reply history =
    tally .answered reply history + tally .dropped reply history + among reply held.toList

/-- What has to come right before: a query is picked up when no other is held, a log is taken by the query
that was picked up last, as its first or second, and an answer is made of the two. -/
def Grounded (before : List Happening) : Happening -> Prop
  | .armed _ => Holding before none
  | .answered fulfilment => ∃ earlier armed, armed.tabs = none ∧
      fulfilment.query = { armed with tabs := some fulfilment.tabs } ∧
      before = earlier ++ [.armed armed, .logged fulfilment.tabs (some armed.reply),
        .logged fulfilment.panes (some armed.reply)]
  | .logged _ (some reply) => ∃ earlier armed, armed.tabs = none ∧ armed.reply = reply ∧
      (before = earlier ++ [.armed armed] ∨ ∃ tabs, before = earlier ++ [.armed armed, .logged tabs (some reply)])
  | _ => True

def Ordered (history : List Happening) : Prop :=
  ∀ before happening after, history = before ++ happening :: after -> Grounded before happening

def Trail (history : List Happening) (query : InFlightQuery) : Prop :=
  ∃ earlier armed, armed.tabs = none ∧
    ((query = armed ∧ history = earlier ++ [.armed armed]) ∨
      ∃ tabs, query = { armed with tabs := some tabs } ∧
        history = earlier ++ [.armed armed, .logged tabs (some armed.reply)])

variable {history done : List Happening}

theorem ordered_nil : Ordered [] := by
  intro before happening after split
  simp at split

theorem Ordered.snoc (ordered : Ordered history) (happening : Happening) (grounded : Grounded history happening) :
    Ordered (history ++ [happening]) := by
  intro before last after split
  rcases List.eq_nil_or_concat after with rfl | ⟨rest, final, rfl⟩
  · obtain ⟨rfl, same⟩ := List.append_inj' split rfl
    obtain rfl : happening = last := by simpa using same
    exact grounded
  · have shorter : history ++ [happening] = (before ++ last :: rest) ++ [final] := by simpa using split
    obtain ⟨same, _⟩ := List.append_inj' shorter rfl
    exact ordered before last rest same

theorem Ordered.append (ordered : Ordered history)
    (grounded : ∀ happening ∈ done, ∀ before, Grounded before happening) : Ordered (history ++ done) := by
  induction done generalizing history with
  | nil => simpa using ordered
  | cons happening rest ih =>
    have first := ordered.snoc happening (grounded happening List.mem_cons_self history)
    simpa using ih first fun later member => grounded later (List.mem_cons_of_mem _ member)

theorem grounded_dropped (queries : List InFlightQuery) :
    ∀ happening ∈ queries.map Happening.dropped, ∀ before, Grounded before happening := by
  intro happening member before
  obtain ⟨query, _, rfl⟩ := List.mem_map.mp member
  trivial

theorem Holding.drop {query : InFlightQuery} (holding : Holding history (some query)) :
    Holding (history ++ [.dropped query]) none := by
  intro reply
  have before := holding reply
  simp only [Option.toList_some, among_cons, among_nil] at before
  simp [Happening.fate, before]
  omega

theorem Holding.arm (holding : Holding history none) (query : InFlightQuery) :
    Holding (history ++ [.armed query]) (some query) := by
  intro reply
  have before := holding reply
  simp only [Option.toList_none, among_nil] at before
  simp [Happening.fate, before]

theorem ordered_picked {queries : List InFlightQuery} {held : Option InFlightQuery} (ordered : Ordered history)
    (holding : Holding history held) : Ordered (history ++ picked held queries) := by
  induction queries generalizing history held with
  | nil => simpa [picked] using ordered
  | cons query rest ih =>
    have free : Ordered (history ++ held.toList.map .dropped) ∧ Holding (history ++ held.toList.map .dropped) none := by
      cases held with
      | none => simpa using And.intro ordered holding
      | some other => exact ⟨ordered.snoc (.dropped other) trivial, holding.drop⟩
    have later := ih (free.1.snoc (.armed query) free.2) (free.2.arm query)
    simpa [picked] using later

theorem grounded_exit (reader : Reader) :
    ∀ happening ∈ exitHappenings reader, ∀ before, Grounded before happening := by
  intro happening member before
  rcases List.mem_append.mp member with held | queued
  · exact grounded_dropped _ happening held before
  · obtain ⟨query, _, rfl⟩ := List.mem_map.mp queued
    trivial

theorem picked_trail {queries : List InFlightQuery} {held : Option InFlightQuery}
    (fresh : ∀ query ∈ queries, query.tabs = none) (trail : ∀ query ∈ held, Trail history query) :
    ∀ query ∈ queries.foldl (fun _ query => some query) held, Trail (history ++ picked held queries) query := by
  induction queries generalizing history held with
  | nil => simpa [picked] using trail
  | cons first rest ih =>
    have taken : ∀ query ∈ some first, Trail (history ++ held.toList.map .dropped ++ [.armed first]) query := by
      rintro query ⟨⟩
      exact ⟨_, first, fresh first List.mem_cons_self, .inl ⟨rfl, rfl⟩⟩
    have later := ih (fun query member => fresh query (List.mem_cons_of_mem _ member)) taken
    simpa [picked] using later

structure Orderly (history : List Happening) (reader : Reader) : Prop where
  ordered : Ordered history
  trail : ∀ query ∈ reader.inFlight, Trail history query
  fresh : ∀ query ∈ reader.queries, query.tabs = none
  fulfilled : reader.fulfilled = history.filterMap Happening.fulfilment
  empty : reader.pc = .returned -> reader.inFlight = none ∧ reader.queries = []

theorem fulfilments_dropped (queries : List InFlightQuery) :
    (queries.map Happening.dropped).filterMap Happening.fulfilment = [] := by
  simp [Happening.fulfilment]

theorem fulfilments_picked (queries : List InFlightQuery) (held : Option InFlightQuery) :
    (picked held queries).filterMap Happening.fulfilment = [] := by
  induction queries generalizing held with
  | nil => rfl
  | cons query rest ih =>
    rw [picked, List.filterMap_append, fulfilments_dropped]
    simpa [Happening.fulfilment] using ih (some query)

theorem fulfilments_exit (reader : Reader) : (exitHappenings reader).filterMap Happening.fulfilment = [] := by
  simp [exitHappenings, Happening.fulfilment]

variable {reader next : Reader}

theorem Orderly.exit (orderly : Orderly history reader) {left : Reader} (inFlight : left.inFlight = none)
    (queries : left.queries = []) (fulfilled : left.fulfilled = reader.fulfilled) :
    Orderly (history ++ exitHappenings reader) left where
  ordered := orderly.ordered.append (grounded_exit reader)
  trail := by simp [inFlight]
  fresh := by simp [queries]
  fulfilled := by rw [List.filterMap_append, fulfilments_exit, List.append_nil, fulfilled, orderly.fulfilled]
  empty := fun _ => ⟨inFlight, queries⟩

theorem Holding.retire (holding : Holding history reader.inFlight) :
    Holding (history ++ (reader.inFlight.toList.filter fun query => reader.isClosed query).map .dropped)
      reader.retired := by
  intro reply
  have before := holding reply
  have retired := retired_tally reply reader
  simp
  omega

theorem Orderly.drain (orderly : Orderly history reader) (holding : Holding history reader.inFlight) (pc : Pc)
    (running : pc ≠ .returned) :
    Orderly (history ++ drainHappenings reader) { reader.drainQueries with pc } where
  ordered := by
    rw [drainHappenings, ← List.append_assoc]
    exact ordered_picked (orderly.ordered.append (grounded_dropped _)) holding.retire
  trail := by
    have retired : ∀ query ∈ reader.retired,
        Trail (history ++ (reader.inFlight.toList.filter fun query => reader.isClosed query).map .dropped) query := by
      intro query member
      have held := orderly.trail query
      unfold Reader.retired at member
      cases slot : reader.inFlight with
      | none => simp [slot] at member
      | some other =>
        obtain ⟨rfl, unclosed⟩ : other = query ∧ reader.isClosed query = false := by
          simpa [slot, Option.filter_eq_some_iff] using member
        simpa [unclosed] using held slot
    rw [drainHappenings, ← List.append_assoc]
    exact picked_trail orderly.fresh retired
  fresh := by simp
  fulfilled := by
    rw [drainHappenings, List.filterMap_append, List.filterMap_append, fulfilments_dropped, fulfilments_picked]
    simpa [Reader.drainQueries] using orderly.fulfilled
  empty := fun gone => absurd gone running

theorem Orderly.capture (orderly : Orderly history reader) (json : String) :
    Orderly (history ++ captureHappenings reader json) { reader.captureQueryLog json with pc := .top } := by
  have untaken : Ordered (history ++ [.logged json none]) := orderly.ordered.snoc _ trivial
  unfold Reader.captureQueryLog captureHappenings
  cases slot : reader.inFlight with
  | none =>
    exact { ordered := untaken
            trail := by simp [slot]
            fresh := orderly.fresh
            fulfilled := by simpa [Happening.fulfilment, List.filterMap_cons] using orderly.fulfilled
            empty := by simp }
  | some query =>
    obtain ⟨earlier, armed, blank, here⟩ := orderly.trail query slot
    cases closed : reader.isClosed query with
    | true =>
      simp only [closed, if_true]
      exact { ordered := by simpa using untaken.snoc (.dropped query) trivial
              trail := by simp
              fresh := orderly.fresh
              fulfilled := by simpa [Happening.fulfilment, List.filterMap_cons] using orderly.fulfilled
              empty := by simp }
    | false =>
      simp only [closed, Bool.false_eq_true, if_false]
      rcases here with ⟨rfl, ending⟩ | ⟨tabs, rfl, ending⟩
      · simp only [blank]
        exact { ordered := orderly.ordered.snoc _ ⟨earlier, query, blank, rfl, .inl ending⟩
                trail := by
                  rintro filled ⟨⟩
                  exact ⟨earlier, query, blank, .inr ⟨json, rfl, by simp [ending]⟩⟩
                fresh := orderly.fresh
                fulfilled := by simpa [Happening.fulfilment, List.filterMap_cons] using orderly.fulfilled
                empty := by simp }
      · have second : Ordered (history ++ [.logged json (some armed.reply)]) :=
          orderly.ordered.snoc _ ⟨earlier, armed, blank, rfl, .inr ⟨tabs, ending⟩⟩
        exact { ordered := by
                  simpa using second.snoc (.answered { query := { armed with tabs := some tabs }, tabs, panes := json })
                    ⟨earlier, armed, blank, rfl, by simp [ending]⟩
                trail := by simp
                fresh := orderly.fresh
                fulfilled := by simp [Happening.fulfilment, List.filterMap_cons, orderly.fulfilled]
                empty := by simp }

theorem moves_orderly (orderly : Orderly history reader) (holding : Holding history reader.inFlight)
    (moves : Moves reader next done) : Orderly (history ++ done) next := by
  cases moves with
  | drains pc standing => exact orderly.drain holding pc (by rcases standing with ⟨_, rfl⟩ | ⟨_, _, rfl⟩ <;> simp)
  | captures json => exact orderly.capture json
  | finishes | stops | ends | breaks => exact orderly.exit rfl rfl rfl
  | frames msg standing frame last =>
    cases last with
    | false =>
      rw [if_neg Bool.false_ne_true, if_neg Bool.false_ne_true, List.append_nil]
      exact { orderly with empty := by simp }
    | true =>
      rw [if_pos rfl, if_pos rfl]
      exact { ordered := orderly.ordered.append (grounded_dropped _)
              trail := by simp
              fresh := orderly.fresh
              fulfilled := by
                rw [List.filterMap_append, fulfilments_dropped, List.append_nil]
                exact orderly.fulfilled
              empty := by simp }
  | passes running pc standing =>
    have inside : pc ≠ .returned := by rcases standing with ⟨_, rfl⟩ | ⟨_, _, rfl⟩ <;> simp
    rw [List.append_nil]
    exact { orderly with empty := fun gone => absurd gone inside }
  | receives | skips | forwards =>
    rw [List.append_nil]
    exact { orderly with empty := by simp }

end Order

section Runs

theorem orderly_initial (connectionId : String) :
    Orderly (initial connectionId).history (initial connectionId).reader where
  ordered := ordered_nil
  trail := by simp [initial, spawned]
  fresh := by simp [initial, spawned]
  fulfilled := rfl
  empty := by simp [initial, spawned]

theorem orderly_step (watched : Watched) (event : Event) (next : Watched)
    (invariant : Accounted watched ∧ Orderly watched.history watched.reader) (taken : step watched event = some next) :
    Accounted next ∧ Orderly next.history next.reader := by
  obtain ⟨accounted, orderly⟩ := invariant
  refine ⟨accounted_step watched event next accounted taken, ?_⟩
  by_cases outside : event = .reader
  · subst outside
    obtain ⟨reader, thread, rfl⟩ := step_reader.mp taken
    exact moves_orderly orderly accounted.armed (step_moves thread)
  · have outside := step_outside outside taken
    constructor
    · rw [outside.history]
      exact orderly.ordered
    · rw [outside.history, outside.inFlight]
      exact orderly.trail
    · intro query member
      rcases outside.queries with ⟨same, _⟩ | ⟨added, more, _, blank, _, _⟩
      · exact orderly.fresh query (same ▸ member)
      · rw [more] at member
        rcases List.mem_append.mp member with waiting | new
        · exact orderly.fresh query waiting
        · rwa [List.mem_singleton.mp new]
    · rw [outside.fulfilled, outside.history]
      exact orderly.fulfilled
    · rw [outside.pc, outside.inFlight]
      intro gone
      rcases outside.queries with ⟨same, _⟩ | ⟨_, _, _, _, _, running⟩
      · rw [same]
        exact orderly.empty gone
      · exact absurd gone running

def settled (reply : Nat) (history : List Happening) : Nat :=
  tally .answered reply history + tally .dropped reply history + tally .discarded reply history

def Untaken (reader : Reader) : Prop :=
  ∀ json, reader.pc = .matching (.log json) -> (∀ query ∈ reader.inFlight, reader.isClosed query = true) ->
    ∃ next, (∀ other, { reader with pc := .matching (.log other) }.step = some next) ∧ next.inFlight = none ∧
      next.fulfilled = reader.fulfilled

structure Linear (watched : Watched) : Prop where
  once : ∀ reply, settled reply watched.history ≤ 1
  -- A reply handed off is settled, in the slot or in the channel.
  placed : ∀ reply, watched.handedOff.count reply = settled reply watched.history +
    among reply watched.reader.inFlight.toList + among reply watched.reader.queries
  returned : watched.reader.pc = .returned -> watched.reader.inFlight = none ∧
    ∀ reply ∈ watched.handedOff, settled reply watched.history = 1
  fulfilled : watched.reader.fulfilled = watched.history.filterMap Happening.fulfilment
  ordered : Ordered watched.history
  untaken : Untaken watched.reader

theorem untaken_log (reader : Reader) : Untaken reader := by
  intro json standing unwanted
  refine ⟨{ reader with pc := .top, inFlight := none }, fun other => ?_, rfl, rfl⟩
  rcases captureQueryLog_cases { reader with pc := .matching (.log other) } other with
    ⟨slot, captured⟩ | ⟨query, slot, ⟨_, captured⟩ | ⟨unclosed, _⟩ | ⟨unclosed, _⟩⟩
  · simp only [Reader.step, captured]
    rw [← slot]
  · simp only [Reader.step, captured]
  · exact absurd (unwanted query slot) (by simpa [Reader.isClosed] using unclosed)
  · exact absurd (unwanted query slot) (by simpa [Reader.isClosed] using unclosed)

/-- Over every run of the thread, whatever the backend sends, whenever queries are handed off and their
receivers dropped: replies are sent at most once, and made of the first two logs after the pick-up. -/
theorem reply_linearity {connectionId : String} {events : List Event} {watched : Watched}
    (ran : Transition.run step (initial connectionId) events = some watched) : Linear watched := by
  obtain ⟨accounted, orderly⟩ := Transition.invariant_of_run orderly_step
    ⟨accounted_initial connectionId, orderly_initial connectionId⟩ ran
  have placed (reply : Nat) : watched.handedOff.count reply = settled reply watched.history +
      among reply watched.reader.inFlight.toList + among reply watched.reader.queries := by
    have handed := accounted.handed reply
    have armed := accounted.armed reply
    unfold settled
    omega
  constructor
  · intro reply
    have single := List.nodup_iff_count_le_one.mp accounted.nodup reply
    have total := placed reply
    omega
  · exact placed
  · intro gone
    obtain ⟨slot, channel⟩ := orderly.empty gone
    refine ⟨slot, fun reply handedOff => ?_⟩
    have single := List.nodup_iff_count_le_one.mp accounted.nodup reply
    have present := List.count_pos_iff.mpr handedOff
    have total := placed reply
    simp only [slot, channel, Option.toList_none, among_nil] at total
    omega
  · exact orderly.fulfilled
  · exact orderly.ordered
  · exact untaken_log watched.reader

def soleQuery : InFlightQuery := { seq := 0, reply := 7, tabs := none }

def soleQueryRun : List Event :=
  [.handOff soleQuery, .message (.log "tabs"), .message (.log "panes")] ++ List.replicate 12 .reader

theorem reply_linearity_soleQuery :
    ∃ watched, Transition.run step (initial "c") soleQueryRun = some watched ∧ Linear watched ∧
      watched.reader.fulfilled = [{ query := { soleQuery with tabs := some "tabs" }, tabs := "tabs", panes := "panes" }] :=
  ⟨_, rfl, reply_linearity (rfl : Transition.run step (initial "c") soleQueryRun = some _), rfl⟩

end Runs

end Muxrd.Watch
