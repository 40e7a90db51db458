import Mathlib.Data.List.Basic

set_option autoImplicit false

namespace Transition

variable {State Event : Type}

/-- The run of a partial transition function: `none` as soon as an event is not enabled. -/
def run (step : State -> Event -> Option State) : State -> List Event -> Option State
  | state, [] => some state
  | state, event :: rest => (step state event).bind fun next => run step next rest

def Reachable (step : State -> Event -> Option State) (initial state : State) : Prop :=
  ∃ events, run step initial events = some state

def Meets (step : State -> Event -> Option State) (condition : State -> Event -> Prop) :
    State -> List Event -> Prop
  | _, [] => True
  | state, event :: rest =>
    condition state event ∧ ∀ next, step state event = some next -> Meets step condition next rest

theorem meets_cons_some {step : State -> Event -> Option State} {condition : State -> Event -> Prop}
    {state next : State} {event : Event} {rest : List Event} (taken : step state event = some next) :
    Meets step condition state (event :: rest) ↔ condition state event ∧ Meets step condition next rest := by
  simp [Meets, taken]

theorem meets_cons_none {step : State -> Event -> Option State} {condition : State -> Event -> Prop}
    {state : State} {event : Event} {rest : List Event} (refused : step state event = none) :
    Meets step condition state (event :: rest) ↔ condition state event := by
  simp [Meets, refused]

instance decidableMeets (step : State -> Event -> Option State) (condition : State -> Event -> Prop)
    [∀ state event, Decidable (condition state event)] :
    (state : State) -> (events : List Event) -> Decidable (Meets step condition state events)
  | _, [] => .isTrue trivial
  | state, event :: rest =>
    match taken : step state event with
    | some next =>
      have := decidableMeets step condition next rest
      decidable_of_iff _ (meets_cons_some taken).symm
    | none => decidable_of_iff _ (meets_cons_none taken).symm

/-- Every state the run passes through satisfies the predicate, the first and the last one included. -/
def Throughout (step : State -> Event -> Option State) (invariant : State -> Prop) : State -> List Event -> Prop
  | state, [] => invariant state
  | state, event :: rest =>
    invariant state ∧ ∀ next, step state event = some next -> Throughout step invariant next rest

def Occurs (step : State -> Event -> Option State) (does : State -> Event -> State -> Prop) :
    State -> List Event -> Prop
  | _, [] => False
  | state, event :: rest =>
    ∃ next, step state event = some next ∧ (does state event next ∨ Occurs step does next rest)

/-- What is left of a run when every event is replaced, or dropped, in the state it is taken in. -/
def project (step : State -> Event -> Option State) (image : State -> Event -> Option Event) :
    State -> List Event -> List Event
  | _, [] => []
  | state, event :: rest =>
    let later := match step state event with
      | some next => project step image next rest
      | none => []
    match image state event with
    | some replacement => replacement :: later
    | none => later

def outputs {Output : Type} (step : State -> Event -> Option State) (output : State -> Event -> List Output) :
    State -> List Event -> List Output
  | _, [] => []
  | state, event :: rest =>
    output state event ++ match step state event with
      | some next => outputs step output next rest
      | none => []

section Rules

variable {step : State -> Event -> Option State}

@[simp] theorem run_nil (state : State) : run step state [] = some state := rfl

theorem run_cons {state final : State} {event : Event} {rest : List Event} :
    run step state (event :: rest) = some final ↔
      ∃ next, step state event = some next ∧ run step next rest = some final := by
  simp [run, Option.bind_eq_some_iff]

theorem run_append (state : State) (first second : List Event) :
    run step state (first ++ second) = (run step state first).bind fun next => run step next second := by
  induction first generalizing state with
  | nil => simp
  | cons event rest ih =>
    cases taken : step state event with
    | none => simp [run, taken]
    | some next => simp [run, taken, ih]

theorem run_trans {state middle final : State} {first second : List Event}
    (before : run step state first = some middle) (after : run step middle second = some final) :
    run step state (first ++ second) = some final := by
  rw [run_append, before]
  exact after

theorem Reachable.trans {initial middle final : State} (before : Reachable step initial middle)
    (after : Reachable step middle final) : Reachable step initial final := by
  obtain ⟨first, before⟩ := before
  obtain ⟨second, after⟩ := after
  exact ⟨first ++ second, run_trans before after⟩

/-- An invariant that the steps meeting a condition preserve holds after every run that meets it. -/
theorem invariant_of_meets {condition : State -> Event -> Prop} {invariant : State -> Prop}
    (preserved : ∀ state event next, invariant state -> condition state event ->
      step state event = some next -> invariant next)
    {state final : State} {events : List Event} (initial : invariant state)
    (meets : Meets step condition state events) (ran : run step state events = some final) :
    invariant final := by
  induction events generalizing state with
  | nil =>
    obtain rfl : state = final := by simpa using ran
    exact initial
  | cons event rest ih =>
    obtain ⟨next, taken, ran⟩ := run_cons.mp ran
    exact ih (preserved state event next initial meets.1 taken) (meets.2 next taken) ran

theorem Throughout.initial {invariant : State -> Prop} {state : State} {events : List Event}
    (throughout : Throughout step invariant state events) : invariant state := by
  cases events with
  | nil => exact throughout
  | cons event rest => exact throughout.1

theorem Throughout.final {invariant : State -> Prop} {state final : State} {events : List Event}
    (throughout : Throughout step invariant state events) (ran : run step state events = some final) :
    invariant final := by
  induction events generalizing state with
  | nil =>
    obtain rfl : state = final := by simpa using ran
    exact throughout
  | cons event rest ih =>
    obtain ⟨next, taken, ran⟩ := run_cons.mp ran
    exact ih (throughout.2 next taken) ran

theorem throughout_of_meets {condition : State -> Event -> Prop} {invariant weaker : State -> Prop}
    (preserved : ∀ state event next, invariant state -> condition state event ->
      step state event = some next -> invariant next)
    (enough : ∀ state, invariant state -> weaker state) {state : State} {events : List Event}
    (initial : invariant state) (meets : Meets step condition state events) :
    Throughout step weaker state events := by
  induction events generalizing state with
  | nil => exact enough state initial
  | cons event rest ih =>
    constructor
    · exact enough state initial
    · intro next taken
      exact ih (preserved state event next initial meets.1 taken) (meets.2 next taken)

theorem throughout_iff_meets {condition : State -> Event -> Prop} {invariant : State -> Prop}
    (tells : ∀ state event next, invariant state -> step state event = some next ->
      (invariant next ↔ condition state event))
    {state final : State} {events : List Event} (initial : invariant state)
    (ran : run step state events = some final) :
    Throughout step invariant state events ↔ Meets step condition state events := by
  induction events generalizing state with
  | nil => exact iff_of_true initial trivial
  | cons event rest ih =>
    obtain ⟨next, taken, ran⟩ := run_cons.mp ran
    rw [meets_cons_some taken, ← tells state event next initial taken]
    constructor
    · intro throughout
      have later := throughout.2 next taken
      exact ⟨later.initial, (ih later.initial ran).mp later⟩
    · rintro ⟨survives, meets⟩
      refine ⟨initial, fun other same => ?_⟩
      rw [taken] at same
      rw [← Option.some.inj same]
      exact (ih survives ran).mpr meets

theorem Meets.implied {condition implied : State -> Event -> Prop} {invariant : State -> Prop}
    (preserved : ∀ state event next, invariant state -> condition state event ->
      step state event = some next -> invariant next)
    (enough : ∀ state event, invariant state -> condition state event -> implied state event)
    {state : State} {events : List Event} (initial : invariant state)
    (meets : Meets step condition state events) : Meets step implied state events := by
  induction events generalizing state with
  | nil => trivial
  | cons event rest ih =>
    constructor
    · exact enough state event initial meets.1
    · intro next taken
      exact ih (preserved state event next initial meets.1 taken) (meets.2 next taken)

theorem Meets.before {condition : State -> Event -> Prop} {state : State} {first rest : List Event}
    (meets : Meets step condition state (first ++ rest)) : Meets step condition state first := by
  induction first generalizing state with
  | nil => trivial
  | cons event later ih => exact ⟨meets.1, fun next taken => ih (meets.2 next taken)⟩

theorem Meets.after {condition : State -> Event -> Prop} {state middle : State} {first rest : List Event}
    (meets : Meets step condition state (first ++ rest)) (ran : run step state first = some middle) :
    Meets step condition middle rest := by
  induction first generalizing state with
  | nil =>
    obtain rfl : state = middle := by simpa using ran
    exact meets
  | cons event later ih =>
    obtain ⟨next, taken, ran⟩ := run_cons.mp ran
    exact ih (meets.2 next taken) ran

theorem meets_of_forall {condition : State -> Event -> Prop} {events : List Event}
    (always : ∀ event ∈ events, ∀ state, condition state event) (state : State) :
    Meets step condition state events := by
  induction events generalizing state with
  | nil => trivial
  | cons event rest ih =>
    constructor
    · exact always event List.mem_cons_self state
    · intro next _
      apply ih
      exact fun later member => always later (List.mem_cons_of_mem event member)

theorem Meets.and_forall {condition : State -> Event -> Prop} {extra : Event -> Prop} {state : State}
    {events : List Event} (meets : Meets step condition state events) (always : ∀ event ∈ events, extra event) :
    Meets step (fun state event => condition state event ∧ extra event) state events := by
  induction events generalizing state with
  | nil => trivial
  | cons event rest ih =>
    constructor
    · exact ⟨meets.1, always event List.mem_cons_self⟩
    · intro next taken
      apply ih (meets.2 next taken)
      exact fun later member => always later (List.mem_cons_of_mem event member)

theorem invariant_of_run {invariant : State -> Prop}
    (preserved : ∀ state event next, invariant state -> step state event = some next -> invariant next)
    {state final : State} {events : List Event} (initial : invariant state)
    (ran : run step state events = some final) : invariant final :=
  invariant_of_meets (fun state event next holds _ => preserved state event next holds) initial
    (meets_of_forall (fun _ _ _ => trivial) state) ran

theorem taken_of_mem {invariant : State -> Prop}
    (preserved : ∀ state event next, invariant state -> step state event = some next -> invariant next)
    {state final : State} {events : List Event} (initial : invariant state)
    (ran : run step state events = some final) {event : Event} (member : event ∈ events) :
    ∃ taken next, invariant taken ∧ step taken event = some next := by
  induction events generalizing state with
  | nil => cases member
  | cons first rest ih =>
    obtain ⟨next, taken, ran⟩ := run_cons.mp ran
    rcases List.mem_cons.mp member with rfl | member
    · exact ⟨state, next, initial, taken⟩
    · exact ih (preserved state first next initial taken) ran member

theorem run_collects {Output : Type} {invariant : State -> Prop} {log : State -> List Output}
    {emits : Event -> List Output}
    (preserved : ∀ state event next, invariant state -> step state event = some next -> invariant next)
    (adds : ∀ state event next, invariant state -> step state event = some next ->
      log next = log state ++ emits event)
    {state final : State} {events : List Event} (initial : invariant state)
    (ran : run step state events = some final) : log final = log state ++ events.flatMap emits := by
  induction events generalizing state with
  | nil =>
    obtain rfl : state = final := by simpa using ran
    simp
  | cons event rest ih =>
    obtain ⟨next, taken, ran⟩ := run_cons.mp ran
    have later := ih (preserved state event next initial taken) ran
    rw [later, adds state event next initial taken, List.flatMap_cons, List.append_assoc]

theorem outputs_cons {Output : Type} {output : State -> Event -> List Output} {state next : State} {event : Event}
    {rest : List Event} (taken : step state event = some next) :
    outputs step output state (event :: rest) = output state event ++ outputs step output next rest := by
  simp [outputs, taken]

theorem invariant_of_outputs {Output : Type} {output : State -> Event -> List Output}
    {invariant : List Output -> State -> Prop}
    (preserved : ∀ earlier state event next, invariant earlier state -> step state event = some next ->
      invariant (earlier ++ output state event) next)
    {earlier : List Output} {state final : State} {events : List Event} (initial : invariant earlier state)
    (ran : run step state events = some final) : invariant (earlier ++ outputs step output state events) final := by
  induction events generalizing earlier state with
  | nil =>
    obtain rfl : state = final := by simpa using ran
    simpa [outputs] using initial
  | cons event rest ih =>
    obtain ⟨next, taken, ran⟩ := run_cons.mp ran
    rw [outputs_cons taken, ← List.append_assoc]
    exact ih (preserved earlier state event next initial taken) ran

theorem invariant_of_reachable {invariant : State -> Prop}
    (preserved : ∀ state event next, invariant state -> step state event = some next -> invariant next)
    {state final : State} (initial : invariant state) (reached : Reachable step state final) :
    invariant final := by
  obtain ⟨events, ran⟩ := reached
  exact invariant_of_run preserved initial ran

theorem mem_project {image : State -> Event -> Option Event} {state : State} {events : List Event}
    {event : Event}
    (member : event ∈ project step image state events) :
    ∃ taken original, image taken original = some event := by
  induction events generalizing state with
  | nil => simp [project] at member
  | cons first rest ih =>
    have later (member : event ∈ match step state first with
        | some next => project step image next rest
        | none => []) : ∃ taken original, image taken original = some event := by
      split at member
      · exact ih member
      · simp at member
    simp only [project] at member
    split at member
    next replacement replaced =>
      rcases List.mem_cons.mp member with rfl | member
      · exact ⟨state, first, replaced⟩
      · exact later member
    · exact later member

/-- Stuttering simulation: when every step is matched by a run that shows the same, whole runs are. -/
theorem run_matched {Other OtherEvent Seen : Type} {other : Other -> OtherEvent -> Option Other}
    {relation : State -> Other -> Prop} {seen : Event -> Option Seen} {otherSeen : OtherEvent -> Option Seen}
    (matched : ∀ state shadow event next, relation state shadow -> step state event = some next ->
      ∃ events shadowNext, run other shadow events = some shadowNext ∧ relation next shadowNext ∧
        events.filterMap otherSeen = (seen event).toList)
    {state final : State} {shadow : Other} {events : List Event} (related : relation state shadow)
    (ran : run step state events = some final) :
    ∃ others shadowFinal, run other shadow others = some shadowFinal ∧ relation final shadowFinal ∧
      others.filterMap otherSeen = events.filterMap seen := by
  induction events generalizing state shadow with
  | nil =>
    obtain rfl : state = final := by simpa using ran
    exact ⟨[], shadow, rfl, related, rfl⟩
  | cons event rest ih =>
    obtain ⟨next, taken, ran⟩ := run_cons.mp ran
    obtain ⟨first, middle, before, relatedNext, shown⟩ := matched state shadow event next related taken
    obtain ⟨later, shadowFinal, after, ends, shownLater⟩ := ih relatedNext ran
    refine ⟨first ++ later, shadowFinal, run_trans before after, ends, ?_⟩
    rw [List.filterMap_append, shown, shownLater]
    cases visible : seen event <;> simp [visible]

/-- Unwinding: when the image of every event keeps the two runs related, and a dropped event keeps
them related by itself, the projected run exists and ends in a related state. -/
theorem run_project {image : State -> Event -> Option Event} {relation : State -> State -> Prop}
    (kept : ∀ state shadow event next replacement, relation state shadow ->
      step state event = some next -> image state event = some replacement ->
      ∃ shadowNext, step shadow replacement = some shadowNext ∧ relation next shadowNext)
    (dropped : ∀ state shadow event next, relation state shadow ->
      step state event = some next -> image state event = none -> relation next shadow)
    {state shadow final : State} {events : List Event} (related : relation state shadow)
    (ran : run step state events = some final) :
    ∃ shadowFinal, run step shadow (project step image state events) = some shadowFinal ∧
      relation final shadowFinal := by
  induction events generalizing state shadow with
  | nil =>
    obtain rfl : state = final := by simpa using ran
    exact ⟨shadow, rfl, related⟩
  | cons event rest ih =>
    obtain ⟨next, taken, ran⟩ := run_cons.mp ran
    cases replaced : image state event with
    | none =>
      obtain ⟨shadowFinal, shadowRan, ends⟩ := ih (dropped _ _ _ _ related taken replaced) ran
      exact ⟨shadowFinal, by simpa [project, taken, replaced] using shadowRan, ends⟩
    | some replacement =>
      obtain ⟨shadowNext, shadowTaken, relatedNext⟩ := kept _ _ _ _ _ related taken replaced
      obtain ⟨shadowFinal, shadowRan, ends⟩ := ih relatedNext ran
      exact ⟨shadowFinal, by simpa [project, taken, replaced, run, shadowTaken] using shadowRan, ends⟩

end Rules

end Transition
