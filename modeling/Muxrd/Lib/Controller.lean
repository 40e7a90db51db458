import Mathlib.Data.List.Induction

set_option autoImplicit false

/-! Runs of a controller that answers every event with a new state and the actions to be carried out. -/

namespace Controller

variable {State Event Action : Type}

section Runs

variable (update : State -> Event -> State × List Action)

def after (state : State) (events : List Event) : State :=
  events.foldl (fun state event => (update state event).1) state

def emitted : State -> List Event -> List Action
  | _, [] => []
  | state, event :: rest => (update state event).2 ++ emitted (update state event).1 rest

end Runs

variable {update : State -> Event -> State × List Action}

@[simp] theorem after_nil (state : State) : after update state [] = state := rfl

@[simp] theorem emitted_nil (state : State) : emitted update state [] = [] := rfl

@[simp] theorem after_snoc (state : State) (events : List Event) (event : Event) :
    after update state (events ++ [event]) = (update (after update state events) event).1 := by
  simp [after]

theorem emitted_append (state : State) (first second : List Event) :
    emitted update state (first ++ second) =
      emitted update state first ++ emitted update (after update state first) second := by
  induction first generalizing state with
  | nil => simp
  | cons event rest ih => simp [emitted, ih, after]

@[simp] theorem emitted_snoc (state : State) (events : List Event) (event : Event) :
    emitted update state (events ++ [event]) =
      emitted update state events ++ (update (after update state events) event).2 := by
  simp [emitted_append, emitted]

/-- A condition that tells for every single event whether the invariant survives it tells the same for runs. -/
theorem forall_reached_iff {invariant : State -> Prop} {spares : State -> Event -> Prop} {initial : State}
    (start : invariant initial)
    (tells : ∀ state event, invariant state -> (invariant (update state event).1 ↔ spares state event))
    (events : List Event) :
    (∀ reached, reached <+: events -> invariant (after update initial reached)) ↔
      ∀ before event, before ++ [event] <+: events -> spares (after update initial before) event := by
  constructor
  · intro always before event within
    have earlier := always before ((List.prefix_append before [event]).trans within)
    apply (tells _ event earlier).mp
    rw [← after_snoc]
    exact always _ within
  · intro spared reached within
    induction reached using List.reverseRecOn with
    | nil => exact start
    | append_singleton before event ih =>
      rw [after_snoc]
      have earlier := ih ((List.prefix_append before [event]).trans within)
      exact (tells _ event earlier).mpr (spared before event within)

theorem forall_prefix_iff {events : List Event} {holds : List Event -> Event -> Prop} :
    (∀ before event, before ++ [event] <+: events -> holds before event) ↔
      ∀ i : Fin events.length, holds (events.take i) events[i] := by
  constructor
  · intro always i
    apply always
    simpa using List.take_prefix (i + 1) events
  · intro always before event within
    obtain ⟨rest, rfl⟩ := within
    simpa using always ⟨before.length, by simp⟩

end Controller
