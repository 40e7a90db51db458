import Mathlib.Data.List.Basic

set_option autoImplicit false

namespace Framing

variable {Byte : Type}

structure Sink (Byte : Type) where
  accepted : List Byte
  torn : Bool
  deriving DecidableEq

namespace Sink

def empty : Sink Byte :=
  { accepted := [], torn := false }

def write (sink : Sink Byte) (frame : List Byte) (count : Nat) : Bool × Sink Byte :=
  (decide (frame.length ≤ count),
    { accepted := sink.accepted ++ frame.take count
      torn := sink.torn || decide (0 < count ∧ count < frame.length) })

end Sink

def Framed (isFrame : List Byte -> Prop) (bytes : List Byte) : Prop :=
  ∃ frames : List (List Byte), (∀ frame ∈ frames, isFrame frame) ∧ bytes <+: frames.flatten

def Whole (isFrame : List Byte -> Prop) (bytes : List Byte) : Prop :=
  ∃ frames : List (List Byte), (∀ frame ∈ frames, isFrame frame) ∧ bytes = frames.flatten

/-- No frame is a prefix of another one, whatever follows. -/
def PrefixFree (isFrame : List Byte -> Prop) : Prop :=
  ∀ first second, isFrame first -> isFrame second ->
    ∀ afterFirst afterSecond, first ++ afterFirst = second ++ afterSecond -> first = second

structure Aligned (isFrame : List Byte -> Prop) (sink : Sink Byte) : Prop where
  framed : Framed isFrame sink.accepted
  whole : sink.torn = false -> Whole isFrame sink.accepted

section

variable {isFrame : List Byte -> Prop}

theorem Whole.framed {bytes : List Byte} (whole : Whole isFrame bytes) : Framed isFrame bytes := by
  obtain ⟨frames, correct, rfl⟩ := whole
  exact ⟨frames, correct, List.prefix_rfl⟩

theorem Whole.append {bytes frame : List Byte} (whole : Whole isFrame bytes) (correct : isFrame frame) :
    Whole isFrame (bytes ++ frame) := by
  obtain ⟨frames, before, rfl⟩ := whole
  refine ⟨frames ++ [frame], ?_, by simp⟩
  intro other member
  rcases List.mem_append.mp member with old | new
  · exact before other old
  · rwa [List.mem_singleton.mp new]

theorem Whole.append_part {bytes frame part : List Byte} (whole : Whole isFrame bytes)
    (correct : isFrame frame) (prior : part <+: frame) : Framed isFrame (bytes ++ part) := by
  obtain ⟨frames, all, flattens⟩ := whole.append correct
  refine ⟨frames, all, ?_⟩
  rw [← flattens]
  exact (List.prefix_append_right_inj bytes).mpr prior

theorem aligned_empty : Aligned isFrame (Sink.empty : Sink Byte) := by
  have whole : Whole isFrame ([] : List Byte) := ⟨[], by simp, rfl⟩
  exact { framed := whole.framed, whole := fun _ => whole }

theorem write_aligned {sink : Sink Byte} {frame : List Byte} {count : Nat}
    (aligned : Aligned isFrame sink)
    (correct : isFrame frame) (quiet : sink.torn = true -> count = 0) :
    Aligned isFrame (sink.write frame count).2 := by
  cases torn : sink.torn with
  | true =>
    have zero : count = 0 := quiet torn
    subst zero
    exact { framed := by simpa [Sink.write] using aligned.framed
            whole := by simp [Sink.write, torn] }
  | false =>
    have whole := aligned.whole torn
    constructor
    · exact whole.append_part correct (List.take_prefix count frame)
    · intro untorn
      by_cases nothing : count = 0
      · simpa [Sink.write, nothing] using whole
      · have all : frame.length ≤ count := by
          simp only [Sink.write, torn, Bool.false_or, decide_eq_false_iff_not] at untorn
          omega
        simpa [Sink.write, List.take_of_length_le all] using whole.append correct

theorem prefixFree_of_header {header : Nat -> List Byte} {width limit : Nat}
    (fixed : ∀ length, (header length).length = width)
    (injective : ∀ first second, first ≤ limit -> second ≤ limit -> header first = header second ->
      first = second)
    (shape : ∀ frame, isFrame frame -> ∃ payload : List Byte, payload.length ≤ limit ∧
      frame = header payload.length ++ payload) : PrefixFree isFrame := by
  intro first second firstFrame secondFrame afterFirst afterSecond same
  obtain ⟨left, leftFits, rfl⟩ := shape first firstFrame
  obtain ⟨right, rightFits, rfl⟩ := shape second secondFrame
  simp only [List.append_assoc] at same
  have widths : (header left.length).length = (header right.length).length := by
    rw [fixed, fixed]
  have headers := List.append_inj_left same widths
  have lengths := injective _ _ leftFits rightFits headers
  have payloads : left = right := List.append_inj_left (List.append_inj_right same widths) lengths
  rw [payloads]

theorem Framed.drop_frame (prefixFree : PrefixFree isFrame) {frame bytes : List Byte}
    (correct : isFrame frame) (framed : Framed isFrame (frame ++ bytes)) : Framed isFrame bytes := by
  obtain ⟨frames, all, after, split⟩ := framed
  cases frames with
  | nil =>
    obtain ⟨_, rfl, _⟩ : frame = [] ∧ bytes = [] ∧ after = [] := by simpa using split
    exact ⟨[], by simp, List.prefix_rfl⟩
  | cons first rest =>
    have correctFirst : isFrame first := all first List.mem_cons_self
    have joined : frame ++ (bytes ++ after) = first ++ rest.flatten := by simpa using split
    obtain rfl := prefixFree frame first correct correctFirst _ _ joined
    exact ⟨rest, fun other member => all other (List.mem_cons_of_mem _ member), after,
      List.append_cancel_left joined⟩

theorem flatten_injective (prefixFree : PrefixFree isFrame) (nonempty : ¬ isFrame []) {first second : List (List Byte)}
    (firstFrames : ∀ frame ∈ first, isFrame frame) (secondFrames : ∀ frame ∈ second, isFrame frame)
    (same : first.flatten = second.flatten) : first = second := by
  have filled {frame : List Byte} (correct : isFrame frame) : frame ≠ [] := by
    intro empty
    exact nonempty (empty ▸ correct)
  induction first generalizing second with
  | nil =>
    cases second with
    | nil => rfl
    | cons frame rest =>
      have empty : frame = [] := by
        have both : frame = [] ∧ rest.flatten = [] := by simpa using same.symm
        exact both.1
      exact absurd empty (filled (secondFrames frame List.mem_cons_self))
  | cons head tail ih =>
    cases second with
    | nil =>
      have empty : head = [] := by
        have both : head = [] ∧ tail.flatten = [] := by simpa using same
        exact both.1
      exact absurd empty (filled (firstFrames head List.mem_cons_self))
    | cons frame rest =>
      simp only [List.flatten_cons] at same
      have heads := prefixFree head frame (firstFrames head List.mem_cons_self)
        (secondFrames frame List.mem_cons_self) _ _ same
      subst heads
      have tails := ih (fun other member => firstFrames other (List.mem_cons_of_mem _ member))
        (fun other member => secondFrames other (List.mem_cons_of_mem _ member)) (List.append_cancel_left same)
      rw [tails]

end

end Framing
