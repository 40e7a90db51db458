import Mathlib.Data.List.Basic

set_option autoImplicit false

namespace Transport

variable {Byte Fault : Type}

/-- What a blocking stream has to give, read by read. Its end is the end of the list. -/
inductive Arrival (Byte Fault : Type)
  | bytes (chunk : List Byte) (nonempty : chunk ≠ [])
  | interrupted
  | failed (fault : Fault)

inductive Stop (Fault : Type)
  | endOfStream
  | failed (fault : Fault)
  deriving DecidableEq, Repr

def content : List (Arrival Byte Fault) -> List Byte
  | [] => []
  | .bytes chunk _ :: rest => chunk ++ content rest
  | .interrupted :: rest => content rest
  | .failed _ :: _ => []

def Calm : List (Arrival Byte Fault) -> Prop
  | [] => True
  | .bytes _ _ :: rest => Calm rest
  | .interrupted :: rest => Calm rest
  | .failed _ :: _ => False

/-- Reads until the buffer of `count` bytes is full. A read brings at most what there is room for and leaves the
rest of its chunk to the next one; an interrupted read is made again. -/
def readExact : Nat -> List (Arrival Byte Fault) -> Except (Stop Fault) (List Byte) × List (Arrival Byte Fault)
  | 0, arrivals => (.ok [], arrivals)
  | _ + 1, [] => (.error .endOfStream, [])
  | count + 1, .interrupted :: rest => readExact (count + 1) rest
  | _ + 1, .failed fault :: rest => (.error (.failed fault), rest)
  | count + 1, .bytes chunk _ :: rest =>
    if more : chunk.drop (count + 1) ≠ [] then
      (.ok (chunk.take (count + 1)), .bytes (chunk.drop (count + 1)) more :: rest)
    else
      let (result, left) := readExact (count + 1 - chunk.length) rest
      (result.map (chunk ++ ·), left)

theorem readExact_enough {count : Nat} {arrivals : List (Arrival Byte Fault)}
    (enough : count ≤ (content arrivals).length) :
    ∃ left, readExact count arrivals = (.ok ((content arrivals).take count), left) ∧
      content left = (content arrivals).drop count ∧ (Calm arrivals -> Calm left) := by
  induction arrivals generalizing count with
  | nil =>
    obtain rfl : count = 0 := by simpa [content] using enough
    exact ⟨[], rfl, rfl, id⟩
  | cons arrival rest ih =>
    cases count with
    | zero => exact ⟨arrival :: rest, by simp [readExact], by simp, id⟩
    | succ count =>
      cases arrival with
      | failed fault => simp [content] at enough
      | interrupted => exact ih enough
      | bytes chunk nonempty =>
        simp only [content, List.length_append] at enough
        by_cases more : chunk.drop (count + 1) ≠ []
        · have room : count + 1 < chunk.length := by simpa using more
          refine ⟨.bytes (chunk.drop (count + 1)) more :: rest, ?_, ?_, id⟩
          · simp [readExact, room, content, List.take_append_of_le_length (Nat.le_of_lt room)]
          · simp [content, List.drop_append_of_le_length (Nat.le_of_lt room)]
        · have full : chunk.length ≤ count + 1 := by simpa using more
          have remaining : count + 1 - chunk.length ≤ (content rest).length := by omega
          have tail := ih remaining
          rcases tail with ⟨left, read, after, calm⟩
          refine ⟨left, ?_, ?_, calm⟩
          · simp [readExact, more, read, content, Except.map, List.take_append, List.take_of_length_le full]
          · rw [after]
            simp [content, List.drop_append, List.drop_of_length_le full]

theorem readExact_short {count : Nat} {arrivals : List (Arrival Byte Fault)}
    (short : (content arrivals).length < count) :
    ∃ stop left, readExact count arrivals = (.error stop, left) ∧
      (Calm arrivals -> stop = .endOfStream ∧ left = []) := by
  induction arrivals generalizing count with
  | nil =>
    cases count with
    | zero => simp at short
    | succ count => exact ⟨.endOfStream, [], rfl, fun _ => ⟨rfl, rfl⟩⟩
  | cons arrival rest ih =>
    cases count with
    | zero => simp at short
    | succ count =>
      cases arrival with
      | failed fault => exact ⟨.failed fault, rest, rfl, False.elim⟩
      | interrupted => exact ih short
      | bytes chunk nonempty =>
        simp only [content, List.length_append] at short
        have remaining : (content rest).length < count + 1 - chunk.length := by omega
        have full : ¬ chunk.drop (count + 1) ≠ [] := by
          simp only [ne_eq, not_not, List.drop_eq_nil_iff]
          omega
        rcases ih remaining with ⟨stop, left, read, calm⟩
        refine ⟨stop, left, ?_, calm⟩
        simp [readExact, full, read, Except.map]

theorem content_of_readExact {count : Nat} {arrivals left : List (Arrival Byte Fault)} {bytes : List Byte}
    (read : readExact count arrivals = (.ok bytes, left)) :
    bytes.length = count ∧ content arrivals = bytes ++ content left := by
  by_cases enough : count ≤ (content arrivals).length
  · rcases readExact_enough enough with ⟨rest, found, after, _⟩
    have same := read.symm.trans found
    simp only [Prod.mk.injEq, Except.ok.injEq] at same
    rw [same.1, same.2, after]
    exact ⟨List.length_take_of_le enough, (List.take_append_drop count _).symm⟩
  · rcases readExact_short (by omega : (content arrivals).length < count) with ⟨stop, rest, found, _⟩
    simp [read] at found

end Transport
