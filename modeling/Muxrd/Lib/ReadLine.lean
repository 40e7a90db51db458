import Muxrd.Lib.Transport

set_option autoImplicit false

namespace ReadLine

open Transport

variable {Byte Fault : Type} (ends : Byte -> Bool)

-- The bytes up to the first delimiter, which is one of them.
def upTo : List Byte -> List Byte
  | [] => []
  | byte :: rest => if ends byte then [byte] else byte :: upTo rest

/-- `read_until` with a reader that takes at most `limit` bytes off the stream. It stops behind the delimiter, at the
limit, and at the end of the stream; an interrupted read is made again. -/
def readUntil : Nat -> List (Arrival Byte Fault) -> Except Fault (List Byte)
  | 0, _ => .ok []
  | _ + 1, [] => .ok []
  | limit + 1, .interrupted :: rest => readUntil (limit + 1) rest
  | _ + 1, .failed fault :: _ => .error fault
  | limit + 1, .bytes chunk _ :: rest =>
    let taken := chunk.take (limit + 1)
    if taken.any ends then .ok (upTo ends taken)
    else (readUntil (limit + 1 - chunk.length) rest).map (taken ++ ·)

def failure : List (Arrival Byte Fault) -> Option Fault
  | [] => none
  | .bytes _ _ :: rest => failure rest
  | .interrupted :: rest => failure rest
  | .failed fault :: _ => some fault

section Lines

variable {ends}

theorem upTo_append_within {first : List Byte} (within : first.any ends = true) (rest : List Byte) :
    upTo ends (first ++ rest) = upTo ends first := by
  induction first with
  | nil => simp at within
  | cons byte later ih =>
    by_cases stop : ends byte = true
    · simp [upTo, stop]
    · have further : later.any ends = true := by simpa [stop] using within
      simp [upTo, stop, ih further]

theorem upTo_append_beyond {first : List Byte} (beyond : first.any ends = false) (rest : List Byte) :
    upTo ends (first ++ rest) = first ++ upTo ends rest := by
  induction first with
  | nil => rfl
  | cons byte later ih =>
    obtain ⟨goes, further⟩ : ends byte = false ∧ later.any ends = false := by simpa using beyond
    simp [upTo, goes, ih further]

theorem upTo_whole {bytes : List Byte} (unended : bytes.any ends = false) : upTo ends bytes = bytes := by
  simpa [upTo] using upTo_append_beyond unended []

theorem upTo_getLast? (bytes : List Byte) : (upTo ends bytes).getLast?.any ends = bytes.any ends := by
  induction bytes with
  | nil => rfl
  | cons byte rest ih =>
    by_cases stop : ends byte = true
    · simp [upTo, stop]
    · cases more : upTo ends rest with
      | nil =>
        rw [more] at ih
        simp [upTo, stop, more, ← ih]
      | cons next later =>
        rw [more] at ih
        simp [upTo, stop, more, ← ih, List.getLast?_cons_cons]

end Lines

variable {ends} {limit : Nat} {arrivals : List (Arrival Byte Fault)}

theorem take_content (chunk : List Byte) (nonempty : chunk ≠ []) (rest : List (Arrival Byte Fault)) :
    (content (.bytes chunk nonempty :: rest)).take limit =
      chunk.take limit ++ (content rest).take (limit - chunk.length) := by
  rw [content, List.take_append]

theorem readUntil_line (enough : ((content arrivals).take limit).any ends = true ∨ limit ≤ (content arrivals).length ∨
    failure arrivals = none) :
    readUntil ends limit arrivals = .ok (upTo ends ((content arrivals).take limit)) := by
  induction arrivals generalizing limit with
  | nil => cases limit <;> rfl
  | cons arrival rest ih =>
    cases limit with
    | zero => rfl
    | succ limit =>
      cases arrival with
      | failed fault => simp [content, failure] at enough
      | interrupted => exact ih enough
      | bytes chunk nonempty =>
        rw [take_content] at enough ⊢
        by_cases within : (chunk.take (limit + 1)).any ends = true
        · simp only [readUntil, within, if_true, upTo_append_within within]
        · rw [Bool.not_eq_true] at within
          have further : ((content rest).take (limit + 1 - chunk.length)).any ends = true ∨
              limit + 1 - chunk.length ≤ (content rest).length ∨ failure rest = none := by
            rcases enough with found | fill | calm
            · exact .inl (by simpa [within] using found)
            · simp only [content, List.length_append] at fill
              exact .inr (.inl (by omega))
            · exact .inr (.inr calm)
          simp only [readUntil, within, Bool.false_eq_true, if_false, ih further, Except.map,
            upTo_append_beyond within]

theorem readUntil_failed {fault : Fault} (unended : ((content arrivals).take limit).any ends = false)
    (short : (content arrivals).length < limit) (fails : failure arrivals = some fault) :
    readUntil ends limit arrivals = .error fault := by
  induction arrivals generalizing limit with
  | nil => cases fails
  | cons arrival rest ih =>
    cases limit with
    | zero => simp at short
    | succ limit =>
      cases arrival with
      | failed first =>
        obtain rfl := Option.some.inj fails
        rfl
      | interrupted => exact ih unended short fails
      | bytes chunk nonempty =>
        rw [take_content, List.any_append, Bool.or_eq_false_iff] at unended
        simp only [content, List.length_append] at short
        have later := ih unended.2 (by omega) fails
        simp only [readUntil, unended.1, Bool.false_eq_true, if_false, later, Except.map]

end ReadLine
