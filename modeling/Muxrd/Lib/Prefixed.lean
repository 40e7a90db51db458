import Muxrd.Lib.Transport

set_option autoImplicit false

namespace Prefixed

open Transport

variable {Byte Fault : Type}

inductive Refusal (Fault : Type)
  | header (stop : Stop Fault)
  | oversized (length : Nat)
  | body (stop : Stop Fault)
  deriving DecidableEq, Repr

def readPrefixed (width limit : Nat) (value : List Byte -> Nat) (arrivals : List (Arrival Byte Fault)) :
    Except (Refusal Fault) (List Byte) × List (Arrival Byte Fault) :=
  match readExact width arrivals with
  | (.error stop, left) => (.error (.header stop), left)
  | (.ok header, left) =>
    if value header > limit then (.error (.oversized (value header)), left)
    else
      match readExact (value header) left with
      | (.error stop, left) => (.error (.body stop), left)
      | (.ok body, left) => (.ok body, left)

structure Announced (width : Nat) (value : List Byte -> Nat) (bytes body rest : List Byte) : Prop where
  shape : ∃ header, header.length = width ∧ value header = body.length ∧ bytes = header ++ (body ++ rest)

section

variable {width limit : Nat} {value : List Byte -> Nat} {arrivals : List (Arrival Byte Fault)}
  {header bytes body rest : List Byte}

theorem Announced.unique {other behind : List Byte} (first : Announced width value bytes body rest)
    (second : Announced width value bytes other behind) : body = other ∧ rest = behind := by
  obtain ⟨header, wide, length, rfl⟩ := first.shape
  obtain ⟨header', wide', length', same⟩ := second.shape
  have headers := List.append_inj_left same (wide.trans wide'.symm)
  have tails := List.append_inj_right same (wide.trans wide'.symm)
  have lengths : body.length = other.length := by rw [← length, ← length', headers]
  exact ⟨List.append_inj_left tails lengths, List.append_inj_right tails lengths⟩

theorem readExact_header (wide : header.length = width) (arrives : content arrivals = header ++ rest) :
    ∃ left, readExact width arrivals = (.ok header, left) ∧ content left = rest := by
  have enough : width ≤ (content arrivals).length := by
    rw [arrives, List.length_append]
    omega
  obtain ⟨left, read, after, _⟩ := readExact_enough enough
  rw [arrives, ← wide, List.take_left] at read
  rw [arrives, ← wide, List.drop_left] at after
  exact ⟨left, wide ▸ read, after⟩

theorem readPrefixed_oversized (wide : header.length = width) (large : value header > limit)
    (arrives : content arrivals = header ++ rest) :
    ∃ left, readPrefixed width limit value arrivals = (.error (.oversized (value header)), left) ∧
      content left = rest := by
  obtain ⟨left, read, after⟩ := readExact_header wide arrives
  exact ⟨left, by simp [readPrefixed, read, large], after⟩

theorem readPrefixed_announced (announced : Announced width value (content arrivals) body rest)
    (fits : body.length ≤ limit) :
    ∃ left, readPrefixed width limit value arrivals = (.ok body, left) ∧ content left = rest := by
  obtain ⟨header, wide, length, arrives⟩ := announced.shape
  obtain ⟨behind, read, after⟩ := readExact_header wide arrives
  obtain ⟨left, bodyRead, bodyAfter⟩ := readExact_header (rfl : body.length = body.length) after
  have small : ¬ body.length > limit := Nat.not_lt.mpr fits
  refine ⟨left, ?_, bodyAfter⟩
  simp only [readPrefixed, read, length, small, if_false, bodyRead]

theorem announced_of_readPrefixed {left : List (Arrival Byte Fault)}
    (read : readPrefixed width limit value arrivals = (.ok body, left)) :
    Announced width value (content arrivals) body (content left) ∧ body.length ≤ limit := by
  unfold readPrefixed at read
  rcases first : readExact width arrivals with ⟨stop | header, behind⟩
  · simp [first] at read
  · simp only [first] at read
    split_ifs at read with large
    · cases read
    · rcases second : readExact (value header) behind with ⟨stop | taken, after⟩
      · simp [second] at read
      · simp only [second, Prod.mk.injEq, Except.ok.injEq] at read
        obtain ⟨rfl, rfl⟩ := read
        have headed := content_of_readExact first
        have bodied := content_of_readExact second
        refine ⟨⟨header, headed.1, bodied.1.symm, ?_⟩, by omega⟩
        rw [headed.2, bodied.2]

/-- How the bytes arrive makes no difference to whether a body is read, and which. -/
theorem readPrefixed_ok_iff :
    (readPrefixed width limit value arrivals).1 = .ok body ↔
      (∃ rest, Announced width value (content arrivals) body rest) ∧ body.length ≤ limit := by
  constructor
  · intro read
    have announced := announced_of_readPrefixed (Prod.ext read rfl :
      readPrefixed width limit value arrivals = (.ok body, (readPrefixed width limit value arrivals).2))
    exact ⟨⟨_, announced.1⟩, announced.2⟩
  · rintro ⟨⟨rest, announced⟩, fits⟩
    obtain ⟨left, read, _⟩ := readPrefixed_announced announced fits
    rw [read]

end

end Prefixed
