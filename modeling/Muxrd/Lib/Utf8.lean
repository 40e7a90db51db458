import Mathlib.Data.List.Basic

set_option autoImplicit false

/-! Strings as the bytes of their encoding: reading them back, and cutting them. -/

namespace RustStd

def asBytes (text : String) : List UInt8 :=
  text.toByteArray.data.toList

def fromUtf8 (bytes : List UInt8) : Option String :=
  String.fromUTF8? ⟨bytes.toArray⟩

def isCharBoundary (text : String) (index : Nat) : Bool :=
  String.Pos.Raw.isValid text ⟨index⟩

/-- `&text[..len]`, which panics inside a character and beyond the end. -/
def sliceTo (text : String) (len : Nat) : Option String :=
  if isCharBoundary text len then fromUtf8 ((asBytes text).take len) else none

section Reading

@[simp] theorem fromUtf8_asBytes (text : String) : fromUtf8 (asBytes text) = some text := by
  have valid : text.toByteArray.IsValidUTF8 := text.isValidUTF8
  simp [fromUtf8, asBytes, String.fromUTF8?, valid, String.fromUTF8]

theorem asBytes_of_fromUtf8 {bytes : List UInt8} {text : String} (valid : fromUtf8 bytes = some text) :
    asBytes text = bytes := by
  unfold fromUtf8 String.fromUTF8? at valid
  split at valid
  · rw [← Option.some.inj valid]
    rfl
  · cases valid

theorem asBytes_inj {first second : String} (same : asBytes first = asBytes second) : first = second := by
  have read := fromUtf8_asBytes first
  rw [same, fromUtf8_asBytes] at read
  exact (Option.some.inj read).symm

@[simp] theorem asBytes_append (first second : String) :
    asBytes (first ++ second) = asBytes first ++ asBytes second := by
  simp [asBytes]

@[simp] theorem asBytes_length (text : String) : (asBytes text).length = text.utf8ByteSize := by
  simp [asBytes, ← String.size_toByteArray]

theorem asBytes_cons (c : Char) (rest : List Char) :
    asBytes (String.ofList (c :: rest)) = asBytes (String.singleton c) ++ asBytes (String.ofList rest) := by
  have parts : String.ofList (c :: rest) = String.singleton c ++ String.ofList rest := by
    rw [← String.toList_inj]
    simp
  rw [parts, asBytes_append]

end Reading

section Cutting

variable {text : String} {len : Nat}

theorem isCharBoundary_iff :
    isCharBoundary text len = true ↔ ∃ before after, text = before ++ after ∧ (asBytes before).length = len := by
  rw [isCharBoundary, String.Pos.Raw.isValid_eq_true_iff, String.Pos.Raw.isValid_iff_exists_append]
  constructor
  · rintro ⟨before, after, parts, position⟩
    exact ⟨before, after, parts, by simpa using (congrArg String.Pos.Raw.byteIdx position).symm⟩
  · rintro ⟨before, after, parts, length⟩
    exact ⟨before, after, parts, String.Pos.Raw.ext (by simpa using length.symm)⟩

theorem fromUtf8_take_of_boundary {before after : String} (length : (asBytes before).length = len) :
    fromUtf8 ((asBytes (before ++ after)).take len) = some before := by
  rw [asBytes_append, List.take_left' length, fromUtf8_asBytes]

theorem isValidUTF8_of_fromUtf8 {bytes : List UInt8} (read : (fromUtf8 bytes).isSome = true) :
    (ByteArray.mk bytes.toArray).IsValidUTF8 := by
  unfold fromUtf8 String.fromUTF8? at read
  split at read
  · assumption
  · cases read

theorem extract_eq_take : text.toByteArray.extract 0 len = ⟨((asBytes text).take len).toArray⟩ := by
  apply ByteArray.ext
  apply Array.toList_inj.mp
  simp [asBytes, Array.toList_extract, List.extract]

theorem fromUtf8_take (short : len ≤ (asBytes text).length) :
    (fromUtf8 ((asBytes text).take len)).isSome = isCharBoundary text len := by
  rw [Bool.eq_iff_iff]
  constructor
  · intro read
    rw [isCharBoundary, String.Pos.Raw.isValid_eq_true_iff, String.Pos.Raw.isValid_iff_isValidUTF8_extract_zero]
    constructor
    · simpa [String.Pos.Raw.le_iff] using short
    · rw [extract_eq_take]
      exact isValidUTF8_of_fromUtf8 read
  · intro boundary
    obtain ⟨before, after, rfl, length⟩ := isCharBoundary_iff.mp boundary
    rw [fromUtf8_take_of_boundary length]
    rfl

theorem sliceTo_eq_some_iff {before : String} :
    sliceTo text len = some before ↔ (∃ after, text = before ++ after) ∧ (asBytes before).length = len := by
  unfold sliceTo
  constructor
  · intro cut
    split_ifs at cut with boundary
    obtain ⟨start, after, rfl, length⟩ := isCharBoundary_iff.mp boundary
    rw [fromUtf8_take_of_boundary length] at cut
    rw [← Option.some.inj cut]
    exact ⟨⟨after, rfl⟩, length⟩
  · rintro ⟨⟨after, rfl⟩, length⟩
    rw [if_pos (isCharBoundary_iff.mpr ⟨before, after, rfl, length⟩), fromUtf8_take_of_boundary length]

theorem sliceTo_isSome_iff : (sliceTo text len).isSome = true ↔ isCharBoundary text len = true := by
  rw [Option.isSome_iff_exists, isCharBoundary_iff]
  simp only [sliceTo_eq_some_iff]
  constructor
  · rintro ⟨before, ⟨after, parts⟩, length⟩
    exact ⟨before, after, parts, length⟩
  · rintro ⟨before, after, parts, length⟩
    exact ⟨before, ⟨after, parts⟩, length⟩

theorem asBytes_length_ascii {chars : List Char} (ascii : ∀ c ∈ chars, c.utf8Size = 1) :
    (asBytes (String.ofList chars)).length = chars.length := by
  induction chars with
  | nil => rfl
  | cons c rest ih =>
    rw [List.forall_mem_cons] at ascii
    rw [asBytes_cons, List.length_append, asBytes_length, String.utf8ByteSize_singleton, ascii.1, ih ascii.2]
    exact Nat.add_comm _ _

theorem isCharBoundary_ascii (ascii : ∀ c ∈ text.toList, c.utf8Size = 1) (short : len ≤ (asBytes text).length) :
    isCharBoundary text len = true := by
  have size : (asBytes text).length = text.toList.length := by
    simpa using asBytes_length_ascii ascii
  refine isCharBoundary_iff.mpr ⟨String.ofList (text.toList.take len), String.ofList (text.toList.drop len), ?_, ?_⟩
  · rw [← String.ofList_append, List.take_append_drop, String.ofList_toList]
  · rw [asBytes_length_ascii fun c member => ascii c (List.mem_of_mem_take member), List.length_take]
    omega

end Cutting

end RustStd
