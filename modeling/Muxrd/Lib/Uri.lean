import Muxrd.Lib.NetText
import Muxrd.Lib.Utf8

set_option autoImplicit false

/-! The query of a URI: its fields, and the values written in them with percent signs. -/

namespace Uri

open RustStd

section Reader

def query (uri : List Char) : List Char :=
  ((uri.dropWhile (· ≠ '?')).drop 1).takeWhile (· ≠ '#')

def field (part : List Char) : String × String :=
  (String.ofList (part.takeWhile (· ≠ '=')), String.ofList ((part.dropWhile (· ≠ '=')).drop 1))

def fields (uri : String) : List (String × String) :=
  ((query uri.toList).splitOn '&').map field

/-- A percent sign stands for a byte with the two hexadecimal digits after it, or for nothing at all. -/
def percentBytes : List Char -> Option (List UInt8)
  | [] => some []
  | c :: rest =>
    if c = '%' then
      match rest with
      | high :: low :: rest =>
        match toDigit 16 high, toDigit 16 low with
        | some high, some low => (percentBytes rest).map (.ofNat (high * 16 + low) :: ·)
        | _, _ => none
      | _ => none
    else (percentBytes rest).map (asBytes (String.singleton c) ++ ·)

def percentDecode (text : String) : Option String :=
  (percentBytes text.toList).bind fromUtf8

end Reader

section Values

theorem percentBytes_plain {c : Char} (plain : c ≠ '%') (rest : List Char) :
    percentBytes (c :: rest) = (percentBytes rest).map (asBytes (String.singleton c) ++ ·) := by
  rw [percentBytes.eq_def]
  simp only [if_neg plain]

theorem percentBytes_escape {high low : Char} {upper lower : Nat} (isHigh : toDigit 16 high = some upper)
    (isLow : toDigit 16 low = some lower) (rest : List Char) :
    percentBytes ('%' :: high :: low :: rest) = (percentBytes rest).map (.ofNat (upper * 16 + lower) :: ·) := by
  rw [percentBytes.eq_def]
  simp only [if_true, isHigh, isLow]

theorem asBytes_singleton_length {c : Char} (ascii : c.toNat < 128) : (asBytes (String.singleton c)).length = 1 := by
  rw [asBytes_length, String.utf8ByteSize_singleton, Char.utf8Size_eq_one_iff, UInt32.le_iff_toNat_le]
  exact Nat.le_of_lt_succ ascii

theorem hexDigit_length {c : Char} {digit : Nat} (isDigit : toDigit 16 c = some digit) :
    (asBytes (String.singleton c)).length = 1 := by
  have printed := @toDigit_printed 16 c (by rw [isDigit]; rfl)
  simp only [isPrinted, Bool.and_eq_true, decide_eq_true_eq] at printed
  exact asBytes_singleton_length (by omega)

theorem hexDigit_ne {c : Char} {digit : Nat} (isDigit : toDigit 16 c = some digit) : c ≠ '%' := by
  rintro rfl
  have noDigit : toDigit 16 '%' = none := by decide
  rw [noDigit] at isDigit
  cases isDigit

theorem percentBytes_length {chars : List Char} {bytes : List UInt8} (read : percentBytes chars = some bytes) :
    bytes.length + 2 * chars.count '%' = (asBytes (String.ofList chars)).length := by
  fun_induction percentBytes chars generalizing bytes with
  | case1 =>
    rw [← Option.some.inj read]
    rfl
  | case2 high low rest upper lower isHigh isLow ih =>
    rw [Option.map_eq_some_iff] at read
    obtain ⟨others, decoded, rfl⟩ := read
    have percent : (asBytes (String.singleton '%')).length = 1 := asBytes_singleton_length (by decide)
    simp only [asBytes_cons, List.length_append, List.length_cons, percent, hexDigit_length isHigh,
      hexDigit_length isLow, List.count_cons_self, List.count_cons_of_ne (hexDigit_ne isHigh),
      List.count_cons_of_ne (hexDigit_ne isLow), ← ih decoded]
    omega
  | case3 => cases read
  | case4 => cases read
  | case5 c rest plain ih =>
    rw [Option.map_eq_some_iff] at read
    obtain ⟨others, decoded, rfl⟩ := read
    rw [asBytes_cons, List.length_append, List.length_append, List.count_cons_of_ne plain, ← ih decoded]
    omega

theorem percentBytes_id {chars : List Char} (plain : '%' ∉ chars) :
    percentBytes chars = some (asBytes (String.ofList chars)) := by
  induction chars with
  | nil => rfl
  | cons c rest ih =>
    rw [List.mem_cons, not_or] at plain
    rw [percentBytes_plain (Ne.symm plain.1), ih plain.2, Option.map_some, ← asBytes_cons]

theorem percentDecode_id {text : String} (plain : '%' ∉ text.toList) : percentDecode text = some text := by
  rw [percentDecode, percentBytes_id plain, Option.bind_some, String.ofList_toList, fromUtf8_asBytes]

theorem percentDecode_prefix {before after : List Char}
    (read : percentDecode (String.ofList before) = some (String.ofList (before ++ after))) :
    after = [] ∧ '%' ∉ before := by
  rw [percentDecode, String.toList_ofList, Option.bind_eq_some_iff] at read
  obtain ⟨bytes, decoded, text⟩ := read
  have length := percentBytes_length decoded
  have whole : String.ofList (before ++ after) = String.ofList before ++ String.ofList after := by
    rw [← String.toList_inj]
    simp
  rw [← asBytes_of_fromUtf8 text, whole, asBytes_append, List.length_append] at length
  constructor
  · have empty : (asBytes (String.ofList after)).length = 0 := by omega
    cases after with
    | nil => rfl
    | cons c rest =>
      rw [asBytes_cons, List.length_append, asBytes_length, String.utf8ByteSize_singleton] at empty
      have := c.utf8Size_pos
      omega
  · exact List.count_eq_zero.mp (by omega)

end Values

section Fields

def isDelimiter (c : Char) : Bool :=
  c = '&' || c = '#'

def Verbatim (chars : List Char) : Prop :=
  ∀ c ∈ chars, c ≠ '&' ∧ c ≠ '#' ∧ c ≠ '%'

theorem inert_of_all {chars : List Char} (all : (chars.all fun c => !isDelimiter c) = true) :
    ∀ c ∈ chars, isDelimiter c = false := by
  simpa using all

theorem verbatim_iff {chars : List Char} : Verbatim chars ↔ (∀ c ∈ chars, isDelimiter c = false) ∧ '%' ∉ chars := by
  constructor
  · intro plain
    refine ⟨fun c member => ?_, fun member => (plain '%' member).2.2 rfl⟩
    simp [isDelimiter, plain c member]
  · rintro ⟨inert, escapes⟩ c member
    have delimits := inert c member
    simp only [isDelimiter, Bool.or_eq_false_iff, decide_eq_false_iff_not] at delimits
    exact ⟨delimits.1, delimits.2, ne_of_mem_of_not_mem member escapes⟩

theorem Verbatim.inert {chars : List Char} (verbatim : Verbatim chars) : ∀ c ∈ chars, isDelimiter c = false :=
  (verbatim_iff.mp verbatim).1

theorem Verbatim.decoded {text : String} (verbatim : Verbatim text.toList) : percentDecode text = some text :=
  percentDecode_id (verbatim_iff.mp verbatim).2

theorem verbatim_of_allowed {allowed : Char -> Bool} {chars : List Char} (within : ∀ c ∈ chars, allowed c = true)
    (ampersand : allowed '&' = false) (hash : allowed '#' = false) (percent : allowed '%' = false) :
    Verbatim chars := by
  intro c member
  have kept := within c member
  refine ⟨?_, ?_, ?_⟩
  · rintro rfl
    rw [ampersand] at kept
    cases kept
  · rintro rfl
    rw [hash] at kept
    cases kept
  · rintro rfl
    rw [percent] at kept
    cases kept

variable {uri : String} {scheme key value rest : List Char}

theorem query_append (fresh : '?' ∉ scheme) : query (scheme ++ '?' :: rest) = rest.takeWhile (· ≠ '#') := by
  have pass : ∀ c ∈ scheme, decide (c ≠ '?') = true := by
    intro c member
    exact decide_eq_true (ne_of_mem_of_not_mem member fresh)
  rw [query, List.dropWhile_append_of_pos pass, List.dropWhile_cons_of_neg (by simp)]
  rfl

theorem field_append (fresh : '=' ∉ key) : field (key ++ '=' :: value) = (String.ofList key, String.ofList value) := by
  have pass : ∀ c ∈ key, decide (c ≠ '=') = true := by
    intro c member
    exact decide_eq_true (ne_of_mem_of_not_mem member fresh)
  rw [field, List.takeWhile_append_of_pos pass, List.dropWhile_append_of_pos pass,
    List.takeWhile_cons_of_neg (by simp), List.dropWhile_cons_of_neg (by simp), List.append_nil]
  rfl

theorem splitOn_head (separator : Char) (chars : List Char) :
    ∃ others, chars.splitOn separator = chars.takeWhile (· ≠ separator) :: others := by
  induction chars with
  | nil => exact ⟨[], rfl⟩
  | cons c rest ih =>
    obtain ⟨others, parts⟩ := ih
    rw [List.splitOn_cons_eq_if_modifyHead, parts]
    by_cases same : c = separator
    · exact ⟨List.takeWhile (· ≠ separator) rest :: others, by simp [same]⟩
    · exact ⟨others, by simp [same]⟩

theorem intercalate_no_fragment {parts : List (List Char)}
    (inert : ∀ part ∈ parts, ∀ c ∈ part, isDelimiter c = false) : ∀ c ∈ ['&'].intercalate parts, c ≠ '#' := by
  induction parts with
  | nil => simp
  | cons part rest ih =>
    rw [List.forall_mem_cons] at inert
    have first : ∀ c ∈ part, c ≠ '#' := by
      rintro c within rfl
      exact absurd (inert.1 '#' within) (by decide)
    cases rest with
    | nil => rwa [List.intercalate_singleton]
    | cons next rest =>
      rw [List.intercalate_cons_cons, List.forall_mem_append, List.forall_mem_append]
      exact ⟨⟨first, by simp⟩, ih inert.2⟩

theorem fields_intercalate {parts : List (List Char)} (shape : uri.toList = scheme ++ '?' :: ['&'].intercalate parts)
    (fresh : '?' ∉ scheme) (nonempty : parts ≠ []) (inert : ∀ part ∈ parts, ∀ c ∈ part, isDelimiter c = false) :
    fields uri = parts.map field := by
  have whole : (['&'].intercalate parts).takeWhile (· ≠ '#') = ['&'].intercalate parts :=
    List.takeWhile_eq_self_iff.mpr fun c member => decide_eq_true (intercalate_no_fragment inert c member)
  have separate : ∀ part ∈ parts, '&' ∉ part := fun part member ampersand =>
    absurd (inert part member '&' ampersand) (by decide)
  rw [fields, shape, query_append fresh, whole, List.splitOn_intercalate '&' separate nonempty]

theorem fields_raw {first : List Char}
    (shape : uri.toList = scheme ++ '?' :: (first ++ '&' :: (key ++ '=' :: (value ++ '&' :: rest))))
    (fresh : '?' ∉ scheme) (inert : ∀ c ∈ first ++ key, isDelimiter c = false) (named : '=' ∉ key) :
    ∃ others, fields uri =
      field first :: (String.ofList key, String.ofList (value.takeWhile fun c => !isDelimiter c)) :: others := by
  have differs {chars : List Char} {delimiter : Char} (delimits : isDelimiter delimiter = true)
      (plain : ∀ c ∈ chars, isDelimiter c = false) : ∀ c ∈ chars, decide (c ≠ delimiter) = true := by
    intro c member
    refine decide_eq_true ?_
    rintro rfl
    rw [plain c member] at delimits
    cases delimits
  rw [List.forall_mem_append] at inert
  have hash : isDelimiter '#' = true := by decide
  have ampersand : isDelimiter '&' = true := by decide
  have taken : (first ++ '&' :: (key ++ '=' :: (value ++ '&' :: rest))).takeWhile (· ≠ '#') =
      first ++ '&' :: (key ++ '=' :: (value ++ '&' :: rest).takeWhile (· ≠ '#')) := by
    rw [List.takeWhile_append_of_pos (differs hash inert.1), List.takeWhile_cons_of_pos (by decide),
      List.takeWhile_append_of_pos (differs hash inert.2), List.takeWhile_cons_of_pos (by decide)]
  have begins : (key ++ '=' :: (value ++ '&' :: rest).takeWhile (· ≠ '#')).takeWhile (· ≠ '&') =
      key ++ '=' :: value.takeWhile fun c => !isDelimiter c := by
    rw [List.takeWhile_append_of_pos (differs ampersand inert.2), List.takeWhile_cons_of_pos (by decide),
      List.takeWhile_takeWhile, takeWhile_stops (by simp)]
    congr 3
    funext c
    simp [isDelimiter]
  obtain ⟨others, parts⟩ := splitOn_head '&' (key ++ '=' :: (value ++ '&' :: rest).takeWhile (· ≠ '#'))
  have separate : '&' ∉ first := fun member => absurd (inert.1 '&' member) (by decide)
  refine ⟨others.map field, ?_⟩
  rw [fields, shape, query_append fresh, taken, List.splitOn_append_cons_self_of_not_mem separate, parts, begins,
    List.map_cons, List.map_cons, field_append named]

end Fields

end Uri
