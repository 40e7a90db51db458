import Mathlib.Data.List.DropRight
import Mathlib.Data.List.TakeWhile
import Muxrd.Lib.Net

set_option autoImplicit false

namespace RustStd

section Stops

def Stops {Value : Type} (read : List Char -> Option (Value × List Char)) (tail : List Char) : Prop :=
  ∀ input, read (input ++ tail) = (read input).map fun found => (found.1, found.2 ++ tail)

variable {Value : Type} {tail : List Char} {stop : Char}

theorem toDigit_of_le {small large : Nat} (le : small ≤ large) {c : Char} (beyond : toDigit large c = none) :
    toDigit small c = none := by
  unfold toDigit at beyond ⊢
  dsimp only at beyond ⊢
  rw [Option.filter_eq_none_iff] at beyond ⊢
  intro digit found value
  have within : digit < small := by simpa using value
  exact beyond digit found (by simpa using lt_of_lt_of_le within le)

theorem takeWhile_stops {taken : Char -> Bool} (stops : taken stop = false) (input : List Char) :
    (input ++ stop :: tail).takeWhile taken = input.takeWhile taken := by
  induction input with
  | nil => simp [stops]
  | cons c rest ih => simp [List.takeWhile_cons, ih]

theorem takeWhile_length_le {taken : Char -> Bool} (input : List Char) :
    (input.takeWhile taken).length ≤ input.length :=
  (List.takeWhile_prefix taken).length_le

theorem readNumber_stops {radix maxDigits size : Nat} {allowZeroPrefix : Bool} (stops : toDigit radix stop = none) :
    Stops (readNumber radix maxDigits size allowZeroPrefix) (stop :: tail) := by
  intro input
  have taken : (input ++ stop :: tail).takeWhile (fun c => (toDigit radix c).isSome) =
      input.takeWhile fun c => (toDigit radix c).isSome := takeWhile_stops (by simp [stops]) input
  unfold readNumber
  simp only [taken]
  rw [List.drop_append_of_le_length (takeWhile_length_le input)]
  split_ifs <;> rfl

theorem readSeparator_stops {separator : Char} {inner : List Char -> Option (Value × List Char)}
    (innerStops : Stops inner (stop :: tail)) (other : stop ≠ separator) (index : Nat) :
    Stops (readSeparator separator index inner) (stop :: tail) := by
  intro input
  cases index with
  | zero => exact innerStops input
  | succ index =>
    cases input with
    | nil => simp [readSeparator, other]
    | cons c rest =>
      simp only [readSeparator, List.cons_append]
      split_ifs
      · exact innerStops rest
      · rfl

theorem Stops.bind {Next : Type} {read : List Char -> Option (Value × List Char)}
    {next : Value -> List Char -> Option (Next × List Char)} (stops : Stops read tail)
    (nextStops : ∀ value, Stops (next value) tail) :
    Stops (fun input => (read input).bind fun found => next found.1 found.2) tail := by
  intro input
  dsimp only
  rw [stops input]
  cases read input with
  | none => rfl
  | some found => exact nextStops found.1 found.2

theorem readIpv4Addr_eq (input : List Char) :
    readIpv4Addr input =
      (readSeparator '.' 0 (readNumber 10 3 UInt8.size false) input).bind fun a =>
        (readSeparator '.' 1 (readNumber 10 3 UInt8.size false) a.2).bind fun b =>
          (readSeparator '.' 2 (readNumber 10 3 UInt8.size false) b.2).bind fun c =>
            (readSeparator '.' 3 (readNumber 10 3 UInt8.size false) c.2).bind fun d =>
              some (⟨.ofNat a.1, .ofNat b.1, .ofNat c.1, .ofNat d.1⟩, d.2) :=
  rfl

theorem readIpv4Addr_stops (stops : toDigit 10 stop = none) (other : stop ≠ '.') :
    Stops readIpv4Addr (stop :: tail) := by
  have octet (index : Nat) : Stops (readSeparator '.' index (readNumber 10 3 UInt8.size false)) (stop :: tail) :=
    readSeparator_stops (readNumber_stops stops) other index
  have address (a b c d : Nat) :
      Stops (fun input => some ((⟨.ofNat a, .ofNat b, .ofNat c, .ofNat d⟩ : Ipv4Addr), input)) (stop :: tail) :=
    fun _ => rfl
  exact (octet 0).bind fun a => (octet 1).bind fun b => (octet 2).bind fun c => (octet 3).bind (address a b c)

theorem readGroups_stops (stops : toDigit 16 stop = none) (dot : stop ≠ '.') (colon : stop ≠ ':')
    (slots index : Nat) (input : List Char) :
    readGroups slots index (input ++ stop :: tail) =
      ((readGroups slots index input).1, (readGroups slots index input).2.1,
        (readGroups slots index input).2.2 ++ stop :: tail) := by
  have decimal : toDigit 10 stop = none := toDigit_of_le (by decide) stops
  induction slots generalizing index input with
  | zero => rfl
  | succ slots ih =>
    have ipv4 := readSeparator_stops (readIpv4Addr_stops decimal dot : Stops readIpv4Addr (stop :: tail)) colon index
    have group := readSeparator_stops
      (readNumber_stops stops : Stops (readNumber 16 4 UInt16.size true) (stop :: tail)) colon index
    have embedded : (if 0 < slots then readSeparator ':' index readIpv4Addr (input ++ stop :: tail) else none) =
        (if 0 < slots then readSeparator ':' index readIpv4Addr input else none).map fun found =>
          (found.1, found.2 ++ stop :: tail) := by
      split_ifs
      · exact ipv4 input
      · rfl
    simp only [readGroups, embedded, group input]
    cases (if 0 < slots then readSeparator ':' index readIpv4Addr input else none) with
    | some found => rfl
    | none =>
      cases readSeparator ':' index (readNumber 16 4 UInt16.size true) input with
      | none => rfl
      | some found => simp only [Option.map_none, Option.map_some, ih]

theorem readIpv6Addr_stops (stops : toDigit 16 stop = none) (dot : stop ≠ '.') (colon : stop ≠ ':') :
    Stops readIpv6Addr (stop :: tail) := by
  intro input
  unfold readIpv6Addr
  rw [readGroups_stops stops dot colon]
  rcases readGroups 8 0 input with ⟨head, ipv4, rest⟩
  dsimp only
  split_ifs
  · rfl
  · rfl
  · rcases rest with _ | ⟨first, _ | ⟨second, rest⟩⟩
    · split <;> simp_all
    · split <;> simp_all
    · by_cases colons : first = ':' ∧ second = ':'
      · obtain ⟨rfl, rfl⟩ := colons
        simp [readGroups_stops stops dot colon]
      · simp only [List.cons_append]
        split
        · simp_all
        · split
          · simp_all
          · rfl

end Stops

section Takes

def inAddress (c : Char) : Bool :=
  (toDigit 16 c).isSome || c = '.' || c = ':'

def Takes {Value : Type} (read : List Char -> Option (Value × List Char)) : Prop :=
  ∀ input value rest, read input = some (value, rest) ->
    ∃ taken, input = taken ++ rest ∧ taken.all inAddress = true

variable {Value : Type}

theorem readNumber_some {radix maxDigits size value : Nat} {allowZeroPrefix : Bool} {input rest : List Char}
    (found : readNumber radix maxDigits size allowZeroPrefix input = some (value, rest)) :
    ∃ digits, input = digits ++ rest ∧ digits ≠ [] ∧ (∀ c ∈ digits, (toDigit radix c).isSome = true) ∧
      value = digitsValue radix digits ∧ value < size := by
  unfold readNumber at found
  dsimp only at found
  split_ifs at found with unreadable zeros small
  simp only [Option.some.injEq, Prod.mk.injEq] at found
  obtain ⟨rfl, rfl⟩ := found
  refine ⟨input.takeWhile fun c => (toDigit radix c).isSome, ?_, ?_, ?_, rfl, small⟩
  · exact (List.prefix_iff_eq_append.mp (List.takeWhile_prefix _)).symm
  · intro empty
    simp [empty] at unreadable
  · intro c member
    exact List.mem_takeWhile_imp (p := fun c => (toDigit radix c).isSome) member

theorem readNumber_takes {radix maxDigits size : Nat} {allowZeroPrefix : Bool} (hex : radix ≤ 16) :
    Takes (readNumber radix maxDigits size allowZeroPrefix) := by
  intro input value rest found
  obtain ⟨digits, taken, _, all, _⟩ := readNumber_some found
  refine ⟨digits, taken, ?_⟩
  rw [List.all_eq_true]
  intro c member
  cases digit : toDigit 16 c with
  | none =>
    have isDigit := all c member
    simp [toDigit_of_le hex digit] at isDigit
  | some _ => simp [inAddress, digit]

theorem readSeparator_takes {separator : Char} {inner : List Char -> Option (Value × List Char)} (takes : Takes inner)
    (allowed : inAddress separator = true) (index : Nat) : Takes (readSeparator separator index inner) := by
  intro input value rest found
  cases index with
  | zero => exact takes input value rest found
  | succ index =>
    cases input with
    | nil => cases found
    | cons c input =>
      simp only [readSeparator] at found
      split_ifs at found with same
      obtain ⟨taken, rfl, all⟩ := takes input value rest found
      exact ⟨c :: taken, rfl, by simp [same, allowed, all]⟩

theorem Takes.bind {Next : Type} {read : List Char -> Option (Value × List Char)}
    {next : Value -> List Char -> Option (Next × List Char)} (takes : Takes read)
    (nextTakes : ∀ value, Takes (next value)) :
    Takes (fun input => (read input).bind fun found => next found.1 found.2) := by
  intro input value rest found
  obtain ⟨⟨first, between⟩, readFirst, readNext⟩ := Option.bind_eq_some_iff.mp found
  obtain ⟨taken, rfl, all⟩ := takes input first between readFirst
  obtain ⟨later, same, allLater⟩ := nextTakes first between value rest readNext
  refine ⟨taken ++ later, ?_, by simp [all, allLater]⟩
  rw [List.append_assoc, ← same]

theorem readIpv4Addr_takes : Takes readIpv4Addr := by
  have octet (index : Nat) : Takes (readSeparator '.' index (readNumber 10 3 UInt8.size false)) :=
    readSeparator_takes (readNumber_takes (by decide)) rfl index
  have address (a b c d : Nat) :
      Takes (fun input => some ((⟨.ofNat a, .ofNat b, .ofNat c, .ofNat d⟩ : Ipv4Addr), input)) := by
    intro input value rest found
    simp only [Option.some.injEq, Prod.mk.injEq] at found
    exact ⟨[], found.2, rfl⟩
  exact (octet 0).bind fun a => (octet 1).bind fun b => (octet 2).bind fun c => (octet 3).bind (address a b c)

theorem readGroups_takes (slots index : Nat) (input : List Char) :
    ∃ taken, input = taken ++ (readGroups slots index input).2.2 ∧ taken.all inAddress = true := by
  induction slots generalizing index input with
  | zero => exact ⟨[], rfl, rfl⟩
  | succ slots ih =>
    simp only [readGroups]
    split
    · next ip rest embedded =>
      split_ifs at embedded
      exact readSeparator_takes readIpv4Addr_takes rfl index input ip rest embedded
    · split
      · next group rest found =>
        have number : Takes (readNumber 16 4 UInt16.size true) := readNumber_takes (by decide)
        obtain ⟨taken, rfl, all⟩ := readSeparator_takes number rfl index input group rest found
        obtain ⟨later, same, allLater⟩ := ih (index + 1) rest
        refine ⟨taken ++ later, ?_, by simp [all, allLater]⟩
        rw [List.append_assoc, ← same]
      · exact ⟨[], rfl, rfl⟩

theorem readIpv6Addr_takes : Takes readIpv6Addr := by
  intro input value rest found
  obtain ⟨taken, whole, all⟩ := readGroups_takes 8 0 input
  unfold readIpv6Addr at found
  dsimp only at found
  split_ifs at found
  · obtain ⟨_, rfl⟩ := Prod.mk.inj (Option.some.inj found)
    exact ⟨taken, whole, all⟩
  · split at found
    · next after colons =>
      obtain ⟨later, same, allLater⟩ := readGroups_takes (8 - ((readGroups 8 0 input).1.length + 1)) 0 after
      obtain ⟨_, rfl⟩ := Prod.mk.inj (Option.some.inj found)
      refine ⟨taken ++ ':' :: ':' :: later, ?_, by simp [all, allLater, inAddress]⟩
      rw [colons] at whole
      rw [List.append_assoc, List.cons_append, List.cons_append, ← same]
      exact whole
    · cases found

end Takes

section Digits

variable {radix : Nat}

theorem toDigit_digitChar {digit : Nat} (hex : radix ≤ 16) (small : digit < radix) :
    toDigit radix digit.digitChar = some digit := by
  have all : ∀ digit : Fin 16, toDigit 16 digit.val.digitChar = some digit.val := by decide
  have sixteen := all ⟨digit, by omega⟩
  unfold toDigit at sixteen ⊢
  dsimp only at sixteen ⊢
  rw [Option.filter_eq_some_iff] at sixteen ⊢
  exact ⟨sixteen.1, by simpa using small⟩

theorem toDigits_readable (two : 1 < radix) (hex : radix ≤ 16) (n : Nat) :
    ∀ c ∈ Nat.toDigits radix n, (toDigit radix c).isSome = true := by
  induction n using Nat.strongRecOn with
  | ind n ih =>
    intro c member
    by_cases small : n < radix
    · rw [Nat.toDigits_of_lt_base small, List.mem_singleton] at member
      simp [member, toDigit_digitChar hex small]
    · rw [Nat.toDigits_of_base_le two (by omega), List.mem_append, List.mem_singleton] at member
      rcases member with high | low
      · exact ih (n / radix) (Nat.div_lt_self (by omega) two) c high
      · simp [low, toDigit_digitChar hex (Nat.mod_lt n (by omega))]

@[simp] theorem digitsValue_append (digits : List Char) (c : Char) :
    digitsValue radix (digits ++ [c]) = digitsValue radix digits * radix + (toDigit radix c).getD 0 := by
  simp [digitsValue]

theorem digitsValue_toDigits (two : 1 < radix) (hex : radix ≤ 16) (n : Nat) :
    digitsValue radix (Nat.toDigits radix n) = n := by
  induction n using Nat.strongRecOn with
  | ind n ih =>
    by_cases small : n < radix
    · rw [Nat.toDigits_of_lt_base small]
      simp [digitsValue, toDigit_digitChar hex small]
    · rw [Nat.toDigits_of_base_le two (by omega), digitsValue_append, ih _ (Nat.div_lt_self (by omega) two),
        toDigit_digitChar hex (Nat.mod_lt n (by omega)), Option.getD_some]
      exact Nat.div_add_mod' n radix

theorem head_toDigits (two : 1 < radix) (n : Nat) (zero : (Nat.toDigits radix n).head? = some '0') : n = 0 := by
  induction n using Nat.strongRecOn with
  | ind n ih =>
    by_cases small : n < radix
    · rw [Nat.toDigits_of_lt_base small] at zero
      simpa using zero
    · rw [Nat.toDigits_of_base_le two (by omega), List.head?_append_of_ne_nil _ Nat.toDigits_ne_nil] at zero
      have high := ih (n / radix) (Nat.div_lt_self (by omega) two) zero
      have := Nat.div_eq_zero_iff.mp high
      omega

theorem readNumber_toDigits (two : 1 < radix) (hex : radix ≤ 16) {maxDigits size n : Nat} {allowZeroPrefix : Bool}
    (digits : 0 < maxDigits) (fits : n < radix ^ maxDigits) (small : n < size) {tail : List Char}
    (ends : ∀ c ∈ tail.head?, toDigit radix c = none) :
    readNumber radix maxDigits size allowZeroPrefix (Nat.toDigits radix n ++ tail) = some (n, tail) := by
  have rest : (tail.takeWhile fun c => (toDigit radix c).isSome) = [] := by
    cases tail with
    | nil => rfl
    | cons c _ => simp [ends c rfl]
  have taken : ((Nat.toDigits radix n ++ tail).takeWhile fun c => (toDigit radix c).isSome) =
      Nat.toDigits radix n := by
    rw [List.takeWhile_append_of_pos (toDigits_readable two hex n), rest, List.append_nil]
  have length : (Nat.toDigits radix n).length ≤ maxDigits := (Nat.length_toDigits_le_iff two digits).mpr fits
  have plain : ¬ ((Nat.toDigits radix n).head? = some '0' ∧ 1 < (Nat.toDigits radix n).length) := by
    rintro ⟨zero, long⟩
    rw [head_toDigits two n zero, Nat.toDigits_zero] at long
    simp at long
  unfold readNumber
  simp only [taken, digitsValue_toDigits two hex, List.drop_left]
  rw [if_neg, if_neg, if_pos small]
  · simp only [Bool.and_eq_true, decide_eq_true_eq, not_and]
    exact fun zeros long => plain ⟨zeros.2, long⟩
  · simp [Nat.toDigits_ne_nil, length]

end Digits

section Display

def Ends (radix : Nat) (tail : List Char) : Prop :=
  ∀ c ∈ tail.head?, toDigit radix c = none

theorem readOctet (octet : UInt8) {tail : List Char} (ends : Ends 10 tail) :
    readNumber 10 3 UInt8.size false (Nat.toDigits 10 octet.toNat ++ tail) = some (octet.toNat, tail) := by
  have small := octet.toNat_lt
  exact readNumber_toDigits (by decide) (by decide) (by decide) (by omega) small ends

theorem readIpv4Addr_toString (ip : Ipv4Addr) {tail : List Char} (ends : Ends 10 tail) :
    readIpv4Addr (ip.toString.toList ++ tail) = some (ip, tail) := by
  have dot (rest : List Char) : Ends 10 ('.' :: rest) := by
    intro c head
    obtain rfl : '.' = c := by simpa using head
    rfl
  simp [Ipv4Addr.toString, readIpv4Addr_eq, readSeparator, readOctet _ (dot _), readOctet _ ends, Nat.toList_repr]

theorem readIpv4Addr_plain {input : List Char} (plain : '.' ∉ input) : readIpv4Addr input = none := by
  rw [readIpv4Addr_eq]
  cases first : readSeparator '.' 0 (readNumber 10 3 UInt8.size false) input with
  | none => rfl
  | some found =>
    obtain ⟨value, rest⟩ := found
    obtain ⟨digits, rfl, _⟩ := readNumber_some first
    cases rest with
    | nil => rfl
    | cons c rest =>
      have other : c ≠ '.' := by
        rintro rfl
        simp at plain
      simp [readSeparator, other]

def groupText (index : Nat) (group : UInt16) : List Char :=
  (if index = 0 then [] else [':']) ++ Nat.toDigits 16 group.toNat

def groupsText (index : Nat) : List UInt16 -> List Char
  | [] => []
  | group :: rest => groupText index group ++ groupsText (index + 1) rest

theorem groupsText_later (index : Nat) (groups : List UInt16) :
    groupsText (index + 1) groups = groupsText 1 groups := by
  induction groups generalizing index with
  | nil => rfl
  | cons group rest ih => simp [groupsText, groupText, ih (index + 1), ih 1]

theorem toList_hex (segments : List UInt16) : (hex segments).toList = groupsText 0 segments := by
  induction segments with
  | nil => simp [hex, groupsText]
  | cons group rest ih =>
    cases rest with
    | nil => simp [hex, groupsText, groupText]
    | cons next rest =>
      have later : (hex (group :: next :: rest)).toList =
          Nat.toDigits 16 group.toNat ++ ':' :: (hex (next :: rest)).toList := by
        simp [hex, String.intercalate_cons_cons]
      rw [later, ih]
      simp [groupsText, groupText, groupsText_later 1]

theorem dot_not_mem_groupsText (index : Nat) (groups : List UInt16) : '.' ∉ groupsText index groups := by
  have digits (group : UInt16) : '.' ∉ Nat.toDigits 16 group.toNat := by
    intro member
    have readable := toDigits_readable (by decide) (by decide) group.toNat '.' member
    cases readable
  induction groups generalizing index with
  | nil => simp [groupsText]
  | cons group rest ih =>
    simp only [groupsText, groupText, List.mem_append, not_or]
    exact ⟨⟨by split_ifs <;> simp, digits group⟩, ih (index + 1)⟩

theorem ends_groupsText (index : Nat) (groups : List UInt16) {tail : List Char} (ends : Ends 16 tail) :
    Ends 16 (groupsText (index + 1) groups ++ tail) := by
  cases groups with
  | nil => exact ends
  | cons group rest =>
    intro c head
    obtain rfl : ':' = c := by simpa [groupsText, groupText] using head
    rfl

theorem readGroup (index : Nat) (group : UInt16) {tail : List Char} (ends : Ends 16 tail) :
    readSeparator ':' index (readNumber 16 4 UInt16.size true) (groupText index group ++ tail) =
      some (group.toNat, tail) := by
  have small := group.toNat_lt
  have digits : readNumber 16 4 UInt16.size true (Nat.toDigits 16 group.toNat ++ tail) = some (group.toNat, tail) :=
    readNumber_toDigits (by decide) (by decide) (by decide) (by omega) small ends
  cases index <;> simpa [readSeparator, groupText] using digits

theorem readSeparator_plain {separator : Char} {index : Nat} {input : List Char} (plain : '.' ∉ input) :
    readSeparator separator index readIpv4Addr input = none := by
  cases index with
  | zero => exact readIpv4Addr_plain plain
  | succ index =>
    cases input with
    | nil => rfl
    | cons c rest =>
      have later : '.' ∉ rest := fun member => plain (List.mem_cons_of_mem c member)
      simp [readSeparator, readIpv4Addr_plain later]

def NoGroup (index : Nat) (tail : List Char) : Prop :=
  readSeparator ':' index (readNumber 16 4 UInt16.size true) tail = none

theorem readGroups_text {slots index : Nat} {groups : List UInt16} {tail : List Char} (room : groups.length ≤ slots)
    (plain : '.' ∉ tail) (ends : Ends 16 tail) (last : groups.length < slots -> NoGroup (index + groups.length) tail) :
    readGroups slots index (groupsText index groups ++ tail) = (groups, false, tail) := by
  induction groups generalizing slots index with
  | nil =>
    cases slots with
    | zero => rfl
    | succ slots =>
      have stuck : readSeparator ':' index (readNumber 16 4 UInt16.size true) tail = none := last (by simp)
      simp [readGroups, groupsText, readSeparator_plain plain, stuck]
  | cons group rest ih =>
    cases slots with
    | zero => simp at room
    | succ slots =>
      have dotless : '.' ∉ groupsText index (group :: rest) ++ tail := by
        simp [dot_not_mem_groupsText, plain]
      have first := readGroup index group (ends_groupsText index rest ends)
      have later : readGroups slots (index + 1) (groupsText (index + 1) rest ++ tail) = (rest, false, tail) := by
        apply ih (by simpa using room)
        intro short
        have stuck := last (by simpa using short)
        rwa [List.length_cons, Nat.add_comm rest.length 1, ← Nat.add_assoc] at stuck
      have whole : groupsText index (group :: rest) ++ tail =
          groupText index group ++ (groupsText (index + 1) rest ++ tail) := by
        simp [groupsText]
      simp only [readGroups, readSeparator_plain dotless, ite_self]
      rw [whole, first]
      simp [later]

def ZerosAt (segments : List UInt16) (stretch : Nat × Nat) : Prop :=
  segments = segments.take stretch.1 ++ (List.replicate stretch.2 0 ++ segments.drop (stretch.1 + stretch.2))

theorem zerosAt_takeWhile (segments : List UInt16) (start : Nat) :
    ZerosAt segments (start, ((segments.drop start).takeWhile (· = 0)).length) := by
  have zeros : (segments.drop start).takeWhile (· = 0) =
      List.replicate ((segments.drop start).takeWhile (· = 0)).length 0 := by
    apply List.eq_replicate_of_mem
    intro segment member
    simpa using List.mem_takeWhile_imp member
  have behind := List.prefix_iff_eq_append.mp (List.takeWhile_prefix (l := segments.drop start) (· = 0))
  rw [ZerosAt, ← zeros, ← List.drop_drop, behind, List.take_append_drop]

theorem longestZeros_zerosAt (segments : List UInt16) : ZerosAt segments (longestZeros segments) := by
  unfold longestZeros
  apply List.foldlRecOn
  · simp [ZerosAt]
  · intro longest split start _
    dsimp only
    split_ifs
    · exact zerosAt_takeWhile segments start
    · exact split

theorem ZerosAt.within {segments : List UInt16} {stretch : Nat × Nat} (split : ZerosAt segments stretch)
    (positive : 0 < stretch.2) : stretch.1 + stretch.2 ≤ segments.length := by
  have lengths := congrArg List.length split
  simp only [List.length_append, List.length_take, List.length_replicate, List.length_drop] at lengths
  omega

theorem ends_nil (radix : Nat) : Ends radix [] := by
  intro c head
  cases head

theorem ends_colon (radix : Nat) (rest : List Char) : Ends radix (':' :: rest) := by
  intro c head
  obtain rfl : ':' = c := by simpa using head
  simp [toDigit]

theorem readNumber_colon {radix maxDigits size : Nat} {allowZeroPrefix : Bool} (rest : List Char) :
    readNumber radix maxDigits size allowZeroPrefix (':' :: rest) = none := by
  simp [readNumber, toDigit]

theorem readIpv6Addr_groups {segments : List UInt16} (eight : segments.length = 8) :
    readIpv6Addr (groupsText 0 segments) = some (segments, []) := by
  have groups : readGroups 8 0 (groupsText 0 segments ++ []) = (segments, false, []) := by
    apply readGroups_text (by omega) (by simp) (ends_nil 16)
    omega
  rw [List.append_nil] at groups
  simp [readIpv6Addr, groups, eight]

theorem readIpv6Addr_compressed {segments : List UInt16} {stretch : Nat × Nat} (eight : segments.length = 8)
    (long : 1 < stretch.2) (split : ZerosAt segments stretch) :
    readIpv6Addr (groupsText 0 (segments.take stretch.1) ++
      ':' :: ':' :: groupsText 0 (segments.drop (stretch.1 + stretch.2))) = some (segments, []) := by
  have within := split.within (by omega)
  have headLength : (segments.take stretch.1).length = stretch.1 := by
    rw [List.length_take]
    omega
  have tailLength : (segments.drop (stretch.1 + stretch.2)).length = 8 - (stretch.1 + stretch.2) := by
    rw [List.length_drop, eight]
  have noGroup (index : Nat) : NoGroup index (':' :: ':' :: groupsText 0 (segments.drop (stretch.1 + stretch.2))) := by
    cases index <;> simp [NoGroup, readSeparator, readNumber_colon]
  have head : readGroups 8 0 (groupsText 0 (segments.take stretch.1) ++
      ':' :: ':' :: groupsText 0 (segments.drop (stretch.1 + stretch.2))) =
        (segments.take stretch.1, false, ':' :: ':' :: groupsText 0 (segments.drop (stretch.1 + stretch.2))) := by
    apply readGroups_text (by omega) _ (ends_colon 16 _)
    · exact fun _ => noGroup _
    · simp [dot_not_mem_groupsText]
  have tail : readGroups (8 - (stretch.1 + 1)) 0 (groupsText 0 (segments.drop (stretch.1 + stretch.2)) ++ []) =
      (segments.drop (stretch.1 + stretch.2), false, []) := by
    apply readGroups_text (by omega) (by simp) (ends_nil 16)
    intro _
    cases (0 + (segments.drop (stretch.1 + stretch.2)).length) <;> rfl
  rw [List.append_nil] at tail
  have zeros : 8 - stretch.1 - (8 - (stretch.1 + stretch.2)) = stretch.2 := by omega
  have notFull : stretch.1 ≠ 8 := by omega
  simp only [readIpv6Addr, head, headLength, if_neg notFull, Bool.false_eq_true, if_false, tail, tailLength, zeros]
  rw [List.append_assoc, ← split]

theorem bytes_joined (pair : UInt16) :
    UInt16.ofNat ((pair >>> 8).toUInt8.toNat * 256 + pair.toUInt8.toNat) = pair := by
  apply UInt16.toNat_inj.mp
  have small := pair.toNat_lt
  simp only [UInt16.toNat_ofNat', UInt16.toNat_toUInt8, UInt16.toNat_shiftRight, Nat.shiftRight_eq_div_pow]
  have eight : (8 : UInt16).toNat % 16 = 8 := rfl
  rw [eight]
  omega

theorem readIpv6Addr_mapped (ab cd : UInt16) :
    readIpv6Addr (':' :: ':' :: (Nat.toDigits 16 0xffff ++
      ':' :: (Ipv4Addr.toString ⟨(ab >>> 8).toUInt8, ab.toUInt8, (cd >>> 8).toUInt8, cd.toUInt8⟩).toList)) =
        some ([0, 0, 0, 0, 0, 0xffff, ab, cd], []) := by
  have embedded := readIpv4Addr_toString ⟨(ab >>> 8).toUInt8, ab.toUInt8, (cd >>> 8).toUInt8, cd.toUInt8⟩ (ends_nil 10)
  rw [List.append_nil] at embedded
  have ffff : Nat.toDigits 16 0xffff = ['f', 'f', 'f', 'f'] := by decide
  have head (rest : List Char) : readGroups 8 0 (':' :: ':' :: rest) = ([], false, ':' :: ':' :: rest) := by
    simp [readGroups, readSeparator, readIpv4Addr_eq, readNumber_colon]
  have noAddress (rest : List Char) : readIpv4Addr ('f' :: rest) = none := by
    simp [readIpv4Addr_eq, readSeparator, readNumber, toDigit]
  have group (rest : List Char) : readNumber 16 4 UInt16.size true (Nat.toDigits 16 0xffff ++ ':' :: rest) =
      some (0xffff, ':' :: rest) :=
    readGroup 0 0xffff (ends_colon 16 rest)
  rw [ffff] at group ⊢
  simp only [List.cons_append, List.nil_append] at group ⊢
  simp only [readIpv6Addr, head]
  simp only [readGroups, readSeparator, noAddress, group, embedded, bytes_joined, Nat.reduceLT, if_true, List.length_nil,
    Nat.reduceAdd, Nat.reduceSub]
  rfl

theorem parseIpAddr_v6 {text : String} {segments : List UInt16} (plain : readIpv4Addr text.toList = none)
    (read : readIpv6Addr text.toList = some (segments, [])) : parseIpAddr text = some (.v6 segments) := by
  simp [parseIpAddr, readIpAddr, plain, read]

theorem parseIpAddr_displayIpv6 {segments : List UInt16} (eight : segments.length = 8) :
    parseIpAddr (displayIpv6 segments) = some (.v6 segments) := by
  unfold displayIpv6
  split
  · next ab cd =>
    have text : ("::ffff:" ++
        Ipv4Addr.toString ⟨(ab >>> 8).toUInt8, ab.toUInt8, (cd >>> 8).toUInt8, cd.toUInt8⟩).toList =
          ':' :: ':' :: (Nat.toDigits 16 0xffff ++
            ':' :: (Ipv4Addr.toString ⟨(ab >>> 8).toUInt8, ab.toUInt8, (cd >>> 8).toUInt8, cd.toUInt8⟩).toList) := by
      rw [String.toList_append]
      rfl
    apply parseIpAddr_v6
    · rw [text]
      simp [readIpv4Addr_eq, readSeparator, readNumber_colon]
    · rw [text]
      exact readIpv6Addr_mapped ab cd
  · dsimp only
    split_ifs with long
    · have text : (hex (segments.take (longestZeros segments).1) ++ "::" ++
          hex (segments.drop ((longestZeros segments).1 + (longestZeros segments).2))).toList =
            groupsText 0 (segments.take (longestZeros segments).1) ++ ':' :: ':' ::
              groupsText 0 (segments.drop ((longestZeros segments).1 + (longestZeros segments).2)) := by
        simp [toList_hex]
      apply parseIpAddr_v6
      · rw [text]
        exact readIpv4Addr_plain (by simp [dot_not_mem_groupsText])
      · rw [text]
        exact readIpv6Addr_compressed eight long (longestZeros_zerosAt segments)
    · apply parseIpAddr_v6
      · rw [toList_hex]
        exact readIpv4Addr_plain (dot_not_mem_groupsText 0 segments)
      · rw [toList_hex]
        exact readIpv6Addr_groups eight

end Display

section Trim

variable {text : String} {pattern : Char -> Bool}

theorem trimMatches_toList : (trimMatches pattern text).toList = (text.toList.dropWhile pattern).rdropWhile pattern := by
  simp [trimMatches, List.rdropWhile]

-- What the right end is trimmed of, the left end does not show.
theorem dropWhile_rdropWhile (chars : List Char) :
    ((chars.dropWhile pattern).rdropWhile pattern).dropWhile pattern =
      (chars.dropWhile pattern).rdropWhile pattern := by
  rw [List.dropWhile_eq_self_iff]
  intro nonempty
  have ends := List.rdropWhile_prefix pattern (chars.dropWhile pattern)
  rw [ends.getElem nonempty]
  exact List.dropWhile_get_zero_not pattern chars _

theorem trim_trim (text : String) : trim (trim text) = trim text := by
  rw [← String.toList_inj, trim, trimMatches_toList, trim, trimMatches_toList, dropWhile_rdropWhile,
    List.rdropWhile_idempotent]

theorem trimMatches_plain (plain : ∀ c ∈ text.toList, pattern c = false) : trimMatches pattern text = text := by
  have left : text.toList.dropWhile pattern = text.toList := by
    rw [List.dropWhile_eq_self_iff]
    intro nonempty
    simp [plain _ (List.getElem_mem nonempty)]
  have right : text.toList.rdropWhile pattern = text.toList := by
    rw [List.rdropWhile_eq_self_iff]
    intro nonempty
    simp [plain _ (List.getLast_mem nonempty)]
  rw [← String.toList_inj, trimMatches_toList, left, right]

def isPrinted (c : Char) : Bool :=
  0x21 ≤ c.toNat && c.toNat ≤ 0x7e

theorem isPrinted_blank {c : Char} (printed : isPrinted c = true) : isWhitespace c = false := by
  simp only [isPrinted, Bool.and_eq_true, decide_eq_true_eq] at printed
  simp only [isWhitespace, Bool.or_eq_false_iff, Bool.and_eq_false_iff, decide_eq_false_iff_not]
  omega

theorem toDigit_printed {radix : Nat} {c : Char} (readable : (toDigit radix c).isSome = true) : isPrinted c = true := by
  have within {low high : Char} (range : (low ≤ c && c ≤ high) = true) (least : 0x21 ≤ low.toNat)
      (most : high.toNat ≤ 0x7e) : isPrinted c = true := by
    simp only [Bool.and_eq_true, decide_eq_true_eq, Char.le_def, UInt32.le_iff_toNat_le] at range
    simp only [isPrinted, Bool.and_eq_true, decide_eq_true_eq]
    exact ⟨least.trans range.1, range.2.trans most⟩
  unfold toDigit at readable
  dsimp only at readable
  split_ifs at readable with decimal lower upper
  · exact within decimal (by decide) (by decide)
  · exact within lower (by decide) (by decide)
  · exact within upper (by decide) (by decide)
  · cases readable

theorem inAddress_printed {c : Char} (within : inAddress c = true) : isPrinted c = true := by
  simp only [inAddress, Bool.or_eq_true, decide_eq_true_eq] at within
  obtain (digit | rfl) | rfl := within
  · exact toDigit_printed digit
  · decide
  · decide

theorem trim_printed (printed : ∀ c ∈ text.toList, isPrinted c = true) : trim text = text :=
  trimMatches_plain fun c member => isPrinted_blank (printed c member)

end Trim

section Parsed

variable {text : String} {address : IpAddr}

def IpAddr.WellFormed : IpAddr -> Prop
  | .v4 _ => True
  | .v6 segments => segments.length = 8

theorem readGroups_length (slots index : Nat) (input : List Char) : (readGroups slots index input).1.length ≤ slots := by
  induction slots generalizing index input with
  | zero => simp [readGroups]
  | succ slots ih =>
    simp only [readGroups]
    split
    · next embedded =>
      split_ifs at embedded with room
      simp only [List.length_cons, List.length_nil]
      omega
    · split
      · simpa using ih _ _
      · simp

theorem readIpv6Addr_length {input rest : List Char} {segments : List UInt16}
    (read : readIpv6Addr input = some (segments, rest)) : segments.length = 8 := by
  have headLength := readGroups_length 8 0 input
  unfold readIpv6Addr at read
  dsimp only at read
  split_ifs at read with full
  · rw [← (Prod.mk.inj (Option.some.inj read)).1]
    exact full
  · split at read
    · next after _ =>
      have tailLength := readGroups_length (8 - ((readGroups 8 0 input).1.length + 1)) 0 after
      rw [← (Prod.mk.inj (Option.some.inj read)).1]
      simp only [List.length_append, List.length_replicate]
      omega
    · cases read

theorem readIpAddr_takes : Takes readIpAddr := by
  intro input value rest read
  unfold readIpAddr at read
  split at read
  · next ip after found =>
    obtain ⟨_, rfl⟩ := Prod.mk.inj (Option.some.inj read)
    exact readIpv4Addr_takes input ip _ found
  · obtain ⟨⟨segments, after⟩, found, same⟩ := Option.map_eq_some_iff.mp read
    obtain ⟨_, rfl⟩ := Prod.mk.inj same
    exact readIpv6Addr_takes input segments _ found

theorem parseIpAddr_read (parsed : parseIpAddr text = some address) : readIpAddr text.toList = some (address, []) := by
  unfold parseIpAddr at parsed
  split at parsed
  · next read =>
    rw [← Option.some.inj parsed]
    exact read
  · cases parsed

theorem parseIpAddr_chars (parsed : parseIpAddr text = some address) : text.toList.all inAddress = true := by
  obtain ⟨taken, whole, all⟩ := readIpAddr_takes _ _ _ (parseIpAddr_read parsed)
  rw [whole, List.append_nil]
  exact all

theorem parseIpAddr_wellFormed (parsed : parseIpAddr text = some address) : address.WellFormed := by
  have read := parseIpAddr_read parsed
  unfold readIpAddr at read
  split at read
  · obtain ⟨rfl, _⟩ := Prod.mk.inj (Option.some.inj read)
    trivial
  · obtain ⟨⟨segments, after⟩, found, same⟩ := Option.map_eq_some_iff.mp read
    obtain ⟨rfl, _⟩ := Prod.mk.inj same
    exact readIpv6Addr_length found

theorem parseIpAddr_toString (wellFormed : address.WellFormed) : parseIpAddr address.toString = some address := by
  cases address with
  | v4 ip =>
    have read := readIpv4Addr_toString ip (ends_nil 10)
    rw [List.append_nil] at read
    simp [parseIpAddr, readIpAddr, IpAddr.toString, read]
  | v6 segments => exact parseIpAddr_displayIpv6 wellFormed

theorem trim_toString (wellFormed : address.WellFormed) : trim address.toString = address.toString := by
  have within := parseIpAddr_chars (parseIpAddr_toString wellFormed)
  rw [List.all_eq_true] at within
  exact trim_printed fun c member => inAddress_printed (within c member)

end Parsed

end RustStd
