import Mathlib.Data.UInt
import Mathlib.Data.List.Basic

set_option autoImplicit false

namespace Base64

structure Engine where
  encode : List UInt8 -> String
  decode : String -> Option (List UInt8)

def isSymbol (c : Char) : Bool :=
  ('A' ≤ c && c ≤ 'Z') || ('a' ≤ c && c ≤ 'z') || ('0' ≤ c && c ≤ '9') || c = '-' || c = '_'

structure Engine.Lawful (engine : Engine) : Prop where
  symbols : ∀ bytes, ∀ c ∈ (engine.encode bytes).toList, isSymbol c = true
  roundTrip : ∀ bytes, engine.decode (engine.encode bytes) = some bytes

def symbol (sextet : Nat) : Char :=
  if sextet < 26 then .ofNat (sextet + 65)
  else if sextet < 52 then .ofNat (sextet + 71)
  else if sextet < 62 then .ofNat (sextet - 4)
  else if sextet = 62 then '-'
  else '_'

def sextet (c : Char) : Option Nat :=
  if 'A' ≤ c && c ≤ 'Z' then some (c.toNat - 65)
  else if 'a' ≤ c && c ≤ 'z' then some (c.toNat - 71)
  else if '0' ≤ c && c ≤ '9' then some (c.toNat + 4)
  else if c = '-' then some 62
  else if c = '_' then some 63
  else none

def toSextets : List UInt8 -> List Nat
  | a :: b :: c :: rest =>
    a.toNat / 4 :: (a.toNat % 4 * 16 + b.toNat / 16) :: (b.toNat % 16 * 4 + c.toNat / 64) :: c.toNat % 64 ::
      toSextets rest
  | [a, b] => [a.toNat / 4, a.toNat % 4 * 16 + b.toNat / 16, b.toNat % 16 * 4]
  | [a] => [a.toNat / 4, a.toNat % 4 * 16]
  | [] => []

def ofSextets : List Nat -> Option (List UInt8)
  | a :: b :: c :: d :: rest =>
    (ofSextets rest).map fun bytes =>
      .ofNat (a * 4 + b / 16) :: .ofNat (b % 16 * 16 + c / 4) :: .ofNat (c % 4 * 64 + d) :: bytes
  | [a, b, c] => if c % 4 = 0 then some [.ofNat (a * 4 + b / 16), .ofNat (b % 16 * 16 + c / 4)] else none
  | [a, b] => if b % 16 = 0 then some [.ofNat (a * 4 + b / 16)] else none
  | [_] => none
  | [] => some []

/-- Without padding; bits that fill up the last sextet have to be zero. -/
def urlSafeNoPad : Engine where
  encode bytes := String.ofList ((toSextets bytes).map symbol)
  decode text := (text.toList.mapM sextet).bind ofSextets

section Lawful

theorem sextet_symbol {value : Nat} (small : value < 64) : sextet (symbol value) = some value := by
  have all : ∀ value : Fin 64, sextet (symbol value) = some value.val := by decide
  exact all ⟨value, small⟩

theorem isSymbol_symbol {value : Nat} (small : value < 64) : isSymbol (symbol value) = true := by
  have all : ∀ value : Fin 64, isSymbol (symbol value) = true := by decide
  exact all ⟨value, small⟩

theorem toSextets_lt (bytes : List UInt8) : ∀ value ∈ toSextets bytes, value < 64 := by
  fun_induction toSextets bytes with
  | case1 a b c rest ih =>
    have ha := a.toNat_lt
    have hb := b.toNat_lt
    have hc := c.toNat_lt
    simp only [List.forall_mem_cons]
    exact ⟨by omega, by omega, by omega, by omega, ih⟩
  | case2 a b =>
    have ha := a.toNat_lt
    have hb := b.toNat_lt
    simp only [List.forall_mem_cons]
    exact ⟨by omega, by omega, by omega, by simp⟩
  | case3 a =>
    have ha := a.toNat_lt
    simp only [List.forall_mem_cons]
    exact ⟨by omega, by omega, by simp⟩
  | case4 => simp

theorem byte_of_parts {byte : UInt8} {value : Nat} (same : value = byte.toNat) : UInt8.ofNat value = byte := by
  rw [same, UInt8.ofNat_toNat]

theorem ofSextets_toSextets (bytes : List UInt8) : ofSextets (toSextets bytes) = some bytes := by
  fun_induction toSextets bytes with
  | case1 a b c rest ih =>
    have hb := b.toNat_lt
    have hc := c.toNat_lt
    rw [ofSextets, ih, @byte_of_parts a _ (by omega), @byte_of_parts b _ (by omega),
      @byte_of_parts c _ (by omega), Option.map_some]
  | case2 a b =>
    have hb := b.toNat_lt
    rw [ofSextets, if_pos (by omega), @byte_of_parts a _ (by omega), @byte_of_parts b _ (by omega)]
  | case3 a => rw [ofSextets, if_pos (by omega), @byte_of_parts a _ (by omega)]
  | case4 => rfl

theorem mapM_sextet {values : List Nat} (small : ∀ value ∈ values, value < 64) :
    (values.map symbol).mapM sextet = some values := by
  induction values with
  | nil => rfl
  | cons value rest ih =>
    rw [List.forall_mem_cons] at small
    rw [List.map_cons, List.mapM_cons, sextet_symbol small.1, ih small.2]
    rfl

theorem urlSafeNoPad_lawful : urlSafeNoPad.Lawful where
  symbols bytes c member := by
    rw [urlSafeNoPad, String.toList_ofList, List.mem_map] at member
    obtain ⟨value, within, rfl⟩ := member
    exact isSymbol_symbol (toSextets_lt bytes value within)
  roundTrip bytes := by
    dsimp only [urlSafeNoPad]
    rw [String.toList_ofList, mapM_sextet (toSextets_lt bytes), Option.bind_some, ofSextets_toSextets]

end Lawful

end Base64
