import Mathlib.Data.BitVec
import Muxrd.Lib.Run
import Muxrd.Types

set_option autoImplicit false

namespace Muxrd.Registry

def hexDigit (value : Nat) : Char :=
  "0123456789abcdef".toList.getD (value % 16) '0'

-- format!("{:032x}"): the most significant digit first, always 32 digits.
def mintConnectionId (random : BitVec 128) : String :=
  String.ofList ((List.range 32).map fun index => hexDigit (random.toNat / 16 ^ (31 - index)))

theorem mintConnectionId_nonempty (random : BitVec 128) : mintConnectionId random ≠ "" := by
  intro empty
  have length := congrArg (fun text : String => text.toList.length) empty
  simp [mintConnectionId] at length

theorem hexDigit_injective {first second : Nat} (same : hexDigit first = hexDigit second) :
    first % 16 = second % 16 := by
  have digits : ∀ left right : Fin 16, "0123456789abcdef".toList.getD left.val '0' =
      "0123456789abcdef".toList.getD right.val '0' -> left = right := by decide
  have bound (value : Nat) : value % 16 < 16 := Nat.mod_lt value (by decide)
  exact congrArg Fin.val (digits ⟨first % 16, bound first⟩ ⟨second % 16, bound second⟩ same)

theorem digits_injective {first second places : Nat}
    (same : ∀ place < places, first / 16 ^ place % 16 = second / 16 ^ place % 16) :
    first % 16 ^ places = second % 16 ^ places := by
  induction places with
  | zero => simp [Nat.mod_one]
  | succ places ih =>
    have lower := ih fun place below => same place (Nat.lt_succ_of_lt below)
    rw [Nat.mod_pow_succ, Nat.mod_pow_succ, lower, same places (Nat.lt_succ_self places)]

theorem mintConnectionId_injective {first second : BitVec 128}
    (same : mintConnectionId first = mintConnectionId second) : first = second := by
  have digits := String.ofList_injective same
  have place (index : Nat) (below : index < 32) :
      hexDigit (first.toNat / 16 ^ (31 - index)) = hexDigit (second.toNat / 16 ^ (31 - index)) :=
    List.map_inj_left.mp digits index (List.mem_range.mpr below)
  have values : first.toNat % 16 ^ 32 = second.toNat % 16 ^ 32 := by
    apply digits_injective
    intro index below
    have there := hexDigit_injective (place (31 - index) (by omega))
    rwa [Nat.sub_sub_self (by omega)] at there
  apply BitVec.eq_of_toNat_eq
  have small (value : BitVec 128) : value.toNat % 16 ^ 32 = value.toNat := Nat.mod_eq_of_lt value.isLt
  rwa [small, small] at values

structure Registries where
  control : ControlRegistry
  viewState : ViewStateRegistry
  channels : Channels RelayControl
  deriving DecidableEq

def Registries.empty : Registries :=
  { control := ∅, viewState := ∅, channels := ∅ }

inductive Event
  | insertView (random : BitVec 128) (entry : ViewStateEntry)
  | insertControl (random : BitVec 128) (session : String) (sender : Nat) (readOnly : Bool)
  | send (sender : Nat) (cmd : RelayControl)
  | receive (sender : Nat)
  | updateView (connectionId : String) (entry : ViewStateEntry)
  | removeControl (connectionId : String)
  | removeView (connectionId : String)
  | dropReceiver (sender : Nat)

def step (registries : Registries) : Event -> Option Registries
  | .insertView random entry =>
    -- Minted ids never repeat.
    if mintConnectionId random ∈ registries.viewState then none
    else some { registries with viewState := registries.viewState.insert (mintConnectionId random) entry }
  | .insertControl random session sender readOnly =>
    if mintConnectionId random ∈ registries.control ∨ sender ∈ registries.channels then none
    else
      some { registries with
        control := registries.control.insert (mintConnectionId random) { session, sender, readOnly }
        channels := registries.channels.insert sender { queue := [], receiverAlive := true } }
  | .send sender cmd =>
    (registries.channels.send sender cmd).map fun channels => { registries with channels }
  | .receive sender =>
    match registries.channels.lookup sender with
    | some channel =>
      match channel.queue with
      | _ :: rest =>
        some { registries with channels := registries.channels.insert sender { channel with queue := rest } }
      | [] => none
    | none => none
  | .updateView connectionId entry =>
    if connectionId ∈ registries.viewState then
      some { registries with viewState := registries.viewState.insert connectionId entry }
    else none
  | .removeControl connectionId =>
    some { registries with control := registries.control.erase connectionId }
  | .removeView connectionId =>
    some { registries with viewState := registries.viewState.erase connectionId }
  | .dropReceiver sender =>
    match registries.channels.lookup sender with
    | some channel =>
      some { registries with
        channels := registries.channels.insert sender { channel with receiverAlive := false } }
    | none => none

def Reachable (registries : Registries) : Prop :=
  Transition.Reachable step Registries.empty registries

structure WellFormed (registries : Registries) : Prop where
  keyed : ∀ connectionId entry, registries.control.lookup connectionId = some entry -> connectionId ≠ ""
  owned : ∀ connectionId entry, registries.control.lookup connectionId = some entry ->
    entry.sender ∈ registries.channels
  distinct : ∀ first second left right, registries.control.lookup first = some left ->
    registries.control.lookup second = some right -> left.sender = right.sender -> first = second

theorem WellFormed.of_channels {registries : Registries} (wellFormed : WellFormed registries)
    {channels : Channels RelayControl} (kept : ∀ sender ∈ registries.channels, sender ∈ channels) :
    WellFormed { registries with channels } :=
  { keyed := wellFormed.keyed
    owned := fun connectionId entry found => kept _ (wellFormed.owned connectionId entry found)
    distinct := wellFormed.distinct }

theorem WellFormed.of_view {registries : Registries} (wellFormed : WellFormed registries)
    (viewState : ViewStateRegistry) : WellFormed { registries with viewState } :=
  { keyed := wellFormed.keyed
    owned := wellFormed.owned
    distinct := wellFormed.distinct }

theorem WellFormed.empty : WellFormed Registries.empty := by
  constructor <;> simp [Registries.empty]

theorem wellFormed_insertControl {registries : Registries} (wellFormed : WellFormed registries)
    (random : BitVec 128) (session : String) (sender : Nat) (readOnly : Bool)
    (fresh : sender ∉ registries.channels) :
    WellFormed { registries with
      control := registries.control.insert (mintConnectionId random) { session, sender, readOnly }
      channels := registries.channels.insert sender { queue := [], receiverAlive := true } } := by
  have unused (connectionId : String) (entry : ControlEntry)
      (found : registries.control.lookup connectionId = some entry) : entry.sender ≠ sender := by
    intro same
    exact fresh (same ▸ wellFormed.owned connectionId entry found)
  constructor
  · intro connectionId entry found
    by_cases same : connectionId = mintConnectionId random
    · rw [same]
      exact mintConnectionId_nonempty random
    · rw [AList.lookup_insert_ne same] at found
      exact wellFormed.keyed connectionId entry found
  · intro connectionId entry found
    by_cases same : connectionId = mintConnectionId random
    · subst same
      rw [AList.lookup_insert] at found
      simp [← Option.some.inj found]
    · rw [AList.lookup_insert_ne same] at found
      simp [AList.mem_insert, wellFormed.owned connectionId entry found]
  · intro first second left right foundLeft foundRight shared
    by_cases newLeft : first = mintConnectionId random <;>
      by_cases newRight : second = mintConnectionId random
    · rw [newLeft, newRight]
    · subst newLeft
      rw [AList.lookup_insert] at foundLeft
      rw [AList.lookup_insert_ne newRight] at foundRight
      exact absurd (by rw [← shared, ← Option.some.inj foundLeft]) (unused second right foundRight)
    · subst newRight
      rw [AList.lookup_insert_ne newLeft] at foundLeft
      rw [AList.lookup_insert] at foundRight
      exact absurd (by rw [shared, ← Option.some.inj foundRight]) (unused first left foundLeft)
    · rw [AList.lookup_insert_ne newLeft] at foundLeft
      rw [AList.lookup_insert_ne newRight] at foundRight
      exact wellFormed.distinct first second left right foundLeft foundRight shared

theorem wellFormed_removeControl {registries : Registries} (wellFormed : WellFormed registries)
    (connectionId : String) :
    WellFormed { registries with control := registries.control.erase connectionId } := by
  have kept (other : String) (entry : ControlEntry)
      (found : (registries.control.erase connectionId).lookup other = some entry) :
      registries.control.lookup other = some entry := by
    by_cases same : other = connectionId
    · subst same
      simp at found
    · rwa [AList.lookup_erase_ne same] at found
  constructor
  · exact fun other entry found => wellFormed.keyed other entry (kept other entry found)
  · exact fun other entry found => wellFormed.owned other entry (kept other entry found)
  · exact fun first second left right foundLeft foundRight =>
      wellFormed.distinct first second left right (kept first left foundLeft) (kept second right foundRight)

theorem wellFormed_step (registries : Registries) (event : Event) (next : Registries)
    (wellFormed : WellFormed registries)
    (taken : step registries event = some next) : WellFormed next := by
  have replaced (sender : Nat) (channel : Channel RelayControl) :
      WellFormed { registries with channels := registries.channels.insert sender channel } :=
    wellFormed.of_channels fun other member => by simp [AList.mem_insert, member]
  cases event with
  | insertView random entry =>
    simp only [step] at taken
    split_ifs at taken
    exact Option.some.inj taken ▸ wellFormed.of_view _
  | insertControl random session sender readOnly =>
    simp only [step] at taken
    split_ifs at taken with used
    exact Option.some.inj taken ▸
      wellFormed_insertControl wellFormed random session sender readOnly fun member => used (.inr member)
  | send sender cmd =>
    simp only [step, Option.map_eq_some_iff] at taken
    obtain ⟨channels, sent, rfl⟩ := taken
    exact wellFormed.of_channels fun _ member => Channels.send_keeps sent member
  | receive sender =>
    simp only [step] at taken
    split at taken
    · split at taken
      · exact Option.some.inj taken ▸ replaced _ _
      · cases taken
    · cases taken
  | updateView connectionId entry =>
    simp only [step] at taken
    split_ifs at taken
    exact Option.some.inj taken ▸ wellFormed.of_view _
  | removeControl connectionId =>
    exact Option.some.inj taken ▸ wellFormed_removeControl wellFormed connectionId
  | removeView connectionId =>
    exact Option.some.inj taken ▸ wellFormed.of_view _
  | dropReceiver sender =>
    simp only [step] at taken
    split at taken
    · exact Option.some.inj taken ▸ replaced _ _
    · cases taken

theorem wellFormed_of_reachable {registries : Registries} (reachable : Reachable registries) :
    WellFormed registries :=
  Transition.invariant_of_reachable wellFormed_step WellFormed.empty reachable

end Muxrd.Registry
