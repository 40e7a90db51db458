import Muxrd.Multiplexer.Actions
import Muxrd.Multiplexer.Zellij

set_option autoImplicit false

namespace Muxrd.Ephemeral

open Actions Zellij

-- The size of every short-lived client, larger than any phone's.
def neutralAttachRows : UInt16 := 100

def neutralAttachCols : UInt16 := 320

def logDrainLimit : Nat := 200

inductive Read
  -- The deadline passed before the read.
  | late
  -- The stream is closed, or the socket's own timeout has struck.
  | closed
  | message (msg : ServerToClientMsg)
  deriving DecidableEq, Repr

inductive Failure
  | handshake (message : String)
  | timedOut (messages : Nat)
  | closed
  | logError (lines : List String)
  | exited (reason : String)
  | exceeded
  | emptyLog
  | undecoded (message : String)
  | noTabs
  | zeroArea (rows cols : UInt64)
  deriving DecidableEq, Repr

structure Connection where
  handshake : Except String Unit
  receive : Nat -> Read

-- What the drain loop reads of a stream; from the deadline on it reads nothing.
def received (stream : List ServerToClientMsg) (deadline : Option Nat) (index : Nat) : Read :=
  if deadline.any (· ≤ index) then .late
  else
    match stream[index]? with
    | some msg => .message msg
    | none => .closed

def streaming (stream : List ServerToClientMsg) (deadline : Option Nat) : Connection :=
  { handshake := .ok (), receive := received stream deadline }

section Loop

variable (receive : Nat -> Read)

def drain : Nat -> Nat -> Except Failure (List String)
  | 0, _ => .error .exceeded
  | left + 1, index =>
    match receive index with
    | .late => .error (.timedOut index)
    | .closed => .error .closed
    | .message (.log lines) => .ok lines
    | .message (.logError lines) => .error (.logError lines)
    | .message (.exit reason) => .error (.exited reason)
    | .message .unblockInputThread => drain left (index + 1)
    | .message .other => drain left (index + 1)

end Loop

def querySession (connection : Connection) : Except Failure (List String) :=
  match connection.handshake with
  | .error message => .error (.handshake message)
  | .ok _ => drain connection.receive logDrainLimit 0

def queryJson (connection : Connection) : Except Failure String :=
  match querySession connection with
  | .error failure => .error failure
  | .ok lines =>
    let json := "\n".intercalate lines
    if json.isEmpty then .error .emptyLog else .ok json

def queryListTabsJson (connection : Connection) : Except Failure String :=
  queryJson connection

def queryListPanesJson (connection : Connection) : Except Failure String :=
  queryJson connection

/-- A tab of `ListTabs`, as far as the size query reads it. -/
structure TabArea where
  active : Bool
  displayAreaRows : UInt64
  displayAreaColumns : UInt64
  deriving DecidableEq, Repr

def clampUsizeDim (value : UInt64) : UInt16 :=
  (min value 65535).toUInt16

-- The active tab, or the first one; a reading of zero is refused.
def areaSize (tabs : List TabArea) : Except Failure (UInt16 × UInt16) :=
  match (tabs.find? (·.active)).or tabs.head? with
  | none => .error .noTabs
  | some tab =>
    let rows := clampUsizeDim tab.displayAreaRows
    let cols := clampUsizeDim tab.displayAreaColumns
    if rows = 0 ∨ cols = 0 then .error (.zeroArea tab.displayAreaRows tab.displayAreaColumns)
    else .ok (rows, cols)

/-- `areas` is serde_json's decoder. -/
def querySessionSize (areas : String -> Except String (List TabArea)) (connection : Connection) :
    Except Failure (UInt16 × UInt16) :=
  match queryListTabsJson connection with
  | .error failure => .error failure
  | .ok json =>
    match areas json with
    | .error message => .error (.undecoded message)
    | .ok tabs => areaSize tabs

def queryLayout (decoders : Decoders) (tabs panes : Connection) : Except Failure LayoutSnapshot :=
  match queryListTabsJson tabs with
  | .error failure => .error failure
  | .ok tabsJson =>
    match queryListPanesJson panes with
    | .error failure => .error failure
    | .ok panesJson => (parseZellijLayout decoders tabsJson panesJson).mapError .undecoded

section Stream

def Read.passes : Read -> Bool
  | .message .unblockInputThread | .message .other => true
  | _ => false

structure Logs (receive : Nat -> Read) (lines : List String) : Prop where
  first : ∃ index < logDrainLimit, receive index = .message (.log lines) ∧
    ∀ earlier < index, (receive earlier).passes = true

variable {receive : Nat -> Read} {lines : List String}

theorem drain_ok {left index : Nat} :
    drain receive left index = .ok lines ↔ ∃ found, index ≤ found ∧ found < index + left ∧
      receive found = .message (.log lines) ∧
      ∀ earlier, index ≤ earlier -> earlier < found -> (receive earlier).passes = true := by
  induction left generalizing index with
  | zero =>
    constructor
    · intro impossible
      cases impossible
    · rintro ⟨found, onward, within, _⟩
      omega
  | succ left ih =>
    have later (passes : (receive index).passes = true) :
        drain receive left (index + 1) = .ok lines ↔ ∃ found, index ≤ found ∧ found < index + (left + 1) ∧
          receive found = .message (.log lines) ∧
          ∀ earlier, index ≤ earlier -> earlier < found -> (receive earlier).passes = true := by
      rw [ih]
      constructor
      · rintro ⟨found, onward, within, here, before⟩
        refine ⟨found, by omega, by omega, here, fun earlier low high => ?_⟩
        rcases Nat.eq_or_lt_of_le low with rfl | low
        · exact passes
        · exact before earlier low high
      · rintro ⟨found, onward, within, here, before⟩
        rcases Nat.eq_or_lt_of_le onward with rfl | beyond
        · simp [here, Read.passes] at passes
        · exact ⟨found, beyond, by omega, here, fun earlier low high => before earlier (by omega) high⟩
    have stopped (stops : (receive index).passes = false) (silent : receive index ≠ .message (.log lines)) :
        ¬ ∃ found, index ≤ found ∧ found < index + (left + 1) ∧ receive found = .message (.log lines) ∧
          ∀ earlier, index ≤ earlier -> earlier < found -> (receive earlier).passes = true := by
      rintro ⟨found, onward, _, here, before⟩
      rcases Nat.eq_or_lt_of_le onward with rfl | beyond
      · exact silent here
      · rw [before index (Nat.le_refl _) beyond] at stops
        cases stops
    rw [drain]
    cases here : receive index with
    | late => exact iff_of_false (by simp) (stopped (by rw [here]; rfl) (by simp [here]))
    | closed => exact iff_of_false (by simp) (stopped (by rw [here]; rfl) (by simp [here]))
    | message msg =>
      cases msg with
      | unblockInputThread => exact later (by rw [here]; rfl)
      | other => exact later (by rw [here]; rfl)
      | logError lines => exact iff_of_false (by simp) (stopped (by rw [here]; rfl) (by simp [here]))
      | exit reason => exact iff_of_false (by simp) (stopped (by rw [here]; rfl) (by simp [here]))
      | log read =>
        constructor
        · intro answered
          obtain rfl := Except.ok.inj answered
          exact ⟨index, Nat.le_refl _, by omega, here, fun earlier low high => by omega⟩
        · rintro ⟨found, onward, _, also, before⟩
          rcases Nat.eq_or_lt_of_le onward with rfl | beyond
          · cases here.symm.trans also
            rfl
          · have passes := before index (Nat.le_refl _) beyond
            simp [here, Read.passes] at passes

theorem querySession_ok {connection : Connection} : querySession connection = .ok lines ↔
    connection.handshake = .ok () ∧ Logs connection.receive lines := by
  unfold querySession
  cases done : connection.handshake with
  | error message => simp
  | ok _ =>
    simp only [true_and, drain_ok]
    constructor
    · rintro ⟨found, _, within, here, before⟩
      exact ⟨found, by omega, here, fun earlier high => before earlier (Nat.zero_le _) high⟩
    · rintro ⟨found, within, here, before⟩
      exact ⟨found, Nat.zero_le _, by omega, here, fun earlier _ high => before earlier high⟩

theorem queryJson_ok {connection : Connection} {json : String} : queryJson connection = .ok json ↔
    json ≠ "" ∧ ∃ lines, connection.handshake = .ok () ∧ Logs connection.receive lines ∧
      json = "\n".intercalate lines := by
  unfold queryJson
  cases queried : querySession connection with
  | error failure =>
    refine iff_of_false (by simp) ?_
    rintro ⟨_, lines, done, logs, _⟩
    rw [querySession_ok.mpr ⟨done, logs⟩] at queried
    cases queried
  | ok lines =>
    obtain ⟨done, logs⟩ := querySession_ok.mp queried
    have only {other : List String} (said : Logs connection.receive other) : other = lines := by
      have again := querySession_ok.mpr ⟨done, said⟩
      exact Except.ok.inj (again.symm.trans queried)
    dsimp only
    split_ifs with empty
    · refine iff_of_false (by simp) ?_
      rintro ⟨spoken, other, _, said, rfl⟩
      rw [only said] at spoken
      exact spoken (String.isEmpty_iff.mp empty)
    · constructor
      · intro same
        obtain rfl := Except.ok.inj same
        exact ⟨fun nothing => empty (String.isEmpty_iff.mpr nothing), lines, done, logs, rfl⟩
      · rintro ⟨_, other, _, said, rfl⟩
        rw [only said]

theorem mem_of_received {stream : List ServerToClientMsg} {deadline : Option Nat} {index : Nat}
    {msg : ServerToClientMsg} (read : received stream deadline index = .message msg) : msg ∈ stream := by
  unfold received at read
  split_ifs at read
  cases found : stream[index]? with
  | none => simp [found] at read
  | some streamed =>
    simp only [found, Read.message.injEq] at read
    rw [← read]
    exact List.mem_of_getElem? found

theorem areaSize_ok {tabs : List TabArea} {rows cols : UInt16} (sized : areaSize tabs = .ok (rows, cols)) :
    ∃ tab ∈ tabs, rows = clampUsizeDim tab.displayAreaRows ∧ cols = clampUsizeDim tab.displayAreaColumns := by
  unfold areaSize at sized
  cases chosen : (tabs.find? (·.active)).or tabs.head? with
  | none => simp [chosen] at sized
  | some tab =>
    simp only [chosen] at sized
    split_ifs at sized
    have listed : tab ∈ tabs := by
      rcases Option.or_eq_some_iff.mp chosen with active | ⟨_, first⟩
      · exact List.mem_of_find?_eq_some active
      · exact List.mem_of_head? first
    obtain ⟨rfl, rfl⟩ := Prod.mk.inj (Except.ok.inj sized)
    exact ⟨tab, listed, rfl, rfl⟩

theorem querySessionSize_ok {areas : String -> Except String (List TabArea)} {connection : Connection}
    {rows cols : UInt16} (sized : querySessionSize areas connection = .ok (rows, cols)) :
    ∃ lines tabs, Logs connection.receive lines ∧ areas ("\n".intercalate lines) = .ok tabs ∧
      ∃ tab ∈ tabs, rows = clampUsizeDim tab.displayAreaRows ∧ cols = clampUsizeDim tab.displayAreaColumns := by
  unfold querySessionSize queryListTabsJson at sized
  cases queried : queryJson connection with
  | error failure => simp [queried] at sized
  | ok json =>
    obtain ⟨_, lines, _, logs, rfl⟩ := queryJson_ok.mp queried
    simp only [queried] at sized
    cases decoded : areas ("\n".intercalate lines) with
    | error message => simp [decoded] at sized
    | ok tabs =>
      simp only [decoded] at sized
      exact ⟨lines, tabs, logs, decoded, areaSize_ok sized⟩

theorem clampUsizeDim_toNat (value : UInt64) : (clampUsizeDim value).toNat = min value.toNat 65535 := by
  have unfolded : min value 65535 = if value ≤ 65535 then value else 65535 := rfl
  rw [clampUsizeDim, unfolded]
  split_ifs with large
  · have small : value.toNat ≤ 65535 := by simpa [UInt64.le_iff_toNat_le] using large
    rw [UInt64.toNat_toUInt16]
    omega
  · have wide : ¬ value.toNat ≤ 65535 := by simpa [UInt64.le_iff_toNat_le] using large
    rw [Nat.min_eq_right (by omega)]
    rfl

end Stream

end Muxrd.Ephemeral
