import Mathlib.Data.List.DropRight
import Muxrd.Herdr.Deframing
import Muxrd.Herdr.Workspaces
import Muxrd.Lib.Net
import Muxrd.Lib.ReadLine
import Muxrd.Lib.Utf8

set_option autoImplicit false

namespace Muxrd.Calls

open Herdr RustStd Transport ReadLine
open Herdr.Deframing (IoError)

inductive Param
  | text (value : String)
  | flag (value : Bool)
  deriving DecidableEq, Repr

abbrev Params := List (String × Param)

structure ApiRequest where
  id : String
  method : String
  params : Params
  deriving DecidableEq, Repr

structure ApiErrorBody where
  code : String
  message : String
  deriving DecidableEq, Repr

inductive ApiResponseBody (Value : Type)
  | ok (result : Value)
  | err (error : ApiErrorBody)

/-- serde_json for the request and the envelope of the response, of which only the body is kept. -/
structure Serde (Value : Type) where
  toString : ApiRequest -> Except String String
  fromStr : String -> Except String (ApiResponseBody Value)

inductive ReadFault
  | io (error : IoError)
  | invalidUtf8
  deriving DecidableEq, Repr

inductive CallError
  | serialize (method error : String)
  | connect (socket : String)
  | write (method : String)
  | read (method : String) (fault : ReadFault)
  | closed (method : String)
  | exceeded (method : String)
  | parse (method error : String)
  deriving DecidableEq, Repr

def maxResponseBytes : Nat := 8 * 1024 * 1024

-- The outermost context of each error.
def CallError.display : CallError -> String
  | .serialize method _ => "serialize herdr " ++ method
  | .connect socket => "connect herdr JSON-API socket " ++ socket
  | .write method => "write herdr " ++ method ++ " request"
  | .read method _ => "read herdr " ++ method ++ " response"
  | .closed method => "herdr closed the JSON-API connection without responding to " ++ method
  | .exceeded method =>
    "herdr " ++ method ++ " response exceeded the " ++ ToString.toString maxResponseBytes ++
      "-byte limit without a newline"
  | .parse method _ => "parse herdr " ++ method ++ " response"

abbrev Stream := List (Arrival UInt8 IoError)

/-- What a call meets at the socket: nobody, or a peer that takes and sends so much. A timeout is a failed read. -/
inductive Meeting
  | refused
  | connected (taken : Nat) (arrives : Stream)

def isNewline (byte : UInt8) : Bool :=
  byte = 10

def trimEnd (text : String) : String :=
  String.ofList (text.toList.rdropWhile isWhitespace)

-- In UTF-8 the byte of the newline stands for nothing else.
def readResponse (method : String) (arrives : Stream) : Except CallError String :=
  match readUntil isNewline maxResponseBytes arrives with
  | .error fault => .error (.read method (.io fault))
  | .ok line =>
    match fromUtf8 line with
    | none => .error (.read method .invalidUtf8)
    | some resp =>
      if line.length = 0 then .error (.closed method)
      else if line.length ≥ maxResponseBytes && !line.getLast?.any isNewline then .error (.exceeded method)
      else .ok resp

section Round

variable {Value : Type} (serde : Serde Value) (socket : String)

def callRaw (req : ApiRequest) (meeting : Meeting) : Except CallError (ApiResponseBody Value) × List UInt8 :=
  match serde.toString req with
  | .error error => (.error (.serialize req.method error), [])
  | .ok json =>
    let line := asBytes (json.push '\n')
    match meeting with
    | .refused => (.error (.connect socket), [])
    | .connected taken arrives =>
      if line.length ≤ taken then
        (match readResponse req.method arrives with
          | .error error => .error error
          | .ok resp => (serde.fromStr (trimEnd resp)).mapError (.parse req.method), line)
      else (.error (.write req.method), line.take taken)

-- An error of herdr's is a failed ack; the payload of a success is ignored.
def callAction (req : ApiRequest) (meeting : Meeting) : Except CallError ActionAck × List UInt8 :=
  let (result, received) := callRaw serde socket req meeting
  (result.map fun
    | .ok _ => ackOk
    | .err error => ackErr (error.code ++ ": " ++ error.message), received)

end Round

structure Responds (arrives : Stream) (resp : String) : Prop where
  text : fromUtf8 (upTo isNewline ((content arrives).take maxResponseBytes)) = some resp
  sent : content arrives ≠ []
  ended : ((content arrives).take maxResponseBytes).any isNewline = true ∨
    (content arrives).length < maxResponseBytes ∧ failure arrives = none

theorem readResponse_ok_iff {method : String} {arrives : Stream} {resp : String} :
    readResponse method arrives = .ok resp ↔ Responds arrives resp := by
  have limited : 0 < maxResponseBytes := by decide
  have empty : upTo isNewline ((content arrives).take maxResponseBytes) = [] ↔ content arrives = [] := by
    constructor
    · intro nothing
      cases sent : content arrives with
      | nil => rfl
      | cons byte rest =>
        obtain ⟨limit, positive⟩ := Nat.exists_eq_succ_of_ne_zero (Nat.ne_of_gt limited)
        rw [sent, positive, List.take_succ_cons, upTo] at nothing
        split_ifs at nothing
    · intro nothing
      rw [nothing, List.take_nil]
      rfl
  by_cases readable : ((content arrives).take maxResponseBytes).any isNewline = true ∨
      maxResponseBytes ≤ (content arrives).length ∨ failure arrives = none
  · have line := readUntil_line readable
    -- Without a newline the line is all there is.
    have unended (noNewline : ((content arrives).take maxResponseBytes).any isNewline = false) :
        (upTo isNewline ((content arrives).take maxResponseBytes)).length ≥ maxResponseBytes ↔
          maxResponseBytes ≤ (content arrives).length := by
      rw [upTo_whole noNewline, List.length_take]
      omega
    unfold readResponse
    rw [line]
    cases text : fromUtf8 (upTo isNewline ((content arrives).take maxResponseBytes)) with
    | none =>
      constructor
      · intro read
        simp [text] at read
      · intro responds
        cases text.symm.trans responds.text
    | some found =>
      simp only [text, List.length_eq_zero_iff, empty, upTo_getLast?, Bool.and_eq_true, decide_eq_true_eq,
        Bool.not_eq_true']
      constructor
      · intro read
        split_ifs at read with silent exceeded
        obtain rfl := Except.ok.inj read
        refine ⟨text, silent, ?_⟩
        by_cases ended : ((content arrives).take maxResponseBytes).any isNewline = true
        · exact .inl ended
        · rw [Bool.not_eq_true] at ended
          have short : ¬ maxResponseBytes ≤ (content arrives).length :=
            fun long => exceeded ⟨(unended ended).mpr long, ended⟩
          refine .inr ⟨Nat.lt_of_not_le short, ?_⟩
          simpa [ended, short] using readable
      · intro responds
        have within : ¬ ((upTo isNewline ((content arrives).take maxResponseBytes)).length ≥ maxResponseBytes ∧
            ((content arrives).take maxResponseBytes).any isNewline = false) := by
          rintro ⟨long, noNewline⟩
          rcases responds.ended with ended | ⟨short, _⟩
          · cases noNewline.symm.trans ended
          · exact absurd ((unended noNewline).mp long) (Nat.not_le_of_lt short)
        rw [if_neg responds.sent, if_neg within, Option.some.inj (text.symm.trans responds.text)]
  · obtain ⟨noNewline, rest⟩ := not_or.mp readable
    obtain ⟨short, fails⟩ := not_or.mp rest
    rw [Bool.not_eq_true] at noNewline
    obtain ⟨fault, fails⟩ := Option.ne_none_iff_exists'.mp fails
    have read := readUntil_failed noNewline (Nat.lt_of_not_le short) fails
    constructor
    · intro ok
      simp [readResponse, read] at ok
    · intro responds
      rcases responds.ended with ended | ⟨_, calm⟩
      · cases noNewline.symm.trans ended
      · cases fails.symm.trans calm

section Round

variable {Value : Type} {serde : Serde Value} {socket : String} {req : ApiRequest} {meeting : Meeting}

/-- What herdr has received is the whole line of the request, and its answer reads as this body. -/
def Answers (serde : Serde Value) (req : ApiRequest) (meeting : Meeting) (received : List UInt8)
    (body : ApiResponseBody Value) : Prop :=
  ∃ json taken arrives resp, serde.toString req = .ok json ∧ meeting = .connected taken arrives ∧
    received = asBytes (json.push '\n') ∧ Responds arrives resp ∧ serde.fromStr (trimEnd resp) = .ok body

theorem callRaw_ok_iff {body : ApiResponseBody Value} :
    (callRaw serde socket req meeting).1 = .ok body ↔
      Answers serde req meeting (callRaw serde socket req meeting).2 body := by
  unfold callRaw Answers
  cases serialized : serde.toString req with
  | error error => simp
  | ok json =>
    cases meeting with
    | refused => simp
    | connected taken arrives =>
      by_cases whole : (asBytes (json.push '\n')).length ≤ taken
      · simp only [whole, if_true]
        constructor
        · intro called
          cases read : readResponse req.method arrives with
          | error error => simp [read] at called
          | ok resp =>
            cases parsed : serde.fromStr (trimEnd resp) with
            | error error => simp [read, parsed, Except.mapError] at called
            | ok found =>
              obtain rfl : found = body := by simpa [read, parsed, Except.mapError] using called
              exact ⟨json, taken, arrives, resp, rfl, rfl, rfl, readResponse_ok_iff.mp read, parsed⟩
        · rintro ⟨json', taken', arrives', resp, same, met, _, responds, parsed⟩
          obtain ⟨rfl, rfl⟩ := Meeting.connected.inj met
          simp [readResponse_ok_iff.mpr responds, parsed, Except.mapError]
      · simp only [whole, if_false]
        constructor
        · intro called
          cases called
        · rintro ⟨json', taken', arrives', resp, same, met, received, _⟩
          obtain rfl := Except.ok.inj same
          -- What was cut off is shorter than the line.
          have short := congrArg List.length received
          rw [List.length_take, Nat.min_eq_left (Nat.le_of_not_le whole)] at short
          exact absurd short.ge whole

theorem callAction_acknowledged_iff :
    (∃ ack, (callAction serde socket req meeting).1 = .ok ack ∧ ack.ok = true) ↔
      ∃ value, Answers serde req meeting (callAction serde socket req meeting).2 (.ok value) := by
  constructor
  · rintro ⟨ack, called, ok⟩
    cases raw : (callRaw serde socket req meeting).1 with
    | error error => simp [callAction, raw, Except.map] at called
    | ok body =>
      cases body with
      | ok value => exact ⟨value, callRaw_ok_iff.mp raw⟩
      | err error =>
        simp only [callAction, raw, Except.map, Except.ok.injEq] at called
        rw [← called] at ok
        cases ok
  · rintro ⟨value, answers⟩
    have raw : (callRaw serde socket req meeting).1 = .ok (.ok value) := callRaw_ok_iff.mpr answers
    exact ⟨ackOk, by simp [callAction, raw, Except.map], rfl⟩

end Round

end Muxrd.Calls
