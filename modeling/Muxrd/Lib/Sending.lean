import Mathlib.Data.List.Basic

set_option autoImplicit false

namespace Sending

variable {Message : Type}

/-- Where messages go. It takes `lasts` more of them before a send fails. -/
structure Pipe (Message : Type) where
  lasts : Nat
  received : List Message

abbrev Program (Message : Type) := ExceptT String (StateM (Pipe Message))

def send (failure : String) (message : Message) : Program Message Unit := do
  let pipe <- get
  match pipe.lasts with
  | 0 => throw failure
  | lasts + 1 => set { pipe with lasts, received := pipe.received ++ [message] }

def runProgram (program : Program Message Unit) (pipe : Pipe Message) : Except String Unit × Pipe Message :=
  program.run.run pipe

def Pipe.after (pipe : Pipe Message) (script : List Message) : Pipe Message :=
  { lasts := pipe.lasts - script.length, received := pipe.received ++ script.take pipe.lasts }

/-- The program sends the script as far as the pipe lasts, and succeeds exactly if all of it is sent. -/
structure Follows (program : Program Message Unit) (script : List Message) : Prop where
  pipe : ∀ pipe, (runProgram program pipe).2 = pipe.after script
  done : ∀ pipe, (runProgram program pipe).1 = .ok () ↔ script.length ≤ pipe.lasts

theorem runProgram_bind (first second : Program Message Unit) (pipe : Pipe Message) :
    runProgram (do first; second) pipe =
      match runProgram first pipe with
      | (.ok _, after) => runProgram second after
      | (.error failure, after) => (.error failure, after) := by
  simp only [runProgram, ExceptT.run_bind, StateT.run_bind]
  rcases first.run.run pipe with ⟨_ | _, after⟩ <;> rfl

theorem follows_send (failure : String) (message : Message) : Follows (send failure message) [message] := by
  constructor
  · rintro ⟨_ | lasts, received⟩
    · simp [Pipe.after]
      rfl
    · simp [Pipe.after]
      rfl
  · rintro ⟨_ | lasts, received⟩
    · exact iff_of_false (fun done => by cases done) (by simp)
    · exact iff_of_true rfl (by simp)

theorem Follows.bind {first second : Program Message Unit} {script later : List Message}
    (follows : Follows first script) (next : Follows second later) : Follows (do first; second) (script ++ later) := by
  have reached := follows.pipe
  have finished := follows.done
  constructor
  · intro pipe
    rw [runProgram_bind]
    rcases ran : runProgram first pipe with ⟨_ | _, after⟩
    · -- Where the first script is cut, nothing of the second is sent.
      have short : ¬ script.length ≤ pipe.lasts := by simp [← finished, ran]
      have same : after = pipe.after script := by simp [← reached, ran]
      have spent : pipe.lasts - script.length = 0 := by omega
      simp only [same, Pipe.after, List.take_append, spent, List.take_zero, List.append_nil, List.length_append,
        Pipe.mk.injEq, and_true]
      omega
    · have long : script.length ≤ pipe.lasts := by simp [← finished, ran]
      have same : after = pipe.after script := by simp [← reached, ran]
      simp [same, next.pipe, Pipe.after, List.take_append, List.take_of_length_le long, Nat.sub_sub]
  · intro pipe
    rw [runProgram_bind]
    rcases ran : runProgram first pipe with ⟨_ | _, after⟩
    · have short : ¬ script.length ≤ pipe.lasts := by simp [← finished, ran]
      simp
      omega
    · have long : script.length ≤ pipe.lasts := by simp [← finished, ran]
      have same : after = pipe.after script := by simp [← reached, ran]
      simp only [next.done, same, Pipe.after, List.length_append]
      omega

end Sending
