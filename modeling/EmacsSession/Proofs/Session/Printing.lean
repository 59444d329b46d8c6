/-
This file shows that the output of a process is what the process wrote in the run.
-/

import EmacsSession.Proofs.Session.Ownership

namespace EmacsSession.Session

/-- The octets that a process writes to its output by a move. -/
def printedBy (session : Session) (pid : Pid) : Move → List UInt8
  | .event (.writeOutput other octets) =>
      if other = pid ∧ (session.world.process? pid).isSome ∧
          (session.world.output pid).isClosed = false then octets
      else []
  | _ => []

/-- The octets that a process writes to its output in a run. -/
def printed (session : Session) (pid : Pid) : List Move → List UInt8
  | [] => []
  | move :: moves => session.printedBy pid move ++ (session.move move).printed pid moves

section Printing

variable {session : Session} {id : TaskId} {pid : Pid}

theorem output_alterProcess {change : Process → Process}
    (keeps : ∀ process, (change process).pid = process.pid) (other : Pid) :
    (session.alterProcess pid change).world.output other =
      match session.world.process? other with
      | none => {}
      | some process => if other = pid then (change process).output else process.output := by
  rw [World.output, alterProcess, World.process?_alter keeps]
  cases session.world.process? other with
  | none => rfl
  | some process =>
      simp only [Option.map_some]
      split <;> rfl

/-- A stream goes on from another one with more octets. -/
structure Extends (before after : Stream) (more : List UInt8) : Prop where
  unread : after.unread = before.unread ++ more
  closed : before.isClosed = true → after.isClosed = true

theorem Extends.refl (stream : Stream) : Extends stream stream [] :=
  ⟨(List.append_nil _).symm, id⟩

theorem extends_alterProcess {change : Process → Process}
    (keeps : ∀ process, (change process).pid = process.pid ∧
      Extends process.output (change process).output []) (other : Pid) :
    Extends (session.world.output other)
      ((session.alterProcess pid change).world.output other) [] := by
  rw [output_alterProcess fun process => (keeps process).1, World.output]
  cases session.world.process? other with
  | none => exact .refl _
  | some process =>
      dsimp only
      split
      next => exact (keeps process).2
      next => exact .refl _

theorem extends_write (octets : List UInt8) (other : Pid) :
    Extends (session.world.output other)
      ((session.receive (.writeOutput pid octets)).world.output other)
      (session.printedBy other (.event (.writeOutput pid octets))) := by
  rw [receive, output_alterProcess (by exact fun _ => rfl), printedBy, World.output]
  cases session.world.process? other with
  | none => exact ⟨by simp, id⟩
  | some process =>
      by_cases same : other = pid
      · subst same
        cases closed : process.output.isClosed with
        | true => exact ⟨by simp [Stream.write, closed], by simp [Stream.write, closed]⟩
        | false => exact ⟨by simp [Stream.write, closed], by simp [closed]⟩
      · simp only [if_neg same, Ne.symm same, false_and, if_false]
        exact .refl _

/-- Something that happens adds to an output what it writes to it. -/
theorem extends_receive {event : Event} (happens : session.mover (.event event) = none)
    (other : Pid) :
    Extends (session.world.output other) ((session.receive event).world.output other)
      (session.printedBy other (.event event)) := by
  have kept {after : Session} (same : after.books = session.books) :
      Extends (session.world.output other) (after.world.output other) [] := by
    have outputs : after.world.output = session.world.output := congrArg Books.output same
    rw [outputs]
    exact .refl _
  cases event with
  | writeOutput pid octets => exact extends_write octets other
  | closeOutput pid =>
      refine extends_alterProcess ?_ other
      exact fun _ => ⟨rfl, by simp [Stream.close], fun _ => rfl⟩
  | breakOutput pid error =>
      refine extends_alterProcess ?_ other
      exact fun _ => ⟨rfl, by simp [Stream.breakOff], id⟩
  | writeErrors pid octets => exact extends_alterProcess (by exact fun _ => ⟨rfl, .refl _⟩) other
  | closeErrors pid => exact extends_alterProcess (by exact fun _ => ⟨rfl, .refl _⟩) other
  | breakErrors pid error => exact extends_alterProcess (by exact fun _ => ⟨rfl, .refl _⟩) other
  | connect pid => exact extends_alterProcess (by exact fun _ => ⟨rfl, .refl _⟩) other
  | exit pid code => exact extends_alterProcess (by exact fun _ => ⟨rfl, .refl _⟩) other
  | cancel id =>
      apply kept
      rw [receive]
      split <;> rfl
  | discardDirectory => exact kept (books_discardDirectory)
  | tick =>
      apply kept
      have idle : session.ready = [] := List.head?_eq_none_iff.mp happens
      rw [receive, tick, idle]
  | _ => exact kept rfl

end Printing

end EmacsSession.Session
