/-
This file shows what each part of a session writes into its books: which task spawned which process,
what the processes wrote to their output, and what they were given.
-/

import EmacsSession.Proofs.Session.Record

namespace EmacsSession

namespace Deed

/-- A spawn, or an input that was given. -/
def isEngagement : Deed → Bool
  | .spawned _ _ _ _ _ => true
  | .gaveInput _ _ => true
  | _ => false

/-- The process that was spawned or given its input. -/
def party? : Deed → Option Pid
  | .spawned pid _ _ _ _ => pid
  | .gaveInput pid _ => some pid
  | _ => none

end Deed

/-- The processes in the order in which they were spawned, what they wrote to their output, and the
spawns and inputs, last one first. -/
structure Books where
  badges : List Badge
  output : Pid → Stream
  engagements : List Deed

namespace Books

/-- A spawn is noted, with the badge of the process if there is one. -/
def enter (books : Books) (badge : Option Badge) (arguments : List String)
    (input output errors : Connection) : Books :=
  { books with
    badges := books.badges ++ badge.toList
    engagements :=
      .spawned (badge.map Badge.pid) arguments input output errors :: books.engagements }

/-- An input is noted. -/
def give (books : Books) (pid : Pid) (octets : Option (List UInt8)) : Books :=
  { books with engagements := .gaveInput pid octets :: books.engagements }

/-- The processes that a task spawned. -/
def spawnedBy (books : Books) (id : TaskId) : List Badge :=
  books.badges.filter fun badge => badge.spawner == id

/-- The spawn of a process and the inputs that it was given, last one first. -/
def about (books : Books) (pid : Pid) : List Deed :=
  books.engagements.filter fun deed => deed.party? == some pid

/-- The process was spawned by the task. -/
def Owns (books : Books) (id : TaskId) (pid : Pid) : Prop :=
  ∃ badge ∈ books.badges, badge.pid = pid ∧ badge.spawner = id

end Books

namespace Session

/-- The books of a session. -/
def books (session : Session) : Books where
  badges := session.world.processes.map Process.badge
  output := session.world.output
  engagements := session.deeds.filter Deed.isEngagement

section Traces

variable {session after : Session} {id : TaskId} {pid : Pid}

theorem engagements_eq (session : Session) :
    session.books.engagements = session.record.deeds.filter Deed.isEngagement :=
  session.filter_deeds fun deed engages => by cases deed <;> first | rfl | cases engages

/-- What leaves no trace on record leaves none in the books. -/
theorem books_of_record (same : after.record = session.record) : after.books = session.books := by
  have badges : after.books.badges = session.books.badges := congrArg Record.badges same
  have output : after.books.output = session.books.output := congrArg Record.output same
  have engagements : after.books.engagements = session.books.engagements := by
    rw [engagements_eq, same, engagements_eq]
  calc after.books = ⟨after.books.badges, after.books.output, after.books.engagements⟩ := rfl
    _ = session.books := by rw [badges, output, engagements]

theorem books_note {deed : Deed} (silent : deed.isEngagement = false) :
    (session.note deed).books = session.books := by
  simp [books, note, silent]

@[simp] theorem books_logged (session : Session) (severity : Severity) (message : String) :
    (session.note (.logged severity message)).books = session.books :=
  books_note rfl

@[simp] theorem books_moveTo (stage : Stage) :
    (session.moveTo id stage).books = session.books := rfl

@[simp] theorem books_withProcess (process : Option Pid) :
    (session.withProcess process).books = session.books := rfl

@[simp] theorem books_become (session : Session) (status : Status) :
    (session.become status).books = session.books :=
  books_note rfl

@[simp] theorem books_kill : (session.kill pid).books = session.books :=
  books_of_record (record_kill session pid)

@[simp] theorem books_takeChunks (taken left : List (List UInt8)) :
    (session.takeChunks pid taken left).books = session.books :=
  books_of_record (record_takeChunks session pid taken left)

@[simp] theorem books_foldl_logChunk (texts : List (List Char)) :
    (texts.foldl logChunk session).books = session.books :=
  books_of_record (record_foldl_logChunk session texts)

@[simp] theorem books_becomeReady (diagnostics : Diagnostics) :
    (session.becomeReady id pid diagnostics).books = session.books :=
  books_of_record (record_becomeReady session id pid diagnostics)

@[simp] theorem books_attach : (session.attach id pid).books = session.books :=
  books_of_record (record_attach session id pid)

@[simp] theorem books_abandonClient (ending : Ending) :
    (session.abandonClient id pid ending).books = session.books :=
  books_of_record (record_abandonClient session id pid ending)

@[simp] theorem books_takeAnswer : (session.takeAnswer id pid).books = session.books :=
  books_of_record (record_takeAnswer session id pid)

@[simp] theorem books_discardDirectory : session.discardDirectory.2.books = session.books := by
  rw [discardDirectory]
  split
  · rfl
  · split
    · rfl
    · dsimp only
      split
      · rfl
      · exact books_note rfl

end Traces

end Session

end EmacsSession
