/-
This file shows that the diagnostics of a ready daemon are forwarded line by line, in whatever
chunks they come.
-/

import Mathlib.Data.List.Induction
import EmacsSession.Proofs.Diagnostics
import EmacsSession.Proofs.Session.EvaluateCall
import EmacsSession.Proofs.Session.Quiescence
import EmacsSession.Proofs.Session.Reader

namespace EmacsSession

/-- The message of a warning. -/
def Deed.warning? : Deed → Option String
  | .logged .warning message => some message
  | _ => none

namespace Session

/-- What was done in between, first deed first. -/
def since (before after : Session) : List Deed :=
  (after.deeds.take (after.deeds.length - before.deeds.length)).reverse

/-- The warning for a line of diagnostics. -/
def warning (session : Session) (line : List Char) : String :=
  session.subject ++ ": " ++ String.ofList line

/-- Nothing was done in between but that these lines were forwarded. -/
def Utters (before after : Session) (lines : List (List Char)) : Prop :=
  after.deeds = (lines.map fun line => .logged .warning (before.warning line)).reverse ++
    before.deeds

/-- What a turn of a task does that forwards the diagnostics of a process. -/
inductive Relays (before after : Session) (id : TaskId) (pid : Pid) (diagnostics : Diagnostics) :
    Prop
  | cancelled (ends : after.stage? id = some (.ended .cancelled))
      (unread : after.world.errors pid = before.world.errors pid)
      (utters : before.Utters after [])
  | refused {error : SystemError} (broken : (before.world.errors pid).fault = some error)
      (ends : after.stage? id = some (.ended (.failed (.system error))))
      (unread : after.world.errors pid = before.world.errors pid)
      (utters : before.Utters after diagnostics.flush.1)
  | goes (lasts : (before.world.errors pid).isClosed = false)
      (stays : after.stage? id =
        some (.relay pid (diagnostics.run (before.world.errors pid).coming).2))
      (read : after.world.errors pid =
        (before.world.errors pid).afterReading (before.world.errors pid).coming [])
      (utters : before.Utters after (diagnostics.run (before.world.errors pid).coming).1)
  | returned (closed : (before.world.errors pid).isClosed)
      (ends : after.stage? id = some (.ended (.returned none)))
      (read : after.world.errors pid =
        (before.world.errors pid).afterReading (before.world.errors pid).coming [])
      (utters : before.Utters after ((diagnostics.run (before.world.errors pid).coming).1 ++
        (diagnostics.run (before.world.errors pid).coming).2.finish))

/-- How the forwarding of diagnostics has gone since a task kept these, with the warnings that it
has logged: it goes on, or has returned at the end of the diagnostics, or was cut short. -/
inductive Forwarding (start later : Session) (id : TaskId) (pid : Pid)
    (diagnostics : Diagnostics) (warnings : List String) : Prop
  | goes {chunks : List (List UInt8)} {sent : List (List Char)} {kept : Diagnostics}
      (read : (later.world.errors pid).inOrder = (start.world.errors pid).inOrder ++ chunks)
      (forwards : diagnostics.Forwards chunks sent kept)
      (stays : later.stage? id = some (.relay pid kept))
      (waits : later.ready = [] → (later.world.errors pid).isReadable = false)
      (logged : warnings = sent.map start.warning)
  | returned {chunks : List (List UInt8)}
      (read : (later.world.errors pid).inOrder = (start.world.errors pid).inOrder ++ chunks)
      (all : (later.world.errors pid).isClosed ∧ (later.world.errors pid).unread = [])
      (ends : later.stage? id = some (.ended (.returned none)))
      (deserted : later.IsDeserted pid)
      (logged : warnings = (Diagnostics.messagesOf
        (diagnostics.held ++ (diagnostics.decoder.feed chunks.flatten).2)
        (diagnostics.decoder.feed chunks.flatten).1.finish).map start.warning)
  | cut {chunks : List (List UInt8)} {sent : List (List Char)} {kept : Diagnostics}
      {ending : Ending}
      (read : (later.world.errors pid).inOrder = (start.world.errors pid).inOrder ++ chunks)
      (forwards : diagnostics.Forwards chunks sent kept)
      (ends : later.stage? id = some (.ended ending))
      (early : ∀ text, ending ≠ .returned text)
      (deserted : later.IsDeserted pid)
      (logged : warnings = sent.map start.warning)

section Saying

variable {before middle after : Session} {lines more : List (List Char)}

theorem Utters.trans (first : before.Utters middle lines) (second : middle.Utters after more)
    (settings : middle.handle.settings = before.handle.settings) :
    before.Utters after (lines ++ more) := by
  have same : middle.warning = before.warning := by
    funext line
    rw [warning, warning, subject, subject, settings]
  rw [Utters, second, first, same]
  simp

theorem foldl_logDiagnostic_utters (lines : List (List Char)) (session : Session) :
    session.Utters (lines.foldl logDiagnostic session) lines := by
  induction lines generalizing session with
  | nil => rfl
  | cons line lines inductionHypothesis =>
      have first : session.Utters (session.logDiagnostic line) [line] := rfl
      exact first.trans (inductionHypothesis (session.logDiagnostic line)) rfl

/-- The warnings in between are those for the lines that were forwarded. -/
theorem Utters.warnings (utters : before.Utters after lines) :
    (before.since after).filterMap Deed.warning? = lines.map before.warning := by
  have new : before.since after = lines.map fun line => .logged .warning (before.warning line) := by
    rw [since, utters, List.length_append, Nat.add_sub_cancel, List.take_left, List.reverse_reverse]
  rw [new, List.filterMap_map]
  exact congrFun List.filterMap_eq_map lines

end Saying

section Turns

variable {session : Session} {phase : Phase} {move : Move} {id : TaskId} {pid : Pid}
  {diagnostics : Diagnostics}

theorem runRelay_relays (known : session.world.Knows pid) (present : id < session.tasks.length) :
    session.Relays (session.runRelay id pid diagnostics) id pid diagnostics := by
  rw [runRelay]
  dsimp only
  split
  next error broken =>
    have quiet := Quiet.foldl_logDiagnostic diagnostics.flush.1 session
    refine .refused broken (stage?_moveTo_self (quiet.tasks ▸ present)) ?_
      (foldl_logDiagnostic_utters _ session)
    exact congrFun quiet.errors pid
  next =>
    let chunks := (session.world.errors pid).coming
    let read := session.takeChunks pid chunks []
    have errors : read.world.errors pid = (session.world.errors pid).afterReading chunks [] :=
      takeChunks_errors_self chunks [] known
    have quiet := Quiet.foldl_logDiagnostic (diagnostics.run chunks).1 read
    have utters : session.Utters ((diagnostics.run chunks).1.foldl logDiagnostic read)
        (diagnostics.run chunks).1 := foldl_logDiagnostic_utters _ read
    have unread := (congrFun quiet.errors pid).trans errors
    have closing :
        (((diagnostics.run chunks).1.foldl logDiagnostic read).world.errors pid).isClosed =
          (session.world.errors pid).isClosed := by
      rw [unread]
      rfl
    split
    next closed =>
      have finishes := Quiet.foldl_logDiagnostic (diagnostics.run chunks).2.finish
        ((diagnostics.run chunks).1.foldl logDiagnostic read)
      refine .returned closed ?_ ((congrFun finishes.errors pid).trans unread) ?_
      · exact stage?_moveTo_self ((finishes.tasks.trans quiet.tasks) ▸ present)
      · exact utters.trans (foldl_logDiagnostic_utters _ _) quiet.settings
    next lasts =>
      exact .goes (by simpa using lasts) (stage?_moveTo_self (quiet.tasks ▸ present)) unread utters

theorem runRelay_stage?_of_ne {other : TaskId} (different : other ≠ id) :
    (session.runRelay id pid diagnostics).stage? other = session.stage? other := by
  have logged (lines : List (List Char)) (before : Session) :
      (lines.foldl logDiagnostic before).stage? = before.stage? :=
    stage?_of_tasks (Quiet.foldl_logDiagnostic lines before).tasks
  rw [runRelay]
  dsimp only
  split
  next =>
    rw [finish_eq_moveTo, stage?_moveTo_of_ne different, logged]
  next =>
    split
    next =>
      rw [finish_eq_moveTo, stage?_moveTo_of_ne different, logged, logged]
      rfl
    next =>
      rw [stage?_moveTo_of_ne different, logged]
      rfl

theorem relays_of_move (stands : session.Stands phase) (moves : session.mover move = some id)
    (found : session.stage? id = some (.relay pid diagnostics)) :
    session.Relays (session.move move) id pid diagnostics := by
  obtain ⟨known, -⟩ := stands.charges id _ pid found rfl
  obtain ⟨ready, same⟩ := move_eq moves
  let queue := { session with ready := session.ready.erase id }
  have standing : queue.stage? id = some (.relay pid diagnostics) := found
  have present : id < queue.tasks.length := lt_of_stage? standing
  have resumes := resume_of_stage standing
  by_cases flagged : queue.isFlagged id
  · rw [if_pos flagged] at resumes
    rw [same, resumes]
    exact .cancelled (stage?_moveTo_self present) rfl rfl
  · rw [if_neg flagged] at resumes
    have relays : queue.Relays (queue.runRelay id pid diagnostics) id pid diagnostics :=
      runRelay_relays known present
    have turned : queue.resume id = queue.runRelay id pid diagnostics := resumes
    rw [same, turned]
    cases relays with
    | cancelled ends unread utters => exact .cancelled ends unread utters
    | refused broken ends unread utters => exact .refused broken ends unread utters
    | goes lasts stays read utters => exact .goes lasts stays read utters
    | returned closed ends read utters => exact .returned closed ends read utters

end Turns

section Runs

variable {start session : Session} {phase : Phase} {id : TaskId} {pid : Pid}
  {diagnostics : Diagnostics} {warnings : List String}

/-- While a task forwards diagnostics as it goes on, it is the only one that changes. -/
theorem stage?_of_relaying {move : Move} (moves : session.mover move = some id)
    (found : session.stage? id = some (.relay pid diagnostics)) {other : TaskId}
    (different : other ≠ id) : (session.move move).stage? other = session.stage? other := by
  obtain ⟨ready, same⟩ := move_eq moves
  let queue := { session with ready := session.ready.erase id }
  have standing : queue.stage? id = some (.relay pid diagnostics) := found
  have alone : (queue.resume id).stage? other = queue.stage? other := by
    rw [resume_of_stage standing]
    split
    next => exact stage?_moveTo_of_ne different
    next => exact runRelay_stage?_of_ne different
  rw [same]
  exact alone

/-- When the task that forwards the diagnostics of a process has ended, no task reads from that. -/
theorem isDeserted_of_relaying {move : Move} {ending : Ending} (stands : session.Stands phase)
    (alone : session.HasOneRelay) (moves : session.mover move = some id)
    (found : session.stage? id = some (.relay pid diagnostics))
    (ended : (session.move move).stage? id = some (.ended ending)) :
    (session.move move).IsDeserted pid := by
  obtain ⟨known, -⟩ := stands.charges id _ pid found rfl
  refine ⟨knows_of_move stands known move, fun other stage here => ?_⟩
  by_cases same : other = id
  · subst same
    cases stage?_inj ended here
    nofun
  · rw [stage?_of_relaying moves found same] at here
    exact apart_of_relay stands alone found same here

/-- Where no task is to run, all that was shown so far is forwarded. -/
theorem IsWoken.not_isReadable (woken : session.IsWoken) (still : session.ready = [])
    (found : session.stage? id = some (.relay pid diagnostics)) :
    (session.world.errors pid).isReadable = false :=
  (Bool.or_eq_false_iff.mp (woken.stays still found)).2

theorem errors_of_deserted (deserted : session.IsDeserted pid) (stands : session.Stands phase)
    (move : Move) :
    (session.world.errors pid).Keeps ((session.move move).world.errors pid) :=
  errors_of_move stands deserted.known fun id stage _ => deserted.silent id stage

theorem ended_of_move {ending : Ending} (stands : session.Stands phase)
    (ended : session.stage? id = some (.ended ending)) (move : Move) :
    (session.move move).stage? id = some (.ended ending) :=
  ended_of_follow stands ended [move]

/-- A task that has ended logs nothing. -/
theorem since_of_ended {move : Move} {ending : Ending} (moves : session.mover move = some id)
    (ended : session.stage? id = some (.ended ending)) :
    session.since (session.move move) = [] := by
  obtain ⟨ready, same⟩ := move_eq moves
  let queue := { session with ready := session.ready.erase id }
  have standing : queue.stage? id = some (.ended ending) := ended
  have silent : (queue.resume id).deeds = session.deeds := by
    rw [resume_of_stage standing]
    split <;> rfl
  rw [same, since, silent, Nat.sub_self]
  rfl

/-- The forwarding of diagnostics after one more move, with the warnings that are logged by it. -/
theorem Forwarding.move (forwarding : start.Forwarding session id pid diagnostics warnings)
    (stands : session.Stands phase) (alone : session.HasOneRelay) (woken : session.IsWoken)
    (settings : session.handle.settings = start.handle.settings) (move : Move) :
    start.Forwarding (session.move move) id pid diagnostics (warnings ++
      if session.mover move = some id then
        (session.since (session.move move)).filterMap Deed.warning?
      else []) := by
  have same : session.warning = start.warning := by
    funext line
    rw [warning, warning, subject, subject, settings]
  have silent {ending : Ending} (ends : session.stage? id = some (.ended ending)) :
      (if session.mover move = some id then
        (session.since (session.move move)).filterMap Deed.warning? else []) = [] := by
    split
    next moves => rw [since_of_ended moves ends]; rfl
    next => rfl
  cases forwarding with
  | returned read all ends deserted logged =>
      have keeps := errors_of_deserted deserted stands move
      obtain ⟨closed, unread⟩ := keeps.settled all.1
      rw [silent ends, List.append_nil]
      exact .returned (keeps.inOrder.trans read) ⟨closed, unread.trans all.2⟩
        (ended_of_move stands ends move) (deserted.move stands move) logged
  | cut read forwards ends early deserted logged =>
      have keeps := errors_of_deserted deserted stands move
      rw [silent ends, List.append_nil]
      exact .cut (keeps.inOrder.trans read) forwards (ended_of_move stands ends move) early
        (deserted.move stands move) logged
  | @goes chunks sent kept read forwards stays waits logged =>
      obtain ⟨known, -⟩ := stands.charges id _ pid stays rfl
      by_cases moves : session.mover move = some id
      · rw [if_pos moves]
        have deserted {ending : Ending}
            (ended : (session.move move).stage? id = some (.ended ending)) :
            (session.move move).IsDeserted pid :=
          isDeserted_of_relaying stands alone moves stays ended
        have reads (fed : (session.move move).world.errors pid =
            (session.world.errors pid).afterReading (session.world.errors pid).coming []) :
            ((session.move move).world.errors pid).inOrder = (start.world.errors pid).inOrder ++
              (chunks ++ (session.world.errors pid).coming) := by
          rw [fed, Stream.inOrder_afterReading, read, List.append_assoc]
        cases relays_of_move stands moves stays with
        | goes lasts goesOn fed utters =>
            refine .goes (reads fed) (forwards.goOn _) goesOn ?_ ?_
            · exact fun still => (woken.move move).not_isReadable still goesOn
            · rw [utters.warnings, same, logged, List.map_append]
        | returned closed ends fed utters =>
            refine .returned (reads fed) ⟨?_, ?_⟩ ends (deserted ends) ?_
            · rw [fed]
              exact closed
            · rw [fed]
              rfl
            · have whole := (forwards.goOn (session.world.errors pid).coming).leads.whole
              rw [utters.warnings, same, logged, ← List.map_append, ← List.append_assoc,
                Diagnostics.finish_run, whole]
        | cancelled ends unread utters =>
            refine .cut ((congrArg Stream.inOrder unread).trans read) forwards ends (by simp)
              (deserted ends) ?_
            rw [utters.warnings, logged]
            exact List.append_nil _
        | refused broken ends unread utters =>
            have flushed := forwards.goOn []
            rw [List.append_nil] at flushed
            refine .cut ((congrArg Stream.inOrder unread).trans read) flushed ends (by simp)
              (deserted ends) ?_
            rw [utters.warnings, same, logged, List.map_append]
            rfl
      · have keeps := errors_of_move stands known fun other stage moved here =>
          apart_of_relay stands alone stays (fun own => moves (own ▸ moved)) here
        have remains := (stage?_of_move stands moves (lt_of_stage? stays)).trans stays
        rw [if_neg moves, List.append_nil]
        exact .goes (keeps.inOrder.trans read) forwards remains
          (fun still => (woken.move move).not_isReadable still remains) logged

end Runs

end Session

end EmacsSession
