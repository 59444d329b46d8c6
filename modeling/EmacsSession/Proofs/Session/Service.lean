/-
This file shows how a call that evaluates a form stands to its client.
-/

import EmacsSession.Proofs.Session.Printing

namespace EmacsSession

/-- The ending gives a text back. -/
def Ending.isReturn : Ending → Bool
  | .returned _ => true
  | _ => false

/-- What an input is given to a client as: nothing where there is no input, and a text as its octets
in UTF-8. -/
inductive Value.HasOctets : Value → Option (List UInt8) → Prop
  | absent : HasOctets .absent none
  | text (text : String) : HasOctets (.text text) (some text.toUTF8.toList)

theorem Value.hasOctets_of_read {input : Value} {octets : Option (List UInt8)}
    (read : Session.inputOctets input = .ok octets) : input.HasOctets octets := by
  cases input <;> cases read <;> constructor

open Session

namespace Books

/-- The only process that a task spawned is a client for the form, with the name of the daemon. It
has a pipe for an input, and was given these inputs, the last one first. -/
def Employs (books : Books) (settings : Settings) (id : TaskId) (form input : Value) (pid : Pid)
    (given : List (Option (List UInt8))) : Prop :=
  ∃ code arguments, form.print = .ok code ∧
    arguments = settings.emacsclient ++ ["--socket-name=" ++ settings.name, "--eval", code] ∧
    books.spawnedBy id = [⟨pid, id, .client, arguments⟩] ∧
    books.about pid = given.map (.gaveInput pid) ++
      [.spawned (some pid) arguments (inputConnection input) .pipe .pipe]

/-- A client was given nothing yet, or the octets of the input once. -/
def IsInput (input : Value) (given : List (Option (List UInt8))) : Prop :=
  given = [] ∨ ∃ octets, input.HasOctets octets ∧ given = [octets]

/-- How a call that evaluates a form stands to its client in each stage. -/
inductive Serves (books : Books) (settings : Settings) (id : TaskId) (form input : Value) :
    Stage → Prop
  | asks (none : books.spawnedBy id = []) :
      Serves books settings id form input (.evaluate form input)
  | connects {pid : Pid} (client : books.Employs settings id form input pid []) :
      Serves books settings id form input (.awaitClientSpawn pid input)
  | waits {pid : Pid} {octets : Option (List UInt8)} (read : input.HasOctets octets)
      (client : books.Employs settings id form input pid [octets]) :
      Serves books settings id form input (.awaitAnswer pid)
  | parts {pid : Pid} {given : List (Option (List UInt8))} {ending : Ending}
      (isInput : IsInput input given) (client : books.Employs settings id form input pid given)
      (silent : ending.isReturn = false) :
      Serves books settings id form input (.awaitClientEnd pid ending)
  | declined {ending : Ending} (none : books.spawnedBy id = []) (silent : ending.isReturn = false) :
      Serves books settings id form input (.ended ending)
  | parted {pid : Pid} {given : List (Option (List UInt8))} {ending : Ending}
      (isInput : IsInput input given) (client : books.Employs settings id form input pid given)
      (silent : ending.isReturn = false) :
      Serves books settings id form input (.ended ending)
  | answered {pid : Pid} {octets : Option (List UInt8)} (read : input.HasOctets octets)
      (client : books.Employs settings id form input pid [octets])
      (closed : (books.output pid).isClosed = true) :
      Serves books settings id form input
        (.ended (.returned (some (String.ofList (Utf8.decode (books.output pid).unread)))))

section Serves

variable {books after : Books} {settings : Settings} {id : TaskId} {form input : Value} {pid : Pid}
  {given : List (Option (List UInt8))} {stage : Stage}

theorem Employs.owns (client : books.Employs settings id form input pid given) :
    books.Owns id pid := by
  obtain ⟨code, arguments, -, -, only, -⟩ := client
  rw [owns_iff, only]
  exact ⟨_, List.mem_singleton_self _, rfl⟩

theorem Employs.keeps (client : books.Employs settings id form input pid given)
    (keeps : books.Keeps after id) : after.Employs settings id form input pid given := by
  have owns := client.owns
  obtain ⟨code, arguments, printed, spelled, only, about⟩ := client
  exact ⟨code, arguments, printed, spelled, keeps.spawned.trans only,
    (keeps.about pid owns).trans about⟩

/-- What others write into the books changes nothing for a call. -/
theorem Serves.keeps (serves : books.Serves settings id form input stage)
    (keeps : books.Keeps after id) : after.Serves settings id form input stage := by
  cases serves with
  | asks none => exact .asks (keeps.spawned.trans none)
  | connects client => exact .connects (client.keeps keeps)
  | waits read client => exact .waits read (client.keeps keeps)
  | parts isInput client silent => exact .parts isInput (client.keeps keeps) silent
  | declined none silent => exact .declined (keeps.spawned.trans none) silent
  | parted isInput client silent => exact .parted isInput (client.keeps keeps) silent
  | @answered pid octets read client closed =>
      obtain ⟨still, same⟩ := keeps.closed pid closed
      rw [← same]
      exact .answered read (client.keeps keeps) still

/-- A caller that waits for a client waits for its own. -/
theorem Serves.owns (serves : books.Serves settings id form input stage)
    (waits : stage.client? = some pid) : books.Owns id pid := by
  cases serves <;> cases waits
  · exact Employs.owns ‹_›
  · exact Employs.owns ‹_›
  · exact Employs.owns ‹_›

end Serves

end Books

namespace Session

/-- The books and the stage of a call that evaluates a form agree. -/
def IsServed (session : Session) (settings : Settings) (id : TaskId) (form input : Value) : Prop :=
  ∃ stage, session.stage? id = some stage ∧ session.books.Serves settings id form input stage

section Service

variable {session : Session} {settings : Settings} {id : TaskId} {form input : Value} {pid : Pid}
  {given : List (Option (List UInt8))}

theorem isServed_moveTo {stage : Stage} (present : id < session.tasks.length)
    (serves : session.books.Serves settings id form input stage) :
    (session.moveTo id stage).IsServed settings id form input :=
  ⟨stage, stage?_moveTo_self present, serves⟩

theorem isServed_abandonClient (present : id < session.tasks.length)
    (isInput : Books.IsInput input given)
    (client : session.books.Employs settings id form input pid given) {ending : Ending}
    (silent : ending.isReturn = false) :
    (session.abandonClient id pid ending).IsServed settings id form input := by
  rw [abandonClient]
  generalize left : (if session.hasExited pid then session else session.kill pid) = leaving
  have books : leaving.books = session.books := by
    rw [← left]
    split <;> simp
  have here : id < leaving.tasks.length := by
    rw [← left]
    split <;> exact present
  rw [← books] at client
  split
  next => exact isServed_moveTo here (.parted isInput client silent)
  next =>
    refine ⟨.awaitClientEnd pid ending, ?_, .parts isInput client silent⟩
    rw [stage?_alterTask fun _ => rfl]
    exact stage?_moveTo_self here

theorem isServed_attachClient (present : id < session.tasks.length)
    (client : session.books.Employs settings id form input pid []) :
    (session.attachClient id pid input).IsServed settings id form input := by
  cases attachClient_attaches session id pid input with
  | waits runs => exact runs ▸ isServed_moveTo present (.connects client)
  | @gives octets read runs =>
      obtain ⟨code, arguments, printed, spelled, only, about⟩ := client
      have noted : (session.note (.gaveInput pid octets)).books = session.books.give pid octets :=
        rfl
      rw [runs]
      refine isServed_moveTo present
        (.waits (Value.hasOctets_of_read read) ⟨code, arguments, printed, spelled, only, ?_⟩)
      rw [noted, Books.about_give, about]
      simp
  | abandons unreadable runs => exact runs ▸ isServed_abandonClient present (.inl rfl) client rfl

/-- A new process is the client of the task that spawned it. -/
theorem employs_of_enter {books : Books} {code : String} (sound : books.IsSound)
    (printed : form.print = .ok code) (none : books.spawnedBy id = [])
    (next : pid = World.firstPid + books.badges.length) :
    (books.enter (some ⟨pid, id, .client, clientArguments settings code⟩)
      (clientArguments settings code) (inputConnection input) .pipe .pipe).Employs
        settings id form input pid [] := by
  refine ⟨code, clientArguments settings code, printed, rfl, ?_, ?_⟩
  · simp [Books.spawnedBy_enter, none]
  · have unheard : books.about pid = [] := next ▸ sound.about_next
    simp [Books.about_enter, unheard]

theorem isServed_runEvaluate (present : id < session.tasks.length)
    (sound : session.books.IsSound) (same : session.handle.settings = settings)
    (none : session.books.spawnedBy id = []) :
    (session.runEvaluate id form input).IsServed settings id form input := by
  subst same
  cases runEvaluate_asks session id form input with
  | notStarted idle runs => exact runs ▸ isServed_moveTo present (.declined none rfl)
  | unprintable running unprintable runs =>
      exact runs ▸ isServed_moveTo present (.declined none rfl)
  | @refused code fault reported tried running printed spawns runs =>
      have here : id < tried.tasks.length := spawns.tasks ▸ present
      have declined : tried.books.spawnedBy id = [] := by
        rw [spawns.books_refused, Books.spawnedBy_enter, none]
        rfl
      exact runs ▸ isServed_moveTo here (.declined declined rfl)
  | @hired code pid tried running printed spawns runs =>
      obtain ⟨next, entered⟩ := spawns.books_hired
      have here : id < tried.tasks.length := spawns.tasks ▸ present
      rw [runs]
      apply isServed_attachClient here
      rw [entered]
      exact employs_of_enter sound printed none next

theorem isServed_takeAnswer {octets : Option (List UInt8)}
    (waits : session.stage? id = some (.awaitAnswer pid))
    (read : input.HasOctets octets)
    (client : session.books.Employs settings id form input pid [octets]) :
    (session.takeAnswer id pid).IsServed settings id form input := by
  have present := lt_of_stage? waits
  have still : session.IsServed settings id form input := ⟨_, waits, .waits read client⟩
  rw [takeAnswer]
  split
  next => exact still
  next process found =>
    split
    next error _ => exact isServed_abandonClient present (.inr ⟨octets, read, rfl⟩) client rfl
    next =>
      split
      next complete =>
        have output : session.books.output pid = process.output := by
          change session.world.output pid = process.output
          rw [World.output, found]
        have closed : (session.books.output pid).isClosed = true := by
          rw [output]
          simp_all [Process.isComplete]
        have answered := Books.Serves.answered read client closed
        rw [output] at answered
        rw [answer]
        split
        next => exact isServed_moveTo present answered
        next =>
          refine isServed_moveTo present ?_
          rw [log_eq_note, books_logged]
          exact answered
      next => exact still

/-- A call goes on with its own client only. -/
theorem isServed_resume (sound : session.books.IsSound) (same : session.handle.settings = settings)
    (served : session.IsServed settings id form input) :
    (session.resume id).IsServed settings id form input := by
  obtain ⟨stage, found, serves⟩ := served
  have present := lt_of_stage? found
  have stays : session.IsServed settings id form input := ⟨stage, found, serves⟩
  rw [resume_of_stage found]
  cases serves with
  | asks none =>
      split
      next => exact isServed_moveTo present (.declined none rfl)
      next => exact isServed_runEvaluate present sound same none
  | connects client =>
      split
      next => exact isServed_abandonClient present (.inl rfl) client rfl
      next => exact isServed_attachClient present client
  | waits read client =>
      split
      next => exact isServed_abandonClient present (.inr ⟨_, read, rfl⟩) client rfl
      next => exact isServed_takeAnswer found read client
  | parts isInput client silent =>
      split
      next => exact isServed_moveTo present (.parted isInput client rfl)
      next =>
        rw [proceed]
        split
        next => exact isServed_moveTo present (.parted isInput client silent)
        next => exact stays
  | declined none silent => split <;> exact stays
  | parted isInput client silent => split <;> exact stays
  | answered read client closed => split <;> exact stays

end Service

end Session

end EmacsSession
