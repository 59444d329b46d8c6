/-
This file shows by which command lines daemons and clients are spawned, and that the line that is
logged for a daemon can be used to configure another one.
-/

import EmacsSession.Proofs.Session.EvaluateCall
import EmacsSession.Proofs.Text.Words

namespace EmacsSession

/-- A spawn, whether there is a process or not. -/
def Deed.isSpawn : Deed → Bool
  | .spawned _ _ _ _ _ => true
  | _ => false

/-- The message that is logged before a daemon is spawned by a command line. -/
def Settings.announcement (settings : Settings) (line : String) : String :=
  "Starting Emacs daemon " ++ settings.name ++ ": " ++ line

section Configuration

variable {text : Option String} {standard : String}

theorem commandWords_own {line : String} (shown : ¬ Text.allBlank line.toList) :
    commandWords (some line) standard = Text.Words.split line := by
  simp [commandWords, Option.filter, shown]

namespace Settings

variable {host : Host} {environment : Environment} {choices : Choices} {settings : Settings}

end Settings

end Configuration

namespace Deed

open Session

/-- Every daemon is spawned by the command of the settings, right behind the message with its
command line, and every client by the command for clients. Deeds are listed last one first. -/
inductive AreAnnounced (settings : Settings) : List Deed → Prop
  | none : AreAnnounced settings []
  | other {deed : Deed} {earlier : List Deed} (silent : deed.isSpawn = false)
      (before : AreAnnounced settings earlier) : AreAnnounced settings (deed :: earlier)
  | daemon (result : Option Pid) (directory : Path) {earlier : List Deed}
      (before : AreAnnounced settings earlier) :
      AreAnnounced settings
        (.spawned result (daemonArguments settings directory) .nothing .nothing .pipe ::
          .logged .info
            (settings.announcement (Text.Words.join (daemonArguments settings directory))) ::
          earlier)
  | client (result : Option Pid) (code : String) (input : Connection) {earlier : List Deed}
      (before : AreAnnounced settings earlier) :
      AreAnnounced settings
        (.spawned result (clientArguments settings code) input .pipe .pipe :: earlier)

variable {settings : Settings} {earlier later : List Deed}

/-- Other deeds make no difference. -/
theorem AreAnnounced.goOn (announced : AreAnnounced settings earlier) (more : earlier <:+ later)
    (same : later.filter isSpawn = earlier.filter isSpawn) : AreAnnounced settings later := by
  -- The deeds that were added are no spawns.
  obtain ⟨new, rfl⟩ := more
  rw [List.filter_append, List.append_left_eq_self, List.filter_eq_nil_iff] at same
  induction new with
  | nil => exact announced
  | cons deed new inductionHypothesis =>
      refine .other (by simpa using same deed List.mem_cons_self) ?_
      exact inductionHypothesis fun other member => same other (.tail _ member)

/-- What was done right before a daemon was spawned. -/
theorem AreAnnounced.line {result : Option Pid} {arguments : List String}
    (announced : AreAnnounced settings
      (later ++ .spawned result arguments .nothing .nothing .pipe :: earlier)) :
    ∃ directory before, arguments = daemonArguments settings directory ∧
      earlier = .logged .info (settings.announcement (Text.Words.join arguments)) :: before := by
  generalize same : later ++ .spawned result arguments .nothing .nothing .pipe :: earlier = deeds
    at announced
  induction announced generalizing later with
  | none => simp at same
  | other silent before inductionHypothesis =>
      cases later with
      | nil =>
          cases same
          cases silent
      | cons deed later => exact inductionHypothesis (List.cons.inj same).2
  | @daemon result directory middle before inductionHypothesis =>
      -- The spawn is the last deed, or stands before the message, which is none itself.
      match later, same with
      | [], same =>
          cases same
          exact ⟨directory, middle, rfl, rfl⟩
      | [_], same => cases (List.cons.inj (List.cons.inj same).2).1
      | _ :: _ :: later, same => exact inductionHypothesis (List.cons.inj (List.cons.inj same).2).2
  | client result code input before inductionHypothesis =>
      cases later with
      | nil => cases same
      | cons deed later => exact inductionHypothesis (List.cons.inj same).2

/-- Each spawn is that of a daemon or of a client. -/
theorem AreAnnounced.kind {result : Option Pid} {arguments : List String}
    {input output errors : Connection} (announced : AreAnnounced settings earlier)
    (member : .spawned result arguments input output errors ∈ earlier) :
    (input = .nothing ∧ output = .nothing ∧ errors = .pipe ∧
        ∃ directory, arguments = daemonArguments settings directory) ∨
      output = .pipe ∧ errors = .pipe ∧ ∃ code, arguments = clientArguments settings code := by
  induction announced with
  | none => cases member
  | other silent before inductionHypothesis =>
      cases member with
      | head => cases silent
      | tail _ old => exact inductionHypothesis old
  | daemon result directory before inductionHypothesis =>
      cases member with
      | head => exact .inl ⟨rfl, rfl, rfl, directory, rfl⟩
      | tail _ old =>
          cases old with
          | tail _ older => exact inductionHypothesis older
  | client result code input before inductionHypothesis =>
      cases member with
      | head => exact .inr ⟨rfl, rfl, code, rfl⟩
      | tail _ old => exact inductionHypothesis old

end Deed

namespace Session

open Deed

/-- The spawns of a session, last one first. -/
def spawns (session : Session) : List Deed :=
  session.deeds.filter isSpawn

section Turns

variable {session after : Session} {settings : Settings} {id : TaskId}

theorem announcement_eq (session : Session) (line : String) :
    "Starting " ++ session.subject ++ ": " ++ line =
      session.handle.settings.announcement line := by
  have words : "Starting " ++ "Emacs daemon " = "Starting Emacs daemon " := rfl
  have opening : "Starting " ++ session.subject =
      "Starting Emacs daemon " ++ session.handle.settings.name := by
    rw [subject, ← String.append_assoc, words]
  exact congrArg (· ++ ": " ++ line) opening

/-- What is not in the books is no spawn. -/
theorem spawns_of_books (same : after.books.engagements = session.books.engagements) :
    after.spawns = session.spawns := by
  have fewer (either : Session) : either.spawns = either.books.engagements.filter isSpawn := by
    rw [books, List.filter_filter, spawns]
    refine List.filter_congr fun deed _ => ?_
    cases deed <;> rfl
  rw [fewer, same, fewer]

theorem deeds_of_steps {mover : Option TaskId} (steps : Steps mover session after) :
    session.deeds <:+ after.deeds := by
  induction steps with
  | refl => exact List.suffix_refl _
  | tail _ step inductionHypothesis => exact inductionHypothesis.trans (deeds_of_step step)

/-- While an attempt waits for its daemon nothing is spawned. -/
theorem announced_attach (present : id < session.tasks.length)
    (announced : AreAnnounced settings session.deeds) (pid : Pid) :
    AreAnnounced settings (session.attach id pid).deeds := by
  have more : (session.moveTo id (.awaitSpawn pid)).deeds <:+ (session.attach id pid).deeds :=
    deeds_of_steps (attach_steps present)
  exact announced.goOn more (spawns_of_books (congrArg Books.engagements books_attach))

theorem announced_launch (present : id < session.tasks.length)
    (announced : AreAnnounced session.handle.settings session.deeds) (directory : Path) :
    AreAnnounced session.handle.settings (session.launch id directory).deeds := by
  let arguments := daemonArguments session.handle.settings directory
  let logged := session.log .info (session.handle.settings.announcement (Text.Words.join arguments))
  have told {outcome : Except Fault Pid × Session}
      (hired : logged.spawn id (.daemon directory) arguments .nothing .nothing .pipe = outcome) :
      AreAnnounced session.handle.settings outcome.2.deeds ∧
        outcome.2.tasks.length = session.tasks.length :=
    hired ▸ ⟨.daemon _ directory announced, rfl⟩
  rw [launch]
  simp only [announcement_eq]
  split
  next refused => exact .other rfl (told refused).1
  next refused => exact (told refused).1
  next hired => exact announced_attach ((told hired).2 ▸ present) (told hired).1 _

theorem announced_runAttempt (present : id < session.tasks.length)
    (announced : AreAnnounced session.handle.settings session.deeds) :
    AreAnnounced session.handle.settings (session.runAttempt id).deeds := by
  have entered : AreAnnounced session.handle.settings (session.become .starting).deeds :=
    .other rfl announced
  cases runAttempt_attempts session id with
  | reuses current runs =>
      rw [runs]
      exact @announced_launch (session.become .starting) id present entered _
  | @makes directory disk vacant made runs =>
      rw [runs]
      exact @announced_launch (((session.become .starting).onDisk disk).adopt directory) id present
        (.other rfl entered) _
  | refused vacant made runs =>
      rw [runs]
      exact .other rfl entered
  | unfit vacant made odd runs =>
      rw [runs]
      exact entered

theorem announced_attachClient (announced : AreAnnounced settings session.deeds) (pid : Pid)
    (input : Value) : AreAnnounced settings (session.attachClient id pid input).deeds := by
  cases attachClient_attaches session id pid input with
  | waits runs => exact runs ▸ announced
  | gives read runs => exact runs ▸ .other rfl announced
  | abandons unreadable runs =>
      rw [runs, abandonClient]
      split_ifs
      · exact announced
      · exact .other rfl announced
      · exact .other rfl announced

theorem announced_runEvaluate (announced : AreAnnounced session.handle.settings session.deeds)
    (form input : Value) :
    AreAnnounced session.handle.settings (session.runEvaluate id form input).deeds := by
  cases runEvaluate_asks session id form input with
  | notStarted idle runs => exact runs ▸ announced
  | unprintable running unprintable runs => exact runs ▸ announced
  | refused running printed spawns runs =>
      obtain ⟨severity, message, hiring⟩ := spawns.hiring
      cases hiring
      exact runs ▸ .client _ _ _ (.other rfl announced)
  | @hired code pid tried running printed spawns runs =>
      have spawned : AreAnnounced session.handle.settings tried.deeds := by
        obtain ⟨severity, message, hiring⟩ := spawns.hiring
        cases hiring
        exact .client _ _ _ (.other rfl announced)
      exact runs ▸ announced_attachClient spawned pid input

theorem announced_of_move {phase : Phase} (stands : session.Stands phase)
    (announced : AreAnnounced session.handle.settings session.deeds) (move : Move) :
    AreAnnounced session.handle.settings (session.move move).deeds := by
  have more := deeds_of_move stands move
  cases moves : session.mover move with
  | none =>
      refine announced.goOn more ?_
      cases move with
      | turn other => rw [move_of_idle moves]
      | event event => exact spawns_of_books (books_receive moves).2
  | some id =>
      obtain ⟨ready, same⟩ := move_eq moves
      rw [same] at more ⊢
      let queue := { session with ready := session.ready.erase id }
      cases resume_trace queue id with
      | none silent =>
          exact announced.goOn more
            (spawns_of_books (congrArg Books.engagements (books_of_record silent)))
      | attempt begins runs =>
          have told := @announced_runAttempt queue id (lt_of_stage? begins) announced
          rw [← runs] at told
          exact told
      | @evaluate form input asks runs =>
          have told := @announced_runEvaluate queue id announced form input
          rw [← runs] at told
          exact told
      | @attach pid input waits runs =>
          have told := @announced_attachClient queue queue.handle.settings id announced pid input
          rw [← runs] at told
          exact told

/-- In every run every daemon is announced with its command line. -/
theorem announced_of_follow (settings : Settings) (tree : Tree) (moves : List Move) :
    AreAnnounced settings ((fresh settings tree).follow moves).deeds := by
  let holds (session : Session) :=
    session.handle.settings = settings ∧ AreAnnounced settings session.deeds
  have held : holds ((fresh settings tree).follow moves) := by
    refine keep_of_moves holds (fresh_stands settings tree) ⟨rfl, .none⟩ ?_ moves
    rintro before phase stands ⟨same, announced⟩ move
    subst same
    exact ⟨settings_of_move stands move, announced_of_move stands announced move⟩
  exact held.2

end Turns

section Runs

/-- A command line into which words were joined is cut into these words again, whatever the standard
one is. So is the line with which every daemon was announced before it was spawned. -/
theorem commandWords_join :
    (∀ words standard, words ≠ [] →
      commandWords (some (Text.Words.join words)) standard = .ok words) ∧
    ∀ settings tree moves result arguments later earlier,
      ((fresh settings tree).follow moves).deeds =
          later ++ .spawned result arguments .nothing .nothing .pipe :: earlier →
        ∃ line before, earlier = .logged .info (settings.announcement line) :: before ∧
          ∀ standard, commandWords (some line) standard = .ok arguments := by
  have joined (words : List String) (standard : String) (some : words ≠ []) :
      commandWords (.some (Text.Words.join words)) standard = .ok words :=
    (commandWords_own (Text.Words.not_allBlank_join some)).trans (Text.Words.split_join words)
  refine ⟨joined, fun settings tree moves result arguments later earlier same => ?_⟩
  have announced := announced_of_follow settings tree moves
  rw [same] at announced
  obtain ⟨directory, before, rfl, told⟩ := announced.line
  refine ⟨_, before, told, fun standard => joined _ standard ?_⟩
  simp [daemonArguments]

/-- The settings of a daemon whose command line needs quotation marks. -/
def sampleShop : Settings :=
  ⟨"it's", ["my emacs", "", "-e\\#"], ["emacsclient"], ⟨.single, []⟩, some "R"⟩

/-- A daemon is spawned. -/
def sampleSpawn : List Move :=
  [.event (.start false), .turn 0, .turn 1]

theorem commandWords_join_sampleShop :
    commandWords (some (Text.Words.join ["", "'", "\n#", "\u00a0\\\""])) "emacs" =
        .ok ["", "'", "\n#", "\u00a0\\\""] ∧
      ∃ line before, ((fresh sampleShop ⟨[]⟩).follow sampleSpawn).deeds.tail =
          .logged .info (sampleShop.announcement line) :: before ∧
        ∀ standard, commandWords (some line) standard =
          .ok ["my emacs", "", "-e\\#", "--fg-daemon=it's",
            "--init-directory=/elisp-bridge-00000001"] := by
  refine ⟨commandWords_join.1 _ _ (by simp), ?_⟩
  exact commandWords_join.2 sampleShop ⟨[]⟩ sampleSpawn (some 1001) _ [] _ (by rfl)

end Runs

end Session

end EmacsSession
