/-
This file shows that each task writes into the books about its own processes only.
-/

import Mathlib.Data.List.Nodup
import EmacsSession.Proofs.Session.Books
import EmacsSession.Proofs.Session.StartCall

namespace EmacsSession

/-- The client that a caller waits for. -/
def Stage.client? : Stage → Option Pid
  | .awaitClientSpawn pid _ => some pid
  | .awaitAnswer pid => some pid
  | .awaitClientEnd pid _ => some pid
  | _ => none

namespace Books

/-- What a task may write into the books at once. -/
inductive Entry (id : TaskId) (books : Books) : Books → Prop
  | decline (arguments : List String) (input output errors : Connection) :
      Entry id books (books.enter none arguments input output errors)
  | spawn (badge : Badge) (next : badge.pid = World.firstPid + books.badges.length)
      (own : badge.spawner = id) (arguments : List String) (input output errors : Connection) :
      Entry id books (books.enter (some badge) arguments input output errors)
  | give {pid : Pid} (own : books.Owns id pid) (octets : Option (List UInt8)) :
      Entry id books (books.give pid octets)

/-- Entries of one task one after the other. -/
abbrev Entries (id : TaskId) : Books → Books → Prop :=
  Relation.ReflTransGen (Entry id)

/-- The processes have numbers in the order in which they were spawned, and all entries are about
known processes. -/
structure IsSound (books : Books) : Prop where
  numbered : books.badges.map Badge.pid = List.range' World.firstPid books.badges.length
  known : ∀ deed ∈ books.engagements, ∀ pid, deed.party? = some pid →
    ∃ badge ∈ books.badges, badge.pid = pid

/-- What the books say about a task and its processes stays, and outputs that are closed are not
written to. -/
structure Keeps (books after : Books) (id : TaskId) : Prop where
  spawned : after.spawnedBy id = books.spawnedBy id
  closed : ∀ pid, (books.output pid).isClosed = true →
    (after.output pid).isClosed = true ∧ (after.output pid).unread = (books.output pid).unread
  about : ∀ pid, books.Owns id pid → after.about pid = books.about pid

section Entries

variable {books middle after : Books} {id other : TaskId} {pid : Pid}

theorem about_enter (badge : Option Badge) (arguments : List String)
    (input output errors : Connection) (pid : Pid) :
    (books.enter badge arguments input output errors).about pid =
      (if badge.map Badge.pid = some pid then
        [.spawned (some pid) arguments input output errors] else []) ++ books.about pid := by
  rw [about, enter, List.filter_cons, about]
  split
  next party =>
    have same : badge.map Badge.pid = some pid := by simpa [Deed.party?] using party
    simp [same]
  next apart =>
    have different : badge.map Badge.pid ≠ some pid := by simpa [Deed.party?] using apart
    simp [different]

theorem about_give (given pid : Pid) (octets : Option (List UInt8)) :
    (books.give given octets).about pid =
      (if given = pid then [.gaveInput pid octets] else []) ++ books.about pid := by
  rw [about, give, List.filter_cons, about]
  by_cases same : given = pid <;> simp [Deed.party?, same]

theorem spawnedBy_enter (badge : Option Badge) (arguments : List String)
    (input output errors : Connection) (id : TaskId) :
    (books.enter badge arguments input output errors).spawnedBy id =
      books.spawnedBy id ++ badge.toList.filter fun badge => badge.spawner == id := by
  simp [spawnedBy, enter]

theorem Keeps.refl (books : Books) (id : TaskId) : books.Keeps books id :=
  ⟨rfl, fun _ closed => ⟨closed, rfl⟩, fun _ _ => rfl⟩

theorem owns_iff : books.Owns id pid ↔ ∃ badge ∈ books.spawnedBy id, badge.pid = pid := by
  simp only [Owns, spawnedBy, List.mem_filter, beq_iff_eq, and_assoc]
  exact exists_congr fun badge => and_congr_right fun _ => and_comm

theorem Keeps.trans (first : books.Keeps middle id) (second : middle.Keeps after id) :
    books.Keeps after id where
  spawned := second.spawned.trans first.spawned
  closed pid closed := by
    obtain ⟨still, same⟩ := first.closed pid closed
    obtain ⟨later, equal⟩ := second.closed pid still
    exact ⟨later, equal.trans same⟩
  about pid owns := by
    have still : middle.Owns id pid := by
      rw [owns_iff, first.spawned, ← owns_iff]
      exact owns
    exact (second.about pid still).trans (first.about pid owns)

/-- The next number is that of no process. -/
theorem IsSound.lt (sound : books.IsSound) {badge : Badge} (member : badge ∈ books.badges) :
    badge.pid < World.firstPid + books.badges.length := by
  have listed : badge.pid ∈ books.badges.map Badge.pid := List.mem_map_of_mem member
  rw [sound.numbered, List.mem_range'_1] at listed
  exact listed.2

/-- No two processes have one number. -/
theorem IsSound.unique (sound : books.IsSound) {first second : Badge}
    (one : first ∈ books.badges) (two : second ∈ books.badges) (same : first.pid = second.pid) :
    first = second := by
  have distinct : (books.badges.map Badge.pid).Nodup := by
    rw [sound.numbered]
    exact List.nodup_range'
  exact List.inj_on_of_nodup_map distinct one two same

/-- Nothing is written about a process that is not known. -/
theorem IsSound.about_next (sound : books.IsSound) :
    books.about (World.firstPid + books.badges.length) = [] := by
  rw [about, List.filter_eq_nil_iff]
  intro deed member party
  obtain ⟨badge, listed, same⟩ := sound.known deed member _ (by simpa using party)
  exact absurd (sound.lt listed) (same ▸ Nat.lt_irrefl _)

theorem Entry.owns (entry : Entry id books after) (owns : books.Owns other pid) :
    after.Owns other pid := by
  obtain ⟨badge, member, about⟩ := owns
  cases entry with
  | decline arguments input output errors => exact ⟨badge, by simp [enter, member], about⟩
  | spawn new next own arguments input output errors =>
      exact ⟨badge, by simp [enter, member], about⟩
  | give own octets => exact ⟨badge, member, about⟩

theorem Entries.owns (entries : Entries id books after) (owns : books.Owns other pid) :
    after.Owns other pid := by
  induction entries with
  | refl => exact owns
  | tail _ entry inductionHypothesis => exact entry.owns inductionHypothesis

theorem IsSound.entry (sound : books.IsSound) (entry : Entry id books after) : after.IsSound := by
  cases entry with
  | decline arguments input output errors =>
      refine ⟨by simpa [enter] using sound.numbered, fun deed member pid party => ?_⟩
      rcases List.mem_cons.mp member with rfl | old
      · cases party
      · simpa [enter] using sound.known deed old pid party
  | spawn new next own arguments input output errors =>
      refine ⟨by simp [enter, List.range'_concat, sound.numbered, next],
        fun deed member pid party => ?_⟩
      rcases List.mem_cons.mp member with rfl | old
      · exact ⟨new, by simp [enter], Option.some.inj party⟩
      · obtain ⟨badge, listed, same⟩ := sound.known deed old pid party
        exact ⟨badge, by simp [enter, listed], same⟩
  | @give pid own octets =>
      refine ⟨sound.numbered, fun deed member other party => ?_⟩
      rcases List.mem_cons.mp member with rfl | old
      · obtain ⟨badge, listed, same, -⟩ := own
        exact ⟨badge, listed, same.trans (Option.some.inj party)⟩
      · exact sound.known deed old other party

/-- An entry of one task says nothing about another one. -/
theorem Entry.keeps (entry : Entry id books after) (sound : books.IsSound)
    (different : other ≠ id) :
    books.Keeps after other := by
  cases entry with
  | decline arguments input output errors =>
      exact ⟨by simp [spawnedBy_enter], fun _ closed => ⟨closed, rfl⟩,
        fun pid _ => by simp [about_enter]⟩
  | spawn new next own arguments input output errors =>
      refine ⟨by simp [spawnedBy_enter, own, Ne.symm different], fun _ closed => ⟨closed, rfl⟩,
        fun pid owns => ?_⟩
      obtain ⟨badge, listed, same, -⟩ := owns
      have older : new.pid ≠ pid := by
        rw [next, ← same]
        exact (Nat.ne_of_lt (sound.lt listed)).symm
      simp [about_enter, older]
  | @give given own octets =>
      refine ⟨rfl, fun _ closed => ⟨closed, rfl⟩, fun pid owns => ?_⟩
      have apart : given ≠ pid := by
        rintro rfl
        obtain ⟨badge, listed, same, spawner⟩ := owns
        obtain ⟨mine, present, number, task⟩ := own
        have equal := sound.unique listed present (same.trans number.symm)
        exact different (spawner.symm.trans (equal ▸ task))
      simp [about_give, apart]

theorem Entries.output (entries : Entries id books after) : after.output = books.output := by
  induction entries with
  | refl => rfl
  | tail _ entry inductionHypothesis =>
      rw [← inductionHypothesis]
      cases entry <;> rfl

theorem Entries.sound (entries : Entries id books after) (sound : books.IsSound) :
    after.IsSound := by
  induction entries with
  | refl => exact sound
  | tail _ entry inductionHypothesis => exact inductionHypothesis.entry entry

theorem Entries.keeps (entries : Entries id books after) (sound : books.IsSound)
    (different : other ≠ id) : books.Keeps after other := by
  induction entries with
  | refl => exact .refl books other
  | tail earlier entry inductionHypothesis =>
      exact inductionHypothesis.trans (entry.keeps (Entries.sound earlier sound) different)

end Entries

end Books

namespace Session

section Turns

variable {session : Session} {id : TaskId} {pid : Pid}

/-- A process that has written nothing changes no output. -/
theorem output_append {world after : World} {new : Option Process}
    (silent : ∀ process ∈ new, process.output = {})
    (processes : after.processes = world.processes ++ new.toList) :
    after.output = world.output := by
  funext pid
  rw [World.output, World.output, World.process?, World.process?, processes, List.find?_append]
  cases world.processes.find? fun process => process.pid == pid with
  | some known => rfl
  | none =>
      cases new with
      | none => rfl
      | some process =>
          have none : process.output = {} := silent process rfl
          simp only [Option.toList_some, List.find?_singleton, Option.none_or]
          by_cases same : process.pid = pid <;> simp [same, none]

/-- A spawn is noted in the books. -/
theorem books_note_spawned (session : Session) (after : World) (new : Option Process)
    (silent : ∀ process ∈ new, process.output = {})
    (processes : after.processes = session.world.processes ++ new.toList)
    (arguments : List String) (input output errors : Connection) :
    (({ session with world := after } : Session).note
      (.spawned (new.map Process.pid) arguments input output errors)).books =
      session.books.enter (new.map Process.badge) arguments input output errors := by
  have number : (new.map Process.badge).map Badge.pid = new.map Process.pid := by
    cases new <;> rfl
  have badges : after.processes.map Process.badge =
      session.world.processes.map Process.badge ++ (new.map Process.badge).toList := by
    rw [processes]
    cases new <;> simp
  have outputs : after.output = session.world.output := output_append silent processes
  rw [books, Books.enter, number]
  simp only [note, badges, outputs, books]
  rfl

section Spawns

variable {after : Session} {role : Role} {arguments : List String}
  {input output errors : Connection}

/-- A spawn that is refused is noted in the books. -/
theorem SpawnsAs.books_refused {fault : Fault}
    (spawns : session.SpawnsAs id role arguments input output errors (.error fault) after) :
    after.books = session.books.enter none arguments input output errors := by
  obtain ⟨severity, message, hiring⟩ := spawns.hiring
  have logs : (session.log severity message).books = session.books := books_logged session _ _
  rw [← logs]
  cases hiring with
  | refused fault plans =>
      exact books_note_spawned (session.log severity message) _ none (by simp)
        (List.append_nil _).symm arguments input output errors

/-- A new process has the next number, and is entered in the books. -/
theorem SpawnsAs.books_hired
    (spawns : session.SpawnsAs id role arguments input output errors (.ok pid) after) :
    pid = World.firstPid + session.books.badges.length ∧
      after.books = session.books.enter (some ⟨pid, id, role, arguments⟩) arguments
        input output errors := by
  obtain ⟨severity, message, hiring⟩ := spawns.hiring
  have logs : (session.log severity message).books = session.books := books_logged session _ _
  cases hiring with
  | hired process recruit plans =>
      have badge : (some process).map Process.badge = some ⟨process.pid, id, role, arguments⟩ := by
        rw [Option.map_some, Process.badge, recruit.spawner, recruit.role, recruit.arguments]
      have entered := books_note_spawned (session.log severity message)
        { session.world.enlist process with plans := plans } (some process)
        (by simp [recruit.unheard]) rfl arguments input output errors
      have next : process.pid = World.firstPid + session.world.processes.length := recruit.next
      rw [logs, badge] at entered
      exact ⟨by simp [next, books], entered⟩

end Spawns

open Books in
theorem attachClient_entries (owns : session.books.Owns id pid) (input : Value) :
    Entries id session.books (session.attachClient id pid input).books := by
  cases attachClient_attaches session id pid input with
  | waits runs =>
      rw [runs]
      exact .refl
  | @gives octets read runs =>
      have given : Entry id session.books (session.books.give pid octets) := .give owns octets
      rw [runs]
      exact .single given
  | abandons unreadable runs => rw [runs, books_abandonClient]

open Books in
theorem runEvaluate_entries (form input : Value) :
    Entries id session.books (session.runEvaluate id form input).books := by
  cases runEvaluate_asks session id form input with
  | notStarted idle runs =>
      rw [runs]
      exact .refl
  | unprintable running unprintable runs =>
      rw [runs]
      exact .refl
  | refused running printed spawns runs =>
      rw [runs, finish_eq_moveTo, books_moveTo, spawns.books_refused]
      exact .single (.decline _ _ _ _)
  | @hired code pid tried running printed spawns runs =>
      obtain ⟨next, entered⟩ := spawns.books_hired
      have hired : Entry id session.books tried.books :=
        entered ▸ .spawn ⟨pid, id, .client, _⟩ next rfl _ _ _ _
      have owns : tried.books.Owns id pid :=
        ⟨⟨pid, id, .client, clientArguments session.handle.settings code⟩,
          by simp [entered, Books.enter], rfl, rfl⟩
      rw [runs]
      exact .head hired (attachClient_entries owns input)

open Books in
theorem launch_entries (directory : Path) :
    Entries id session.books (session.launch id directory).books := by
  cases launch_launches session id directory with
  | refused spawns runs =>
      rw [runs, finish_eq_moveTo, books_moveTo, books_become, spawns.books_refused]
      exact .single (.decline _ _ _ _)
  | unfit spawns odd runs =>
      rw [runs, finish_eq_moveTo, books_moveTo, spawns.books_refused]
      exact .single (.decline _ _ _ _)
  | @hired pid tried spawns runs =>
      obtain ⟨next, entered⟩ := spawns.books_hired
      have hired : Entry id session.books tried.books :=
        entered ▸ .spawn ⟨pid, id, .daemon directory, _⟩ next rfl _ _ _ _
      rw [runs, books_attach]
      exact .single hired

open Books in
theorem runAttempt_entries : Entries id session.books (session.runAttempt id).books := by
  have same : (session.become .starting).books = session.books := books_become session .starting
  rw [← same]
  cases runAttempt_attempts session id with
  | reuses current runs => exact runs ▸ launch_entries _
  | @makes directory disk vacant made runs =>
      have noted : (((session.become .starting).onDisk disk).adopt directory).books =
          (session.become .starting).books := books_note rfl
      rw [runs, ← noted]
      exact launch_entries directory
  | refused vacant made runs =>
      rw [runs, finish_eq_moveTo, books_moveTo, books_become]
      exact .refl
  | unfit vacant made odd runs =>
      rw [runs, finish_eq_moveTo, books_moveTo]
      exact .refl

/-- A turn of a task writes about its own processes only. -/
theorem resume_entries
    (owned : ∀ stage pid, session.stage? id = some stage → stage.client? = some pid →
      session.books.Owns id pid) :
    Books.Entries id session.books (session.resume id).books := by
  cases resume_trace session id with
  | none same => rw [books_of_record same]
  | attempt begins runs => exact runs ▸ runAttempt_entries
  | evaluate asks runs => exact runs ▸ runEvaluate_entries _ _
  | attach waits runs => exact runs ▸ attachClient_entries (owned _ _ waits rfl) _

/-- The books after something happened that is no turn: only the output may have changed. -/
theorem books_receive {event : Event} (happens : session.mover (.event event) = none) :
    (session.receive event).books.badges = session.books.badges ∧
      (session.receive event).books.engagements = session.books.engagements := by
  by_cases other : event = .discardDirectory
  · subst other
    rw [receive, books_discardDirectory]
    exact ⟨rfl, rfl⟩
  · obtain ⟨-, -, badges, deeds⟩ := record_receive session happens other
    exact ⟨badges, by rw [engagements_eq, deeds, engagements_eq]⟩

end Turns

end Session

end EmacsSession
