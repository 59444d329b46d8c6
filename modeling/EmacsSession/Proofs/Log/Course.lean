/-
This file shows what becomes of the root of the loggers in the course of set-ups, of handlers that
are added, and of other texts in the environment.
-/

import EmacsSession.Proofs.Log.Line
import EmacsSession.Proofs.Log.SetUp

namespace EmacsSession.Log

/-- The root of the loggers, and the text of the environment that asks for a level. -/
structure Scene where
  root : Root := {}
  requested : Option String := none

namespace Scene

/-- What changes a scene. -/
inductive Act where
  | request (text : Option String)
  | addHandler (handler : Handler)
  | setUp (level : Value)

/-- The handler that an act adds, if it adds one. -/
def Act.handler? : Act → Option Handler
  | .addHandler handler => some handler
  | _ => none

/-- What a set-up is answered with. -/
def answer (scene : Scene) (level : Value) : Except Fault Unit :=
  (scene.root.configure scene.requested level).1

/-- What an act makes of a scene. -/
def act (scene : Scene) : Act → Scene
  | .request text => { scene with requested := text }
  | .addHandler handler => { scene with root := scene.root.addHandler handler }
  | .setUp level => { scene with root := (scene.root.configure scene.requested level).2 }

/-- The acts are done in order. -/
def follow (scene : Scene) (acts : List Act) : Scene :=
  acts.foldl act scene

/-- No set-up among the acts succeeds. -/
def IsQuiet (scene : Scene) : List Act → Prop
  | [] => True
  | act :: acts =>
      (∀ level, act = .setUp level → scene.answer level ≠ .ok ()) ∧ (scene.act act).IsQuiet acts

/-- What a set-up does after other acts, and what becomes of that. -/
structure IsWhole (start : Scene) (before : List Act) (level : Value) : Prop where
  /-- It is refused just in these ways. -/
  refused : ∀ fault, (start.follow before).answer level = .error fault ↔
    IsRefused (start.follow before).requested level fault
  /-- Then neither the level nor the handlers change. -/
  unchanged : ∀ fault, (start.follow before).answer level = .error fault →
    (start.follow (before ++ [.setUp level])).root = (start.follow before).root
  /-- Otherwise there is one handler, -/
  single : (start.follow before).answer level = .ok () →
    (start.follow (before ++ [.setUp level])).root.handlers = [.lines standardTemplate]
  /-- and each record is written once. -/
  writes : (start.follow before).answer level = .ok () →
    (start.follow (before ++ [.setUp level])).root.WritesOnce
  /-- Until another set-up succeeds, the level stays, and the handlers that are added stand behind
  the one. -/
  lasts : (start.follow before).answer level = .ok () → ∀ after,
    (start.follow (before ++ [.setUp level])).IsQuiet after →
      (start.follow (before ++ .setUp level :: after)).root =
        { level := (start.follow (before ++ [.setUp level])).root.level
          handlers := .lines standardTemplate :: after.filterMap Act.handler? }

section Acts

variable {scene start : Scene} {level : Value} {fault : Fault} {acts : List Act}

theorem follow_append (first second : List Act) :
    start.follow (first ++ second) = (start.follow first).follow second :=
  List.foldl_append

theorem answer_eq_error_iff :
    scene.answer level = .error fault ↔ levelFor scene.requested level = .error fault := by
  cases found : levelFor scene.requested level with
  | ok result =>
      rw [answer, configure_of_ok found]
      exact iff_of_false nofun nofun
  | error other =>
      rw [answer, configure_of_error found]
      constructor
      all_goals
        intro same
        cases same
        rfl

theorem act_of_error (refused : scene.answer level = .error fault) :
    scene.act (.setUp level) = scene := by
  rw [act, configure_of_error (answer_eq_error_iff.mp refused)]

theorem root_of_ok (accepted : scene.answer level = .ok ()) :
    ∃ result, (scene.act (.setUp level)).root = .settled result := by
  cases found : levelFor scene.requested level with
  | ok result => exact ⟨result, by rw [act, configure_of_ok found]⟩
  | error fault => cases (answer_eq_error_iff.mpr found).symm.trans accepted

/-- As long as no set-up succeeds, handlers are added and nothing else changes. -/
theorem root_of_isQuiet (quiet : scene.IsQuiet acts) :
    (scene.follow acts).root =
      { scene.root with handlers := scene.root.handlers ++ acts.filterMap Act.handler? } := by
  induction acts generalizing scene with
  | nil => simp [follow]
  | cons act acts inductionHypothesis =>
      obtain ⟨unaccepted, quiet⟩ := quiet
      -- What comes later only adds handlers, so one act is left to look at.
      refine (inductionHypothesis quiet).trans ?_
      cases act with
      | request text => rfl
      | addHandler handler => simp [Scene.act, Root.addHandler, Act.handler?]
      | setUp level =>
          cases result : scene.answer level with
          | ok nothing => exact absurd result (unaccepted level rfl)
          | error fault =>
              rw [act_of_error result]
              rfl

end Acts

/-- In every course of acts, a set-up is refused and changes nothing, or leaves one handler that
writes each record once, and only handlers that are added later come to it. -/
theorem follow_isWhole (start : Scene) (before : List Act) (level : Value) :
    start.IsWhole before level := by
  have after : start.follow (before ++ [.setUp level]) =
      (start.follow before).act (.setUp level) := follow_append before [.setUp level]
  have single (accepted : (start.follow before).answer level = .ok ()) :
      (start.follow (before ++ [.setUp level])).root.handlers = [.lines standardTemplate] := by
    obtain ⟨result, settled⟩ := root_of_ok accepted
    rw [after, settled]
    rfl
  constructor
  · exact fun fault => answer_eq_error_iff.trans levelFor_eq_error_iff
  · intro fault refused
    rw [after, act_of_error refused]
  · exact single
  · exact fun accepted => writesOnce_of_handlers (single accepted)
  · intro accepted later quiet
    rw [List.append_cons, follow_append, root_of_isQuiet quiet, single accepted]
    rfl

end Scene

end EmacsSession.Log
