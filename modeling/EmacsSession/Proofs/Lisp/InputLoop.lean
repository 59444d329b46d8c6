/-
This file shows that the program that reads the standard input binds its variable to the whole
input and evaluates its body once.
-/

import EmacsSession.Form.Input
import EmacsSession.Proofs.Lisp.Rules

namespace EmacsSession.Lisp

open Form Evaluation

variable {World : Type} {host : Host World} {state after : State World} {levels : Nat}

/-- The texts that the loop collects for the lines, the last one first. -/
def collected (host : Host World) (lines : List (List Char)) : List Datum :=
  (lines.map fun line => .text (host.literal lineMark.toList ++ line)).reverse

theorem chunks_sound : symbolFlaw? "elisp-bridge--chunks" = none := by decide

theorem line_sound : symbolFlaw? "elisp-bridge--line" = none := by decide

/-- The names of the program's own variables. -/
def chunksName : Symbol := ⟨"elisp-bridge--chunks", chunks_sound⟩

def lineName : Symbol := ⟨"elisp-bridge--line", line_sound⟩

theorem chunks_eq : chunks = .symbol chunksName := rfl

theorem line_eq : line = .symbol lineName := rfl

section Loop

variable (chunksVariable : host.constant? chunksName.name = none)
  (lineVariable : host.constant? lineName.name = none)

/-- Reading a line is nil at the end of the input. -/
theorem evaluate_readLine (state : State World) :
    host.evaluate (levels + 3) readLine state =
      some (.ok (match state.input with
        | line :: _ => .text line
        | [] => .nil), { state with input := state.input.tail }) := by
  have reading : host.evaluate (levels + 2) (list [word "read-string", .text ""]) state =
      nextLine state := by
    rw [evaluate_call rfl]
    simp [bind_of_ok (evaluate_emptyText state), Host.apply]
  rw [readLine, evaluate_guard, inOrder_singleton, guarded, reading]
  obtain ⟨values, input, world⟩ := state
  cases input <;> rfl

include lineVariable in
theorem evaluate_nextLine (levels : Nat) (state : State World) :
    host.evaluate (levels + 4) (assignment line readLine) state =
      assign lineName.name (match state.input with
        | line :: _ => .text line
        | [] => .nil) { state with input := state.input.tail } := by
  rw [line_eq, evaluate_assignment lineVariable]
  exact bind_of_ok (evaluate_readLine state)

include chunksVariable lineVariable in
/-- The line is put in front of the collected ones, behind the value of the line mark. -/
theorem evaluate_collect (levels : Nat) {contents : List Char} {earlier : List Datum}
    (read : state.values lineName.name = some (.text contents))
    (held : state.values chunksName.name = some (.ofItems earlier)) :
    host.evaluate (levels + 3)
        (list [word "push", list [word "concat", .text lineMark, line], chunks]) state =
      assign chunksName.name
        (.ofItems (.text (host.literal lineMark.toList ++ contents) :: earlier)) state := by
  have mark : host.evaluate (levels + 1) (.text lineMark) state =
      some (.ok (.text (host.literal lineMark.toList)), state) := rfl
  have atLine : host.evaluate (levels + 1) line state = some (.ok (.text contents), state) := by
    rw [line_eq, evaluate_symbol lineVariable, lookup, read]
  have joining : host.evaluate (levels + 2) (list [word "concat", .text lineMark, line]) state =
      some (.ok (.text (host.literal lineMark.toList ++ contents)), state) := by
    rw [evaluate_call rfl]
    simp [bind_of_ok mark, bind_of_ok atLine, Host.apply, Datum.text?, pure_apply]
  have atChunks : lookup chunksName.name state = some (.ok (.ofItems earlier), state) := by
    rw [lookup, held]
  rw [chunks_eq, evaluate_push chunksVariable, bind_of_ok joining, bind_of_ok atChunks]
  rfl

/-- All lines of the input are read and collected, and no more than that has happened. -/
structure HasRead (host : Host World) (before after : State World) (earlier : List Datum) :
    Prop where
  chunks : after.values chunksName.name =
    some (.ofItems (collected host before.input ++ earlier))
  input : after.input = []
  world : after.world = before.world
  others : ∀ name, name ≠ chunksName.name → name ≠ lineName.name →
    after.values name = before.values name

theorem values_assign (state : State World) (name other : String) (value : Datum) :
    (state.assign name value).values other =
      if other = name then some value else state.values other := rfl

theorem lineName_ne_chunksName : lineName.name ≠ chunksName.name := by
  decide +kernel

include chunksVariable lineVariable in
/-- The loop ends when it has read all lines, whatever their number. -/
theorem evaluate_readLoop (state : State World) {earlier : List Datum}
    (held : state.values chunksName.name = some (.ofItems earlier)) :
    ∃ after, HasRead host state after earlier ∧ ∀ levels,
      host.evaluate (levels + state.input.length + 5) readLoop state = some (.ok .nil, after) := by
  obtain ⟨lines, input⟩ : ∃ lines, state.input = lines := ⟨_, rfl⟩
  induction lines generalizing state earlier with
  | nil =>
      refine ⟨{ state with input := [] }.assign lineName.name .nil, ?_, fun levels => ?_⟩
      · refine ⟨?_, rfl, rfl, fun name _ notLine => ?_⟩
        · rw [values_assign, if_neg lineName_ne_chunksName.symm, input]
          exact held
        · rw [values_assign, if_neg notLine]
      · have read := evaluate_nextLine lineVariable levels state
        simp only [input, List.tail_nil] at read
        rw [input, readLoop, List.length_nil, evaluate_while, bind_of_ok read]
        rfl
  | cons contents rest inductionHypothesis =>
      let taken : State World :=
        { state with input := rest }.assign lineName.name (.text contents)
      let entry : Datum := .text (host.literal lineMark.toList ++ contents)
      have takenLine : taken.values lineName.name = some (.text contents) := by
        rw [values_assign, if_pos rfl]
      have takenChunks : taken.values chunksName.name = some (.ofItems earlier) := by
        rw [values_assign, if_neg lineName_ne_chunksName.symm]
        exact held
      let next : State World := taken.assign chunksName.name (.ofItems (entry :: earlier))
      have nextChunks : next.values chunksName.name = some (.ofItems (entry :: earlier)) := by
        rw [values_assign, if_pos rfl]
      obtain ⟨after, hasRead, ends⟩ := inductionHypothesis next nextChunks rfl
      refine ⟨after, ⟨?_, hasRead.input, hasRead.world, fun name notChunks notLine => ?_⟩,
        fun levels => ?_⟩
      · rw [hasRead.chunks, input]
        simp [collected, next, taken, State.assign, entry]
      · rw [hasRead.others name notChunks notLine, values_assign, if_neg notChunks,
          values_assign, if_neg notLine]
      · have read := evaluate_nextLine lineVariable (levels + rest.length + 1) state
        simp only [input, List.tail_cons] at read
        have collecting := evaluate_collect chunksVariable lineVariable (levels + rest.length + 2)
          takenLine takenChunks
        have others : host.evaluate (levels + rest.length + 5) readLoop next =
            some (.ok .nil, after) := ends levels
        rw [input, readLoop, List.length_cons, ← Nat.add_assoc, Nat.add_right_comm _ 1,
          evaluate_while, bind_of_ok read]
        simp only [reduceCtorEq, if_false, inOrder_singleton]
        rw [bind_of_ok collecting]
        exact others

theorem intercalate_nil (texts : List (List Char)) :
    List.intercalate [] texts = texts.flatten := by
  induction texts with
  | nil => rfl
  | cons first rest inductionHypothesis =>
      cases rest with
      | nil => rfl
      | cons second rest => exact congrArg (first ++ ·) inductionHypothesis

include chunksVariable in
theorem evaluate_joined {lines : List (List Char)}
    (held : state.values chunksName.name = some (.ofItems (collected host lines))) :
    host.evaluate (levels + 4) joined state =
      some (.ok (.text (lines.flatMap (host.literal lineMark.toList ++ ·))), state) := by
  have atChunks : host.evaluate (levels + 2) chunks state =
      some (.ok (.ofItems (collected host lines)), state) := by
    rw [chunks_eq, evaluate_symbol chunksVariable, lookup, held]
  have identity : host.evaluate (levels + 3) (quote (word "identity")) state =
      some (.ok (.symbol "identity"), state) := rfl
  have reversing : host.evaluate (levels + 3) (list [word "nreverse", chunks]) state =
      some (.ok (.ofItems (collected host lines).reverse), state) := by
    rw [evaluate_call rfl]
    simp [bind_of_ok atChunks, Host.apply, pure_apply]
  have texts : (collected host lines).reverse.mapM Datum.text? =
      some (lines.map (host.literal lineMark.toList ++ ·)) := by
    have entries := Datum.mapM_text?_map_text (lines.map (host.literal lineMark.toList ++ ·))
    simpa [collected, Function.comp_def] using entries
  rw [joined, evaluate_call rfl]
  simp [bind_of_ok identity, bind_of_ok reversing, bind_of_ok (evaluate_emptyText state),
    Host.apply, texts, pure_apply, intercalate_nil, List.flatMap_def]

end Loop

/-- The text of the lines that a loop gathers which starts from the empty text, and for every line
puts the mark and the line behind the text. -/
def accumulate (mark : List Char) (lines : List (List Char)) : List Char :=
  lines.foldl (fun text line => text ++ mark ++ line) []

theorem accumulate_eq (mark : List Char) (lines : List (List Char)) :
    accumulate mark lines = lines.flatMap (mark ++ ·) := by
  simp [accumulate, List.flatMap_def]

/-- The state in which the body of the program is evaluated. The whole input is read, and the target
has the text of its lines; but for the variables of the program nothing else has changed. -/
structure Delivers (host : Host World) (target : Symbol) (start inner : State World) : Prop where
  bound : inner.values target.name =
    some (.text (start.input.flatMap (host.literal lineMark.toList ++ ·)))
  accumulated : inner.values target.name =
    some (.text (accumulate (host.literal lineMark.toList) start.input))
  input : inner.input = []
  world : inner.world = start.world
  others : ∀ name ∉ [target.name, chunksName.name, lineName.name],
    inner.values name = start.values name

section Program

variable {target : Symbol} {start : State World}

/-- The state in which the loop is evaluated. -/
def entered (start : State World) : State World :=
  start.assignAll [(chunksName.name, .nil), (lineName.name, .nil)]

theorem delivers_of_hasRead (hasRead : HasRead host (entered start) after []) :
    Delivers host target start (after.assign target.name
      (.text (start.input.flatMap (host.literal lineMark.toList ++ ·)))) := by
  have bound : (after.assign target.name
      (.text (start.input.flatMap (host.literal lineMark.toList ++ ·)))).values target.name =
        some (.text (start.input.flatMap (host.literal lineMark.toList ++ ·))) := by
    rw [values_assign, if_pos rfl]
  refine ⟨bound, by rw [accumulate_eq, bound], hasRead.input, hasRead.world, ?_⟩
  intro name outside
  simp only [List.mem_cons, List.not_mem_nil, or_false, not_or] at outside
  obtain ⟨notTarget, notChunks, notLine⟩ := outside
  rw [values_assign, if_neg notTarget, hasRead.others name notChunks notLine]
  simp [entered, State.assignAll, values_assign, notChunks, notLine]

/-- The inner variables are restored to what they were, and the outer ones are restored behind
them. -/
theorem restore_restore (hasRead : HasRead host (entered start) after []) (last : State World) :
    (last.restore after [target.name]).restore start [chunksName.name, lineName.name] =
      last.restore start [target.name, chunksName.name, lineName.name] := by
  have same (name : String) (outside : name ∉ [chunksName.name, lineName.name]) :
      after.values name = start.values name := by
    simp only [List.mem_cons, List.not_mem_nil, or_false, not_or] at outside
    rw [hasRead.others name outside.1 outside.2]
    simp [entered, State.assignAll, values_assign, outside]
  unfold State.restore
  congr 1
  funext name
  by_cases own : name ∈ [chunksName.name, lineName.name]
  · rw [if_pos own, if_pos (List.mem_cons_of_mem _ own)]
  · simp only [if_neg own]
    by_cases isTarget : name = target.name
    · rw [if_pos (List.mem_singleton.mpr isTarget), if_pos (by simp [isTarget]), same name own]
    · rw [if_neg (by simpa using isTarget), if_neg (by simpa [isTarget] using own)]

/-- The inner form binds the target to the text of all lines, and evaluates the body once. -/
theorem evaluate_inside (targetVariable : host.constant? target.name = none)
    (chunksVariable : host.constant? chunksName.name = none)
    (hasRead : HasRead host (entered start) after []) (body : List Value) (enough : 4 ≤ levels) :
    host.evaluate (levels + 1) (list (word "let" :: list [list [.symbol target, joined]] :: body))
        after =
      during [(target.name, .text (start.input.flatMap (host.literal lineMark.toList ++ ·)))]
        (inOrder (host.evaluate levels) body) after := by
  have chunks := hasRead.chunks
  rw [List.append_nil] at chunks
  obtain ⟨more, rfl⟩ := Nat.exists_eq_add_of_le' enough
  have opened := evaluate_let host (more + 4) [(target, joined)] body
    (List.forall_mem_singleton.mpr targetVariable)
  simp only [List.map_cons, List.map_nil, List.mapM_cons, List.mapM_nil] at opened
  rw [opened, bind_assoc, bind_of_ok (evaluate_joined chunksVariable chunks)]
  rfl

/-- The outer form binds the program's own variables before it evaluates the loop. -/
theorem evaluate_outside (chunksVariable : host.constant? chunksName.name = none)
    (lineVariable : host.constant? lineName.name = none) (inside : Value) :
    host.evaluate (levels + 2) (list [word "let", list [list [chunks, .nil], list [line, .nil]],
        readLoop, inside]) start =
      during [(chunksName.name, .nil), (lineName.name, .nil)]
        (host.evaluate (levels + 1) readLoop >>= fun _ => host.evaluate (levels + 1) inside)
        start := by
  have opened := evaluate_let host (levels + 1)
    [(chunksName, .nil), (lineName, .nil)] [readLoop, inside]
    (by simp [chunksVariable, lineVariable])
  have absent : [(chunksName, Value.nil), (lineName, Value.nil)].mapM
      (fun pair => host.evaluate (levels + 1) pair.2) start =
        some (.ok [.nil, .nil], start) := rfl
  have both : inOrder (host.evaluate (levels + 1)) [readLoop, inside] =
      host.evaluate (levels + 1) readLoop >>= fun _ => host.evaluate (levels + 1) inside := by
    simp [inOrder]
  rw [both] at opened
  exact (congrFun opened start).trans (bind_of_ok absent)

/-- The program that reads the input ends its loop when all lines are read. Then it evaluates its
body in order and once, with the target bound to the text of all lines. The outcome is that of the
body, and behind it the variables of the program have their former values. -/
theorem evaluate_bindInput (host : Host World) (target : Symbol) (start : State World)
    (areVariables : ∀ name ∈ [target, chunksName, lineName], host.constant? name.name = none) :
    (∃ after, after.input = [] ∧ ∀ levels, start.input.length + 5 ≤ levels →
      host.evaluate levels readLoop (entered start) = some (.ok .nil, after)) ∧
    ∃ inner, Delivers host target start inner ∧
      ∀ body levels, start.input.length + 4 ≤ levels →
        host.evaluate (levels + 2) (bindInput body (.symbol target)) start =
          (inOrder (host.evaluate levels) body inner).map fun outcome =>
            (outcome.1, outcome.2.restore start [target.name, chunksName.name, lineName.name]) := by
  simp only [List.forall_mem_cons] at areVariables
  obtain ⟨targetVariable, chunksVariable, lineVariable, -⟩ := areVariables
  have held : (entered start).values chunksName.name = some (.ofItems []) := by
    simp [entered, State.assignAll, values_assign, lineName_ne_chunksName.symm, Datum.ofItems]
  obtain ⟨after, hasRead, ends⟩ := evaluate_readLoop chunksVariable lineVariable _ held
  have looped {levels : Nat} (enough : start.input.length + 5 ≤ levels) :
      host.evaluate levels readLoop (entered start) = some (.ok .nil, after) := by
    obtain ⟨more, rfl⟩ := Nat.exists_eq_add_of_le' enough
    exact ends more
  refine ⟨⟨after, hasRead.input, fun levels => looped⟩, _, delivers_of_hasRead hasRead, ?_⟩
  intro body levels enough
  have looping : host.evaluate (levels + 1) readLoop (entered start) = some (.ok .nil, after) :=
    looped (Nat.succ_le_succ enough)
  have bound := evaluate_inside targetVariable chunksVariable hasRead body
    (Nat.le_of_add_left_le enough)
  rw [bindInput, evaluate_outside chunksVariable lineVariable, during, ← entered,
    bind_of_ok looping]
  refine (congrArg _ bound).trans ?_
  rw [during, Option.map_map]
  refine congrArg (Option.map · _) (funext fun outcome => ?_)
  exact congrArg (outcome.1, ·) (restore_restore hasRead outcome.2)

end Program

/-- A reader that knows the escape of the line feed. -/
def sampleLiteral : List Char → List Char
  | '\x5c' :: 'n' :: rest => '\n' :: sampleLiteral rest
  | character :: rest => character :: sampleLiteral rest
  | [] => []

/-- A host that knows no more than the built-in rules. -/
def sampleHost : Host Unit where
  literal := sampleLiteral
  constant? name :=
    if name = "nil" then some .nil else if name = "t" then some (.symbol "t") else none
  foreign _ _ := fun state => some (.error (.error (.symbol "void-function")), state)
  call _ _ := fun state => some (.error (.error (.symbol "wrong-type-argument")), state)
  literal_nil := rfl

def sampleState : State Unit :=
  ⟨fun _ => none, [['a'], [], ['b']], ()⟩

/-- A document with an empty line. -/
theorem evaluate_bindInput_sample :
    (∀ name ∈ [⟨"content", by decide⟩, chunksName, lineName],
      sampleHost.constant? name.name = none) ∧
    (sampleHost.evaluate 9 (bindInput [content]) sampleState).map Prod.fst =
      some (.ok (.text ['\n', 'a', '\n', '\n', 'b'])) := by
  have areVariables : ∀ name ∈ [⟨"content", by decide⟩, chunksName, lineName],
      sampleHost.constant? name.name = none := by
    decide +kernel
  obtain ⟨-, inner, delivers, evaluates⟩ :=
    evaluate_bindInput sampleHost ⟨"content", by decide⟩ sampleState areVariables
  have outcome := evaluates [content] 7 (by decide)
  have found : sampleHost.evaluate 7 content inner = lookup "content" inner :=
    congrFun (evaluate_symbol (areVariables _ (List.mem_cons_self ..))) inner
  have bound := delivers.bound
  refine ⟨areVariables, (congrArg (Option.map Prod.fst) outcome).trans ?_⟩
  rw [inOrder_singleton, found, lookup]
  simp only at bound
  rw [bound]
  rfl

end EmacsSession.Lisp
