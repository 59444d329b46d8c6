/-
This file shows that the brackets of a printed form are balanced outside of its literals.
-/

import Mathlib.Data.List.Infix
import EmacsSession.Proofs.Value.Tokens

namespace EmacsSession

namespace Token

/-- What a token adds to the depth of brackets. -/
def weight : Token → Int
  | .opening => 1
  | .closing => -1
  | _ => 0

/-- The depth of brackets behind the tokens. -/
def depth : List Token → Int
  | [] => 0
  | token :: tokens => weight token + depth tokens

/-- The place is inside of a literal. -/
def Place.isInLiteral : Place → Bool
  | .literal _ | .escape _ => true
  | _ => false

/-- What a character adds to the depth of brackets at a place. Inside of a literal no character is
a bracket. -/
def weightAt (place : Place) (character : Char) : Int :=
  if place.isInLiteral then 0
  else if character = '(' then 1
  else if character = ')' then -1
  else 0

/-- The place behind a text. -/
def placeBehind (place : Place) : List Char → Place
  | [] => place
  | character :: rest => placeBehind (step character place).2 rest

/-- The depth of brackets behind a text, those inside of literals left out. -/
def depthBehind (place : Place) : List Char → Int
  | [] => 0
  | character :: rest => weightAt place character + depthBehind (step character place).2 rest

/-- The tokens that are complete behind a text. -/
def completed (place : Place) : List Char → List Token
  | [] => []
  | character :: rest => (step character place).1 ++ completed (step character place).2 rest

/-- The tokens close all brackets that they open, and none before it was opened. -/
structure IsBalanced (tokens : List Token) : Prop where
  closed : depth tokens = 0
  nonneg : ∀ front back, front ++ back = tokens → 0 ≤ depth front

@[simp] theorem depth_nil : depth [] = 0 := rfl

@[simp] theorem depth_cons (token : Token) (tokens : List Token) :
    depth (token :: tokens) = token.weight + depth tokens := rfl

@[simp] theorem depth_append (first second : List Token) :
    depth (first ++ second) = depth first + depth second := by
  induction first with
  | nil => simp
  | cons token first inductionHypothesis => simp [inductionHypothesis, Int.add_assoc]

section Texts

variable {place : Place} {front back : List Char} {tokens : List Token}

theorem depth_begins (character : Char) :
    depth (begins character).1 = weightAt .gap character := by
  unfold begins weightAt
  split_ifs <;> simp_all [weight, Place.isInLiteral]

/-- The tokens that a character completes add as much to the depth as the character itself. -/
theorem depth_step (character : Char) (place : Place) :
    depth (step character place).1 = weightAt place character := by
  cases place with
  | gap => exact depth_begins character
  | run held =>
      rw [step]
      split
      next inside =>
        have noOpening : character ≠ '(' := by
          rintro rfl
          exact absurd inside (by decide)
        have noClosing : character ≠ ')' := by
          rintro rfl
          exact absurd inside (by decide)
        simp [weightAt, noOpening, noClosing, Place.isInLiteral]
      next =>
        rw [depth_cons, depth_begins]
        exact Int.zero_add _
  | literal held =>
      rw [step]
      split_ifs <;> simp [weightAt, weight, Place.isInLiteral]
  | escape held => rfl

theorem depthBehind_eq (place : Place) (text : List Char) :
    depthBehind place text = depth (completed place text) := by
  induction text generalizing place with
  | nil => rfl
  | cons character rest inductionHypothesis =>
      rw [depthBehind, completed, depth_append, depth_step, inductionHypothesis]

theorem scanFrom_append (place : Place) (front back : List Char) :
    scanFrom place (front ++ back) =
      (scanFrom (placeBehind place front) back).map (completed place front ++ ·) := by
  induction front generalizing place with
  | nil => simp [placeBehind, completed]
  | cons character rest inductionHypothesis =>
      rw [List.cons_append, scanFrom, inductionHypothesis, Option.map_map]
      simp [placeBehind, completed, Function.comp_def]

/-- The tokens of a text are those that are complete behind its front, and those that the back
completes. -/
theorem scanFrom_eq_some (scanned : scanFrom place (front ++ back) = some tokens) :
    ∃ others, scanFrom (placeBehind place front) back = some others ∧
      completed place front ++ others = tokens := by
  rw [scanFrom_append] at scanned
  exact Option.map_eq_some_iff.mp scanned

/-- The end of a text completes no bracket. -/
theorem depth_finish (finished : finish place = some tokens) : depth tokens = 0 := by
  cases place <;> cases finished <;> rfl

theorem isInLiteral_of_finish (finished : finish place = some tokens) :
    place.isInLiteral = false := by
  cases place <;> first | rfl | cases finished

/-- A bracket that closes at the end of a text is a token of its own. -/
theorem scanFrom_closing_ne (text : List Char) :
    scanFrom place (text ++ [')']) ≠ some [] := by
  intro scanned
  obtain ⟨others, ending, none⟩ := scanFrom_eq_some scanned
  obtain rfl : others = [] := (List.append_eq_nil_iff.mp none).2
  have outside : isRunCharacter ')' = false := by decide
  cases behind : placeBehind place text <;>
    simp [behind, scanFrom, step, begins, finish, outside] at ending

end Texts

section Balance

variable {first second inner front back : List Token} {token : Token}

theorem isBalanced_nil : IsBalanced [] :=
  ⟨rfl, fun front back split => by simp [(List.append_eq_nil_iff.mp split).1]⟩

theorem isBalanced_singleton (flat : token.weight = 0) : IsBalanced [token] := by
  refine ⟨by simp [flat], fun front back split => ?_⟩
  cases front with
  | nil => simp
  | cons other rest =>
      obtain ⟨rfl, others⟩ := List.cons.inj split
      simp [flat, (List.append_eq_nil_iff.mp others).1]

theorem IsBalanced.append (left : IsBalanced first) (right : IsBalanced second) :
    IsBalanced (first ++ second) := by
  refine ⟨by rw [depth_append, left.closed, right.closed]; rfl, fun front back split => ?_⟩
  rcases List.append_eq_append_iff.mp split with ⟨more, within, -⟩ | ⟨more, rfl, beyond⟩
  · exact left.nonneg front more within.symm
  · rw [depth_append, left.closed, Int.zero_add]
    exact right.nonneg more back beyond.symm

/-- Between a bracket that opens and the one that closes it the depth is positive. -/
theorem IsBalanced.enclosed (balanced : IsBalanced inner)
    (split : front ++ back = .opening :: (inner ++ [.closing])) (begun : front ≠ [])
    (unfinished : back ≠ []) : 0 < depth front := by
  obtain ⟨token, front, rfl⟩ := List.exists_cons_of_ne_nil begun
  rw [List.cons_append, List.cons.injEq] at split
  obtain ⟨rfl, rest⟩ := split
  obtain ⟨back, last, rfl⟩ := (List.eq_nil_or_concat' back).resolve_left unfinished
  rw [← List.append_assoc] at rest
  have within := balanced.nonneg front back (List.append_inj_left' rest rfl)
  rw [depth_cons, weight]
  omega

theorem IsBalanced.enclose (balanced : IsBalanced inner) :
    IsBalanced (.opening :: (inner ++ [.closing])) := by
  have closed : depth (.opening :: (inner ++ [.closing])) = 0 := by
    simp [balanced.closed, weight]
  refine ⟨closed, fun front back split => ?_⟩
  by_cases begun : front = []
  · simp [begun]
  · by_cases finished : back = []
    · subst finished
      rw [List.append_nil] at split
      have level : depth front = 0 := by rw [split, closed]
      exact Int.le_of_eq level.symm
    · exact Int.le_of_lt (balanced.enclosed split begun finished)

end Balance

end Token

namespace Value

open Token

variable {value first rest : Value}

theorem weight_leafToken (value : Value) : value.leafToken.weight = 0 := by
  cases value <;> rfl

theorem isBalanced_tokens (value : Value) :
    IsBalanced value.tokens ∧ IsBalanced value.tailTokens := by
  have point : IsBalanced [.run ['.']] := isBalanced_singleton rfl
  induction value using formInduction with
  | leaf value leaf =>
      have own : IsBalanced [value.leafToken] := isBalanced_singleton value.weight_leafToken
      rw [tokens_of_isLeaf leaf, tailTokens_of_isLeaf leaf]
      refine ⟨own, ?_⟩
      split
      next => exact isBalanced_nil
      next => exact point.append own
  | quote form inside =>
      have mark : IsBalanced [.quoteMark] := isBalanced_singleton rfl
      exact ⟨mark.append inside.1, point.append (mark.append inside.1)⟩
  | cell first rest atFirst atRest =>
      have inside := atFirst.1.append atRest.2
      refine ⟨?_, inside⟩
      rw [tokens, ← List.append_assoc]
      exact inside.enclose

/-- The text is written as the value: it is cut into the tokens of the value and leaves no literal
open, and its brackets outside of literals are balanced. Those around a list are closed at its end
and not before. -/
structure IsWrittenAs (value : Value) (text : List Char) : Prop where
  tokens : scan text = some value.tokens
  closed : (placeBehind .gap text).isInLiteral = false
  balanced : depthBehind .gap text = 0
  nonneg : ∀ front back, front ++ back = text → 0 ≤ depthBehind .gap front
  enclosed : ∀ first rest, value = .cell first rest → ∀ front back, front ++ back = text →
    front ≠ [] → back ≠ [] → 0 < depthBehind .gap front

/-- A printed form is written as the value that it is the form of. -/
theorem isWrittenAs_of_print {text : String} (printed : value.print = .ok text)
    (escaped : value.OnLeaves HasEscapedText) : value.IsWrittenAs text.toList := by
  have scanned := scan_of_print printed escaped
  have balanced := value.isBalanced_tokens.1
  have whole : scanFrom .gap (text.toList ++ []) = some value.tokens := by
    rwa [List.append_nil]
  obtain ⟨others, finished, split⟩ := scanFrom_eq_some whole
  refine ⟨scanned, isInLiteral_of_finish finished, ?_, ?_, ?_⟩
  · have total := congrArg depth split
    rw [depth_append, depth_finish finished, balanced.closed, Int.add_zero] at total
    rw [depthBehind_eq, total]
  · rintro front back same
    rw [← same] at scanned
    obtain ⟨others, -, split⟩ := scanFrom_eq_some scanned
    rw [depthBehind_eq]
    exact balanced.nonneg _ _ split
  · rintro first rest rfl front back same begun unfinished
    obtain ⟨head, tail, -, -, shape⟩ := toList_of_print_cell printed
    -- The front has completed the bracket that opens, and the back completes the one that closes.
    obtain ⟨character, front, rfl⟩ := List.exists_cons_of_ne_nil begun
    have ends := same.trans shape
    rw [List.cons_append, List.cons.injEq] at ends
    obtain ⟨rfl, within⟩ := ends
    obtain ⟨back, last, rfl⟩ := (List.eq_nil_or_concat' back).resolve_left unfinished
    rw [← List.append_assoc, ← List.append_assoc] at within
    obtain rfl : last = ')' := List.singleton_inj.mp (List.append_inj_right' within rfl)
    rw [← same] at scanned
    obtain ⟨others, ending, split⟩ := scanFrom_eq_some scanned
    have remaining : others ≠ [] := by
      rintro rfl
      exact scanFrom_closing_ne back ending
    have inside := (first.isBalanced_tokens.1).append rest.isBalanced_tokens.2
    rw [depthBehind_eq]
    apply inside.enclosed _ (by simp [completed, step, begins]) remaining
    rw [split, Value.tokens, List.append_assoc]

end Value

end EmacsSession
