/-
This file shows when the root of the loggers can be set up, and which level it gets.
-/

import EmacsSession.Log.Root
import EmacsSession.Proofs.Log.Level

namespace EmacsSession

/-- The kinds of values that a set-up takes. -/
def Kind.levels : List Kind :=
  [.absent, .truth, .int, .text]

/-- The value is a form that has other forms as parts. -/
def Value.isComposed : Value → Bool
  | .cell _ _ | .quote _ => true
  | _ => false

namespace Log

open Text

/-- How a set-up is refused. -/
inductive IsRefused (requested : Option String) : Value → Fault → Prop where
  /-- The text of the environment looks like a number, and cannot be read as one. -/
  | numeral {text : String} {error : NumeralError} (asked : requested = some text)
      (nonempty : wordOf text ≠ []) (digits : ∀ character ∈ wordOf text, isDigit character)
      (unreadable : readNumeral (wordOf text) = .error error) :
      IsRefused requested .absent (.numeral error)
  /-- There is no level of the name. -/
  | name {name : String} (unknown : ∀ level, (name, level) ∉ namedLevels) :
      IsRefused requested (.text name) (.levelName name)
  /-- The value is neither a number nor a text. -/
  | kind {level : Value} (foreign : level.kind ∉ Kind.levels)
      (shown : level.isComposed → ∃ text, level.print = .ok text) :
      IsRefused requested level (.levelKind level.describe)
  /-- The value is a form with a part that is none. -/
  | unprintable {level : Value} {kind : Kind} (composed : level.isComposed)
      (unprinted : level.print = .error kind) : IsRefused requested level (.unprintable kind)

/-- The level that a set-up comes to. -/
def levelFor (requested : Option String) (level : Value) : Except Fault RootLevel :=
  (setUpLevel requested level).bind rootLevel

/-- The root after a set-up with a level. -/
def Root.settled (level : RootLevel) : Root :=
  ⟨level, [.lines standardTemplate]⟩

/-- A set-up without a level gives the root the level of warnings. -/
def Root.FallsBack (root : Root) (requested : Option String) : Prop :=
  root.configure requested .absent = (.ok (), .settled (.number 30))

section SetUp

variable {root : Root} {requested : Option String} {level : Value} {fault : Fault}
  {result : RootLevel} {text : String} {word : List Char} {number : Int}

theorem lineTemplate_standard : lineTemplate standardTemplate = .ok standardTemplate := by
  have field : hasField standardTemplate.toList = true := by decide +kernel
  rw [lineTemplate, if_neg (by decide), if_pos field]

/-- Taking away each handler that there is leaves none. -/
theorem foldl_removeHandler (root : Root) :
    root.handlers.foldl Root.removeHandler root = { root with handlers := [] } := by
  obtain ⟨level, handlers⟩ := root
  -- The handlers are walked in the order in which they stand, so each one that is asked for is the
  -- first of those that are left, whichever others equal it.
  induction handlers with
  | nil => rfl
  | cons handler handlers inductionHypothesis =>
      have first : Root.removeHandler ⟨level, handler :: handlers⟩ handler = ⟨level, handlers⟩ := by
        rw [Root.removeHandler, List.erase_cons_head]
      rw [List.foldl_cons, first, inductionHypothesis]

theorem replaceHandlers_eq (root : Root) :
    root.replaceHandlers standardTemplate = (.ok (), .settled root.level) := by
  simp only [Root.replaceHandlers, foldl_removeHandler, lineTemplate_standard]
  rfl

theorem configure_of_ok (found : levelFor requested level = .ok result) :
    root.configure requested level = (.ok (), .settled result) := by
  rw [levelFor] at found
  rw [Root.configure]
  cases asked : setUpLevel requested level with
  | error fault =>
      rw [asked] at found
      cases found
  | ok value =>
      rw [asked] at found
      have set : root.setLevel value = (.ok (), { root with level := result }) := by
        rw [Root.setLevel, show rootLevel value = .ok result from found]
      simp only [set]
      exact replaceHandlers_eq _

/-- A fault is found before anything is changed. -/
theorem configure_of_error (fails : levelFor requested level = .error fault) :
    root.configure requested level = (.error fault, root) := by
  rw [levelFor] at fails
  rw [Root.configure]
  cases asked : setUpLevel requested level with
  | error other =>
      rw [asked] at fails
      cases fails
      rfl
  | ok value =>
      rw [asked] at fails
      have refused : root.setLevel value = (.error fault, root) := by
        rw [Root.setLevel, show rootLevel value = .error fault from fails]
      simp only [refused]

theorem levelFor_absent (requested : Option String) :
    levelFor requested .absent =
      match requestedLevel requested with
      | .error error => .error (.numeral error)
      | .ok asked => .ok (.number (if asked.getD 0 = 0 then 30 else asked.getD 0)) := by
  rw [levelFor, setUpLevel, defaultLevel]
  rcases requestedLevel requested with error | asked | level
  · rfl
  · rfl
  · by_cases zero : level = 0 <;> simp [zero, standardLevel, Except.map, Except.bind, rootLevel]

/-- The text of a word that denotes a level is read, and a level of zero is taken for none. -/
theorem configure_of_denotes (root : Root) (denotes : Denotes (wordOf text) number)
    (short : (wordOf text).length ≤ numeralLimit) :
    root.configure (some text) .absent =
      (.ok (), .settled (.number (if number = 0 then 30 else number))) := by
  apply configure_of_ok
  rw [levelFor_absent, requestedLevel_of_denotes denotes short]
  rfl

theorem fallsBack_of_unknown (root : Root) (unknown : ∀ level, ¬ Denotes (wordOf text) level)
    (readable : ¬ IsPositionless (wordOf text)) : root.FallsBack (some text) := by
  apply configure_of_ok
  rw [levelFor_absent, requestedLevel_of_unknown unknown readable]
  rfl

theorem fallsBack_none (root : Root) : root.FallsBack none := by
  apply configure_of_ok
  rw [levelFor_absent, requestedLevel_none]
  rfl

theorem configure_of_positionless (root : Root) (positionless : IsPositionless (wordOf text)) :
    ∃ error, root.configure (some text) .absent = (.error (.numeral error), root) := by
  obtain ⟨error, refused⟩ := requestedLevel_of_positionless positionless
  refine ⟨error, configure_of_error ?_⟩
  rw [levelFor_absent, refused]

theorem not_denotes (unnamed : levelOf? (String.ofList word) = none)
    (undecimal : ∃ character ∈ word, decimalValue? character = none) : ¬ Denotes word number := by
  intro denotes
  cases denotes with
  | name known =>
      rw [String.ofList_toList, levelOf?_eq_some_iff.mpr known] at unnamed
      cases unnamed
  | numeral nonempty decimals =>
      obtain ⟨character, member, none⟩ := undecimal
      have valued := List.mem_map_of_mem (f := decimalValue?) member
      rw [decimals.map, none] at valued
      simp at valued

/-- A form is printed before it is refused. -/
theorem levelFor_of_isComposed (composed : level.isComposed) :
    levelFor requested level =
      match level.print with
      | .ok _ => .error (.levelKind level.describe)
      | .error kind => .error (.unprintable kind) := by
  cases level <;> first | rfl | cases composed

theorem levelFor_of_foreign (foreign : level.kind ∉ Kind.levels)
    (shown : level.isComposed → ∃ text, level.print = .ok text) :
    levelFor requested level = .error (.levelKind level.describe) := by
  by_cases composed : level.isComposed
  · obtain ⟨text, printed⟩ := shown composed
    rw [levelFor_of_isComposed composed, printed]
  · cases level <;> simp [Value.kind, Kind.levels, Value.isComposed] at foreign composed <;> rfl

theorem levelFor_text (name : String) :
    levelFor requested (.text name) =
      match levelOf? name with
      | some level => .ok (.number level)
      | none => .error (.levelName name) :=
  rfl

theorem isRefused_of_absent (fails : levelFor requested .absent = .error fault) :
    IsRefused requested .absent fault := by
  rw [levelFor_absent] at fails
  cases requested with
  | none =>
      rw [requestedLevel_none] at fails
      cases fails
  | some text =>
      cases asked : requestedLevel (some text) with
      | ok level =>
          rw [asked] at fails
          cases fails
      | error error =>
          rw [asked] at fails
          cases fails
          obtain ⟨nonempty, digits, unreadable⟩ := requestedLevel_eq_error_iff.mp asked
          exact .numeral rfl nonempty digits unreadable

theorem isRefused_of_text {name : String} (fails : levelFor requested (.text name) = .error fault) :
    IsRefused requested (.text name) fault := by
  rw [levelFor_text] at fails
  cases found : levelOf? name with
  | some level =>
      rw [found] at fails
      cases fails
  | none =>
      rw [found] at fails
      cases fails
      refine .name fun level known => ?_
      rw [levelOf?_eq_some_iff.mpr known] at found
      cases found

theorem isRefused_of_foreign (foreign : level.kind ∉ Kind.levels)
    (fails : levelFor requested level = .error fault) : IsRefused requested level fault := by
  by_cases shown : level.isComposed → ∃ text, level.print = .ok text
  · rw [levelFor_of_foreign foreign shown] at fails
    cases fails
    exact .kind foreign shown
  · obtain ⟨composed, unshown⟩ := Classical.not_imp.mp shown
    rw [levelFor_of_isComposed composed] at fails
    cases printed : level.print with
    | ok text => exact absurd ⟨text, printed⟩ unshown
    | error kind =>
        rw [printed] at fails
        cases fails
        exact .unprintable composed printed

theorem isRefused_of_levelFor (fails : levelFor requested level = .error fault) :
    IsRefused requested level fault := by
  by_cases known : level.kind ∈ Kind.levels
  · cases level <;> simp [Value.kind, Kind.levels] at known
    case truth value => cases fails
    case int value => cases fails
    case absent => exact isRefused_of_absent fails
    case text name => exact isRefused_of_text fails
  · exact isRefused_of_foreign known fails

/-- A set-up is refused just in these ways. -/
theorem levelFor_eq_error_iff :
    levelFor requested level = .error fault ↔ IsRefused requested level fault := by
  refine ⟨isRefused_of_levelFor, fun refused => ?_⟩
  cases refused with
  | numeral asked nonempty digits unreadable =>
      rw [levelFor_absent, asked,
        requestedLevel_eq_error_iff.mpr ⟨nonempty, digits, unreadable⟩]
  | @name name unknown =>
      have unnamed : levelOf? name = none := Option.eq_none_iff_forall_not_mem.mpr
        fun level found => unknown level (levelOf?_eq_some_iff.mp found)
      rw [levelFor_text, unnamed]
  | kind foreign shown => exact levelFor_of_foreign foreign shown
  | unprintable composed unprinted => rw [levelFor_of_isComposed composed, unprinted]

end SetUp

/-- Where the environment asks for no level, a set-up without one falls back, unless the text
consists of digits: then it fails, and the root is as it was. -/
theorem fallsBack_iff_not_isPositionless (root : Root) (requested : Option String)
    (unknown : ∀ text ∈ requested, ∀ level, ¬ Denotes (wordOf text) level) :
    (root.FallsBack requested ↔ ∀ text ∈ requested, ¬ IsPositionless (wordOf text)) ∧
      (¬ root.FallsBack requested →
        ∃ error, root.configure requested .absent = (.error (.numeral error), root)) := by
  cases requested with
  | none => exact ⟨iff_of_true (fallsBack_none root) nofun, (absurd (fallsBack_none root) ·)⟩
  | some text =>
      by_cases positionless : IsPositionless (wordOf text)
      · obtain ⟨error, fails⟩ := configure_of_positionless root positionless
        have stays : ¬ root.FallsBack (some text) := by
          intro falls
          cases congrArg Prod.fst (fails.symm.trans falls)
        exact ⟨iff_of_false stays fun readable => readable text rfl positionless,
          fun _ => ⟨error, fails⟩⟩
      · have falls := fallsBack_of_unknown root (unknown text rfl) positionless
        refine ⟨iff_of_true falls fun other asked => ?_, (absurd falls ·)⟩
        cases asked
        exact positionless

/-- A word between blanks that is the name of no level. -/
theorem fallsBack_loud : (∀ text ∈ some " loud\n", ∀ level, ¬ Denotes (wordOf text) level) ∧
    Root.FallsBack ⟨.number 10, [.silent, .silent]⟩ (some " loud\n") := by
  have word : wordOf " loud\n" = ['L', 'O', 'U', 'D'] := by decide +kernel
  have unknown : ∀ text ∈ some " loud\n", ∀ level, ¬ Denotes (wordOf text) level := by
    rintro text asked level
    cases asked
    rw [word]
    exact not_denotes (by decide) ⟨'L', by decide, by decide⟩
  refine ⟨unknown, (fallsBack_iff_not_isPositionless _ _ unknown).1.mpr ?_⟩
  rintro text asked positionless
  cases asked
  have digit := positionless.digits 'L' (by rw [word]; decide)
  exact absurd digit (by decide)

/-- A raised two is no number that can be read. -/
theorem not_forall_fallsBack : ¬ ∀ (root : Root) (requested : Option String),
    (∀ text ∈ requested, ∀ level, ¬ Denotes (wordOf text) level) → root.FallsBack requested := by
  intro claim
  have word : wordOf "\u00b2" = ['\u00b2'] := by decide +kernel
  have positionless : IsPositionless (wordOf "\u00b2") := by
    rw [word]
    exact ⟨List.forall_mem_singleton.mpr (by decide +kernel), '\u00b2', by decide, by decide⟩
  have falls := claim {} (some "\u00b2") (by
    rintro text asked level
    cases asked
    rw [word]
    exact not_denotes (by decide) ⟨'\u00b2', by decide, by decide⟩)
  obtain ⟨error, fails⟩ := configure_of_positionless {} positionless
  cases congrArg Prod.fst (fails.symm.trans falls)

/-- The level that a text of the environment denotes is set, whatever the root was before, unless
it is zero: then the level of warnings is. -/
theorem level_eq_iff_ne_zero (root : Root) (text : String) (level : Int)
    (denotes : Denotes (wordOf text) level) (short : (wordOf text).length ≤ numeralLimit) :
    ∃ after, root.configure (some text) .absent = (.ok (), after) ∧
      (after.level = .number level ↔ level ≠ 0) ∧ (level = 0 → after.level = .number 30) := by
  refine ⟨_, configure_of_denotes root denotes short, ?_, fun zero => ?_⟩
  · by_cases zero : level = 0
    · subst zero
      exact iff_of_false nofun (not_not_intro rfl)
    · exact iff_of_true (congrArg RootLevel.number (if_neg zero)) zero
  · exact congrArg RootLevel.number (if_pos zero)

/-- The digits of another script, with a zero in front. -/
theorem level_eq_fifteen : Denotes (wordOf " \u0660\u0661\u0665") 15 ∧
    (wordOf " \u0660\u0661\u0665").length ≤ numeralLimit ∧
    (Root.configure {} (some " \u0660\u0661\u0665") .absent).2.level = .number 15 := by
  have word : wordOf " \u0660\u0661\u0665" = ['\u0660', '\u0661', '\u0665'] := by
    decide +kernel
  have denotes : Denotes (wordOf " \u0660\u0661\u0665") 15 := by
    have decimals : AreDecimals ['\u0660', '\u0661', '\u0665'] [0, 1, 5] :=
      .cons rfl (.cons rfl (.cons rfl .nil))
    have numeral := Denotes.numeral (List.cons_ne_nil _ _) decimals
    rwa [word]
  have short : (wordOf " \u0660\u0661\u0665").length ≤ numeralLimit := by
    rw [word]
    decide
  obtain ⟨after, sets, level, -⟩ := level_eq_iff_ne_zero {} _ _ denotes short
  exact ⟨denotes, short, by rw [sets]; exact level.mpr (by decide)⟩

/-- The name of the level zero is known, and the level of warnings is set. -/
theorem not_forall_level_eq : ¬ ∀ (root : Root) (text : String) (level : Int),
    Denotes (wordOf text) level → (wordOf text).length ≤ numeralLimit →
      (root.configure (some text) .absent).2.level = .number level := by
  intro claim
  have word : wordOf "NOTSET" = "NOTSET".toList := by decide +kernel
  have denotes : Denotes (wordOf "NOTSET") 0 := by
    rw [word]
    exact .name (by decide)
  have short : (wordOf "NOTSET").length ≤ numeralLimit := by
    rw [word]
    decide
  have level := claim {} "NOTSET" 0 denotes short
  rw [configure_of_denotes {} denotes short] at level
  cases level

end Log

end EmacsSession
