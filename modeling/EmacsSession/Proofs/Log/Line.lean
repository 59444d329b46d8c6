/-
This file shows the lines that the standard template gives, and how the handlers of a root write
them.
-/

import EmacsSession.Log.Root

namespace EmacsSession

namespace Template

variable {entries : Table} {next : Option Value} {name text : String}

/-- A directive that stands for the text of a field. -/
def fieldPiece (name : String) (place : Nat) : Piece :=
  .directive ⟨.named name, .ofList [], none, none, some ('s', place)⟩

/-- A text without a width is set as it is. -/
theorem convert_text (place : Nat) (text : String) :
    convert ⟨.ofList [], 0, none⟩ 's' place (.text text) = .ok text.toList := by
  have aligned : Setting.align ⟨.ofList [], 0, none⟩ text.toList = text.toList := by
    simp [Setting.align, Setting.gap, Flags.ofList]
  have narrow : ¬ widthLimit < 0 := Nat.not_lt_zero _
  exact (if_neg narrow).trans (congrArg Except.ok aligned)

theorem fillPieces_field (found : entries.find (.text name) = some (.text text)) (filled : String)
    (place : Nat) (rest : List Piece) :
    fillPieces filled (fieldPiece name place :: rest) (.table entries next) =
      fillPieces (filled ++ text) rest (.table entries none) := by
  have chosen : Supply.select (.table entries next) (.named name) =
      .ok (.table entries (some (.text text))) := by
    simp only [Supply.select, found]
  have served : Supply.serve (.table entries next)
      ⟨.named name, .ofList [], none, none, some ('s', place)⟩ =
        .ok ((⟨.ofList [], 0, none⟩, 's', place, .text text), .table entries none) := by
    rw [Supply.serve, chosen]
    rfl
  rw [fieldPiece, fillPieces, served]
  change (convert ⟨.ofList [], 0, none⟩ 's' place (.text text) >>= fun characters =>
    fillPieces (filled ++ String.ofList characters) rest (.table entries none)) = _
  rw [convert_text]
  change fillPieces (filled ++ String.ofList text.toList) rest (.table entries none) = _
  rw [String.ofList_toList]

end Template

namespace Log

open Template

/-- The line of a record in the standard template. -/
def Record.standardLine (record : Record) (message : String) : String :=
  "[" ++ levelName record.level ++ "] " ++ record.logger ++ ": " ++ message

variable {record : Record} {message : String}

theorem pieces_standardTemplate :
    pieces standardTemplate =
      [.character '[', fieldPiece "levelname" 13, .character ']', .character ' ',
        fieldPiece "name" 23, .character ':', .character ' ', fieldPiece "message" 36] := by
  decide +kernel

theorem find_fields (record : Record) (message : String) :
    (record.fields message).find (.text "levelname") = some (.text (levelName record.level)) ∧
      (record.fields message).find (.text "name") = some (.text record.logger) ∧
        (record.fields message).find (.text "message") = some (.text message) := by
  simp [Table.find, Record.fields, Value.same]

theorem line_standardTemplate (made : record.message = .ok message) :
    record.line standardTemplate = .ok (record.standardLine message) := by
  obtain ⟨levelFound, nameFound, messageFound⟩ := find_fields record message
  have filled : fill standardTemplate (.ofTable (record.fields message)) =
      .ok (record.standardLine message) := by
    rw [fill, pieces_standardTemplate, Supply.ofTable]
    simp only [fillPieces, fillPieces_field levelFound, fillPieces_field nameFound,
      fillPieces_field messageFound, Except.ok.injEq]
    apply String.toList_inj.mp
    simp [Record.standardLine]
  rw [Record.line, made]
  change (fill standardTemplate (.ofTable (record.fields message))).mapError Record.lineFault = _
  rw [filled]
  rfl

theorem paintedLine_standardTemplate (coloured : Bool) (made : record.message = .ok message) :
    record.paintedLine coloured standardTemplate =
      .ok (String.ofList ((if coloured then colourOf record.level else .off).paint
        (record.standardLine message).toList)) := by
  simp only [Record.paintedLine, line_standardTemplate made, bind, Except.bind]

/-- The record as the root gets it. -/
def Record.named (record : Record) : Record :=
  { record with logger := loggerName record.logger }

/-- What is written for a record that is severe enough is what one handler writes: its line in the
standard template, if it has a message. Nothing is written for any other record. -/
structure Root.WritesOnce (root : Root) : Prop where
  once : ∀ (coloured : Bool) {record : Record}, root.passes record.level →
    root.written coloured record =
      Handler.written coloured record.named (.lines standardTemplate)
  line : ∀ (coloured : Bool) {record : Record} {message : String}, root.passes record.level →
    record.message = .ok message →
      root.written coloured record =
        String.ofList ((if coloured then colourOf record.level else .off).paint
          ("[" ++ levelName record.level ++ "] " ++ loggerName record.logger ++ ": " ++
            message).toList) ++ "\n"
  mild : ∀ (coloured : Bool) {record : Record}, root.passes record.level = false →
    root.written coloured record = ""

theorem writesOnce_of_handlers {root : Root} (single : root.handlers = [.lines standardTemplate]) :
    root.WritesOnce := by
  have once (coloured : Bool) {record : Record} (passes : root.passes record.level) :
      root.written coloured record =
        Handler.written coloured record.named (.lines standardTemplate) := by
    rw [Root.written, if_pos passes, single]
    exact String.empty_append
  refine ⟨once, ?_, ?_⟩
  · intro coloured record message passes made
    have named : record.named.message = .ok message := made
    rw [once coloured passes, Handler.written, paintedLine_standardTemplate coloured named]
    rfl
  · intro coloured record mild
    rw [Root.written, mild]
    rfl

end Log

end EmacsSession
