/-
This file shows that every program that is built from printable parts is printed with balanced
brackets.
-/

import EmacsSession.Form.Input
import EmacsSession.Proofs.Value.Nesting

namespace EmacsSession

open Token

namespace Value

/-- A value with a printed form, in which every text can stand between double quotes. -/
structure IsWritable (value : Value) : Prop where
  printed : ∃ text, value.print = .ok text
  escaped : value.OnLeaves HasEscapedText

/-- A leaf with a printed form. -/
def IsPrinted (value : Value) : Prop :=
  ∃ text, value.printLeaf = .ok text

section Writing

variable {value first rest form : Value}

theorem isPrinted_of_isNil (isNil : value.isNil = true) : value.IsPrinted := by
  cases value with
  | absent => exact ⟨"nil", rfl⟩
  | nil => exact ⟨"nil", rfl⟩
  | _ => cases isNil

/-- A form is printed where all its leaves are, and so are the words behind the first element of a
list. -/
theorem print_iff (value : Value) :
    ((∃ text, value.print = .ok text) ↔ value.OnLeaves IsPrinted) ∧
      ((∃ words, value.printRest = .ok words) ↔ value.OnLeaves IsPrinted) := by
  induction value using formInduction with
  | leaf value leaf =>
      rw [onLeaves_of_isLeaf leaf, print_of_isLeaf leaf, printRest_of_isLeaf leaf]
      refine ⟨.rfl, ?_⟩
      split
      next isNil =>
        exact iff_of_true ⟨[], rfl⟩ (isPrinted_of_isNil isNil)
      next =>
        rw [IsPrinted]
        cases value.printLeaf <;> simp [Except.map]
  | quote form inside =>
      rw [print, printRest, OnLeaves, ← inside.1]
      cases form.print <;> simp [bind, Except.bind]
  | cell first rest atFirst atRest =>
      rw [print, printRest, OnLeaves, ← atFirst.1, ← atRest.2]
      cases first.print <;> cases rest.printRest <;> simp [bind, Except.bind]

theorem isWritable_iff :
    value.IsWritable ↔ value.OnLeaves IsPrinted ∧ value.OnLeaves HasEscapedText := by
  rw [← (print_iff value).1]
  exact ⟨fun writable => ⟨writable.printed, writable.escaped⟩, fun parts => ⟨parts.1, parts.2⟩⟩

theorem isWritable_cell : (cell first rest).IsWritable ↔ first.IsWritable ∧ rest.IsWritable := by
  simp only [isWritable_iff, OnLeaves]
  exact and_and_and_comm

theorem isWritable_quote : (quote form).IsWritable ↔ form.IsWritable := by
  simp only [isWritable_iff, OnLeaves]

theorem isWritable_nil : nil.IsWritable :=
  ⟨⟨"nil", rfl⟩, trivial⟩

theorem isWritable_symbol (name : Symbol) : (symbol name).IsWritable :=
  ⟨⟨name.name, rfl⟩, trivial⟩

theorem isWritable_text {contents : String} (escaped : isEscaped contents.toList = true) :
    (text contents).IsWritable :=
  ⟨⟨"\"" ++ contents ++ "\"", rfl⟩, escaped⟩

end Writing

end Value

namespace Form

open Value

/-- The values that become parts of an entry in an association list. -/
def entryParts : Value → List Value
  | .list items => items
  | .tuple items => items
  | value => [value]

/-- The programs that are built from values with printed forms. -/
inductive IsProgram : Value → Prop
  | part {value : Value} (writable : value.IsWritable) : IsProgram value
  | progn {forms : List Value} (parts : ∀ form ∈ forms, IsProgram form) : IsProgram (progn forms)
  | require {feature file form : Value} (part : IsProgram file)
      (built : require feature file = .ok form) : IsProgram form
  | setq {name value form : Value} (part : IsProgram value) (built : setq name value = .ok form) :
      IsProgram form
  | alist {entries : List (Value × Value)} (keys : ∀ entry ∈ entries, IsProgram entry.1)
      (parts : ∀ entry ∈ entries, ∀ part ∈ entryParts entry.2, IsProgram part) :
      IsProgram (alist entries)
  | bindInput {body : List Value} {target : Value} (parts : ∀ form ∈ body, IsProgram form)
      (named : IsProgram target) : IsProgram (bindInput body target)
  | exportInput {command mode form : Value} (built : exportInput command mode = .ok form) :
      IsProgram form

section Building

variable {value first rest form name command mode target : Value} {items body : List Value}

theorem isWritable_nilIfAbsent (writable : value.IsWritable) :
    (nilIfAbsent value).IsWritable := by
  rw [nilIfAbsent]
  split
  next => exact isWritable_nil
  next => exact writable

theorem isWritable_cons (atFirst : first.IsWritable) (atRest : rest.IsWritable) :
    (cons first rest).IsWritable :=
  isWritable_cell.mpr ⟨isWritable_nilIfAbsent atFirst, isWritable_nilIfAbsent atRest⟩

theorem isWritable_list (parts : ∀ item ∈ items, item.IsWritable) : (list items).IsWritable := by
  induction items with
  | nil => exact isWritable_nil
  | cons item items inductionHypothesis =>
      obtain ⟨part, others⟩ := List.forall_mem_cons.mp parts
      exact isWritable_cons part (inductionHypothesis others)

theorem isWritable_formQuote (writable : form.IsWritable) : (quote form).IsWritable := by
  cases form with
  | keyword value => exact writable
  | _ => exact isWritable_quote.mpr writable

theorem isWritable_word (name : String) (sound : symbolFlaw? name = none) :
    (word name sound).IsWritable :=
  isWritable_symbol ⟨name, sound⟩

/-- What is taken for a symbol is one. -/
theorem isWritable_of_symbolOrName (named : symbolOrName value = .ok form) : form.IsWritable := by
  have isSymbol : ∃ name, form = .symbol name := by
    cases value with
    | symbol name => exact ⟨name, (Except.ok.inj named).symm⟩
    | text name =>
        cases read : Symbol.ofName name with
        | error flaw => simp [symbolOrName, symbol, read, Except.mapError, Except.map] at named
        | ok name =>
            simp only [symbolOrName, symbol, read, Except.mapError, Except.map,
              Except.ok.injEq] at named
            exact ⟨name, named.symm⟩
    | _ => cases named
  obtain ⟨name, rfl⟩ := isSymbol
  exact isWritable_symbol name

theorem isWritable_progn (parts : ∀ form ∈ body, form.IsWritable) : (progn body).IsWritable :=
  isWritable_list (List.forall_mem_cons.mpr ⟨isWritable_word _ _, parts⟩)

theorem isWritable_of_require {feature file : Value} (part : file.IsWritable)
    (built : require feature file = .ok form) : form.IsWritable := by
  rw [require] at built
  cases named : symbolOrName feature with
  | error fault => simp [named, bind, Except.bind] at built
  | ok found =>
      have quoted := isWritable_formQuote (isWritable_of_symbolOrName named)
      have head := isWritable_word "require" (by decide)
      simp only [named, bind, Except.bind] at built
      split at built
      next =>
        cases built
        exact isWritable_list (by simp [head, quoted])
      next =>
        cases built
        exact isWritable_list (by simp [head, quoted, part])

theorem isWritable_assignment (named : target.IsWritable) (part : value.IsWritable) :
    (assignment target value).IsWritable := by
  have head := isWritable_word "setq" (by decide)
  exact isWritable_list (by simp [head, named, part])

theorem isWritable_of_setq (part : value.IsWritable) (built : setq name value = .ok form) :
    form.IsWritable := by
  rw [setq] at built
  cases named : symbolOrName name with
  | error fault => simp [named, bind, Except.bind] at built
  | ok found =>
      simp only [named, bind, Except.bind, Except.ok.injEq] at built
      exact built ▸ isWritable_assignment (isWritable_of_symbolOrName named) part

theorem isWritable_entry {key : Value} (atKey : key.IsWritable)
    (parts : ∀ part ∈ entryParts value, part.IsWritable) : (entry key value).IsWritable := by
  cases value with
  | list items => exact isWritable_cons atKey (isWritable_list parts)
  | tuple items => exact isWritable_cons atKey (isWritable_list parts)
  | _ => exact isWritable_cons atKey (List.forall_mem_singleton.mp parts)

theorem isWritable_alist {entries : List (Value × Value)}
    (keys : ∀ entry ∈ entries, entry.1.IsWritable)
    (parts : ∀ entry ∈ entries, ∀ part ∈ entryParts entry.2, part.IsWritable) :
    (alist entries).IsWritable := by
  apply isWritable_list
  intro item member
  obtain ⟨pair, inside, rfl⟩ := List.mem_map.mp member
  exact isWritable_entry (keys pair inside) (parts pair inside)

theorem isWritable_readLine : readLine.IsWritable := by
  have prompt : (Value.text "").IsWritable := isWritable_text rfl
  have reading : (list [word "read-string", .text ""]).IsWritable :=
    isWritable_list (by simp [isWritable_word, prompt])
  exact isWritable_list (by simp [isWritable_word, reading])

theorem isWritable_readLoop : readLoop.IsWritable := by
  have mark : (Value.text lineMark).IsWritable := isWritable_text rfl
  have atLine : line.IsWritable := isWritable_word _ _
  have atChunks : chunks.IsWritable := isWritable_word _ _
  have reading := isWritable_assignment atLine isWritable_readLine
  have joining : (list [word "concat", .text lineMark, line]).IsWritable :=
    isWritable_list (by simp [isWritable_word, mark, atLine])
  have pushing : (list [word "push", list [word "concat", .text lineMark, line],
      chunks]).IsWritable := isWritable_list (by simp [isWritable_word, joining, atChunks])
  exact isWritable_list (by simp [isWritable_word, reading, pushing])

theorem isWritable_joined : joined.IsWritable := by
  have separator : (Value.text "").IsWritable := isWritable_text rfl
  have atChunks : chunks.IsWritable := isWritable_word _ _
  have identity : (quote (word "identity")).IsWritable :=
    isWritable_formQuote (isWritable_word _ _)
  have reversing : (list [word "nreverse", chunks]).IsWritable :=
    isWritable_list (by simp [isWritable_word, atChunks])
  exact isWritable_list (by simp [isWritable_word, identity, reversing, separator])

theorem isWritable_bindInput (parts : ∀ form ∈ body, form.IsWritable) (named : target.IsWritable) :
    (bindInput body target).IsWritable := by
  have empty {name : Value} (named : name.IsWritable) : (list [name, .nil]).IsWritable :=
    isWritable_list (by simp [named, isWritable_nil])
  have atChunks : (list [chunks, .nil]).IsWritable := empty (isWritable_word _ _)
  have atLine : (list [line, .nil]).IsWritable := empty (isWritable_word _ _)
  have names : (list [list [chunks, .nil], list [line, .nil]]).IsWritable :=
    isWritable_list (by simp [atChunks, atLine])
  have binding : (list [target, joined]).IsWritable :=
    isWritable_list (by simp [named, isWritable_joined])
  have bound : (list [list [target, joined]]).IsWritable := isWritable_list (by simp [binding])
  have inner : (list (word "let" :: list [list [target, joined]] :: body)).IsWritable := by
    apply isWritable_list
    simpa [isWritable_word, bound] using parts
  exact isWritable_list (by simp [isWritable_word, names, isWritable_readLoop, inner])

theorem isWritable_of_exportInput (built : exportInput command mode = .ok form) :
    form.IsWritable := by
  rw [exportInput] at built
  cases named : symbolOrName command with
  | error fault => simp [named, bind, Except.bind] at built
  | ok exporter =>
      cases moded : symbolOrName mode with
      | error fault => simp [named, moded, bind, Except.bind] at built
      | ok entering =>
          simp only [named, moded, bind, Except.bind, Except.ok.injEq] at built
          have atMode : (list [entering]).IsWritable :=
            isWritable_list (by simp [isWritable_of_symbolOrName moded])
          have atCommand : (list [exporter]).IsWritable :=
            isWritable_list (by simp [isWritable_of_symbolOrName named])
          have atContent : content.IsWritable := isWritable_word _ _
          have inserting : (list [word "insert", content]).IsWritable :=
            isWritable_list (by simp [isWritable_word, atContent])
          have buffer : (list [word "buffer-string"]).IsWritable :=
            isWritable_list (by simp [isWritable_word])
          have writing : (list [word "princ", list [word "buffer-string"]]).IsWritable :=
            isWritable_list (by simp [isWritable_word, buffer])
          rw [← built]
          refine isWritable_bindInput (List.forall_mem_singleton.mpr ?_) atContent
          exact isWritable_list (by simp [isWritable_word, atMode, inserting, atCommand, writing])

/-- Every program that is built from values with printed forms has one itself. -/
theorem IsProgram.isWritable (program : IsProgram form) : form.IsWritable := by
  induction program with
  | part writable => exact writable
  | progn parts inside => exact isWritable_progn inside
  | require part built inside => exact isWritable_of_require inside built
  | setq part built inside => exact isWritable_of_setq inside built
  | alist keys parts atKeys inside => exact isWritable_alist atKeys inside
  | bindInput parts named inside atTarget => exact isWritable_bindInput inside atTarget
  | exportInput built => exact isWritable_of_exportInput built

end Building

/-- Every value with a printed form is written as it is, if its texts can stand between double
quotes. The programs that are built from such values have printed forms, and are written as they
are as well. -/
theorem isWrittenAs_of_isProgram :
    (∀ (value : Value) (text : String), value.print = .ok text → value.OnLeaves HasEscapedText →
      value.IsWrittenAs text.toList) ∧
    ∀ form : Value, IsProgram form → ∃ text, form.print = .ok text ∧
      form.IsWrittenAs text.toList := by
  refine ⟨fun value text printed escaped => isWrittenAs_of_print printed escaped, ?_⟩
  intro form program
  obtain ⟨⟨text, printed⟩, escaped⟩ := program.isWritable
  exact ⟨text, printed, isWrittenAs_of_print printed escaped⟩

/-- A pair of a text with a bracket behind an escaped double quote, and a number. -/
def samplePair : Value :=
  .cell (.text "\\\"(") (.int (-7))

theorem isWrittenAs_samplePair :
    samplePair.IsWrittenAs "(\"\\\"(\" . -7)".toList ∧
      ∃ text, (progn [bindInput [samplePair]]).print = .ok text ∧
        (progn [bindInput [samplePair]]).IsWrittenAs text.toList := by
  have printed : samplePair.print = .ok "(\"\\\"(\" . -7)" := by decide +kernel
  have escaped : samplePair.OnLeaves HasEscapedText := ⟨rfl, trivial⟩
  refine ⟨isWrittenAs_of_isProgram.1 _ _ printed escaped, isWrittenAs_of_isProgram.2 _ ?_⟩
  have part : IsProgram samplePair := .part ⟨⟨_, printed⟩, escaped⟩
  have input : IsProgram content := .part (isWritable_word _ _)
  have reading := IsProgram.bindInput (List.forall_mem_singleton.mpr part) input
  exact .progn (List.forall_mem_singleton.mpr reading)

end Form

end EmacsSession
