/-
This file shows that a colour adds nothing but its codes to a text, and that they stand around the
lines of a text that has no codes of its own.
-/

import EmacsSession.Log.Record

namespace EmacsSession.Log

section Surrounding

variable {occurrence : List Char → Nat} {before behind rest : List Char} {character : Char}

theorem surroundFrom_cons (none : occurrence (character :: rest) = 0) :
    surroundFrom occurrence before behind 0 (character :: rest) =
      character :: surroundFrom occurrence before behind 0 rest := by
  rw [surroundFrom, none]

theorem surroundFrom_piece {length : Nat} (here : occurrence (character :: rest) = length + 1) :
    surroundFrom occurrence before behind 0 (character :: rest) =
      before ++ character :: rest.take length ++ behind ++
        surroundFrom occurrence before behind length rest := by
  rw [surroundFrom, here]

/-- A text without occurrences stays as it is. -/
theorem surroundFrom_idle {text : List Char} (none : ∀ part, part <:+ text → occurrence part = 0) :
    surroundFrom occurrence before behind 0 text = text := by
  induction text with
  | nil => rfl
  | cons character rest inductionHypothesis =>
      have others := inductionHypothesis fun part suffix =>
        none part (suffix.trans (List.suffix_cons character rest))
      rw [surroundFrom_cons (none _ (List.suffix_refl _)), others]

/-- Occurrences between empty texts stay as they are. -/
theorem surroundFrom_nothing (skip : Nat) (text : List Char) :
    surroundFrom occurrence [] [] skip text = text.drop skip := by
  induction text generalizing skip with
  | nil => simp [surroundFrom]
  | cons character rest inductionHypothesis =>
      cases skip with
      | succ skip => exact inductionHypothesis skip
      | zero =>
          rw [surroundFrom]
          split
          next => rw [inductionHypothesis 0, List.drop_zero, List.drop_zero]
          next length _ => simp [inductionHypothesis length]

end Surrounding

/-- A character that only begins codes, or that stands in none. -/
def isBreak (character : Char) : Bool :=
  character == '\x1b' || character == '\r' || character == '\n'

/-- No code can go on from a text in front into this one. -/
def StartsApart (text : List Char) : Prop :=
  ∀ character ∈ text.head?, isBreak character

/-- A code begins with an escape character, and holds no other one and no line end. -/
def IsCode (code : List Char) : Prop :=
  code.head? = some '\x1b' ∧ ∀ character ∈ code.tail, isBreak character = false

/-- Neither of two texts begins with the other one. -/
def AreApart (first second : List Char) : Prop :=
  ¬ first <+: second ∧ ¬ second <+: first

section Codes

variable {code text rest : List Char}

theorem StartsApart.append (first : StartsApart text) (second : StartsApart rest) :
    StartsApart (text ++ rest) := by
  cases text with
  | nil => exact second
  | cons character text => exact first

theorem startsApart_nil : StartsApart [] := by
  simp [StartsApart]

theorem IsCode.startsApart (isCode : IsCode code) : StartsApart code := by
  rw [StartsApart, isCode.1]
  simp [isBreak]

theorem AreApart.not_prefix (apart : AreApart code text) (rest : List Char) :
    ¬ code <+: text ++ rest := fun begins =>
  (List.prefix_or_prefix_of_prefix begins (List.prefix_append text rest)).elim apart.1 apart.2

theorem IsCode.not_prefix_cons {character : Char} (isCode : IsCode code)
    (other : character ≠ '\x1b') : ¬ code <+: character :: rest := by
  obtain ⟨begins, -⟩ := isCode
  intro initial
  cases code with
  | nil => cases begins
  | cons first code =>
      rw [List.cons_prefix_cons] at initial
      exact other (initial.1.symm.trans (Option.some.inj begins))

/-- A code that begins within a text ends within it, if the text behind starts apart. -/
theorem IsCode.prefix_append_iff (isCode : IsCode code) (some : text ≠ [])
    (apart : StartsApart rest) : code <+: text ++ rest ↔ code <+: text := by
  refine ⟨fun begins => ?_, fun begins => begins.trans (List.prefix_append text rest)⟩
  rcases List.prefix_or_prefix_of_prefix begins (List.prefix_append text rest) with within | beyond
  · exact within
  · obtain ⟨more, rfl⟩ := beyond
    rw [List.prefix_append_right_inj] at begins
    cases more with
    | nil => simp
    | cons character more =>
        obtain ⟨later, rfl⟩ := begins
        have member : character ∈ (text ++ character :: more).tail := by
          rw [List.tail_append_of_ne_nil some]
          simp
        have plain := isCode.2 character member
        rw [apart character rfl] at plain
        cases plain

end Codes

namespace Colour

/-- The length of the code of a colour at the head of a text, zero where there is none. -/
def codeLength (colour : Colour) (text : List Char) : Nat :=
  if colour.switchOn.isPrefixOf text then colour.switchOn.length
  else codeAt colour.switchOff text

/-- Every code of a colour is left out. The characters of a code that was met are skipped. -/
def erasedFrom (colour : Colour) : Nat → List Char → List Char
  | _, [] => []
  | skip + 1, _ :: rest => colour.erasedFrom skip rest
  | 0, character :: rest =>
      match colour.codeLength (character :: rest) with
      | 0 => character :: colour.erasedFrom 0 rest
      | length + 1 => colour.erasedFrom length rest

/-- The text without the codes of a colour. -/
def erased (colour : Colour) (text : List Char) : List Char :=
  colour.erasedFrom 0 text

/-- The codes of a colour can be told from each other, from resets, and from what surrounds them. -/
structure IsSound (colour : Colour) : Prop where
  on : IsCode colour.switchOn
  off : IsCode colour.switchOff
  apart : AreApart colour.switchOn colour.switchOff
  onReset : AreApart colour.switchOn resetCode
  offReset : AreApart colour.switchOff resetCode

/-- A text that is left out wherever it begins. -/
def Vanishes (colour : Colour) (text : List Char) : Prop :=
  ∀ rest, colour.erased (text ++ rest) = colour.erased rest

/-- No code begins before a text and ends in it, or begins in it and ends behind it. -/
structure Isolates (colour : Colour) (text : List Char) : Prop where
  starts : StartsApart text
  ends : ∀ rest, colour.erased (text ++ rest) = colour.erased text ++ colour.erased rest

section Erasing

variable {colour : Colour} {text rest before behind : List Char}

theorem erasedFrom_skip (skip : Nat) (text : List Char) :
    colour.erasedFrom skip text = colour.erased (text.drop skip) := by
  induction text generalizing skip with
  | nil => simp [erasedFrom, erased]
  | cons character rest inductionHypothesis =>
      cases skip with
      | zero => rfl
      | succ skip => exact inductionHypothesis skip

theorem codeLength_eq_zero (on : ¬ colour.switchOn <+: text) (off : ¬ colour.switchOff <+: text) :
    colour.codeLength text = 0 := by
  rw [codeLength, codeAt, if_neg (by simpa using on), if_neg (by simpa using off)]

theorem erased_cons_of_none {character : Char} (none : colour.codeLength (character :: rest) = 0) :
    colour.erased (character :: rest) = character :: colour.erased rest := by
  rw [erased, erasedFrom, none]
  rfl

theorem erased_of_code {code : List Char} (some : code ≠ [])
    (here : colour.codeLength (code ++ rest) = code.length) :
    colour.erased (code ++ rest) = colour.erased rest := by
  obtain ⟨character, code, rfl⟩ := List.exists_cons_of_ne_nil some
  rw [List.cons_append] at here ⊢
  rw [erased, erasedFrom, here, List.length_cons]
  simp [erasedFrom_skip]

variable (sound : colour.IsSound)

include sound

theorem vanishes_on : colour.Vanishes colour.switchOn := by
  intro rest
  have some : colour.switchOn ≠ [] := fun empty => by simpa [empty] using sound.on.1
  refine erased_of_code some ?_
  simp [codeLength]

theorem vanishes_off : colour.Vanishes colour.switchOff := by
  intro rest
  have some : colour.switchOff ≠ [] := fun empty => by simpa [empty] using sound.off.1
  have apart := sound.apart.not_prefix rest
  refine erased_of_code some ?_
  rw [codeLength, if_neg (by simpa using apart), codeAt]
  simp

theorem erased_off : colour.erased colour.switchOff = [] := by
  have alone := vanishes_off sound []
  rw [List.append_nil] at alone
  exact alone

theorem erased_cons {character : Char} (other : character ≠ '\x1b') (rest : List Char) :
    colour.erased (character :: rest) = character :: colour.erased rest :=
  erased_cons_of_none
    (codeLength_eq_zero (sound.on.not_prefix_cons other) (sound.off.not_prefix_cons other))

theorem erased_reset (rest : List Char) :
    colour.erased (resetCode ++ rest) = resetCode ++ colour.erased rest := by
  have none := codeLength_eq_zero (sound.onReset.not_prefix rest) (sound.offReset.not_prefix rest)
  have others : colour.erased (['[', '0', 'm'] ++ rest) =
      ['[', '0', 'm'] ++ colour.erased rest := by
    simp [erased_cons sound]
  calc colour.erased (resetCode ++ rest)
      = '\x1b' :: colour.erased (['[', '0', 'm'] ++ rest) := erased_cons_of_none none
    _ = resetCode ++ colour.erased rest := by rw [others]; rfl

theorem codeLength_append (some : text ≠ []) (apart : StartsApart rest) :
    colour.codeLength (text ++ rest) = colour.codeLength text := by
  simp only [codeLength, codeAt, List.isPrefixOf_iff_prefix,
    sound.on.prefix_append_iff some apart, sound.off.prefix_append_iff some apart]

omit sound in
theorem codeLength_le (text : List Char) : colour.codeLength text ≤ text.length := by
  rw [codeLength, codeAt]
  split
  next on => exact (List.isPrefixOf_iff_prefix.mp on).length_le
  next =>
    split
    next off => exact (List.isPrefixOf_iff_prefix.mp off).length_le
    next => exact Nat.zero_le _

/-- Texts can be cut where the second one starts apart. -/
theorem erased_append (apart : StartsApart rest) (text : List Char) :
    colour.erased (text ++ rest) = colour.erased text ++ colour.erased rest := by
  -- What is left to skip lies within the first text, as no code reaches beyond it.
  have within (skip : Nat) (inside : skip ≤ text.length) :
      colour.erasedFrom skip (text ++ rest) =
        colour.erasedFrom skip text ++ colour.erased rest := by
    induction text generalizing skip with
    | nil =>
        cases Nat.le_zero.mp inside
        rfl
    | cons character text inductionHypothesis =>
        cases skip with
        | succ skip => exact inductionHypothesis skip (Nat.le_of_succ_le_succ inside)
        | zero =>
            have same := codeLength_append sound (List.cons_ne_nil character text) apart
            have short : colour.codeLength (character :: text) ≤ text.length + 1 := codeLength_le _
            rw [List.cons_append] at same ⊢
            rw [erasedFrom, erasedFrom, same]
            cases found : colour.codeLength (character :: text) with
            | zero => exact congrArg (character :: ·) (inductionHypothesis 0 (Nat.zero_le _))
            | succ length =>
                rw [found] at short
                exact inductionHypothesis length (Nat.le_of_succ_le_succ short)
  exact within 0 (Nat.zero_le _)

/-- What is put around isolated pieces vanishes with the codes, whatever stands in front. -/
theorem erased_surroundFrom {occurrence : List Char → Nat} (starts : StartsApart before)
    (first : colour.Vanishes before) (second : colour.Vanishes behind)
    (isolated : ∀ text length, occurrence text = length + 1 →
      colour.Isolates (text.take (length + 1))) (held : List Char) (skip : Nat)
    (text : List Char) :
    colour.erased (held ++ surroundFrom occurrence before behind skip text) =
      colour.erased (held ++ text.drop skip) := by
  induction text generalizing held skip with
  | nil => simp [surroundFrom]
  | cons character rest inductionHypothesis =>
      cases skip with
      | succ skip => exact inductionHypothesis held skip
      | zero =>
          cases found : occurrence (character :: rest) with
          | zero =>
              have others := inductionHypothesis (held ++ [character]) 0
              rw [surroundFrom_cons found]
              simpa using others
          | succ length =>
              -- The text in front ends where the codes begin, so they are left out. The piece then
              -- joins the text in front.
              let middle := character :: rest.take length
              have piece : colour.Isolates middle := isolated _ _ found
              have others := inductionHypothesis (held ++ middle) length
              rw [surroundFrom_piece found]
              generalize surroundFrom occurrence before behind length rest = later at others ⊢
              have edge (text : List Char) : StartsApart (middle ++ text) := piece.starts
              have whole : middle ++ rest.drop length = character :: rest := by simp [middle]
              calc colour.erased (held ++ (before ++ middle ++ behind ++ later))
                  = colour.erased (held ++ (before ++ (middle ++ (behind ++ later)))) := by
                    simp only [List.append_assoc]
                _ = colour.erased held ++ (colour.erased middle ++ colour.erased later) := by
                    rw [erased_append sound (starts.append (edge _)), first, piece.ends, second]
                _ = colour.erased (held ++ middle ++ later) := by
                    rw [← piece.ends, ← erased_append sound (edge later), List.append_assoc]
                _ = colour.erased (held ++ character :: rest) := by
                    rw [others, List.append_assoc, whole]

theorem isolates_off : colour.Isolates colour.switchOff where
  starts := sound.off.startsApart
  ends rest := by rw [vanishes_off sound, erased_off sound, List.nil_append]

/-- A stretch between resets is isolated, whatever stands in it. -/
theorem isolates_stretch (inside : List Char) :
    colour.Isolates (resetCode ++ inside ++ resetCode) where
  starts := by simp [StartsApart, resetCode, isBreak]
  ends rest := by
    have starts (text : List Char) : StartsApart (resetCode ++ text) := by
      simp [StartsApart, resetCode, isBreak]
    have cut (text : List Char) : colour.erased (resetCode ++ inside ++ (resetCode ++ text)) =
        colour.erased (resetCode ++ inside) ++ (resetCode ++ colour.erased text) := by
      rw [erased_append sound (starts text), erased_reset sound text]
    have alone := cut []
    rw [List.append_nil] at alone
    rw [List.append_assoc _ resetCode rest, cut, alone]
    simp [erased, erasedFrom]

theorem isolates_lineEnd {ending : List Char} (ends : ending = ['\n'] ∨ ending = ['\r', '\n']) :
    colour.Isolates ending := by
  rcases ends with rfl | rfl
  all_goals exact ⟨by simp [StartsApart, isBreak], fun rest => by simp [erased_cons sound]; rfl⟩

omit sound in
theorem resetWithin?_eq_some {length : Nat} (found : resetWithin? text = some length) :
    ∃ inside, text.take length = inside ++ resetCode := by
  induction text generalizing length with
  | nil => cases found
  | cons character rest inductionHypothesis =>
      rw [resetWithin?] at found
      split at found
      next here =>
        cases found
        exact ⟨[], (List.prefix_iff_eq_take.mp (List.isPrefixOf_iff_prefix.mp here)).symm⟩
      next =>
        split at found
        next => cases found
        next =>
          obtain ⟨shorter, later, rfl⟩ := Option.map_eq_some_iff.mp found
          obtain ⟨inside, same⟩ := inductionHypothesis later
          exact ⟨character :: inside, by rw [List.take_succ_cons, same, List.cons_append]⟩

omit sound in
theorem resetStretchAt_eq {length : Nat} (found : resetStretchAt text = length + 1) :
    ∃ inside, text.take (length + 1) = resetCode ++ inside ++ resetCode := by
  rw [resetStretchAt] at found
  split at found
  next here =>
    obtain ⟨rest, rfl⟩ := List.isPrefixOf_iff_prefix.mp here
    split at found
    next shorter within =>
      rw [List.drop_left] at within
      obtain ⟨inside, same⟩ := resetWithin?_eq_some within
      refine ⟨inside, ?_⟩
      rw [← found, List.take_length_add_append, same, List.append_assoc]
    next => cases found
  next => cases found

omit sound in
theorem lineEndAt_eq {length : Nat} (found : lineEndAt text = length + 1) :
    text.take (length + 1) = ['\n'] ∨ text.take (length + 1) = ['\r', '\n'] := by
  rw [lineEndAt.eq_def] at found
  split at found
  next =>
    cases found
    exact .inr rfl
  next =>
    cases found
    exact .inl rfl
  next => cases found

theorem erased_reopened (text : List Char) :
    colour.erased (colour.reopened text) = colour.erased text := by
  refine erased_surroundFrom sound startsApart_nil (fun _ => rfl) (vanishes_on sound) ?_ [] 0 text
  intro text length found
  rw [codeAt] at found
  split at found
  next here =>
    rw [← found, ← List.prefix_iff_eq_take.mp (List.isPrefixOf_iff_prefix.mp here)]
    exact isolates_off sound
  next => cases found

theorem erased_spared (text : List Char) :
    colour.erased (colour.spared text) = colour.erased text := by
  refine erased_surroundFrom sound sound.off.startsApart (vanishes_off sound) (vanishes_on sound)
    ?_ [] 0 text
  intro text length found
  obtain ⟨inside, same⟩ := resetStretchAt_eq found
  rw [same]
  exact isolates_stretch sound inside

theorem erased_brokenAtLines (text : List Char) :
    colour.erased (colour.brokenAtLines text) = colour.erased text :=
  erased_surroundFrom sound sound.off.startsApart (vanishes_off sound) (vanishes_on sound)
    (fun _ _ found => isolates_lineEnd sound (lineEndAt_eq found)) [] 0 text

/-- Painting adds nothing but codes. -/
theorem erased_paint (text : List Char) :
    colour.erased (colour.paint text) = colour.erased text := by
  calc colour.erased (colour.paint text)
      = colour.erased (colour.brokenAtLines (colour.spared (colour.reopened text)) ++
          colour.switchOff) := by
        rw [paint, List.append_assoc, vanishes_on sound]
    _ = colour.erased (colour.brokenAtLines (colour.spared (colour.reopened text))) := by
        rw [erased_append sound sound.off.startsApart, erased_off sound, List.append_nil]
    _ = colour.erased text := by
        rw [erased_brokenAtLines sound, erased_spared sound, erased_reopened sound]

end Erasing

/-- Each line of a text stands between the codes of a colour, and what ends it stands outside. A
line ends in a line feed, with the carriage return in front of it if there is one. -/
inductive IsPainted (colour : Colour) : List Char → List Char → Prop
  | last {line : List Char} (single : '\n' ∉ line) :
      IsPainted colour line (colour.switchOn ++ line ++ colour.switchOff)
  | feed {line rest output : List Char} (single : '\n' ∉ line) (bare : line.getLast? ≠ some '\r')
      (others : IsPainted colour rest output) :
      IsPainted colour (line ++ '\n' :: rest)
        (colour.switchOn ++ line ++ colour.switchOff ++ '\n' :: output)
  | carriageFeed {line rest output : List Char} (single : '\n' ∉ line)
      (others : IsPainted colour rest output) :
      IsPainted colour (line ++ '\r' :: '\n' :: rest)
        (colour.switchOn ++ line ++ colour.switchOff ++ '\r' :: '\n' :: output)

section Lines

variable {colour : Colour} {text : List Char}

/-- A text without escape characters has no codes. -/
theorem reopened_of_plain (isCode : IsCode colour.switchOff) (plain : '\x1b' ∉ text) :
    colour.reopened text = text := by
  refine surroundFrom_idle fun part suffix => ?_
  rw [codeAt]
  split
  next here =>
    have first := (List.isPrefixOf_iff_prefix.mp here).mem (List.mem_of_head? isCode.1)
    exact absurd (suffix.mem first) plain
  next => rfl

theorem spared_of_plain (plain : '\x1b' ∉ text) : colour.spared text = text := by
  refine surroundFrom_idle fun part suffix => ?_
  rw [resetStretchAt]
  split
  next here =>
    have first : '\x1b' ∈ part := (List.isPrefixOf_iff_prefix.mp here).mem List.mem_cons_self
    exact absurd (suffix.mem first) plain
  next => rfl

/-- A character goes on with its line, or is a line feed, or is a carriage return in front of
one. -/
theorem lineEndAt_cons (character : Char) (rest : List Char) :
    (lineEndAt (character :: rest) = 0 ∧ character ≠ '\n' ∧
        (character = '\r' → rest.head? ≠ some '\n')) ∨
      (lineEndAt (character :: rest) = 1 ∧ character = '\n') ∨
        ∃ more, lineEndAt (character :: rest) = 2 ∧ character = '\r' ∧ rest = '\n' :: more := by
  rw [lineEndAt.eq_def]
  split
  next more same =>
    cases same
    exact .inr (.inr ⟨more, rfl, rfl, rfl⟩)
  next same =>
    cases same
    exact .inr (.inl ⟨rfl, rfl⟩)
  next noCarriage noFeed =>
    refine .inl ⟨rfl, fun feed => noFeed rest (feed ▸ rfl), fun carriage feed => ?_⟩
    obtain ⟨more, rfl⟩ := List.head?_eq_some_iff.mp feed
    exact noCarriage more (carriage ▸ rfl)

/-- The line that was begun goes on with the text. -/
theorem isPainted_begun (line : List Char) (skip : Nat) (text : List Char) (single : '\n' ∉ line)
    (bare : (text.drop skip).head? = some '\n' → line.getLast? ≠ some '\r') :
    colour.IsPainted (line ++ text.drop skip)
      (colour.switchOn ++ line ++
        surroundFrom lineEndAt colour.switchOff colour.switchOn skip text ++ colour.switchOff) := by
  -- A carriage return may be put behind the line only if no line feed follows it.
  induction text generalizing line skip with
  | nil => simpa [surroundFrom] using IsPainted.last single
  | cons character rest inductionHypothesis =>
      cases skip with
      | succ skip => exact inductionHypothesis line skip single bare
      | zero =>
          have begun (skip : Nat) := inductionHypothesis [] skip (by simp) (by simp)
          rcases lineEndAt_cons character rest with
            ⟨none, other, alone⟩ | ⟨feed, rfl⟩ | ⟨more, feed, rfl, rfl⟩
          · have others := inductionHypothesis (line ++ [character]) 0
              (by simp [single, Ne.symm other]) (by simpa using fun next same => alone same next)
            rw [surroundFrom_cons none]
            simpa using others
          · have painted := IsPainted.feed single (bare rfl) (begun 0)
            rw [surroundFrom_piece feed]
            simpa using painted
          · have painted := IsPainted.carriageFeed single (begun 1)
            rw [surroundFrom_piece feed]
            simpa using painted

theorem isPainted_brokenAtLines (text : List Char) :
    colour.IsPainted text (colour.switchOn ++ colour.brokenAtLines text ++ colour.switchOff) := by
  simpa [brokenAtLines] using isPainted_begun [] 0 text (by simp) (by simp)

/-- The lines of a text that has no codes of its own are painted each. -/
theorem isPainted_paint (sound : colour.IsSound) (plain : '\x1b' ∉ text) :
    colour.IsPainted text (colour.paint text) := by
  rw [paint, reopened_of_plain sound.off plain, spared_of_plain plain]
  exact isPainted_brokenAtLines text

/-- No colour changes no text. -/
theorem paint_off (text : List Char) : off.paint text = text := by
  simp [paint, reopened, spared, brokenAtLines, off, surroundFrom_nothing]

theorem isPainted_off (text : List Char) : off.IsPainted text text := by
  have painted := @isPainted_brokenAtLines off text
  have idle : off.brokenAtLines text = text := surroundFrom_nothing 0 text
  rw [idle] at painted
  simpa only [off, List.nil_append, List.append_nil] using painted

end Lines

end Colour

theorem isSound_colourOf (level : Int) : (colourOf level).IsSound := by
  have isCode {code : List Char} (begins : code.head? = some '\x1b')
      (inside : code.tail.any isBreak = false) : IsCode code :=
    ⟨begins, by simpa using inside⟩
  rw [colourOf]
  repeat' split
  all_goals exact ⟨isCode rfl rfl, isCode rfl rfl, ⟨by decide, by decide⟩, ⟨by decide, by decide⟩,
    ⟨by decide, by decide⟩⟩

/-- The line of a record is written as it is, but for the codes of its colour: without the codes
both are the same. Where it has no escape character, its lines are written between the codes. -/
theorem paintedLine_keepsText (coloured : Bool) (template : String) (record : Record)
    (plain : String) (filled : record.line template = .ok plain) :
    ∃ output, record.paintedLine coloured template = .ok output ∧
      (colourOf record.level).erased output.toList = (colourOf record.level).erased plain.toList ∧
      (coloured = false → output = plain) ∧
      ('\x1b' ∉ plain.toList →
        (if coloured then colourOf record.level else .off).IsPainted plain.toList
          output.toList) := by
  have sound := isSound_colourOf record.level
  have written : record.paintedLine coloured template = .ok (String.ofList
      ((if coloured then colourOf record.level else .off).paint plain.toList)) := by
    rw [Record.paintedLine, filled]
    rfl
  refine ⟨_, written, ?_⟩
  cases coloured with
  | false =>
      rw [if_neg Bool.false_ne_true, Colour.paint_off, String.ofList_toList]
      exact ⟨rfl, fun _ => rfl, fun _ => Colour.isPainted_off _⟩
  | true =>
      rw [if_pos rfl, String.toList_ofList]
      exact ⟨Colour.erased_paint sound _, nofun, Colour.isPainted_paint sound⟩

/-- A warning with this message. -/
def sampleWarning (message : String) : Record :=
  ⟨"a", 30, message, []⟩

/-- One message has line ends of each kind and is also written without colours, and the other one
has codes of its own. -/
theorem paintedLine_keepsText_sampleWarning :
    (sampleWarning "b\r\n\nc\r").line "%(message)s" = .ok "b\r\n\nc\r" ∧
      '\x1b' ∉ "b\r\n\nc\r".toList ∧
      (∃ output, (sampleWarning "b\r\n\nc\r").paintedLine true "%(message)s" = .ok output ∧
        (Colour.ofNumber 33).IsPainted "b\r\n\nc\r".toList output.toList) ∧
      (∃ output, (sampleWarning "\x1b[33mb\x1b[39m\n\x1b[0mc\x1b[0m").paintedLine true
          "%(message)s" = .ok output ∧
        (Colour.ofNumber 33).erased output.toList = "b\n\x1b[0mc\x1b[0m".toList) ∧
      (sampleWarning "b\r\n\nc\r").paintedLine false "%(message)s" = .ok "b\r\n\nc\r" := by
  have filled : (sampleWarning "b\r\n\nc\r").line "%(message)s" = .ok "b\r\n\nc\r" := by rfl
  have plain : '\x1b' ∉ "b\r\n\nc\r".toList := by decide
  have left : (Colour.ofNumber 33).erased "\x1b[33mb\x1b[39m\n\x1b[0mc\x1b[0m".toList =
      "b\n\x1b[0mc\x1b[0m".toList := by decide
  obtain ⟨first, writtenFirst, -, -, painted⟩ := paintedLine_keepsText true _ _ _ filled
  obtain ⟨second, writtenSecond, same, -⟩ :=
    paintedLine_keepsText true "%(message)s"
      (sampleWarning "\x1b[33mb\x1b[39m\n\x1b[0mc\x1b[0m") _ rfl
  obtain ⟨third, writtenThird, -, whole, -⟩ := paintedLine_keepsText false _ _ _ filled
  rw [whole rfl] at writtenThird
  exact ⟨filled, plain, ⟨first, writtenFirst, painted plain⟩,
    ⟨second, writtenSecond, same.trans left⟩, writtenThird⟩

end EmacsSession.Log
