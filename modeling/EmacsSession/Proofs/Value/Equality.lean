/-
This file shows that equality of values is an equivalence that digests respect, and that tables
hold no two equal keys.
-/

import Mathlib.Data.List.Find
import Mathlib.Data.List.Forall2
import Mathlib.Data.List.Pairwise
import EmacsSession.Value.Table
import EmacsSession.Proofs.Value.Quantity

namespace EmacsSession

namespace Value

/-- Neither of two keys equals the other. -/
def IsApart (key other : Value) : Prop :=
  key.same other = false ∧ other.same key = false

end Value

namespace Table

/-- No two keys of a table are equal. -/
def HasDistinctKeys (table : Table) : Prop :=
  (table.map Prod.fst).Pairwise Value.IsApart

/-- An entry has an entry with an equal key in a table, and the first one has an equal value. -/
def Holds (table : Table) (entry : Value × Value) : Prop :=
  ∃ other, (table.find? fun other => entry.1.same other.1) = some other ∧
    entry.2.same other.2 = true

/-- The value under an equal key, searched among the keys of the same digest only. -/
def findByDigest (table : Table) (key : Value) : Option Value :=
  (table.find? fun entry => decide (entry.1.digest = key.digest) && key.same entry.1).map Prod.snd

end Table

namespace Value

/-- The values that are built of plain data, forms, sequences and tables, without what is no number.
Tables are built by putting values under keys and taking keys out. -/
inductive IsBuilt : Value → Prop where
  | absent : IsBuilt .absent
  | nil : IsBuilt .nil
  | truth (flag : Bool) : IsBuilt (.truth flag)
  | int (number : Int) : IsBuilt (.int number)
  | float {number : Double} (isNumber : number.isNaN = false) : IsBuilt (.float number)
  | text (contents : String) : IsBuilt (.text contents)
  | symbol (symbol : Symbol) : IsBuilt (.symbol symbol)
  | keyword (keyword : Keyword) : IsBuilt (.keyword keyword)
  | quote {form : Value} (inside : IsBuilt form) : IsBuilt (.quote form)
  | cell {first rest : Value} (atFirst : IsBuilt first) (atRest : IsBuilt rest) :
      IsBuilt (.cell first rest)
  | list {items : List Value} (inside : ∀ item ∈ items, IsBuilt item) : IsBuilt (.list items)
  | tuple {items : List Value} (inside : ∀ item ∈ items, IsBuilt item) : IsBuilt (.tuple items)
  | emptyTable : IsBuilt (.table [])
  | insert {table changed : Table} {key value : Value} (before : IsBuilt (.table table))
      (atKey : IsBuilt key) (atValue : IsBuilt value)
      (inserted : table.insert key value = .ok changed) : IsBuilt (.table changed)
  | erase {table changed : Table} {key : Value} (before : IsBuilt (.table table))
      (erased : table.erase key = .ok changed) : IsBuilt (.table changed)

/-- The values whose floats are numbers and whose tables have distinct keys. -/
inductive IsSound : Value → Prop where
  | absent : IsSound .absent
  | nil : IsSound .nil
  | truth (flag : Bool) : IsSound (.truth flag)
  | int (number : Int) : IsSound (.int number)
  | float {number : Double} (isNumber : number.isNaN = false) : IsSound (.float number)
  | text (contents : String) : IsSound (.text contents)
  | symbol (symbol : Symbol) : IsSound (.symbol symbol)
  | keyword (keyword : Keyword) : IsSound (.keyword keyword)
  | quote {form : Value} (inside : IsSound form) : IsSound (.quote form)
  | cell {first rest : Value} (atFirst : IsSound first) (atRest : IsSound rest) :
      IsSound (.cell first rest)
  | list {items : List Value} (inside : ∀ item ∈ items, IsSound item) : IsSound (.list items)
  | tuple {items : List Value} (inside : ∀ item ∈ items, IsSound item) : IsSound (.tuple items)
  | table {table : Table} (keys : ∀ entry ∈ table, IsSound entry.1)
      (values : ∀ entry ∈ table, IsSound entry.2) (distinct : table.HasDistinctKeys) :
      IsSound (.table table)

/-- How equality and digests behave on three values. -/
structure IsLawful (left middle right : Value) : Prop where
  refl : left.same left = true
  symm : left.same middle = true → middle.same left = true
  trans : left.same middle = true → middle.same right = true → left.same right = true
  /-- Numbers are compared by their exact quantities, whatever their kinds. -/
  number : ∀ quantity other, left.quantity? = some quantity → middle.quantity? = some other →
    (left.same middle = true ↔ quantity = other)
  /-- Equal values are of one kind unless both are numbers. -/
  kind : left.same middle = true →
    left.kind = middle.kind ∨ (left.quantity?.isSome ∧ middle.quantity?.isSome)
  absent : left.same .absent = true ↔ left = .absent
  nil : left.same .nil = true ↔ left = .nil
  /-- Equal values share their digest, or have none for the same reason. -/
  digest : left.same middle = true → left.digest = middle.digest
  /-- A table holds no two equal keys, and a search among the keys of one digest finds whatever a
  search among all keys does. -/
  table : ∀ table : Table, left = .table table →
    table.HasDistinctKeys ∧ table.findByDigest middle = table.find middle

section Shapes

variable {value other form first rest : Value} {items : List Value} {table : Table}

theorem same_absent_iff : Value.absent.same other = true ↔ other = .absent := by
  cases other <;> simp [same, sameNumber, number?]

theorem same_nil_iff : Value.nil.same other = true ↔ other = .nil := by
  cases other <;> simp [same, sameNumber, number?]

theorem same_text_iff {contents : String} :
    (text contents).same other = true ↔ other = .text contents := by
  cases other <;> simp [same, sameNumber, number?, eq_comm (a := contents)]

theorem symbol_eq_iff {left right : Symbol} : left = right ↔ left.name = right.name := by
  cases left
  cases right
  simp

theorem keyword_eq_iff {left right : Keyword} : left = right ↔ left.name = right.name := by
  cases left
  cases right
  simp

theorem same_symbol_iff {name : Symbol} :
    (symbol name).same other = true ↔ other = .symbol name := by
  cases other <;> simp [same, sameNumber, number?, symbol_eq_iff, eq_comm (a := name.name)]

theorem same_keyword_iff {name : Keyword} :
    (keyword name).same other = true ↔ other = .keyword name := by
  cases other <;> simp [same, sameNumber, number?, keyword_eq_iff, eq_comm (a := name.name)]

theorem same_quote_iff :
    (quote form).same other = true ↔ ∃ inner, other = .quote inner ∧ form.same inner = true := by
  cases other <;> simp [same, sameNumber, number?]

theorem same_cell_iff :
    (cell first rest).same other = true ↔ ∃ otherFirst otherRest,
      other = .cell otherFirst otherRest ∧ first.same otherFirst = true ∧
        rest.same otherRest = true := by
  cases other <;> simp [same, sameNumber, number?]

theorem sameItems_iff {others : List Value} :
    sameItems items others = true ↔
      List.Forall₂ (fun item other => item.same other = true) items others := by
  induction items generalizing others with
  | nil => cases others <;> simp [sameItems]
  | cons item items inductionHypothesis => cases others <;> simp [sameItems, inductionHypothesis]

theorem same_list_iff :
    (list items).same other = true ↔ ∃ others, other = .list others ∧
      List.Forall₂ (fun item other => item.same other = true) items others := by
  cases other <;> simp [same, sameNumber, number?, sameItems_iff]

theorem same_tuple_iff :
    (tuple items).same other = true ↔ ∃ others, other = .tuple others ∧
      List.Forall₂ (fun item other => item.same other = true) items others := by
  cases other <;> simp [same, sameNumber, number?, sameItems_iff]

theorem sameEntries_iff {others : Table} :
    sameEntries table others = true ↔ ∀ entry ∈ table, others.Holds entry := by
  induction table with
  | nil => simp [sameEntries]
  | cons entry table inductionHypothesis =>
      simp only [sameEntries, Bool.and_eq_true, inductionHypothesis, List.forall_mem_cons]
      refine and_congr_left fun _ => ?_
      unfold Table.Holds
      cases others.find? fun other => entry.1.same other.1 <;> simp

theorem same_table_iff :
    (Value.table table).same other = true ↔ ∃ others : Table, other = .table others ∧
      table.length = others.length ∧ ∀ entry ∈ table, others.Holds entry := by
  cases other <;> simp [same, sameNumber, number?, sameEntries_iff]

end Shapes

/-- A sound value equals itself, and whatever it equals is equal to the same sound values. -/
structure IsCongruent (value : Value) : Prop where
  refl : value.same value = true
  congr : ∀ other third : Value, other.IsSound → third.IsSound → value.same other = true →
    value.same third = other.same third

section Congruence

variable {value other third form first rest : Value} {items others thirds : List Value}
  {table otherTable thirdTable : Table} {entry otherEntry : Value × Value} {quantity : Quantity}

theorem exists_quantity?_float {number : Double} (isNumber : number.isNaN = false) :
    ∃ quantity, (float number).quantity? = some quantity := by
  simp only [quantity?, Double.quantity?, isNumber, Bool.false_eq_true, if_false]
  split <;> exact ⟨_, rfl⟩

/-- A number equals the sound values of its quantity. -/
theorem same_number_iff (counts : value.quantity? = some quantity) (sound : other.IsSound) :
    value.same other = true ↔ other.quantity? = some quantity := by
  have ofNumber {otherQuantity} (otherCounts : other.quantity? = some otherQuantity) :
      value.same other = true ↔ other.quantity? = some quantity := by
    rw [same_iff_of_quantity? counts otherCounts, otherCounts, Option.some_inj, eq_comm]
  cases sound
  case truth flag => exact ofNumber rfl
  case int number => exact ofNumber rfl
  case float number isNumber => exact ofNumber (exists_quantity?_float isNumber).choose_spec
  all_goals cases value <;> simp_all [same, sameNumber, number?, quantity?]

theorem isCongruent_number (counts : value.quantity? = some quantity) : value.IsCongruent where
  refl := (same_iff_of_quantity? counts counts).mpr rfl
  congr other third otherSound thirdSound same := by
    have otherCounts := (same_number_iff counts otherSound).mp same
    rw [Bool.eq_iff_iff, same_number_iff counts thirdSound, same_number_iff otherCounts thirdSound]

/-- A value that equals nothing but itself is congruent. -/
theorem isCongruent_of_alone (alone : ∀ other, value.same other = true ↔ other = value) :
    value.IsCongruent where
  refl := (alone value).mpr rfl
  congr other third _ _ same := by rw [(alone other).mp same]

theorem isCongruent_quote (inside : form.IsCongruent) : (quote form).IsCongruent where
  refl := same_quote_iff.mpr ⟨form, rfl, inside.refl⟩
  congr other third otherSound thirdSound same := by
    obtain ⟨inner, rfl, sameInside⟩ := same_quote_iff.mp same
    cases otherSound with
    | quote innerSound =>
        rw [Bool.eq_iff_iff, same_quote_iff, same_quote_iff]
        refine exists_congr fun thirdForm => and_congr_right ?_
        rintro rfl
        cases thirdSound with
        | quote thirdInside =>
            rw [inside.congr inner thirdForm innerSound thirdInside sameInside]

theorem isCongruent_cell (atFirst : first.IsCongruent) (atRest : rest.IsCongruent) :
    (cell first rest).IsCongruent where
  refl := same_cell_iff.mpr ⟨first, rest, rfl, atFirst.refl, atRest.refl⟩
  congr other third otherSound thirdSound same := by
    obtain ⟨otherFirst, otherRest, rfl, sameFirst, sameRest⟩ := same_cell_iff.mp same
    cases otherSound with
    | cell otherAtFirst otherAtRest =>
        rw [Bool.eq_iff_iff, same_cell_iff, same_cell_iff]
        refine exists_congr fun thirdFirst => exists_congr fun thirdRest => and_congr_right ?_
        rintro rfl
        cases thirdSound with
        | cell thirdAtFirst thirdAtRest =>
            rw [atFirst.congr otherFirst thirdFirst otherAtFirst thirdAtFirst sameFirst,
              atRest.congr otherRest thirdRest otherAtRest thirdAtRest sameRest]

/-- Sequences with equal items are equal to the same sound sequences. -/
theorem forall₂_same_iff (inside : ∀ item ∈ items, item.IsCongruent)
    (othersSound : ∀ item ∈ others, item.IsSound) (thirdsSound : ∀ item ∈ thirds, item.IsSound)
    (same : List.Forall₂ (fun item other => item.same other = true) items others) :
    List.Forall₂ (fun item other => item.same other = true) items thirds ↔
      List.Forall₂ (fun item other => item.same other = true) others thirds := by
  induction same generalizing thirds with
  | nil => rfl
  | cons sameItem _ inductionHypothesis =>
      rw [List.forall_mem_cons] at inside othersSound
      cases thirds with
      | nil => simp
      | cons third thirds =>
          rw [List.forall_mem_cons] at thirdsSound
          rw [List.forall₂_cons, List.forall₂_cons,
            inside.1.congr _ third othersSound.1 thirdsSound.1 sameItem,
            inductionHypothesis inside.2 othersSound.2 thirdsSound.2]

/-- A kind of sequences is congruent where equality goes item by item. -/
theorem isCongruent_sequence {sequence : List Value → Value}
    (shape : ∀ items other, (sequence items).same other = true ↔ ∃ others, other = sequence others ∧
      List.Forall₂ (fun item other => item.same other = true) items others)
    (parts : ∀ items, (sequence items).IsSound → ∀ item ∈ items, item.IsSound)
    (inside : ∀ item ∈ items, item.IsCongruent) : (sequence items).IsCongruent where
  refl := (shape items _).mpr ⟨items, rfl, List.forall₂_same.mpr fun item member =>
    (inside item member).refl⟩
  congr other third otherSound thirdSound same := by
    obtain ⟨others, rfl, sameItems⟩ := (shape items other).mp same
    rw [Bool.eq_iff_iff, shape, shape]
    refine exists_congr fun thirds => and_congr_right ?_
    rintro rfl
    exact forall₂_same_iff inside (parts others otherSound) (parts thirds thirdSound) sameItems

/-- Where as many things are related to as there are, and no two to one, each one is reached. -/
theorem exists_related {α : Type} {lefts rights : List α} {relates : α → α → Prop}
    (length : lefts.length = rights.length)
    (total : ∀ left ∈ lefts, ∃ right ∈ rights, relates left right)
    (apart : lefts.Pairwise fun left other =>
      ∀ right ∈ rights, relates left right → ¬relates other right) :
    ∀ right ∈ rights, ∃ left ∈ lefts, relates left right := by
  induction lefts generalizing rights with
  | nil =>
      rw [List.eq_nil_of_length_eq_zero length.symm]
      simp
  | cons left lefts inductionHypothesis =>
      rw [List.pairwise_cons] at apart
      obtain ⟨taken, takenMember, related⟩ := total left (by simp)
      obtain ⟨before, after, rfl⟩ := List.append_of_mem takenMember
      have others : ∀ right ∈ before ++ after, ∃ left ∈ lefts, relates left right := by
        refine inductionHypothesis (by simp at length ⊢; omega) (fun other member => ?_) ?_
        · obtain ⟨right, rightMember, otherRelated⟩ := total other (by simp [member])
          have different : right ≠ taken := by
            rintro rfl
            exact apart.1 other member right takenMember related otherRelated
          exact ⟨right, by simp_all, otherRelated⟩
        · exact apart.2.imp fun atPair right member => atPair right (by
            rcases List.mem_append.mp member with front | back <;> simp [*])
      intro right member
      by_cases isTaken : right = taken
      · exact ⟨left, by simp, isTaken ▸ related⟩
      · obtain ⟨other, otherMember, otherRelated⟩ := others right (by simp_all)
        exact ⟨other, by simp [otherMember], otherRelated⟩

theorem eq_of_same_key (distinct : table.HasDistinctKeys) (member : entry ∈ table)
    (otherMember : otherEntry ∈ table) (same : entry.1.same otherEntry.1 = true) :
    entry = otherEntry := by
  by_contra different
  have symmetric : Std.Symm fun entry other : Value × Value => entry.1.IsApart other.1 :=
    ⟨fun _ _ apart => ⟨apart.2, apart.1⟩⟩
  have apart := (List.pairwise_map.mp distinct).forall member otherMember different
  exact absurd same (by simp [apart.1])

/-- The entry that an entry is found by. -/
theorem exists_of_holds (holds : table.Holds entry) :
    ∃ other ∈ table, entry.1.same other.1 = true ∧ entry.2.same other.2 = true := by
  obtain ⟨other, found, sameValue⟩ := holds
  exact ⟨other, List.mem_of_find?_eq_some found, by simpa using List.find?_some found, sameValue⟩

/-- Every entry is found in its own table. -/
theorem holds_self (atKey : entry.1.IsCongruent) (atValue : entry.2.IsCongruent)
    (distinct : table.HasDistinctKeys) (member : entry ∈ table) : table.Holds entry := by
  have isFound : (table.find? fun other => entry.1.same other.1).isSome :=
    List.find?_isSome.mpr ⟨entry, member, atKey.refl⟩
  obtain ⟨other, found⟩ := Option.isSome_iff_exists.mp isFound
  have same : entry = other := eq_of_same_key distinct member (List.mem_of_find?_eq_some found)
    (by simpa using List.find?_some found)
  exact ⟨other, found, same ▸ atValue.refl⟩

/-- Equal entries are found in the same sound tables. -/
theorem holds_iff (atKey : entry.1.IsCongruent) (atValue : entry.2.IsCongruent)
    (keySound : otherEntry.1.IsSound) (valueSound : otherEntry.2.IsSound)
    (sound : (Value.table table).IsSound) (sameKey : entry.1.same otherEntry.1 = true)
    (sameValue : entry.2.same otherEntry.2 = true) :
    table.Holds entry ↔ table.Holds otherEntry := by
  cases sound with
  | table keys values distinct =>
      have search : (table.find? fun other => entry.1.same other.1) =
          table.find? fun other => otherEntry.1.same other.1 :=
        List.find?_congr fun other member =>
          atKey.congr _ other.1 keySound (keys other member) sameKey
      unfold Table.Holds
      rw [search]
      refine exists_congr fun other => and_congr_right fun found => ?_
      rw [atValue.congr _ other.2 valueSound (values other (List.mem_of_find?_eq_some found))
        sameValue]

/-- No sound entry is equal to two entries of a table, for then their keys would be equal. -/
theorem pairwise_not_same (sound : (Value.table table).IsSound)
    (keys : ∀ entry ∈ table, entry.1.IsCongruent)
    (otherKeys : ∀ other ∈ otherTable, other.1.IsSound) :
    table.Pairwise fun entry next => ∀ other ∈ otherTable,
      (entry.1.same other.1 = true ∧ entry.2.same other.2 = true) →
        ¬(next.1.same other.1 = true ∧ next.2.same other.2 = true) := by
  cases sound with
  | table keysSound _ distinct =>
      refine (List.pairwise_map.mp distinct).imp_of_mem ?_
      rintro entry next member nextMember ⟨apart, -⟩ other otherMember ⟨sameKey, -⟩ ⟨nextKey, -⟩
      have keySound := otherKeys other otherMember
      have nextSound := keysSound next nextMember
      have joined : entry.1.same next.1 = true :=
        calc entry.1.same next.1
          _ = other.1.same next.1 := (keys entry member).congr _ _ keySound nextSound sameKey
          _ = next.1.same next.1 :=
            ((keys next nextMember).congr _ _ keySound nextSound nextKey).symm
          _ = true := (keys next nextMember).refl
      simp [joined] at apart

/-- Equal tables have the same size and distinct keys, so an entry of one is equal to one of the
other in both directions. -/
theorem isCongruent_table (sound : (Value.table table).IsSound)
    (keys : ∀ entry ∈ table, entry.1.IsCongruent)
    (values : ∀ entry ∈ table, entry.2.IsCongruent) : (Value.table table).IsCongruent where
  refl := by
    cases sound with
    | table _ _ distinct =>
        exact same_table_iff.mpr ⟨table, rfl, rfl, fun entry member =>
          holds_self (keys entry member) (values entry member) distinct member⟩
  congr other third otherSound thirdSound same := by
    obtain ⟨others, rfl, length, held⟩ := same_table_iff.mp same
    obtain ⟨otherKeys, otherValues⟩ : (∀ other ∈ others, other.1.IsSound) ∧
        ∀ other ∈ others, other.2.IsSound := by
      cases otherSound with | table otherKeys otherValues _ => exact ⟨otherKeys, otherValues⟩
    have matched := exists_related length
      (fun entry member => exists_of_holds (held entry member))
      (pairwise_not_same sound keys otherKeys)
    rw [Bool.eq_iff_iff, same_table_iff, same_table_iff]
    refine exists_congr fun thirds => and_congr_right ?_
    rintro rfl
    have moved {entry other : Value × Value} (member : entry ∈ table) (otherMember : other ∈ others)
        (sameKey : entry.1.same other.1 = true) (sameValue : entry.2.same other.2 = true) :
        thirds.Holds entry ↔ thirds.Holds other :=
      holds_iff (keys entry member) (values entry member) (otherKeys other otherMember)
        (otherValues other otherMember) thirdSound sameKey sameValue
    rw [length]
    refine and_congr_right fun _ => ⟨fun all other member => ?_, fun all entry member => ?_⟩
    · obtain ⟨entry, entryMember, sameKey, sameValue⟩ := matched other member
      exact (moved entryMember member sameKey sameValue).mp (all entry entryMember)
    · obtain ⟨other, otherMember, sameKey, sameValue⟩ := exists_of_holds (held entry member)
      exact (moved member otherMember sameKey sameValue).mpr (all other otherMember)

theorem isCongruent (sound : value.IsSound) : value.IsCongruent := by
  induction sound with
  | absent => exact isCongruent_of_alone fun _ => same_absent_iff
  | nil => exact isCongruent_of_alone fun _ => same_nil_iff
  | truth flag => exact isCongruent_number rfl
  | int number => exact isCongruent_number rfl
  | float isNumber => exact isCongruent_number (exists_quantity?_float isNumber).choose_spec
  | text contents => exact isCongruent_of_alone fun _ => same_text_iff
  | symbol name => exact isCongruent_of_alone fun _ => same_symbol_iff
  | keyword name => exact isCongruent_of_alone fun _ => same_keyword_iff
  | quote _ inside => exact isCongruent_quote inside
  | cell _ _ atFirst atRest => exact isCongruent_cell atFirst atRest
  | list _ inside =>
      refine isCongruent_sequence (fun _ _ => same_list_iff) (fun items sound => ?_) inside
      cases sound with | list parts => exact parts
  | tuple _ inside =>
      refine isCongruent_sequence (fun _ _ => same_tuple_iff) (fun items sound => ?_) inside
      cases sound with | tuple parts => exact parts
  | table keysSound valuesSound distinct keys values =>
      exact isCongruent_table (.table keysSound valuesSound distinct) keys values

theorem same_symm (sound : value.IsSound) (otherSound : other.IsSound)
    (same : value.same other = true) : other.same value = true := by
  rw [← (isCongruent sound).congr other value otherSound sound same, (isCongruent sound).refl]

theorem same_trans (sound : value.IsSound) (otherSound : other.IsSound)
    (thirdSound : third.IsSound) (same : value.same other = true)
    (next : other.same third = true) : value.same third = true := by
  rw [(isCongruent sound).congr other third otherSound thirdSound same, next]

theorem same_absent_right_iff : value.same .absent = true ↔ value = .absent := by
  cases value <;> simp [same, sameNumber, number?]

theorem same_nil_right_iff : value.same .nil = true ↔ value = .nil := by
  cases value <;> simp [same, sameNumber, number?]

/-- Equal values are of one kind unless both are numbers. -/
theorem kind_eq_of_same (sound : value.IsSound) (otherSound : other.IsSound)
    (same : value.same other = true) :
    value.kind = other.kind ∨ (value.quantity?.isSome ∧ other.quantity?.isSome) := by
  have ofNumber {quantity} (counts : value.quantity? = some quantity) :
      value.quantity?.isSome ∧ other.quantity?.isSome := by
    rw [(same_number_iff counts otherSound).mp same, counts]
    exact ⟨rfl, rfl⟩
  cases sound with
  | absent => exact .inl (by rw [same_absent_iff.mp same])
  | nil => exact .inl (by rw [same_nil_iff.mp same])
  | truth flag => exact .inr (ofNumber rfl)
  | int number => exact .inr (ofNumber rfl)
  | float isNumber => exact .inr (ofNumber (exists_quantity?_float isNumber).choose_spec)
  | text contents => exact .inl (by rw [same_text_iff.mp same])
  | symbol name => exact .inl (by rw [same_symbol_iff.mp same])
  | keyword name => exact .inl (by rw [same_keyword_iff.mp same])
  | quote _ =>
      obtain ⟨inner, rfl, -⟩ := same_quote_iff.mp same
      exact .inl rfl
  | cell _ _ =>
      obtain ⟨otherFirst, otherRest, rfl, -⟩ := same_cell_iff.mp same
      exact .inl rfl
  | list _ =>
      obtain ⟨others, rfl, -⟩ := same_list_iff.mp same
      exact .inl rfl
  | tuple _ =>
      obtain ⟨others, rfl, -⟩ := same_tuple_iff.mp same
      exact .inl rfl
  | table _ _ _ =>
      obtain ⟨others, rfl, -⟩ := same_table_iff.mp same
      exact .inl rfl

end Congruence

section Digests

variable {value other : Value} {items others : List Value}

theorem digest_of_number? {real imaginary : Number}
    (read : value.number? = some (real, imaginary)) :
    value.digest = .ok (mixHash real.digest imaginary.digest) := by
  cases value <;> simp only [number?, reduceCtorEq, Option.some.injEq, Prod.mk.injEq] at read
  all_goals
    obtain ⟨rfl, rfl⟩ := read
    simp [digest, number?]

/-- Equal numbers have equal parts, and the digest is made of these. -/
theorem digest_eq_of_number {real imaginary : Number}
    (read : value.number? = some (real, imaginary)) (same : value.same other = true) :
    value.digest = other.digest := by
  have byNumber : value.same other = value.sameNumber other := by
    cases value <;> simp only [number?, reduceCtorEq] at read
    all_goals cases other <;> simp only [Value.same]
  rw [byNumber, sameNumber, read] at same
  cases otherRead : other.number? with
  | none => simp [otherRead] at same
  | some parts =>
      simp only [otherRead, Number.same, Bool.and_eq_true, beq_iff_eq] at same
      rw [digest_of_number? read, digest_of_number? otherRead, same.1.1, same.2.1]

theorem digestItems_eq (mixed : UInt64)
    (inside : ∀ item ∈ items, ∀ other : Value, item.same other = true → item.digest = other.digest)
    (same : List.Forall₂ (fun item other => item.same other = true) items others) :
    digestItems mixed items = digestItems mixed others := by
  induction same generalizing mixed with
  | nil => rfl
  | cons sameItem _ inductionHypothesis =>
      rw [List.forall_mem_cons] at inside
      simp only [digestItems, inside.1 _ sameItem, inductionHypothesis _ inside.2]

/-- Equal values share their digest. -/
theorem digest_eq_of_same (sound : value.IsSound) (same : value.same other = true) :
    value.digest = other.digest := by
  induction sound generalizing other with
  | absent => rw [same_absent_iff.mp same]
  | nil => rw [same_nil_iff.mp same]
  | truth flag => exact digest_eq_of_number rfl same
  | int number => exact digest_eq_of_number rfl same
  | float isNumber => exact digest_eq_of_number rfl same
  | text contents => rw [same_text_iff.mp same]
  | symbol name => rw [same_symbol_iff.mp same]
  | keyword name => rw [same_keyword_iff.mp same]
  | quote _ inside =>
      obtain ⟨inner, rfl, sameInside⟩ := same_quote_iff.mp same
      rw [digest, digest, inside sameInside]
  | cell _ _ atFirst atRest =>
      obtain ⟨otherFirst, otherRest, rfl, sameFirst, sameRest⟩ := same_cell_iff.mp same
      rw [digest, digest, atFirst sameFirst, atRest sameRest]
  | list _ _ =>
      obtain ⟨others, rfl, -⟩ := same_list_iff.mp same
      rfl
  | tuple _ inside =>
      obtain ⟨others, rfl, sameItems⟩ := same_tuple_iff.mp same
      rw [digest, digest]
      exact digestItems_eq 18 (fun item member other => inside item member) sameItems
  | table _ _ _ _ _ =>
      obtain ⟨others, rfl, -⟩ := same_table_iff.mp same
      rfl

end Digests

section Building

variable {table changed : Table} {key value other : Value}

/-- A table takes its keys and values from what was put into it. -/
theorem forall_mem_put {onKeys onValues : Value → Prop} (keys : ∀ entry ∈ table, onKeys entry.1)
    (values : ∀ entry ∈ table, onValues entry.2) (atKey : onKeys key) (atValue : onValues value) :
    (∀ entry ∈ table.put key value, onKeys entry.1) ∧
      ∀ entry ∈ table.put key value, onValues entry.2 := by
  induction table with
  | nil => simp [Table.put, atKey, atValue]
  | cons entry table inductionHypothesis =>
      rw [List.forall_mem_cons] at keys values
      obtain ⟨laterKeys, laterValues⟩ := inductionHypothesis keys.2 values.2
      rw [Table.put]
      split
      · simp only [List.forall_mem_cons]
        exact ⟨⟨keys.1, keys.2⟩, atValue, values.2⟩
      · simp only [List.forall_mem_cons]
        exact ⟨⟨keys.1, laterKeys⟩, values.1, laterValues⟩

/-- Putting a value keeps the keys as they are, or adds one that equals none of them. -/
theorem keys_put (table : Table) (key value : Value) :
    (table.put key value).map Prod.fst = table.map Prod.fst ∨
      (table.put key value).map Prod.fst = table.map Prod.fst ++ [key] ∧
        ∀ entry ∈ table, key.same entry.1 = false := by
  induction table with
  | nil => exact .inr ⟨rfl, by simp⟩
  | cons entry table inductionHypothesis =>
      rw [Table.put]
      cases same : key.same entry.1 with
      | true => exact .inl rfl
      | false =>
          rcases inductionHypothesis with kept | ⟨added, apart⟩
          · exact .inl (by simp [kept])
          · exact .inr ⟨by simp [added], List.forall_mem_cons.mpr ⟨same, apart⟩⟩

theorem isSound_put (sound : (Value.table table).IsSound) (atKey : key.IsSound)
    (atValue : value.IsSound) : (Value.table (table.put key value)).IsSound := by
  cases sound with
  | table keys values distinct =>
      obtain ⟨newKeys, newValues⟩ := forall_mem_put keys values atKey atValue
      refine .table newKeys newValues ?_
      unfold Table.HasDistinctKeys
      rcases keys_put table key value with kept | ⟨added, apart⟩
      · rw [kept]
        exact distinct
      · rw [added, List.pairwise_append]
        refine ⟨distinct, List.pairwise_singleton _ _, ?_⟩
        rintro old member new isKey
        obtain ⟨entry, entryMember, rfl⟩ := List.mem_map.mp member
        rw [List.mem_singleton.mp isKey]
        refine ⟨Bool.eq_false_iff.mpr fun same => ?_, apart entry entryMember⟩
        have backwards := same_symm (keys entry entryMember) atKey same
        simp [apart entry entryMember] at backwards

theorem isSound_without (sound : (Value.table table).IsSound) :
    (Value.table (table.without key)).IsSound := by
  cases sound with
  | table keys values distinct =>
      have kept : (table.without key).Sublist table := List.eraseP_sublist
      exact .table (fun entry member => keys entry (kept.subset member))
        (fun entry member => values entry (kept.subset member)) (distinct.sublist (kept.map _))

theorem isSound_of_isBuilt (built : value.IsBuilt) : value.IsSound := by
  induction built with
  | absent => exact .absent
  | nil => exact .nil
  | truth flag => exact .truth flag
  | int number => exact .int number
  | float isNumber => exact .float isNumber
  | text contents => exact .text contents
  | symbol name => exact .symbol name
  | keyword name => exact .keyword name
  | quote _ inside => exact .quote inside
  | cell _ _ atFirst atRest => exact .cell atFirst atRest
  | list _ inside => exact .list inside
  | tuple _ inside => exact .tuple inside
  | emptyTable => exact .table (by simp) (by simp) .nil
  | @insert table changed key value _ _ _ inserted before atKey atValue =>
      have result : changed = table.put key value := by
        unfold Table.insert at inserted
        cases digested : key.digest <;> simp [digested, bind, Except.bind] at inserted
        exact inserted.symm
      rw [result]
      exact isSound_put before atKey atValue
  | @erase table changed key _ erased before =>
      have result : changed = table ∨ changed = table.without key := by
        unfold Table.erase at erased
        split at erased
        · exact .inl (Except.ok.inj erased).symm
        · cases digested : key.digest <;> simp [digested, bind, Except.bind] at erased
          exact .inr erased.symm
      rcases result with rfl | rfl
      exacts [before, isSound_without before]

/-- An equal key has the same digest, so it is among the keys that are searched. -/
theorem findByDigest_eq (sound : key.IsSound) (table : Table) :
    table.findByDigest key = table.find key := by
  have search (entry : Value × Value) :
      (decide (entry.1.digest = key.digest) && key.same entry.1) = key.same entry.1 := by
    cases same : key.same entry.1 with
    | true => simp [digest_eq_of_same sound same]
    | false => simp
  simp only [Table.findByDigest, Table.find, search]

/-- Equality of built values is an equivalence that compares numbers exactly and that digests
respect, and a built table holds no two equal keys. -/
theorem isLawful_of_isBuilt {left middle right : Value} (leftBuilt : left.IsBuilt)
    (middleBuilt : middle.IsBuilt) (rightBuilt : right.IsBuilt) : IsLawful left middle right where
  refl := (isCongruent (isSound_of_isBuilt leftBuilt)).refl
  symm := same_symm (isSound_of_isBuilt leftBuilt) (isSound_of_isBuilt middleBuilt)
  trans := same_trans (isSound_of_isBuilt leftBuilt) (isSound_of_isBuilt middleBuilt)
    (isSound_of_isBuilt rightBuilt)
  number quantity other := same_iff_of_quantity?
  kind := kind_eq_of_same (isSound_of_isBuilt leftBuilt) (isSound_of_isBuilt middleBuilt)
  absent := same_absent_right_iff
  nil := same_nil_right_iff
  digest := digest_eq_of_same (isSound_of_isBuilt leftBuilt)
  table table isTable := by
    subst isTable
    cases isSound_of_isBuilt leftBuilt with
    | table _ _ distinct => exact ⟨distinct, findByDigest_eq (isSound_of_isBuilt middleBuilt) table⟩

/-- A number in front of a table with one entry. -/
def sampleEntry (number key : Value) : Value :=
  .cell number (.table [(key, .text "a")])

theorem isBuilt_sampleEntry {number key : Value} (atNumber : number.IsBuilt) (atKey : key.IsBuilt)
    (inserted : Table.insert [] key (.text "a") = .ok [(key, .text "a")]) :
    (sampleEntry number key).IsBuilt :=
  .cell atNumber (.insert .emptyTable atKey (.text "a") inserted)

/-- One and zero are written as integers, truth values and floats, the zero with its sign. -/
theorem isLawful_sampleEntry :
    (sampleEntry (.int 1) (.truth false)).same
        (sampleEntry (.float ⟨0x3ff0000000000000⟩) (.int 0)) = true ∧
      (sampleEntry (.float ⟨0x3ff0000000000000⟩) (.int 0)).same
        (sampleEntry (.truth true) (.float ⟨0x8000000000000000⟩)) = true ∧
      IsLawful (sampleEntry (.int 1) (.truth false))
        (sampleEntry (.float ⟨0x3ff0000000000000⟩) (.int 0))
        (sampleEntry (.truth true) (.float ⟨0x8000000000000000⟩)) := by
  refine ⟨by decide +kernel, by decide +kernel, isLawful_of_isBuilt ?_ ?_ ?_⟩
  · exact isBuilt_sampleEntry (.int 1) (.truth false) rfl
  · exact isBuilt_sampleEntry (.float (by decide)) (.int 0) rfl
  · exact isBuilt_sampleEntry (.truth true) (.float (by decide)) rfl

end Building

end Value

end EmacsSession
