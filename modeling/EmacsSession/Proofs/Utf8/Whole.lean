/-
This file shows that octets that come in chunks have the text of all of them at once.
-/

import EmacsSession.Proofs.Utf8.Decoder

namespace EmacsSession.Utf8

section Forms

/-- The form of the characters that begin with an octet. -/
def formOf? (octet : UInt8) : Option (List OctetRange) :=
  characterForms.find? fun form => form.head?.any (·.holds octet)

variable {octet : UInt8} {octets : List UInt8} {range : OctetRange} {ranges : List OctetRange}

theorem find?_fitting (octet : UInt8) (octets : List UInt8) :
    (characterForms.find? fun form => fitting form (octet :: octets) != 0) = formOf? octet := by
  rw [formOf?]
  congr 1
  funext form
  cases form with
  | nil => rfl
  | cons range ranges => cases held : range.holds octet <;> simp [fitting, held]

/-- The octets that fit ranges are held by them. -/
theorem holds_of_fitting {low high : UInt8}
    (inside : ∀ range ∈ ranges, low ≤ range.low ∧ range.high ≤ high) :
    ∀ octet ∈ octets.take (fitting ranges octets), low ≤ octet ∧ octet ≤ high := by
  induction ranges generalizing octets with
  | nil => simp [fitting]
  | cons range ranges inductionHypothesis =>
      cases octets with
      | nil => simp [fitting]
      | cons octet octets =>
          rw [fitting]
          split
          next held =>
            have bounds := inside range List.mem_cons_self
            have others := @inductionHypothesis octets fun other member =>
              inside other (.tail _ member)
            rw [OctetRange.holds, Bool.and_eq_true, decide_eq_true_eq, decide_eq_true_eq] at held
            rw [List.take_succ_cons, List.forall_mem_cons]
            exact ⟨⟨UInt8.le_trans bounds.1 held.1, UInt8.le_trans held.2 bounds.2⟩, others⟩
          next => simp

theorem head_of_none (none : formOf? octet = none) : head (octet :: octets) = (replacement, 1) := by
  rw [head, find?_fitting, none]

theorem head_of_form (form : formOf? octet = some (range :: ranges)) :
    head (octet :: octets) =
      (if fitting ranges octets = ranges.length then
        Char.ofNat (codeOf (octet :: octets.take (fitting ranges octets))) else replacement,
        fitting ranges octets + 1) := by
  have held : range.holds octet := by simpa using List.find?_some form
  rw [head, find?_fitting, form]
  simp only [fitting, held, if_true, List.length_cons, beq_iff_eq, Nat.add_right_cancel_iff,
    List.take_succ_cons]
  split <;> rfl

end Forms

section Decoding

theorem decodeOnto_eq (held : List Char) (skip : Nat) (octets : List UInt8) :
    decodeOnto held skip octets = held.reverse ++ decode (octets.drop skip) := by
  induction octets generalizing held skip with
  | nil => simp [decode, decodeOnto]
  | cons octet octets inductionHypothesis =>
      cases skip with
      | succ skip => exact inductionHypothesis held skip
      | zero =>
          simp only [decode, List.drop_zero, decodeOnto]
          rw [inductionHypothesis, inductionHypothesis [_]]
          simp

theorem decode_cons (octet : UInt8) (octets : List UInt8) :
    decode (octet :: octets) = (head (octet :: octets)).1 ::
      decode (octets.drop ((head (octet :: octets)).2 - 1)) := by
  simp only [decode, decodeOnto]
  rw [decodeOnto_eq]
  simp [decode]

end Decoding

namespace Decoder

variable {decoder : Decoder} {octet : UInt8} {octets : List UInt8}

/-- The text of octets up to their end, where a character may be left unfinished. -/
def whole (decoder : Decoder) (octets : List UInt8) : List Char :=
  (decoder.feed octets).2 ++ (decoder.feed octets).1.finish

theorem whole_nil (decoder : Decoder) : decoder.whole [] = decoder.finish := rfl

theorem whole_cons (decoder : Decoder) (octet : UInt8) (octets : List UInt8) :
    decoder.whole (octet :: octets) =
      (decoder.step octet).2 ++ (decoder.step octet).1.whole octets := by
  rw [whole, feed_cons, whole, List.append_assoc]

/-- The bits of further octets behind those of a begun character. -/
def gathered (bits : Nat) (octets : List UInt8) : Nat :=
  octets.foldl (fun code octet => code * 64 + (octet.toNat - 0x80)) bits

/-- A begun character is completed by the octets that fit, or replaced together with them. -/
theorem whole_within (bits : Nat) (next : OctetRange) (further : Nat) (octets : List UInt8) :
    (within bits next further).whole octets =
      (if fitting (next :: .replicate further continuation) octets = further + 1 then
        Char.ofNat (gathered bits
          (octets.take (fitting (next :: .replicate further continuation) octets)))
        else replacement) ::
      idle.whole (octets.drop (fitting (next :: .replicate further continuation) octets)) := by
  induction octets generalizing bits next further with
  | nil => simp [fitting, whole_nil, finish]
  | cons octet octets inductionHypothesis =>
      rw [whole_cons, step, fitting]
      split
      next held =>
        cases further with
        | zero => simp [fitting, gathered]
        | succ further =>
            have others := inductionHypothesis (bits * 64 + (octet.toNat - 0x80)) continuation
              further
            rw [← List.replicate_succ] at others
            simpa [gathered] using others
      next => simp [whole_cons idle, step]

/-- What a decoder makes of an octet that begins a character of a form, or none. -/
def entering (octet : UInt8) : Option (List OctetRange) → Decoder × List Char
  | some (_ :: next :: ranges) =>
      (within (octet.toNat % Nat.pow 2 (5 - ranges.length)) next ranges.length, [])
  | some _ => (idle, [Char.ofNat octet.toNat])
  | none => (idle, [replacement])

/-- The table of forms and the decoder agree on each first octet. -/
theorem enter_eq (octet : UInt8) : enter octet = entering octet (formOf? octet) := by
  let agrees (octet : UInt8) : Prop := enter octet = entering octet (formOf? octet)
  have every : ∀ number < 256, agrees (UInt8.ofNat number) := by decide +kernel
  simpa using every octet.toNat octet.toNat_lt

/-- Behind the second octet of a form all octets continue the character. -/
theorem form_eq {form : List OctetRange} (found : formOf? octet = some form) :
    (∃ range, form = [range]) ∨ ∃ range next further,
      form = range :: next :: .replicate further continuation ∧
        ∀ other ∈ next :: .replicate further continuation,
          0x80 ≤ other.low ∧ other.high ≤ 0xBF := by
  have every : ∀ form ∈ characterForms, form ≠ [] ∧
      form.drop 2 = .replicate (form.length - 2) continuation ∧
        ∀ other ∈ form.tail, 0x80 ≤ other.low ∧ other.high ≤ 0xBF := by decide
  obtain ⟨some, behind, inside⟩ := every form (List.mem_of_find?_eq_some found)
  match form with
  | [] => exact absurd rfl some
  | [range] => exact .inl ⟨range, rfl⟩
  | range :: next :: ranges =>
      have same : ranges = .replicate ranges.length continuation := behind
      refine .inr ⟨range, next, ranges.length, by rw [← same], ?_⟩
      rw [← same]
      exact inside

theorem foldl_eq_gathered (bits : Nat) (inside : ∀ other ∈ octets, 0x80 ≤ other ∧ other ≤ 0xBF) :
    octets.foldl (fun code octet => code * 64 + octet.toNat % 64) bits = gathered bits octets := by
  rw [gathered]
  induction octets generalizing bits with
  | nil => rw [List.foldl_nil, List.foldl_nil]
  | cons octet octets inductionHypothesis =>
      obtain ⟨least, most⟩ := inside octet List.mem_cons_self
      have low : (0x80 : UInt8).toNat = 128 := rfl
      have high : (0xBF : UInt8).toNat = 191 := rfl
      rw [UInt8.le_iff_toNat_le, low] at least
      rw [UInt8.le_iff_toNat_le, high] at most
      have same : octet.toNat % 64 = octet.toNat - 0x80 := by omega
      rw [List.foldl_cons, List.foldl_cons, same]
      exact inductionHypothesis _ fun other member => inside other (.tail _ member)

/-- The bits of a character are gathered as its code has them. -/
theorem codeOf_eq (octet : UInt8) (some : octets ≠ [])
    (inside : ∀ other ∈ octets, 0x80 ≤ other ∧ other ≤ 0xBF) :
    codeOf (octet :: octets) = gathered (octet.toNat % Nat.pow 2 (6 - octets.length)) octets := by
  rw [← foldl_eq_gathered _ inside]
  cases octets with
  | nil => exact absurd rfl some
  | cons next octets => rfl

theorem length_take_fitting (ranges : List OctetRange) (octets : List UInt8) :
    (octets.take (fitting ranges octets)).length = fitting ranges octets := by
  fun_induction fitting ranges octets <;> simp_all

/-- The octets that complete a form behind its first octet give the code of a character. -/
theorem codeOf_complete (octet : UInt8) {ranges : List OctetRange} {further : Nat}
    (inside : ∀ range ∈ ranges, 0x80 ≤ range.low ∧ range.high ≤ 0xBF)
    (complete : fitting ranges octets = further + 1) :
    codeOf (octet :: octets.take (fitting ranges octets)) =
      gathered (octet.toNat % Nat.pow 2 (5 - further)) (octets.take (fitting ranges octets)) := by
  have long := length_take_fitting ranges octets
  have some : octets.take (fitting ranges octets) ≠ [] := by
    rw [← List.length_pos_iff, long, complete]
    exact Nat.succ_pos further
  rw [codeOf_eq octet some (holds_of_fitting inside), long, complete, Nat.add_comm further 1,
    Nat.sub_add_eq 6 1 further]

/-- The decoder reads one character after the other, each as it is read with all octets known. -/
theorem whole_idle (octets : List UInt8) : idle.whole octets = decode octets := by
  -- By the number of octets, as both go on behind all octets of the first character.
  induction count : octets.length using Nat.strongRecOn generalizing octets with
  | ind count inductionHypothesis =>
      subst count
      cases octets with
      | nil => rfl
      | cons octet octets =>
          have shorter (skip : Nat) :
              idle.whole (octets.drop skip) = decode (octets.drop skip) := by
            refine inductionHypothesis _ ?_ _ rfl
            rw [List.length_drop, List.length_cons]
            omega
          rw [whole_cons, step, enter_eq, decode_cons]
          cases found : formOf? octet with
          | none =>
              have rest := shorter 0
              rw [head_of_none found]
              simpa [entering] using rest
          | some form =>
              rcases form_eq found with ⟨range, rfl⟩ | ⟨range, next, further, rfl, inside⟩
              · have rest := shorter 0
                rw [head_of_form found]
                simpa [entering, fitting, codeOf] using rest
              · rw [head_of_form found, entering, List.length_replicate, whole_within, shorter]
                simp only [List.length_cons, List.length_replicate, Nat.add_sub_cancel,
                  List.nil_append]
                split
                next complete => rw [codeOf_complete octet inside complete]
                next => rfl

section Chunks

/-- The texts of chunks that are fed one after the other. -/
def texts : Decoder → List (List UInt8) → List (List Char)
  | _, [] => []
  | decoder, chunk :: chunks => (decoder.feed chunk).2 :: (decoder.feed chunk).1.texts chunks

theorem flatten_texts (decoder : Decoder) (chunks : List (List UInt8)) :
    (decoder.texts chunks).flatten = (decoder.feed chunks.flatten).2 := by
  induction chunks generalizing decoder with
  | nil => rfl
  | cons chunk chunks inductionHypothesis =>
      rw [texts, List.flatten_cons, inductionHypothesis, List.flatten_cons, feed_append]

/-- The texts of all chunks, with what is left at the end, are the text of all octets. -/
theorem texts_finish (chunks : List (List UInt8)) :
    (idle.texts chunks).flatten ++ (idle.feed chunks.flatten).1.finish =
      decode chunks.flatten := by
  rw [flatten_texts, ← whole_idle, whole]

end Chunks

end Decoder

end EmacsSession.Utf8
