import Mathlib.Computability.RegularExpressions

namespace Foundation.SeparatedWords

open Computability

/-!
# Words with separators

A regular expression for a separated list repeats its item after a separator.
Such an expression matches a word exactly when the item matches every piece
between the separators, as long as no item has a separator in it.
-/

/-- Repetition can start before or after the last factor. -/
theorem kstar_slide
    {K : Type}
    [KleeneAlgebra K]
    (a b : K) :
    (a * b)∗ * a = a * (b * a)∗ := by
  apply le_antisymm
  · apply kstar_mul_le
    · exact le_mul_of_one_le_right' one_le_kstar
    · calc
        a * b * (a * (b * a)∗) = a * (b * a * (b * a)∗) := by
          simp only [mul_assoc]
        _ ≤ a * (b * a)∗ := mul_le_mul_right mul_kstar_le_kstar a
  · apply mul_kstar_le
    · exact le_mul_of_one_le_left' one_le_kstar
    · calc
        (a * b)∗ * a * (b * a) = (a * b)∗ * (a * b) * a := by
          simp only [mul_assoc]
        _ ≤ (a * b)∗ * a := mul_le_mul_left kstar_mul_le_kstar a

variable {α : Type}

/-- A repeated letter is matched by the words of this letter. -/
theorem mem_kstar_letter_iff
    {letter : α}
    {text : List α} :
    text ∈ ({[letter]} : Language α)∗ ↔ ∀ c ∈ text, c = letter := by
  rw [Language.mem_kstar]
  constructor
  · rintro ⟨words, rfl, letters⟩ c member
    obtain ⟨word, isWord, inWord⟩ := List.mem_flatten.mp member
    rw [Set.mem_singleton_iff.mp (letters word isWord)] at inWord
    exact List.mem_singleton.mp inWord
  · intro letters
    refine ⟨text.map fun c => [c], ?_, ?_⟩
    · rw [← List.flatMap_def]
      exact (List.flatMap_singleton' text).symm
    · intro word member
      obtain ⟨c, isLetter, rfl⟩ := List.mem_map.mp member
      rw [letters c isLetter]
      rfl

/-- The letters that an expression mentions. -/
def letters : RegularExpression α → List α
  | .zero => []
  | .epsilon => []
  | .char letter => [letter]
  | .plus first second => letters first ++ letters second
  | .comp first second => letters first ++ letters second
  | .star repeated => letters repeated

/-- A matched word is made of the letters of its expression. -/
theorem mem_letters
    {expression : RegularExpression α}
    {word : List α}
    (matched : word ∈ expression.matches')
    {c : α}
    (member : c ∈ word) :
    c ∈ letters expression := by
  induction expression generalizing word with
  | zero =>
      cases matched
  | epsilon =>
      rw [(Language.mem_one word).mp matched] at member
      cases member
  | char letter =>
      rw [Set.mem_singleton_iff.mp matched] at member
      exact member
  | plus first second firstHypothesis secondHypothesis =>
      rcases matched with isFirst | isSecond
      · exact List.mem_append_left _ (firstHypothesis isFirst member)
      · exact List.mem_append_right _ (secondHypothesis isSecond member)
  | comp first second firstHypothesis secondHypothesis =>
      obtain ⟨left, isLeft, right, isRight, rfl⟩ := Language.mem_mul.mp matched
      rcases List.mem_append.mp member with inLeft | inRight
      · exact List.mem_append_left _ (firstHypothesis isLeft inLeft)
      · exact List.mem_append_right _ (secondHypothesis isRight inRight)
  | star repeated inductionHypothesis =>
      obtain ⟨words, rfl, areWords⟩ := Language.mem_kstar.mp matched
      obtain ⟨part, isPart, inPart⟩ := List.mem_flatten.mp member
      exact inductionHypothesis (areWords part isPart) inPart

section Splits

variable [DecidableEq α]

/-- The pieces of an item and more items after separators are items. -/
theorem mem_of_mem_splitOn
    {item : Language α}
    {separator : α}
    (noSeparator : ∀ word ∈ item, separator ∉ word)
    {first : List α}
    (isItem : first ∈ item)
    {words : List (List α)}
    (areWords : ∀ word ∈ words, word ∈ {[separator]} * item)
    {piece : List α}
    (member : piece ∈ (first ++ words.flatten).splitOn separator) :
    piece ∈ item := by
  induction words generalizing first with
  | nil =>
      rw [List.flatten_nil, List.append_nil,
        List.splitOn_eq_singleton (noSeparator first isItem)] at member
      rw [List.mem_singleton.mp member]
      exact isItem
  | cons word words inductionHypothesis =>
      obtain ⟨wordIs, others⟩ := List.forall_mem_cons.mp areWords
      obtain ⟨mark, isMark, second, isSecond, rfl⟩ := Language.mem_mul.mp wordIs
      rw [Set.mem_singleton_iff.mp isMark, List.flatten_cons,
        List.append_assoc, List.singleton_append,
        List.splitOn_append_cons_self_of_not_mem (noSeparator first isItem)]
        at member
      rcases List.mem_cons.mp member with rfl | later
      · exact isItem
      · exact inductionHypothesis isSecond others later

omit [DecidableEq α] in
/-- Items with separators between them are matched. -/
theorem intercalate_mem
    {item : Language α}
    {separator : α}
    {pieces : List (List α)}
    (hasPiece : pieces ≠ [])
    (areItems : ∀ piece ∈ pieces, piece ∈ item) :
    [separator].intercalate pieces ∈ item * ({[separator]} * item)∗ := by
  induction pieces with
  | nil =>
      exact absurd rfl hasPiece
  | cons piece rest inductionHypothesis =>
      obtain ⟨isItem, others⟩ := List.forall_mem_cons.mp areItems
      cases rest with
      | nil =>
          rw [List.intercalate_singleton, ← List.append_nil piece]
          exact Language.append_mem_mul isItem (Language.nil_mem_kstar _)
      | cons next later =>
          obtain ⟨second, isSecond, tail, isTail, whole⟩ :=
            Language.mem_mul.mp
              (inductionHypothesis (List.cons_ne_nil next later) others)
          rw [List.intercalate_cons_cons, ← whole, List.append_assoc]
          refine Language.append_mem_mul isItem ?_
          have isNext : [separator] ++ second ∈ {[separator]} * item :=
            Language.append_mem_mul (Set.mem_singleton _) isSecond
          have oneMore :
              ({[separator]} * item) * ({[separator]} * item)∗ ≤
                ({[separator]} * item)∗ :=
            mul_kstar_le_kstar
          rw [← List.append_assoc]
          exact oneMore (Language.append_mem_mul isNext isTail)

/-- An item, and more items after separators. -/
theorem mem_separated_iff
    {item : Language α}
    {separator : α}
    (noSeparator : ∀ word ∈ item, separator ∉ word)
    {text : List α} :
    text ∈ item * ({[separator]} * item)∗ ↔
      ∀ piece ∈ text.splitOn separator, piece ∈ item := by
  constructor
  · intro matched piece member
    obtain ⟨first, isItem, rest, isRest, rfl⟩ := Language.mem_mul.mp matched
    obtain ⟨words, rfl, areWords⟩ := Language.mem_kstar.mp isRest
    exact mem_of_mem_splitOn noSeparator isItem areWords member
  · intro areItems
    have whole : [separator].intercalate (text.splitOn separator) = text :=
      List.intercalate_splitOn separator
    rw [← whole]
    exact intercalate_mem (List.splitOn_ne_nil separator text) areItems

/-- Two words with one separator between them. -/
theorem mem_pair_iff
    {item : Language α}
    {separator : α}
    (noSeparator : ∀ word ∈ item, separator ∉ word)
    {text : List α} :
    text ∈ item * ({[separator]} * item) ↔
      ∃ first second, text.splitOn separator = [first, second] ∧
        first ∈ item ∧ second ∈ item := by
  constructor
  · intro matched
    obtain ⟨first, isFirst, rest, isRest, rfl⟩ := Language.mem_mul.mp matched
    obtain ⟨mark, isMark, second, isSecond, rfl⟩ := Language.mem_mul.mp isRest
    refine ⟨first, second, ?_, isFirst, isSecond⟩
    rw [Set.mem_singleton_iff.mp isMark, List.singleton_append,
      List.splitOn_append_cons_self_of_not_mem (noSeparator first isFirst),
      List.splitOn_eq_singleton (noSeparator second isSecond)]
  · rintro ⟨first, second, split, isFirst, isSecond⟩
    have whole : [separator].intercalate (text.splitOn separator) = text :=
      List.intercalate_splitOn separator
    rw [← whole, split, List.intercalate_cons_cons,
      List.intercalate_singleton, List.append_assoc]
    exact
      Language.append_mem_mul isFirst
        (Language.append_mem_mul (Set.mem_singleton _) isSecond)

/-- Splitting commutes with a renaming that keeps the separator apart. -/
theorem splitOn_map
    {β : Type}
    [DecidableEq β]
    {rename : α → β}
    {separator : α}
    {mark : β}
    (apart : ∀ c, rename c = mark ↔ c = separator)
    (text : List α) :
    (text.map rename).splitOn mark =
      (text.splitOn separator).map (List.map rename) := by
  induction text with
  | nil =>
      rfl
  | cons c rest inductionHypothesis =>
      rw [List.map_cons, List.splitOn_cons_eq_if_modifyHead,
        List.splitOn_cons_eq_if_modifyHead, inductionHypothesis]
      by_cases isSeparator : c = separator
      · rw [if_pos (by simpa using (apart c).mpr isSeparator),
          if_pos (by simpa using isSeparator)]
        rfl
      · have renamed : rename c ≠ mark :=
          fun same => isSeparator ((apart c).mp same)
        rw [if_neg (by simpa using renamed), if_neg (by simpa using isSeparator)]
        cases rest.splitOn separator <;> rfl

end Splits

end Foundation.SeparatedWords
