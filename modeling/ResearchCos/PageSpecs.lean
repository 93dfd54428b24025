import Mathlib.Computability.RegularExpressions
import Mathlib.Order.Interval.Finset.Nat
import Mathlib.Tactic.Ring
import ResearchCos.ContractShape
import ResearchCos.EvidenceProducers
import ResearchCos.Foundation.IntervalCover
import ResearchCos.Foundation.SeparatedWords

namespace ResearchCos

open Foundation
open Computability

/-!
# Which page specs go on to the extraction

The picker of page ranges is a model and may return any text.  A regular
expression lets a text pass that lists pages and ranges of pages, and whatever
passes is cut out of the document and converted.  What a text denotes is stated
beside the expression, by splitting at its commas and dashes.
-/

/-! ## The expression -/

/-- What the expression for a page spec tells apart. -/
inductive PageChar where
  | space
  | digit
  | dash
  | comma
  | other
  deriving Repr, DecidableEq

/-- The value of a decimal digit; a library table has those beyond ASCII. -/
def decimalDigit (unicodeDigit : Char → Option Nat) (c : Char) : Option Nat :=
  if c.toNat < 128 then
    if c.isDigit then some (c.toNat - '0'.toNat) else none
  else if isPySpace c then
    none
  else
    unicodeDigit c

/-- The class of a character. -/
def PageChar.of (unicodeDigit : Char → Option Nat) (c : Char) : PageChar :=
  if isPySpace c then
    .space
  else if (decimalDigit unicodeDigit c).isSome then
    .digit
  else if c = '-' then
    .dash
  else if c = ',' then
    .comma
  else
    .other

section Classes

variable {unicodeDigit : Char → Option Nat} {c : Char}

/-- Whitespace is no digit. -/
theorem decimalDigit_of_isPySpace
    (isSpace : isPySpace c = true) :
    decimalDigit unicodeDigit c = none := by
  unfold decimalDigit
  have noDigit : ¬ c.isDigit = true := by
    intro isDigit
    have bounds : 48 ≤ c.toNat ∧ c.toNat ≤ 57 :=
      Char.isDigit_iff_toNat.mp isDigit
    simp only [isPySpace, List.mem_cons, List.not_mem_nil, or_false,
      decide_eq_true_eq] at isSpace
    omega
  rw [if_neg noDigit, if_pos isSpace]
  split <;> rfl

theorem PageChar.of_eq_space_iff :
    PageChar.of unicodeDigit c = .space ↔ isPySpace c = true := by
  unfold PageChar.of
  split_ifs <;> simp_all

theorem PageChar.of_eq_digit_iff :
    PageChar.of unicodeDigit c = .digit ↔
      (decimalDigit unicodeDigit c).isSome = true := by
  unfold PageChar.of
  split_ifs with isSpace isDigit
  · simp [decimalDigit_of_isPySpace isSpace]
  · simp [isDigit]
  all_goals simpa using isDigit

theorem PageChar.of_eq_dash_iff :
    PageChar.of unicodeDigit c = .dash ↔ c = '-' := by
  constructor
  · unfold PageChar.of
    split_ifs <;> simp_all
  · rintro rfl
    rfl

theorem PageChar.of_eq_comma_iff :
    PageChar.of unicodeDigit c = .comma ↔ c = ',' := by
  constructor
  · unfold PageChar.of
    split_ifs <;> simp_all
  · rintro rfl
    rfl

end Classes

namespace InternalDoc

open RegularExpression

/-- `\s*` -/
def spacesRe : RegularExpression PageChar :=
  (char .space).star

/-- `\d+` -/
def numberRe : RegularExpression PageChar :=
  char .digit * (char .digit).star

/-- `\d+(?:\s*-\s*\d+)?` -/
def rangeRe : RegularExpression PageChar :=
  numberRe * (1 + spacesRe * char .dash * spacesRe * numberRe)

/-- A text of ranges with commas between them. -/
def pagesRe : RegularExpression PageChar :=
  spacesRe * rangeRe *
    (spacesRe * char PageChar.comma * spacesRe * rangeRe).star * spacesRe

/--
Whether a page spec may be extracted.  Only ASCII letters have one of the
compared letters as their lower case.
-/
def isBoundedPages
    (unicodeDigit : Char → Option Nat)
    (pages : String) : Bool :=
  if pages = "" ||
      !pagesRe.rmatch (pages.toList.map (PageChar.of unicodeDigit)) then
    false
  else
    let low := String.ofList ((stripChars pages.toList).map Char.toLower)
    low ∉ ["all", "1-", "-"]

/-! ## What a text denotes -/

/-- A number between whitespace. -/
def pageNumber
    (unicodeDigit : Char → Option Nat)
    (text : List Char) : Option Nat :=
  match stripChars text with
  | [] => none
  | digits =>
      (digits.mapM (decimalDigit unicodeDigit)).map fun values =>
        values.foldl (fun number digit => 10 * number + digit) 0

/-- One page, or the first and the last page of a range. -/
def pageRange
    (unicodeDigit : Char → Option Nat)
    (item : List Char) : Option (Nat × Nat) :=
  match (item.splitOn '-').mapM (pageNumber unicodeDigit) with
  | some [page] => some (page, page)
  | some [first, last] => some (first, last)
  | _ => none

/-- The ranges of a text that lists some, separated by commas. -/
def denotedRanges
    (unicodeDigit : Char → Option Nat)
    (pages : String) : Option (List (Nat × Nat)) :=
  (pages.toList.splitOn ',').mapM (pageRange unicodeDigit)

/-! ## What the expression matches -/

theorem matches_spacesRe_iff
    {word : List PageChar} :
    word ∈ spacesRe.matches' ↔ ∀ c ∈ word, c = .space :=
  SeparatedWords.mem_kstar_letter_iff

theorem matches_numberRe_iff
    {word : List PageChar} :
    word ∈ numberRe.matches' ↔ word ≠ [] ∧ ∀ c ∈ word, c = .digit := by
  constructor
  · intro matched
    obtain ⟨first, isFirst, rest, areRest, rfl⟩ := Language.mem_mul.mp matched
    rw [Set.mem_singleton_iff.mp isFirst]
    refine ⟨List.cons_ne_nil _ _, ?_⟩
    intro c member
    rcases List.mem_cons.mp member with isDigit | later
    · exact isDigit
    · exact SeparatedWords.mem_kstar_letter_iff.mp areRest c later
  · rintro ⟨notEmpty, digits⟩
    cases word with
    | nil =>
        exact absurd rfl notEmpty
    | cons c rest =>
        obtain ⟨isDigit, areDigits⟩ := List.forall_mem_cons.mp digits
        rw [isDigit]
        exact
          Language.append_mem_mul (Set.mem_singleton _)
            (SeparatedWords.mem_kstar_letter_iff.mpr areDigits)

section Matches

variable {unicodeDigit : Char → Option Nat}

/-- There is no whitespace among digits. -/
theorem isTrimmed_of_digits
    {text : List Char}
    (digits : ∀ c ∈ text, (decimalDigit unicodeDigit c).isSome = true) :
    IsTrimmed text := by
  have noSpace : ∀ c ∈ text, isPySpace c = false := by
    intro c member
    by_contra isSpace
    have isDigit := digits c member
    rw [decimalDigit_of_isPySpace (by simpa using isSpace)] at isDigit
    cases isDigit
  exact
    ⟨fun c first => noSpace c (List.mem_of_mem_head? first),
      fun c last => noSpace c (List.mem_of_mem_getLast? last)⟩

/-- A number is one exactly when some digits are left between whitespace. -/
theorem exists_pageNumber_iff
    {text : List Char} :
    (∃ page, pageNumber unicodeDigit text = some page) ↔
      stripChars text ≠ [] ∧
        ∀ c ∈ stripChars text,
          (decimalDigit unicodeDigit c).isSome = true := by
  unfold pageNumber
  cases stripChars text with
  | nil =>
      simp
  | cons c rest =>
      have mapped :=
        Json.exists_mapM_iff (decimalDigit unicodeDigit) (c :: rest)
      simp only [← Option.isSome_iff_exists, Option.isSome_map] at mapped ⊢
      simpa using mapped

/-- Whitespace, digits and whitespace make a number. -/
theorem matches_number_iff
    {text : List Char} :
    text.map (PageChar.of unicodeDigit) ∈
        (spacesRe * numberRe * spacesRe).matches' ↔
      ∃ page, pageNumber unicodeDigit text = some page := by
  rw [exists_pageNumber_iff]
  constructor
  · intro matched
    obtain ⟨front, isFront, trail, isTrail, whole⟩ :=
      Language.mem_mul.mp matched
    obtain ⟨lead, isLead, number, isNumber, rfl⟩ := Language.mem_mul.mp isFront
    rw [List.append_assoc] at whole
    obtain ⟨before, others, rfl, rfl, split⟩ :=
      List.map_eq_append_iff.mp whole.symm
    obtain ⟨digits, after, rfl, rfl, rfl⟩ := List.map_eq_append_iff.mp split
    obtain ⟨notEmpty, areDigits⟩ := matches_numberRe_iff.mp isNumber
    simp only [matches_spacesRe_iff, List.forall_mem_map,
      PageChar.of_eq_space_iff] at isLead isTrail
    simp only [List.forall_mem_map, PageChar.of_eq_digit_iff] at areDigits
    rw [stripChars_pad isLead (isTrimmed_of_digits areDigits) isTrail]
    exact ⟨fun nothing => notEmpty (by rw [nothing]; rfl), areDigits⟩
  · rintro ⟨notEmpty, areDigits⟩
    obtain ⟨before, after, whole, spacesBefore, spacesAfter⟩ :=
      exists_padding text
    rw [whole, List.map_append, List.map_append, ← List.append_assoc]
    refine
      Language.append_mem_mul (Language.append_mem_mul ?_ ?_) ?_
    · simpa only [matches_spacesRe_iff, List.forall_mem_map,
        PageChar.of_eq_space_iff] using spacesBefore
    · refine matches_numberRe_iff.mpr ⟨by simpa using notEmpty, ?_⟩
      simpa only [List.forall_mem_map, PageChar.of_eq_digit_iff] using areDigits
    · simpa only [matches_spacesRe_iff, List.forall_mem_map,
        PageChar.of_eq_space_iff] using spacesAfter

/-- A range has one number, or two with a dash between them. -/
theorem exists_pageRange_iff
    {text : List Char} :
    (∃ range, pageRange unicodeDigit text = some range) ↔
      (∃ item, text.splitOn '-' = [item] ∧
          ∃ page, pageNumber unicodeDigit item = some page) ∨
        ∃ first second, text.splitOn '-' = [first, second] ∧
          (∃ page, pageNumber unicodeDigit first = some page) ∧
            ∃ page, pageNumber unicodeDigit second = some page := by
  unfold pageRange
  cases text.splitOn '-' with
  | nil =>
      simp
  | cons first rest =>
      cases rest with
      | nil =>
          cases isFirst : pageNumber unicodeDigit first <;> simp [isFirst]
      | cons second more =>
          cases more with
          | nil =>
              cases isFirst : pageNumber unicodeDigit first <;>
                cases isSecond : pageNumber unicodeDigit second <;>
                simp [isFirst, isSecond]
          | cons third others =>
              cases isFirst : pageNumber unicodeDigit first <;>
                cases isSecond : pageNumber unicodeDigit second <;>
                cases isThird : pageNumber unicodeDigit third <;>
                cases areOthers : others.mapM (pageNumber unicodeDigit) <;>
                simp [isFirst, isSecond, isThird, areOthers]

/-- A range between whitespace is one number or two with a dash. -/
theorem matches_padded_range :
    (spacesRe * rangeRe * spacesRe).matches' =
      (spacesRe * numberRe * spacesRe).matches' +
        (spacesRe * numberRe * spacesRe).matches' *
          ({[.dash]} * (spacesRe * numberRe * spacesRe).matches') := by
  simp only [rangeRe, matches'_mul, matches'_add, matches'_epsilon,
    matches'_char, mul_add, add_mul, mul_one, mul_assoc]

theorem matches_range_iff
    {text : List Char} :
    text.map (PageChar.of unicodeDigit) ∈
        (spacesRe * rangeRe * spacesRe).matches' ↔
      ∃ range, pageRange unicodeDigit text = some range := by
  have noDash :
      ∀ word ∈ (spacesRe * numberRe * spacesRe).matches',
        PageChar.dash ∉ word := by
    intro word matched member
    exact absurd (SeparatedWords.mem_letters matched member) (by decide)
  have split :
      (text.map (PageChar.of unicodeDigit)).splitOn .dash =
        (text.splitOn '-').map (List.map (PageChar.of unicodeDigit)) :=
    SeparatedWords.splitOn_map (fun _ => PageChar.of_eq_dash_iff) text
  rw [exists_pageRange_iff, matches_padded_range, Language.mem_add,
    SeparatedWords.mem_pair_iff noDash, split]
  refine or_congr ?_ ?_
  · constructor
    · intro matched
      have alone : '-' ∉ text := by
        intro member
        exact noDash _ matched (List.mem_map.mpr ⟨'-', member, rfl⟩)
      exact
        ⟨text, List.splitOn_eq_singleton alone,
          matches_number_iff.mp matched⟩
    · rintro ⟨item, isItem, number⟩
      have whole : ['-'].intercalate (text.splitOn '-') = text :=
        List.intercalate_splitOn '-'
      rw [isItem, List.intercalate_singleton] at whole
      rw [← whole]
      exact matches_number_iff.mpr number
  · constructor
    · rintro ⟨_, _, pieces, isFirst, isSecond⟩
      obtain ⟨first, rest, areItems, rfl, later⟩ :=
        List.map_eq_cons_iff.mp pieces
      obtain ⟨second, rfl, rfl⟩ := List.map_eq_singleton_iff.mp later
      exact
        ⟨first, second, areItems, matches_number_iff.mp isFirst,
          matches_number_iff.mp isSecond⟩
    · rintro ⟨first, second, areItems, isFirst, isSecond⟩
      rw [areItems]
      exact
        ⟨_, _, rfl, matches_number_iff.mpr isFirst,
          matches_number_iff.mpr isSecond⟩

/-- The expression repeats its range after a comma. -/
theorem matches_pagesRe :
    pagesRe.matches' =
      (spacesRe * rangeRe * spacesRe).matches' *
        ({[.comma]} * (spacesRe * rangeRe * spacesRe).matches')∗ := by
  have slide :=
    SeparatedWords.kstar_slide spacesRe.matches'
      ({[PageChar.comma]} * (spacesRe.matches' * rangeRe.matches'))
  simp only [mul_assoc] at slide
  simp only [pagesRe, matches'_mul, matches'_star, matches'_char, mul_assoc,
    slide]

/-- A text that the expression matches denotes ranges, and only such a text. -/
theorem rmatch_pagesRe_iff
    {pages : String} :
    pagesRe.rmatch (pages.toList.map (PageChar.of unicodeDigit)) = true ↔
      ∃ ranges, denotedRanges unicodeDigit pages = some ranges := by
  have noComma :
      ∀ word ∈ (spacesRe * rangeRe * spacesRe).matches',
        PageChar.comma ∉ word := by
    intro word matched member
    exact absurd (SeparatedWords.mem_letters matched member) (by decide)
  rw [rmatch_iff_matches', matches_pagesRe,
    SeparatedWords.mem_separated_iff noComma,
    SeparatedWords.splitOn_map (fun _ => PageChar.of_eq_comma_iff),
    List.forall_mem_map, denotedRanges, Json.exists_mapM_iff]
  simp only [matches_range_iff]

/-- A text that ends in a digit, apart from whitespace. -/
def EndsInDigit (word : List PageChar) : Prop :=
  ∃ before after, word = before ++ .digit :: after ∧ ∀ c ∈ after, c = .space

omit unicodeDigit in
theorem EndsInDigit.append
    {first second : List PageChar}
    (ends : EndsInDigit second) :
    EndsInDigit (first ++ second) := by
  obtain ⟨before, after, rfl, spaces⟩ := ends
  exact ⟨first ++ before, after, (List.append_assoc ..).symm, spaces⟩

theorem endsInDigit_of_number
    {word : List PageChar}
    (matched : word ∈ (spacesRe * numberRe * spacesRe).matches') :
    EndsInDigit word := by
  obtain ⟨front, isFront, trail, isTrail, rfl⟩ := Language.mem_mul.mp matched
  obtain ⟨lead, _, number, isNumber, rfl⟩ := Language.mem_mul.mp isFront
  obtain ⟨notEmpty, digits⟩ := matches_numberRe_iff.mp isNumber
  obtain ⟨before, last, rfl⟩ :=
    (List.eq_nil_or_concat number).resolve_left notEmpty
  have isDigit : last = .digit := digits last (by simp)
  subst last
  exact
    ⟨lead ++ before, trail, by simp, matches_spacesRe_iff.mp isTrail⟩

theorem endsInDigit_of_range
    {word : List PageChar}
    (matched : word ∈ (spacesRe * rangeRe * spacesRe).matches') :
    EndsInDigit word := by
  rw [matches_padded_range, Language.mem_add] at matched
  rcases matched with isNumber | isPair
  · exact endsInDigit_of_number isNumber
  · obtain ⟨_, _, rest, isRest, rfl⟩ := Language.mem_mul.mp isPair
    obtain ⟨_, _, last, isLast, rfl⟩ := Language.mem_mul.mp isRest
    exact (endsInDigit_of_number isLast).append.append

/-- The last range of a matched text stands at its end. -/
theorem endsInDigit_of_matches
    {word : List PageChar}
    (matched : word ∈ pagesRe.matches') :
    EndsInDigit word := by
  rw [matches_pagesRe] at matched
  obtain ⟨first, isFirst, rest, isRest, rfl⟩ := Language.mem_mul.mp matched
  rw [← Language.one_add_kstar_mul_self_eq_kstar, Language.mem_add] at isRest
  rcases isRest with isNothing | others
  · rw [(Language.mem_one rest).mp isNothing, List.append_nil]
    exact endsInDigit_of_range isFirst
  · obtain ⟨_, _, next, isNext, rfl⟩ := Language.mem_mul.mp others
    obtain ⟨_, _, last, isLast, rfl⟩ := Language.mem_mul.mp isNext
    exact (endsInDigit_of_range isLast).append.append.append

/-- Whitespace behind the last other character is stripped. -/
theorem exists_stripChars_concat
    {before after : List Char}
    {c : Char}
    (notSpace : ¬ isPySpace c = true)
    (spaces : ∀ d ∈ after, isPySpace d = true) :
    ∃ rest, stripChars (before ++ c :: after) = rest ++ [c] := by
  obtain ⟨kept, front⟩ :
      ∃ kept,
        (before ++ c :: after).dropWhile isPySpace = kept ++ c :: after := by
    rw [List.dropWhile_append]
    split
    · exact ⟨[], List.dropWhile_cons_of_neg notSpace⟩
    · exact ⟨_, rfl⟩
  refine ⟨kept, ?_⟩
  rw [stripChars, front, List.reverse_append, List.reverse_cons,
    List.append_assoc, List.dropWhile_append_of_pos (by
      intro d member
      exact spaces d (List.mem_reverse.mp member))]
  rw [List.singleton_append, List.dropWhile_cons_of_neg notSpace,
    List.reverse_cons, List.reverse_reverse]

/-- A digit has no case. -/
theorem toLower_of_decimalDigit
    {c : Char}
    (isDigit : (decimalDigit unicodeDigit c).isSome = true) :
    c.toLower = c := by
  unfold Char.toLower
  split
  · rename_i isUpper
    have bounds : 65 ≤ c.toNat ∧ c.toNat ≤ 90 := by
      simpa [UInt32.le_iff_toNat_le] using isUpper
    have noDigit : ¬ c.isDigit = true := by
      intro digit
      have below : c.toNat ≤ 57 := (Char.isDigit_iff_toNat.mp digit).2
      omega
    rw [decimalDigit, if_pos (by omega), if_neg noDigit] at isDigit
    cases isDigit
  · rfl

/-- A matched text has none of the forms that are excluded by name. -/
theorem not_excluded_of_rmatch
    {pages : String}
    (matched :
      pagesRe.rmatch (pages.toList.map (PageChar.of unicodeDigit)) = true) :
    String.ofList ((stripChars pages.toList).map Char.toLower) ∉
      ["all", "1-", "-"] := by
  obtain ⟨before, after, whole, spaces⟩ :=
    endsInDigit_of_matches ((rmatch_iff_matches' _ _).mp matched)
  obtain ⟨front, rest, split, rfl, ends⟩ := List.map_eq_append_iff.mp whole
  obtain ⟨c, trail, rfl, isDigit, rfl⟩ := List.map_eq_cons_iff.mp ends
  rw [PageChar.of_eq_digit_iff] at isDigit
  simp only [List.forall_mem_map, PageChar.of_eq_space_iff] at spaces
  have notSpace : ¬ isPySpace c = true := by
    intro isSpace
    rw [decimalDigit_of_isPySpace isSpace] at isDigit
    cases isDigit
  obtain ⟨kept, stripped⟩ :
      ∃ kept, stripChars (front ++ c :: trail) = kept ++ [c] :=
    exists_stripChars_concat notSpace spaces
  rw [split, stripped, List.map_append, List.map_singleton,
    toLower_of_decimalDigit isDigit]
  intro member
  -- every excluded form ends in something that is no digit
  have last : c ∈ ['l', '-', '-'] := by
    have lasts :=
      List.mem_map_of_mem (f := fun form => form.toList.getLast?) member
    simpa using lasts
  have noDigit :
      ∀ d ∈ ['l', '-', '-'], decimalDigit unicodeDigit d = none := by
    simp [decimalDigit]
  rw [noDigit c last] at isDigit
  cases isDigit

/-- The gate lets a text pass exactly when it lists pages and ranges. -/
theorem isBoundedPages_eq_true_iff
    {pages : String} :
    isBoundedPages unicodeDigit pages = true ↔
      ∃ ranges, denotedRanges unicodeDigit pages = some ranges := by
  rw [← rmatch_pagesRe_iff]
  unfold isBoundedPages
  by_cases matched :
      pagesRe.rmatch (pages.toList.map (PageChar.of unicodeDigit)) = true
  · have notExcluded := not_excluded_of_rmatch matched
    have notEmpty : pages ≠ "" := by
      rintro rfl
      obtain ⟨before, after, whole, _⟩ :=
        endsInDigit_of_matches ((rmatch_iff_matches' _ _).mp matched)
      simp at whole
    simp [matched, notEmpty, notExcluded]
  · simp [matched]

example :
    isBoundedPages (fun _ => none) " 10, 20 -25 " = true ∧
      isBoundedPages (fun _ => none) "10,,20" = false ∧
      isBoundedPages (fun _ => none) "1-" = false := by
  decide +kernel

end Matches

/-! ## How many pages pass -/

section Bounds

variable (unicodeDigit : Char → Option Nat)

/-- A text lists pages and ranges of which there are at most so many pages. -/
def DenotesAtMost (pages : String) (bound : Nat) : Prop :=
  ∃ ranges, denotedRanges unicodeDigit pages = some ranges ∧
    (IntervalCover.covered ranges).card ≤ bound

/-- A text has ranges of a limited length and a limited number of them. -/
def RangesCapped (pages : String) (cap : Nat) : Prop :=
  ∀ ranges, denotedRanges unicodeDigit pages = some ranges →
    (∀ range ∈ ranges, range.2 + 1 - range.1 ≤ cap) ∧
      (IntervalCover.forward ranges).card ≤ cap

/--
Whatever the picker may return, the texts that pass denote boundedly many pages
exactly when the ranges in them are capped, in length and in number.
-/
theorem exists_denotesAtMost_iff
    (returned : Set String) :
    (∃ bound, ∀ pages ∈ returned,
        isBoundedPages unicodeDigit pages = true →
          DenotesAtMost unicodeDigit pages bound) ↔
      ∃ cap, ∀ pages ∈ returned, RangesCapped unicodeDigit pages cap := by
  have capped :=
    IntervalCover.covered_bounded_iff
      {ranges | ∃ pages ∈ returned,
        denotedRanges unicodeDigit pages = some ranges}
  simp only [Set.mem_ofPred_eq, Nat.card_Icc] at capped
  constructor
  · rintro ⟨bound, bounded⟩
    obtain ⟨cap, isCap⟩ := capped.mp ⟨bound, by
      rintro ranges ⟨pages, isReturned, areRanges⟩
      obtain ⟨others, areOthers, few⟩ :=
        bounded pages isReturned
          (isBoundedPages_eq_true_iff.mpr ⟨ranges, areRanges⟩)
      rw [areRanges] at areOthers
      cases areOthers
      exact few⟩
    exact
      ⟨cap, fun pages isReturned ranges areRanges =>
        isCap ranges ⟨pages, isReturned, areRanges⟩⟩
  · rintro ⟨cap, isCap⟩
    obtain ⟨bound, bounded⟩ := capped.mpr ⟨cap, by
      rintro ranges ⟨pages, isReturned, areRanges⟩
      exact isCap pages isReturned ranges areRanges⟩
    refine ⟨bound, ?_⟩
    intro pages isReturned passes
    obtain ⟨ranges, areRanges⟩ := isBoundedPages_eq_true_iff.mp passes
    exact
      ⟨ranges, areRanges, bounded ranges ⟨pages, isReturned, areRanges⟩⟩

/-- Zeros have no value. -/
theorem mapM_zeros
    (count : Nat) :
    (List.replicate count '0').mapM (decimalDigit unicodeDigit) =
      some (List.replicate count 0) := by
  induction count with
  | zero =>
      rfl
  | succ count inductionHypothesis =>
      rw [List.replicate_succ, List.mapM_cons, inductionHypothesis]
      rfl

/-- Zeros behind a number multiply it by ten. -/
theorem foldl_zeros
    (count number : Nat) :
    (List.replicate count 0).foldl
        (fun number digit => 10 * number + digit) number =
      number * 10 ^ count := by
  induction count generalizing number with
  | zero =>
      exact (Nat.mul_one number).symm
  | succ count inductionHypothesis =>
      rw [List.replicate_succ, List.foldl_cons, inductionHypothesis,
        Nat.pow_succ]
      ring

/-- A one with zeros behind it is a power of ten. -/
theorem pageNumber_powerOfTen
    (exponent : Nat) :
    pageNumber unicodeDigit ('1' :: List.replicate exponent '0') =
      some (10 ^ exponent) := by
  have values :
      ('1' :: List.replicate exponent '0').mapM (decimalDigit unicodeDigit) =
        some (1 :: List.replicate exponent 0) := by
    rw [List.mapM_cons, mapM_zeros]
    rfl
  have digits :
      ∀ c ∈ '1' :: List.replicate exponent '0',
        (decimalDigit unicodeDigit c).isSome = true := by
    intro c member
    rcases List.mem_cons.mp member with rfl | isZero
    · rfl
    · rw [List.eq_of_mem_replicate isZero]
      rfl
  rw [pageNumber, stripChars_of_isTrimmed (isTrimmed_of_digits digits)]
  simp only [values, Option.map_some, List.foldl_cons, foldl_zeros]
  simp

/-- The range from the first page to a power of ten. -/
theorem denotedRanges_powerOfTen
    (exponent : Nat) :
    denotedRanges unicodeDigit
        (String.ofList ('1' :: '-' :: '1' :: List.replicate exponent '0')) =
      some [(1, 10 ^ exponent)] := by
  have noComma :
      ',' ∉ '1' :: '-' :: '1' :: List.replicate exponent '0' := by
    simp [List.mem_replicate]
  have noDash : '-' ∉ '1' :: List.replicate exponent '0' := by
    simp [List.mem_replicate]
  have split :
      ('1' :: '-' :: '1' :: List.replicate exponent '0').splitOn '-' =
        [['1'], '1' :: List.replicate exponent '0'] := by
    rw [← List.singleton_append,
      List.splitOn_append_cons_self_of_not_mem (by simp),
      List.splitOn_eq_singleton noDash]
  have isRange :
      pageRange unicodeDigit
          ('1' :: '-' :: '1' :: List.replicate exponent '0') =
        some (1, 10 ^ exponent) := by
    have isFirst := pageNumber_powerOfTen unicodeDigit 0
    rw [List.replicate_zero, Nat.pow_zero] at isFirst
    simp [pageRange, split, isFirst, pageNumber_powerOfTen]
  rw [denotedRanges, String.toList_ofList, List.splitOn_eq_singleton noComma]
  simp [isRange]

/-- No bound holds for every text that passes, whatever the digits are. -/
theorem longRanges_pass :
    ¬ ∃ (unicodeDigit : Char → Option Nat) (bound : Nat), ∀ pages,
        isBoundedPages unicodeDigit pages = true →
          DenotesAtMost unicodeDigit pages bound := by
  rintro ⟨unicodeDigit, bound, bounded⟩
  have denoted := denotedRanges_powerOfTen unicodeDigit bound
  obtain ⟨ranges, areRanges, few⟩ :=
    bounded _ (isBoundedPages_eq_true_iff.mpr ⟨_, denoted⟩)
  rw [denoted] at areRanges
  cases areRanges
  have many : bound < 10 ^ bound := Nat.lt_pow_self (by decide)
  have covers :=
    IntervalCover.card_Icc_le_card_covered
      (List.mem_singleton_self (1, 10 ^ bound))
  rw [Nat.card_Icc] at covers
  omega

end Bounds

/-! ## The ranges of a document -/

section Loop

/-- A document among those that are searched. -/
structure PdfFile where
  name : String
  stem : String
  position : Nat
  deriving Repr, DecidableEq

/-- A range as the picker returns it. -/
structure PickedRange where
  pages : String := ""
  role : String := "internal-research"
  deriving Repr, DecidableEq

/-- What the scripts make of the pages: an error, or a fragment on disk. -/
inductive Extraction where
  | failed (reason : String)
  | converted (text : Option String)
  deriving Repr, DecidableEq

variable [PythonText] (unicodeDigit : Char → Option Nat)

/-- What one picked range of a document gives. -/
def generatedItem
    (pdf : PdfFile)
    (issueId : String)
    (extractPages : String → Extraction)
    (rng : PickedRange)
    (index : Nat) : GeneratedItem :=
  let pages := strip rng.pages
  if isBoundedPages unicodeDigit pages then
    match extractPages pages with
    | .failed reason =>
        .gap
          ("internal-doc extract/convert (" ++ pages ++
            ") extraction FAILED for " ++ pdf.name ++ " issue " ++ issueId ++
            ": " ++ reason)
    | .converted text =>
        .fragment
          { referenceId :=
              pdf.stem ++ "-" ++ toString pdf.position ++ "-" ++
                toString index
            title := pdf.name
            role := rng.role
            fileName :=
              "frag_" ++ toString pdf.position ++ "_" ++ toString index ++
                ".md"
            pages := pages
            text := text }
  else
    .gap
      ("skipped unbounded/invalid page spec " ++ PythonText.quoted pages ++
        " in " ++ pdf.name)

/-- What the picked ranges of a document give, in order. -/
def tier2Generate
    (pdf : PdfFile)
    (issueId : String)
    (extractPages : String → Extraction)
    (ranges : List PickedRange) : List GeneratedItem :=
  ranges.zipIdx.map fun (rng, index) =>
    generatedItem unicodeDigit pdf issueId extractPages rng index

/-- A fragment comes from a range that passed, with the pages of the range. -/
theorem exists_of_fragment_mem
    {pdf : PdfFile}
    {issueId : String}
    {extractPages : String → Extraction}
    {ranges : List PickedRange}
    {fragment : GeneratedFragment}
    (member :
      .fragment fragment ∈
        tier2Generate unicodeDigit pdf issueId extractPages ranges) :
    ∃ rng ∈ ranges, fragment.pages = strip rng.pages ∧
      isBoundedPages unicodeDigit fragment.pages = true := by
  obtain ⟨⟨rng, index⟩, isPicked, isItem⟩ := List.mem_map.mp member
  have isRange : rng ∈ ranges := List.fst_mem_of_mem_zipIdx isPicked
  unfold generatedItem at isItem
  dsimp only at isItem
  split at isItem
  · rename_i passes
    split at isItem
    · cases isItem
    · cases isItem
      exact ⟨rng, isRange, rfl, passes⟩
  · cases isItem

/-- Where the picked ranges are capped, so is every fragment. -/
theorem fragment_denotesAtMost
    {pdf : PdfFile}
    {issueId : String}
    {extractPages : String → Extraction}
    {ranges : List PickedRange}
    {cap : Nat}
    (capped :
      ∀ rng ∈ ranges, RangesCapped unicodeDigit (strip rng.pages) cap)
    {fragment : GeneratedFragment}
    (member :
      .fragment fragment ∈
        tier2Generate unicodeDigit pdf issueId extractPages ranges) :
    DenotesAtMost unicodeDigit fragment.pages (cap * cap) := by
  obtain ⟨rng, isRange, samePages, passes⟩ :=
    exists_of_fragment_mem unicodeDigit member
  obtain ⟨denoted, areDenoted⟩ := isBoundedPages_eq_true_iff.mp passes
  obtain ⟨short, few⟩ :=
    capped rng isRange denoted (samePages ▸ areDenoted)
  refine ⟨denoted, areDenoted, ?_⟩
  have spans :
      ∀ range ∈ denoted, (Finset.Icc range.1 range.2).card ≤ cap := by
    intro range isDenoted
    rw [Nat.card_Icc]
    exact short range isDenoted
  exact
    (IntervalCover.card_covered_le spans).trans (Nat.mul_le_mul_right cap few)

end Loop

end InternalDoc

end ResearchCos
