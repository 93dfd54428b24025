import Mathlib.Algebra.Order.Floor.Ring
import Mathlib.Data.List.TakeWhile
import Mathlib.Data.Rat.Floor

namespace ResearchCos

/-!
# Text primitives

The string operations of the program.  Whitespace, splitting, joining and
zero-padding are defined here.  Case conversion over all of Unicode and URL
splitting are library tables of the host language; they enter as the class
`PythonText`, so every result holds for any casing.
-/

/-- The five components of a split URL. -/
structure UrlParts where
  scheme : String
  netloc : String
  path : String
  query : String
  fragment : String
  deriving Repr, DecidableEq

/-- Library text tables of the host language. -/
class PythonText where
  /-- Lower-casing of a whole text. -/
  lower : List Char → List Char
  /-- Upper-casing of a whole text. -/
  upper : List Char → List Char
  /-- URL splitting; `none` when the library raises. -/
  urlsplit : String → Option UrlParts
  /-- Reassembly of a split URL. -/
  urlunsplit : UrlParts → String
  /-- A text between quotes, as it is shown in messages. -/
  quoted : String → String

/-- The tables restricted to ASCII, enough to evaluate ASCII inputs. -/
@[reducible] def PythonText.ascii : PythonText where
  lower := List.map Char.toLower
  upper := List.map Char.toUpper
  urlsplit := fun _ => none
  urlunsplit := fun parts => parts.path
  quoted := fun text => "'" ++ text ++ "'"

/-- The characters that count as whitespace. -/
def isPySpace (c : Char) : Bool :=
  c.toNat ∈
    [0x09, 0x0A, 0x0B, 0x0C, 0x0D, 0x1C, 0x1D, 0x1E, 0x1F, 0x20, 0x85, 0xA0,
      0x1680, 0x2000, 0x2001, 0x2002, 0x2003, 0x2004, 0x2005, 0x2006, 0x2007,
      0x2008, 0x2009, 0x200A, 0x2028, 0x2029, 0x202F, 0x205F, 0x3000]

/-- The characters that end a line. -/
def isLineBreak (c : Char) : Bool :=
  c.toNat ∈
    [0x0A, 0x0B, 0x0C, 0x0D, 0x1C, 0x1D, 0x1E, 0x85, 0x2028, 0x2029]

/-- Drop whitespace at both ends. -/
def stripChars (text : List Char) : List Char :=
  ((text.dropWhile isPySpace).reverse.dropWhile isPySpace).reverse

/-- Drop whitespace at both ends of a string. -/
def strip (text : String) : String :=
  String.ofList (stripChars text.toList)

/-- A text that neither begins nor ends with whitespace. -/
def IsTrimmed (text : List Char) : Prop :=
  (∀ c ∈ text.head?, isPySpace c = false) ∧
    ∀ c ∈ text.getLast?, isPySpace c = false

/-- What is left of a text begins with no dropped character. -/
private theorem head?_dropWhile_isPySpace
    {text : List Char}
    {c : Char}
    (first : c ∈ (text.dropWhile isPySpace).head?) :
    isPySpace c = false := by
  have stopped := List.head?_dropWhile_not isPySpace text
  rw [Option.mem_def] at first
  rw [first] at stopped
  exact stopped

/-- A stripped text is trimmed. -/
theorem isTrimmed_stripChars
    (text : List Char) :
    IsTrimmed (stripChars text) := by
  constructor
  · intro c first
    obtain ⟨dropped, split⟩ :
        (text.dropWhile isPySpace).reverse.dropWhile isPySpace <:+
          (text.dropWhile isPySpace).reverse :=
      List.dropWhile_suffix isPySpace
    have whole :
        stripChars text ++ dropped.reverse = text.dropWhile isPySpace := by
      rw [stripChars, ← List.reverse_append, split, List.reverse_reverse]
    have leads : c ∈ (text.dropWhile isPySpace).head? := by
      rw [← whole, List.head?_append, Option.mem_def.mp first]
      rfl
    exact head?_dropWhile_isPySpace leads
  · intro c last
    rw [stripChars, List.getLast?_reverse] at last
    exact head?_dropWhile_isPySpace last

/-- Whitespace in front of a trimmed text is not part of it. -/
private theorem infix_dropWhile
    {needle text : List Char}
    (leading : ∀ c ∈ needle.head?, isPySpace c = false)
    (occurs : needle <:+: text) :
    needle <:+: text.dropWhile isPySpace := by
  obtain ⟨before, after, rfl⟩ := occurs
  induction before with
  | nil =>
      cases needle with
      | nil =>
          exact List.nil_infix
      | cons c rest =>
          have kept := leading c rfl
          rw [List.nil_append, List.cons_append, List.dropWhile_cons, kept]
          exact (List.prefix_append (c :: rest) after).isInfix
  | cons b before inductionHypothesis =>
      rw [List.cons_append, List.cons_append, List.dropWhile_cons]
      split
      · exact inductionHypothesis
      · exact ⟨b :: before, after, rfl⟩

/-- A trimmed text that occurs in a text occurs in it after stripping. -/
theorem infix_stripChars
    {needle text : List Char}
    (trimmed : IsTrimmed needle)
    (occurs : needle <:+: text) :
    needle <:+: stripChars text := by
  have inRest := infix_dropWhile trimmed.1 occurs
  rw [← List.reverse_infix] at inRest
  have inBoth := infix_dropWhile (by
    intro c last
    rw [List.head?_reverse] at last
    exact trimmed.2 c last) inRest
  rw [← List.reverse_infix, List.reverse_reverse] at inBoth
  exact inBoth

/-- Stripping leaves a trimmed text as it is. -/
theorem stripChars_of_isTrimmed
    {text : List Char}
    (trimmed : IsTrimmed text) :
    stripChars text = text := by
  have whole := infix_stripChars trimmed (List.infix_refl text)
  have noLonger : (stripChars text).length ≤ text.length := by
    rw [stripChars, List.length_reverse]
    refine (List.dropWhile_sublist _).length_le.trans ?_
    rw [List.length_reverse]
    exact (List.dropWhile_sublist _).length_le
  exact (whole.eq_of_length_le noLonger).symm

/-- Stripping keeps a contiguous piece of a text. -/
theorem stripChars_isInfix
    (text : List Char) :
    stripChars text <:+: text := by
  have front :
      stripChars text <+: text.dropWhile isPySpace := by
    rw [stripChars, ← List.reverse_suffix, List.reverse_reverse]
    exact List.dropWhile_suffix isPySpace
  exact front.isInfix.trans (List.dropWhile_suffix isPySpace).isInfix

/-- Nothing is left of a text exactly when it is whitespace. -/
theorem stripChars_eq_nil_iff
    {text : List Char} :
    stripChars text = [] ↔ ∀ c ∈ text, isPySpace c = true := by
  constructor
  · intro nothing
    rw [stripChars, List.reverse_eq_nil_iff, List.dropWhile_eq_nil_iff]
      at nothing
    intro c member
    by_contra notSpace
    have atFront : text.dropWhile isPySpace ≠ [] := by
      intro allDropped
      exact notSpace (List.dropWhile_eq_nil_iff.mp allDropped c member)
    have first :=
      nothing _ (List.mem_reverse.mpr (List.head_mem atFront))
    exact absurd first (by
      simp [List.head_dropWhile_not isPySpace atFront])
  · intro blank
    rw [stripChars, List.dropWhile_eq_nil_iff.mpr blank]
    rfl

/-- A text is what stripping leaves, between whitespace. -/
theorem exists_padding
    (text : List Char) :
    ∃ before after, text = before ++ (stripChars text ++ after) ∧
      (∀ c ∈ before, isPySpace c = true) ∧
        ∀ c ∈ after, isPySpace c = true := by
  let front := text.dropWhile isPySpace
  refine
    ⟨text.takeWhile isPySpace, (front.reverse.takeWhile isPySpace).reverse,
      ?_, fun c member => List.mem_takeWhile_imp member, ?_⟩
  · have whole : stripChars text ++
        (front.reverse.takeWhile isPySpace).reverse = front := by
      rw [stripChars, ← List.reverse_append, List.takeWhile_append_dropWhile,
        List.reverse_reverse]
    rw [whole, List.takeWhile_append_dropWhile]
  · intro c member
    exact List.mem_takeWhile_imp (List.mem_reverse.mp member)

/-- Stripping takes the whitespace around a trimmed text away. -/
theorem stripChars_pad
    {before middle after : List Char}
    (spacesBefore : ∀ c ∈ before, isPySpace c = true)
    (trimmed : IsTrimmed middle)
    (spacesAfter : ∀ c ∈ after, isPySpace c = true) :
    stripChars (before ++ (middle ++ after)) = middle := by
  rw [stripChars, List.dropWhile_append_of_pos spacesBefore]
  cases middle with
  | nil =>
      rw [List.nil_append, List.dropWhile_eq_nil_iff.mpr spacesAfter]
      rfl
  | cons c rest =>
      have notSpace : ¬ isPySpace c = true := by
        rw [trimmed.1 c rfl]
        exact Bool.false_ne_true
      rw [List.cons_append, List.dropWhile_cons_of_neg notSpace,
        ← List.cons_append, List.reverse_append,
        List.dropWhile_append_of_pos (by
          intro d member
          exact spacesAfter d (List.mem_reverse.mp member))]
      have whole := stripChars_of_isTrimmed trimmed
      rw [stripChars, List.dropWhile_cons_of_neg notSpace] at whole
      exact whole

/-- Maximal runs of characters that are not separators. -/
def wordsBy (separator : Char → Bool) (text : List Char) : List (List Char) :=
  (text.splitOnP separator).filter fun word => !word.isEmpty

/-- Single spaces between the whitespace-separated words. -/
def squeeze (text : List Char) : List Char :=
  [' '].intercalate (wordsBy isPySpace text)

/-- Whether a text occurs contiguously inside another one. -/
def occursIn (needle text : List Char) : Bool :=
  text.tails.any fun suffix => needle.isPrefixOf suffix

/-- Whether a string occurs contiguously inside another one. -/
def isSubstring (needle text : String) : Bool :=
  occursIn needle.toList text.toList

/-- A line feed with the carriage return directly before it is one break. -/
def joinBreaks : List Char → List Char
  | '\r' :: '\n' :: rest => '\n' :: joinBreaks rest
  | c :: rest => c :: joinBreaks rest
  | [] => []

/-- Lines of a text. -/
def splitlines : List Char → List (List Char)
  | [] => []
  | text@(_ :: _) =>
      let pieces := (joinBreaks text).splitOnP isLineBreak
      if pieces.getLast? = some [] then pieces.dropLast else pieces

/-- A piece of a split text is part of it and has no separator. -/
private theorem infix_of_mem_splitOnP
    {separator : Char → Bool}
    {text piece : List Char}
    (member : piece ∈ text.splitOnP separator) :
    piece <:+: text ∧ ∀ c ∈ piece, separator c = false := by
  suffices pieces :
      ∃ first others, text.splitOnP separator = first :: others ∧
        (first <+: text ∧ ∀ c ∈ first, separator c = false) ∧
        ∀ other ∈ others, other <:+: text ∧ ∀ c ∈ other, separator c = false by
    obtain ⟨first, others, split, leads, inside⟩ := pieces
    rw [split, List.mem_cons] at member
    rcases member with rfl | isOther
    · exact ⟨leads.1.isInfix, leads.2⟩
    · exact inside piece isOther
  clear member
  induction text with
  | nil =>
      exact ⟨[], [], List.splitOnP_nil, by simp, by simp⟩
  | cons c rest inductionHypothesis =>
      obtain ⟨first, others, split, leads, inside⟩ := inductionHypothesis
      have insideToo :
          ∀ other ∈ others,
            other <:+: c :: rest ∧ ∀ d ∈ other, separator d = false :=
        fun other isOther =>
          ⟨(inside other isOther).1.trans (List.suffix_cons c rest).isInfix,
            (inside other isOther).2⟩
      rw [List.splitOnP_cons_eq_if_modifyHead, split]
      split
      · refine ⟨[], first :: others, rfl, by simp, ?_⟩
        intro other isOther
        rcases List.mem_cons.mp isOther with rfl | isOther
        · exact
            ⟨leads.1.isInfix.trans (List.suffix_cons c rest).isInfix, leads.2⟩
        · exact insideToo other isOther
      · rename_i goesOn
        refine ⟨c :: first, others, rfl, ⟨?_, ?_⟩, insideToo⟩
        · exact (List.cons_prefix_cons).mpr ⟨rfl, leads.1⟩
        · simpa [goesOn] using leads.2

/-- A piece without a line feed was one before the breaks were joined. -/
private theorem infix_of_infix_joinBreaks
    {piece text : List Char}
    (oneLine : '\n' ∉ piece) :
    (piece <+: joinBreaks text → piece <+: text) ∧
      (piece <:+: joinBreaks text → piece <:+: text) := by
  induction text using joinBreaks.induct generalizing piece with
  | case1 rest inductionHypothesis =>
      have isEmpty :
          piece <+: '\n' :: joinBreaks rest → piece = [] := by
        intro leads
        rcases List.prefix_cons_iff.mp leads with nothing | ⟨others, rfl, _⟩
        · exact nothing
        · exact absurd List.mem_cons_self oneLine
      rw [joinBreaks]
      constructor
      · intro leads
        rw [isEmpty leads]
        exact List.nil_prefix
      · intro inside
        rcases List.infix_cons_iff.mp inside with leads | inside
        · rw [isEmpty leads]
          exact List.nil_infix
        · exact
            ((inductionHypothesis oneLine).2 inside).trans
              (List.suffix_append ['\r', '\n'] rest).isInfix
  | case2 c rest noBreak inductionHypothesis =>
      have leadsToo :
          piece <+: c :: joinBreaks rest → piece <+: c :: rest := by
        intro leads
        rcases List.prefix_cons_iff.mp leads with rfl | ⟨others, rfl, later⟩
        · exact List.nil_prefix
        · have othersOneLine : '\n' ∉ others :=
            fun member => oneLine (List.mem_cons_of_mem c member)
          exact
            List.cons_prefix_cons.mpr
              ⟨rfl, (inductionHypothesis othersOneLine).1 later⟩
      rw [joinBreaks.eq_2 c rest noBreak]
      refine ⟨leadsToo, ?_⟩
      intro inside
      rcases List.infix_cons_iff.mp inside with leads | inside
      · exact (leadsToo leads).isInfix
      · exact
          ((inductionHypothesis oneLine).2 inside).trans
            (List.suffix_cons c rest).isInfix
  | case3 =>
      exact ⟨id, id⟩

/-- A line of a text is a contiguous piece of it. -/
theorem infix_of_mem_splitlines
    {text line : List Char}
    (member : line ∈ splitlines text) :
    line <:+: text := by
  have isPiece : line ∈ (joinBreaks text).splitOnP isLineBreak := by
    cases text with
    | nil =>
        cases member
    | cons c rest =>
        rw [splitlines] at member
        split at member
        · exact List.dropLast_subset _ member
        · exact member
  obtain ⟨inside, noBreak⟩ := infix_of_mem_splitOnP isPiece
  exact
    (infix_of_infix_joinBreaks fun lineFeed => by
      have breaks := noBreak '\n' lineFeed
      revert breaks
      decide).2 inside

example : splitlines "a\r\nb\n".toList = ["a".toList, "b".toList] := by
  decide

/-- A value of an optional string field that counts as set. -/
def isSet (field : Option String) : Bool :=
  match field with
  | none => false
  | some text => text ≠ ""

/-- The text of an optional field, or a default when it is unset or empty. -/
def orDefault (field : Option String) (fallback : String) : String :=
  match field with
  | none => fallback
  | some text => if text = "" then fallback else text

/-- Decimal digits padded with zeros to at least three places. -/
def pad3 (n : Nat) : String :=
  String.ofList
    (List.replicate (3 - (toString n).length) '0' ++ (toString n).toList)

/-- The padded digits read back as the number. -/
private theorem ofDigitChars_pad3
    (n : Nat) :
    Nat.ofDigitChars 10 (pad3 n).toList 0 = n := by
  simp [pad3, Nat.ofDigitChars_append]

/-- Different numbers have different padded digits. -/
theorem pad3_injective : Function.Injective pad3 := by
  intro first second same
  have readBack := ofDigitChars_pad3 first
  rw [same, ofDigitChars_pad3] at readBack
  exact readBack.symm

/-- Padded digits are digits. -/
theorem isDigit_of_mem_pad3
    {c : Char}
    {n : Nat}
    (member : c ∈ (pad3 n).toList) :
    c.isDigit = true := by
  simp only [pad3, String.toList_ofList, List.mem_append] at member
  rcases member with zero | digit
  · rw [List.eq_of_mem_replicate zero]
    rfl
  · have ofDigits : c ∈ Nat.toDigits 10 n := by
      simpa using digit
    exact Nat.isDigit_of_mem_toDigits (by decide) (by decide) ofDigits

/-- A line occurs in the text that joins it with others. -/
theorem infix_intercalate
    {line : String}
    {lines : List String}
    (separator : String)
    (member : line ∈ lines) :
    line.toList <:+: (separator.intercalate lines).toList := by
  induction lines with
  | nil =>
      simp at member
  | cons head rest inductionHypothesis =>
      rcases List.mem_cons.mp member with isHead | inRest
      · subst head
        cases rest with
        | nil =>
            simp
        | cons next later =>
            rw [String.intercalate_cons_cons]
            simp only [String.toList_append, List.append_assoc]
            exact (List.prefix_append _ _).isInfix
      · have nonempty : rest ≠ [] := List.ne_nil_of_mem inRest
        rw [String.intercalate_cons_of_ne_nil nonempty]
        simp only [String.toList_append]
        exact (inductionHypothesis inRest).trans
          (List.suffix_append _ _).isInfix

/-- Nearest integer, ties to the even neighbour. -/
def roundHalfEven (q : ℚ) : Int :=
  let below := ⌊q⌋
  let excess := q - below
  if excess < 1 / 2 then
    below
  else if 1 / 2 < excess then
    below + 1
  else if below % 2 = 0 then
    below
  else
    below + 1

/-- Rounding does not leave an interval between integers. -/
theorem roundHalfEven_between
    {low high : Int}
    {q : ℚ}
    (atLeast : (low : ℚ) ≤ q)
    (atMost : q ≤ high) :
    low ≤ roundHalfEven q ∧ roundHalfEven q ≤ high := by
  have lowFloor : low ≤ ⌊q⌋ := Int.le_floor.mpr atLeast
  have floorHigh : ⌊q⌋ ≤ high := by
    exact_mod_cast (Int.floor_le q).trans atMost
  -- rounding up needs an excess, and there is none at the upper end
  have floorBelow : 1 / 2 ≤ q - ⌊q⌋ → ⌊q⌋ < high := by
    intro excess
    refine lt_of_le_of_ne floorHigh fun same => ?_
    rw [same] at excess
    linarith
  simp only [roundHalfEven]
  split
  · exact ⟨lowFloor, floorHigh⟩
  · rename_i notBelow
    have above := floorBelow (not_lt.mp notBelow)
    repeat' split
    all_goals omega

/-- Fixed-point rendering of a nonnegative number. -/
def formatFixed (digits : Nat) (q : ℚ) : String :=
  let scaled := (roundHalfEven (q * 10 ^ digits)).toNat
  if digits = 0 then
    toString scaled
  else
    let fraction := toString (scaled % 10 ^ digits)
    toString (scaled / 10 ^ digits) ++ "." ++
      String.ofList (List.replicate (digits - fraction.length) '0') ++ fraction

/-- A lower-case ASCII letter or a digit. -/
def isWordChar (c : Char) : Bool :=
  ('a' ≤ c && c ≤ 'z') || ('0' ≤ c && c ≤ '9')

section Casing

variable [PythonText]

/-- Lower-cased characters of a string. -/
def lowerChars (text : String) : List Char :=
  PythonText.lower text.toList

/-- Upper-cased characters of a string. -/
def upperChars (text : String) : List Char :=
  PythonText.upper text.toList

/-- Stripped and lower-cased text, the form in which quotes are compared. -/
def normalizedQuote (text : String) : List Char :=
  PythonText.lower (strip text).toList

/-- Lower-cased words of more than two letters or digits. -/
def tokenize (text : String) : List (List Char) :=
  (wordsBy (fun c => !isWordChar c) (lowerChars text)).filter fun word =>
    decide (2 < word.length)

end Casing

end ResearchCos
