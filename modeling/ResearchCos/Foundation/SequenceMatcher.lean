import Mathlib.Algebra.Order.Ring.Rat
import Mathlib.Data.List.Infix
import Mathlib.Tactic.Linarith
import Mathlib.Tactic.Positivity

namespace Foundation.SequenceMatcher

open List

/-!
# Longest-block sequence matching

The block matcher behind a `difflib`-style similarity ratio.  The longest
common block of two sequences is taken, the two remainders on its left and on
its right are matched the same way, and the ratio is `2 * M / T` for the total
size `M` of the blocks and the total length `T` of the sequences.

A popularity filter may exclude elements of the second sequence from starting
or continuing a block; a block found without them is then extended over equal
neighbours.  With the filter switched off the extension changes nothing.
-/

variable {α : Type} [DecidableEq α]

/-- A pair of equal segments: their two start offsets and their common size. -/
structure Block where
  a : Nat
  b : Nat
  size : Nat
  deriving Repr, DecidableEq

/-- Length of the common prefix that avoids popular elements. -/
def runLength (popular : α → Bool) : List α → List α → Nat
  | x :: xs, y :: ys =>
      if x = y ∧ popular y = false then runLength popular xs ys + 1 else 0
  | _, _ => 0

/-- Length of the common prefix. -/
def commonPrefixLength (xs ys : List α) : Nat :=
  runLength (fun _ => false) xs ys

/-- Every pair of start offsets with the run that begins there. -/
def candidates (popular : α → Bool) (xs ys : List α) : List Block :=
  (List.range xs.length).flatMap fun i =>
    (List.range ys.length).map fun j =>
      { a := i, b := j
        size := runLength popular (xs.drop i) (ys.drop j) }

/-- Keep the earlier block unless the later one is strictly longer. -/
def longer (best candidate : Block) : Block :=
  if best.size < candidate.size then candidate else best

/-- The longest run; ties go to the earliest start in `xs`, then in `ys`. -/
def longestRun (popular : α → Bool) (xs ys : List α) : Block :=
  (candidates popular xs ys).foldl longer { a := 0, b := 0, size := 0 }

/-- Grow a block to the left while the preceding elements agree. -/
def extendLeft (xs ys : List α) : Nat → Nat → Nat → Block
  | i + 1, j + 1, size =>
      if xs[i]? = ys[j]? then
        extendLeft xs ys i j (size + 1)
      else
        { a := i + 1, b := j + 1, size := size }
  | i, j, size => { a := i, b := j, size := size }

/-- Grow a block to the right while the following elements agree. -/
def extendRight (xs ys : List α) (block : Block) : Block where
  a := block.a
  b := block.b
  size :=
    block.size +
      commonPrefixLength
        (xs.drop (block.a + block.size)) (ys.drop (block.b + block.size))

/-- The longest matching block of two sequences. -/
def findLongestMatch (popular : α → Bool) (xs ys : List α) : Block :=
  let run := longestRun popular xs ys
  extendRight xs ys (extendLeft xs ys run.a run.b run.size)

/--
The matching blocks in order: the longest one, with the blocks of the two
remainders around it.  Every block shortens the first sequence, so its length
is enough fuel.
-/
def blocksFrom (popular : α → Bool) :
    Nat → Nat → Nat → List α → List α → List Block
  | 0, _, _, _, _ => []
  | fuel + 1, offsetA, offsetB, xs, ys =>
      let found := findLongestMatch popular xs ys
      if found.size = 0 then
        []
      else
        blocksFrom popular fuel offsetA offsetB
            (xs.take found.a) (ys.take found.b) ++
          { a := offsetA + found.a, b := offsetB + found.b
            size := found.size } ::
          blocksFrom popular fuel
            (offsetA + found.a + found.size)
            (offsetB + found.b + found.size)
            (xs.drop (found.a + found.size))
            (ys.drop (found.b + found.size))

/-- Join blocks that touch in both sequences. -/
def collapseAdjacent : Block → List Block → List Block
  | current, [] => if current.size = 0 then [] else [current]
  | current, block :: rest =>
      if current.a + current.size = block.a ∧
          current.b + current.size = block.b then
        collapseAdjacent
          { current with size := current.size + block.size } rest
      else
        (if current.size = 0 then [] else [current]) ++
          collapseAdjacent block rest

/-- The automatic filter: elements filling over one percent of a long sequence. -/
def autoPopular (autojunk : Bool) (ys : List α) (y : α) : Bool :=
  autojunk && decide (200 ≤ ys.length) &&
    decide (ys.length / 100 + 1 < ys.count y)

/-- All matching blocks, closed by the empty block at the two ends. -/
def matchingBlocks (autojunk : Bool) (xs ys : List α) : List Block :=
  collapseAdjacent { a := 0, b := 0, size := 0 }
      (blocksFrom (autoPopular autojunk ys) xs.length 0 0 xs ys) ++
    [{ a := xs.length, b := ys.length, size := 0 }]

/-- Total size of a list of blocks. -/
def totalSize (blocks : List Block) : Nat :=
  (blocks.map Block.size).sum

/-- Similarity of two sequences: `2 * M / T`, and one for two empty ones. -/
def ratio (autojunk : Bool) (xs ys : List α) : ℚ :=
  if xs.length + ys.length = 0 then
    1
  else
    2 * (totalSize (matchingBlocks autojunk xs ys) : ℚ) /
      ((xs.length + ys.length : Nat) : ℚ)

/-! ## Blocks are equal segments -/

/-- A block names equal segments inside both sequences. -/
structure IsBlock (xs ys : List α) (block : Block) : Prop where
  insideA : block.a + block.size ≤ xs.length
  insideB : block.b + block.size ≤ ys.length
  segmentsAgree :
    (xs.drop block.a).take block.size = (ys.drop block.b).take block.size

omit [DecidableEq α] in
/-- The empty block at the origin names equal segments. -/
theorem isBlock_origin
    (xs ys : List α) :
    IsBlock xs ys { a := 0, b := 0, size := 0 } where
  insideA := by simp
  insideB := by simp
  segmentsAgree := by simp

/-- The run length is a common prefix length of both sequences. -/
theorem runLength_spec
    (popular : α → Bool)
    (xs ys : List α) :
    runLength popular xs ys ≤ xs.length ∧
      runLength popular xs ys ≤ ys.length ∧
      xs.take (runLength popular xs ys) =
        ys.take (runLength popular xs ys) := by
  induction xs generalizing ys with
  | nil =>
      simp [runLength]
  | cons x rest inductionHypothesis =>
      cases ys with
      | nil =>
          simp [runLength]
      | cons y later =>
          unfold runLength
          split
          · rename_i agrees
            obtain ⟨withinX, withinY, prefixes⟩ := inductionHypothesis later
            refine ⟨by simpa using withinX, by simpa using withinY, ?_⟩
            simp [agrees.1, prefixes]
          · simp

/-- Every candidate names equal segments. -/
theorem isBlock_of_mem_candidates
    {popular : α → Bool}
    {xs ys : List α}
    {block : Block}
    (member : block ∈ candidates popular xs ys) :
    IsBlock xs ys block := by
  simp only [candidates, List.mem_flatMap, List.mem_range,
    List.mem_map] at member
  obtain ⟨i, iInside, j, jInside, rfl⟩ := member
  obtain ⟨withinX, withinY, prefixes⟩ :=
    runLength_spec popular (xs.drop i) (ys.drop j)
  simp only [List.length_drop] at withinX withinY
  exact
    { insideA := by
        change i + runLength popular (xs.drop i) (ys.drop j) ≤ xs.length
        omega
      insideB := by
        change j + runLength popular (xs.drop i) (ys.drop j) ≤ ys.length
        omega
      segmentsAgree := prefixes }

/-- Folding `longer` returns its start or one of the candidates. -/
theorem foldl_longer_mem
    (blocks : List Block)
    (start : Block) :
    blocks.foldl longer start = start ∨
      blocks.foldl longer start ∈ blocks := by
  induction blocks generalizing start with
  | nil =>
      exact Or.inl rfl
  | cons block rest inductionHypothesis =>
      have kept : longer start block = start ∨ longer start block = block := by
        unfold longer
        split
        · exact Or.inr rfl
        · exact Or.inl rfl
      simp only [List.foldl_cons, List.mem_cons]
      rcases inductionHypothesis (longer start block) with
          unchanged | inRest
      · rw [unchanged]
        rcases kept with isStart | isBlock
        · exact Or.inl isStart
        · exact Or.inr (Or.inl isBlock)
      · exact Or.inr (Or.inr inRest)

/-- The longest run names equal segments. -/
theorem isBlock_longestRun
    (popular : α → Bool)
    (xs ys : List α) :
    IsBlock xs ys (longestRun popular xs ys) := by
  rcases foldl_longer_mem (candidates popular xs ys)
      { a := 0, b := 0, size := 0 } with isOrigin | member
  · unfold longestRun
    rw [isOrigin]
    exact isBlock_origin xs ys
  · exact isBlock_of_mem_candidates member

omit [DecidableEq α] in
/-- A segment preceded by equal elements extends one position to the left. -/
theorem isBlock_grow_left
    {xs ys : List α}
    {i j size : Nat}
    (block : IsBlock xs ys { a := i + 1, b := j + 1, size := size })
    (agrees : xs[i]? = ys[j]?) :
    IsBlock xs ys { a := i, b := j, size := size + 1 } := by
  have insideA : i + 1 + size ≤ xs.length := block.insideA
  have insideB : j + 1 + size ≤ ys.length := block.insideB
  have iInside : i < xs.length := by omega
  have jInside : j < ys.length := by omega
  have sameElement : xs[i] = ys[j] := by
    simpa [iInside, jInside] using agrees
  refine
    { insideA := by
        change i + (size + 1) ≤ xs.length
        omega
      insideB := by
        change j + (size + 1) ≤ ys.length
        omega
      segmentsAgree := ?_ }
  simp only [List.drop_eq_getElem_cons iInside,
    List.drop_eq_getElem_cons jInside, List.take_succ_cons,
    sameElement, List.cons.injEq, true_and]
  exact block.segmentsAgree

/-- Growing to the left keeps the segments equal. -/
theorem isBlock_extendLeft
    {xs ys : List α}
    {i j size : Nat}
    (block : IsBlock xs ys { a := i, b := j, size := size }) :
    IsBlock xs ys (extendLeft xs ys i j size) := by
  induction i generalizing j size with
  | zero =>
      simpa [extendLeft] using block
  | succ i inductionHypothesis =>
      cases j with
      | zero =>
          simpa [extendLeft] using block
      | succ j =>
          unfold extendLeft
          split
          · rename_i agrees
            exact inductionHypothesis (isBlock_grow_left block agrees)
          · exact block

/-- Growing to the right keeps the segments equal. -/
theorem isBlock_extendRight
    {xs ys : List α}
    {block : Block}
    (isBlock : IsBlock xs ys block) :
    IsBlock xs ys (extendRight xs ys block) := by
  obtain ⟨withinX, withinY, prefixes⟩ :=
    runLength_spec (fun _ => false)
      (xs.drop (block.a + block.size)) (ys.drop (block.b + block.size))
  have insideA := isBlock.insideA
  have insideB := isBlock.insideB
  simp only [List.length_drop] at withinX withinY
  refine
    { insideA := by
        simp only [extendRight, commonPrefixLength]
        omega
      insideB := by
        simp only [extendRight, commonPrefixLength]
        omega
      segmentsAgree := ?_ }
  simp only [extendRight, commonPrefixLength]
  rw [List.take_add, List.take_add, List.drop_drop, List.drop_drop,
    isBlock.segmentsAgree]
  exact congrArg _ prefixes

/-- The longest match names equal segments. -/
theorem isBlock_findLongestMatch
    (popular : α → Bool)
    (xs ys : List α) :
    IsBlock xs ys (findLongestMatch popular xs ys) :=
  isBlock_extendRight
    (isBlock_extendLeft (isBlock_longestRun popular xs ys))

/-! ## Blocks form a common subsequence -/

/-- The total size of blocks around one block. -/
theorem totalSize_append_cons
    (left right : List Block)
    (block : Block) :
    totalSize (left ++ block :: right) =
      totalSize left + block.size + totalSize right := by
  simp [totalSize]
  omega

/-- The blocks spell a common subsequence of their total size. -/
theorem blocksFrom_commonSubsequence
    (popular : α → Bool)
    (fuel offsetA offsetB : Nat)
    (xs ys : List α) :
    ∃ common,
      common <+ xs ∧
        common <+ ys ∧
        common.length =
          totalSize (blocksFrom popular fuel offsetA offsetB xs ys) := by
  induction fuel generalizing offsetA offsetB xs ys with
  | zero =>
      exact ⟨[], by simp, by simp, by simp [blocksFrom, totalSize]⟩
  | succ fuel inductionHypothesis =>
      simp only [blocksFrom]
      set found := findLongestMatch popular xs ys with foundShape
      split
      · exact ⟨[], by simp, by simp, by simp [totalSize]⟩
      · have isBlock : IsBlock xs ys found :=
          isBlock_findLongestMatch popular xs ys
        obtain ⟨left, leftX, leftY, leftLength⟩ :=
          inductionHypothesis offsetA offsetB
            (xs.take found.a) (ys.take found.b)
        obtain ⟨right, rightX, rightY, rightLength⟩ :=
          inductionHypothesis
            (offsetA + found.a + found.size)
            (offsetB + found.b + found.size)
            (xs.drop (found.a + found.size))
            (ys.drop (found.b + found.size))
        have splitX :
            xs =
              xs.take found.a ++
                ((xs.drop found.a).take found.size ++
                  xs.drop (found.a + found.size)) := by
          rw [← List.drop_drop, List.take_append_drop,
            List.take_append_drop]
        have splitY :
            ys =
              ys.take found.b ++
                ((ys.drop found.b).take found.size ++
                  ys.drop (found.b + found.size)) := by
          rw [← List.drop_drop, List.take_append_drop,
            List.take_append_drop]
        have segmentLength :
            ((xs.drop found.a).take found.size).length = found.size := by
          have inside := isBlock.insideA
          simp only [List.length_take, List.length_drop]
          omega
        refine
          ⟨left ++ ((xs.drop found.a).take found.size ++ right),
            ?_, ?_, ?_⟩
        · have joined :=
            leftX.append
              ((List.Sublist.refl
                ((xs.drop found.a).take found.size)).append rightX)
          rwa [← splitX] at joined
        · have joined :=
            leftY.append
              ((List.Sublist.refl
                ((ys.drop found.b).take found.size)).append rightY)
          rwa [← splitY, ← isBlock.segmentsAgree] at joined
        · rw [totalSize_append_cons, List.length_append,
            List.length_append, segmentLength, leftLength, rightLength]
          simp only
          omega

/-- Joining touching blocks keeps the total size. -/
theorem totalSize_collapseAdjacent
    (current : Block)
    (blocks : List Block) :
    totalSize (collapseAdjacent current blocks) =
      current.size + totalSize blocks := by
  induction blocks generalizing current with
  | nil =>
      unfold collapseAdjacent
      split <;> simp_all [totalSize]
  | cons block rest inductionHypothesis =>
      unfold collapseAdjacent
      split
      · rw [inductionHypothesis]
        simp [totalSize]
        omega
      · have appended :
            totalSize
                ((if current.size = 0 then [] else [current]) ++
                  collapseAdjacent block rest) =
              current.size + totalSize (collapseAdjacent block rest) := by
          split <;> simp_all [totalSize]
        rw [appended, inductionHypothesis]
        simp [totalSize]

/-- The total size of all matching blocks. -/
theorem totalSize_matchingBlocks
    (autojunk : Bool)
    (xs ys : List α) :
    totalSize (matchingBlocks autojunk xs ys) =
      totalSize
        (blocksFrom (autoPopular autojunk ys) xs.length 0 0 xs ys) := by
  have collapsed :=
    totalSize_collapseAdjacent { a := 0, b := 0, size := 0 }
      (blocksFrom (autoPopular autojunk ys) xs.length 0 0 xs ys)
  simp only [totalSize, Nat.zero_add] at collapsed
  simp [matchingBlocks, totalSize, collapsed]

/-- The matching blocks spell a common subsequence of their total size. -/
theorem matchingBlocks_commonSubsequence
    (autojunk : Bool)
    (xs ys : List α) :
    ∃ common,
      common <+ xs ∧
        common <+ ys ∧
        common.length = totalSize (matchingBlocks autojunk xs ys) := by
  rw [totalSize_matchingBlocks]
  exact blocksFrom_commonSubsequence _ _ _ _ xs ys

/-- A ratio of at least `p / q` in terms of the matched total. -/
theorem le_ratio_iff
    {autojunk : Bool}
    {xs ys : List α}
    (nonempty : 0 < xs.length + ys.length)
    (threshold : ℚ) :
    threshold ≤ ratio autojunk xs ys ↔
      threshold * ((xs.length + ys.length : Nat) : ℚ) ≤
        2 * (totalSize (matchingBlocks autojunk xs ys) : ℚ) := by
  have lengthPositive :
      (0 : ℚ) < ((xs.length + ys.length : Nat) : ℚ) := by
    exact_mod_cast nonempty
  unfold ratio
  rw [if_neg (Nat.pos_iff_ne_zero.mp nonempty)]
  exact le_div_iff₀ lengthPositive

/-! ## Segments that occur whole -/

/-- A sequence runs to its end along a copy of itself. -/
theorem runLength_append
    (xs rest : List α) :
    runLength (fun _ => false) xs (xs ++ rest) = xs.length := by
  induction xs with
  | nil =>
      simp [runLength]
  | cons x xs inductionHypothesis =>
      simp [runLength, inductionHypothesis]

/-- The longest block is no shorter than the blocks it is taken from. -/
theorem size_le_foldl_longer
    {blocks : List Block}
    (start : Block) :
    start.size ≤ (blocks.foldl longer start).size ∧
      ∀ block ∈ blocks, block.size ≤ (blocks.foldl longer start).size := by
  induction blocks generalizing start with
  | nil =>
      simp
  | cons block rest inductionHypothesis =>
      obtain ⟨fromBest, fromRest⟩ := inductionHypothesis (longer start block)
      have better :
          start.size ≤ (longer start block).size ∧
            block.size ≤ (longer start block).size := by
        unfold longer
        split <;> omega
      rw [List.foldl_cons]
      refine ⟨better.1.trans fromBest, ?_⟩
      intro other member
      rcases List.mem_cons.mp member with rfl | inRest
      · exact better.2.trans fromBest
      · exact fromRest other inRest

theorem size_le_extendLeft
    (xs ys : List α)
    (i j size : Nat) :
    size ≤ (extendLeft xs ys i j size).size := by
  induction i generalizing j size with
  | zero =>
      simp [extendLeft]
  | succ i inductionHypothesis =>
      cases j with
      | zero =>
          simp [extendLeft]
      | succ j =>
          unfold extendLeft
          split
          · exact (Nat.le_succ size).trans (inductionHypothesis j _)
          · exact le_rfl

/-- The longest match of a sequence that occurs whole is all of it. -/
theorem findLongestMatch_of_occurs
    {xs ys : List α}
    (occurs : xs <:+: ys) :
    (findLongestMatch (fun _ => false) xs ys).a = 0 ∧
      (findLongestMatch (fun _ => false) xs ys).size = xs.length := by
  have isBlock := isBlock_findLongestMatch (fun _ => false) xs ys
  have inside := isBlock.insideA
  have whole :
      xs.length ≤ (findLongestMatch (fun _ => false) xs ys).size := by
    obtain ⟨before, after, rfl⟩ := occurs
    cases xs with
    | nil =>
        simp
    | cons x rest =>
        have isCandidate :
            ({ a := 0, b := before.length, size := (x :: rest).length } : Block) ∈
              candidates (fun _ => false) (x :: rest)
                (before ++ (x :: rest) ++ after) := by
          simp only [candidates, List.mem_flatMap, List.mem_range, List.mem_map]
          refine ⟨0, by simp, before.length, by simp, ?_⟩
          rw [List.append_assoc, List.drop_left, List.drop_zero,
            runLength_append]
        have isLongest :=
          (size_le_foldl_longer { a := 0, b := 0, size := 0 }).2 _ isCandidate
        have extended :=
          size_le_extendLeft (x :: rest) (before ++ (x :: rest) ++ after)
            (longestRun (fun _ => false) (x :: rest)
              (before ++ (x :: rest) ++ after)).a
            (longestRun (fun _ => false) (x :: rest)
              (before ++ (x :: rest) ++ after)).b
            (longestRun (fun _ => false) (x :: rest)
              (before ++ (x :: rest) ++ after)).size
        exact (isLongest.trans extended).trans (Nat.le_add_right _ _)
  omega

/-- Nothing matches in an empty sequence. -/
theorem blocksFrom_nil
    (popular : α → Bool)
    (fuel offsetA offsetB : Nat)
    (ys : List α) :
    blocksFrom popular fuel offsetA offsetB [] ys = [] := by
  cases fuel with
  | zero =>
      rfl
  | succ fuel =>
      have inside := (isBlock_findLongestMatch popular [] ys).insideA
      rw [List.length_nil] at inside
      rw [blocksFrom, if_pos (by omega)]

/-- A sequence that occurs whole matches in one block. -/
theorem matchingBlocks_of_occurs
    {xs ys : List α}
    (nonempty : xs ≠ [])
    (occurs : xs <:+: ys) :
    ∃ start,
      matchingBlocks false xs ys =
          [{ a := 0, b := start, size := xs.length },
            { a := xs.length, b := ys.length, size := 0 }] ∧
        (ys.drop start).take xs.length = xs := by
  obtain ⟨atStart, whole⟩ := findLongestMatch_of_occurs occurs
  have agree :=
    (isBlock_findLongestMatch (fun _ => false) xs ys).segmentsAgree
  rw [atStart, whole, List.drop_zero, List.take_length] at agree
  have positive := List.length_pos_iff.mpr nonempty
  have oneBlock (fuel : Nat) :
      blocksFrom (fun _ => false) (fuel + 1) 0 0 xs ys =
        [{ a := 0
           b := (findLongestMatch (fun _ => false) xs ys).b
           size := xs.length }] := by
    rw [blocksFrom]
    simp only [whole, atStart, positive.ne', if_false, List.take_zero,
      blocksFrom_nil, List.nil_append, Nat.zero_add, List.drop_length]
  have noneJunk : autoPopular false ys = fun _ => false := rfl
  have enough : xs.length - 1 + 1 = xs.length := Nat.sub_add_cancel positive
  refine ⟨(findLongestMatch (fun _ => false) xs ys).b, ?_, agree.symm⟩
  rw [matchingBlocks, noneJunk]
  nth_rewrite 1 [← enough]
  rw [oneBlock]
  simp only [collapseAdjacent]
  split
  · rename_i adjacent
    simp [← adjacent.2, positive.ne']
  · simp [positive.ne']

/-- A sequence is entirely similar to itself. -/
theorem ratio_self
    (xs : List α) :
    ratio false xs xs = 1 := by
  unfold ratio
  split
  · rfl
  · rename_i proper
    have nonempty : xs ≠ [] := by
      rintro rfl
      exact proper rfl
    obtain ⟨start, blocks, _⟩ :=
      matchingBlocks_of_occurs nonempty (List.infix_refl xs)
    have total : totalSize (matchingBlocks false xs xs) = xs.length := by
      rw [blocks]
      simp [totalSize]
    rw [total]
    push_cast
    have positive : (0 : ℚ) < xs.length := by
      exact_mod_cast List.length_pos_iff.mpr nonempty
    rw [← two_mul, div_self (by positivity)]

/-- No similarity is above one. -/
theorem ratio_le_one
    (autojunk : Bool)
    (xs ys : List α) :
    ratio autojunk xs ys ≤ 1 := by
  unfold ratio
  split
  · exact le_refl 1
  · rename_i proper
    obtain ⟨common, inXs, inYs, total⟩ :=
      matchingBlocks_commonSubsequence autojunk xs ys
    have atMost :
        2 * totalSize (matchingBlocks autojunk xs ys) ≤
          xs.length + ys.length := by
      have := inXs.length_le
      have := inYs.length_le
      omega
    have positive : (0 : ℚ) < ((xs.length + ys.length : Nat) : ℚ) := by
      exact_mod_cast Nat.pos_of_ne_zero proper
    rw [div_le_one positive]
    exact_mod_cast atMost

end Foundation.SequenceMatcher
