import Mathlib.Data.List.Infix

namespace Foundation.MarkedTexts

/-!
# Markers in texts that are put together

A text is put together out of fields with fixed pieces around them, and a marker
is looked for in the whole text.  When the marker neither stands in a fixed
piece nor reaches into one, it is found exactly where a field has it.
-/

variable {α : Type}

/-- A word in two joined texts stands in one of them or across the join. -/
theorem infix_append_iff
    {marker before after : List α} :
    marker <:+: before ++ after ↔
      marker <:+: before ∨
        marker <:+: after ∨
          ∃ head tail,
            marker = head ++ tail ∧ head ≠ [] ∧ tail ≠ [] ∧
              head <:+ before ∧ tail <+: after := by
  constructor
  · rintro ⟨left, right, joined⟩
    rcases List.append_eq_append_iff.mp joined with
      ⟨rest, isBefore, _⟩ | ⟨rest, isLeft, isAfter⟩
    · exact Or.inl ⟨left, rest, isBefore.symm⟩
    · rcases List.append_eq_append_iff.mp isLeft with
        ⟨head, isBefore, isMarker⟩ | ⟨gap, _, isRest⟩
      · by_cases emptyHead : head = []
        · subst emptyHead
          rw [List.nil_append] at isMarker
          subst isMarker
          exact Or.inr (Or.inl ⟨[], right, by rw [isAfter]; rfl⟩)
        · by_cases emptyRest : rest = []
          · subst emptyRest
            rw [List.append_nil] at isMarker
            subst isMarker
            exact Or.inl ⟨left, [], by rw [isBefore, List.append_nil]⟩
          · exact
              Or.inr
                (Or.inr
                  ⟨head, rest, isMarker, emptyHead, emptyRest,
                    ⟨left, isBefore.symm⟩, ⟨right, isAfter.symm⟩⟩)
      · exact Or.inr (Or.inl ⟨gap, right, by rw [isAfter, isRest]⟩)
  · rintro (inBefore | inAfter |
      ⟨head, tail, rfl, _, _, ⟨left, rfl⟩, ⟨right, rfl⟩⟩)
    · exact inBefore.trans List.infix_append_left
    · exact inAfter.trans List.infix_append_right
    · exact ⟨left, right, by simp⟩

/-- A fixed piece that a marker neither stands in nor reaches into. -/
def Separates (marker piece : List α) : Prop :=
  ¬piece <:+: marker ∧ ¬marker <:+: piece ∧
    ∀ cut ∈ List.range marker.length, cut ≠ 0 →
      ¬marker.take cut <:+ piece ∧ ¬marker.drop cut <+: piece

instance [DecidableEq α] (marker piece : List α) :
    Decidable (Separates marker piece) :=
  inferInstanceAs (Decidable (_ ∧ _ ∧ _))

/-- No proper part of the marker meets an end of the piece. -/
theorem Separates.parts
    {marker piece head tail : List α}
    (separates : Separates marker piece)
    (isMarker : marker = head ++ tail)
    (nonemptyHead : head ≠ [])
    (nonemptyTail : tail ≠ []) :
    ¬head <:+ piece ∧ ¬tail <+: piece := by
  have headLength : head.length ≠ 0 :=
    fun empty => nonemptyHead (List.length_eq_zero_iff.mp empty)
  have tailLength : 0 < tail.length := List.length_pos_iff.mpr nonemptyTail
  have cutInside : head.length ∈ List.range marker.length := by
    rw [List.mem_range, isMarker, List.length_append]
    omega
  have apart := separates.2.2 head.length cutInside headLength
  rwa [isMarker, List.take_left, List.drop_left] at apart

/-- A marker does not run across a piece that separates. -/
theorem infix_separated_iff
    {marker piece before after : List α}
    (separates : Separates marker piece) :
    marker <:+: before ++ (piece ++ after) ↔
      marker <:+: before ∨ marker <:+: after := by
  constructor
  · intro found
    rcases infix_append_iff.mp found with inBefore | inRest |
      ⟨head, tail, isMarker, nonemptyHead, nonemptyTail, _, tailOfRest⟩
    · exact Or.inl inBefore
    · rcases infix_append_iff.mp inRest with inPiece | inAfter |
        ⟨head, tail, isMarker, nonemptyHead, nonemptyTail, headOfPiece, _⟩
      · exact absurd inPiece separates.2.1
      · exact Or.inr inAfter
      · exact
          absurd headOfPiece
            (separates.parts isMarker nonemptyHead nonemptyTail).1
    · -- What starts in the piece ends in it, or it holds the whole piece.
      obtain ⟨right, joined⟩ := tailOfRest
      rcases List.append_eq_append_iff.mp joined with
        ⟨rest, isPiece, _⟩ | ⟨rest, isTail, _⟩
      · exact
          absurd ⟨rest, isPiece.symm⟩
            (separates.parts isMarker nonemptyHead nonemptyTail).2
      · refine absurd ?_ separates.1
        exact ⟨head, rest, by rw [isMarker, isTail, List.append_assoc]⟩
  · rintro (inBefore | inAfter)
    · exact inBefore.trans List.infix_append_left
    · exact
        (inAfter.trans List.infix_append_right).trans List.infix_append_right

/-- A marker after a piece that separates stands in the rest. -/
theorem infix_after_iff
    {marker piece after : List α}
    (nonempty : marker ≠ [])
    (separates : Separates marker piece) :
    marker <:+: piece ++ after ↔ marker <:+: after := by
  have afterNothing :=
    @infix_separated_iff α marker piece [] after separates
  rw [List.nil_append, or_iff_right] at afterNothing
  · exact afterNothing
  · exact fun found => nonempty (List.infix_nil.mp found)

end Foundation.MarkedTexts
