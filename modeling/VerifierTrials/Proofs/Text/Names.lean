import Mathlib.Data.List.Chain
import VerifierTrials.Text.Basic

/-!
# Names in a text

A program text is read as **names**, the maximal runs of letters, digits and underscores, and the
gaps between them. Each name is taken together with the gap behind it (`Text.Segment`); a text that
does not begin with a name has a first segment without one (`Text.segments`,
`Text.isOutline_segments`).

The segments are found from the right: a character more at the front of a text goes into the name
or the gap that it stands at, or opens a segment of its own (`Text.Segment.prepend`).
-/

namespace VerifierTrials.Text

/-- The characters of names: letters and digits of ASCII, and the underscore. -/
def isNameChar (c : Char) : Bool := c.isAlphanum || c == '_'

/-- **A name and the gap behind it**, up to the next name. -/
structure Segment where
  name : List Char
  gap : List Char
  deriving DecidableEq, Repr

namespace Segment

/-- The text of a segment. -/
def text (segment : Segment) : List Char := segment.name ++ segment.gap

/-- Segments with a character more at the front. -/
def prepend (c : Char) : List Segment → List Segment
  | [] => if isNameChar c then [⟨[c], []⟩] else [⟨[], [c]⟩]
  | segment :: more =>
    if isNameChar c then ⟨c :: segment.name, segment.gap⟩ :: more
    else if segment.name = [] then ⟨[], c :: segment.gap⟩ :: more
    else ⟨[], [c]⟩ :: segment :: more

/-- The names of segments. -/
def names (segments : List Segment) : List (List Char) :=
  (segments.map name).filter fun name => name ≠ []

end Segment

/-- **The segments of a text.** -/
def segments (s : List Char) : List Segment := s.foldr Segment.prepend []

/-- **The names of a text**, in order. -/
def names (s : List Char) : List (List Char) := Segment.names (segments s)

/-- **A text cut into maximal runs**: between two names there is a gap, and between two gaps a
name. -/
structure IsOutline (s : List Char) (segments : List Segment) : Prop where
  text : segments.flatMap Segment.text = s
  names : ∀ segment ∈ segments, ∀ c ∈ segment.name, isNameChar c = true
  gaps : ∀ segment ∈ segments, ∀ c ∈ segment.gap, isNameChar c = false
  maximal : segments.IsChain fun segment next => segment.gap ≠ [] ∧ next.name ≠ []

/-! ### One character more -/

namespace Segment

variable {c : Char} {segment : Segment} {more : List Segment} {gap : List Char}

theorem prepend_of_isNameChar (named : isNameChar c = true) :
    prepend c (segment :: more) = ⟨c :: segment.name, segment.gap⟩ :: more := by
  rw [prepend, if_pos named]

theorem prepend_of_gap (unnamed : isNameChar c = false) :
    prepend c (⟨[], gap⟩ :: more) = ⟨[], c :: gap⟩ :: more := by
  simp [prepend, unnamed]

theorem prepend_of_name (unnamed : isNameChar c = false) (nonempty : segment.name ≠ []) :
    prepend c (segment :: more) = ⟨[], [c]⟩ :: segment :: more := by
  simp [prepend, unnamed, nonempty]

/-- A character that is in no name is at the front of a gap. -/
theorem exists_prepend (unnamed : isNameChar c = false) (segments : List Segment) :
    ∃ gap more, prepend c segments = ⟨[], c :: gap⟩ :: more := by
  cases segments with
  | nil => exact ⟨[], [], by simp [prepend, unnamed]⟩
  | cons segment more =>
    by_cases nonempty : segment.name = []
    · exact ⟨segment.gap, more, by simp [prepend, unnamed, nonempty]⟩
    · exact ⟨[], segment :: more, prepend_of_name unnamed nonempty⟩

/-- Characters of names go into the name in front of them. -/
theorem foldr_prepend_name {run : List Char} (named : run.all isNameChar = true) :
    run.foldr prepend (segment :: more) = ⟨run ++ segment.name, segment.gap⟩ :: more := by
  induction run with
  | nil => rfl
  | cons c run ih =>
    rw [List.all_cons, Bool.and_eq_true] at named
    rw [List.foldr_cons, ih named.2, prepend_of_isNameChar named.1]
    rfl

/-- Other characters go into the gap in front of them, where there is no name between. -/
theorem foldr_prepend_gap {run : List Char} (unnamed : run.any isNameChar = false) :
    run.foldr prepend (⟨[], gap⟩ :: more) = ⟨[], run ++ gap⟩ :: more := by
  induction run with
  | nil => rfl
  | cons c run ih =>
    rw [List.any_cons, Bool.or_eq_false_iff] at unnamed
    rw [List.foldr_cons, ih unnamed.2, prepend_of_gap unnamed.1]
    rfl

theorem flatMap_text_prepend (c : Char) (segments : List Segment) :
    (prepend c segments).flatMap text = c :: segments.flatMap text := by
  cases segments with
  | nil => cases named : isNameChar c <;> simp [prepend, named, text]
  | cons segment more =>
    rw [prepend]
    split
    next => rfl
    next =>
      split
      next empty => simp [text, empty]
      next => rfl

theorem names_append (segments more : List Segment) :
    names (segments ++ more) = names segments ++ names more := by
  simp [names]

theorem names_of_ne_nil {run : List Char} (nonempty : run ≠ []) (gap : List Char) :
    names [⟨run, gap⟩] = [run] := by
  simp [names, nonempty]

end Segment

theorem segments_cons (c : Char) (s : List Char) :
    segments (c :: s) = Segment.prepend c (segments s) := rfl

theorem segments_append (s t : List Char) :
    segments (s ++ t) = s.foldr Segment.prepend (segments t) := List.foldr_append

/-! ### The runs are maximal -/

/-- The segments of a text make the text. -/
theorem flatMap_text_segments (s : List Char) : (segments s).flatMap Segment.text = s := by
  induction s with
  | nil => rfl
  | cons c s ih => rw [segments_cons, Segment.flatMap_text_prepend, ih]

/-- One character more leaves the runs maximal. -/
theorem IsOutline.prepend {s : List Char} {segments : List Segment}
    (outline : IsOutline s segments) (c : Char) :
    IsOutline (c :: s) (Segment.prepend c segments) := by
  have text : (Segment.prepend c segments).flatMap Segment.text = c :: s := by
    rw [Segment.flatMap_text_prepend, outline.text]
  cases segments with
  | nil =>
    refine ⟨text, ?_, ?_, ?_⟩ <;> cases named : isNameChar c <;> simp [Segment.prepend, named]
  | cons segment more =>
    obtain ⟨name, names⟩ := List.forall_mem_cons.mp outline.names
    obtain ⟨gap, gaps⟩ := List.forall_mem_cons.mp outline.gaps
    obtain ⟨next, chain⟩ := List.isChain_cons.mp outline.maximal
    cases named : isNameChar c with
    | true =>
      rw [Segment.prepend_of_isNameChar named] at text ⊢
      exact ⟨text, List.forall_mem_cons.mpr ⟨List.forall_mem_cons.mpr ⟨named, name⟩, names⟩,
        List.forall_mem_cons.mpr ⟨gap, gaps⟩, List.isChain_cons.mpr ⟨next, chain⟩⟩
    | false =>
      by_cases empty : segment.name = []
      · have joined : Segment.prepend c (segment :: more) = ⟨[], c :: segment.gap⟩ :: more := by
          simp [Segment.prepend, named, empty]
        rw [joined] at text ⊢
        exact ⟨text, List.forall_mem_cons.mpr ⟨by simp, names⟩,
          List.forall_mem_cons.mpr ⟨List.forall_mem_cons.mpr ⟨named, gap⟩, gaps⟩,
          List.isChain_cons.mpr ⟨fun other among => ⟨by simp, (next other among).2⟩, chain⟩⟩
      · rw [Segment.prepend_of_name named empty] at text ⊢
        exact ⟨text, List.forall_mem_cons.mpr ⟨by simp, outline.names⟩,
          List.forall_mem_cons.mpr ⟨by simp [named], outline.gaps⟩,
          List.isChain_cons.mpr ⟨by simp [empty], outline.maximal⟩⟩

/-- **The segments of a text are its maximal runs.** -/
theorem isOutline_segments (s : List Char) : IsOutline s (segments s) := by
  induction s with
  | nil => exact ⟨rfl, by simp [segments], by simp [segments], by simp [segments]⟩
  | cons c s ih => exact ih.prepend c

end VerifierTrials.Text
