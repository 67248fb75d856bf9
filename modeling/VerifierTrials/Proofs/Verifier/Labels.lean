import VerifierTrials.Proofs.Text.Names
import VerifierTrials.Proofs.Text.Replacement
import VerifierTrials.Verifier.Preparation

/-!
# Error labels

Marking errors runs over a source three times, once for each rule in `labelRules`: a jump to the
error label, its place, and a call of the function for errors. No rule puts in anything that
another one, or the same one again, could find (`independent_labelRules`), and so the three runs do
what one sweep over the source does, in any order (`markErrors_settles`).

The rules are about texts and not about names. A sweep is therefore followed through the segments of
a source, each of them a name with the gap behind it: `relabelled` says what becomes of a segment,
and what becomes of a source is that of its segments, one after the other (`segments_of_rewrites`).
A rule finds the end of a name as well as a whole one, and the names besides the label and the
function are kept exactly in those sources where it finds no longer name (`segments_markErrors`).
-/

namespace VerifierTrials

open VerifierTrials.Text

namespace Verifier

/-! ### The rules for error labels -/

/-- A jump to the error label. -/
def jumpRule : Rule := ⟨"ERROR;", "ERROR_LOCATION;"⟩

/-- The place of the error label. -/
def placeRule : Rule := ⟨"ERROR:", "ERROR_LOCATION:"⟩

/-- A call of the function for errors, which becomes a jump and the place that it leads to. -/
def callRule : Rule := ⟨"errorFn();", "goto ERROR_LOCATION; ERROR_LOCATION:;"⟩

/-- **What is put in for error labels**, in the order of the runs. -/
def labelRules : List Rule := [jumpRule, placeRule, callRule]

/-- No label shares characters with another one, nor with what is put in. -/
theorem independent_labelRules : Independent labelRules :=
  ⟨by decide, by decide, by decide⟩

theorem toList_foldl_replace (rules : List Rule) (source : String) :
    (rules.foldl (fun text rule => Text.replace rule.key rule.text text) source).toList =
      rewrite rules source.toList := by
  induction rules generalizing source with
  | nil => rfl
  | cons rule rules ih =>
    rw [List.foldl_cons, ih, Text.replace, String.toList_ofList]
    rfl

theorem markErrors_eq_foldl (source : String) :
    markErrors source =
      labelRules.foldl (fun text rule => Text.replace rule.key rule.text text) source := rfl

theorem toList_markErrors (source : String) :
    (markErrors source).toList = rewrite labelRules source.toList := by
  rw [markErrors_eq_foldl, toList_foldl_replace]

/-- **Marking errors is settled in one go.** None of the three labels is left, so that marking
errors again changes nothing, and the runs may be made in any order. -/
theorem markErrors_settles (source : String) :
    (∀ rule ∈ labelRules, Text.contains rule.key (markErrors source) = false) ∧
      markErrors (markErrors source) = markErrors source ∧
      ∀ order : List Rule, order.Perm labelRules →
        order.foldl (fun text rule => Text.replace rule.key rule.text text) source =
          markErrors source := by
  refine ⟨fun rule among => ?_, ?_, fun order perm => ?_⟩
  · rw [← Bool.not_eq_true, contains_iff, toList_markErrors]
    exact (rewrites_rewrite independent_labelRules _).not_occurring independent_labelRules among
  · rw [← String.toList_inj, toList_markErrors, toList_markErrors]
    exact rewrite_rewrite independent_labelRules _
  · rw [← String.toList_inj, toList_foldl_replace, toList_markErrors]
    exact rewrite_perm independent_labelRules perm _

/-- All three labels, marked in the opposite order. -/
theorem markErrors_settles_reversed :
    labelRules.reverse.Perm labelRules ∧
      labelRules.reverse.foldl (fun text rule => Text.replace rule.key rule.text text)
        "ERROR: errorFn();goto ERROR;" =
        "ERROR_LOCATION: goto ERROR_LOCATION; ERROR_LOCATION:;goto ERROR_LOCATION;" := by
  have perm : labelRules.reverse.Perm labelRules := List.reverse_perm _
  refine ⟨perm, ((markErrors_settles _).2.2 _ perm).trans ?_⟩
  decide

/-! ### What becomes of a name -/

/-- **A name with an ending**, directly in front of a mark. -/
def EndsIn (word mark : String) (segment : Segment) : Prop :=
  word.toList <:+ segment.name ∧ mark.toList <+: segment.gap

instance (word mark : String) (segment : Segment) : Decidable (EndsIn word mark segment) := by
  unfold EndsIn
  infer_instance

/-- A name that ends in a label: a place or a jump. -/
def IsLabel (segment : Segment) : Prop := EndsIn "ERROR" ";" segment ∨ EndsIn "ERROR" ":" segment

/-- A name that ends in the function for errors, which is called without arguments. -/
def IsCall (segment : Segment) : Prop := EndsIn "errorFn" "();" segment

instance (segment : Segment) : Decidable (IsLabel segment) := by
  unfold IsLabel
  infer_instance

instance (segment : Segment) : Decidable (IsCall segment) := by
  unfold IsCall
  infer_instance

/-- **What becomes of a segment.** A label is renamed at its end. Of a call, the name of the
function becomes a jump, and two segments with the label of errors come behind it. -/
def relabelled (segment : Segment) : List Segment :=
  if IsLabel segment then [⟨segment.name ++ "_LOCATION".toList, segment.gap⟩]
  else if IsCall segment then
    [⟨segment.name.take (segment.name.length - 7) ++ "goto".toList, " ".toList⟩,
      ⟨"ERROR_LOCATION".toList, "; ".toList⟩,
      ⟨"ERROR_LOCATION".toList, ':' :: segment.gap.drop 2⟩]
  else [segment]

variable {c : Char} {segment : Segment} {more segments : List Segment} {name gap : List Char}
  {word mark : String}

theorem relabelled_of_not (label : ¬IsLabel segment) (call : ¬IsCall segment) :
    relabelled segment = [segment] := by
  rw [relabelled, if_neg label, if_neg call]

/-- Where there is no name, nothing is rewritten. -/
theorem relabelled_gap (gap : List Char) : relabelled ⟨[], gap⟩ = [⟨[], gap⟩] := by
  refine relabelled_of_not ?_ ?_ <;>
    simp [IsLabel, IsCall, EndsIn]

/-- A name stays a name. -/
theorem exists_relabelled (nonempty : name ≠ []) (gap : List Char) :
    ∃ first more, relabelled ⟨name, gap⟩ = first :: more ∧ first.name ≠ [] := by
  rw [relabelled]
  split
  · exact ⟨_, _, rfl, by simp⟩
  · split
    · exact ⟨_, _, rfl, by simp⟩
    · exact ⟨_, _, rfl, nonempty⟩

/-- A character of a gap does not change what becomes of the segments behind it. -/
theorem prepend_relabelled_of_gap (unnamed : isNameChar c = false) (segments : List Segment) :
    Segment.prepend c (segments.flatMap relabelled) =
      (Segment.prepend c segments).flatMap relabelled := by
  cases segments with
  | nil => simp [Segment.prepend, unnamed, relabelled_gap]
  | cons segment more =>
    obtain ⟨name, gap⟩ := segment
    by_cases empty : name = []
    · subst empty
      simp [Segment.prepend_of_gap unnamed, relabelled_gap]
    · obtain ⟨first, others, made, nonempty⟩ := exists_relabelled empty gap
      rw [Segment.prepend_of_name unnamed empty, List.flatMap_cons, List.flatMap_cons,
        List.flatMap_cons, relabelled_gap, made, List.cons_append,
        Segment.prepend_of_name unnamed nonempty]
      rfl

/-- An ending begins with the first character of a name only where its key stands. -/
theorem endsIn_cons_iff {rule : Rule} {rest : List Char} (key : rule.key = word ++ mark)
    (absent : ¬rule.key.toList <+: c :: (name ++ gap ++ rest)) :
    EndsIn word mark ⟨c :: name, gap⟩ ↔ EndsIn word mark ⟨name, gap⟩ := by
  rw [EndsIn, EndsIn, List.suffix_cons_iff]
  constructor
  · rintro ⟨whole | later, marked⟩
    · refine absurd ?_ absent
      rw [key, String.toList_append, whole, ← List.cons_append, ← List.cons_append]
      obtain ⟨after, rfl⟩ := marked
      exact ⟨after ++ rest, by simp⟩
    · exact ⟨later, marked⟩
  · rintro ⟨later, marked⟩
    exact ⟨.inr later, marked⟩

/-- **A character more in a name** does not change what becomes of it, unless a key begins there. -/
theorem relabelled_cons {rest : List Char}
    (absent : ∀ rule ∈ labelRules, ¬rule.key.toList <+: c :: (name ++ gap ++ rest))
    (named : isNameChar c = true) (more : List Segment) :
    Segment.prepend c (relabelled ⟨name, gap⟩ ++ more) = relabelled ⟨c :: name, gap⟩ ++ more := by
  have jump : jumpRule.key = "ERROR" ++ ";" := by decide
  have place : placeRule.key = "ERROR" ++ ":" := by decide
  have called : callRule.key = "errorFn" ++ "();" := by decide
  have label : IsLabel ⟨c :: name, gap⟩ ↔ IsLabel ⟨name, gap⟩ :=
    or_congr (endsIn_cons_iff jump (absent jumpRule (by simp [labelRules])))
      (endsIn_cons_iff place (absent placeRule (by simp [labelRules])))
  have call : IsCall ⟨c :: name, gap⟩ ↔ IsCall ⟨name, gap⟩ :=
    endsIn_cons_iff called (absent callRule (by simp [labelRules]))
  rw [relabelled, relabelled, if_congr label rfl rfl, if_congr call rfl rfl]
  split
  · exact Segment.prepend_of_isNameChar named
  · split
    next called =>
      have long : 7 ≤ name.length := called.1.length_le
      have begins : (c :: name).take ((c :: name).length - 7) =
          c :: name.take (name.length - 7) := by
        rw [List.length_cons, Nat.succ_sub long, List.take_succ_cons]
      rw [begins]
      exact Segment.prepend_of_isNameChar named
    next => exact Segment.prepend_of_isNameChar named

theorem prepend_relabelled_of_name (named : isNameChar c = true)
    (absent : ∀ rule ∈ labelRules, ¬rule.key.toList <+: c :: segments.flatMap Segment.text) :
    Segment.prepend c (segments.flatMap relabelled) =
      (Segment.prepend c segments).flatMap relabelled := by
  cases segments with
  | nil =>
    have kept : relabelled ⟨[c], []⟩ = [⟨[c], []⟩] := by
      refine relabelled_of_not ?_ ?_ <;> simp [IsLabel, IsCall, EndsIn]
    simp [Segment.prepend, named, kept]
  | cons segment more =>
    rw [Segment.prepend_of_isNameChar named, List.flatMap_cons, List.flatMap_cons]
    exact relabelled_cons absent named _

/-! ### Texts segment by segment -/

section Keys

variable {s t : List Char}

/-- What stands behind the same character of a gap is relabelled by itself. -/
theorem exists_behind (unnamed : isNameChar c = false)
    (same : Text.segments t = (Text.segments s).flatMap relabelled) :
    ∃ gap more, Text.segments (c :: s) = ⟨[], c :: gap⟩ :: more ∧
      Text.segments (c :: t) = ⟨[], c :: gap⟩ :: more.flatMap relabelled := by
  obtain ⟨gap, more, behind⟩ := Segment.exists_prepend unnamed (Text.segments s)
  refine ⟨gap, more, behind, ?_⟩
  calc Text.segments (c :: t) = Segment.prepend c (Text.segments t) := segments_cons c t
    _ = (Segment.prepend c (Text.segments s)).flatMap relabelled := by
      rw [same, prepend_relabelled_of_gap unnamed]
    _ = ⟨[], c :: gap⟩ :: more.flatMap relabelled := by
      rw [behind, List.flatMap_cons, relabelled_gap]
      rfl

/-- A label in front of a text. -/
theorem segments_label {rule : Rule} (ends : c = ';' ∨ c = ':')
    (key : rule.key.toList = "ERROR".toList ++ [c])
    (text : rule.text.toList = "ERROR_LOCATION".toList ++ [c])
    (same : Text.segments t = (Text.segments s).flatMap relabelled) :
    Text.segments (rule.text.toList ++ t) =
      (Text.segments (rule.key.toList ++ s)).flatMap relabelled := by
  have unnamed : isNameChar c = false := by rcases ends with rfl | rfl <;> decide
  obtain ⟨gap, more, source, result⟩ := exists_behind unnamed same
  have label : IsLabel ⟨"ERROR".toList ++ [], c :: gap⟩ := by
    rcases ends with rfl | rfl <;> simp [IsLabel, EndsIn]
  rw [key, text, List.append_assoc, List.append_assoc, List.singleton_append,
    List.singleton_append, segments_append, segments_append, source, result,
    Segment.foldr_prepend_name (by decide), Segment.foldr_prepend_name (by decide),
    List.flatMap_cons, relabelled, if_pos label]
  rfl

/-- A call in front of a text. -/
theorem segments_call (same : Text.segments t = (Text.segments s).flatMap relabelled) :
    Text.segments (callRule.text.toList ++ t) =
      (Text.segments (callRule.key.toList ++ s)).flatMap relabelled := by
  obtain ⟨gap, more, source, result⟩ := exists_behind (c := ';') (by decide) same
  have key : callRule.key.toList ++ s = ("errorFn".toList ++ "()".toList) ++ ';' :: s := rfl
  have text : callRule.text.toList ++ t = ("goto".toList ++ ' ' :: ("ERROR_LOCATION".toList ++
      ';' :: ' ' :: ("ERROR_LOCATION".toList ++ [':']))) ++ ';' :: t := rfl
  have called : relabelled ⟨"errorFn".toList ++ [], "()".toList ++ ';' :: gap⟩ =
      [⟨"goto".toList, " ".toList⟩, ⟨"ERROR_LOCATION".toList, "; ".toList⟩,
        ⟨"ERROR_LOCATION".toList, ':' :: ';' :: gap⟩] := by
    rw [relabelled, if_neg (by simp [IsLabel, EndsIn]), if_pos (by simp [IsCall, EndsIn])]
    rfl
  -- the runs of both texts, from the right
  rw [key, text, segments_append, segments_append, source, result]
  simp only [List.foldr_append, List.foldr_cons, List.foldr_nil]
  rw [Segment.foldr_prepend_gap (by decide), Segment.foldr_prepend_name (by decide),
    List.flatMap_cons, called, Segment.prepend_of_gap (by decide),
    Segment.foldr_prepend_name (by decide), Segment.prepend_of_name (by decide) (by simp),
    Segment.prepend_of_gap (by decide), Segment.foldr_prepend_name (by decide),
    Segment.prepend_of_name (by decide) (by simp), Segment.foldr_prepend_name (by decide)]
  simp

end Keys

/-- **A sweep relabels the segments of a text**, each by itself. -/
theorem segments_of_rewrites {s t : List Char} (sweep : Rewrites labelRules s t) :
    Text.segments t = (Text.segments s).flatMap relabelled := by
  induction sweep with
  | done => rfl
  | @kept c s t absent _ ih =>
    have front : Segment.prepend c ((Text.segments s).flatMap relabelled) =
        (Segment.prepend c (Text.segments s)).flatMap relabelled := by
      cases named : isNameChar c with
      | true =>
        refine prepend_relabelled_of_name named ?_
        rw [flatMap_text_segments]
        exact absent
      | false => exact prepend_relabelled_of_gap named _
    rw [segments_cons, segments_cons, ih, front]
  | @replaced rule s t among _ ih =>
    obtain rfl | rfl | rfl : rule = jumpRule ∨ rule = placeRule ∨ rule = callRule := by
      simpa [labelRules] using among
    · exact segments_label (c := ';') (.inl rfl) (by decide) (by decide) ih
    · exact segments_label (c := ':') (.inr rfl) (by decide) (by decide) ih
    · exact segments_call ih

/-! ### Names that are kept -/

/-- **Names of which only those for errors have changed**: the others are there as before, in the
same order, and nothing else is new. -/
inductive KeepsOthers : List (List Char) → List (List Char) → Prop
  | done : KeepsOthers [] []
  | kept {before after : List (List Char)} (name : List Char)
    (further : KeepsOthers before after) : KeepsOthers (name :: before) (name :: after)
  | label {before after : List (List Char)} (further : KeepsOthers before after) :
    KeepsOthers ("ERROR".toList :: before) ("ERROR_LOCATION".toList :: after)
  | call {before after : List (List Char)} (further : KeepsOthers before after) :
    KeepsOthers ("errorFn".toList :: before)
      ("goto".toList :: "ERROR_LOCATION".toList :: "ERROR_LOCATION".toList :: after)

variable {before after : List (List Char)}

/-- What the first name has become: itself, a label, or a call. -/
theorem KeepsOthers.cons_cases (keeps : KeepsOthers (name :: before) after) :
    (∃ rest, after = name :: rest ∧ KeepsOthers before rest) ∨
      (name = "ERROR".toList ∧
        ∃ rest, after = "ERROR_LOCATION".toList :: rest ∧ KeepsOthers before rest) ∨
      (name = "errorFn".toList ∧ ∃ rest, after = "goto".toList :: "ERROR_LOCATION".toList ::
        "ERROR_LOCATION".toList :: rest ∧ KeepsOthers before rest) := by
  generalize same : name :: before = names at keeps
  cases keeps with
  | done => cases same
  | kept _ further =>
    cases same
    exact .inl ⟨_, rfl, further⟩
  | label further =>
    cases same
    exact .inr (.inl ⟨rfl, _, rfl, further⟩)
  | call further =>
    cases same
    exact .inr (.inr ⟨rfl, _, rfl, further⟩)

theorem keepsOthers_cons_iff : KeepsOthers (name :: before) (name :: after) ↔
    KeepsOthers before after := by
  refine ⟨fun keeps => ?_, .kept name⟩
  obtain ⟨rest, same, further⟩ | ⟨rfl, rest, same, -⟩ | ⟨rfl, rest, same, -⟩ := keeps.cons_cases
  · exact (List.cons.inj same).2 ▸ further
  · exact absurd (List.cons.inj same).1 (by decide)
  · exact absurd (List.cons.inj same).1 (by decide)

theorem keepsOthers_label_iff (ends : "ERROR".toList <:+ name) :
    KeepsOthers (name :: before) ((name ++ "_LOCATION".toList) :: after) ↔
      (name = "ERROR".toList ∨ name = "errorFn".toList) ∧ KeepsOthers before after := by
  constructor
  · intro keeps
    obtain ⟨rest, same, -⟩ | ⟨rfl, rest, same, further⟩ | ⟨rfl, -⟩ := keeps.cons_cases
    · simp at same
    · exact ⟨.inl rfl, (List.cons.inj same).2 ▸ further⟩
    · exact absurd ends (by decide)
  · rintro ⟨rfl | rfl, further⟩
    · exact .label further
    · exact absurd ends (by decide)

theorem keepsOthers_call_iff (ends : "errorFn".toList <:+ name) :
    KeepsOthers (name :: before) ((name.take (name.length - 7) ++ "goto".toList) ::
      "ERROR_LOCATION".toList :: "ERROR_LOCATION".toList :: after) ↔
      (name = "ERROR".toList ∨ name = "errorFn".toList) ∧ KeepsOthers before after := by
  constructor
  · intro keeps
    obtain ⟨rest, same, -⟩ | ⟨rfl, -⟩ | ⟨rfl, rest, same, further⟩ := keeps.cons_cases
    · obtain ⟨beginning, rfl⟩ := ends
      simp at same
    · exact absurd ends (by decide)
    · simp only [List.cons.injEq] at same
      exact ⟨.inr rfl, same.2.2.2 ▸ further⟩
  · rintro ⟨rfl | rfl, further⟩
    · exact absurd ends (by decide)
    · exact .call further

/-- **Relabelling a segment keeps the other names** unless it hits a longer name. -/
theorem keepsOthers_segment_iff (segment : Segment) :
    KeepsOthers (Segment.names [segment] ++ before)
        (Segment.names (relabelled segment) ++ after) ↔
      (IsLabel segment ∨ IsCall segment →
        segment.name = "ERROR".toList ∨ segment.name = "errorFn".toList) ∧
      KeepsOthers before after := by
  obtain ⟨name, gap⟩ := segment
  by_cases label : IsLabel ⟨name, gap⟩
  · have ends : "ERROR".toList <:+ name := label.elim And.left And.left
    have nonempty : name ≠ [] := fun empty => absurd (empty ▸ ends) (by decide)
    rw [relabelled, if_pos label, Segment.names_of_ne_nil nonempty,
      Segment.names_of_ne_nil (by simp)]
    simpa [label] using keepsOthers_label_iff ends
  · by_cases call : IsCall ⟨name, gap⟩
    · have ends : "errorFn".toList <:+ name := call.1
      have nonempty : name ≠ [] := fun empty => absurd (empty ▸ ends) (by decide)
      rw [relabelled, if_neg label, if_pos call, Segment.names_of_ne_nil nonempty]
      simpa [call, Segment.names] using keepsOthers_call_iff ends
    · rw [relabelled_of_not label call]
      by_cases empty : name = []
      · simp [Segment.names, empty, IsLabel, IsCall, EndsIn]
      · rw [Segment.names_of_ne_nil empty]
        simpa [label, call] using keepsOthers_cons_iff

/-- **The other names are kept exactly where no longer name is hit.** -/
theorem keepsOthers_iff (segments : List Segment) :
    KeepsOthers (Segment.names segments) (Segment.names (segments.flatMap relabelled)) ↔
      ∀ segment ∈ segments, IsLabel segment ∨ IsCall segment →
        segment.name = "ERROR".toList ∨ segment.name = "errorFn".toList := by
  induction segments with
  | nil => simp [Segment.names, KeepsOthers.done]
  | cons segment segments ih =>
    rw [List.forall_mem_cons, ← ih, ← keepsOthers_segment_iff, ← Segment.names_append,
      ← Segment.names_append, List.singleton_append, List.flatMap_cons]

/-- **What marking errors does to the names of a source.** The source is read as segments, and each
of them is relabelled by itself: where the name of a segment does not end in a label or in a call,
it stays as it is. So only the names `ERROR` and `errorFn` change exactly if no longer name ends in
one of them in front of the mark that makes it a label or a call. -/
theorem segments_markErrors (source : String) :
    IsOutline source.toList (Text.segments source.toList) ∧
      Text.segments (markErrors source).toList =
        (Text.segments source.toList).flatMap relabelled ∧
      (KeepsOthers (names source.toList) (names (markErrors source).toList) ↔
        ∀ segment ∈ Text.segments source.toList, IsLabel segment ∨ IsCall segment →
          segment.name = "ERROR".toList ∨ segment.name = "errorFn".toList) := by
  have same : Text.segments (markErrors source).toList =
      (Text.segments source.toList).flatMap relabelled := by
    rw [toList_markErrors]
    exact segments_of_rewrites (rewrites_rewrite independent_labelRules _)
  refine ⟨isOutline_segments _, same, ?_⟩
  rw [names, names, same]
  exact keepsOthers_iff _

/-- A label that only ends like the one for errors is renamed, too. -/
theorem not_forall_name_kept : ¬∀ (source : String) (name : List Char),
    name ∈ names source.toList → name ≠ "ERROR".toList → name ≠ "errorFn".toList →
      name ∈ names (markErrors source).toList := by
  intro all
  exact absurd (all "MY_ERROR: ;" "MY_ERROR".toList (by decide) (by decide) (by decide))
    (by decide)

end Verifier

end VerifierTrials
