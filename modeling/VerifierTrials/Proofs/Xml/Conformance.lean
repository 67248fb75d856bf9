import VerifierTrials.Proofs.Xml.Printing
import VerifierTrials.Proofs.Xml.WellFormed

/-!
# What a conforming processor reads

XML 1.0 says what a processor makes of a document, and this is not quite what the scanner of the
benchmark makes of it.

* Some characters may not stand in a document at all (`Xml.isXmlChar`): a processor has to refuse a
  text that contains one.
* Before anything else the end of every line is turned into one line feed (`Xml.lineEnds`).
* White space that stands as itself in the value of an attribute is turned into blanks
  (`Xml.blank`). What a reference stands for is not.

So a tab, a line feed and a carriage return do not survive in a value unless they are written as
references (`Xml.normalizedValue_eq_self_iff`).

A processor is a parameter here, and `Xml.Conforms` is what is assumed of one. The scanner accepts
more than the grammar of XML does, hence nothing is assumed about texts in general: only about
**plain documents** (`Xml.IsPlainDocument`), with nothing but white space between their tags, whose
tags are written in the one way in which the printer writes them. That there is a processor of this
kind is shown by one that follows the three rules to the letter (`Xml.conforms_processed?`).
-/

namespace VerifierTrials.Xml

open VerifierTrials.Text

/-! ### Characters -/

/-- The numbers of the characters that may stand in a document, range by range. -/
def charRanges : List (Nat × Nat) :=
  [(0x9, 0xA), (0xD, 0xD), (0x20, 0xD7FF), (0xE000, 0xFFFD), (0x10000, 0x10FFFF)]

/-- **Whether a character may stand in a document.** -/
def isXmlChar (c : Char) : Bool := isWithin charRanges c

/-- Whether all characters of a text may stand in a document. -/
def IsAllowed (text : String) : Prop := ∀ c ∈ text.toList, isXmlChar c = true

instance (text : String) : Decidable (IsAllowed text) :=
  decidable_of_iff (text.toList.all isXmlChar = true) List.all_eq_true

theorem isAllowed_append {s t : String} : IsAllowed (s ++ t) ↔ IsAllowed s ∧ IsAllowed t := by
  simp only [IsAllowed, String.toList_append, List.forall_mem_append]

/-- What may stand in a name may stand in a document. -/
theorem isXmlChar_of_isWithin_nameRanges {c : Char} (within : isWithin nameRanges c = true) :
    isXmlChar c = true := by
  have covered : ∀ range ∈ nameRanges, ∃ wider ∈ charRanges,
      wider.1 ≤ range.1 ∧ range.2 ≤ wider.2 := by decide
  simp only [isXmlChar, isWithin, List.any_eq_true, Bool.and_eq_true, decide_eq_true_eq] at within ⊢
  obtain ⟨range, listed, above, below⟩ := within
  obtain ⟨wider, among, start, stop⟩ := covered range listed
  exact ⟨wider, among, Nat.le_trans start above, Nat.le_trans below stop⟩

/-- What a name may begin with it may go on with. -/
theorem isWithin_nameRanges {c : Char} (within : isWithin nameStartRanges c = true) :
    isWithin nameRanges c = true := by
  rw [isWithin, nameRanges, List.any_append, Bool.or_eq_true]
  exact .inl within

theorem isAllowed_of_isXmlName {name : String} (named : isXmlName name = true) :
    IsAllowed name := by
  unfold isXmlName at named
  split at named
  · cases named
  · rename_i first more characters
    simp only [Bool.and_eq_true, List.all_eq_true] at named
    rw [IsAllowed, characters, List.forall_mem_cons]
    exact ⟨isXmlChar_of_isWithin_nameRanges (isWithin_nameRanges named.1),
      fun c within => isXmlChar_of_isWithin_nameRanges (named.2 c within)⟩

theorem isWithin_of_isAlpha {c : Char} (letter : c.isAlpha = true) :
    isWithin nameStartRanges c = true := by
  have cases : (c.isUpper || c.isLower) = true := letter
  simp only [isWithin, List.any_eq_true, Bool.and_eq_true, decide_eq_true_eq]
  obtain upper | lower := Bool.or_eq_true_iff.mp cases
  · have bounds : 65 ≤ c.val ∧ c.val ≤ 90 := of_decide_eq_true upper
    exact ⟨(0x41, 0x5A), by decide, bounds⟩
  · have bounds : 97 ≤ c.val ∧ c.val ≤ 122 :=
      (Bool.and_eq_true_iff.mp lower).imp of_decide_eq_true of_decide_eq_true
    exact ⟨(0x61, 0x7A), by decide, bounds⟩

/-- A text of letters is a name in XML. -/
theorem isXmlName_of_isName {name : String} (named : isName name = true) :
    isXmlName name = true := by
  obtain ⟨first, more, characters, letters⟩ := exists_of_isName named
  rw [List.forall_mem_cons] at letters
  simp only [isXmlName, characters, Bool.and_eq_true, List.all_eq_true]
  exact ⟨isWithin_of_isAlpha letters.1,
    fun c within => isWithin_nameRanges (isWithin_of_isAlpha (letters.2 c within))⟩

/-! ### White space in values -/

/-- What becomes of a character when the end of every line becomes one line feed, given whether a
carriage return stands before it. -/
def lineEnd (returned : Bool) (c : Char) : List Char :=
  if returned && c = '\n' then [] else if c = '\r' then ['\n'] else [c]

/-- The same of a text. -/
def lineEndsFrom : Bool → List Char → List Char
  | _, [] => []
  | returned, c :: s => lineEnd returned c ++ lineEndsFrom (c = '\r') s

/-- **A text with one line feed for the end of every line**: for a carriage return with a line feed
behind it, and for one without. -/
def lineEnds (s : List Char) : List Char := lineEndsFrom false s

/-- A character, or a blank for white space. -/
def blank (c : Char) : Char := if isMarkupSpace c then ' ' else c

/-- A text with the ends of its lines in one form. -/
def lineEnded (text : String) : String := String.ofList (lineEnds text.toList)

/-- A text with blanks for its white space. -/
def blanked (text : String) : String := String.ofList (text.toList.map blank)

/-- **What is left of a value** that has been written without references for white space. -/
def normalizedValue (value : String) : String := blanked (lineEnded value)

/-- Whether a character does not survive in a value: white space that is no blank. -/
def isRewritten (c : Char) : Bool := c = '\t' || c = '\n' || c = '\r'

theorem isRewritten_blank (c : Char) : isRewritten (blank c) = false := by
  by_cases space : isMarkupSpace c = true
  · rw [blank, if_pos space]
    decide
  · rw [blank, if_neg space]
    simp only [isMarkupSpace, Bool.or_eq_true, decide_eq_true_eq, not_or] at space
    simp [isRewritten, space]

theorem blank_eq_self {c : Char} (kept : isRewritten c = false) : blank c = c := by
  simp only [isRewritten, Bool.or_eq_false_iff, decide_eq_false_iff_not] at kept
  by_cases space : c = ' '
  · rw [space]
    decide
  · simp [blank, isMarkupSpace, space, kept]

/-- A character that is no white space is kept, and so is what follows it. -/
theorem lineEndsFrom_cons {c : Char} (noSpace : isMarkupSpace c = false) (returned : Bool)
    (s : List Char) : lineEndsFrom returned (c :: s) = c :: lineEndsFrom false s := by
  simp only [isMarkupSpace, Bool.or_eq_false_iff, decide_eq_false_iff_not] at noSpace
  simp [lineEndsFrom, lineEnd, noSpace]

theorem lineEndsFrom_of_not_mem {s : List Char} (absent : '\r' ∉ s) (rest : List Char) :
    lineEndsFrom false (s ++ rest) = s ++ lineEndsFrom false rest := by
  induction s with
  | nil => rfl
  | cons c s ih =>
    rw [List.mem_cons, not_or] at absent
    have other : c ≠ '\r' := Ne.symm absent.1
    simp [lineEndsFrom, lineEnd, other, ih absent.2]

/-- No characters come in but line feeds. -/
theorem mem_of_mem_lineEndsFrom {returned : Bool} {s : List Char} {c : Char}
    (inEnds : c ∈ lineEndsFrom returned s) : c = '\n' ∨ c ∈ s := by
  induction s generalizing returned with
  | nil => exact .inr inEnds
  | cons d s ih =>
    rw [lineEndsFrom, List.mem_append] at inEnds
    obtain first | behind := inEnds
    · unfold lineEnd at first
      split at first
      · cases first
      · split at first
        · exact .inl (List.mem_singleton.mp first)
        · exact .inr (List.mem_cons.mpr (.inl (List.mem_singleton.mp first)))
    · exact (ih behind).imp_right (List.mem_cons_of_mem _)

theorem isAllowed_lineEnded {text : String} (allowed : IsAllowed text) : IsAllowed (lineEnded text) := by
  intro c within
  rw [lineEnded, String.toList_ofList] at within
  obtain rfl | among := mem_of_mem_lineEndsFrom within
  · decide
  · exact allowed c among

/-- **A value survives** exactly if it has no tab, no line feed and no carriage return. -/
theorem normalizedValue_eq_self_iff {value : String} :
    normalizedValue value = value ↔ ∀ c ∈ value.toList, isRewritten c = false := by
  constructor
  · intro same c within
    rw [← same, normalizedValue, blanked, String.toList_ofList, List.mem_map] at within
    obtain ⟨d, -, rfl⟩ := within
    exact isRewritten_blank d
  · intro plain
    have noReturn : '\r' ∉ value.toList := fun within => by
      have := plain _ within
      revert this
      decide
    have ends : lineEnds value.toList = value.toList := by
      simpa [lineEnds, lineEndsFrom] using lineEndsFrom_of_not_mem noReturn []
    rw [normalizedValue, lineEnded, ends, String.ofList_toList, blanked,
      List.map_congr_left fun c within => blank_eq_self (plain c within), List.map_id',
      String.ofList_toList]

example : normalizedValue "a\r\nb\tc" = "a b c" := by decide

/-! ### Values that are written -/

/-- **How a character is escaped**: it stands as itself, or there is nothing in it or in what is
written for it that may not stand in a document or that is white space. -/
theorem escapeChar_cases (c : Char) : escapeChar c = [c] ∨
    ∀ d ∈ c :: escapeChar c, isXmlChar d = true ∧ isMarkupSpace d = false := by
  have entities : ∀ e ∈ namedEntities, (e.1 :: '&' :: (e.2.toList ++ [';'])).all
      (fun d => isXmlChar d && !isMarkupSpace d) = true := by decide
  unfold escapeChar
  split
  · rename_i named name found
    obtain rfl : named = c := by simpa using List.find?_some found
    have fine := entities _ (List.mem_of_find?_eq_some found)
    simp only [List.all_eq_true, Bool.and_eq_true, Bool.not_eq_true'] at fine
    exact .inr fine
  · exact .inl rfl

theorem isMarkupSpace_of_isRewritten {c : Char} (rewritten : isRewritten c = true) :
    isMarkupSpace c = true := by
  simp only [isRewritten, Bool.or_eq_true, decide_eq_true_eq] at rewritten
  rcases rewritten with (rfl | rfl) | rfl <;> rfl

/-- An escaped text may stand in a document if the text may. -/
theorem isXmlChar_escape {s : List Char} :
    (∀ c ∈ escape s, isXmlChar c = true) ↔ ∀ c ∈ s, isXmlChar c = true := by
  have one : ∀ c, (∀ d ∈ escapeChar c, isXmlChar d = true) ↔ isXmlChar c = true := by
    intro c
    obtain same | fine := escapeChar_cases c
    · rw [same, List.forall_mem_singleton]
    · rw [List.forall_mem_cons] at fine
      exact ⟨fun _ => fine.1.1, fun _ d within => (fine.2 d within).1⟩
  simp only [escape, List.forall_mem_flatMap, one]

/-- **White space is not escaped**: an escaped text has in it what the text has. -/
theorem mem_escape_of_isRewritten {d : Char} (rewritten : isRewritten d = true) {s : List Char} :
    d ∈ escape s ↔ d ∈ s := by
  have one : ∀ c, d ∈ escapeChar c ↔ c = d := by
    intro c
    obtain same | fine := escapeChar_cases c
    · rw [same, List.mem_singleton, eq_comm]
    · have other : d ∉ c :: escapeChar c := fun within =>
        Bool.noConfusion ((isMarkupSpace_of_isRewritten rewritten).symm.trans (fine d within).2)
      exact ⟨fun within => absurd (List.mem_cons_of_mem _ within) other,
        fun same => absurd (same ▸ List.mem_cons_self) other⟩
  simp only [escape, List.mem_flatMap, one, exists_eq_right]

/-- White space in an escaped text becomes blanks where it does in the text. -/
theorem escape_map_blank (s : List Char) : escape (s.map blank) = (escape s).map blank := by
  have one : ∀ c, escapeChar (blank c) = (escapeChar c).map blank := by
    intro c
    obtain same | fine := escapeChar_cases c
    · by_cases space : isMarkupSpace c = true
      · rw [same, List.map_singleton, blank, if_pos space]
        decide
      · rw [same, List.map_singleton, blank, if_neg space, same]
    · have kept : ∀ d ∈ c :: escapeChar c, blank d = d := fun d within => by
        rw [blank, (fine d within).2, if_neg Bool.false_ne_true]
      rw [List.forall_mem_cons] at kept
      rw [kept.1, List.map_congr_left kept.2, List.map_id']
  simp only [escape, List.flatMap_map, List.map_flatMap, one]

theorem escape_cons (c : Char) (s : List Char) : escape (c :: s) = escapeChar c ++ escape s := rfl

theorem escape_append (s t : List Char) : escape (s ++ t) = escape s ++ escape t :=
  List.flatMap_append

/-- **The ends of lines in a value** in quotes are those of the value, escaped. -/
theorem lineEndsFrom_escape (s rest : List Char) (returned : Bool) :
    lineEndsFrom returned (escape s ++ '"' :: rest) =
      escape (lineEndsFrom returned s) ++ '"' :: lineEndsFrom false rest := by
  induction s generalizing returned with
  | nil => exact lineEndsFrom_cons (by decide) returned rest
  | cons c s ih =>
    rw [escape_cons, List.append_assoc]
    obtain same | fine := escapeChar_cases c
    · have piece : escape (lineEnd returned c) = lineEnd returned c := by
        unfold lineEnd
        split
        · rfl
        · split
          · decide
          · rw [escape, List.flatMap_singleton, same]
      rw [same, List.singleton_append, lineEndsFrom, ih, lineEndsFrom, escape_append, piece,
        List.append_assoc]
    · -- The first character of an entity ends whatever line end stands before it.
      obtain ⟨first, more, written⟩ := List.exists_cons_of_ne_nil
        (show escapeChar c ≠ [] by simpa [escape] using escape_ne_nil (List.cons_ne_nil c []))
      have noReturn : '\r' ∉ more := fun within =>
        Bool.noConfusion ((fine '\r' (by simp [written, within])).2.symm.trans rfl)
      rw [written, List.cons_append, lineEndsFrom_cons (fine first (by simp [written])).2,
        lineEndsFrom_of_not_mem noReturn, ih, lineEndsFrom_cons (fine c List.mem_cons_self).2,
        escape_cons, written, List.append_assoc, List.cons_append]

/-! ### Values as they stand in a text -/

/-- The tag of an event, if it has attributes. -/
def Event.tag? : Event → Option Tag
  | opening tag | selfClosing tag => some tag
  | closing _ | text _ | verbatim _ | aside => none

/-- The values of the attributes of a tag, as they are written. -/
def Tag.writtenValues (tag : Tag) : List (List Char) :=
  ((readAttributes? tag.attributeText.length [] tag.attributeText).getD []).map Prod.snd

/-- **The values of all attributes in a text**, as they are written, in order. -/
def writtenValues (text : String) : List (List Char) :=
  ((scan text).events.filterMap Event.tag?).flatMap Tag.writtenValues

/-! ### Processors -/

/-- A tag with blanks for the white space in it: in the values of its attributes, that is, since
between these it makes no difference. -/
def Tag.normalized (tag : Tag) : Tag := { tag with attributeText := tag.attributeText.map blank }

/-- An event with the values of its attributes normalised. -/
def Event.normalized : Event → Event
  | opening tag => opening tag.normalized
  | selfClosing tag => selfClosing tag.normalized
  | closing name => closing name
  | text written => text written
  | verbatim characters => verbatim characters
  | aside => aside

/-- **The tree of a text** with the values of all attributes normalised. -/
def normalizedTree (text : String) : Except DocumentError Element :=
  treeOfEvents ((scan text).events.map Event.normalized)

/-- An attribute with its value as it is written, between double quotes and behind one blank. -/
def quoted (entry : List Char × List Char) : List Char :=
  ' ' :: (entry.1 ++ '=' :: '"' :: (entry.2 ++ ['"']))

/-- An attribute that may be written so: its key is a name, no bracket opens and no quote closes in
its value, and the references in that stand for characters. -/
structure IsPlainAttribute (key value : List Char) : Prop where
  name : isXmlName (String.ofList key) = true
  bracket : '<' ∉ value
  quote : '"' ∉ value
  references : ∃ text, unescape? value = some text ∧ ∀ c ∈ text, isXmlChar c = true

/-- A tag that consists of its name and such attributes. -/
def Tag.IsPlain (tag : Tag) : Prop :=
  isXmlName tag.name = true ∧ ∃ attributes : List (List Char × List Char),
    tag.attributeText = attributes.flatMap quoted ∧
      ∀ entry ∈ attributes, IsPlainAttribute entry.1 entry.2

/-- An event of a plain document: such a tag, a closing one, or white space between tags. -/
def Event.IsPlain : Event → Prop
  | opening tag | selfClosing tag => tag.IsPlain
  | closing _ => True
  | text written => written.all isMarkupSpace = true
  | verbatim _ | aside => False

/-- **A plain document**: a well-formed one that begins with its declaration and is made of nothing
else but plain tags and white space between them. -/
structure IsPlainDocument (text : String) : Prop extends IsWellFormed text where
  declared : ∃ body, text = "<?xml version=\"1.0\"?>" ++ body
  plain : ∀ event ∈ (scan text).events.tail, event.IsPlain

/-- **What is assumed of a processor** that gives the root of a document, or nothing if it refuses
the text. It refuses every text with a character that may not stand in one. It does not refuse a
plain document, and gives the elements and the values in it, both of these after the ends of lines
and the white space in values have been normalised. Of the texts between tags nothing is assumed. -/
structure Conforms (read? : String → Option Element) : Prop where
  refuses : ∀ text, ¬IsAllowed text → read? text = none
  reads : ∀ text root, IsAllowed text → IsPlainDocument (lineEnded text) →
    normalizedTree (lineEnded text) = .ok root →
      ∃ given, read? text = some given ∧ given.bare = root.bare

/-- **A processor** that keeps to the letter of the three rules. -/
def processed? (text : String) : Option Element :=
  if IsAllowed text then (normalizedTree (lineEnded text)).toOption else none

theorem conforms_processed? : Conforms processed? where
  refuses text forbidden := if_neg forbidden
  reads text root allowed _ built := by
    refine ⟨root, ?_, rfl⟩
    rw [processed?, if_pos allowed, built]
    rfl

end VerifierTrials.Xml
