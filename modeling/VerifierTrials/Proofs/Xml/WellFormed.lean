import VerifierTrials.Proofs.Xml.Traversal

/-!
# Documents that are well-formed

A text is **a document** if it is markup all through, its tags are balanced, one element stands
outside all others, and its texts have values (`Xml.IsDocument`). Its events are the traversal of a
content then, which has that one element (`Xml.isDocument_iff`). To be well-formed it takes two
things more: outside that element there is nothing but white space and asides, and the attributes of
every tag are a list without a name twice (`Xml.IsWellFormed`).

All of this is said of the events of the text and of what is open at each of them, so that it does
not depend on how the asides are written.
-/

namespace VerifierTrials.Xml

namespace Event

/-- Whether the entities of an event have values, if it is a text. -/
def textHasValue : Event → Bool
  | text written => (unescape? written).isSome
  | opening _ | selfClosing _ | closing _ | verbatim _ | aside => true

/-- Whether an event is nothing but white space, if it is a text. -/
def isBlank : Event → Bool
  | text written => written.all isMarkupSpace
  | verbatim _ => false
  | opening _ | selfClosing _ | closing _ | aside => true

/-- Whether the attributes of an event are a list without a name twice, if it is a tag. -/
def hasAttributes : Event → Bool
  | opening tag | selfClosing tag =>
    (readAttributes? tag.attributeText.length [] tag.attributeText).isSome
  | text _ | closing _ | verbatim _ | aside => true

end Event

/-- The events that stand outside all elements. -/
def outside (events : List Event) : List Event := selected (fun names _ => names.isEmpty) [] events

/-- **A document**: markup all through, one element outside all others, and nothing left open. That
closing tags close what is open is part of its being markup. -/
structure IsDocument (text : String) : Prop where
  complete : (scan text).complete = true
  closed : openNames (scan text).events = []
  single : (outermost (scan text).events).length = 1
  valued : ∀ event ∈ (scan text).events, event.textHasValue = true

/-- **A well-formed document.** -/
structure IsWellFormed (text : String) : Prop extends IsDocument text where
  blank : ∀ event ∈ outside (scan text).events, event.isBlank = true
  attributes : ∀ event ∈ (scan text).events, event.hasAttributes = true

theorem Content.textsHaveValues_iff (content : Content) :
    content.textsHaveValues = true ↔ ∀ event ∈ content.events, event.textHasValue = true := by
  induction content with
  | nil => simp [events, textsHaveValues]
  | element tag inner rest ihi ihr =>
    simp [events, textsHaveValues, Event.textHasValue, ihi, ihr, or_imp, forall_and]
  | selfClosing _ _ ih | verbatim _ _ ih | aside _ _ ih =>
    simp [events, textsHaveValues, Event.textHasValue, ih]
  | text _ _ ih => simp [events, textsHaveValues, Event.textHasValue, ih]

/-- **The events of a document** are the traversal of one. -/
theorem isDocument_iff {text : String} :
    IsDocument text ↔ ∃ document : Document, scan text = ⟨document.events, true⟩ ∧
      document.content.textsHaveValues = true := by
  constructor
  · rintro ⟨complete, closed, single, valued⟩
    obtain ⟨content, elements, shape⟩ := exists_eq_events_append_unclosed (isMatched_scan text)
    rw [shape] at closed single valued
    obtain rfl : elements = [] := by
      rw [openNames_append_unclosed] at closed
      simpa using closed
    rw [length_outermost, content.children_eq, List.length_map, List.length_nil] at single
    obtain ⟨root, isRoot⟩ := List.length_eq_one_iff.mp (show content.elements.length = 1 by omega)
    rw [unclosed, List.flatMap_nil, List.append_nil] at shape valued
    refine ⟨⟨content, root, isRoot⟩, ?_, content.textsHaveValues_iff.mpr valued⟩
    rw [Document.events, ← shape, ← complete]
  · rintro ⟨⟨content, root, isRoot⟩, scanned, valued⟩
    have shape : content.events = content.events ++ unclosed [] := by simp [unclosed]
    refine ⟨by rw [scanned], ?_, ?_, ?_⟩ <;> rw [scanned, Document.events]
    · rw [shape, openNames_append_unclosed]
      rfl
    · rw [shape, length_outermost, content.children_eq, isRoot]
      rfl
    · exact content.textsHaveValues_iff.mp valued

end VerifierTrials.Xml
