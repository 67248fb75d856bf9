import VerifierTrials.Xml.Event

/-!
# Documents before they are read

What stands in an element, or in a whole document: elements with their own content,
self-closing tags, texts and asides, one after the other (`Xml.Content`). The events of a
document are the traversal of its content (`Xml.Content.events`). Tags and texts stand as they
are written, so that any attributes and entities may occur.

A reader that wants the values in a content looks for elements by their names
(`Xml.Content.named`) and down a path of names (`Xml.Content.along`); both keep the order of the
document. To them a self-closing tag is an element without content.

A **document** is a content with one element outside all others (`Xml.Document`).
-/

namespace VerifierTrials.Xml

/-- **What stands in an element**, piece by piece. -/
inductive Content where
  | nil
  | element (tag : Tag) (inner rest : Content)
  /-- An element without content, written as one tag. -/
  | selfClosing (tag : Tag) (rest : Content)
  /-- Text with its entities as written. -/
  | text (written : List Char) (rest : Content)
  /-- Text in which nothing is an entity. -/
  | verbatim (characters : List Char) (rest : Content)
  /-- A comment, a declaration or a processing instruction, as it is written between its
  brackets. -/
  | aside (written : List Char) (rest : Content)
  deriving DecidableEq, Repr

namespace Content

/-- **The events of a content**: its traversal. -/
def events : Content → List Event
  | nil => []
  | element tag inner rest => .opening tag :: (inner.events ++ .closing tag.name :: rest.events)
  | selfClosing tag rest => .selfClosing tag :: rest.events
  | text written rest => .text written :: rest.events
  | verbatim characters rest => .verbatim characters :: rest.events
  | aside _ rest => .aside :: rest.events

/-! ### Elements -/

/-- The elements that stand in a content itself, each with its tag and its own content. -/
def elements : Content → List (Tag × Content)
  | nil => []
  | element tag inner rest => (tag, inner) :: rest.elements
  | selfClosing tag rest => (tag, nil) :: rest.elements
  | text _ rest | verbatim _ rest | aside _ rest => rest.elements

/-- **The elements of a name** that stand in a content, in order. -/
def named (name : String) (content : Content) : List (Tag × Content) :=
  content.elements.filter fun element => element.1.name == name

/-- **What stands at the end of a path of names**, in the order of the document. -/
def along : List String → Content → List Content
  | [], content => [content]
  | name :: names, content => (content.named name).flatMap fun element => element.2.along names

section Equations

variable (name : String) (names : List String) (tag : Tag) (inner rest : Content)

theorem named_element : (element tag inner rest).named name =
    (if tag.name = name then [(tag, inner)] else []) ++ rest.named name := by
  by_cases same : tag.name = name <;> simp [named, elements, same]

theorem named_selfClosing : (selfClosing tag rest).named name =
    (if tag.name = name then [(tag, nil)] else []) ++ rest.named name := by
  by_cases same : tag.name = name <;> simp [named, elements, same]

theorem along_element : (element tag inner rest).along (name :: names) =
    (if tag.name = name then inner.along names else []) ++ rest.along (name :: names) := by
  rw [along, along, named_element]
  split <;> simp

theorem along_selfClosing : (selfClosing tag rest).along (name :: names) =
    (if tag.name = name then nil.along names else []) ++ rest.along (name :: names) := by
  rw [along, along, named_selfClosing]
  split <;> simp

end Equations

/-! ### Texts -/

/-- What a text reads as. -/
def valueOf (written : List Char) : List Char := (unescape? written).getD []

/-- Whether all texts in a content have values. -/
def textsHaveValues : Content → Bool
  | nil => true
  | element _ inner rest => inner.textsHaveValues && rest.textsHaveValues
  | text written rest => (unescape? written).isSome && rest.textsHaveValues
  | selfClosing _ rest | verbatim _ rest | aside _ rest => rest.textsHaveValues

/-- Whether the attributes of all tags in a content have values. -/
def tagsHaveValues : Content → Bool
  | nil => true
  | element tag inner rest =>
    tag.attributes?.isSome && inner.tagsHaveValues && rest.tagsHaveValues
  | selfClosing tag rest => tag.attributes?.isSome && rest.tagsHaveValues
  | text _ rest | verbatim _ rest | aside _ rest => rest.tagsHaveValues

theorem unescape?_eq_valueOf {written : List Char} (valued : (unescape? written).isSome) :
    unescape? written = some (valueOf written) := by
  obtain ⟨value, reads⟩ := Option.isSome_iff_exists.1 valued
  simp [valueOf, reads]

end Content

/-- **A document**: a content with one element outside all others, its root. -/
structure Document where
  content : Content
  root : Tag × Content
  isRoot : content.elements = [root]

/-- The events of a document. -/
def Document.events (document : Document) : List Event := document.content.events

end VerifierTrials.Xml
