import VerifierTrials.Proofs.Xml.Scanning
import VerifierTrials.Xml.Tree

/-!
# Building the tree of a document

Building a tree event by event, with a stack of open elements, gives the element that a
structural reading of the content gives (`Xml.elementOf`): its attributes are those of its tag,
its text is all the text directly in it, and its children are the elements in it, self-closing
ones as elements without content.

The induction is over a content inside an open element. Following its events adds its text and
its children to that element and leaves everything below it on the stack alone
(`Xml.Builder.foldlM_events`).
-/

namespace VerifierTrials.Xml

namespace Content

/-- The text directly in a content. -/
def directText : Content → List Char
  | nil => []
  | text written rest => valueOf written ++ rest.directText
  | verbatim characters rest => characters ++ rest.directText
  | element _ _ rest | selfClosing _ rest | aside _ rest => rest.directText

/-- The elements in a content with everything in them. -/
def children : Content → List Element
  | nil => []
  | element tag inner rest =>
    { name := tag.name
      attributes := tag.attributes?.getD []
      text := String.ofList inner.directText
      children := inner.children } :: rest.children
  | selfClosing tag rest =>
    { name := tag.name, attributes := tag.attributes?.getD [] } :: rest.children
  | text _ rest | verbatim _ rest | aside _ rest => rest.children

end Content

/-- **The element that a tag and a content stand for.** -/
def elementOf (element : Tag × Content) : Element where
  name := element.1.name
  attributes := element.1.attributes?.getD []
  text := String.ofList element.2.directText
  children := element.2.children

theorem Content.children_eq (content : Content) :
    content.children = content.elements.map elementOf := by
  induction content with
  | nil => rfl
  | element tag inner rest _ ih => exact congrArg (_ :: ·) ih
  | selfClosing tag rest ih => exact congrArg (_ :: ·) ih
  | text _ _ ih | verbatim _ _ ih | aside _ _ ih => exact ih

/-- The children of a name are the elements of that name. -/
theorem childrenNamed_elementOf (element : Tag × Content) (name : String) :
    (elementOf element).childrenNamed name = (element.2.named name).map elementOf := by
  rw [Element.childrenNamed, elementOf, Content.children_eq, List.filter_map]
  rfl

namespace Builder

section FoldlM

variable {first second : List Event} {builder builder' : Builder}

theorem foldlM_cons_of_ok {event : Event} (stepped : builder.step event = .ok builder') :
    (event :: second).foldlM Builder.step builder = second.foldlM Builder.step builder' := by
  rw [List.foldlM_cons, stepped]
  rfl

theorem foldlM_append_of_ok (followed : first.foldlM Builder.step builder = .ok builder') :
    (first ++ second).foldlM Builder.step builder = second.foldlM Builder.step builder' := by
  rw [List.foldlM_append, followed]
  rfl

end FoldlM

theorem element_eq_ok {tag : Tag} (valued : tag.attributes?.isSome = true) :
    element tag = .ok { name := tag.name, attributes := tag.attributes?.getD [] } := by
  obtain ⟨attributes, read⟩ := Option.isSome_iff_exists.1 valued
  simp [element, read]

/-- An element with further text and children. -/
def extend (current : Element) (content : Content) : Element :=
  { current with
    text := current.text ++ String.ofList content.directText
    children := current.children ++ content.children }

theorem extend_nil (current : Element) : extend current .nil = current := by
  cases current
  simp [extend, Content.directText, Content.children]

/-- **Following a content** adds its text and its children to the innermost open element, and
nothing else happens. -/
theorem foldlM_events {content : Content} (texts : content.textsHaveValues = true)
    (tags : content.tagsHaveValues = true) (current : Element) (outer : List Element)
    (root? : Option Element) :
    content.events.foldlM Builder.step ⟨current :: outer, root?⟩ =
      .ok ⟨extend current content :: outer, root?⟩ := by
  -- Inside an element another one is innermost, and the current one lies below it.
  induction content generalizing current outer with
  | nil =>
    rw [extend_nil]
    rfl
  | element tag inner rest ihi ihr =>
    simp only [Content.textsHaveValues, Content.tagsHaveValues, Bool.and_eq_true] at texts tags
    obtain ⟨⟨tagValued, innerValued⟩, restValued⟩ := tags
    have opening : Builder.step ⟨current :: outer, root?⟩ (.opening tag) =
        .ok ⟨{ name := tag.name, attributes := tag.attributes?.getD [] } :: current :: outer,
          root?⟩ := by
      simp only [Builder.step, isClosed, element_eq_ok tagValued]
      rfl
    have closing : Builder.step
        ⟨extend { name := tag.name, attributes := tag.attributes?.getD [] } inner ::
          current :: outer, root?⟩ (.closing tag.name) =
        .ok ⟨extend current (.element tag inner .nil) :: outer, root?⟩ := by
      simp [Builder.step, finish, extend, Content.directText, Content.children]
    rw [Content.events, foldlM_cons_of_ok opening,
      foldlM_append_of_ok (ihi texts.1 innerValued _ _), foldlM_cons_of_ok closing,
      ihr texts.2 restValued]
    simp [extend, Content.directText, Content.children]
  | selfClosing tag rest ih =>
    simp only [Content.tagsHaveValues, Bool.and_eq_true] at tags
    have stepped : Builder.step ⟨current :: outer, root?⟩ (.selfClosing tag) =
        .ok ⟨extend current (.selfClosing tag .nil) :: outer, root?⟩ := by
      have extended : extend current (.selfClosing tag .nil) =
          { current with
            children := current.children ++
              [{ name := tag.name, attributes := tag.attributes?.getD [] }] } := by
        simp [extend, Content.directText, Content.children]
      rw [extended]
      simp only [Builder.step, element_eq_ok tags.1]
      rfl
    rw [Content.events, foldlM_cons_of_ok stepped, ih texts tags.2]
    simp [extend, Content.directText, Content.children]
  | text written rest ih =>
    simp only [Content.textsHaveValues, Bool.and_eq_true] at texts
    have stepped : Builder.step ⟨current :: outer, root?⟩ (.text written) =
        .ok ⟨extend current (.text written .nil) :: outer, root?⟩ := by
      simp [Builder.step, Content.unescape?_eq_valueOf texts.1, addText, extend,
        Content.directText, Content.children]
    rw [Content.events, foldlM_cons_of_ok stepped, ih texts.2 tags]
    simp [extend, Content.directText, Content.children, String.append_assoc]
  | verbatim characters rest ih =>
    have stepped : Builder.step ⟨current :: outer, root?⟩ (.verbatim characters) =
        .ok ⟨extend current (.verbatim characters .nil) :: outer, root?⟩ := by
      simp [Builder.step, addText, extend, Content.directText, Content.children]
    rw [Content.events, foldlM_cons_of_ok stepped, ih texts tags]
    simp [extend, Content.directText, Content.children, String.append_assoc]
  | aside inside rest ih => exact ih texts tags current outer

/-- What comes of roots that have been found outside all elements: there may be only one. -/
def withRoots : List Element → Except DocumentError Builder
  | [] => .ok ⟨[], none⟩
  | [root] => .ok ⟨[], some root⟩
  | _ :: _ :: _ => .error .multipleRoots

/-- **Following a content outside all elements**: the elements in it are roots, and its texts do
not count. -/
theorem foldlM_events_outside {content : Content} (texts : content.textsHaveValues = true)
    (tags : content.tagsHaveValues = true) (root? : Option Element) :
    content.events.foldlM Builder.step ⟨[], root?⟩ =
      withRoots (root?.toList ++ content.elements.map elementOf) := by
  induction content generalizing root? with
  | nil => cases root? <;> rfl
  | element tag inner rest _ ihr =>
    simp only [Content.textsHaveValues, Content.tagsHaveValues, Bool.and_eq_true] at texts tags
    cases root? with
    | some root => rfl
    | none =>
      have opening : Builder.step ⟨[], none⟩ (.opening tag) =
          .ok ⟨[{ name := tag.name, attributes := tag.attributes?.getD [] }], none⟩ := by
        simp only [Builder.step, isClosed, element_eq_ok tags.1.1]
        rfl
      have closing : Builder.step
          ⟨[extend { name := tag.name, attributes := tag.attributes?.getD [] } inner], none⟩
            (.closing tag.name) = .ok ⟨[], some (elementOf (tag, inner))⟩ := by
        simp [Builder.step, finish, extend, elementOf]
      rw [Content.events, foldlM_cons_of_ok opening,
        foldlM_append_of_ok (foldlM_events texts.1 tags.1.2 _ _ _), foldlM_cons_of_ok closing,
        ihr texts.2 tags.2]
      rfl
  | selfClosing tag rest ih =>
    simp only [Content.tagsHaveValues, Bool.and_eq_true] at tags
    cases root? with
    | some root =>
      have stepped : Builder.step ⟨[], some root⟩ (.selfClosing tag) = .error .multipleRoots := by
        simp only [Builder.step, element_eq_ok tags.1]
        rfl
      rw [Content.events, List.foldlM_cons, stepped]
      rfl
    | none =>
      have stepped : Builder.step ⟨[], none⟩ (.selfClosing tag) =
          .ok ⟨[], some (elementOf (tag, .nil))⟩ := by
        simp only [Builder.step, element_eq_ok tags.1]
        rfl
      rw [Content.events, foldlM_cons_of_ok stepped, ih texts tags.2]
      rfl
  | text _ _ ih => exact ih (by simp_all [Content.textsHaveValues]) tags root?
  | verbatim _ _ ih | aside _ _ ih => exact ih texts tags root?

/-- **The tree of a document** is the element that its root stands for. -/
theorem foldlM_events_document (document : Document)
    (texts : document.content.textsHaveValues = true)
    (tags : document.content.tagsHaveValues = true) :
    document.events.foldlM Builder.step {} = .ok ⟨[], some (elementOf document.root)⟩ := by
  rw [Document.events, foldlM_events_outside texts tags none, document.isRoot]
  rfl

end Builder

/-! ### From the text of a document to its tree -/

/-- Whether a content can be read: its pieces can be told apart, and its texts and attributes
have values. -/
def Content.isReadable (content : Content) : Bool :=
  content.isProper && content.textsHaveValues && content.tagsHaveValues

/-- Whether an element can be read: its two tags and what stands between them. -/
def IsReadable (element : Tag × Content) : Prop :=
  (isMarkupFor (.opening element.1) element.1.written = true ∧
    isMarkupFor (.closing element.1.name) (closingText element.1.name) = true ∧
    element.1.attributes?.isSome = true) ∧ element.2.isReadable = true

theorem Content.isReadable_element {tag : Tag} {inner rest : Content}
    (readable : IsReadable (tag, inner)) (restReadable : rest.isReadable = true) :
    (Content.element tag inner rest).isReadable = true := by
  obtain ⟨⟨opening, closing, valued⟩, innerReadable⟩ := readable
  simp only [Content.isReadable, Bool.and_eq_true] at innerReadable restReadable
  simp [Content.isReadable, Content.isProper, Content.textsHaveValues, Content.tagsHaveValues,
    opening, closing, valued, innerReadable, restReadable]

/-- **Whether a document can be read**: its text can be scanned, and its texts and attributes
have values. -/
def Document.isReadable (document : Document) : Bool :=
  document.isProper && document.content.textsHaveValues && document.content.tagsHaveValues

/-- A document can be read when its content can, unless it begins with what looks like a mark of
the byte order. -/
theorem Document.isReadable_of_content {document : Document}
    (readable : document.content.isReadable = true)
    (unmarked : document.content.written.head? ≠ some (Char.ofNat 0xFEFF)) :
    document.isReadable = true := by
  simp only [Content.isReadable, Bool.and_eq_true] at readable
  simp only [Document.isReadable, Document.isProper, Bool.and_eq_true, bne_iff_ne]
  exact ⟨⟨⟨readable.1.1, unmarked⟩, readable.1.2⟩, readable.2⟩

/-- **Reading the text of a document** gives the element that its root stands for. -/
theorem tree_written {document : Document} (readable : document.isReadable = true) :
    tree document.written = .ok (elementOf document.root) := by
  simp only [Document.isReadable, Bool.and_eq_true] at readable
  obtain ⟨⟨proper, texts⟩, tags⟩ := readable
  simp only [tree, scan_written proper, Builder.foldlM_events_document document texts tags]
  rfl

end VerifierTrials.Xml
