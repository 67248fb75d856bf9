import VerifierTrials.Proofs.Xml.Building
import VerifierTrials.Proofs.Xml.Escaping

/-!
# Reading what has been printed

A document that has been printed is read as the tree it was printed from
(`Xml.tree_renderDocument`). The names and the keys in it have to be such that they can be told
from what stands around them (`Xml.Node.isWritable`); the values of attributes may be anything.

The printer begins a new line for each element and for each closing tag. A reader does not pass
over these line breaks: they are the text of the element they stand in. So the tree that is read
differs from the one that was printed, but in nothing else (`Xml.Node.element`), and without its
texts it is the same (`Xml.Node.bare`, `Xml.bare_element`).

The proof goes over the document that the printed text is the text of: an indentation and an
element by turns (`Xml.Node.content`, `Xml.contents`). Both are followed by what stands behind
them, since that no text follows another is seen only from there.
-/

namespace VerifierTrials.Xml

open VerifierTrials.Text

/-! ### Trees that can be printed -/

/-- Whether a tag can be written that has a name and attributes with some keys: the name is one,
and so are the keys, none of them twice. -/
def isTag (name : String) (keys : List String) : Bool :=
  isName name && keys.all isKey && decide keys.Nodup

mutual

/-- **Whether an element can be written**, with everything in it. -/
def Node.isWritable : Node → Bool
  | .leaf name attributes => isTag name (attributes.map Prod.fst)
  | .branch name attributes children =>
    isTag name (attributes.map Prod.fst) && allWritable children

/-- Whether all of some elements can be written. -/
def allWritable : List Node → Bool
  | [] => true
  | node :: nodes => node.isWritable && allWritable nodes

end

theorem allWritable_eq (nodes : List Node) : allWritable nodes = nodes.all Node.isWritable := by
  induction nodes with
  | nil => rfl
  | cons node nodes ih => rw [allWritable, ih, List.all_cons]

/-- Self-closing elements with the same name and the same keys can all be written if one can. -/
theorem allWritable_map_leaf {α : Type} {name : String} {keys : List String}
    (fine : isTag name keys = true) {attributesOf : α → List (String × String)}
    (keyed : ∀ one, (attributesOf one).map Prod.fst = keys) (all : List α) :
    allWritable (all.map fun one => .leaf name (attributesOf one)) = true := by
  induction all with
  | nil => rfl
  | cons one all ih =>
    rw [List.map_cons, allWritable, Node.isWritable, keyed, fine, ih, Bool.and_self]

/-! ### The document that is printed -/

mutual

/-- An element on a line of its own, and what follows it. -/
def Node.content (depth : Nat) (rest : Content) : Node → Content
  | .leaf name attributes =>
    .text (indent depth).toList (.selfClosing (tagOf name attributes) rest)
  | .branch name attributes children =>
    .text (indent depth).toList (.element (tagOf name attributes) (contents depth children) rest)

/-- **What is printed between two tags** that stand at a depth: the elements between them, one
step further in, and the indentation of the closing tag. -/
def contents (outer : Nat) : List Node → Content
  | [] => .text (indent outer).toList .nil
  | node :: nodes => node.content (outer + 1) (contents outer nodes)

end

mutual

theorem written_content (depth : Nat) (rest : Content) : ∀ node : Node,
    (node.content depth rest).written = (node.render depth).toList ++ rest.written
  | .leaf name attributes => by
    simp [Node.content, Node.render, Content.written, bracketed, Tag.written, tagOf]
  | .branch name attributes children => by
    have inner := written_contents depth children
    simp [Node.content, Node.render, Content.written, bracketed, Tag.written, tagOf,
      closingText, inner]

theorem written_contents (outer : Nat) : ∀ nodes : List Node,
    (contents outer nodes).written = (renderAll (outer + 1) nodes ++ indent outer).toList
  | [] => by simp [contents, Content.written, renderAll]
  | node :: nodes => by
    have first := written_content (outer + 1) (contents outer nodes) node
    have others := written_contents outer nodes
    simp [contents, first, others, renderAll]

end

/-! ### It can be read -/

/-- An indentation is a line feed and blanks. -/
theorem toList_indent (depth : Nat) :
    (indent depth).toList = '\n' :: List.replicate (2 * depth) ' ' := by
  simp [indent, line]

theorem isMarkupSpace_of_mem_indent {depth : Nat} {c : Char} (among : c ∈ (indent depth).toList) :
    isMarkupSpace c = true := by
  rw [toList_indent, List.mem_cons, List.mem_replicate] at among
  rcases among with rfl | ⟨-, rfl⟩ <;> rfl

theorem not_mem_indent {depth : Nat} {c : Char} (noSpace : isMarkupSpace c = false) :
    c ∉ (indent depth).toList := fun among => by
  rw [isMarkupSpace_of_mem_indent among] at noSpace
  cases noSpace

theorem unescape?_indent (depth : Nat) :
    unescape? (indent depth).toList = some (indent depth).toList :=
  unescape?_of_not_mem (not_mem_indent rfl)

/-- An indentation before markup can be read. -/
theorem isReadable_indent (depth : Nat) {rest : Content} (noText : rest.beginsWithText = false)
    (readable : rest.isReadable = true) :
    (Content.text (indent depth).toList rest).isReadable = true := by
  have nonempty : (indent depth).toList ≠ [] := by simp [toList_indent]
  have noBracket : '<' ∉ (indent depth).toList := not_mem_indent rfl
  simp only [Content.isReadable, Bool.and_eq_true] at readable
  simp [Content.isReadable, Content.isProper, Content.textsHaveValues, Content.tagsHaveValues,
    unescape?_indent, nonempty, noBracket, noText, readable]

section Tags

variable {name : String} {attributes : List (String × String)}

theorem isTag_iff : isTag name (attributes.map Prod.fst) = true ↔
    (isName name = true ∧ ∀ entry ∈ attributes, isKey entry.1 = true) ∧
      (attributes.map Prod.fst).Nodup := by
  simp only [isTag, Bool.and_eq_true, List.all_eq_true, List.forall_mem_map, decide_eq_true_eq]

theorem attributes?_of_isTag (fine : isTag name (attributes.map Prod.fst) = true) :
    (tagOf name attributes).attributes? = some attributes := by
  obtain ⟨⟨-, keyed⟩, distinct⟩ := isTag_iff.1 fine
  exact attributes?_tagOf name keyed distinct

theorem isReadable_selfClosing (fine : isTag name (attributes.map Prod.fst) = true) {rest : Content}
    (readable : rest.isReadable = true) :
    (Content.selfClosing (tagOf name attributes) rest).isReadable = true := by
  obtain ⟨⟨named, keyed⟩, -⟩ := isTag_iff.1 fine
  simp only [Content.isReadable, Bool.and_eq_true] at readable
  simp [Content.isReadable, Content.isProper, Content.textsHaveValues, Content.tagsHaveValues,
    isMarkupFor_selfClosing named keyed, attributes?_of_isTag fine, readable]

theorem isReadable_of_isTag (fine : isTag name (attributes.map Prod.fst) = true) {inner : Content}
    (readable : inner.isReadable = true) : IsReadable (tagOf name attributes, inner) := by
  obtain ⟨⟨named, keyed⟩, -⟩ := isTag_iff.1 fine
  refine ⟨⟨isMarkupFor_opening named keyed, isMarkupFor_closing named, ?_⟩, readable⟩
  rw [attributes?_of_isTag fine, Option.isSome_some]

end Tags

mutual

theorem isReadable_content (depth : Nat) {rest : Content} (readable : rest.isReadable = true) :
    ∀ {node : Node}, node.isWritable = true → (node.content depth rest).isReadable = true
  | .leaf name attributes, writable => by
    rw [Node.isWritable] at writable
    exact isReadable_indent depth rfl (isReadable_selfClosing writable readable)
  | .branch name attributes children, writable => by
    rw [Node.isWritable, Bool.and_eq_true] at writable
    have readableElement := isReadable_of_isTag writable.1 (isReadable_contents depth writable.2)
    exact isReadable_indent depth rfl (Content.isReadable_element readableElement readable)

theorem isReadable_contents (outer : Nat) :
    ∀ {nodes : List Node}, allWritable nodes = true → (contents outer nodes).isReadable = true
  | [], _ => isReadable_indent outer rfl rfl
  | node :: nodes, writable => by
    rw [allWritable, Bool.and_eq_true] at writable
    exact isReadable_content (outer + 1) (isReadable_contents outer writable.2) writable.1

end

/-! ### It is read as the tree it was printed from -/

/-- What the printer puts between the tags of an element that stands at a depth, around the
elements in it. -/
def layout (outer : Nat) : List Node → String
  | [] => indent outer
  | _ :: nodes => indent (outer + 1) ++ layout outer nodes

mutual

/-- **The element that a printed one is read as** when it stands at a depth. -/
def Node.element (depth : Nat) : Node → Element
  | .leaf name attributes => { name, attributes }
  | .branch name attributes children =>
    { name, attributes, text := layout depth children, children := elementsAt (depth + 1) children }

/-- The elements that printed ones are read as. -/
def elementsAt (depth : Nat) : List Node → List Element
  | [] => []
  | node :: nodes => node.element depth :: elementsAt depth nodes

end

theorem elementsAt_eq (depth : Nat) (nodes : List Node) :
    elementsAt depth nodes = nodes.map (Node.element depth) := by
  induction nodes with
  | nil => rfl
  | cons node nodes ih => rw [elementsAt, ih, List.map_cons]

theorem directText_content (depth : Nat) (rest : Content) (node : Node) :
    (node.content depth rest).directText = (indent depth).toList ++ rest.directText := by
  cases node <;> simp [Node.content, Content.directText, Content.valueOf, unescape?_indent]

theorem directText_contents (outer : Nat) (nodes : List Node) :
    (contents outer nodes).directText = (layout outer nodes).toList := by
  induction nodes with
  | nil => simp [contents, layout, Content.directText, Content.valueOf, unescape?_indent]
  | cons node nodes ih =>
    rw [contents, directText_content, ih, layout, String.toList_append]

mutual

theorem children_content (depth : Nat) (rest : Content) : ∀ {node : Node},
    node.isWritable = true →
      (node.content depth rest).children = node.element depth :: rest.children
  | .leaf name attributes, writable => by
    rw [Node.isWritable] at writable
    rw [Node.content, Node.element, Content.children, Content.children,
      attributes?_of_isTag writable]
    rfl
  | .branch name attributes children, writable => by
    rw [Node.isWritable, Bool.and_eq_true] at writable
    rw [Node.content, Node.element, Content.children, Content.children,
      attributes?_of_isTag writable.1, directText_contents, String.ofList_toList,
      children_contents depth writable.2]
    rfl

theorem children_contents (outer : Nat) : ∀ {nodes : List Node}, allWritable nodes = true →
    (contents outer nodes).children = elementsAt (outer + 1) nodes
  | [], _ => rfl
  | node :: nodes, writable => by
    rw [allWritable, Bool.and_eq_true] at writable
    rw [contents, elementsAt, children_content (outer + 1) _ writable.1,
      children_contents outer writable.2]

end

/-- What stands before the root of a printed document. -/
def declaration : List Char := "?xml version=\"1.0\"?".toList

/-- The tag and the content of a printed element. -/
def Node.parts (depth : Nat) : Node → Tag × Content
  | .leaf name attributes => (tagOf name attributes, .nil)
  | .branch name attributes children => (tagOf name attributes, contents depth children)

theorem elements_content (depth : Nat) (rest : Content) (node : Node) :
    (node.content depth rest).elements = node.parts depth :: rest.elements := by
  cases node <;> rfl

/-- **The document that is printed** for a root. -/
def documentOf (root : Node) : Document where
  content := .aside declaration (root.content 0 (.text ['\n'] .nil))
  root := root.parts 0
  isRoot := elements_content 0 _ root

theorem written_documentOf (root : Node) : (documentOf root).written = renderDocument root := by
  have start : "<?xml version=\"1.0\"?>".toList = '<' :: (declaration ++ ['>']) := by
    decide
  have end_ : "\n".toList = ['\n'] := rfl
  refine String.toList_injective ?_
  unfold renderDocument
  simp only [Document.written, documentOf, Content.written, written_content, bracketed,
    String.toList_ofList, String.toList_append, start, end_, List.append_assoc,
    List.cons_append, List.nil_append, List.append_nil]

theorem isReadable_documentOf {root : Node} (writable : root.isWritable = true) :
    (documentOf root).isReadable = true := by
  have end_ : (Content.text ['\n'] .nil).isReadable = true := by decide
  have readable := isReadable_content 0 end_ writable
  have aside_ : isMarkupFor .aside declaration = true := by decide
  have bracket : (documentOf root).content.written.head? = some '<' := rfl
  refine Document.isReadable_of_content ?_ ?_
  · simp only [Content.isReadable, Bool.and_eq_true] at readable ⊢
    refine ⟨⟨?_, readable.1.2⟩, readable.2⟩
    rw [documentOf, Content.isProper, aside_, readable.1.1, Bool.and_self]
  · rw [bracket]
    decide

theorem elementOf_parts {node : Node} (writable : node.isWritable = true) (depth : Nat) :
    elementOf (node.parts depth) = node.element depth := by
  have same := children_content depth .nil writable
  rw [Content.children_eq, elements_content, List.map_cons] at same
  exact (List.cons_eq_cons.1 same).1

/-- **A printed document is read as the tree it was printed from**, with the line breaks of the
printer as its texts. -/
theorem tree_renderDocument {root : Node} (writable : root.isWritable = true) :
    tree (renderDocument root) = .ok (root.element 0) := by
  have read := tree_written (isReadable_documentOf writable)
  rw [written_documentOf] at read
  exact read.trans (congrArg Except.ok (elementOf_parts writable 0))

/-! ### Trees without their texts -/

mutual

/-- **An element without the texts in it.** -/
def Element.bare : Element → Element
  | { name, attributes, text := _, children } =>
    { name, attributes, children := bareAll children }

/-- Elements without the texts in them. -/
def bareAll : List Element → List Element
  | [] => []
  | element :: elements => element.bare :: bareAll elements

end

mutual

/-- **All texts in an element**, its own first. -/
def Element.texts : Element → List String
  | { name := _, attributes := _, text, children } => text :: allTexts children

/-- All texts in some elements. -/
def allTexts : List Element → List String
  | [] => []
  | element :: elements => element.texts ++ allTexts elements

end

mutual

/-- A printed element, as it is. -/
def Node.bare : Node → Element
  | .leaf name attributes => { name, attributes }
  | .branch name attributes children => { name, attributes, children := bareNodes children }

/-- Printed elements, as they are. -/
def bareNodes : List Node → List Element
  | [] => []
  | node :: nodes => node.bare :: bareNodes nodes

end

theorem bareNodes_eq (nodes : List Node) : bareNodes nodes = nodes.map Node.bare := by
  induction nodes with
  | nil => rfl
  | cons node nodes ih => rw [bareNodes, ih, List.map_cons]

mutual

/-- **Without its texts, an element is read as it was printed.** -/
theorem bare_element (depth : Nat) : ∀ node : Node, (node.element depth).bare = node.bare
  | .leaf name attributes => rfl
  | .branch name attributes children => by
    rw [Node.element, Element.bare, Node.bare, bareAll_elementsAt]

theorem bareAll_elementsAt (depth : Nat) : ∀ nodes : List Node,
    bareAll (elementsAt depth nodes) = bareNodes nodes
  | [] => rfl
  | node :: nodes => by
    rw [elementsAt, bareAll, bareNodes, bare_element, bareAll_elementsAt]

end

/-- Whether a text is nothing but white space. -/
def isLayout (text : String) : Bool := text.toList.all isMarkupSpace

theorem isLayout_layout (outer : Nat) (nodes : List Node) :
    isLayout (layout outer nodes) = true := by
  have blank : ∀ depth, isLayout (indent depth) = true := fun depth =>
    List.all_eq_true.2 fun _ among => isMarkupSpace_of_mem_indent among
  induction nodes with
  | nil => exact blank outer
  | cons node nodes ih =>
    have first := blank (outer + 1)
    rw [isLayout] at first ih ⊢
    rw [layout, String.toList_append, List.all_append, first, ih, Bool.and_self]

mutual

/-- **The texts in an element that was printed are white space.** -/
theorem isLayout_of_mem_texts_element (depth : Nat) : ∀ (node : Node),
    ∀ text ∈ (node.element depth).texts, isLayout text = true
  | .leaf name attributes => by
    simp [Node.element, Element.texts, allTexts, isLayout]
  | .branch name attributes children => by
    rw [Node.element, Element.texts, List.forall_mem_cons]
    exact ⟨isLayout_layout depth children, isLayout_of_mem_allTexts (depth + 1) children⟩

theorem isLayout_of_mem_allTexts (depth : Nat) : ∀ (nodes : List Node),
    ∀ text ∈ allTexts (elementsAt depth nodes), isLayout text = true
  | [] => by simp [elementsAt, allTexts]
  | node :: nodes => by
    rw [elementsAt, allTexts, List.forall_mem_append]
    exact ⟨isLayout_of_mem_texts_element depth node, isLayout_of_mem_allTexts depth nodes⟩

end

end VerifierTrials.Xml
