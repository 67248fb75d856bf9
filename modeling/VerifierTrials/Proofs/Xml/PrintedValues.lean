import Mathlib.Data.List.Basic
import VerifierTrials.Proofs.Xml.Conformance

/-!
# The values in a document that is printed

What a conforming processor reads in a document that the printer wrote, value by value.

Both of the rules that a processor follows before it looks at the markup commute with printing.
Turning the ends of lines into line feeds gives the document that would have been printed with the
values changed so (`Xml.lineEnded_renderDocument`), and turning the white space in the tags into
blanks gives the events of the document with the values changed in that way
(`Xml.map_normalized_content`). The reason is the same in both cases: behind a value there is a
quote, and around it there are names and keys, none of which has white space in it.

So a document that may be read at all is read with its values normalised
(`Xml.Conforms.isReadAs`). To talk of all values in a tree, the tree is taken apart into its tags
(`Xml.Element.tags`), in the order in which they are printed.
-/

namespace VerifierTrials.Xml

open VerifierTrials.Text

/-! ### The tags of a tree -/

/-- Attributes with something done to their values. -/
def mapAttributes (f : String → String) (attributes : List (String × String)) :
    List (String × String) := attributes.map fun entry => (entry.1, f entry.2)

theorem keys_mapAttributes (f : String → String) (attributes : List (String × String)) :
    (mapAttributes f attributes).map Prod.fst = attributes.map Prod.fst := by
  rw [mapAttributes, List.map_map]
  rfl

mutual

/-- **The tags in an element**, its own first, each as a name and attributes. -/
def Element.tags : Element → List (String × List (String × String))
  | { name, attributes, text := _, children } => (name, attributes) :: allTags children

/-- The tags in some elements. -/
def allTags : List Element → List (String × List (String × String))
  | [] => []
  | element :: elements => element.tags ++ allTags elements

end

theorem allTags_eq (elements : List Element) :
    allTags elements = elements.flatMap Element.tags := by
  induction elements with
  | nil => rfl
  | cons element elements ih => rw [allTags, ih, List.flatMap_cons]

/-- **The values of all attributes in an element**, in order. -/
def Element.values (element : Element) : List String :=
  element.tags.flatMap fun tag => tag.2.map Prod.snd

mutual

/-- **An element with something done to the values of all attributes** in it. -/
def Element.mapValues (f : String → String) : Element → Element
  | { name, attributes, text, children } =>
    { name, attributes := mapAttributes f attributes, text, children := mapAllValues f children }

/-- Elements with something done to the values in them. -/
def mapAllValues (f : String → String) : List Element → List Element
  | [] => []
  | element :: elements => element.mapValues f :: mapAllValues f elements

end

mutual

/-- An element to be written, with something done to the values in it. -/
def Node.mapValues (f : String → String) : Node → Node
  | .leaf name attributes => .leaf name (mapAttributes f attributes)
  | .branch name attributes children =>
    .branch name (mapAttributes f attributes) (mapNodes f children)

/-- Elements to be written, with something done to the values in them. -/
def mapNodes (f : String → String) : List Node → List Node
  | [] => []
  | node :: nodes => node.mapValues f :: mapNodes f nodes

end

section MapValues

variable (f g : String → String)

mutual

theorem bare_mapValues : ∀ node : Node, (node.mapValues f).bare = node.bare.mapValues f
  | .leaf name attributes => rfl
  | .branch name attributes children => by
    rw [Node.mapValues, Node.bare, Node.bare, Element.mapValues, bareNodes_mapNodes]

theorem bareNodes_mapNodes : ∀ nodes : List Node,
    bareNodes (mapNodes f nodes) = mapAllValues f (bareNodes nodes)
  | [] => rfl
  | node :: nodes => by
    rw [mapNodes, bareNodes, bareNodes, mapAllValues, bare_mapValues, bareNodes_mapNodes]

end

theorem mapAttributes_mapAttributes (attributes : List (String × String)) :
    mapAttributes g (mapAttributes f attributes) = mapAttributes (g ∘ f) attributes := by
  rw [mapAttributes, mapAttributes, List.map_map]
  rfl

mutual

theorem mapValues_mapValues : ∀ element : Element,
    (element.mapValues f).mapValues g = element.mapValues (g ∘ f)
  | { name, attributes, text, children } => by
    simp only [Element.mapValues, mapAttributes_mapAttributes, mapAllValues_mapAllValues children]

theorem mapAllValues_mapAllValues : ∀ elements : List Element,
    mapAllValues g (mapAllValues f elements) = mapAllValues (g ∘ f) elements
  | [] => rfl
  | element :: elements => by
    simp only [mapAllValues, mapValues_mapValues element, mapAllValues_mapAllValues elements]

end

mutual

theorem tags_mapValues : ∀ element : Element,
    (element.mapValues f).tags = element.tags.map fun tag => (tag.1, mapAttributes f tag.2)
  | { name, attributes, text, children } => by
    simp only [Element.mapValues, Element.tags, List.map_cons, allTags_mapAllValues children]

theorem allTags_mapAllValues : ∀ elements : List Element,
    allTags (mapAllValues f elements) =
      (allTags elements).map fun tag => (tag.1, mapAttributes f tag.2)
  | [] => rfl
  | element :: elements => by
    simp only [mapAllValues, allTags, List.map_append, tags_mapValues element,
      allTags_mapAllValues elements]

end

theorem mapAttributes_eq_self_iff {attributes : List (String × String)} :
    mapAttributes f attributes = attributes ↔
      ∀ value ∈ attributes.map Prod.snd, f value = value := by
  have same : attributes.map (fun entry => (entry.1, f entry.2)) = attributes.map id ↔ _ :=
    List.map_inj_left
  rw [List.map_id] at same
  rw [mapAttributes, same, List.forall_mem_map]
  simp only [Prod.ext_iff, id_eq, true_and]

mutual

/-- **An element stays as it is** exactly if every value in it does. -/
theorem mapValues_eq_self_iff : ∀ element : Element,
    element.mapValues f = element ↔ ∀ value ∈ element.values, f value = value
  | { name, attributes, text, children } => by
    simp only [Element.mapValues, Element.values, Element.tags, Element.mk.injEq, true_and,
      List.flatMap_cons, List.forall_mem_append, mapAttributes_eq_self_iff,
      mapAllValues_eq_self_iff children]

theorem mapAllValues_eq_self_iff : ∀ elements : List Element, mapAllValues f elements = elements ↔
    ∀ value ∈ (allTags elements).flatMap fun tag => tag.2.map Prod.snd, f value = value
  | [] => by simp [mapAllValues, allTags]
  | element :: elements => by
    have first := mapValues_eq_self_iff element
    rw [Element.values] at first
    simp only [mapAllValues, allTags, List.cons_eq_cons, List.flatMap_append,
      List.forall_mem_append, first, mapAllValues_eq_self_iff elements]

end

end MapValues

mutual

/-- **Whether an element can be written** is seen from its tags. -/
theorem isWritable_iff : ∀ node : Node,
    node.isWritable = true ↔ ∀ tag ∈ node.bare.tags, isTag tag.1 (tag.2.map Prod.fst) = true
  | .leaf name attributes => by
    simp [Node.isWritable, Node.bare, Element.tags, allTags]
  | .branch name attributes children => by
    simp only [Node.isWritable, Node.bare, Element.tags, Bool.and_eq_true, List.forall_mem_cons,
      allWritable_iff children]

theorem allWritable_iff : ∀ nodes : List Node, allWritable nodes = true ↔
    ∀ tag ∈ allTags (bareNodes nodes), isTag tag.1 (tag.2.map Prod.fst) = true
  | [] => by simp [allWritable, bareNodes, allTags]
  | node :: nodes => by
    simp only [allWritable, bareNodes, allTags, Bool.and_eq_true, List.forall_mem_append,
      isWritable_iff node, allWritable_iff nodes]

end

/-- Whether an element can be written does not depend on its values. -/
theorem isWritable_mapValues (f : String → String) {node : Node} :
    (node.mapValues f).isWritable = node.isWritable := by
  rw [Bool.eq_iff_iff, isWritable_iff, isWritable_iff, bare_mapValues, tags_mapValues,
    List.forall_mem_map]
  simp only [keys_mapAttributes]

/-! ### Characters -/

/-- Whether the characters of a tag may all stand in a document. -/
def IsAllowedTag (tag : String × List (String × String)) : Prop :=
  IsAllowed tag.1 ∧ ∀ entry ∈ tag.2, IsAllowed entry.1 ∧ IsAllowed entry.2

/-- Where all names in a tag are some, only its values matter. -/
theorem isAllowedTag_iff {tag : String × List (String × String)} (name : isXmlName tag.1 = true)
    (keys : ∀ entry ∈ tag.2, isXmlName entry.1 = true) :
    IsAllowedTag tag ↔ ∀ value ∈ tag.2.map Prod.snd, IsAllowed value := by
  rw [IsAllowedTag, and_iff_right (isAllowed_of_isXmlName name), List.forall_mem_map]
  exact forall₂_congr fun entry within =>
    and_iff_right (isAllowed_of_isXmlName (keys entry within))

theorem isAllowed_attributesText (attributes : List (String × String)) :
    IsAllowed (attributesText attributes) ↔
      ∀ entry ∈ attributes, IsAllowed entry.1 ∧ IsAllowed entry.2 := by
  have one : ∀ entry, (∀ c ∈ attributeWritten entry, isXmlChar c = true) ↔
      IsAllowed entry.1 ∧ IsAllowed entry.2 := by
    intro entry
    have marks : isXmlChar ' ' = true ∧ isXmlChar '=' = true ∧ isXmlChar '"' = true := by decide
    simp only [attributeWritten, List.forall_mem_cons, List.forall_mem_append, isXmlChar_escape,
      marks, List.not_mem_nil, IsAllowed, true_and, false_implies, implies_true, and_true]
  rw [IsAllowed, toList_attributesText, List.forall_mem_flatMap]
  simp only [one]

theorem isAllowed_indent (depth : Nat) : IsAllowed (indent depth) := fun c within => by
  have space := isMarkupSpace_of_mem_indent within
  simp only [isMarkupSpace, Bool.or_eq_true, decide_eq_true_eq] at space
  rcases space with ((rfl | rfl) | rfl) | rfl <;> decide

mutual

/-- **A printed element may stand in a document** exactly if what is in its tags may. -/
theorem isAllowed_render (depth : Nat) : ∀ node : Node,
    IsAllowed (node.render depth) ↔ ∀ tag ∈ node.bare.tags, IsAllowedTag tag
  | .leaf name attributes => by
    have marks : IsAllowed "<" ∧ IsAllowed "/>" := by decide
    simp only [Node.render, Node.bare, Element.tags, allTags, isAllowed_append, isAllowed_indent,
      isAllowed_attributesText, marks, List.forall_mem_singleton, IsAllowedTag, true_and, and_true]
  | .branch name attributes children => by
    have marks : IsAllowed "<" ∧ IsAllowed ">" ∧ IsAllowed "</" := by decide
    have inner := isAllowed_renderAll (depth + 1) children
    simp only [Node.render, Node.bare, Element.tags, isAllowed_append, isAllowed_indent,
      isAllowed_attributesText, marks, inner, List.forall_mem_cons, IsAllowedTag, true_and,
      and_true]
    exact ⟨fun all => all.1, fun all => ⟨all, all.1.1⟩⟩

theorem isAllowed_renderAll (depth : Nat) : ∀ nodes : List Node,
    IsAllowed (renderAll depth nodes) ↔ ∀ tag ∈ allTags (bareNodes nodes), IsAllowedTag tag
  | [] => by simp [renderAll, IsAllowed, bareNodes, allTags]
  | node :: nodes => by
    simp only [renderAll, bareNodes, allTags, isAllowed_append, List.forall_mem_append,
      isAllowed_render depth node, isAllowed_renderAll depth nodes]

end

/-- **A printed document has forbidden characters** only where its tags have. -/
theorem isAllowed_renderDocument {root : Node} :
    IsAllowed (renderDocument root) ↔ ∀ tag ∈ root.bare.tags, IsAllowedTag tag := by
  have frame : IsAllowed "<?xml version=\"1.0\"?>" ∧ IsAllowed "\n" :=
    ⟨List.all_eq_true.mp rfl, List.all_eq_true.mp rfl⟩
  unfold renderDocument
  simp only [isAllowed_append, frame, isAllowed_render, true_and, and_true]

/-! ### The ends of lines -/

section LineEnds

variable {name : String} {attributes : List (String × String)}

theorem not_mem_return_of_isKey {key : String} (keyed : isKey key = true) : '\r' ∉ key.toList := by
  obtain ⟨first, more, characters, all⟩ := exists_of_isKey keyed
  exact fun within => Bool.noConfusion ((all '\r' (characters ▸ within)).symm.trans rfl)

theorem not_mem_return_indent (depth : Nat) : '\r' ∉ (indent depth).toList := by
  simp [toList_indent]

theorem lineEndsFrom_attributes (keyed : ∀ entry ∈ attributes, isKey entry.1 = true)
    (rest : List Char) :
    lineEndsFrom false ((attributesText attributes).toList ++ rest) =
      (attributesText (mapAttributes lineEnded attributes)).toList ++ lineEndsFrom false rest := by
  rw [toList_attributesText, toList_attributesText]
  induction attributes with
  | nil => rfl
  | cons entry attributes ih =>
    rw [List.forall_mem_cons] at keyed
    -- No line ends before the value, and the quote behind it belongs to no end of a line.
    have front : '\r' ∉ ' ' :: (entry.1.toList ++ ['=', '"']) := by
      simp [not_mem_return_of_isKey keyed.1]
    have split : ∀ value s : List Char, attributeWritten (entry.1, String.ofList value) ++ s =
        (' ' :: (entry.1.toList ++ ['=', '"'])) ++ (escape value ++ '"' :: s) := fun value s => by
      simp [attributeWritten]
    have whole := split entry.2.toList
    rw [String.ofList_toList] at whole
    have step : mapAttributes lineEnded (entry :: attributes) =
        (entry.1, String.ofList (lineEnds entry.2.toList)) ::
          mapAttributes lineEnded attributes := rfl
    rw [step, List.flatMap_cons, List.flatMap_cons, List.append_assoc, List.append_assoc, whole,
      split, lineEndsFrom_of_not_mem front, lineEndsFrom_escape, ih keyed.2, lineEnds]

end LineEnds

mutual

/-- **The ends of lines in a printed element** are turned into line feeds where its values have
them, and nowhere else. -/
theorem lineEndsFrom_render (depth : Nat) (rest : List Char) : ∀ {node : Node},
    node.isWritable = true →
      lineEndsFrom false ((node.render depth).toList ++ rest) =
        ((node.mapValues lineEnded).render depth).toList ++ lineEndsFrom false rest
  | .leaf name attributes, writable => by
    rw [Node.isWritable, isTag_iff] at writable
    have letters := not_mem_return_of_isKey (isKey_of_isName writable.1.1)
    have marks : '\r' ∉ "<".toList ∧ '\r' ∉ "/>".toList := by decide
    simp only [Node.mapValues, Node.render, String.toList_append, List.append_assoc,
      lineEndsFrom_of_not_mem (not_mem_return_indent depth), lineEndsFrom_of_not_mem marks.1,
      lineEndsFrom_of_not_mem letters, lineEndsFrom_attributes writable.1.2,
      lineEndsFrom_of_not_mem marks.2]
  | .branch name attributes children, writable => by
    rw [Node.isWritable, Bool.and_eq_true, isTag_iff] at writable
    have letters := not_mem_return_of_isKey (isKey_of_isName writable.1.1.1)
    have marks : '\r' ∉ "<".toList ∧ '\r' ∉ ">".toList ∧ '\r' ∉ "</".toList := by decide
    have inner := fun rest => lineEndsFrom_renderAll (depth + 1) rest writable.2
    simp only [Node.mapValues, Node.render, String.toList_append, List.append_assoc,
      lineEndsFrom_of_not_mem (not_mem_return_indent depth), lineEndsFrom_of_not_mem marks.1,
      lineEndsFrom_of_not_mem letters, lineEndsFrom_attributes writable.1.1.2,
      lineEndsFrom_of_not_mem marks.2.1, lineEndsFrom_of_not_mem marks.2.2, inner]

theorem lineEndsFrom_renderAll (depth : Nat) (rest : List Char) : ∀ {nodes : List Node},
    allWritable nodes = true →
      lineEndsFrom false ((renderAll depth nodes).toList ++ rest) =
        (renderAll depth (mapNodes lineEnded nodes)).toList ++ lineEndsFrom false rest
  | [], _ => rfl
  | node :: nodes, writable => by
    rw [allWritable, Bool.and_eq_true] at writable
    simp only [mapNodes, renderAll, String.toList_append, List.append_assoc]
    rw [lineEndsFrom_render depth _ writable.1, lineEndsFrom_renderAll depth rest writable.2]

end

/-- **A printed document with the ends of its lines in one form** is the document with the values
that are left. -/
theorem lineEnded_renderDocument {root : Node} (writable : root.isWritable = true) :
    lineEnded (renderDocument root) = renderDocument (root.mapValues lineEnded) := by
  have frame : '\r' ∉ "<?xml version=\"1.0\"?>".toList ∧ '\r' ∉ "\n".toList := by decide
  have final := lineEndsFrom_of_not_mem frame.2 []
  rw [List.append_nil, lineEndsFrom, List.append_nil] at final
  refine String.toList_injective ?_
  rw [show (lineEnded (renderDocument root)).toList = _ from String.toList_ofList, lineEnds]
  unfold renderDocument
  simp only [String.toList_append, List.append_assoc, lineEndsFrom_of_not_mem frame.1,
    lineEndsFrom_render 0 _ writable, final]

/-! ### The events of a printed document -/

section Events

variable {name : String} {attributes : List (String × String)}

/-- **White space in a printed tag** becomes blanks where the values of its attributes have it. -/
theorem normalized_tagOf (keyed : ∀ entry ∈ attributes, isKey entry.1 = true) :
    (tagOf name attributes).normalized = tagOf name (mapAttributes blanked attributes) := by
  have one : ∀ entry ∈ attributes, (attributeWritten entry).map blank =
      attributeWritten (entry.1, blanked entry.2) := by
    intro entry among
    obtain ⟨first, more, characters, all⟩ := exists_of_isKey (keyed entry among)
    have kept : entry.1.toList.map blank = entry.1.toList := by
      have same : ∀ c ∈ entry.1.toList, blank c = id c := fun c within => by
        have space := (Bool.or_eq_false_iff.mp (all c (characters ▸ within))).1
        rw [blank, space, if_neg Bool.false_ne_true, id_eq]
      rw [List.map_congr_left same, List.map_id]
    have marks : blank ' ' = ' ' ∧ blank '=' = '=' ∧ blank '"' = '"' := by decide
    simp only [attributeWritten, List.map_cons, List.map_append, List.map_nil, kept, marks, blanked,
      String.toList_ofList, escape_map_blank]
  have text : (tagOf name attributes).attributeText.map blank =
      (attributesText (mapAttributes blanked attributes)).toList := by
    rw [tagOf, toList_attributesText, toList_attributesText, List.map_flatMap,
      List.flatMap_congr one, mapAttributes, List.flatMap_map]
  rw [Tag.normalized, text]
  rfl

/-- The values of a printed tag, as they are written. -/
theorem writtenValues_tagOf (fine : isTag name (attributes.map Prod.fst) = true) :
    (tagOf name attributes).writtenValues = attributes.map fun entry => escape entry.2.toList := by
  obtain ⟨⟨-, keys⟩, distinct⟩ := isTag_iff.mp fine
  rw [Tag.writtenValues, readAttributes?_tagOf name keys distinct, Option.getD_some, List.map_map]
  rfl

/-- A printed tag whose keys are names is plain, if the values may stand in a document. -/
theorem isPlain_tagOf (named : isName name = true)
    (fine : ∀ entry ∈ attributes, isXmlName entry.1 = true ∧ IsAllowed entry.2) :
    (tagOf name attributes).IsPlain := by
  refine ⟨isXmlName_of_isName named,
    attributes.map fun entry => (entry.1.toList, escape entry.2.toList), ?_, ?_⟩
  · rw [tagOf, toList_attributesText, List.flatMap_map]
    rfl
  · rw [List.forall_mem_map]
    intro entry among
    obtain ⟨key, value⟩ := fine entry among
    exact { name := by rwa [String.ofList_toList]
            bracket := not_mem_escape (by decide) (by decide) _
            quote := quote_not_mem_escape _
            references := ⟨entry.2.toList, unescape?_escape _, value⟩ }

end Events

mutual

/-- **The events of a printed element** with the white space in values normalised are those of the
element with the values that are left. -/
theorem map_normalized_content (depth : Nat) {rest rest' : Content}
    (same : rest.events.map Event.normalized = rest'.events) : ∀ {node : Node},
    node.isWritable = true → (node.content depth rest).events.map Event.normalized =
      ((node.mapValues blanked).content depth rest').events
  | .leaf name attributes, writable => by
    rw [Node.isWritable, isTag_iff] at writable
    simp only [Node.mapValues, Node.content, Content.events, List.map_cons, Event.normalized,
      normalized_tagOf writable.1.2, same]
  | .branch name attributes children, writable => by
    rw [Node.isWritable, Bool.and_eq_true, isTag_iff] at writable
    simp only [Node.mapValues, Node.content, Content.events, List.map_cons, List.map_append,
      Event.normalized, normalized_tagOf writable.1.1.2,
      map_normalized_contents depth writable.2, same]
    rfl

theorem map_normalized_contents (outer : Nat) : ∀ {nodes : List Node},
    allWritable nodes = true → (contents outer nodes).events.map Event.normalized =
      (contents outer (mapNodes blanked nodes)).events
  | [], _ => rfl
  | node :: nodes, writable => by
    rw [allWritable, Bool.and_eq_true] at writable
    exact map_normalized_content (outer + 1) (map_normalized_contents outer writable.2) writable.1

end

mutual

/-- **The tags of a printed element** are those in it. -/
theorem filterMap_tag?_content (depth : Nat) (rest : Content) : ∀ node : Node,
    (node.content depth rest).events.filterMap Event.tag? =
      (node.bare.tags.map fun tag => tagOf tag.1 tag.2) ++ rest.events.filterMap Event.tag?
  | .leaf name attributes => rfl
  | .branch name attributes children => by
    simp only [Node.content, Content.events, Node.bare, Element.tags, List.filterMap_cons,
      List.filterMap_append, Event.tag?, filterMap_tag?_contents depth children, List.map_cons,
      List.cons_append]

theorem filterMap_tag?_contents (outer : Nat) : ∀ nodes : List Node,
    (contents outer nodes).events.filterMap Event.tag? =
      (allTags (bareNodes nodes)).map fun tag => tagOf tag.1 tag.2
  | [] => rfl
  | node :: nodes => by
    rw [contents, filterMap_tag?_content, filterMap_tag?_contents outer nodes, bareNodes, allTags,
      List.map_append]

end

/-- **What a printed element consists of**: its tags, closing tags, and white space. -/
inductive Event.IsPrinted (tags : List (String × List (String × String))) : Event → Prop
  | opening {tag : String × List (String × String)} (among : tag ∈ tags) :
    IsPrinted tags (.opening (tagOf tag.1 tag.2))
  | selfClosing {tag : String × List (String × String)} (among : tag ∈ tags) :
    IsPrinted tags (.selfClosing (tagOf tag.1 tag.2))
  | closing (name : String) : IsPrinted tags (.closing name)
  | space {written : List Char} (blank : written.all isMarkupSpace = true) :
    IsPrinted tags (.text written)

section IsPrinted

variable {tags : List (String × List (String × String))}

theorem Event.IsPrinted.indent (depth : Nat) : IsPrinted tags (.text (indent depth).toList) :=
  .space (List.all_eq_true.mpr fun _ within => isMarkupSpace_of_mem_indent within)

mutual

theorem isPrinted_content (depth : Nat) {rest : Content}
    (printed : ∀ event ∈ rest.events, event.IsPrinted tags) :
    ∀ {node : Node}, node.bare.tags ⊆ tags →
      ∀ event ∈ (node.content depth rest).events, event.IsPrinted tags
  | .leaf name attributes, within => by
    have own : (name, attributes) ∈ tags := within List.mem_cons_self
    simp only [Node.content, Content.events, List.forall_mem_cons]
    exact ⟨.indent depth, .selfClosing own, printed⟩
  | .branch name attributes children, within => by
    rw [Node.bare, Element.tags, List.cons_subset] at within
    simp only [Node.content, Content.events, List.forall_mem_cons, List.forall_mem_append]
    exact ⟨.indent depth, .opening within.1, isPrinted_contents depth within.2, .closing name,
      printed⟩

theorem isPrinted_contents (outer : Nat) : ∀ {nodes : List Node},
    allTags (bareNodes nodes) ⊆ tags → ∀ event ∈ (contents outer nodes).events, event.IsPrinted tags
  | [], _ => by
    simp only [contents, Content.events, List.forall_mem_singleton]
    exact .indent outer
  | node :: nodes, within => by
    rw [bareNodes, allTags, List.append_subset] at within
    exact isPrinted_content (outer + 1) (isPrinted_contents outer within.2) within.1

end

end IsPrinted

/-! ### What a processor reads in it -/

section Document

variable {root : Node}

theorem scan_renderDocument (writable : root.isWritable = true) :
    scan (renderDocument root) = ⟨(documentOf root).events, true⟩ := by
  have readable := isReadable_documentOf writable
  simp only [Document.isReadable, Bool.and_eq_true] at readable
  rw [← written_documentOf, scan_written readable.1.1]

/-- The events of a printed document: an aside, and what stands behind it. -/
theorem events_documentOf (root : Node) : (documentOf root).events =
    .aside :: (root.content 0 (.text ['\n'] .nil)).events := rfl

theorem filterMap_tag?_documentOf (root : Node) :
    (documentOf root).events.filterMap Event.tag? =
      root.bare.tags.map fun tag => tagOf tag.1 tag.2 := by
  rw [events_documentOf, List.filterMap_cons_none rfl, filterMap_tag?_content]
  exact List.append_nil _

/-- **The values in the text of a document** are those that were to be written, escaped. -/
theorem writtenValues_renderDocument (writable : root.isWritable = true) :
    writtenValues (renderDocument root) =
      root.bare.values.map fun value => escape value.toList := by
  rw [writtenValues, scan_renderDocument writable, filterMap_tag?_documentOf, List.flatMap_map,
    Element.values, List.map_flatMap]
  refine List.flatMap_congr fun tag among => ?_
  rw [writtenValues_tagOf ((isWritable_iff _).mp writable tag among), List.map_map]
  rfl

/-- Behind the declaration, a printed document consists of its tags and white space. -/
theorem isPrinted_documentOf (root : Node) :
    ∀ event ∈ (documentOf root).events.tail, event.IsPrinted root.bare.tags := by
  have final : ∀ event ∈ (Content.text ['\n'] .nil).events, event.IsPrinted root.bare.tags := by
    simp only [Content.events, List.forall_mem_singleton]
    exact .space (by decide)
  exact isPrinted_content 0 final (List.Subset.refl _)

theorem isWellFormed_renderDocument (writable : root.isWritable = true) :
    IsWellFormed (renderDocument root) := by
  have readable := isReadable_documentOf writable
  simp only [Document.isReadable, Bool.and_eq_true] at readable
  have scanned := scan_renderDocument writable
  have document : IsDocument (renderDocument root) :=
    isDocument_iff.mpr ⟨documentOf root, scanned, readable.1.2⟩
  have every : ∀ event ∈ (documentOf root).events,
      event.isBlank = true ∧ event.hasAttributes = true := by
    have given : ∀ tag ∈ root.bare.tags,
        (readAttributes? (tagOf tag.1 tag.2).attributeText.length []
          (tagOf tag.1 tag.2).attributeText).isSome = true := fun tag among => by
      obtain ⟨⟨-, keys⟩, distinct⟩ := isTag_iff.mp ((isWritable_iff _).mp writable tag among)
      rw [readAttributes?_tagOf tag.1 keys distinct, Option.isSome_some]
    intro event within
    -- The first event is the declaration, an aside.
    obtain rfl | behind := List.mem_cons.mp (show event ∈ .aside :: _ from within)
    · exact ⟨rfl, rfl⟩
    · cases isPrinted_documentOf root event behind with
      | opening among | selfClosing among => exact ⟨rfl, given _ among⟩
      | closing name => exact ⟨rfl, rfl⟩
      | space blank => exact ⟨blank, rfl⟩
  exact { document with
          blank := fun event within => by
            rw [scanned] at within
            exact (every event (mem_of_mem_selected within)).1
          attributes := fun event within => by
            rw [scanned] at within
            exact (every event within).2 }

/-- **A printed document is plain** if its keys are names and its values may stand in one. -/
theorem isPlainDocument_renderDocument (writable : root.isWritable = true)
    (fine : ∀ tag ∈ root.bare.tags, ∀ entry ∈ tag.2,
      isXmlName entry.1 = true ∧ IsAllowed entry.2) :
    IsPlainDocument (renderDocument root) := by
  refine { isWellFormed_renderDocument writable with
    declared := ⟨_, String.append_assoc⟩
    plain := ?_ }
  have tags : ∀ tag ∈ root.bare.tags, (tagOf tag.1 tag.2).IsPlain := fun tag among =>
    isPlain_tagOf (isTag_iff.mp ((isWritable_iff _).mp writable tag among)).1.1 (fine tag among)
  rw [scan_renderDocument writable]
  intro event within
  cases isPrinted_documentOf root event within with
  | opening among | selfClosing among => exact tags _ among
  | closing name => trivial
  | space blank => exact blank

/-- **The tree of a printed document** with its values normalised. -/
theorem normalizedTree_renderDocument (printable : root.isWritable = true) :
    normalizedTree (renderDocument root) = .ok ((root.mapValues blanked).element 0) := by
  have writable : (root.mapValues blanked).isWritable = true := by rwa [isWritable_mapValues]
  have events : (documentOf root).events.map Event.normalized =
      (documentOf (root.mapValues blanked)).events := by
    have final : (Content.text ['\n'] .nil).events.map Event.normalized =
        (Content.text ['\n'] .nil).events := rfl
    rw [events_documentOf, events_documentOf, List.map_cons,
      map_normalized_content 0 final printable]
    rfl
  have readable := isReadable_documentOf writable
  simp only [Document.isReadable, Bool.and_eq_true] at readable
  rw [normalizedTree, scan_renderDocument printable, events, treeOfEvents,
    Builder.foldlM_events_document _ readable.1.2 readable.2]
  exact congrArg Except.ok (elementOf_parts writable 0)

/-- Whether the keys in an element are names. -/
def HasNames (element : Element) : Prop :=
  ∀ tag ∈ element.tags, ∀ entry ∈ tag.2, isXmlName entry.1 = true

/-- **The text of a document may stand in one** exactly if its values may, names apart. -/
theorem isAllowed_renderDocument_iff (writable : root.isWritable = true)
    (names : HasNames root.bare) :
    IsAllowed (renderDocument root) ↔ ∀ value ∈ root.bare.values, IsAllowed value := by
  rw [isAllowed_renderDocument, Element.values, List.forall_mem_flatMap]
  refine forall₂_congr fun tag among => isAllowedTag_iff ?_ (names tag among)
  exact isXmlName_of_isName (isTag_iff.mp ((isWritable_iff _).mp writable tag among)).1.1

/-- **A printed document is read** with the ends of lines in its values normalised, and then the
white space that is left. -/
theorem Conforms.read?_renderDocument {read? : String → Option Element} (conforms : Conforms read?)
    (printable : root.isWritable = true) (names : HasNames root.bare)
    (allowed : ∀ value ∈ root.bare.values, IsAllowed value) :
    ∃ given, read? (renderDocument root) = some given ∧
      given.bare = root.bare.mapValues normalizedValue := by
  have writable : (root.mapValues lineEnded).isWritable = true := by rwa [isWritable_mapValues]
  have plain : IsPlainDocument (lineEnded (renderDocument root)) := by
    rw [lineEnded_renderDocument printable]
    refine isPlainDocument_renderDocument writable ?_
    rw [bare_mapValues, tags_mapValues, List.forall_mem_map]
    simp only [mapAttributes, List.forall_mem_map]
    refine fun tag among entry within => ⟨names tag among entry within, isAllowed_lineEnded ?_⟩
    exact allowed _ (List.mem_flatMap.mpr ⟨tag, among, List.mem_map_of_mem within⟩)
  have built : normalizedTree (lineEnded (renderDocument root)) =
      .ok (((root.mapValues lineEnded).mapValues blanked).element 0) := by
    rw [lineEnded_renderDocument printable, normalizedTree_renderDocument writable]
  obtain ⟨given, read, same⟩ := conforms.reads _ _
    ((isAllowed_renderDocument_iff printable names).mpr allowed) plain built
  refine ⟨given, read, ?_⟩
  rw [same, bare_element, bare_mapValues, bare_mapValues, mapValues_mapValues]
  rfl

/-- Whether a value survives being written and read: it may stand in a document, and has no white
space in it but blanks. -/
def Survives (value : String) : Prop :=
  IsAllowed value ∧ ∀ c ∈ value.toList, isRewritten c = false

instance (value : String) : Decidable (Survives value) :=
  decidable_of_iff (IsAllowed value ∧ value.toList.all (fun c => !isRewritten c) = true) <| by
    simp only [Survives, List.all_eq_true, Bool.not_eq_true']

/-- **What a processor makes of a text** that is to say something: it refuses the text, or it gives
the elements with all values normalised; and what it gives is what the text was to say exactly if
all values survive. -/
structure IsReadAs (read? : String → Option Element) (text : String) (said : Element) : Prop where
  refused : (∃ value ∈ said.values, ¬IsAllowed value) → read? text = none
  normalized : (∀ value ∈ said.values, IsAllowed value) →
    ∃ given, read? text = some given ∧ given.bare = said.mapValues normalizedValue
  same_iff : (∃ given, read? text = some given ∧ given.bare = said) ↔
    ∀ value ∈ said.values, Survives value

/-- **What a conforming processor makes of a printed document.** -/
theorem Conforms.isReadAs {read? : String → Option Element} (conforms : Conforms read?)
    (printable : root.isWritable = true) (names : HasNames root.bare) :
    IsReadAs read? (renderDocument root) root.bare := by
  have refused : (∃ value ∈ root.bare.values, ¬IsAllowed value) →
      read? (renderDocument root) = none := by
    rintro ⟨value, within, forbidden⟩
    refine conforms.refuses _ fun allowed => forbidden ?_
    exact (isAllowed_renderDocument_iff printable names).mp allowed value within
  refine ⟨refused, conforms.read?_renderDocument printable names, ?_, fun survive => ?_⟩
  · rintro ⟨given, read, same⟩
    have allowed : ∀ value ∈ root.bare.values, IsAllowed value := fun value within =>
      Decidable.of_not_not fun forbidden => by
        rw [refused ⟨value, within, forbidden⟩] at read
        cases read
    -- What is given is normalised, so it is what was said only if normalising changes nothing.
    obtain ⟨given', read', normalized⟩ := conforms.read?_renderDocument printable names allowed
    obtain rfl := Option.some.inj (read.symm.trans read')
    have kept := (mapValues_eq_self_iff normalizedValue _).mp (normalized.symm.trans same)
    exact fun value within =>
      ⟨allowed value within, normalizedValue_eq_self_iff.mp (kept value within)⟩
  · obtain ⟨given, read, normalized⟩ :=
      conforms.read?_renderDocument printable names fun value within => (survive value within).1
    refine ⟨given, read, normalized.trans ?_⟩
    exact (mapValues_eq_self_iff normalizedValue _).mpr fun value within =>
      normalizedValue_eq_self_iff.mpr (survive value within).2

end Document

end VerifierTrials.Xml
