import VerifierTrials.Proofs.Xml.Building

/-!
# Which sequences of events are trees

A sequence of events in which every closing tag closes the innermost open element
(`Xml.isMatched`) may still be anything between two documents and half a one. Its shape is
always the same, though: a content outside all elements, and then the elements that nothing
closes, each with what stands in it so far (`Xml.exists_eq_events_append_unclosed`). What the
builder makes of the sequence is read off that shape: the elements of the content are roots, of
which there may be one, and an element that nothing closes counts as one more before it counts
as unclosed (`Xml.treeOfEvents_of_closed`, `Xml.treeOfEvents_of_unclosed`).

So the builder succeeds exactly when the events that count are the traversal of one element,
and what it returns is that element (`Xml.treeOfEvents_matched`). Asides never count, and texts
count only inside an element (`Xml.significant`): the open elements of the builder have the names
that the events leave open (`Xml.Builder.names_step`), so that it passes over a text exactly
where the events have none open.
-/

namespace VerifierTrials.Xml

/-! ### What the events leave open -/

/-- The names of the open elements after an event, innermost first. -/
def Event.openAfter (names : List String) : Event → List String
  | opening tag => tag.name :: names
  | closing _ => names.tail
  | selfClosing _ | text _ | verbatim _ | aside => names

/-- **The names of the elements that nothing closes**, innermost first. -/
def openNames (events : List Event) : List String := events.foldl Event.openAfter []

/-- Whether an event, if it is a closing tag, closes the innermost of the open elements. -/
def Event.fits (names : List String) : Event → Bool
  | closing name => names.head? == some name
  | opening _ | selfClosing _ | text _ | verbatim _ | aside => true

/-- **Whether every closing tag closes the innermost open element**, given the names of the open
ones. -/
def isMatched : List String → List Event → Bool
  | _, [] => true
  | names, event :: events => event.fits names && isMatched (event.openAfter names) events

/-- The events that satisfy a test, which is told what is open at each. -/
def selected (test : List String → Event → Bool) : List String → List Event → List Event
  | _, [] => []
  | names, event :: events =>
    let others := selected test (event.openAfter names) events
    if test names event then event :: others else others

/-- Whether an event counts for the tree: asides do not, and texts do inside an element. -/
def Event.isSignificant (names : List String) : Event → Bool
  | opening _ | selfClosing _ | closing _ => true
  | text _ | verbatim _ => !names.isEmpty
  | aside => false

/-- Whether an element begins outside all others. -/
def Event.isOutermost (names : List String) : Event → Bool
  | opening _ | selfClosing _ => names.isEmpty
  | closing _ | text _ | verbatim _ | aside => false

/-- **The events that count**: asides are dropped, and so is all text outside the elements. -/
def significant (events : List Event) : List Event := selected Event.isSignificant [] events

/-- **The tags with which an element begins outside all others.** -/
def outermost (events : List Event) : List Event := selected Event.isOutermost [] events

/-- Whether the attributes or the entities of an event have values. -/
def Event.hasValue : Event → Bool
  | opening tag | selfClosing tag => tag.attributes?.isSome
  | text written => (unescape? written).isSome
  | closing _ | verbatim _ | aside => true

section Selected

variable {test : List String → Event → Bool}

theorem selected_append (test : List String → Event → Bool) (names : List String)
    (first second : List Event) :
    selected test names (first ++ second) =
      selected test names first ++ selected test (first.foldl Event.openAfter names) second := by
  induction first generalizing names with
  | nil => rfl
  | cons event events ih =>
    simp only [List.cons_append, selected, ih, List.foldl_cons]
    split <;> rfl

theorem mem_of_mem_selected {names : List String} {events : List Event} {event : Event}
    (among : event ∈ selected test names events) : event ∈ events := by
  induction events generalizing names with
  | nil => exact among
  | cons first others ih =>
    simp only [selected] at among
    split at among
    · exact (List.mem_cons.1 among).elim (fun among => among ▸ List.mem_cons_self)
        fun among => List.mem_cons_of_mem _ (ih among)
    · exact List.mem_cons_of_mem _ (ih among)

end Selected

/-! ### The shape of a sequence of events -/

/-- The events of elements that nothing closes, each in the one before it, with what stands in
each of them so far. -/
def unclosed (elements : List (Tag × Content)) : List Event :=
  elements.flatMap fun element => .opening element.1 :: element.2.events

/-- **How events go on inside open elements** of the given names: what stands in the innermost one
ends with its closing tag, or the events end before it is closed. -/
inductive Continues : List String → List Event → Prop
  | last (names : List String) (content : Content) (elements : List (Tag × Content)) :
    Continues names (content.events ++ unclosed elements)
  | close {name : String} {names : List String} {events : List Event} (content : Content)
    (rest : Continues names events) :
    Continues (name :: names) (content.events ++ .closing name :: events)

/-- A further piece in front belongs to the innermost open element. -/
theorem Continues.prepend {names : List String} {events : List Event}
    (continues : Continues names events) (piece : List Event) (add : Content → Content)
    (events_add : ∀ content, (add content).events = piece ++ content.events) :
    Continues names (piece ++ events) := by
  cases continues with
  | last _ content elements =>
    rw [← List.append_assoc, ← events_add]
    exact .last names (add content) elements
  | close content rest =>
    rw [← List.append_assoc, ← events_add]
    exact .close (add content) rest

theorem continues_of_isMatched {names : List String} {events : List Event}
    (matched : isMatched names events = true) : Continues names events := by
  induction events generalizing names with
  | nil => exact .last names .nil []
  | cons event events ih =>
    simp only [isMatched, Bool.and_eq_true] at matched
    obtain ⟨fits, further⟩ := matched
    have continues := ih further
    cases event with
    | opening tag =>
      -- What follows stands in the new element up to its closing tag, if there is one.
      cases continues with
      | last _ content elements => exact .last names .nil ((tag, content) :: elements)
      | close content rest =>
        have added := rest.prepend (.opening tag :: (content.events ++ [.closing tag.name]))
          (Content.element tag content) fun _ => by simp [Content.events]
        simpa using added
    | closing name =>
      obtain ⟨outer, rfl⟩ := List.head?_eq_some_iff.1 (beq_iff_eq.1 fits)
      exact .close .nil continues
    | selfClosing tag => exact continues.prepend [.selfClosing tag] (.selfClosing tag) fun _ => rfl
    | text written => exact continues.prepend [.text written] (.text written) fun _ => rfl
    | verbatim characters =>
      exact continues.prepend [.verbatim characters] (.verbatim characters) fun _ => rfl
    | aside => exact continues.prepend [.aside] (.aside []) fun _ => rfl

/-- **The shape of a sequence of events**: a content, and then the elements that nothing closes. -/
theorem exists_eq_events_append_unclosed {events : List Event}
    (matched : isMatched [] events = true) :
    ∃ content elements, events = Content.events content ++ unclosed elements := by
  cases continues_of_isMatched matched with
  | last _ content elements => exact ⟨content, elements, rfl⟩

namespace Content

/-- A content leaves open what was open before it. -/
theorem foldl_openAfter_events (content : Content) (names : List String) :
    content.events.foldl Event.openAfter names = names := by
  induction content generalizing names with
  | nil => rfl
  | element tag inner rest ihi ihr =>
    simp [Content.events, Event.openAfter, ihi, ihr]
  | selfClosing _ _ ih | text _ _ ih | verbatim _ _ ih | aside _ _ ih => exact ih names

theorem hasValues_iff (content : Content) :
    (∀ event ∈ content.events, event.hasValue = true) ↔
      content.textsHaveValues = true ∧ content.tagsHaveValues = true := by
  induction content with
  | nil => simp [events, textsHaveValues, tagsHaveValues]
  | element tag inner rest ihi ihr =>
    rw [events, List.forall_mem_cons, List.forall_mem_append, List.forall_mem_cons, ihi, ihr,
      textsHaveValues, tagsHaveValues]
    simp only [Bool.and_eq_true]
    constructor
    · rintro ⟨tagValued, ⟨innerTexts, innerTags⟩, -, restTexts, restTags⟩
      exact ⟨⟨innerTexts, restTexts⟩, ⟨tagValued, innerTags⟩, restTags⟩
    · rintro ⟨⟨innerTexts, restTexts⟩, ⟨tagValued, innerTags⟩, restTags⟩
      exact ⟨tagValued, ⟨innerTexts, innerTags⟩, rfl, restTexts, restTags⟩
  | selfClosing tag rest ih =>
    rw [events, List.forall_mem_cons, ih, tagsHaveValues, Bool.and_eq_true]
    exact and_left_comm
  | text written rest ih =>
    rw [events, List.forall_mem_cons, ih, textsHaveValues, Bool.and_eq_true]
    exact and_assoc.symm
  | verbatim _ _ ih | aside _ _ ih =>
    rw [events, List.forall_mem_cons, ih]
    exact and_iff_right rfl

/-- A content without its asides, and outside all elements without its texts as well. -/
def significant (outside : Bool) : Content → Content
  | nil => nil
  | element tag inner rest => element tag (inner.significant false) (rest.significant outside)
  | selfClosing tag rest => selfClosing tag (rest.significant outside)
  | text written rest =>
    if outside then rest.significant outside else text written (rest.significant outside)
  | verbatim characters rest =>
    if outside then rest.significant outside
    else verbatim characters (rest.significant outside)
  | aside _ rest => rest.significant outside

/-- The events of a content that count are the events of what counts in it. -/
theorem selected_isSignificant_events (content : Content) (names : List String) :
    selected Event.isSignificant names content.events =
      (content.significant names.isEmpty).events := by
  induction content generalizing names with
  | nil => rfl
  | element tag inner rest ihi ihr =>
    simp [events, significant, selected, Event.isSignificant, Event.openAfter, selected_append,
      foldl_openAfter_events, ihi, ihr]
  | selfClosing tag rest ih =>
    simp [events, significant, selected, Event.isSignificant, Event.openAfter, ih]
  | text written rest ih | verbatim characters rest ih =>
    cases names <;>
      simp [events, significant, selected, Event.isSignificant, Event.openAfter, ih]
  | aside inside rest ih =>
    simp [events, significant, selected, Event.isSignificant, Event.openAfter, ih]

theorem directText_significant (content : Content) :
    (content.significant false).directText = content.directText := by
  induction content with
  | nil => rfl
  | text written rest ih => exact congrArg (valueOf written ++ ·) ih
  | verbatim characters rest ih => exact congrArg (characters ++ ·) ih
  | element _ _ _ _ ih | selfClosing _ _ ih | aside _ _ ih => exact ih

theorem children_significant (content : Content) (outside : Bool) :
    (content.significant outside).children = content.children := by
  induction content generalizing outside with
  | nil => rfl
  | element tag inner rest ihi ihr =>
    simp [significant, children, directText_significant, ihi, ihr]
  | selfClosing tag rest ih => exact congrArg (_ :: ·) (ih outside)
  | text _ _ ih | verbatim _ _ ih => cases outside <;> exact ih _
  | aside _ _ ih => exact ih outside

theorem significant_eq_nil_of_children {content : Content} (childless : content.children = []) :
    content.significant true = .nil := by
  induction content with
  | nil => rfl
  | element | selfClosing => cases childless
  | text _ _ ih | verbatim _ _ ih | aside _ _ ih => exact ih childless

/-- What counts in a content with one element is that element, in one of its two forms. -/
theorem significant_of_children_eq_singleton {content : Content} {root : Element}
    (one : content.children = [root]) :
    ∃ tag inner, (content.significant true = .element tag inner .nil ∨
      content.significant true = .selfClosing tag .nil ∧ inner = .nil) ∧
      root = elementOf (tag, inner) := by
  induction content with
  | nil => cases one
  | element tag inner rest _ _ =>
    obtain ⟨root_eq, childless⟩ := List.cons.inj one
    refine ⟨tag, inner.significant false, .inl ?_, ?_⟩
    · rw [significant, significant_eq_nil_of_children childless]
    · rw [← root_eq, elementOf, directText_significant, children_significant]
  | selfClosing tag rest _ =>
    obtain ⟨root_eq, childless⟩ := List.cons.inj one
    refine ⟨tag, .nil, .inr ⟨?_, rfl⟩, root_eq.symm⟩
    rw [significant, significant_eq_nil_of_children childless]
  | text _ _ ih | verbatim _ _ ih | aside _ _ ih => exact ih one

theorem length_selected_isOutermost (content : Content) (names : List String) :
    (selected Event.isOutermost names content.events).length =
      if names.isEmpty then content.children.length else 0 := by
  induction content generalizing names with
  | nil => cases names <;> rfl
  | element tag inner rest ihi ihr =>
    cases names <;>
      simp [events, children, selected, Event.isOutermost, Event.openAfter, selected_append,
        foldl_openAfter_events, ihi, ihr]
  | selfClosing tag rest ih =>
    cases names <;>
      simp [events, children, selected, Event.isOutermost, Event.openAfter, ih]
  | text _ rest ih | verbatim _ rest ih | aside _ rest ih => exact ih names

end Content

/-- Of the elements that nothing closes only the first one is outside all others. -/
theorem length_selected_isOutermost_unclosed (elements : List (Tag × Content))
    (names : List String) :
    (selected Event.isOutermost names (unclosed elements)).length =
      if names.isEmpty then min 1 elements.length else 0 := by
  induction elements generalizing names with
  | nil => cases names <;> rfl
  | cons element elements ih =>
    have inside := element.2.length_selected_isOutermost (element.1.name :: names)
    have others := ih (element.1.name :: names)
    simp only [List.isEmpty_cons, Bool.false_eq_true, if_false, List.length_eq_zero_iff]
      at inside others
    cases names <;>
      simp_all [unclosed, selected, Event.isOutermost, Event.openAfter, selected_append,
        Content.foldl_openAfter_events]

theorem length_outermost (content : Content) (elements : List (Tag × Content)) :
    (outermost (content.events ++ unclosed elements)).length =
      content.children.length + min 1 elements.length := by
  rw [outermost, selected_append, Content.foldl_openAfter_events, List.length_append,
    content.length_selected_isOutermost, length_selected_isOutermost_unclosed]
  rfl

theorem openNames_append_unclosed (content : Content) (elements : List (Tag × Content)) :
    openNames (content.events ++ unclosed elements) =
      (elements.map fun element => element.1.name).reverse := by
  have opened : ∀ names, (unclosed elements).foldl Event.openAfter names =
      (elements.map fun element => element.1.name).reverse ++ names := by
    induction elements with
    | nil => exact fun names => rfl
    | cons element elements ih =>
      intro names
      have first := ih (element.1.name :: names)
      simp_all [unclosed, Event.openAfter, Content.foldl_openAfter_events]
  rw [openNames, List.foldl_append, Content.foldl_openAfter_events, opened, List.append_nil]

/-! ### What the builder makes of it -/

namespace Builder

/-- The names of the builder's open elements. -/
def names (builder : Builder) : List String := builder.stack.map Element.name

theorem name_of_element_eq_ok {tag : Tag} {opened : Element} (made : element tag = .ok opened) :
    opened.name = tag.name := by
  cases read : tag.attributes? <;> simp only [element, read] at made
  · cases made
  · cases made
    rfl

theorem names_finish (closed : Element) (outer : List Element) (root? : Option Element) :
    (finish closed outer root?).names = outer.map Element.name := by
  cases outer <;> rfl

theorem names_addText (builder : Builder) (text : String) :
    (builder.addText text).names = builder.names := by
  cases stack_eq : builder.stack <;> simp [names, addText, stack_eq]

/-- **The builder's open elements are those that the events leave open.** -/
theorem names_step {builder builder' : Builder} {event : Event}
    (stepped : builder.step event = .ok builder') :
    builder'.names = event.openAfter builder.names := by
  cases event with
  | opening tag =>
    simp only [step] at stepped
    split at stepped
    · cases stepped
    · cases made : element tag with
      | error cause =>
        rw [made] at stepped
        cases stepped
      | ok opened =>
        rw [made] at stepped
        cases stepped
        exact congrArg (· :: builder.names) (name_of_element_eq_ok made)
  | selfClosing tag =>
    cases made : element tag with
    | error cause =>
      rw [step, made] at stepped
      cases stepped
    | ok closed =>
      simp only [step, made, bind, Except.bind] at stepped
      split at stepped <;> cases stepped
      exact names_finish ..
  | closing name =>
    simp only [step] at stepped
    split at stepped
    · cases stepped
    · rename_i current outer stack_eq
      cases stepped
      rw [names_finish, names, stack_eq]
      rfl
  | text written =>
    simp only [step] at stepped
    split at stepped
    · cases stepped
      rfl
    · split at stepped <;> cases stepped
      exact names_addText ..
  | verbatim characters =>
    cases stepped
    exact names_addText ..
  | aside =>
    cases stepped
    rfl

/-- The builder passes over an event that does not count. -/
theorem step_of_not_isSignificant {builder : Builder} {event : Event}
    (insignificant : event.isSignificant builder.names = false) :
    builder.step event = .ok builder := by
  cases event with
  | opening | selfClosing | closing => cases insignificant
  | aside => rfl
  | text | verbatim =>
    have outside : builder.stack = [] := by
      simpa [Event.isSignificant, names] using insignificant
    simp [step, addText, outside]

theorem foldlM_selected_isSignificant (events : List Event) (builder : Builder) :
    (selected Event.isSignificant builder.names events).foldlM step builder =
      events.foldlM step builder := by
  induction events generalizing builder with
  | nil => rfl
  | cons event events ih =>
    rw [selected, List.foldlM_cons]
    split
    · rw [List.foldlM_cons]
      cases stepped : builder.step event with
      | error cause => rfl
      | ok builder' =>
        rw [← names_step stepped]
        exact ih builder'
    · rename_i insignificant
      have stepped := step_of_not_isSignificant (Bool.eq_false_iff.2 insignificant)
      rw [stepped, ← names_step stepped]
      exact ih builder

/-- **Elements that nothing closes** stay on the stack, the last one innermost. -/
theorem foldlM_unclosed {elements : List (Tag × Content)}
    (valued : ∀ event ∈ unclosed elements, event.hasValue = true) (builder : Builder)
    (notClosed : builder.isClosed = false) :
    (unclosed elements).foldlM step builder =
      .ok ⟨(elements.map elementOf).reverse ++ builder.stack, builder.root?⟩ := by
  induction elements generalizing builder with
  | nil => rfl
  | cons element elements ih =>
    obtain ⟨tag, content⟩ := element
    simp only [unclosed, List.flatMap_cons, List.forall_mem_append, List.forall_mem_cons] at valued
    obtain ⟨⟨tagValued, contentValued⟩, restValued⟩ := valued
    obtain ⟨texts, tags⟩ := content.hasValues_iff.1 contentValued
    have opening : builder.step (.opening tag) =
        .ok ⟨{ name := tag.name, attributes := tag.attributes?.getD [] } :: builder.stack,
          builder.root?⟩ := by
      simp only [step, notClosed, element_eq_ok tagValued]
      rfl
    have extended : extend { name := tag.name, attributes := tag.attributes?.getD [] } content =
        elementOf (tag, content) := by
      simp [extend, elementOf]
    rw [unclosed, List.flatMap_cons, List.cons_append, foldlM_cons_of_ok opening,
      foldlM_append_of_ok (foldlM_events texts tags _ _ _), extended]
    have inner := ih restValued ⟨elementOf (tag, content) :: builder.stack, builder.root?⟩ rfl
    rw [unclosed] at inner
    simpa using inner

/-- Another element where the root is complete is one root too many. -/
theorem foldlM_unclosed_of_isClosed (element : Tag × Content) (elements : List (Tag × Content))
    (builder : Builder) (closed : builder.isClosed = true) :
    (unclosed (element :: elements)).foldlM step builder = .error .multipleRoots := by
  have opening : builder.step (.opening element.1) = .error .multipleRoots := by
    simp [step, closed]
  rw [unclosed, List.flatMap_cons, List.cons_append, List.foldlM_cons, opening]
  rfl

end Builder

theorem treeOfEvents_significant (events : List Event) :
    treeOfEvents (significant events) = treeOfEvents events := by
  have same := Builder.foldlM_selected_isSignificant events {}
  rw [treeOfEvents, treeOfEvents, ← same]
  rfl

theorem Builder.result_of_head? {stack : List Element} {innermost : Element}
    (top : stack.head? = some innermost) (root? : Option Element) :
    Builder.result ⟨stack, root?⟩ = .error (.unclosed innermost.name) := by
  obtain ⟨outer, rfl⟩ := List.head?_eq_some_iff.1 top
  rfl

section Valued

variable {content : Content} (valued : ∀ event ∈ content.events, event.hasValue = true)
include valued

/-- **Where everything is closed**, there has to be one root. -/
theorem treeOfEvents_of_closed :
    treeOfEvents content.events =
      match content.children with
      | [] => .error .noRoot
      | [root] => .ok root
      | _ :: _ :: _ => .error .multipleRoots := by
  obtain ⟨texts, tags⟩ := content.hasValues_iff.1 valued
  rw [treeOfEvents, Builder.foldlM_events_outside texts tags none, Content.children_eq]
  match content.elements.map elementOf with
  | [] => rfl
  | [_] => rfl
  | _ :: _ :: _ => rfl

/-- **Where elements are not closed**, the first of them is one root too many, or else the last of
them is the one that is missing its closing tag. -/
theorem treeOfEvents_of_unclosed {elements : List (Tag × Content)} {innermost : Tag × Content}
    (valued' : ∀ event ∈ unclosed elements, event.hasValue = true)
    (last : elements.getLast? = some innermost) :
    treeOfEvents (content.events ++ unclosed elements) =
      if content.children = [] then .error (.unclosed innermost.1.name)
      else .error .multipleRoots := by
  obtain ⟨texts, tags⟩ := content.hasValues_iff.1 valued
  rw [treeOfEvents, List.foldlM_append, Builder.foldlM_events_outside texts tags none,
    ← Content.children_eq]
  rcases roots_eq : content.children with _ | ⟨root, _ | ⟨root', roots⟩⟩
  · have stacked := Builder.foldlM_unclosed valued' {} rfl
    have top : ((elements.map elementOf).reverse ++ []).head? =
        some (elementOf innermost) := by
      rw [List.append_nil, List.head?_reverse, List.getLast?_map, last]
      rfl
    rw [if_pos rfl]
    exact (congrArg (· >>= Builder.result) stacked).trans (Builder.result_of_head? top none)
  · obtain ⟨first, others, rfl⟩ : ∃ first others, elements = first :: others :=
      List.exists_cons_of_ne_nil fun none_ => by simp [none_] at last
    rw [if_neg (List.cons_ne_nil _ _)]
    exact congrArg (· >>= Builder.result)
      (Builder.foldlM_unclosed_of_isClosed first others ⟨[], some root⟩ rfl)
  · rw [if_neg (List.cons_ne_nil _ _)]
    rfl

end Valued

/-! ### From a document to its events -/

theorem isMatched_matchTags (complete : Bool) (names : List String) (events : List Event) :
    isMatched names (matchTags complete names events).events = true := by
  induction events generalizing names with
  | nil => rfl
  | cons event events ih =>
    cases event with
    | opening tag => exact ih _
    | closing name =>
      cases names with
      | nil => rfl
      | cons innermost outer =>
        rw [matchTags]
        split
        · rename_i same
          simpa [Scan.cons, isMatched, Event.fits, Event.openAfter, same] using ih outer
        · rfl
    | selfClosing tag => exact ih _
    | text written => exact ih _
    | verbatim characters => exact ih _
    | aside => exact ih _

/-- **The events of a document are matched**, also those of one that is no markup further on. -/
theorem isMatched_scan (document : String) : isMatched [] (scan document).events = true :=
  isMatched_matchTags ..

/-- **The tree of a document** is that of its events, unless it is no markup somewhere. -/
theorem tree_of_scan {document : String} {events : List Event} {complete : Bool}
    (scanned : scan document = ⟨events, complete⟩) :
    tree document = if complete then treeOfEvents events
      else events.foldlM Builder.step {} >>= fun _ => .error .malformed := by
  cases complete <;> simp [tree, treeOfEvents, scanned]

/-- **A self-closing tag is an element without content.** -/
theorem treeOfEvents_selfClosing (before after : List Event) {tag : Tag}
    (valued : tag.attributes?.isSome = true) :
    treeOfEvents (before ++ .selfClosing tag :: after) =
      treeOfEvents (before ++ .opening tag :: .closing tag.name :: after) := by
  have step : ∀ builder : Builder, builder.step (.selfClosing tag) =
      builder.step (.opening tag) >>= fun opened => opened.step (.closing tag.name) := by
    intro builder
    simp only [Builder.step, Builder.element_eq_ok valued]
    cases builder.isClosed <;> rfl
  simp only [treeOfEvents, List.foldlM_append, List.foldlM_cons, step, bind_assoc]

/-! ### When a sequence of events is a tree -/

section Matched

variable {events : List Event} (matched : isMatched [] events = true)
  (valued : ∀ event ∈ events, event.hasValue = true)
include matched valued

/-- A tree that is built is the one whose traversal the events are. -/
theorem exists_traversal_of_treeOfEvents {root : Element} (built : treeOfEvents events = .ok root) :
    ∃ tag inner, (significant events = .opening tag :: (Content.events inner ++
        [.closing tag.name]) ∨ significant events = [.selfClosing tag] ∧ inner = .nil) ∧
      root = elementOf (tag, inner) := by
  obtain ⟨content, elements, rfl⟩ := exists_eq_events_append_unclosed matched
  rw [List.forall_mem_append] at valued
  cases last : elements.getLast? with
  | some innermost =>
    rw [treeOfEvents_of_unclosed valued.1 valued.2 last] at built
    split at built <;> cases built
  | none =>
    obtain rfl := List.getLast?_eq_none_iff.1 last
    rw [unclosed, List.flatMap_nil, List.append_nil] at built ⊢
    rw [treeOfEvents_of_closed valued.1] at built
    split at built <;> cases built
    rename_i one
    obtain ⟨tag, inner, form, rfl⟩ := Content.significant_of_children_eq_singleton one
    have events_eq : significant content.events = (content.significant true).events :=
      content.selected_isSignificant_events []
    refine ⟨tag, inner, form.imp ?_ ?_, rfl⟩
    · intro built
      rw [events_eq, built]
      rfl
    · rintro ⟨built, empty⟩
      rw [events_eq, built]
      exact ⟨rfl, empty⟩

omit matched in
/-- The traversal of an element is built as that element. -/
theorem treeOfEvents_of_traversal {tag : Tag} {inner : Content}
    (form : significant events = .opening tag :: (inner.events ++ [.closing tag.name]) ∨
      significant events = [.selfClosing tag] ∧ inner = .nil) :
    treeOfEvents events = .ok (elementOf (tag, inner)) := by
  have valued' : ∀ event ∈ significant events, event.hasValue = true :=
    fun event among => valued event (mem_of_mem_selected among)
  rw [← treeOfEvents_significant]
  rcases form with form | ⟨form, rfl⟩ <;> rw [form] at valued' ⊢
  · exact @treeOfEvents_of_closed (.element tag inner .nil) valued'
  · exact @treeOfEvents_of_closed (.selfClosing tag .nil) valued'

/-- **What stands in the way of a tree**: no element, a second one outside all others, or one that
nothing closes. -/
theorem treeOfEvents_eq_error_iff :
    (treeOfEvents events = .error .noRoot ↔ outermost events = []) ∧
    (treeOfEvents events = .error .multipleRoots ↔ 2 ≤ (outermost events).length) ∧
    ∀ name, treeOfEvents events = .error (.unclosed name) ↔
      (outermost events).length = 1 ∧ (openNames events).head? = some name := by
  obtain ⟨content, elements, rfl⟩ := exists_eq_events_append_unclosed matched
  rw [List.forall_mem_append] at valued
  have open_eq : (openNames (content.events ++ unclosed elements)).head? =
      elements.getLast?.map fun element => element.1.name := by
    rw [openNames_append_unclosed, List.head?_reverse, List.getLast?_map]
  rw [← List.length_eq_zero_iff, length_outermost, open_eq]
  cases last : elements.getLast? with
  | some innermost =>
    have length_eq : min 1 elements.length = 1 := by
      have := List.length_pos_of_mem (List.mem_of_getLast? last)
      omega
    rw [treeOfEvents_of_unclosed valued.1 valued.2 last, length_eq]
    rcases content.children with _ | ⟨root, roots⟩ <;> simp
  | none =>
    obtain rfl := List.getLast?_eq_none_iff.1 last
    rw [unclosed, List.flatMap_nil, List.append_nil, treeOfEvents_of_closed valued.1]
    rcases content.children with _ | ⟨root, _ | ⟨root', roots⟩⟩ <;> simp

/-- **Building a tree from events** in which closing tags match and everything has a value.

The builder succeeds exactly when the events that count (`significant`) are the traversal of one
element, in either of its two forms, and then it returns that element: its children in order, its
text what stands directly in it. Otherwise it says what is wrong: no element at all, a second one
outside all others in whatever form, or the innermost of those that nothing closes. A
self-closing tag anywhere stands for an element without content. A document is read as its events,
and not at all if it stops being markup. -/
theorem treeOfEvents_matched :
    (∀ root, treeOfEvents events = .ok root ↔ ∃ tag inner,
      (significant events = .opening tag :: (Content.events inner ++ [.closing tag.name]) ∨
        significant events = [.selfClosing tag] ∧ inner = .nil) ∧
      root = elementOf (tag, inner)) ∧
    (treeOfEvents events = .error .noRoot ↔ outermost events = []) ∧
    (treeOfEvents events = .error .multipleRoots ↔ 2 ≤ (outermost events).length) ∧
    (∀ name, treeOfEvents events = .error (.unclosed name) ↔
      (outermost events).length = 1 ∧ (openNames events).head? = some name) ∧
    (∀ before tag after, events = before ++ .selfClosing tag :: after →
      treeOfEvents (before ++ .opening tag :: .closing tag.name :: after) =
        treeOfEvents events) ∧
    (∀ document, scan document = ⟨events, true⟩ → tree document = treeOfEvents events) ∧
    ∀ document, scan document = ⟨events, false⟩ → ∀ root, tree document ≠ .ok root := by
  obtain ⟨noRoot, twoRoots, leftOpen⟩ := treeOfEvents_eq_error_iff matched valued
  refine ⟨fun root => ⟨exists_traversal_of_treeOfEvents matched valued, ?_⟩, noRoot, twoRoots,
    leftOpen, ?_, ?_, ?_⟩
  · rintro ⟨tag, inner, form, rfl⟩
    exact treeOfEvents_of_traversal valued form
  · rintro before tag after rfl
    have tagValued : tag.attributes?.isSome = true :=
      valued (.selfClosing tag) (List.mem_append_right _ List.mem_cons_self)
    exact (treeOfEvents_selfClosing before after tagValued).symm
  · intro document scanned
    exact tree_of_scan scanned
  · intro document scanned root
    rw [tree_of_scan scanned, if_neg Bool.false_ne_true]
    cases events.foldlM Builder.step {} <;> nofun

end Matched

/-- A declaration, a line break and a comment do not count, and of two pieces of text around a
self-closing tag one is verbatim. -/
theorem treeOfEvents_matched_sample :
    treeOfEvents [.aside, .text ['\n'], .opening ⟨"a", " k='v'".toList⟩, .text "x&lt;".toList,
      .aside, .selfClosing ⟨"b", []⟩, .verbatim "&y".toList, .closing "a", .text ['\n']] =
        .ok { name := "a", attributes := [("k", "v")], text := "x<&y",
              children := [{ name := "b" }] } := by
  have built := @treeOfEvents_matched [.aside, .text ['\n'], .opening ⟨"a", " k='v'".toList⟩,
    .text "x&lt;".toList, .aside, .selfClosing ⟨"b", []⟩, .verbatim "&y".toList, .closing "a",
    .text ['\n']] (by decide) (by decide)
  refine (built.1 _).2 ⟨⟨"a", " k='v'".toList⟩, .text "x&lt;".toList (.selfClosing ⟨"b", []⟩
    (.verbatim "&y".toList .nil)), .inl (by decide), ?_⟩
  rfl

end VerifierTrials.Xml
