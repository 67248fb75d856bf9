import VerifierTrials.Xml.Event

/-!
# The element tree of a document

A sequence of events is the traversal of a tree: an opening tag goes down, a closing
tag comes back up, a self-closing tag is an element without content. Building the
tree keeps the elements that are still open in a stack, each with the children it has
so far (`Builder`). There has to be exactly one element outside all others.
-/

namespace VerifierTrials.Xml

/-- **An element**: its name, its attributes in order, the text directly in it, and
its children in order. -/
structure Element where
  name : String
  attributes : List (String × String) := []
  text : String := ""
  children : List Element := []
  deriving Repr

namespace Element

/-- The value of an attribute. -/
def attribute? (element : Element) (key : String) : Option String := element.attributes.lookup key

/-- The children of a name, in order. -/
def childrenNamed (element : Element) (name : String) : List Element :=
  element.children.filter fun child => child.name == name

/-- The text of an element without the white space around it, if anything is left. -/
def content? (element : Element) : Option String :=
  let text := Text.trimmed element.text
  if text = "" then none else some text

end Element

/-- Why a document is refused. -/
inductive DocumentError where
  /-- It is no markup, or a text or an attribute in it has no value. -/
  | malformed
  | multipleRoots
  | unbalancedClosing
  | unclosed (name : String)
  | noRoot
  | missingTool
  | unknownTool (name : String)
  | notANumber (key value : String)
  deriving DecidableEq, Repr

/-- **A tree being built**: the open elements, innermost first, and the finished root. -/
structure Builder where
  stack : List Element := []
  root? : Option Element := none

namespace Builder

/-- An element without content, from its tag. -/
def element (tag : Tag) : Except DocumentError Element :=
  match tag.attributes? with
  | some attributes => .ok { name := tag.name, attributes }
  | none => .error .malformed

/-- Text added to the innermost open element. -/
def addText (builder : Builder) (text : String) : Builder :=
  match builder.stack with
  | [] => builder
  | current :: outer => { builder with stack := { current with text := current.text ++ text } :: outer }

/-- A finished element given to the one around it; without one it is the root. -/
def finish (element : Element) (outer : List Element) (root? : Option Element) : Builder :=
  match outer with
  | [] => ⟨[], some element⟩
  | parent :: further =>
    ⟨{ parent with children := parent.children ++ [element] } :: further, root?⟩

/-- Whether another element here would be a second root. -/
def isClosed (builder : Builder) : Bool := builder.stack.isEmpty && builder.root?.isSome

/-- **One event.** -/
def step (builder : Builder) : Event → Except DocumentError Builder
  | .opening tag => do
    if builder.isClosed then .error .multipleRoots
    else
      let opened ← element tag
      .ok { builder with stack := opened :: builder.stack }
  | .selfClosing tag => do
    let closed ← element tag
    if builder.isClosed then .error .multipleRoots
    else .ok (finish closed builder.stack builder.root?)
  | .closing _ =>
    match builder.stack with
    | [] => .error .unbalancedClosing
    | current :: outer => .ok (finish current outer builder.root?)
  | .text written =>
    if builder.stack.isEmpty then .ok builder
    else
      match unescape? written with
      | some text => .ok (builder.addText (String.ofList text))
      | none => .error .malformed
  | .verbatim content => .ok (builder.addText (String.ofList content))
  | .aside => .ok builder

/-- The root when all events are through. -/
def result (builder : Builder) : Except DocumentError Element :=
  match builder.stack, builder.root? with
  | open_ :: _, _ => .error (.unclosed open_.name)
  | [], some root => .ok root
  | [], none => .error .noRoot

end Builder

/-- **The tree of a sequence of events.** -/
def treeOfEvents (events : List Event) : Except DocumentError Element := do
  (← events.foldlM Builder.step {}).result

/-- **The tree of a document.** A place where it is no markup counts after everything
before it. -/
def tree (document : String) : Except DocumentError Element := do
  let scanned := scan document
  let builder ← scanned.events.foldlM Builder.step {}
  if scanned.complete then builder.result else .error .malformed

end VerifierTrials.Xml
