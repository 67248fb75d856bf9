import VerifierTrials.Xml.Event

/-!
# The report of a bounded model checker

One of the tools reports in markup. Of its report two texts matter: the **status**,
in the first child of the root that is named for it, and the **reason** of the failure,
at its place in the first trace that has one. Reading stops to collect such a text at
the next tag, be it one that opens or one that closes.

The reader follows the events of the document with the names of the open elements; it
needs no tree, and the values of attributes do not matter to it.
-/

namespace VerifierTrials

open VerifierTrials.Xml

/-- **What a report says.** -/
structure TraceReport where
  status : Option String := none
  reason : Option String := none
  deriving DecidableEq, Repr

namespace TraceReport

/-- The text that is being collected. -/
inductive Field where
  | status
  | reason
  deriving DecidableEq, Repr

/-- A report being read: the names of the open elements, innermost first, whether a root
has been seen, the text being collected, and what has been found. -/
structure Reader where
  openNames : List String := []
  rooted : Bool := false
  collecting : Option Field := none
  found : TraceReport := {}
  deriving DecidableEq, Repr

namespace Reader

/-- What the element just opened holds, if it is the first of its kind. -/
def fieldHere (names : List String) (found : TraceReport) : Option Field :=
  match names with
  | ["cprover-status", _] => if found.status.isNone then some .status else none
  | ["reason", "failure", "goto_trace", _] => if found.reason.isNone then some .reason else none
  | _ => none

/-- A text added to the one that is being collected. -/
def collect (reader : Reader) (text : String) : Reader :=
  match reader.collecting with
  | some .status =>
    { reader with
      found := { reader.found with status := reader.found.status.map (· ++ text) } }
  | some .reason =>
    { reader with
      found := { reader.found with reason := reader.found.reason.map (· ++ text) } }
  | none => reader

/-- A text about to be collected. -/
def start (field : Option Field) (found : TraceReport) : TraceReport :=
  match field with
  | some .status => { found with status := some "" }
  | some .reason => { found with reason := some "" }
  | none => found

/-- Whether another element here would be a second root. -/
def isClosed (reader : Reader) : Bool := reader.openNames.isEmpty && reader.rooted

/-- **One event**, or nothing when it does not belong into a document. -/
def step? (reader : Reader) : Event → Option Reader
  | .opening tag =>
    if reader.isClosed then none
    else
      let names := tag.name :: reader.openNames
      let field := fieldHere names reader.found
      some ⟨names, true, field, start field reader.found⟩
  | .selfClosing _ =>
    if reader.isClosed then none
    else some { reader with rooted := true }
  | .closing _ =>
    some { reader with openNames := reader.openNames.tail, collecting := none }
  | .text written => (unescape? written).map fun text => reader.collect (String.ofList text)
  | .verbatim content => some (reader.collect (String.ofList content))
  | .aside => some reader

/-- What has been found when all events are through. -/
def result? (reader : Reader) : Option TraceReport :=
  if reader.rooted && reader.openNames.isEmpty then some reader.found else none

end Reader

/-- **The report in a sequence of events**, or nothing when they are no document. -/
def ofEvents? (events : List Event) : Option TraceReport :=
  (events.foldlM Reader.step? {}).bind Reader.result?

/-- **The report in the output of a tool.** -/
def read? (output : String) : Option TraceReport :=
  let scanned := scan output
  if scanned.complete then ofEvents? scanned.events else none

end TraceReport

end VerifierTrials
