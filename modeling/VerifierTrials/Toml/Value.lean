/-!
# Values of the configuration language

A document is a table of named values. How a table **came to be** decides what may
still be added to it: one written in braces is closed; one under a header of its own
can be opened once; one that only appears inside longer names (`implied`, `dotted`)
stays open to names of its own kind. Adding to a document is one operation
(`alter`): go down a path of names, making the tables that are missing, and change
the table at its end.
-/

namespace VerifierTrials.Toml

/-- How a table came to be. -/
inductive TableKind where
  /-- Written in braces. -/
  | braced
  /-- Opened by a header. -/
  | headed
  /-- Passed through by a longer header. -/
  | implied
  /-- Passed through by a dotted name. -/
  | dotted
  deriving DecidableEq, Repr

/-- **A value.** Numbers with a fraction and dates are recognised, and no setting
takes one, so that they carry nothing. -/
inductive Value where
  | string (value : String)
  | integer (value : Int)
  | fraction
  | date
  | boolean (value : Bool)
  | array (items : List Value)
  | table (kind : TableKind) (entries : List (String × Value))
  /-- Tables under one repeated header, in order. -/
  | tables (items : List (List (String × Value)))
  deriving Repr

/-- The entries of a table. -/
abbrev Entries := List (String × Value)

namespace Entries

/-- The entries with the value of a name exchanged. -/
def replace (entries : Entries) (name : String) (value : Value) : Entries :=
  entries.map fun e => if e.1 = name then (name, value) else e

/-- **Changing the table at the end of a path.** Missing tables are made, of the kind
that the path makes. A path of dotted names does not lead into a table that a header
has opened, no path leads into a braced table or another value, and under a repeated
header it leads into the last table. -/
def alter (made : TableKind) (change : TableKind → Entries → Option Entries)
    (kind : TableKind) (entries : Entries) : List String → Option Entries
  | [] => change kind entries
  | name :: path =>
    match entries.lookup name with
    | none => do
      let inner ← alter made change made [] path
      some (entries ++ [(name, .table made inner)])
    | some (.table .braced _) => none
    | some (.table kind' inner) =>
      if made = .dotted && kind' = .headed then none
      else do
        let inner' ← alter made change kind' inner path
        some (replace entries name (.table kind' inner'))
    | some (.tables items) =>
      match items.getLast? with
      | none => none
      | some last => do
        let last' ← alter made change .headed last path
        some (replace entries name (.tables (items.dropLast ++ [last'])))
    | some _ => none

/-- A new name with its value. A name that follows dots belongs only to a table that
dots have made, and a plain one only to any other. -/
def define (afterDots : Bool) (name : String) (value : Value) (kind : TableKind)
    (entries : Entries) : Option Entries :=
  if (kind = .dotted) != afterDots then none
  else if (entries.lookup name).isSome then none
  else some (entries ++ [(name, value)])

/-- **A dotted name defined in a table.** -/
def assign (path : List String) (name : String) (value : Value) (kind : TableKind)
    (entries : Entries) : Option Entries :=
  alter .dotted (define (!path.isEmpty) name value) kind entries path

/-- A table opened by its header: a new one, or one that was only implied so far. -/
def openTable (name : String) (_ : TableKind) (entries : Entries) : Option Entries :=
  match entries.lookup name with
  | none => some (entries ++ [(name, .table .headed [])])
  | some (.table .implied inner) => some (replace entries name (.table .headed inner))
  | some _ => none

/-- One more table under a repeated header. -/
def openNext (name : String) (_ : TableKind) (entries : Entries) : Option Entries :=
  match entries.lookup name with
  | none => some (entries ++ [(name, .tables [[]])])
  | some (.tables items) => some (replace entries name (.tables (items ++ [[]])))
  | some _ => none

end Entries

end VerifierTrials.Toml
