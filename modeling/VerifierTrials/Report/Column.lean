import VerifierTrials.Decimal.Binary64
import VerifierTrials.Definition.Basic

/-!
# Metric columns

A column names a text by which its value is found in the output of a tool: on the first
line with that text, behind it, after a colon if there is one, and up to a parenthesis.
A column may round its value to a number of places; a value that is no number is shown
as it is.
-/

namespace VerifierTrials

open VerifierTrials.Text

/-- A value in a report, under its title. -/
structure Cell where
  title : String
  value : String
  deriving DecidableEq, Repr

namespace Column

/-- What is shown when there is no value. -/
def missing : String := "-"

/-- **The value behind a key** in the output of a tool. -/
def extract? (output key : String) : Option String :=
  match (linesOf output).find? (contains key) with
  | none => none
  | some line =>
    (cut? key line).map fun (_, rest) =>
      let value := ((cut? ":" rest).map Prod.snd).getD rest
      trimmed (String.ofList (cutAt (· = '(') value.toList))

/-- The number in a value: without the last character, if that is the unit of the digit
before it. -/
def numberPart (value : List Char) : List Char :=
  match value.reverse with
  | unit :: digit :: _ =>
    if !unit.isDigit && digit.isDigit then value.dropLast else value
  | _ => value

/-- **A value rounded to a number of places**, if it is a number. -/
def format (value : String) (places : Nat) : String :=
  match Decimal.Binary64.ofNumeral? (numberPart value.toList) with
  | some number => String.ofList (number.toFixed places)
  | none => value

/-- The most places that a number can be written with. -/
def placesBound : Nat := 65535

/-- Whether a value can be rounded to a number of places: what is no number is never written. -/
def isRoundable (value : String) (places : Nat) : Bool :=
  (Decimal.Binary64.ofNumeral? (numberPart value.toList)).isNone || places ≤ placesBound

/-- Whether the value of a column can be written for the output of a tool. -/
def isWritable (column : Column) (output : String) : Bool :=
  match extract? output column.text, column.digits with
  | some value, some places => isRoundable value places
  | _, _ => true

/-- The cell of a column for the output of a tool. -/
def cell (column : Column) (output : String) : Cell :=
  ⟨column.title,
    match extract? output column.text, column.digits with
    | some value, some places => format value places
    | some value, none => value
    | none, _ => missing⟩

/-- **The cells of columns for the output of a tool.** -/
def cells (columns : List Column) (output : String) : List Cell :=
  columns.map fun column => column.cell output

/-- The cells of columns without any value. -/
def missingCells (columns : List Column) : List Cell :=
  columns.map fun column => ⟨column.title, missing⟩

end Column

end VerifierTrials
