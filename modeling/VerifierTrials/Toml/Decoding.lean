import VerifierTrials.Toml.Document

/-!
# Typed values out of a document

Settings have types, and a value is never converted from one to another: each
decoder takes the values of its type and refuses all others. A **record** is a table
whose unknown names are ignored, or an array that gives the fields in their order; a
date counts as a record without any field.
-/

namespace VerifierTrials.Toml

/-- A decoder of values. -/
abbrev Decoder (α : Type) := Value → Option α

/-- A text. -/
def string : Decoder String
  | .string s => some s
  | _ => none

/-- A truth value. -/
def boolean : Decoder Bool
  | .boolean b => some b
  | _ => none

/-- A number that is not negative. -/
def natural : Decoder Nat
  | .integer n => if 0 ≤ n then some n.toNat else none
  | _ => none

/-- The items of a sequence: an array, or the tables under a repeated header. -/
def sequence? : Value → Option (List Value)
  | .array items => some items
  | .tables items => some (items.map (.table .headed))
  | _ => none

/-- A sequence of values of one type. -/
def list {α : Type} (item : Decoder α) : Decoder (List α) := fun value =>
  (sequence? value).bind fun items => items.mapM item

/-- **A record**: the values of its fields that are given. -/
def record (fields : List String) : Decoder Entries
  | .table _ entries => some entries
  | .date => some []
  | value => (sequence? value).map fields.zip

/-- A field of a record that has to be given. -/
def required {α : Type} (entries : Entries) (name : String) (decode : Decoder α) : Option α :=
  (entries.lookup name).bind decode

/-- A field of a record that has a value when it is not given. -/
def optional {α : Type} (entries : Entries) (name : String) (default : α) (decode : Decoder α) :
    Option α :=
  match entries.lookup name with
  | none => some default
  | some value => decode value

/-- A field of a record that need not be given. -/
def maybe {α : Type} (entries : Entries) (name : String) (decode : Decoder α) :
    Option (Option α) :=
  optional entries name none fun value => (decode value).map some

/-- **A choice**: a text that names it, or a record of one field that is empty. -/
def choice : Decoder String
  | .string s => some s
  | .table _ [(name, content)] => if isEmpty content then some name else none
  | _ => none
where
  /-- A table or a sequence without content. -/
  isEmpty : Value → Bool
    | .array items => items.isEmpty
    | .table _ entries => entries.isEmpty
    | .tables items => items.isEmpty
    | _ => false

end VerifierTrials.Toml
