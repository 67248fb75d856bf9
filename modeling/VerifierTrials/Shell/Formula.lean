import VerifierTrials.Shell.Numeral
import VerifierTrials.Shell.Token

/-!
# Formulas

The shell computes with integers of 64 bits. A formula is read by precedence: from the
loosest level of binary operators down to signs, numbers, names and parentheses. It may set
variables on its way, but no part of it is computed that does not matter for its value: of
the second condition behind a decided one, and of the branch that is not chosen, nothing
happens.
-/

namespace VerifierTrials.Shell

/-- An operator between two numbers. -/
inductive Operator where
  | bitOr
  | bitXor
  | bitAnd
  | equal
  | unequal
  | less
  | lessEqual
  | greater
  | greaterEqual
  | shiftLeft
  | shiftRight
  | add
  | subtract
  | multiply
  | divide
  | remainder
  deriving DecidableEq, Repr

/-- **A formula.** -/
inductive Formula where
  | number (value : Int)
  | held (name : String)
  | negative (of : Formula)
  | isZero (of : Formula)
  | complement (of : Formula)
  | operation (operator : Operator) (left right : Formula)
  /-- Whether one of two numbers is not zero. -/
  | either (left right : Formula)
  /-- Whether both of two numbers are not zero. -/
  | both (left right : Formula)
  | choice (test yes no : Formula)
  /-- A variable set, perhaps to what an operator makes of its value before. -/
  | assignment (name : String) (operator : Option Operator) (value : Formula)
  deriving DecidableEq, Repr

namespace Formula

/-- Why a formula has no value. -/
inductive Fault where
  | wanted (what : String)
  | divisionByZero
  /-- What a variable holds is no number. -/
  | noNumber (text : String)
  deriving DecidableEq, Repr

/-- What the shell says of a fault of a formula. -/
def Fault.message (formula : String) : Fault → String
  | wanted what => "arithmetic expression: expecting " ++ what ++ ": " ++ inQuotes formula
  | divisionByZero => "arithmetic expression: division by zero: " ++ inQuotes formula
  | noNumber text => "Illegal number: " ++ text

/-! ### Symbols -/

/-- A symbol of a formula. -/
inductive Symbol where
  | number (value : Int)
  | name (text : String)
  | sign (text : String)
  deriving DecidableEq, Repr

/-- The signs of formulas, longer ones before their beginnings. -/
def signs : List String :=
  ["<<=", ">>=", "||", "&&", "==", "!=", "<=", ">=", "<<", ">>", "+=", "-=", "*=", "/=", "%=",
    "&=", "|=", "^=", "+", "-", "*", "/", "%", "<", ">", "&", "|", "^", "!", "~", "=", "?", ":",
    "(", ")"]

/-- The symbol at the front of a text that is not blank, and what comes after it. A character
without a meaning is a sign that no formula has. -/
def symbol (c : Char) (cs : List Char) : Symbol × List Char :=
  match Numeral.unsigned? (c :: cs) with
  | some (value, rest) => (.number (Numeral.clamp value), rest)
  | none =>
    if isNameChar c then
      (.name (String.ofList (c :: cs.takeWhile isNameChar)), cs.dropWhile isNameChar)
    else
      match signs.findSome? fun text =>
        (Text.stripPrefix? text.toList (c :: cs)).map fun rest => (text, rest) with
      | some (text, rest) => (.sign text, rest)
      | none => (.sign (String.singleton c), cs)

/-- The symbols of a formula, with a bound on their number. -/
def symbols : Nat → List Char → List Symbol
  | 0, _ => []
  | _, [] => []
  | n + 1, c :: cs =>
    if Text.isBlank c then symbols n cs
    else
      let (first, rest) := symbol c cs
      first :: symbols n rest

/-! ### Reading -/

/-- The levels of operators, the loosest first. -/
def levels : List (List (String × Operator)) :=
  [[("|", .bitOr)], [("^", .bitXor)], [("&", .bitAnd)], [("==", .equal), ("!=", .unequal)],
    [("<=", .lessEqual), (">=", .greaterEqual), ("<", .less), (">", .greater)],
    [("<<", .shiftLeft), (">>", .shiftRight)], [("+", .add), ("-", .subtract)],
    [("*", .multiply), ("/", .divide), ("%", .remainder)]]

/-- The signs that set a variable. -/
def assignments : List (String × Option Operator) :=
  [("=", none), ("+=", some .add), ("-=", some .subtract), ("*=", some .multiply),
    ("/=", some .divide), ("%=", some .remainder), ("&=", some .bitAnd), ("|=", some .bitOr),
    ("^=", some .bitXor), ("<<=", some .shiftLeft), (">>=", some .shiftRight)]

/-- A formula read, and the symbols after it. -/
abbrev Reading := Except Fault (Formula × List Symbol)

mutual

/-- A formula that may set a variable. -/
def whole : Nat → List Symbol → Reading
  | 0, _ => .error (.wanted "primary")
  | n + 1, s =>
    match s with
    | .name target :: .sign text :: rest =>
      match assignments.lookup text with
      | some operator => do
        let (value, rest) ← whole n rest
        return (.assignment target operator value, rest)
      | none => chosen n s
    | _ => chosen n s

/-- A formula that may choose between two. -/
def chosen : Nat → List Symbol → Reading
  | 0, _ => .error (.wanted "primary")
  | n + 1, s => do
    let (test, rest) ← anyOf n s
    match rest with
    | .sign "?" :: rest => do
      let (yes, rest) ← whole n rest
      match rest with
      | .sign ":" :: rest => do
        let (no, rest) ← chosen n rest
        return (.choice test yes no, rest)
      | _ => .error (.wanted "':'")
    | rest => return (test, rest)

/-- Conditions of which one has to hold. -/
def anyOf : Nat → List Symbol → Reading
  | 0, _ => .error (.wanted "primary")
  | n + 1, s => do
    let (first, rest) ← allOf n s
    match rest with
    | .sign "||" :: rest => do
      let (second, rest) ← anyOf n rest
      return (.either first second, rest)
    | rest => return (first, rest)

/-- Conditions all of which have to hold. -/
def allOf : Nat → List Symbol → Reading
  | 0, _ => .error (.wanted "primary")
  | n + 1, s => do
    let (first, rest) ← level n levels s
    match rest with
    | .sign "&&" :: rest => do
      let (second, rest) ← allOf n rest
      return (.both first second, rest)
    | rest => return (first, rest)

/-- A formula of the given levels. -/
def level : Nat → List (List (String × Operator)) → List Symbol → Reading
  | 0, _, _ => .error (.wanted "primary")
  | n + 1, [], s => single n s
  | n + 1, operators :: tighter, s => do
    let (first, rest) ← level n tighter s
    levelAfter n operators tighter first rest

/-- The same, given its beginning. -/
def levelAfter : Nat → List (String × Operator) → List (List (String × Operator)) → Formula →
    List Symbol → Reading
  | 0, _, _, _, _ => .error (.wanted "primary")
  | n + 1, operators, tighter, first, s =>
    match s with
    | .sign text :: rest =>
      match operators.lookup text with
      | some operator => do
        let (second, rest) ← level n tighter rest
        levelAfter n operators tighter (.operation operator first second) rest
      | none => .ok (first, s)
    | _ => .ok (first, s)

/-- A number, a variable, a sign before one, or a formula in parentheses. -/
def single : Nat → List Symbol → Reading
  | 0, _ => .error (.wanted "primary")
  | n + 1, s =>
    match s with
    | .number value :: rest => .ok (.number value, rest)
    | .name text :: rest => .ok (.held text, rest)
    | .sign "+" :: rest => single n rest
    | .sign "-" :: rest => (single n rest).map fun (formula, rest) => (.negative formula, rest)
    | .sign "!" :: rest => (single n rest).map fun (formula, rest) => (.isZero formula, rest)
    | .sign "~" :: rest => (single n rest).map fun (formula, rest) => (.complement formula, rest)
    | .sign "(" :: rest => do
      let (formula, rest) ← whole n rest
      match rest with
      | .sign ")" :: rest => return (formula, rest)
      | _ => .error (.wanted "')'")
    | _ => .error (.wanted "primary")

end

/-- **The formula that a text is**, all of it. -/
def read (text : List Char) : Except Fault Formula := do
  let s := symbols (text.length + 1) text
  match ← whole (16 * s.length + 16) s with
  | (formula, []) => .ok formula
  | _ => .error (.wanted "EOF")

/-! ### Computing -/

/-- An integer brought into 64 bits. -/
def wrap (n : Int) : Int := Int.bmod n (Nat.pow 2 64)

/-- The bits of an integer. -/
def bits (n : Int) : Nat := (n % (Nat.pow 2 64 : Int)).toNat

/-- A truth value as a number. -/
def truth (b : Bool) : Int := if b then 1 else 0

end Formula

open Formula in
/-- **What an operator makes of two numbers.** -/
def Operator.combine (operator : Operator) (a b : Int) : Except Fault Int :=
  match operator with
  | bitOr => .ok (wrap (bits a ||| bits b : Nat))
  | bitXor => .ok (wrap (bits a ^^^ bits b : Nat))
  | bitAnd => .ok (wrap (bits a &&& bits b : Nat))
  | equal => .ok (truth (a = b))
  | unequal => .ok (truth (a ≠ b))
  | less => .ok (truth (a < b))
  | lessEqual => .ok (truth (a ≤ b))
  | greater => .ok (truth (a > b))
  | greaterEqual => .ok (truth (a ≥ b))
  | shiftLeft => .ok (wrap (a * (Nat.pow 2 (b % 64).toNat : Int)))
  | shiftRight => .ok (a.fdiv (Nat.pow 2 (b % 64).toNat : Int))
  | add => .ok (wrap (a + b))
  | subtract => .ok (wrap (a - b))
  | multiply => .ok (wrap (a * b))
  | divide => if b = 0 then .error .divisionByZero else .ok (wrap (a.tdiv b))
  | remainder => if b = 0 then .error .divisionByZero else .ok (a.tmod b)

namespace Formula

/-- Computing with variables, which may be set on the way. -/
abbrev Computation := StateT (List (String × Int)) (Except Fault)

/-- **The value of a formula**, given what variables hold that it has not set itself. -/
def value (valueOf : String → Except Fault Int) : Formula → Computation Int
  | number n => return n
  | held name => do
    match (← get).lookup name with
    | some n => return n
    | none => valueOf name
  | negative f => return wrap (-(← f.value valueOf))
  | isZero f => return truth ((← f.value valueOf) = 0)
  | complement f => return -(← f.value valueOf) - 1
  | operation operator left right => do
    let a ← left.value valueOf
    let b ← right.value valueOf
    operator.combine a b
  | either left right => do
    if (← left.value valueOf) ≠ 0 then return 1
    return truth ((← right.value valueOf) ≠ 0)
  | both left right => do
    if (← left.value valueOf) = 0 then return 0
    return truth ((← right.value valueOf) ≠ 0)
  | choice test yes no => do
    if (← test.value valueOf) ≠ 0 then yes.value valueOf else no.value valueOf
  | assignment name operator f => do
    let given ← f.value valueOf
    let result ← match operator with
      | none => pure given
      | some operator => do
        let before ← match (← get).lookup name with
          | some n => pure n
          | none => valueOf name
        operator.combine before given
    modify fun set => (name, result) :: set
    return result

/-- **The value of a formula given as a text**, and the variables that it sets, the latest
first. -/
def compute (valueOf : String → Except Fault Int) (text : List Char) :
    Except Fault (Int × List (String × Int)) := do
  let formula ← read text
  (formula.value valueOf).run []

end Formula

end VerifierTrials.Shell
