import VerifierTrials.Shell.Formula
import VerifierTrials.Shell.Process
import VerifierTrials.Shell.Word

/-!
# Parameters

The parameters of a script are its variables, its arguments, and some values that the shell
keeps. In braces a parameter may be changed on its way into a word (`Adaptation`): another
word takes its place, or a pattern is taken off one of its ends.
-/

namespace VerifierTrials.Shell

open VerifierTrials.Text

namespace Process

/-- What separates the fields of words. -/
def separators (process : Process) : Separators :=
  match process.valueOf? "IFS" with
  | some text => Separators.ofText text
  | none => {}

/-- What is put between arguments that are joined. -/
def joint (process : Process) : String :=
  match process.valueOf? "IFS" with
  | some text => String.ofList (text.toList.take 1)
  | none => " "

/-- The letters of the options that are set, in the order in which they are shown. -/
def optionLetters (process : Process) : String :=
  String.ofList ("ubaCEVvxsnmiIfe".toList.filter process.options.contains)

/-- The prompts and other values that variables have from the start. -/
def standing : List (String × String) :=
  [("IFS", " \t\n"), ("OPTIND", "1"), ("PS1", "# "), ("PS2", "> "), ("PS4", "+ ")]

/-- The value of a parameter, if it is set; several arguments are joined. -/
def parameter? (process : Process) (name : List Char) : Option String :=
  match name with
  | ['#'] => some (ofNat process.arguments.length)
  | ['?'] => some (ofNat process.status)
  | ['$'] => some (ofNat process.shell)
  | ['!'] => process.background.map ofNat
  | ['-'] => some process.optionLetters
  | ['@'] | ['*'] =>
    if process.arguments.isEmpty then none
    else some (process.joint.intercalate process.arguments)
  | _ =>
    match digitsValue? name with
    | some 0 => some process.name
    | some n => process.arguments[n - 1]?
    | none =>
      if name = "PPID".toList then some (ofNat process.shellParent)
      else process.valueOf? (String.ofList name)

/-- What a variable comes to in a formula. -/
def variableNumber (process : Process) (name : String) : Except Formula.Fault Int :=
  match process.valueOf? name with
  | none => .ok 0
  | some text =>
    match Numeral.integer? text.toList with
    | some n => .ok n
    | none => .error (.noNumber text)

end Process

/-- A text as the glyphs of a substitution. -/
def glyphsOf (quoted : Bool) (text : String) : List Glyph :=
  if quoted then .void :: text.toList.map .quoted else text.toList.map .value

/-- The arguments as the glyphs of a substitution, each one a field of its own. -/
def argumentGlyphs (quoted : Bool) : List String → List Glyph
  | [] => []
  | [last] => glyphsOf quoted last
  | first :: rest => glyphsOf quoted first ++ .boundary :: argumentGlyphs quoted rest

/-- **How a parameter is changed on its way.** -/
inductive Adaptation where
  | asIs
  | length
  /-- Another word if the parameter is unset, or also if it is empty. -/
  | default (alsoEmpty : Bool) (word : Word)
  /-- The same, and the parameter is set to it. -/
  | assigned (alsoEmpty : Bool) (word : Word)
  /-- A failure if the parameter is unset, or also if it is empty. -/
  | required (alsoEmpty : Bool) (word : Word)
  /-- Another word if the parameter is set. -/
  | alternative (alsoEmpty : Bool) (word : Word)
  | withoutStart (longest : Bool) (pattern : Word)
  | withoutEnd (longest : Bool) (pattern : Word)
  deriving DecidableEq, Repr

namespace Adaptation

/-- Whether a parameter that is changed in this way has to be set when unset ones are
refused. -/
def needsValue : Adaptation → Bool
  | asIs | length | withoutStart _ _ | withoutEnd _ _ => true
  | default _ _ | assigned _ _ | required _ _ | alternative _ _ => false

/-- The name of a parameter and what comes after it. -/
def splitName : List Char → List Char × List Char
  | c :: cs =>
    if isSpecialName c && !c.isDigit then ([c], cs)
    else if c.isDigit then (c :: cs.takeWhile Char.isDigit, cs.dropWhile Char.isDigit)
    else (c :: cs.takeWhile isNameChar, cs.dropWhile isNameChar)
  | [] => ([], [])

/-- **The parameter in braces and how it is changed**; there is none if what is between the
braces has another form. -/
def read? (text : List Char) : Option (List Char × Adaptation) :=
  match text with
  | '#' :: c :: cs => some (c :: cs, .length)
  | _ =>
    let (name, rest) := splitName text
    let change? : Option Adaptation := match rest with
      | [] => some .asIs
      | ':' :: '-' :: word => some (.default true word)
      | '-' :: word => some (.default false word)
      | ':' :: '=' :: word => some (.assigned true word)
      | '=' :: word => some (.assigned false word)
      | ':' :: '?' :: word => some (.required true word)
      | '?' :: word => some (.required false word)
      | ':' :: '+' :: word => some (.alternative true word)
      | '+' :: word => some (.alternative false word)
      | '#' :: '#' :: word => some (.withoutStart true word)
      | '#' :: word => some (.withoutStart false word)
      | '%' :: '%' :: word => some (.withoutEnd true word)
      | '%' :: word => some (.withoutEnd false word)
      | _ => none
    if name.isEmpty then none else change?.map fun change => (name, change)

end Adaptation

end VerifierTrials.Shell
