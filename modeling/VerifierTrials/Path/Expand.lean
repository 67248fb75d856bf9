import VerifierTrials.Path.Basic
import VerifierTrials.Text.WordChar

/-!
# Home directories and variables in path names

A path name may begin with a tilde for the home directory, and it may refer to
environment variables: `$NAME`, the longest run of word characters, or a name in
braces. A reference to a variable that is not set stays as it is written, and a
value that has been put in is not read again.
-/

namespace VerifierTrials

open VerifierTrials.Text

/-- **The environment**: variables with their values. -/
structure Environment where
  bindings : List (String × String)
  deriving Repr, DecidableEq

namespace Environment

/-- The value of a variable. No variable has an empty name, or one with an equals
sign or a null character in it. -/
def get? (env : Environment) (name : String) : Option String :=
  if name = "" || name.toList.any (fun c => c = '=' || c = '\x00') then
    none
  else
    env.bindings.lookup name

/-- The environment without a variable. -/
def unset (env : Environment) (name : String) : Environment :=
  ⟨env.bindings.filter fun binding => binding.1 != name⟩

/-- The environment with a variable set. -/
def set (env : Environment) (name value : String) : Environment :=
  ⟨(name, value) :: (env.unset name).bindings⟩

end Environment

namespace Path

/-- A text without the slashes at its end. -/
def trimSlashes (s : String) : String :=
  String.ofList (s.toList.reverse.dropWhile (· = '/')).reverse

/-- **The home directory for a leading tilde.** -/
def expandUser (env : Environment) (path : String) : String :=
  match path.toList with
  | '~' :: rest =>
    if rest.isEmpty || rest.head? = some '/' then
      match env.get? "HOME" with
      | some home => trimSlashes home ++ String.ofList rest
      | none => path
    else
      path
  | _ => path

/-- The name between a pair of braces, without further opening braces in front of it. A closing
brace cannot be at its end, since the first one closes the pair. -/
def bracedName (inner : List Char) : String :=
  String.ofList (inner.dropWhile (· = '\x7b'))

/-- What a reference begins with, after its dollar sign: the name it refers to and
how many characters it is long. -/
def reference? (s : List Char) : Option (String × Nat) :=
  let word := s.takeWhile isWord
  if !word.isEmpty then
    some (String.ofList word, word.length)
  else
    match s with
    | '\x7b' :: rest =>
      let inner := rest.takeWhile (· != '\x7d')
      if inner.length < rest.length then some (bracedName inner, inner.length + 2) else none
    | _ => none

/-- Expansion with a number of characters still to be passed over: those of a
reference whose value has been put in. -/
def expandFrom (env : Environment) : Nat → List Char → List Char
  | _, [] => []
  | n + 1, _ :: cs => expandFrom env n cs
  | 0, c :: cs =>
    if c = '$' then
      match reference? cs with
      | some (name, length) =>
        match env.get? name with
        | some value => value.toList ++ expandFrom env length cs
        | none => c :: (cs.take length ++ expandFrom env length cs)
      | none => c :: expandFrom env 0 cs
    else
      c :: expandFrom env 0 cs

/-- **The values of variables for the references to them.** -/
def expandVariables (env : Environment) (s : String) : String :=
  String.ofList (expandFrom env 0 s.toList)

/-- The tilde first, then the variables. -/
def expand (env : Environment) (path : String) : String :=
  expandVariables env (expandUser env path)

end Path

end VerifierTrials
