import VerifierTrials.Xml.Entity

/-!
# Writing a document

A document is written with one element on a line, indented by its depth. An element
that may have children is written with an opening and a closing tag, on lines of their
own even when there are none; a **leaf** is one self-closing tag.
-/

namespace VerifierTrials.Xml

/-- **An element to be written.** -/
inductive Node where
  | leaf (name : String) (attributes : List (String × String))
  | branch (name : String) (attributes : List (String × String)) (children : List Node)
  deriving Repr

/-- The attributes of a tag. -/
def attributesText (attributes : List (String × String)) : String :=
  String.join (attributes.map fun (key, value) =>
    " " ++ key ++ "=\"" ++ String.ofList (escape value.toList) ++ "\"")

/-- The beginning of a line. -/
def indent (depth : Nat) : String := "\n" ++ Text.line ' ' (2 * depth)

mutual

/-- An element and everything in it, each line begun anew. -/
def Node.render (depth : Nat) : Node → String
  | .leaf name attributes => indent depth ++ "<" ++ name ++ attributesText attributes ++ "/>"
  | .branch name attributes children =>
    indent depth ++ "<" ++ name ++ attributesText attributes ++ ">" ++
      renderAll (depth + 1) children ++ indent depth ++ "</" ++ name ++ ">"

/-- Elements one after the other. -/
def renderAll (depth : Nat) : List Node → String
  | [] => ""
  | node :: nodes => node.render depth ++ renderAll depth nodes

end

/-- **A document with its root.** -/
def renderDocument (root : Node) : String :=
  "<?xml version=\"1.0\"?>" ++ root.render 0 ++ "\n"

end VerifierTrials.Xml
