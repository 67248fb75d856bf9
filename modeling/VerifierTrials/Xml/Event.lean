import VerifierTrials.Xml.Entity

/-!
# Markup as a sequence of events

A document is first read as a flat sequence of **events**: opening, self-closing and
closing tags, text, and asides (comments, declarations, processing instructions),
which mean nothing to the benchmark. The text between tags and the attributes of a
tag are kept as they are written: only whoever wants their value reads the entities
in them, and only then does a malformed one do harm.
-/

namespace VerifierTrials.Xml

open VerifierTrials.Text

/-- **A tag**: its name and the attributes as written behind it. -/
structure Tag where
  name : String
  attributeText : List Char := []
  deriving DecidableEq, Repr

/-- **What a document consists of**, in order. -/
inductive Event where
  | opening (tag : Tag)
  | selfClosing (tag : Tag)
  | closing (name : String)
  /-- Text with its entities as written. -/
  | text (written : List Char)
  /-- Text in which nothing is an entity. -/
  | verbatim (content : List Char)
  | aside
  deriving DecidableEq, Repr

/-- White space of markup. -/
def isMarkupSpace (c : Char) : Bool := c = ' ' || c = '\r' || c = '\n' || c = '\t'

/-! ### Attributes -/

/-- The name of an attribute, its written value, and what follows. White space may
stand on both sides of the equals sign, and the value needs quotes. -/
def readAttribute? : List Char → Option ((List Char × List Char) × List Char)
  | [] => none
  | first :: s =>
    let name := first :: s.takeWhile fun c => c != '=' && !isMarkupSpace c
    match (s.drop (name.length - 1)).dropWhile isMarkupSpace with
    | '=' :: rest =>
      match rest.dropWhile isMarkupSpace with
      | quote :: value =>
        if quote = '"' || quote = '\'' then
          let inner := value.takeWhile (· != quote)
          if inner.length < value.length then
            some ((name, inner), value.drop (inner.length + 1))
          else
            none
        else
          none
      | [] => none
    | _ => none

/-- The attributes in a tag as they are written, the number bounding how many. A name
that has occurred already is refused. -/
def readAttributes? : Nat → List (List Char) → List Char →
    Option (List (List Char × List Char))
  | bound, seen, s =>
    match s.dropWhile isMarkupSpace with
    | [] => some []
    | c :: cs =>
      match bound with
      | 0 => none
      | bound + 1 => do
        let ((name, value), rest) ← readAttribute? (c :: cs)
        if seen.contains name then none
        else
          let others ← readAttributes? bound (name :: seen) rest
          some ((name, value) :: others)

/-- **The attributes of a tag with their values**, or nothing when one of them is
malformed. -/
def Tag.attributes? (tag : Tag) : Option (List (String × String)) := do
  let written ← readAttributes? tag.attributeText.length [] tag.attributeText
  written.mapM fun (name, value) => do
    let value ← unescape? value
    some (String.ofList name, String.ofList value)

/-! ### Tags -/

/-- The text of a tag up to its closing bracket, and what follows. A bracket inside
quotes closes nothing. -/
def untilBracket? (quote : Option Char) : List Char → Option (List Char × List Char)
  | [] => none
  | c :: cs =>
    if quote = none && c = '>' then some ([], cs)
    else
      let quote' :=
        match quote with
        | some q => if c = q then none else some q
        | none => if c = '"' || c = '\'' then some c else none
      (untilBracket? quote' cs).map fun (inner, rest) => (c :: inner, rest)

/-- The text of a document type up to the bracket that balances the opening one. -/
def untilBalanced? (depth : Nat) : List Char → Option (List Char × List Char)
  | [] => none
  | c :: cs =>
    if c = '>' && depth = 0 then some ([], cs)
    else
      let depth' := if c = '<' then depth + 1 else if c = '>' then depth - 1 else depth
      (untilBalanced? depth' cs).map fun (inner, rest) => (c :: inner, rest)

/-- A tag from the text between its brackets: a slash at the end closes it at once. -/
def tagEvent (inner : List Char) : Event :=
  let selfClosed := inner.getLast? = some '/'
  let body := if selfClosed then inner.dropLast else inner
  let name := body.takeWhile fun c => !isMarkupSpace c
  let tag : Tag := ⟨String.ofList name, body.drop name.length⟩
  if selfClosed then .selfClosing tag else .opening tag

/-- A closing tag from the text between its slash and its bracket. -/
def closingEvent (inner : List Char) : Event :=
  let name := (inner.reverse.dropWhile isMarkupSpace).reverse
  .closing (String.ofList (if name.isEmpty then inner else name))

/-- Whether a text begins with a key written in any case of letters. -/
def beginsAnyCase (key s : List Char) : Bool :=
  key.length ≤ s.length && (s.take key.length).map Char.toLower == key.map Char.toLower

/-- The event that begins with an exclamation mark: a comment, verbatim text or a
document type, which has to name one. -/
def readDeclaration? (s : List Char) : Option (Event × List Char) :=
  match s with
  | '-' :: '-' :: body => do
    let (_, rest) ← split? "-->".toList body
    some (.aside, rest)
  | '[' :: body => do
    let (inner, rest) ← split? "]]>".toList body
    let content ← stripPrefix? "CDATA[".toList inner
    some (.verbatim content, rest)
  | body => do
    let (inner, rest) ← untilBalanced? 0 body
    if beginsAnyCase "DOCTYPE".toList inner && !(inner.drop 7).all isMarkupSpace then
      some (.aside, rest)
    else
      none

/-- **The event after an opening bracket**, and what follows it. -/
def readMarkup? (s : List Char) : Option (Event × List Char) :=
  match s with
  | [] => none
  | '!' :: body => readDeclaration? body
  | '?' :: body =>
    if body.head? = some '>' then none
    else (split? "?>".toList body).map fun (_, rest) => (.aside, rest)
  | '/' :: body => (untilBracket? none body).map fun (inner, rest) => (closingEvent inner, rest)
  | body => (untilBracket? none body).map fun (inner, rest) => (tagEvent inner, rest)

/-! ### Each event takes something off the text -/

theorem length_stripPrefix? {key s rest : List Char} (begins : stripPrefix? key s = some rest) :
    rest.length ≤ s.length := by
  induction key generalizing s with
  | nil => simp_all [stripPrefix?]
  | cons k ks ih =>
    cases s with
    | nil => simp [stripPrefix?] at begins
    | cons c cs =>
      simp only [stripPrefix?] at begins
      split at begins
      · exact Nat.le_succ_of_le (ih begins)
      · simp at begins

theorem length_split? {key s before rest : List Char} (found : split? key s = some (before, rest)) :
    rest.length ≤ s.length := by
  induction s generalizing before with
  | nil =>
    simp only [split?, Option.map_eq_some_iff, Prod.mk.injEq] at found
    obtain ⟨r, begins, -, rfl⟩ := found
    exact length_stripPrefix? begins
  | cons c cs ih =>
    rw [split?] at found
    split at found
    · rename_i r begins
      simp only [Option.some.injEq, Prod.mk.injEq] at found
      obtain ⟨-, rfl⟩ := found
      exact length_stripPrefix? begins
    · simp only [Option.map_eq_some_iff, Prod.mk.injEq, Prod.exists] at found
      obtain ⟨b, r, begins, -, rfl⟩ := found
      exact Nat.le_succ_of_le (ih begins)

theorem length_untilBracket? {quote : Option Char} {s inner rest : List Char}
    (found : untilBracket? quote s = some (inner, rest)) : rest.length ≤ s.length := by
  induction s generalizing quote inner with
  | nil => simp [untilBracket?] at found
  | cons c cs ih =>
    unfold untilBracket? at found
    split at found
    · simp only [Option.some.injEq, Prod.mk.injEq] at found
      obtain ⟨-, rfl⟩ := found
      simp
    · simp only [Option.map_eq_some_iff, Prod.mk.injEq, Prod.exists] at found
      obtain ⟨i, r, further, -, rfl⟩ := found
      exact Nat.le_succ_of_le (ih further)

theorem length_untilBalanced? {depth : Nat} {s inner rest : List Char}
    (found : untilBalanced? depth s = some (inner, rest)) : rest.length ≤ s.length := by
  induction s generalizing depth inner with
  | nil => simp [untilBalanced?] at found
  | cons c cs ih =>
    unfold untilBalanced? at found
    split at found
    · simp only [Option.some.injEq, Prod.mk.injEq] at found
      obtain ⟨-, rfl⟩ := found
      simp
    · simp only [Option.map_eq_some_iff, Prod.mk.injEq, Prod.exists] at found
      obtain ⟨i, r, further, -, rfl⟩ := found
      exact Nat.le_succ_of_le (ih further)

theorem length_readDeclaration? {s rest : List Char} {event : Event}
    (read : readDeclaration? s = some (event, rest)) : rest.length ≤ s.length := by
  unfold readDeclaration? at read
  split at read
  · rename_i body
    simp only [Option.bind_eq_bind, Option.bind_eq_some_iff, Prod.exists, Option.some.injEq,
      Prod.mk.injEq] at read
    obtain ⟨b, r, found, -, rfl⟩ := read
    have := length_split? found
    simp only [List.length_cons]
    omega
  · rename_i body
    simp only [Option.bind_eq_bind, Option.bind_eq_some_iff, Prod.exists, Option.some.injEq,
      Prod.mk.injEq] at read
    obtain ⟨b, r, found, -, -, -, rfl⟩ := read
    have := length_split? found
    simp only [List.length_cons]
    omega
  · simp only [Option.bind_eq_bind, Option.bind_eq_some_iff, Prod.exists] at read
    obtain ⟨b, r, found, read⟩ := read
    split at read
    · simp only [Option.some.injEq, Prod.mk.injEq] at read
      obtain ⟨-, rfl⟩ := read
      exact length_untilBalanced? found
    · simp at read

theorem length_readMarkup? {s rest : List Char} {event : Event}
    (read : readMarkup? s = some (event, rest)) : rest.length ≤ s.length := by
  unfold readMarkup? at read
  split at read
  · simp at read
  · exact Nat.le_succ_of_le (length_readDeclaration? read)
  · split at read
    · simp at read
    · simp only [Option.map_eq_some_iff, Prod.mk.injEq, Prod.exists] at read
      obtain ⟨b, r, found, -, rfl⟩ := read
      exact Nat.le_succ_of_le (length_split? found)
  · simp only [Option.map_eq_some_iff, Prod.mk.injEq, Prod.exists] at read
    obtain ⟨i, r, found, -, rfl⟩ := read
    exact Nat.le_succ_of_le (length_untilBracket? found)
  · simp only [Option.map_eq_some_iff, Prod.mk.injEq, Prod.exists] at read
    obtain ⟨i, r, found, -, rfl⟩ := read
    exact length_untilBracket? found

/-! ### The events of a document -/

/-- **What reading a document gives**: the events up to its end, or up to the first
place where it is no markup. -/
structure Scan where
  events : List Event
  complete : Bool
  deriving DecidableEq, Repr

/-- A scan with one more event in front. -/
def Scan.cons (event : Event) (scan : Scan) : Scan := ⟨event :: scan.events, scan.complete⟩

/-- The events of a text, closing tags as they come. -/
def scanMarkup : List Char → Scan
  | [] => ⟨[], true⟩
  | c :: cs =>
    if c = '<' then
      match read : readMarkup? cs with
      | none => ⟨[], false⟩
      | some (event, rest) =>
        have := length_readMarkup? read
        (scanMarkup rest).cons event
    else
      have : (cs.dropWhile (· != '<')).length ≤ cs.length :=
        (List.dropWhile_sublist _).length_le
      (scanMarkup (cs.dropWhile (· != '<'))).cons (.text (c :: cs.takeWhile (· != '<')))
  termination_by s => s.length

/-- The events up to the first closing tag that does not close the innermost open one,
given the names of the open ones. -/
def matchTags (complete : Bool) : List String → List Event → Scan
  | _, [] => ⟨[], complete⟩
  | names, .opening tag :: events =>
    (matchTags complete (tag.name :: names) events).cons (.opening tag)
  | names, .closing name :: events =>
    match names with
    | [] => ⟨[], false⟩
    | innermost :: outer =>
      if name = innermost then (matchTags complete outer events).cons (.closing name)
      else ⟨[], false⟩
  | names, event :: events => (matchTags complete names events).cons event

/-- **The events of a document.** A mark of the byte order at its front is dropped,
and a closing tag has to close the innermost open one. -/
def scan (document : String) : Scan :=
  let text := document.toList
  let raw := scanMarkup ((stripPrefix? [Char.ofNat 0xFEFF] text).getD text)
  matchTags raw.complete [] raw.events

end VerifierTrials.Xml
