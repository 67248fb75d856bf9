import VerifierTrials.Proofs.Text.Basic
import VerifierTrials.Proofs.Xml.Content

/-!
# Scanning a written document

A content has a text, its pieces written one after the other (`Xml.Content.written`). Scanning
that text gives the events of the content back (`Xml.scanMarkup_written`), provided that the pieces
can be told apart (`Xml.Content.isProper`): each markup, taken by itself, has to be read as what
it stands for, and a text must not be empty, must not contain an opening bracket, and must not
be followed by another text.

Markup may be looked at by itself because reading it never looks behind the bracket that ends
it: what follows is handed on as it is (`Xml.readMarkup?_append`).
-/

namespace VerifierTrials.Xml

open VerifierTrials.Text

/-! ### Reading does not look ahead -/

theorem untilBracket?_append {quote : Option Char} {s inner rest : List Char} (more : List Char)
    (found : untilBracket? quote s = some (inner, rest)) :
    untilBracket? quote (s ++ more) = some (inner, rest ++ more) := by
  induction s generalizing quote inner with
  | nil => simp [untilBracket?] at found
  | cons c cs ih =>
    rw [List.cons_append]
    unfold untilBracket? at found ⊢
    split at found
    · rename_i stops
      simp only [Option.some.injEq, Prod.mk.injEq] at found
      obtain ⟨rfl, rfl⟩ := found
      rw [if_pos stops]
    · rename_i stops
      rw [if_neg stops]
      simp only [Option.map_eq_some_iff, Prod.mk.injEq, Prod.exists] at found
      obtain ⟨i, r, further, rfl, rfl⟩ := found
      simp only [ih further, Option.map_some]

theorem untilBalanced?_append {depth : Nat} {s inner rest : List Char} (more : List Char)
    (found : untilBalanced? depth s = some (inner, rest)) :
    untilBalanced? depth (s ++ more) = some (inner, rest ++ more) := by
  induction s generalizing depth inner with
  | nil => simp [untilBalanced?] at found
  | cons c cs ih =>
    rw [List.cons_append]
    unfold untilBalanced? at found ⊢
    split at found
    · rename_i stops
      simp only [Option.some.injEq, Prod.mk.injEq] at found
      obtain ⟨rfl, rfl⟩ := found
      rw [if_pos stops]
    · rename_i stops
      rw [if_neg stops]
      simp only [Option.map_eq_some_iff, Prod.mk.injEq, Prod.exists] at found
      obtain ⟨i, r, further, rfl, rfl⟩ := found
      simp only [ih further, Option.map_some]

theorem readDeclaration?_append {s rest : List Char} {event : Event} (more : List Char)
    (read : readDeclaration? s = some (event, rest)) :
    readDeclaration? (s ++ more) = some (event, rest ++ more) := by
  unfold readDeclaration? at read
  split at read
  · simp only [Option.bind_eq_bind, Option.bind_eq_some_iff, Prod.exists,
      Option.some.injEq, Prod.mk.injEq] at read
    obtain ⟨b, r, found, rfl, rfl⟩ := read
    rw [List.cons_append, List.cons_append, readDeclaration?, split?_append more found]
    rfl
  · simp only [Option.bind_eq_bind, Option.bind_eq_some_iff, Prod.exists,
      Option.some.injEq, Prod.mk.injEq] at read
    obtain ⟨b, r, found, content, cut, rfl, rfl⟩ := read
    rw [List.cons_append, readDeclaration?, split?_append more found]
    simp only [Option.bind_eq_bind, Option.bind_some, cut]
  · rename_i noComment noVerbatim
    simp only [Option.bind_eq_bind, Option.bind_eq_some_iff, Prod.exists] at read
    obtain ⟨b, r, found, read⟩ := read
    split at read
    · rename_i docType
      simp only [Option.some.injEq, Prod.mk.injEq] at read
      obtain ⟨rfl, rfl⟩ := read
      -- The text is long enough to show that it is neither a comment nor verbatim text.
      rw [readDeclaration?.eq_3, untilBalanced?_append more found]
      · simp only [Option.bind_eq_bind, Option.bind_some, if_pos docType]
      · intro body begins
        rcases s with _ | ⟨c, _ | ⟨d, s⟩⟩
        · simp [untilBalanced?] at found
        · obtain ⟨rfl, -⟩ := List.cons_eq_cons.1 begins
          simp [untilBalanced?] at found
        · simp only [List.cons_append, List.cons_eq_cons] at begins
          obtain ⟨rfl, rfl, -⟩ := begins
          exact noComment s rfl
      · intro body begins
        cases s with
        | nil => simp [untilBalanced?] at found
        | cons c s =>
          obtain ⟨rfl, -⟩ := List.cons_eq_cons.1 begins
          exact noVerbatim s rfl
    · cases read

/-- **Reading markup does not look ahead**: what follows is handed on as it is. -/
theorem readMarkup?_append {s rest : List Char} {event : Event} (more : List Char)
    (read : readMarkup? s = some (event, rest)) :
    readMarkup? (s ++ more) = some (event, rest ++ more) := by
  unfold readMarkup? at read
  split at read
  · cases read
  · exact readDeclaration?_append more read
  · rename_i body
    split at read
    · cases read
    · rename_i notEmpty
      simp only [Option.map_eq_some_iff, Prod.mk.injEq, Prod.exists] at read
      obtain ⟨b, r, found, rfl, rfl⟩ := read
      have notEmpty' : (body ++ more).head? ≠ some '>' := by
        cases body with
        | nil => exact absurd (length_le_of_split? found) (by decide)
        | cons c cs => simpa using notEmpty
      rw [List.cons_append, readMarkup?, if_neg notEmpty', split?_append more found]
      rfl
  · simp only [Option.map_eq_some_iff, Prod.mk.injEq, Prod.exists] at read
    obtain ⟨i, r, found, rfl, rfl⟩ := read
    rw [List.cons_append, readMarkup?, untilBracket?_append more found]
    rfl
  · rename_i nonempty noBang noQuestion noSlash
    simp only [Option.map_eq_some_iff, Prod.mk.injEq, Prod.exists] at read
    obtain ⟨i, r, found, rfl, rfl⟩ := read
    cases s with
    | nil => exact absurd rfl nonempty
    | cons c cs =>
      have further := untilBracket?_append more found
      rw [List.cons_append] at further ⊢
      rw [readMarkup?.eq_5, further]
      · rfl
      all_goals intros; simp_all

/-! ### The text of a content -/

/-- What a tag is written as between its brackets, a closing slash apart. -/
def Tag.written (tag : Tag) : List Char := tag.name.toList ++ tag.attributeText

/-- Markup in its brackets, and what follows it. -/
def bracketed (inside rest : List Char) : List Char := '<' :: (inside ++ '>' :: rest)

/-- What a closing tag is written as between its brackets. -/
def closingText (name : String) : List Char := '/' :: name.toList

/-- What verbatim text is written as between its brackets. -/
def verbatimText (characters : List Char) : List Char :=
  "![CDATA[".toList ++ characters ++ "]]".toList

/-- Whether a text in brackets is read as an event. -/
def isMarkupFor (event : Event) (inside : List Char) : Bool :=
  readMarkup? (inside ++ ['>']) == some (event, [])

namespace Content

/-- **The text of a content.** -/
def written : Content → List Char
  | nil => []
  | element tag inner rest =>
    bracketed tag.written (inner.written ++ bracketed (closingText tag.name) rest.written)
  | selfClosing tag rest => bracketed (tag.written ++ ['/']) rest.written
  | text written rest => written ++ rest.written
  | verbatim characters rest => bracketed (verbatimText characters) rest.written
  | aside inside rest => bracketed inside rest.written

/-- Whether a content begins with a text. -/
def beginsWithText : Content → Bool
  | text .. => true
  | _ => false

/-- **Whether the pieces of a content can be told apart** when they are written one after the
other. -/
def isProper : Content → Bool
  | nil => true
  | element tag inner rest =>
    isMarkupFor (.opening tag) tag.written && inner.isProper &&
      isMarkupFor (.closing tag.name) (closingText tag.name) && rest.isProper
  | selfClosing tag rest => isMarkupFor (.selfClosing tag) (tag.written ++ ['/']) && rest.isProper
  | text written rest =>
    !written.isEmpty && !written.contains '<' && !rest.beginsWithText && rest.isProper
  | verbatim characters rest =>
    isMarkupFor (.verbatim characters) (verbatimText characters) && rest.isProper
  | aside inside rest => isMarkupFor .aside inside && rest.isProper

end Content

/-! ### Scanning it -/

/-- A scan with further events in front. -/
def Scan.prepend (events : List Event) (scan : Scan) : Scan :=
  ⟨events ++ scan.events, scan.complete⟩

/-- Whether a text is over or goes on with markup. -/
def isAtMarkup (s : List Char) : Bool := s.head?.all (· == '<')

/-- Markup is scanned as its event. -/
theorem scanMarkup_bracketed {event : Event} {inside : List Char}
    (markup : isMarkupFor event inside = true) (rest : List Char) :
    scanMarkup (bracketed inside rest) = (scanMarkup rest).cons event := by
  have read : readMarkup? (inside ++ '>' :: rest) = some (event, rest) := by
    simpa using readMarkup?_append rest (beq_iff_eq.1 markup)
  rw [bracketed, scanMarkup, if_pos rfl]
  split
  · rename_i unread
    rw [read] at unread
    cases unread
  · rename_i e r read'
    rw [read] at read'
    cases read'
    rfl

/-- A text is scanned as such up to the next markup. -/
theorem scanMarkup_text {written rest : List Char} (nonempty : written ≠ [])
    (noBracket : '<' ∉ written) (atMarkup : isAtMarkup rest = true) :
    scanMarkup (written ++ rest) = (scanMarkup rest).cons (.text written) := by
  have splits : ∀ w : List Char, '<' ∉ w →
      (w ++ rest).takeWhile (· != '<') = w ∧ (w ++ rest).dropWhile (· != '<') = rest := by
    intro w noBracket
    have passed : ∀ c ∈ w, (c != '<') = true := fun c among => by
      simpa using fun bracket : c = '<' => noBracket (bracket ▸ among)
    rw [List.takeWhile_append_of_pos passed, List.dropWhile_append_of_pos passed]
    cases rest with
    | nil => simp
    | cons c cs => simp_all [isAtMarkup]
  cases written with
  | nil => exact absurd rfl nonempty
  | cons c cs =>
    rw [List.mem_cons, not_or] at noBracket
    obtain ⟨taken, dropped⟩ := splits cs noBracket.2
    rw [List.cons_append, scanMarkup, if_neg (Ne.symm noBracket.1), taken, dropped]

theorem isAtMarkup_bracketed (inside rest : List Char) :
    isAtMarkup (bracketed inside rest) = true := rfl

theorem isAtMarkup_written {content : Content} {rest : List Char}
    (noText : content.beginsWithText = false) (atMarkup : isAtMarkup rest = true) :
    isAtMarkup (content.written ++ rest) = true := by
  cases content with
  | nil => exact atMarkup
  | text => cases noText
  | element | selfClosing | verbatim | aside => rfl

/-- **The pieces of a content are scanned one after the other.** -/
theorem scanMarkup_written {content : Content} (proper : content.isProper = true) {rest : List Char}
    (atMarkup : isAtMarkup rest = true) :
    scanMarkup (content.written ++ rest) = (scanMarkup rest).prepend content.events := by
  -- What stands in an element is followed by its closing tag, so that the rest is general.
  induction content generalizing rest with
  | nil => rfl
  | element tag inner more ihi ihm =>
    simp only [Content.isProper, Bool.and_eq_true] at proper
    obtain ⟨⟨⟨opening, properInner⟩, closing⟩, properMore⟩ := proper
    have split : (Content.element tag inner more).written ++ rest =
        bracketed tag.written
          (inner.written ++ bracketed (closingText tag.name) (more.written ++ rest)) := by
      simp [Content.written, bracketed]
    rw [split, scanMarkup_bracketed opening, ihi properInner (isAtMarkup_bracketed _ _),
      scanMarkup_bracketed closing, ihm properMore atMarkup]
    simp [Scan.cons, Scan.prepend, Content.events]
  | selfClosing tag more ih =>
    simp only [Content.isProper, Bool.and_eq_true] at proper
    have split : (Content.selfClosing tag more).written ++ rest =
        bracketed (tag.written ++ ['/']) (more.written ++ rest) := by
      simp [Content.written, bracketed]
    rw [split, scanMarkup_bracketed proper.1, ih proper.2 atMarkup]
    rfl
  | text written more ih =>
    simp only [Content.isProper, Bool.and_eq_true, Bool.not_eq_true', List.isEmpty_eq_false_iff,
      List.contains_eq_mem, decide_eq_false_iff_not] at proper
    obtain ⟨⟨⟨nonempty, split⟩, noText⟩, properMore⟩ := proper
    rw [Content.written, List.append_assoc,
      scanMarkup_text nonempty split (isAtMarkup_written noText atMarkup), ih properMore atMarkup]
    rfl
  | verbatim characters more ih =>
    simp only [Content.isProper, Bool.and_eq_true] at proper
    have split : (Content.verbatim characters more).written ++ rest =
        bracketed (verbatimText characters) (more.written ++ rest) := by
      simp [Content.written, bracketed]
    rw [split, scanMarkup_bracketed proper.1, ih proper.2 atMarkup]
    rfl
  | aside inside more ih =>
    simp only [Content.isProper, Bool.and_eq_true] at proper
    have split : (Content.aside inside more).written ++ rest =
        bracketed inside (more.written ++ rest) := by
      simp [Content.written, bracketed]
    rw [split, scanMarkup_bracketed proper.1, ih proper.2 atMarkup]
    rfl

/-- Closing tags that close what is open are kept. -/
theorem matchTags_events (complete : Bool) (content : Content) (names : List String)
    (more : List Event) :
    matchTags complete names (content.events ++ more) =
      (matchTags complete names more).prepend content.events := by
  induction content generalizing names more with
  | nil => rfl
  | element tag inner rest ihi ihr =>
    simp only [Content.events, List.cons_append, List.append_assoc, matchTags, ihi, ihr, if_true]
    simp [Scan.prepend, Scan.cons]
  | selfClosing _ rest ih
  | text _ rest ih
  | verbatim _ rest ih
  | aside _ rest ih =>
    simp only [Content.events, List.cons_append, matchTags, ih]
    rfl

/-- The text of a document. -/
def Document.written (document : Document) : String := String.ofList document.content.written

/-- **Whether the text of a document can be scanned**: its pieces can be told apart, and it does
not begin with what looks like a mark of the byte order. -/
def Document.isProper (document : Document) : Bool :=
  document.content.isProper && document.content.written.head? != some (Char.ofNat 0xFEFF)

/-- **Scanning the text of a document gives its events.** -/
theorem scan_written {document : Document} (proper : document.isProper = true) :
    scan document.written = ⟨document.events, true⟩ := by
  simp only [Document.isProper, Bool.and_eq_true, bne_iff_ne, ne_eq] at proper
  have unmarked : stripPrefix? [Char.ofNat 0xFEFF] document.content.written = none := by
    refine Option.eq_none_iff_forall_ne_some.2 fun rest begins => proper.2 ?_
    rw [stripPrefix?_eq_some_iff.1 begins]
    rfl
  have scanned := @scanMarkup_written document.content proper.1 [] rfl
  have matched := matchTags_events true document.content [] []
  simp only [List.append_nil] at scanned matched
  simp only [scan, Document.written, String.toList_ofList, unmarked, Option.getD_none, scanned]
  simpa [Scan.prepend, scanMarkup, matchTags, Document.events] using matched

end VerifierTrials.Xml
