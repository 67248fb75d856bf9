import VerifierTrials.Proofs.Verifier.TraceReport
import VerifierTrials.Proofs.Xml.WellFormed

/-!
# Which outputs are read as a report

The reader of a report keeps the names of the open elements and whether it has seen a root. What it
takes is read off these two: after each event its open elements are those that the events leave
open, and it has seen as many roots as elements have begun outside all others
(`TraceReport.step?_eq_some`, `TraceReport.foldlM_step?_eq_some`). So at its end it stands where all
elements are closed and one of them was outside all others, which makes the text a document
(`TraceReport.read?_isSome_iff_isDocument`).

That is less than being well-formed. What stands outside the root is passed over, be it text, and so
are the attributes of every tag; the report does not depend on either
(`TraceReport.ofContent_bare_withoutAttributes`). A tool prints its messages and its report to the
same place, and so a verdict may be read from an output that is no well-formed document
(`Verifier.not_forall_isWellFormed`).
-/

namespace VerifierTrials

open VerifierTrials.Xml

namespace Xml.Content

/-- **A content without the attributes** of its tags. -/
def withoutAttributes : Content → Content
  | nil => nil
  | element tag inner rest => element ⟨tag.name, []⟩ inner.withoutAttributes rest.withoutAttributes
  | selfClosing tag rest => selfClosing ⟨tag.name, []⟩ rest.withoutAttributes
  | text written rest => text written rest.withoutAttributes
  | verbatim characters rest => verbatim characters rest.withoutAttributes
  | aside inside rest => aside inside rest.withoutAttributes

end Xml.Content

namespace TraceReport

/-! ### What a reader takes -/

/-- **A reader whose state makes sense**: where an element is open, a root has been seen. -/
def Reader.IsSound (reader : Reader) : Prop := reader.openNames ≠ [] → reader.rooted = true

/-- How many roots a reader has seen. -/
def Reader.roots (reader : Reader) : Nat := if reader.rooted then 1 else 0

section Reading

variable {reader reader' : Reader}

/-- An element may begin where no root is complete, and then one has been seen. -/
theorem roots_of_not_isClosed (sound : reader.IsSound) (free : ¬reader.isClosed = true) :
    reader.roots + (if reader.openNames.isEmpty then 1 else 0) = 1 := by
  obtain ⟨names, rooted, collecting, found⟩ := reader
  cases names with
  | nil =>
    have fresh : rooted = false := by simpa [Reader.isClosed] using free
    simp [Reader.roots, fresh]
  | cons name names =>
    have seen : rooted = true := sound (List.cons_ne_nil name names)
    simp [Reader.roots, seen]

theorem collect_openNames (reader : Reader) (text : String) :
    (reader.collect text).openNames = reader.openNames ∧
      (reader.collect text).rooted = reader.rooted := by
  obtain ⟨names, rooted, collecting, found⟩ := reader
  obtain ⟨found', collected, -⟩ := collect_eq names rooted collecting found text
  rw [collected]
  exact ⟨rfl, rfl⟩

/-- **What one event does to a reader**: its open elements are those that the events leave open, a
text has a value, and an element outside all others is the first such. -/
theorem step?_eq_some {event : Event} (sound : reader.IsSound)
    (taken : reader.step? event = some reader') :
    reader'.openNames = event.openAfter reader.openNames ∧ event.textHasValue = true ∧
      reader'.roots = reader.roots + (if event.isOutermost reader.openNames then 1 else 0) ∧
      reader'.IsSound := by
  cases event with
  | opening tag =>
    rw [Reader.step?] at taken
    split at taken
    next => cases taken
    next free =>
      obtain rfl := Option.some.inj taken
      exact ⟨rfl, rfl, (roots_of_not_isClosed sound free).symm, fun _ => rfl⟩
  | selfClosing tag =>
    rw [Reader.step?] at taken
    split at taken
    next => cases taken
    next free =>
      obtain rfl := Option.some.inj taken
      exact ⟨rfl, rfl, (roots_of_not_isClosed sound free).symm, fun _ => rfl⟩
  | closing name =>
    obtain rfl := Option.some.inj taken
    refine ⟨rfl, rfl, rfl, fun some_ => sound fun none_ => some_ ?_⟩
    rw [none_]
    rfl
  | text written =>
    obtain ⟨value, valued, rfl⟩ := Option.map_eq_some_iff.mp taken
    obtain ⟨names, rooted⟩ := collect_openNames reader (String.ofList value)
    refine ⟨names, by rw [Event.textHasValue, valued]; rfl, ?_, ?_⟩
    · rw [Reader.roots, rooted]
      rfl
    · rw [Reader.IsSound, names, rooted]
      exact sound
  | verbatim characters =>
    obtain rfl := Option.some.inj taken
    obtain ⟨names, rooted⟩ := collect_openNames reader (String.ofList characters)
    refine ⟨names, rfl, ?_, ?_⟩
    · rw [Reader.roots, rooted]
      rfl
    · rw [Reader.IsSound, names, rooted]
      exact sound
  | aside =>
    obtain rfl := Option.some.inj taken
    exact ⟨rfl, rfl, rfl, sound⟩

/-- **What a run of events does to a reader.** -/
theorem foldlM_step?_eq_some {events : List Event} (sound : reader.IsSound)
    (taken : events.foldlM Reader.step? reader = some reader') :
    reader'.openNames = events.foldl Event.openAfter reader.openNames ∧
      (∀ event ∈ events, event.textHasValue = true) ∧
      reader'.roots =
        reader.roots + (selected Event.isOutermost reader.openNames events).length := by
  induction events generalizing reader with
  | nil =>
    obtain rfl := Option.some.inj taken
    exact ⟨rfl, by simp, rfl⟩
  | cons event events ih =>
    rw [List.foldlM_cons] at taken
    obtain ⟨next, step, rest⟩ := Option.bind_eq_some_iff.mp taken
    obtain ⟨names, valued, roots, sound'⟩ := step?_eq_some sound step
    obtain ⟨names', valued', roots'⟩ := ih sound' rest
    rw [names] at names' roots'
    refine ⟨names', List.forall_mem_cons.mpr ⟨valued, valued'⟩, ?_⟩
    rw [roots', roots, selected]
    split
    next =>
      rw [List.length_cons]
      omega
    next => rfl

end Reading

/-- **A text is read as a report exactly if it is a document.** -/
theorem read?_isSome_iff_isDocument (text : String) : (read? text).isSome ↔ IsDocument text := by
  constructor
  · intro accepted
    obtain ⟨report, read⟩ := Option.isSome_iff_exists.mp accepted
    simp only [read?] at read
    split at read
    next complete =>
      obtain ⟨reader, taken, result⟩ := Option.bind_eq_some_iff.mp read
      obtain ⟨names, valued, roots⟩ := foldlM_step?_eq_some (fun some_ => absurd rfl some_) taken
      rw [Reader.result?] at result
      split at result
      next done =>
        rw [Bool.and_eq_true, List.isEmpty_iff] at done
        refine ⟨complete, names.symm.trans done.2, ?_, valued⟩
        have one : reader.roots = 1 := if_pos done.1
        rw [one, Reader.roots, if_neg Bool.false_ne_true, Nat.zero_add] at roots
        exact roots.symm
      next => cases result
    next => cases read
  · intro isDocument
    obtain ⟨document, scanned, valued⟩ := isDocument_iff.mp isDocument
    rw [read?, scanned]
    exact Option.isSome_iff_exists.mpr ⟨_, ofEvents?_document document valued⟩

/-! ### What a report does not depend on -/

theorem bare_withoutAttributes (content : Content) :
    content.withoutAttributes.bare = content.bare.withoutAttributes := by
  induction content with
  | nil => rfl
  | element tag inner rest ihi ihr => rw [Content.withoutAttributes, Content.bare, ihi, ihr]; rfl
  | selfClosing _ _ ih => exact ih
  | text written _ ih => exact congrArg (Content.text written) ih
  | verbatim characters _ ih => exact congrArg (Content.verbatim characters) ih
  | aside inside _ ih => exact congrArg (Content.aside inside) ih

theorem elements_withoutAttributes (content : Content) :
    content.withoutAttributes.elements =
      content.elements.map fun element => (⟨element.1.name, []⟩, element.2.withoutAttributes) := by
  induction content with
  | nil => rfl
  | element tag inner rest _ ih => simp [Content.withoutAttributes, Content.elements, ih]
  | selfClosing tag rest ih => simp [Content.withoutAttributes, Content.elements, ih]
  | text _ rest ih | verbatim _ rest ih | aside _ rest ih => exact ih

theorem leadingText_withoutAttributes (content : Content) :
    content.withoutAttributes.leadingText = content.leadingText := by
  induction content with
  | nil | element | selfClosing => rfl
  | text written rest ih => exact congrArg (Content.valueOf written ++ ·) ih
  | verbatim characters rest ih => exact congrArg (characters ++ ·) ih
  | aside inside rest ih => exact ih

/-- **The report of a document does not depend on attributes.** -/
theorem ofContent_bare_withoutAttributes (content : Content) :
    ofContent content.withoutAttributes.bare = ofContent content.bare := by
  rw [bare_withoutAttributes]
  exact @ofContent_rewritten Content.withoutAttributes (fun tag => ⟨tag.name, []⟩) (fun _ => rfl)
    elements_withoutAttributes leadingText_withoutAttributes content.bare

/-- Documents with the same root, but for its attributes, have the same report. -/
theorem read?_congr {text other : String} {document document' : Document}
    (scanned : scan text = ⟨document.events, true⟩)
    (valued : document.content.textsHaveValues = true)
    (scanned' : scan other = ⟨document'.events, true⟩)
    (valued' : document'.content.textsHaveValues = true)
    (same : document'.root.2.withoutAttributes = document.root.2.withoutAttributes) :
    read? other = read? text := by
  have found : ∀ {text : String} {document : Document}, scan text = ⟨document.events, true⟩ →
      document.content.textsHaveValues = true →
      read? text = some (ofContent document.root.2.withoutAttributes.bare) := by
    intro text document scanned valued
    rw [read?, scanned, ofContent_bare_withoutAttributes]
    exact ofEvents?_document document valued
  rw [found scanned valued, found scanned' valued', same]

end TraceReport

namespace Verifier

open TraceReport Text

/-- What is warned about in a report is not that it cannot be read. -/
theorem statusOfReport_readable (report : TraceReport) (exitCode : Int) (options : List String) :
    .unreadableReport ∉ (statusOfReport report exitCode options).2 := by
  rw [statusOfReport]
  split
  next => by_cases told : exitCode = 10 <;> simp [told]
  next => by_cases told : exitCode = 0 <;> simp [told]
  next => simp

/-- **A report is refused** exactly where the output is not a document. -/
theorem classifyCbmc_unreadable_iff {outcome : Outcome} (options : List String)
    (ended : outcome.exitCode = 0 ∨ outcome.exitCode = 10) :
    classifyCbmc outcome options = (.error none, [.unreadableReport]) ↔
      ¬IsDocument (nameEmptyTags outcome.output) := by
  rw [← read?_isSome_iff_isDocument, classifyCbmc, if_pos (by simpa using ended)]
  split
  next report found =>
    rw [found]
    simp only [Option.isSome_some, not_true_eq_false, iff_false]
    intro same
    refine statusOfReport_readable report outcome.exitCode options ?_
    rw [same]
    exact List.mem_singleton_self _
  next missing => simp [missing]

/-- **Which outputs are read as a report.**

They are exactly the documents, the texts whose events are the traversal of one element with its
surroundings. To be well-formed such a text needs two things more, which nobody asks for: nothing
but white space and asides outside the element, and in each tag a list of attributes without a name
twice. Neither of them makes a difference to the report: it is the same for all documents that are
the same inside of the element and but for attributes. A run of the tool that has ended with a
verdict has its output refused exactly if this is no document. -/
theorem isSome_read?_iff (text : String) :
    ((read? text).isSome ↔ IsDocument text) ∧
    (IsDocument text ↔ ∃ document : Document, scan text = ⟨document.events, true⟩ ∧
      document.content.textsHaveValues = true) ∧
    (IsWellFormed text ↔ (read? text).isSome ∧
      (∀ event ∈ outside (scan text).events, event.isBlank = true) ∧
      ∀ event ∈ (scan text).events, event.hasAttributes = true) ∧
    (∀ (other : String) (document document' : Document),
      scan text = ⟨document.events, true⟩ → document.content.textsHaveValues = true →
      scan other = ⟨document'.events, true⟩ → document'.content.textsHaveValues = true →
      document'.root.2.withoutAttributes = document.root.2.withoutAttributes →
      read? other = read? text) ∧
    ∀ (outcome : Outcome) (options : List String), nameEmptyTags outcome.output = text →
      outcome.exitCode = 0 ∨ outcome.exitCode = 10 →
      (classifyCbmc outcome options = (.error none, [.unreadableReport]) ↔ ¬IsDocument text) := by
  refine ⟨read?_isSome_iff_isDocument text, isDocument_iff, ?_, ?_, ?_⟩
  · rw [read?_isSome_iff_isDocument]
    exact ⟨fun formed => ⟨formed.toIsDocument, formed.blank, formed.attributes⟩,
      fun ⟨document, blank, attributes⟩ => ⟨document, blank, attributes⟩⟩
  · intro other document document' scanned valued scanned' valued' same
    exact read?_congr scanned valued scanned' valued' same
  · rintro outcome options rfl ended
    exact classifyCbmc_unreadable_iff options ended

/-! ### Reports that are not well-formed -/

/-- A report of a success, given what is written in the tag of its root. -/
def successReport (attributeText : List Char) (rest : Content) : Content :=
  .element ⟨"cprover", attributeText⟩
    (.element ⟨"cprover-status", []⟩ (.text "SUCCESS".toList .nil) .nil) rest

/-- A report behind a text, as in `junk<cprover>…</cprover>`. -/
def reportBehindText : Document where
  content := .text "junk".toList (successReport [] .nil)
  root := _
  isRoot := rfl

/-- A report with attributes that are no list, as in `<cprover a=1 a=1>…</cprover>`. -/
def reportWithoutQuotes : Document where
  content := successReport " a=1 a=1".toList .nil
  root := _
  isRoot := rfl

/-- **Not all that is read is well-formed**, and a verdict may come of it. -/
theorem not_forall_isWellFormed :
    (¬∀ text, (read? text).isSome → IsWellFormed text) ∧
    (¬∀ text, (read? text).isSome →
      ∀ event ∈ (scan text).events, event.hasAttributes = true) ∧
    ¬∀ (outcome : Outcome) (options : List String), outcome.exitCode = 0 →
      ¬IsWellFormed (nameEmptyTags outcome.output) →
      (classifyCbmc outcome options).1 = .error none := by
  have accepted : ∀ {document : Document}, document.isProper = true →
      document.content.textsHaveValues = true → (read? document.written).isSome = true :=
    fun proper valued => (read?_isSome_iff_isDocument _).mpr
      (isDocument_iff.mpr ⟨_, scan_written proper, valued⟩)
  have notBlank : ∀ {text : String}, scan text = ⟨reportBehindText.events, true⟩ →
      ¬IsWellFormed text := fun scanned formed => by
    have blank := formed.blank
    rw [scanned] at blank
    exact absurd (blank (.text "junk".toList) (by decide)) (by decide)
  refine ⟨fun all => ?_, fun all => ?_, fun all => ?_⟩
  · exact notBlank (scan_written (by decide)) (all _ (accepted (by decide) (by decide)))
  · have parsed := all reportWithoutQuotes.written (accepted (by decide) (by decide))
    rw [scan_written (by decide)] at parsed
    exact absurd (parsed (.opening ⟨"cprover", " a=1 a=1".toList⟩) (by decide)) (by decide)
  · have scanned := @scan_nameEmptyTags_written reportBehindText (by decide) (by decide)
    have status := all ⟨0, reportBehindText.written, {}, {}⟩ [] rfl (notBlank scanned)
    rw [classifyCbmc_of_read? [] (read?_of_scan scanned (by decide))] at status
    exact absurd status (by decide)

end Verifier

end VerifierTrials
