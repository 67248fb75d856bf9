import VerifierTrials.Proofs.Xml.Scanning
import VerifierTrials.Verifier.Classification

/-!
# The report in a document

The reader of a report follows the events of a document and builds no tree. Here it is compared
with a lookup in the document as it stands: a text of the report is the text, up to its first
element, of the first element at a path of names below the root (`TraceReport.ofContent`).

The two agree but for **self-closing tags**, which the reader passes over wherever they stand
below the root. It reads the document without them (`Xml.Content.bare`), and so it takes the
status from a later element when the first one is self-closing, and reads on behind a
self-closing tag in a text. A document is **clear** if no self-closing tag stands where either
could happen (`TraceReport.isClear`): then the report is the one that is looked up, and writing
an empty element in the one way or in the other makes no difference to it.

What the reader knows of the place where it is are the names of the open elements. A field is
found at the place where these names use up its path, so that the induction over a content keeps
the rest of each path (`TraceReport.remaining`) and what the content still has at its end
(`TraceReport.sought`).
-/

namespace VerifierTrials

open VerifierTrials.Xml

namespace Xml.Content

/-- The text in a content up to its first element. -/
def leadingText : Content → List Char
  | text written rest => valueOf written ++ rest.leadingText
  | verbatim characters rest => characters ++ rest.leadingText
  | aside _ rest => rest.leadingText
  | nil | element .. | selfClosing .. => []

/-- **A content without the self-closing tags** in it. -/
def bare : Content → Content
  | nil => nil
  | element tag inner rest => element tag inner.bare rest.bare
  | selfClosing _ rest => rest.bare
  | text written rest => text written rest.bare
  | verbatim characters rest => verbatim characters rest.bare
  | aside inside rest => aside inside rest.bare

/-- **A content with its self-closing tags spelled out**: a tag that opens and one that closes. -/
def spelledOut : Content → Content
  | nil => nil
  | element tag inner rest => element tag inner.spelledOut rest.spelledOut
  | selfClosing tag rest => element tag nil rest.spelledOut
  | text written rest => text written rest.spelledOut
  | verbatim characters rest => verbatim characters rest.spelledOut
  | aside inside rest => aside inside rest.spelledOut

/-- The names of the self-closing tags that stand in a content itself. -/
def selfClosers : Content → List String
  | nil => []
  | selfClosing tag rest => tag.name :: rest.selfClosers
  | element _ _ rest | text _ rest | verbatim _ rest | aside _ rest => rest.selfClosers

end Xml.Content

namespace TraceReport

/-! ### Looking a report up -/

/-- The names on the way from the root to a text of the report. -/
def Field.path : Field → List String
  | .status => ["cprover-status"]
  | .reason => ["goto_trace", "failure", "reason"]

/-- A text of the report. -/
def get (report : TraceReport) : Field → Option String
  | .status => report.status
  | .reason => report.reason

/-- What a text of the report is, when what stands at the end of its path is given. -/
def firstText (contents : List Content) : Option String :=
  contents.head?.map fun content => String.ofList content.leadingText

/-- **The report of a document**, looked up in what stands in its root. -/
def ofContent (content : Content) : TraceReport :=
  ⟨firstText (content.along Field.status.path), firstText (content.along Field.reason.path)⟩

theorem get_ofContent (content : Content) (field : Field) :
    (ofContent content).get field = firstText (content.along field.path) := by
  cases field <;> rfl

theorem ext_get {report report' : TraceReport}
    (same : ∀ field, report.get field = report'.get field) : report = report' := by
  have status := same .status
  have reason := same .reason
  cases report
  cases report'
  simp_all [get]

/-! ### The way to a field -/

/-- **What is left of a path** at a place, given the names from there up to the root; nothing if
the place is on another way. -/
def remaining (path : List String) : List String → Option (List String)
  | [] => some path
  | name :: below =>
    match remaining path below with
    | some (next :: path) => if name = next then some path else none
    | _ => none

/-- **What a content still has for a field**, standing at a place. -/
def sought (field : Field) (below : List String) (content : Content) : List Content :=
  match remaining field.path below with
  | some (name :: names) => content.along (name :: names)
  | _ => []

section Sought

variable (field : Field) (below : List String)

theorem sought_nil : sought field below .nil = [] := by
  unfold sought
  split <;> rfl

theorem sought_element (tag : Tag) (inner rest : Content) :
    sought field below (.element tag inner rest) =
      (if remaining field.path (tag.name :: below) = some [] then [inner]
        else sought field (tag.name :: below) inner) ++ sought field below rest := by
  unfold sought
  rw [remaining]
  split
  · rename_i next path goesOn
    rw [Content.along_element]
    by_cases named : tag.name = next
    · cases path <;> simp [named, Content.along]
    · simp [named]
  · simp

end Sought

/-- A path is the way to the place and what is left of it there. -/
theorem remaining_eq_some_iff {path names left : List String} :
    remaining path names = some left ↔ path = names.reverse ++ left := by
  induction names generalizing left with
  | nil => simp [remaining]
  | cons name below ih =>
    have step : remaining path (name :: below) = some left ↔
        remaining path below = some (name :: left) := by
      rw [remaining]
      split
      · rename_i next left' left_
        rw [left_]
        by_cases named : name = next
        · simp [named]
        · simp [named, Ne.symm named]
      · rename_i left_
        simp only [reduceCtorEq, false_iff]
        exact fun goesOn => left_ _ _ goesOn
    rw [step, ih]
    simp

/-- A field is at the place where its path is used up, unless it has been found. -/
theorem fieldHere_eq_some_iff (names : List String) (root : String) (found : TraceReport)
    (field : Field) :
    Reader.fieldHere (names ++ [root]) found = some field ↔
      remaining field.path names = some [] ∧ found.get field = none := by
  rw [remaining_eq_some_iff, List.append_nil, ← List.reverse_eq_iff]
  unfold Reader.fieldHere
  split
  · rename_i root' names_eq
    obtain rfl : names = ["cprover-status"] := by
      simpa using congrArg List.dropLast names_eq
    cases field <;> simp [Field.path, get]
  · rename_i root' names_eq
    obtain rfl : names = ["reason", "failure", "goto_trace"] := by
      simpa using congrArg List.dropLast names_eq
    cases field <;> simp [Field.path, get]
  · rename_i noStatus noReason
    simp only [reduceCtorEq, false_iff, not_and]
    rintro rfl
    cases field
    · exact absurd rfl (noStatus root)
    · exact absurd rfl (noReason root)

/-! ### Following a content -/

/-- **A text of the report after a content**: what was found before, with the text that was still
being collected; or else what the content has for it. -/
def gathered (content : Content) (below : List String) (collecting : Option Field)
    (found : TraceReport) (field : Field) : Option String :=
  match found.get field with
  | some text =>
    some (if collecting = some field then text ++ String.ofList content.leadingText else text)
  | none => firstText (sought field below content)

theorem get_start (field? : Option Field) (found : TraceReport) (field : Field) :
    (Reader.start field? found).get field =
      if field? = some field then some "" else found.get field := by
  cases field? with
  | none => rfl
  | some field' => cases field' <;> cases field <;> rfl

/-- An element that may be opened is looked at once: it may be the place of a field. -/
theorem step?_opening {names : List String} {rooted : Bool} (collecting : Option Field)
    (found : TraceReport) (tag : Tag) (notClosed : (names.isEmpty && rooted) = false) :
    Reader.step? ⟨names, rooted, collecting, found⟩ (.opening tag) =
      some ⟨tag.name :: names, true, Reader.fieldHere (tag.name :: names) found,
        Reader.start (Reader.fieldHere (tag.name :: names) found) found⟩ := by
  rw [Reader.step?, Reader.isClosed, if_neg (by simp [notClosed])]

/-- Collecting goes on with the same field, and adds to nothing else. -/
theorem collect_eq (names : List String) (rooted : Bool) (collecting : Option Field)
    (found : TraceReport) (text : String) :
    ∃ found', Reader.collect ⟨names, rooted, collecting, found⟩ text =
        ⟨names, rooted, collecting, found'⟩ ∧
      ∀ field, found'.get field =
        if collecting = some field then (found.get field).map (· ++ text)
        else found.get field := by
  match collecting with
  | none => exact ⟨found, rfl, fun field => rfl⟩
  | some .status => exact ⟨_, rfl, fun field => by cases field <;> rfl⟩
  | some .reason => exact ⟨_, rfl, fun field => by cases field <;> rfl⟩

/-- Collecting a text in front of a content gathers both. -/
theorem gathered_of_collect {characters : List Char} (content rest : Content)
    {below : List String} {collecting : Option Field} {found found' : TraceReport}
    (leading : content.leadingText = characters ++ rest.leadingText)
    (same : ∀ field, sought field below content = sought field below rest)
    (collected : ∀ field, found'.get field =
      if collecting = some field then (found.get field).map (· ++ String.ofList characters)
      else found.get field) (field : Field) :
    gathered rest below collecting found' field =
      gathered content below collecting found field := by
  unfold gathered
  rw [collected, same]
  cases found.get field with
  | none => simp
  | some text =>
    by_cases here : collecting = some field
    · simp [here, leading, String.append_assoc]
    · simp [here]

/-- Nothing is collected behind an element: what has been found in it stays. -/
theorem gathered_none_eq (content : Content) (below : List String) (found : TraceReport)
    (field : Field) :
    gathered content below none found field =
      (found.get field).or (firstText (sought field below content)) := by
  unfold gathered
  cases found.get field <;> simp

/-- **An element gathers what it holds itself, and then what follows it has.** -/
theorem gathered_element {tag : Tag} {inner rest : Content} {below : List String}
    {collecting here : Option Field} {found inside : TraceReport}
    (atPlace : ∀ field, here = some field ↔
      remaining field.path (tag.name :: below) = some [] ∧ found.get field = none)
    (gatheredInside : ∀ field, inside.get field =
      gathered inner (tag.name :: below) here (Reader.start here found) field) (field : Field) :
    gathered rest below none inside field =
      gathered (.element tag inner rest) below collecting found field := by
  rw [gathered_none_eq, gatheredInside]
  unfold gathered
  rw [get_start]
  cases found_eq : found.get field with
  | some text =>
    have here_eq : here ≠ some field := by simp [atPlace, found_eq]
    simp [here_eq, Content.leadingText]
  | none =>
    by_cases placed : remaining field.path (tag.name :: below) = some []
    · have here_eq := (atPlace field).2 ⟨placed, found_eq⟩
      simp [here_eq, sought_element, placed, firstText]
    · have here_eq : here ≠ some field := fun same => placed ((atPlace field).1 same).1
      simp only [here_eq, if_false, sought_element, placed]
      cases sought field (tag.name :: below) inner <;> simp [firstText]

/-- **The reader follows a content without its self-closing tags**: it comes back to the place
where it was, with every text of the report gathered. -/
theorem foldlM_events {content : Content} (texts : content.textsHaveValues = true) (root : String)
    (below : List String) (collecting : Option Field) (found : TraceReport) :
    ∃ collecting' found',
      content.events.foldlM Reader.step? ⟨below ++ [root], true, collecting, found⟩ =
        some ⟨below ++ [root], true, collecting', found'⟩ ∧
      ∀ field, found'.get field = gathered content.bare below collecting found field := by
  -- The place and what is being collected change inside an element, so that both are general.
  induction content generalizing below collecting found with
  | nil =>
    refine ⟨collecting, found, rfl, fun field => ?_⟩
    unfold gathered
    cases found_eq : found.get field <;>
      simp [Content.bare, sought_nil, firstText, Content.leadingText]
  | element tag inner rest ihi ihr =>
    simp only [Content.textsHaveValues, Bool.and_eq_true] at texts
    have opening := @step?_opening (below ++ [root]) true collecting found tag (by simp)
    have atPlace := fieldHere_eq_some_iff (tag.name :: below) root found
    rw [List.cons_append] at atPlace
    generalize Reader.fieldHere (tag.name :: (below ++ [root])) found = here at opening atPlace
    obtain ⟨last, inside, inner_eq, gatheredInside⟩ :=
      ihi texts.1 (tag.name :: below) here (Reader.start here found)
    obtain ⟨collecting', found', rest_eq, found_eq'⟩ := ihr texts.2 below none inside
    refine ⟨collecting', found', ?_, fun field => ?_⟩
    · -- Closing the element leads back to its place, with nothing being collected.
      have closing : Reader.step? ⟨tag.name :: below ++ [root], true, last, inside⟩
          (.closing tag.name) = some ⟨below ++ [root], true, none, inside⟩ := rfl
      rw [List.cons_append] at inner_eq closing
      simp only [Content.events, List.foldlM_cons, List.foldlM_append, opening, inner_eq, closing,
        Option.bind_eq_bind, Option.bind_some, rest_eq]
    · rw [found_eq']
      exact gathered_element atPlace gatheredInside field
  | selfClosing tag rest ih =>
    -- Neither the place nor the collecting changes: the tag might as well not be there.
    obtain ⟨collecting', found', followed, later⟩ := ih texts below collecting found
    refine ⟨collecting', found', ?_, later⟩
    rw [Content.events, List.foldlM_cons, ← followed]
    simp [Reader.step?, Reader.isClosed]
  | text written rest ih =>
    simp only [Content.textsHaveValues, Bool.and_eq_true] at texts
    obtain ⟨found₁, collected, later⟩ := collect_eq (below ++ [root]) true collecting
      found (String.ofList (Content.valueOf written))
    obtain ⟨collecting', found', followed, found_eq'⟩ := ih texts.2 below collecting found₁
    refine ⟨collecting', found', ?_, fun field => ?_⟩
    · rw [Content.events, List.foldlM_cons, Reader.step?, Content.unescape?_eq_valueOf texts.1,
        Option.map_some, collected, ← followed]
      rfl
    · rw [found_eq']
      exact gathered_of_collect (.text written rest.bare) rest.bare rfl (fun _ => rfl) later field
  | verbatim characters rest ih =>
    obtain ⟨found₁, collected, later⟩ := collect_eq (below ++ [root]) true collecting
      found (String.ofList characters)
    obtain ⟨collecting', found', followed, found_eq'⟩ := ih texts below collecting found₁
    refine ⟨collecting', found', ?_, fun field => ?_⟩
    · rw [Content.events, List.foldlM_cons, Reader.step?, collected, ← followed]
      rfl
    · rw [found_eq']
      exact gathered_of_collect (.verbatim characters rest.bare) rest.bare rfl (fun _ => rfl) later
        field
  | aside inside rest ih => exact ih texts below collecting found

/-! ### A whole document -/

/-- Outside the root, a content without elements means nothing. -/
theorem foldlM_events_of_no_elements {content : Content} (texts : content.textsHaveValues = true)
    (noElements : content.elements = []) (rooted : Bool) (found : TraceReport) :
    content.events.foldlM Reader.step? ⟨[], rooted, none, found⟩ =
      some ⟨[], rooted, none, found⟩ := by
  induction content with
  | nil => rfl
  | element tag inner rest => cases noElements
  | selfClosing tag rest => cases noElements
  | text written rest ih =>
    simp only [Content.textsHaveValues, Bool.and_eq_true] at texts
    rw [Content.events, List.foldlM_cons, Reader.step?, Content.unescape?_eq_valueOf texts.1]
    exact ih texts.2 noElements
  | verbatim characters rest ih => exact ih texts noElements
  | aside inside rest ih => exact ih texts noElements

/-- **The report of a document** is the one of its root without the self-closing tags in it. -/
theorem ofEvents?_document (document : Document)
    (texts : document.content.textsHaveValues = true) :
    ofEvents? document.events = some (ofContent document.root.2.bare) := by
  suffices followed : ∀ {content : Content} {root : Tag × Content}, content.textsHaveValues = true →
      content.elements = [root] →
      content.events.foldlM Reader.step? {} =
        some ⟨[], true, none, ofContent root.2.bare⟩ by
    rw [ofEvents?, Document.events, followed texts document.isRoot]
    rfl
  intro content root texts onlyRoot
  induction content with
  | nil => cases onlyRoot
  | element tag inner rest =>
    simp only [Content.textsHaveValues, Bool.and_eq_true] at texts
    obtain ⟨rfl, noElements⟩ := List.cons_eq_cons.1 onlyRoot
    obtain ⟨last, found, inner_eq, found_eq⟩ := foldlM_events texts.1 tag.name [] none {}
    obtain rfl : found = ofContent inner.bare := by
      refine ext_get fun field => ?_
      rw [found_eq, get_ofContent]
      cases field <;> rfl
    -- The root itself is not the place of a field: every path goes on below it.
    have notHere : Reader.fieldHere [tag.name] {} = none := by
      refine Option.eq_none_iff_forall_ne_some.2 fun field followed => ?_
      cases field <;> cases ((fieldHere_eq_some_iff [] tag.name {} _).1 followed).1
    have opening : Reader.step? {} (.opening tag) = some ⟨[] ++ [tag.name], true, none, {}⟩ := by
      rw [step?_opening none {} tag rfl, notHere]
      rfl
    have closing : Reader.step? ⟨[] ++ [tag.name], true, last, ofContent inner.bare⟩
        (.closing tag.name) = some ⟨[], true, none, ofContent inner.bare⟩ := rfl
    simp only [Content.events, List.foldlM_cons, List.foldlM_append, opening, inner_eq, closing,
      Option.bind_eq_bind, Option.bind_some]
    exact foldlM_events_of_no_elements texts.2 noElements true _
  | selfClosing tag rest =>
    obtain ⟨rfl, noElements⟩ := List.cons_eq_cons.1 onlyRoot
    -- A root that is one tag has nothing in it.
    exact @foldlM_events_of_no_elements rest texts noElements true _
  | text written rest ih =>
    simp only [Content.textsHaveValues, Bool.and_eq_true] at texts
    rw [Content.events, List.foldlM_cons, Reader.step?, Content.unescape?_eq_valueOf texts.1]
    exact ih texts.2 onlyRoot
  | verbatim characters rest ih => exact ih texts onlyRoot
  | aside inside rest ih => exact ih texts onlyRoot

/-! ### Where self-closing tags make no difference -/

/-- **Whether self-closing tags are out of the way** of what stands at the end of a path: none of
them stands there, nor in what stands there. -/
def isClearAlong : List String → Content → Bool
  | [], content => content.selfClosers.isEmpty
  | [name], content =>
    !content.selfClosers.contains name &&
      (content.named name).all fun element => element.2.selfClosers.isEmpty
  | name :: names, content =>
    (content.named name).all fun element => isClearAlong names element.2

/-- Whether no self-closing tag is in the way of a text of the report. -/
def isClear (content : Content) : Bool :=
  isClearAlong Field.status.path content && isClearAlong Field.reason.path content

theorem leadingText_bare {content : Content} (none_ : content.selfClosers = []) :
    content.bare.leadingText = content.leadingText := by
  induction content with
  | nil | element => rfl
  | selfClosing => cases none_
  | text written rest ih => exact congrArg (Content.valueOf written ++ ·) (ih none_)
  | verbatim characters rest ih => exact congrArg (characters ++ ·) (ih none_)
  | aside inside rest ih => exact ih none_

/-- One name of a path, when the rest of the path leads to the same texts. -/
theorem map_leadingText_along_cons_bare {name : String} {names : List String} {content : Content}
    (notSelf : names = [] → name ∉ content.selfClosers)
    (inner_eq : ∀ element ∈ content.named name,
      (element.2.bare.along names).map Content.leadingText =
        (element.2.along names).map Content.leadingText) :
    (content.bare.along (name :: names)).map Content.leadingText =
      (content.along (name :: names)).map Content.leadingText := by
  induction content with
  | nil => rfl
  | element tag inner rest _ ih =>
    rw [Content.named_element] at inner_eq
    have rest_eq := ih notSelf fun element among => inner_eq element (List.mem_append_right _ among)
    rw [Content.bare, Content.along_element, Content.along_element, List.map_append,
      List.map_append, rest_eq]
    split
    · rename_i named
      rw [inner_eq (tag, inner) (by simp [named])]
    · rfl
  | selfClosing tag rest ih =>
    rw [Content.named_selfClosing] at inner_eq
    have rest_eq := ih (fun ends => fun mem => notSelf ends (List.mem_cons_of_mem _ mem))
      fun element among => inner_eq element (List.mem_append_right _ among)
    rw [Content.bare, Content.along_selfClosing, List.map_append, rest_eq]
    split
    · rename_i named
      -- At the end of the path the tag would be in the way; before it there is nothing in it.
      cases names with
      | nil => exact absurd (named ▸ List.mem_cons_self) (notSelf rfl)
      | cons next names => rfl
    · rfl
  | text _ rest ih | verbatim _ rest ih | aside _ rest ih => exact ih notSelf inner_eq

/-- A path of names leads to the same texts without the self-closing tags that are out of its
way. -/
theorem map_leadingText_along_bare {path : List String} {content : Content}
    (clear : isClearAlong path content = true) :
    (content.bare.along path).map Content.leadingText =
      (content.along path).map Content.leadingText := by
  induction path generalizing content with
  | nil =>
    rw [isClearAlong, List.isEmpty_iff] at clear
    simp [Content.along, leadingText_bare clear]
  | cons name names ih =>
    cases names with
    | nil =>
      simp only [isClearAlong, Bool.and_eq_true, Bool.not_eq_true', List.contains_eq_mem,
        decide_eq_false_iff_not, List.all_eq_true] at clear
      exact map_leadingText_along_cons_bare (fun _ => clear.1)
        fun element among => ih (clear.2 element among)
    | cons next names =>
      simp only [isClearAlong, List.all_eq_true] at clear
      exact map_leadingText_along_cons_bare (fun ends => absurd ends (List.cons_ne_nil _ _))
        fun element among => ih (clear element among)

theorem firstText_eq (contents : List Content) :
    firstText contents = ((contents.map Content.leadingText).map String.ofList).head? := by
  cases contents <;> rfl

/-- **In a clear document the reader finds the report that is looked up.** -/
theorem ofContent_bare {content : Content} (clear : isClear content = true) :
    ofContent content.bare = ofContent content := by
  simp only [isClear, Bool.and_eq_true] at clear
  refine ext_get fun field => ?_
  rw [get_ofContent, get_ofContent, firstText_eq, firstText_eq, map_leadingText_along_bare]
  cases field
  · exact clear.1
  · exact clear.2

/-! ### Contents that are written in another way -/

section Rewritten

variable {rewritten : Content → Content} {renewed : Tag → Tag}
  (names : ∀ tag, (renewed tag).name = tag.name)
  (elements : ∀ content, (rewritten content).elements =
    content.elements.map fun element => (renewed element.1, rewritten element.2))
include names elements

/-- Where the elements and their names are kept, so are the ways to them. -/
theorem along_rewritten (path : List String) (content : Content) :
    (rewritten content).along path = (content.along path).map rewritten := by
  induction path generalizing content with
  | nil => rfl
  | cons name path ih =>
    simp [Content.along, Content.named, elements, names, List.filter_map, Function.comp_def,
      List.flatMap_map, List.map_flatMap, ih]

/-- **The report that is looked up** depends on elements, their names and their texts only. -/
theorem ofContent_rewritten
    (texts : ∀ content, (rewritten content).leadingText = content.leadingText)
    (content : Content) : ofContent (rewritten content) = ofContent content := by
  refine ext_get fun field => ?_
  simp only [get_ofContent, firstText_eq, along_rewritten names elements, List.map_map,
    Function.comp_def, texts]

end Rewritten

theorem elements_spelledOut (content : Content) :
    content.spelledOut.elements =
      content.elements.map fun element => (element.1, element.2.spelledOut) := by
  induction content with
  | nil => rfl
  | element tag inner rest _ ih => simp [Content.spelledOut, Content.elements, ih]
  | selfClosing tag rest ih => simp [Content.spelledOut, Content.elements, ih]
  | text _ rest ih | verbatim _ rest ih | aside _ rest ih => exact ih

theorem leadingText_spelledOut (content : Content) :
    content.spelledOut.leadingText = content.leadingText := by
  induction content with
  | nil | element | selfClosing => rfl
  | text written rest ih => exact congrArg (Content.valueOf written ++ ·) ih
  | verbatim characters rest ih => exact congrArg (characters ++ ·) ih
  | aside inside rest ih => exact ih

/-- The report that is looked up does not depend on how empty elements are written. -/
theorem ofContent_spelledOut (content : Content) :
    ofContent content.spelledOut = ofContent content :=
  @ofContent_rewritten Content.spelledOut id (fun _ => rfl) elements_spelledOut
    leadingText_spelledOut content

end TraceReport

namespace Verifier

open TraceReport Text

/-- The report in an output that is a document once its tags have names. -/
theorem read?_of_scan {output : String} {document : Document}
    (scanned : scan (nameEmptyTags output) = ⟨document.events, true⟩)
    (texts : document.content.textsHaveValues = true) :
    read? (nameEmptyTags output) = some (ofContent document.root.2.bare) := by
  rw [read?, scanned]
  exact ofEvents?_document document texts

/-- An output is classified by the report in it and by nothing else. -/
theorem classifyCbmc_congr {outcome : Outcome} {output : String} (options : List String)
    (same : read? (nameEmptyTags output) = read? (nameEmptyTags outcome.output)) :
    classifyCbmc { outcome with output } options = classifyCbmc outcome options := by
  simp only [classifyCbmc, same]

/-- A run that has ended by itself has the status that its report gives. -/
theorem classifyCbmc_of_read? {output : String} {report : TraceReport} (options : List String)
    (reads : read? (nameEmptyTags output) = some report) :
    classifyCbmc ⟨0, output, {}, {}⟩ options = statusOfReport report 0 options := by
  simp [classifyCbmc, reads]

/-- **The report in a document, and the status that it gives.** The reader finds what a lookup
in the root without its self-closing tags finds; in a clear document this is what a lookup in
the root as it stands finds, and there the status does not depend on how empty elements are
written. -/
theorem classifyCbmc_of_document {outcome : Outcome} {document : Document}
    (scanned : scan (nameEmptyTags outcome.output) = ⟨document.events, true⟩)
    (texts : document.content.textsHaveValues = true) :
    read? (nameEmptyTags outcome.output) = some (ofContent document.root.2.bare) ∧
    (isClear document.root.2 = true →
      read? (nameEmptyTags outcome.output) = some (ofContent document.root.2) ∧
      ∀ (output : String) (other : Document) (options : List String),
        scan (nameEmptyTags output) = ⟨other.events, true⟩ →
        other.content.textsHaveValues = true → isClear other.root.2 = true →
        other.root.2.spelledOut = document.root.2.spelledOut →
        classifyCbmc { outcome with output } options = classifyCbmc outcome options) := by
  have reads := read?_of_scan scanned texts
  refine ⟨reads, fun clear => ?_⟩
  rw [ofContent_bare clear] at reads
  refine ⟨reads, fun output other options scanned' texts' clear' spelled => ?_⟩
  have sameReport : ofContent other.root.2 = ofContent document.root.2 := by
    rw [← ofContent_spelledOut, spelled, ofContent_spelledOut]
  refine classifyCbmc_congr options ?_
  rw [read?_of_scan scanned' texts', ofContent_bare clear', sameReport, reads]

/-! ### Documents with and without self-closing tags -/

/-- A document whose tags all have names is scanned as it is written. -/
theorem scan_nameEmptyTags_written {document : Document} (proper : document.isProper = true)
    (named : replaceAll "</>".toList "</emptyTag>".toList
      (replaceAll "<>".toList "<emptyTag>".toList document.content.written) =
        document.content.written) :
    scan (nameEmptyTags document.written) = ⟨document.events, true⟩ := by
  have same : nameEmptyTags document.written = document.written := by
    simp only [nameEmptyTags, replace, Document.written, String.toList_ofList, named]
  rw [same, scan_written proper]

/-- A report with further elements before its status. -/
def reportBehind (elements : Content → Content) : Document where
  content :=
    .element ⟨"cprover", []⟩
      (elements (.element ⟨"cprover-status", []⟩ (.text "SUCCESS".toList .nil) .nil)) .nil
  root := _
  isRoot := rfl

/-- A report with a self-closing tag of some name before its status, as in
`<cprover><message/><cprover-status>SUCCESS</cprover-status></cprover>`. -/
def reportBehindTag (name : String) : Document := reportBehind (.selfClosing ⟨name, []⟩)

/-- The same with the tag spelled out. -/
def reportBehindElement (name : String) : Document := reportBehind (.element ⟨name, []⟩ .nil)

/-- An empty message is in nobody's way. -/
theorem classifyCbmc_of_message :
    scan (nameEmptyTags (reportBehindTag "message").written) =
      ⟨(reportBehindTag "message").events, true⟩ ∧
    isClear (reportBehindTag "message").root.2 = true ∧
    read? (nameEmptyTags (reportBehindTag "message").written) = some ⟨some "SUCCESS", none⟩ ∧
    classifyCbmc ⟨0, (reportBehindElement "message").written, {}, {}⟩ [] =
      classifyCbmc ⟨0, (reportBehindTag "message").written, {}, {}⟩ [] := by
  have scanned := @scan_nameEmptyTags_written (reportBehindTag "message") (by decide) (by decide)
  have clear : isClear (reportBehindTag "message").root.2 = true := by decide
  obtain ⟨-, inClear⟩ := @classifyCbmc_of_document ⟨0, (reportBehindTag "message").written, {}, {}⟩
    (reportBehindTag "message") scanned rfl
  obtain ⟨reads, spelled⟩ := inClear clear
  refine ⟨scanned, clear, ?_, ?_⟩
  · rw [reads]
    decide
  · exact spelled _ (reportBehindElement "message") []
      (scan_nameEmptyTags_written (by decide) (by decide)) rfl (by decide) rfl

/-- **A self-closing status is passed over**: the reader does not find the empty text that a
lookup finds, and spelling the tag out takes the verdict away. -/
theorem not_forall_read?_eq_lookup :
    (¬∀ (output : String) (document : Document),
      scan (nameEmptyTags output) = ⟨document.events, true⟩ →
      document.content.textsHaveValues = true →
      read? (nameEmptyTags output) = some (ofContent document.root.2)) ∧
    ¬∀ (outcome : Outcome) (output : String) (document other : Document) (options : List String),
      scan (nameEmptyTags outcome.output) = ⟨document.events, true⟩ →
      document.content.textsHaveValues = true →
      scan (nameEmptyTags output) = ⟨other.events, true⟩ →
      other.content.textsHaveValues = true →
      other.root.2.spelledOut = document.root.2.spelledOut →
      classifyCbmc { outcome with output } options = classifyCbmc outcome options := by
  have scanned := @scan_nameEmptyTags_written (reportBehindTag "cprover-status") (by decide)
    (by decide)
  have scanned' := @scan_nameEmptyTags_written (reportBehindElement "cprover-status") (by decide)
    (by decide)
  have reads := read?_of_scan scanned rfl
  have reads' := read?_of_scan scanned' rfl
  refine ⟨fun all => ?_, fun all => ?_⟩
  · have lookup := all _ _ scanned rfl
    rw [reads] at lookup
    revert lookup
    decide
  · have status := all ⟨0, (reportBehindTag "cprover-status").written, {}, {}⟩
      (reportBehindElement "cprover-status").written _ _ [] scanned rfl scanned' rfl rfl
    rw [classifyCbmc_of_read? [] reads] at status
    have spelled := (classifyCbmc_of_read? [] reads').symm.trans status
    revert spelled
    decide

end Verifier

end VerifierTrials
