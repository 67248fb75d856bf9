import VerifierTrials.Proofs.Definition.ClassicLayout

/-!
# Writing a definition as a document

Every definition can be written in the classic layout (`ClassicLayout.document`): one element
for each of its parts, in the order of the definition, with attributes for what is there and
with every text and every attribute escaped. The document can be read whatever the texts are
(`ClassicLayout.isReadable_document`), and it lays out the definition
(`ClassicLayout.isBenchmark_benchmarkElement`).

Put together with the reading of laid out documents, this is the round trip of a definition
through its text (`ClassicLayout.ofXml_written`): the written document gives the definition
back, and so does every other document that lays it out.
-/

namespace VerifierTrials

open VerifierTrials.Xml VerifierTrials.Text

/-! ### Contents that are elements only -/

namespace Xml

namespace Content

/-- A content made of elements, each spelled out. -/
def ofElements : List (Tag × Content) → Content
  | [] => nil
  | (tag, inner) :: more => element tag inner (ofElements more)

theorem elements_ofElements (elements : List (Tag × Content)) :
    (ofElements elements).elements = elements := by
  induction elements with
  | nil => rfl
  | cons _ _ ih => exact congrArg (_ :: ·) ih

/-- A content that is one text; an empty text is none. -/
def ofText (text : String) : Content :=
  if text = "" then nil else .text (escape text.toList) nil

theorem directText_ofText (text : String) : (ofText text).directText = text.toList := by
  unfold ofText
  split
  · rename_i empty
    simp [empty, directText]
  · simp [directText, valueOf, unescape?_escape]

theorem isReadable_ofText (text : String) : (ofText text).isReadable = true := by
  unfold ofText
  split
  · rfl
  · rename_i nonempty
    have escaped : escape text.toList ≠ [] := escape_ne_nil (by simpa using nonempty)
    have noBracket : '<' ∉ escape text.toList := not_mem_escape (by decide) (by decide) _
    simp [isReadable, isProper, textsHaveValues, tagsHaveValues, beginsWithText,
      unescape?_escape, escaped, noBracket]

end Content

theorem isReadable_ofElements {elements : List (Tag × Content)}
    (readable : ∀ element ∈ elements, IsReadable element) :
    (Content.ofElements elements).isReadable = true := by
  induction elements with
  | nil => rfl
  | cons element elements ih =>
    rw [List.forall_mem_cons] at readable
    exact Content.isReadable_element readable.1 (ih readable.2)

/-! ### Attributes that may be missing -/

/-- The attributes of which there is a value. -/
def present (entries : List (String × Option String)) : List (String × String) :=
  entries.filterMap fun entry => entry.2.map (entry.1, ·)

theorem map_fst_present_sublist (entries : List (String × Option String)) :
    ((present entries).map Prod.fst).Sublist (entries.map Prod.fst) := by
  induction entries with
  | nil => exact List.Sublist.refl _
  | cons entry entries ih =>
    obtain ⟨key, value⟩ := entry
    cases value with
    | none => exact ih.cons _
    | some value => exact ih.cons_cons _

theorem lookup_present {entries : List (String × Option String)}
    (distinct : (entries.map Prod.fst).Nodup) (key : String) :
    (present entries).lookup key = (entries.lookup key).join := by
  induction entries with
  | nil => rfl
  | cons entry entries ih =>
    obtain ⟨name, value⟩ := entry
    rw [List.map_cons, List.nodup_cons] at distinct
    by_cases same : key = name
    · subst same
      cases value with
      | some value => simp [present]
      | none =>
        -- The key is missing here, and there is no second chance for it further on.
        have missing : entries.lookup key = none := List.lookup_eq_none_iff.2 fun entry among => by
          simpa using fun same' : key = entry.1 =>
            distinct.1 (List.mem_map.2 ⟨entry, among, same'.symm⟩)
        have absent : (present entries).lookup key = none := by rw [ih distinct.2, missing]; rfl
        simpa [present, List.lookup_cons] using absent
    · have other : (key == name) = false := by simpa using same
      cases value with
      | some value => simpa [present, List.lookup_cons, other] using ih distinct.2
      | none => simpa [present, List.lookup_cons, other] using ih distinct.2

/-- A tag with the attributes of which there is a value. -/
def tagWith (name : String) (entries : List (String × Option String)) : Tag :=
  tagOf name (present entries)

/-- Whether some keys may be the attributes of a tag: names, none of them twice. -/
def areKeys (keys : List String) : Bool := keys.all isName && decide keys.Nodup

section TagWith

variable {name : String} {entries : List (String × Option String)}

theorem isKey_of_mem_present (keys : areKeys (entries.map Prod.fst) = true) :
    ∀ entry ∈ present entries, isKey entry.1 = true := by
  simp only [areKeys, Bool.and_eq_true, List.all_eq_true] at keys
  exact fun _ among => isKey_of_isName
    (keys.1 _ ((map_fst_present_sublist entries).subset (List.mem_map_of_mem among)))

theorem attributes?_tagWith (name : String) (keys : areKeys (entries.map Prod.fst) = true) :
    (tagWith name entries).attributes? = some (present entries) := by
  refine attributes?_tagOf name (isKey_of_mem_present keys) ?_
  simp only [areKeys, Bool.and_eq_true, decide_eq_true_eq] at keys
  exact keys.2.sublist (map_fst_present_sublist entries)

/-- **An element with such a tag can be read** when its content can. -/
theorem isReadable_tagWith (named : isName name = true)
    (keys : areKeys (entries.map Prod.fst) = true)
    {content : Content} (readable : content.isReadable = true) :
    IsReadable (tagWith name entries, content) := by
  have keyed := isKey_of_mem_present keys
  refine ⟨⟨isMarkupFor_opening named keyed, isMarkupFor_closing named, ?_⟩, readable⟩
  rw [attributes?_tagWith name keys, Option.isSome_some]

end TagWith

end Xml

namespace ClassicLayout

/-! ### The elements of a definition -/

theorem areKeys_name : areKeys ["name"] = true := by decide

theorem areKeys_column : areKeys ["title", "numberOfDigits"] = true := by decide

theorem areKeys_benchmark : areKeys ["tool", "memlimit", "timelimit"] = true := by decide

/-- The value of an attribute of an element with such a tag. -/
theorem attribute?_tagWith (name : String) {entries : List (String × Option String)}
    (keys : areKeys (entries.map Prod.fst) = true) (content : Content) (key : String) :
    attribute? (tagWith name entries, content) key = (entries.lookup key).join := by
  rw [attribute?, attributes?_tagWith name keys, Option.getD_some, lookup_present]
  simp only [areKeys, Bool.and_eq_true, decide_eq_true_eq] at keys
  exact keys.2

theorem holds_of_directText_eq {element : Tag × Content} {text : String}
    (direct : element.2.directText = text.toList) : Holds element text :=
  ⟨[], [], by simp, by simp, by simp [direct]⟩

theorem holds_ofText (tag : Tag) (text : String) : Holds (tag, Content.ofText text) text :=
  holds_of_directText_eq (Content.directText_ofText text)

/-- A pattern in an element of a name. -/
def textElement (name text : String) : Tag × Content := (tagWith name [], Content.ofText text)

theorem holds_textElement (name text : String) : Holds (textElement name text) text :=
  holds_ofText _ _

/-- An option. -/
def optionElement (option : ToolOption) : Tag × Content :=
  (tagWith "option" [("name", some option.name)], Content.ofText (option.value.getD ""))

/-- What stands in a file set. -/
def fileSetElements (set : FileSet) : List (Tag × Content) :=
  set.included.map (textElement "include") ++ set.lists.map (textElement "includesfile") ++
    set.excluded.map (textElement "exclude") ++ set.options.map optionElement

/-- A file set. -/
def fileSetElement (set : FileSet) : Tag × Content :=
  (tagWith "sourcefiles" [], Content.ofElements (fileSetElements set))

/-- A test. -/
def testElement (test : DeclaredTest) : Tag × Content :=
  (tagWith "test" [("name", test.name)],
    Content.ofElements (test.options.map optionElement ++ test.fileSets.map fileSetElement))

/-- A column. -/
def columnElement (column : DeclaredColumn) : Tag × Content :=
  (tagWith "column" [("title", column.title), ("numberOfDigits", column.digits.map ofNat)],
    Content.ofText column.text)

/-- A block of columns. -/
def columnsElement (columns : List DeclaredColumn) : Tag × Content :=
  (tagWith "columns" [], Content.ofElements (columns.map columnElement))

/-- What stands in a definition, with all columns in one block. -/
def benchmarkElements (declared : DeclaredBenchmark) : List (Tag × Content) :=
  declared.options.map optionElement ++ declared.fileSets.map fileSetElement ++
    declared.tests.map testElement ++ [declared.columns].map columnsElement

/-- A definition. -/
def benchmarkElement (declared : DeclaredBenchmark) : Tag × Content :=
  (tagWith "benchmark"
      [("tool", some declared.tool.key), ("memlimit", declared.memoryLimit.map ofNat),
        ("timelimit", declared.timeLimit.map ofNat)],
    Content.ofElements (benchmarkElements declared))

/-- **A definition as a document.** -/
def document (declared : DeclaredBenchmark) : Document where
  content := Content.ofElements [benchmarkElement declared]
  root := benchmarkElement declared
  isRoot := rfl

/-! ### It can be read -/

theorem isReadable_textElement {name : String} (named : isName name = true) (text : String) :
    IsReadable (textElement name text) :=
  isReadable_tagWith named rfl (Content.isReadable_ofText text)

theorem isReadable_optionElement (option : ToolOption) : IsReadable (optionElement option) :=
  isReadable_tagWith (by decide) (by exact areKeys_name) (Content.isReadable_ofText _)

theorem isReadable_fileSetElement (set : FileSet) : IsReadable (fileSetElement set) := by
  refine isReadable_tagWith (by decide) rfl (isReadable_ofElements ?_)
  simp only [fileSetElements, List.forall_mem_append, List.forall_mem_map]
  exact ⟨⟨⟨fun _ _ => isReadable_textElement (by decide) _,
    fun _ _ => isReadable_textElement (by decide) _⟩,
    fun _ _ => isReadable_textElement (by decide) _⟩, fun _ _ => isReadable_optionElement _⟩

theorem isReadable_testElement (test : DeclaredTest) : IsReadable (testElement test) := by
  refine isReadable_tagWith (by decide) (by exact areKeys_name) (isReadable_ofElements ?_)
  simp only [List.forall_mem_append, List.forall_mem_map]
  exact ⟨fun _ _ => isReadable_optionElement _, fun _ _ => isReadable_fileSetElement _⟩

theorem isReadable_columnElement (column : DeclaredColumn) :
    IsReadable (columnElement column) :=
  isReadable_tagWith (by decide) (by exact areKeys_column) (Content.isReadable_ofText _)

theorem isReadable_benchmarkElement (declared : DeclaredBenchmark) :
    IsReadable (benchmarkElement declared) := by
  refine isReadable_tagWith (by decide) (by exact areKeys_benchmark) (isReadable_ofElements ?_)
  simp only [benchmarkElements, List.forall_mem_append, List.forall_mem_map,
    List.forall_mem_singleton]
  refine ⟨⟨⟨fun _ _ => isReadable_optionElement _, fun _ _ => isReadable_fileSetElement _⟩,
    fun _ _ => isReadable_testElement _⟩, ?_⟩
  refine isReadable_tagWith (by decide) rfl (isReadable_ofElements ?_)
  simp only [List.forall_mem_map]
  exact fun _ _ => isReadable_columnElement _

/-- **The document of a definition can be read.** -/
theorem isReadable_document (declared : DeclaredBenchmark) :
    (document declared).isReadable = true := by
  have readable : (document declared).content.isReadable = true :=
    isReadable_ofElements (by simpa using isReadable_benchmarkElement declared)
  have bracket : (document declared).content.written.head? = some '<' := rfl
  refine Document.isReadable_of_content readable ?_
  rw [bracket]
  decide

/-! ### It lays out the definition -/

/-- Elements that all have one name are found by that name and by no other. -/
theorem filter_map_name {α : Type} (make : α → Tag × Content) {name : String}
    (named : ∀ one, (make one).1.name = name) (all : List α) (key : String) :
    (all.map make).filter (fun element => element.1.name == key) =
      if name = key then all.map make else [] := by
  split
  · rename_i same
    exact List.filter_eq_self.2 (by simp [named, same])
  · rename_i same
    exact List.filter_eq_nil_iff.2 (by simp [named, same])

theorem named_ofElements (elements : List (Tag × Content)) (key : String) :
    (Content.ofElements elements).named key =
      elements.filter fun element => element.1.name == key := by
  rw [Content.named, Content.elements_ofElements]

/-- Each element stands for the part that it is written for. -/
theorem forall₂_map {α : Type} {R : Tag × Content → α → Prop} {make : α → Tag × Content}
    (related : ∀ one, R (make one) one) (all : List α) : List.Forall₂ R (all.map make) all := by
  rw [List.forall₂_map_left_iff]
  exact List.forall₂_same.2 fun one _ => related one

theorem isOption_optionElement (option : ToolOption) : IsOption (optionElement option) option where
  name := attribute?_tagWith _ (by exact areKeys_name) _ _
  value := holds_ofText _ _

theorem named_fileSetElement (set : FileSet) (key : String) :
    (fileSetElement set).2.named key =
      (if "include" = key then set.included.map (textElement "include") else []) ++
      (if "includesfile" = key then set.lists.map (textElement "includesfile") else []) ++
      (if "exclude" = key then set.excluded.map (textElement "exclude") else []) ++
      (if "option" = key then set.options.map optionElement else []) := by
  simp only [fileSetElement, named_ofElements, fileSetElements, List.filter_append,
    filter_map_name (textElement "include") fun _ => rfl,
    filter_map_name (textElement "includesfile") fun _ => rfl,
    filter_map_name (textElement "exclude") fun _ => rfl,
    filter_map_name optionElement fun _ => rfl]

theorem isFileSet_fileSetElement (set : FileSet) : IsFileSet (fileSetElement set) set where
  included := by
    simpa [named_fileSetElement] using forall₂_map (holds_textElement _) set.included
  lists := by
    simpa [named_fileSetElement] using forall₂_map (holds_textElement _) set.lists
  excluded := by
    simpa [named_fileSetElement] using forall₂_map (holds_textElement _) set.excluded
  options := by
    simpa [named_fileSetElement] using forall₂_map isOption_optionElement set.options

theorem named_testElement (test : DeclaredTest) (key : String) :
    (testElement test).2.named key =
      (if "option" = key then test.options.map optionElement else []) ++
      (if "sourcefiles" = key then test.fileSets.map fileSetElement else []) := by
  simp only [testElement, named_ofElements, List.filter_append,
    filter_map_name optionElement fun _ => rfl, filter_map_name fileSetElement fun _ => rfl]

theorem isTest_testElement (test : DeclaredTest) : IsTest (testElement test) test where
  name := (attribute?_tagWith _ (by exact areKeys_name) _ _).trans (by simp)
  options := by
    simpa [named_testElement] using forall₂_map isOption_optionElement test.options
  fileSets := by
    simpa [named_testElement] using forall₂_map isFileSet_fileSetElement test.fileSets

theorem isColumn_columnElement (column : DeclaredColumn) :
    IsColumn (columnElement column) column where
  text := holds_ofText _ _
  title := (attribute?_tagWith _ (by exact areKeys_column) _ _).trans (by simp)
  digits := (attribute?_tagWith _ (by exact areKeys_column) _ _).trans (by simp [List.lookup_cons])

theorem named_columnsElement (columns : List DeclaredColumn) :
    (columnsElement columns).2.named "column" = columns.map columnElement := by
  simp [columnsElement, named_ofElements, filter_map_name columnElement fun _ => rfl]

theorem named_benchmarkElement (declared : DeclaredBenchmark) (key : String) :
    (benchmarkElement declared).2.named key =
      (if "option" = key then declared.options.map optionElement else []) ++
      (if "sourcefiles" = key then declared.fileSets.map fileSetElement else []) ++
      (if "test" = key then declared.tests.map testElement else []) ++
      (if "columns" = key then [declared.columns].map columnsElement else []) := by
  simp only [benchmarkElement, named_ofElements, benchmarkElements, List.filter_append,
    filter_map_name optionElement fun _ => rfl, filter_map_name fileSetElement fun _ => rfl,
    filter_map_name testElement fun _ => rfl, filter_map_name columnsElement fun _ => rfl]

/-- **The document of a definition lays it out.** -/
theorem isBenchmark_benchmarkElement (declared : DeclaredBenchmark) :
    IsBenchmark (benchmarkElement declared) declared where
  tool := (attribute?_tagWith _ (by exact areKeys_benchmark) _ _).trans (by simp)
  memoryLimit :=
    (attribute?_tagWith _ (by exact areKeys_benchmark) _ _).trans (by simp [List.lookup_cons])
  timeLimit :=
    (attribute?_tagWith _ (by exact areKeys_benchmark) _ _).trans (by simp [List.lookup_cons])
  options := by
    simpa [named_benchmarkElement] using forall₂_map isOption_optionElement declared.options
  fileSets := by
    simpa [named_benchmarkElement] using forall₂_map isFileSet_fileSetElement declared.fileSets
  tests := by
    simpa [named_benchmarkElement] using forall₂_map isTest_testElement declared.tests
  columns := by
    simpa [named_benchmarkElement, named_columnsElement] using
      forall₂_map isColumn_columnElement declared.columns

/-! ### The round trip -/

/-- **A definition comes back from its text.** Written in the classic layout it is read as
itself, and so it is from any document that can be read and lays it out. -/
theorem ofXml_written {declared : DeclaredBenchmark} (plain : declared.IsPlain) :
    DeclaredBenchmark.ofXml (document declared).written = .ok declared ∧
    ∀ other : Document, other.isReadable = true → IsBenchmark other.root declared →
      DeclaredBenchmark.ofXml other.written = .ok declared := by
  have reads : ∀ other : Document, other.isReadable = true → IsBenchmark other.root declared →
      DeclaredBenchmark.ofXml other.written = .ok declared := fun other readable laid => by
    simp only [DeclaredBenchmark.ofXml, tree_written readable, bind, Except.bind,
      ofElement_of_isBenchmark laid plain]
  exact ⟨reads _ (isReadable_document declared) (isBenchmark_benchmarkElement declared), reads⟩

/-- A definition with an option, a pattern and two columns. -/
def sample : DeclaredBenchmark where
  tool := .cbmc
  timeLimit := some 60
  options := [⟨"--unwind", some "5"⟩]
  fileSets := [{ included := ["a<b/*.c"] }]
  columns := [{ text := "time", title := some "\"t\"", digits := some 2 }, { text := "cost" }]

/-- The same laid out otherwise: the columns in two blocks, one of them in front, a remark and an
unknown element between the others, and blanks around a value. -/
def rearranged : Document where
  content :=
    .element ⟨"benchmark", " tool='cbmc' timelimit=\"60\"".toList⟩
      (.element ⟨"columns", []⟩
        (.element ⟨"column", " numberOfDigits=\"2\" title=\"&quot;t&quot;\"".toList⟩
          (.text "time".toList .nil) .nil)
        (.aside "!-- <option/> --".toList
          (.element ⟨"option", " name=\"--unwind\"".toList⟩ (.text " 5\n".toList .nil)
            (.element ⟨"note", []⟩ (.selfClosing ⟨"option", []⟩ .nil)
              (.element ⟨"sourcefiles", []⟩
                (.element ⟨"include", []⟩ (.verbatim "a<b/*.c".toList .nil) .nil)
                (.element ⟨"columns", []⟩
                  (.element ⟨"column", []⟩ (.text "cost".toList .nil) .nil)
                  .nil)))))) .nil
  root := _
  isRoot := rfl

/-- The sample comes back from its own text and from that of the other document. -/
theorem ofXml_written_sample :
    sample.IsPlain ∧ rearranged.isReadable = true ∧ IsBenchmark rearranged.root sample ∧
    DeclaredBenchmark.ofXml (document sample).written = .ok sample ∧
    DeclaredBenchmark.ofXml rearranged.written = .ok sample := by
  have plain : sample.IsPlain := by
    constructor <;> simp [sample, ToolOption.IsPlain, FileSet.IsPlain, DeclaredColumn.IsPlain] <;>
      decide
  have readable : rearranged.isReadable = true := by decide
  have laid : IsBenchmark rearranged.root sample :=
    { tool := by decide
      memoryLimit := by decide
      timeLimit := by decide
      options := .cons ⟨by decide, [' '], ['\n'], List.forall_mem_singleton.2 rfl,
        List.forall_mem_singleton.2 rfl, rfl⟩ .nil
      fileSets := .cons ⟨.cons (holds_of_directText_eq rfl) .nil, .nil, .nil, .nil⟩ .nil
      tests := .nil
      columns := .cons ⟨holds_of_directText_eq rfl, by decide, by decide⟩
        (.cons ⟨holds_of_directText_eq rfl, by decide, by decide⟩ .nil) }
  obtain ⟨own, other⟩ := ofXml_written plain
  exact ⟨plain, readable, laid, own, other _ readable laid⟩

end ClassicLayout

end VerifierTrials
