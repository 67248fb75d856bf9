import VerifierTrials.Proofs.Xml.Scanning
import VerifierTrials.Xml.Printer

/-!
# Values written into markup

A text that has been escaped reads as itself (`Xml.unescape?_escape`), and it contains neither a
bracket that opens markup nor a double quote. So a tag whose attributes are written as the
benchmark writes them (`Xml.tagOf`) is read as that tag, and has those attributes
(`Xml.attributes?_tagOf`), whatever their values are. The names of elements are taken to be made
of letters, as all of them in definitions and in reports are (`Xml.isName`). The keys of
attributes may be more (`Xml.isKey`): whatever XML calls a name (`Xml.isXmlName`) is a key.
-/

namespace VerifierTrials.Xml

open VerifierTrials.Text

/-! ### Entities -/

/-- An entity's name contains neither end of an entity, and stands for its character. -/
theorem entity?_of_mem_namedEntities : ∀ e ∈ namedEntities,
    entity? e.2.toList = some e.1 ∧ e.2.toList.all (fun c => c != ';' && c != '&') = true := by
  decide

/-- The characters of an entity whose character has been put in are passed over. -/
theorem unescapeFrom_append (passed rest : List Char) :
    unescapeFrom passed.length (passed ++ rest) = unescapeFrom 0 rest := by
  induction passed with
  | nil => rfl
  | cons c passed ih => exact ih

theorem unescapeFrom_escapeChar (c : Char) (rest : List Char) :
    unescapeFrom 0 (escapeChar c ++ rest) = (unescapeFrom 0 rest).map (c :: ·) := by
  unfold escapeChar
  cases found : namedEntities.find? fun e => e.1 = c with
  | some e =>
    obtain ⟨value, plain⟩ := entity?_of_mem_namedEntities e (List.mem_of_find?_eq_some found)
    obtain rfl : e.1 = c := by simpa using List.find?_some found
    have inside : (e.2.toList ++ ';' :: rest).takeWhile (fun d => d != ';' && d != '&') =
        e.2.toList := by
      rw [List.takeWhile_append_of_pos (List.all_eq_true.1 plain)]
      simp
    have skipped : unescapeFrom (e.2.toList.length + 1) (e.2.toList ++ ';' :: rest) =
        unescapeFrom 0 rest := by
      simpa using unescapeFrom_append (e.2.toList ++ [';']) rest
    simp only [List.cons_append, List.append_assoc, List.nil_append]
    rw [unescapeFrom, if_pos rfl]
    simp only [inside, skipped, value]
    simp
    cases unescapeFrom 0 rest <;> rfl
  | none =>
    have other : c ≠ '&' := by
      rintro rfl
      revert found
      decide
    rw [List.singleton_append, unescapeFrom, if_neg other]

/-- **An escaped text reads as itself.** -/
theorem unescape?_escape (s : List Char) : unescape? (escape s) = some s := by
  rw [unescape?, escape]
  induction s with
  | nil => rfl
  | cons c s ih => rw [List.flatMap_cons, unescapeFrom_escapeChar, ih, Option.map_some]

/-- A text without an ampersand reads as itself. -/
theorem unescape?_of_not_mem {s : List Char} (absent : '&' ∉ s) : unescape? s = some s := by
  rw [unescape?]
  induction s with
  | nil => rfl
  | cons c s ih =>
    rw [List.mem_cons, not_or] at absent
    rw [unescapeFrom, if_neg (Ne.symm absent.1), ih absent.2, Option.map_some]

/-- A character that has an entity does not occur in an escaped text, but for the ampersand. -/
theorem not_mem_escape {d : Char} (named : (namedEntities.find? fun e => e.1 = d).isSome)
    (other : d ≠ '&') (s : List Char) : d ∉ escape s := by
  have plain : ∀ e ∈ namedEntities, ('&' :: (e.2.toList ++ [';'])).all fun c =>
      c == '&' || (namedEntities.find? fun e => e.1 = c).isNone := by decide
  rw [escape, List.mem_flatMap]
  rintro ⟨c, -, among⟩
  unfold escapeChar at among
  split at among
  · rename_i e name found
    have inEntity := List.all_eq_true.1 (plain _ (List.mem_of_find?_eq_some found)) d among
    rw [Bool.or_eq_true, beq_iff_eq, ← Option.not_isSome, named] at inEntity
    exact inEntity.elim other nofun
  · rename_i found
    rw [List.mem_singleton] at among
    subst among
    rw [found] at named
    cases named

theorem escape_ne_nil {s : List Char} (nonempty : s ≠ []) : escape s ≠ [] := by
  intro empty
  have := unescape?_escape s
  rw [empty] at this
  exact nonempty (Option.some.inj this).symm

/-! ### Names -/

/-- Whether a text is a name: letters only, and at least one. -/
def isName (s : String) : Bool := !s.toList.isEmpty && s.toList.all Char.isAlpha

/-- A letter is none of the characters that mean something to markup. -/
theorem isAlpha_ne {c d : Char} (letter : c.isAlpha = true) (noLetter : d.isAlpha = false) :
    c ≠ d := by
  rintro rfl
  rw [letter] at noLetter
  cases noLetter

theorem isMarkupSpace_of_isAlpha {c : Char} (letter : c.isAlpha = true) :
    isMarkupSpace c = false := by
  simp [isMarkupSpace, isAlpha_ne letter (d := ' ') rfl, isAlpha_ne letter (d := '\r') rfl,
    isAlpha_ne letter (d := '\n') rfl, isAlpha_ne letter (d := '\t') rfl]

/-- A name begins with a letter and goes on with letters. -/
theorem exists_of_isName {name : String} (named : isName name = true) :
    ∃ first more, name.toList = first :: more ∧ ∀ c ∈ first :: more, c.isAlpha = true := by
  simp only [isName, Bool.and_eq_true, Bool.not_eq_true', List.isEmpty_eq_false_iff,
    List.all_eq_true] at named
  obtain ⟨nonempty, letters⟩ := named
  cases split : name.toList with
  | nil => exact absurd split nonempty
  | cons first more => exact ⟨first, more, rfl, split ▸ letters⟩

/-- Whether a character ends the key of an attribute, ends the tag around it, or opens quotes. -/
def endsKey (c : Char) : Bool := isMarkupSpace c || ['=', '>', '"', '\''].contains c

/-- **Whether a text can be the key of an attribute**: it is not empty, and nothing in it ends
it. -/
def isKey (s : String) : Bool := !s.toList.isEmpty && s.toList.all fun c => !endsKey c

theorem endsKey_iff {c : Char} :
    endsKey c = true ↔ c ∈ [' ', '\r', '\n', '\t', '=', '>', '"', '\''] := by
  simp [endsKey, isMarkupSpace, or_assoc]

/-- A key begins with a character and goes on with others, none of which ends it. -/
theorem exists_of_isKey {key : String} (keyed : isKey key = true) :
    ∃ first more, key.toList = first :: more ∧ ∀ c ∈ first :: more, endsKey c = false := by
  simp only [isKey, Bool.and_eq_true, Bool.not_eq_true', List.isEmpty_eq_false_iff,
    List.all_eq_true] at keyed
  obtain ⟨nonempty, passed⟩ := keyed
  cases split : key.toList with
  | nil => exact absurd split nonempty
  | cons first more => exact ⟨first, more, rfl, split ▸ passed⟩

/-- What none of the ending characters satisfies holds of characters in keys only. -/
theorem endsKey_eq_false_of {p : Char → Bool}
    (none_ : [' ', '\r', '\n', '\t', '=', '>', '"', '\''].any p = false) {c : Char}
    (holds : p c = true) : endsKey c = false := by
  rw [Bool.eq_false_iff, ne_eq, endsKey_iff]
  exact fun ends => List.any_eq_false.1 none_ c ends holds

theorem endsKey_of_isAlpha {c : Char} (letter : c.isAlpha = true) : endsKey c = false :=
  endsKey_eq_false_of (by decide) letter

theorem isKey_of_isName {name : String} (named : isName name = true) : isKey name = true := by
  simp only [isName, isKey, Bool.and_eq_true, List.all_eq_true] at named ⊢
  exact ⟨named.1, fun c among => by rw [endsKey_of_isAlpha (named.2 c among), Bool.not_false]⟩

/-- The numbers of the characters that a name may begin with in XML, range by range. -/
def nameStartRanges : List (Nat × Nat) :=
  [(0x3A, 0x3A), (0x41, 0x5A), (0x5F, 0x5F), (0x61, 0x7A), (0xC0, 0xD6), (0xD8, 0xF6),
    (0xF8, 0x2FF), (0x370, 0x37D), (0x37F, 0x1FFF), (0x200C, 0x200D), (0x2070, 0x218F),
    (0x2C00, 0x2FEF), (0x3001, 0xD7FF), (0xF900, 0xFDCF), (0xFDF0, 0xFFFD), (0x10000, 0xEFFFF)]

/-- The numbers of the characters that a name may go on with in XML. -/
def nameRanges : List (Nat × Nat) :=
  nameStartRanges ++
    [(0x2D, 0x2E), (0x30, 0x39), (0xB7, 0xB7), (0x300, 0x36F), (0x203F, 0x2040)]

/-- Whether the number of a character lies in one of some ranges. -/
def isWithin (ranges : List (Nat × Nat)) (c : Char) : Bool :=
  ranges.any fun range => range.1 ≤ c.toNat && c.toNat ≤ range.2

/-- **Whether a text is a name in XML.** -/
def isXmlName (s : String) : Bool :=
  match s.toList with
  | [] => false
  | first :: more => isWithin nameStartRanges first && more.all (isWithin nameRanges)

/-- **A name in XML is a key.** -/
theorem isKey_of_isXmlName {name : String} (named : isXmlName name = true) : isKey name = true := by
  unfold isXmlName at named
  split at named
  · cases named
  · rename_i first more parts
    simp only [Bool.and_eq_true, List.all_eq_true] at named
    have within : ∀ c ∈ first :: more, isWithin nameRanges c = true := by
      rw [List.forall_mem_cons]
      refine ⟨?_, named.2⟩
      rw [isWithin, nameRanges, List.any_append, Bool.or_eq_true]
      exact Or.inl named.1
    simp only [isKey, parts, List.isEmpty_cons, Bool.not_false, Bool.true_and, List.all_eq_true]
    exact fun c among => by rw [endsKey_eq_false_of (by decide) (within c among), Bool.not_false]

/-! ### Attributes -/

/-- **A tag with attributes**, written as the benchmark writes them. -/
def tagOf (name : String) (attributes : List (String × String)) : Tag :=
  ⟨name, (attributesText attributes).toList⟩

/-- An attribute as it is written. -/
def attributeWritten (entry : String × String) : List Char :=
  ' ' :: (entry.1.toList ++ '=' :: '"' :: (escape entry.2.toList ++ ['"']))

theorem attributeWritten_eq (entry : String × String) :
    attributeWritten entry =
      (' ' :: (entry.1.toList ++ '=' :: '"' :: escape entry.2.toList)) ++ ['"'] := by
  simp [attributeWritten]

theorem toList_attributesText (attributes : List (String × String)) :
    (attributesText attributes).toList = attributes.flatMap attributeWritten := by
  induction attributes with
  | nil => rfl
  | cons entry attributes ih =>
    rw [attributesText, List.map_cons, String.join_cons, String.toList_append,
      List.flatMap_cons, ← ih]
    simp [attributesText, attributeWritten]

theorem quote_not_mem_escape (s : List Char) : '"' ∉ escape s :=
  not_mem_escape (by decide) (by decide) s

/-- A written attribute is read up to its closing quote. -/
theorem readAttribute?_written {entry : String × String} (keyed : isKey entry.1 = true)
    (rest : List Char) :
    readAttribute? (entry.1.toList ++ '=' :: '"' :: (escape entry.2.toList ++ '"' :: rest)) =
      some ((entry.1.toList, escape entry.2.toList), rest) := by
  obtain ⟨first, more, split, passed⟩ := exists_of_isKey keyed
  have moreKey : ∀ c ∈ more, (c != '=' && !isMarkupSpace c) = true := fun c among => by
    have ends := passed c (List.mem_cons_of_mem _ among)
    simp only [endsKey, Bool.or_eq_false_iff, List.contains_cons] at ends
    rw [bne, ends.1, ends.2.1, Bool.not_false, Bool.and_true]
  have keyRead : (more ++ '=' :: '"' :: (escape entry.2.toList ++ '"' :: rest)).takeWhile
      (fun c => c != '=' && !isMarkupSpace c) = more := by
    rw [List.takeWhile_append_of_pos moreKey]
    simp
  have valueRead : (escape entry.2.toList ++ '"' :: rest).takeWhile (· != '"') =
      escape entry.2.toList := by
    rw [List.takeWhile_append_of_pos fun c among => by
      simpa using fun keyed : c = '"' => quote_not_mem_escape _ (keyed ▸ among)]
    simp
  have equals : ('=' :: '"' :: (escape entry.2.toList ++ '"' :: rest)).dropWhile isMarkupSpace =
      '=' :: '"' :: (escape entry.2.toList ++ '"' :: rest) := rfl
  have quote : ('"' :: (escape entry.2.toList ++ '"' :: rest)).dropWhile isMarkupSpace =
      '"' :: (escape entry.2.toList ++ '"' :: rest) := rfl
  rw [split, List.cons_append, readAttribute?]
  simp [keyRead, valueRead, equals, quote]

theorem readAttributes?_written {attributes : List (String × String)}
    (keyed : ∀ entry ∈ attributes, isKey entry.1 = true)
    (distinct : (attributes.map Prod.fst).Nodup)
    (seen : List (List Char)) (unseen : ∀ entry ∈ attributes, entry.1.toList ∉ seen)
    (bound : Nat) (bounded : attributes.length ≤ bound) :
    readAttributes? bound seen (attributes.flatMap attributeWritten) =
      some (attributes.map fun entry => (entry.1.toList, escape entry.2.toList)) := by
  induction attributes generalizing seen bound with
  | nil => cases bound <;> rfl
  | cons entry attributes ih =>
    simp only [List.forall_mem_cons] at keyed unseen
    rw [List.map_cons, List.nodup_cons] at distinct
    obtain ⟨first, more, split, passed⟩ := exists_of_isKey keyed.1
    cases bound with
    | zero => simp at bounded
    | succ bound =>
      have fresh : ∀ other ∈ attributes, other.1.toList ∉ entry.1.toList :: seen := by
        intro other among
        rw [List.mem_cons, not_or]
        refine ⟨fun same => distinct.1 ?_, unseen.2 other among⟩
        rw [← String.toList_injective same]
        exact List.mem_map_of_mem among
      have further :=
        ih keyed.2 distinct.2 (entry.1.toList :: seen) fresh bound (by simpa using bounded)
      have begins : ((entry :: attributes).flatMap attributeWritten).dropWhile isMarkupSpace =
          entry.1.toList ++ '=' :: '"' ::
            (escape entry.2.toList ++ '"' :: attributes.flatMap attributeWritten) := by
        have firstKey : isMarkupSpace first = false :=
          (Bool.or_eq_false_iff.1 (passed first List.mem_cons_self)).1
        simp [attributeWritten, split, firstKey, show isMarkupSpace ' ' = true from rfl]
      have first_ := readAttribute?_written keyed.1 (attributes.flatMap attributeWritten)
      have new : seen.contains entry.1.toList = false := by simpa using unseen.1
      rw [readAttributes?, begins]
      rw [split, List.cons_append] at first_ ⊢
      rw [split] at further new
      simp only [first_, Option.bind_eq_bind, Option.bind_some, new, further, List.map_cons, split]
      rfl

/-- The attributes of a written tag, with their values as they are written. -/
theorem readAttributes?_tagOf (name : String) {attributes : List (String × String)}
    (keyed : ∀ entry ∈ attributes, isKey entry.1 = true)
    (distinct : (attributes.map Prod.fst).Nodup) :
    readAttributes? (tagOf name attributes).attributeText.length []
        (tagOf name attributes).attributeText =
      some (attributes.map fun entry => (entry.1.toList, escape entry.2.toList)) := by
  -- Reading is bounded by the number of characters, of which every attribute has some.
  have bounded : attributes.length ≤ (attributes.flatMap attributeWritten).length := by
    clear keyed distinct
    induction attributes with
    | nil => simp
    | cons entry attributes ih =>
      simp only [List.flatMap_cons, List.length_append, List.length_cons, attributeWritten]
      omega
  rw [tagOf, toList_attributesText, readAttributes?_written keyed distinct [] (by simp) _ bounded]

/-- **The attributes of a written tag** are those it was written with. -/
theorem attributes?_tagOf (name : String) {attributes : List (String × String)}
    (keyed : ∀ entry ∈ attributes, isKey entry.1 = true)
    (distinct : (attributes.map Prod.fst).Nodup) :
    (tagOf name attributes).attributes? = some attributes := by
  rw [Tag.attributes?, readAttributes?_tagOf name keyed distinct]
  simp only [Option.bind_eq_bind, Option.bind_some]
  clear keyed distinct
  induction attributes with
  | nil => rfl
  | cons entry attributes ih =>
    simp only [List.map_cons, List.mapM_cons, unescape?_escape, String.ofList_toList,
      Option.bind_eq_bind, Option.bind_some, ih]
    rfl

/-! ### Tags -/

/-- Whether a text can be passed on the way to the bracket that ends a tag. -/
def IsPassed (s : List Char) : Prop :=
  ∀ rest, untilBracket? none (s ++ rest) =
    (untilBracket? none rest).map fun (inner, after) => (s ++ inner, after)

theorem IsPassed.nil : IsPassed [] := fun rest => by simp

theorem IsPassed.append {s t : List Char} (first : IsPassed s) (second : IsPassed t) :
    IsPassed (s ++ t) := fun rest => by
  rw [List.append_assoc, first, second, Option.map_map]
  simp [Function.comp_def, List.append_assoc]

theorem IsPassed.singleton {c : Char} (noBracket : c ≠ '>') (noQuote : c ≠ '"')
    (noSingle : c ≠ '\'') : IsPassed [c] := fun rest => by
  rw [List.singleton_append]
  rw [untilBracket?.eq_def]
  simp [noBracket, noQuote, noSingle]

/-- A text without the double quote is passed between two of them. -/
theorem IsPassed.quoted {s : List Char} (absent : '"' ∉ s) : IsPassed ('"' :: (s ++ ['"'])) := by
  -- Behind the opening quote, only the next quote matters.
  have inside : ∀ rest, untilBracket? (some '"') (s ++ '"' :: rest) =
      (untilBracket? none rest).map fun (inner, after) => (s ++ '"' :: inner, after) := by
    intro rest
    induction s with
    | nil => simp [untilBracket?]
    | cons c s ih =>
      rw [List.mem_cons, not_or] at absent
      rw [List.cons_append]
      rw [untilBracket?.eq_def]
      simp [Ne.symm absent.1, ih absent.2, Function.comp_def]
  intro rest
  have := inside rest
  simp only [List.cons_append, List.append_assoc, List.nil_append]
  rw [untilBracket?.eq_def]
  simp [this, Function.comp_def]

/-- What ends no key is passed. -/
theorem IsPassed.of_endsKey {s : List Char} (passed : ∀ c ∈ s, endsKey c = false) : IsPassed s := by
  induction s with
  | nil => exact .nil
  | cons c s ih =>
    rw [List.forall_mem_cons] at passed
    have apart : ∀ d, endsKey d = true → c ≠ d := by
      rintro d ends rfl
      rw [passed.1] at ends
      cases ends
    exact .append (.singleton (apart _ rfl) (apart _ rfl) (apart _ rfl)) (ih passed.2)

theorem IsPassed.of_isAlpha {s : List Char} (letters : ∀ c ∈ s, c.isAlpha = true) : IsPassed s :=
  .of_endsKey fun c among => endsKey_of_isAlpha (letters c among)

theorem IsPassed.attributeWritten {entry : String × String} (keyed : isKey entry.1 = true) :
    IsPassed (attributeWritten entry) := by
  obtain ⟨first, more, split, passed⟩ := exists_of_isKey keyed
  have key : IsPassed entry.1.toList := .of_endsKey (split ▸ passed)
  have space : IsPassed [' '] := .singleton (by decide) (by decide) (by decide)
  have equals : IsPassed ['='] := .singleton (by decide) (by decide) (by decide)
  have := space.append (key.append (equals.append (.quoted (quote_not_mem_escape entry.2.toList))))
  simpa [Xml.attributeWritten] using this

section Tags

variable {name : String} {attributes : List (String × String)}

theorem written_tagOf (name : String) (attributes : List (String × String)) :
    (tagOf name attributes).written = name.toList ++ attributes.flatMap attributeWritten := by
  rw [Tag.written, tagOf, toList_attributesText]

theorem isPassed_written_tagOf (named : isName name = true)
    (keyed : ∀ entry ∈ attributes, isKey entry.1 = true) :
    IsPassed (tagOf name attributes).written := by
  obtain ⟨first, more, split, letters⟩ := exists_of_isName named
  rw [written_tagOf]
  refine .append (.of_isAlpha (split ▸ letters)) ?_
  clear named split letters
  induction attributes with
  | nil => exact .nil
  | cons entry attributes ih =>
    rw [List.forall_mem_cons] at keyed
    exact .append (.attributeWritten keyed.1) (ih keyed.2)

/-- The name of a written tag ends where its attributes begin. -/
theorem takeWhile_written_tagOf (named : isName name = true) :
    (tagOf name attributes).written.takeWhile (fun c => !isMarkupSpace c) = name.toList := by
  obtain ⟨first, more, split, letters⟩ := exists_of_isName named
  rw [written_tagOf, List.takeWhile_append_of_pos fun c among => by
    simp [isMarkupSpace_of_isAlpha (letters c (split ▸ among))]]
  cases attributes with
  | nil => simp
  | cons entry attributes =>
    simp [attributeWritten, show isMarkupSpace ' ' = true from rfl]

/-- A written tag ends in a letter or in a quote. -/
theorem getLast?_written_tagOf (named : isName name = true) :
    (tagOf name attributes).written.getLast? ≠ some '/' := by
  obtain ⟨first, more, split, letters⟩ := exists_of_isName named
  have noSlash : name.toList.getLast? ≠ some '/' := fun last =>
    isAlpha_ne (letters '/' (split ▸ List.mem_of_getLast? last)) (d := '/') rfl rfl
  rw [written_tagOf]
  generalize name.toList = s at noSlash
  clear named split letters
  induction attributes generalizing s with
  | nil => simpa using noSlash
  | cons entry attributes ih =>
    rw [List.flatMap_cons, ← List.append_assoc]
    refine ih _ ?_
    rw [attributeWritten_eq, ← List.append_assoc, List.getLast?_concat]
    decide

theorem tagEvent_written (tag : Tag)
    (named : tag.written.takeWhile (fun c => !isMarkupSpace c) = tag.name.toList)
    (noSlash : tag.written.getLast? ≠ some '/') : tagEvent tag.written = .opening tag := by
  simp only [tagEvent, noSlash, if_false, named, String.ofList_toList]
  rw [Tag.written, List.drop_left]

/-- A slash at the end of a tag is none of its attributes. -/
theorem tagEvent_written_slash (tag : Tag)
    (named : tag.written.takeWhile (fun c => !isMarkupSpace c) = tag.name.toList) :
    tagEvent (tag.written ++ ['/']) = .selfClosing tag := by
  simp only [tagEvent, List.getLast?_concat, if_true, List.dropLast_concat, named,
    String.ofList_toList]
  rw [Tag.written, List.drop_left]

/-- Behind a bracket, a letter begins a tag. -/
theorem readMarkup?_of_isAlpha {first : Char} (letter : first.isAlpha = true) (s : List Char) :
    readMarkup? (first :: s) =
      (untilBracket? none (first :: s)).map fun (inner, rest) => (tagEvent inner, rest) := by
  rw [readMarkup?.eq_5]
  · intro same
    cases same
  all_goals
    intro body same
    obtain ⟨rfl, -⟩ := List.cons_eq_cons.1 same
    exact isAlpha_ne letter rfl rfl

/-- The bracket that ends a tag is the one behind it. -/
theorem readMarkup?_of_isPassed {first : Char} {s : List Char} (letter : first.isAlpha = true)
    (passed : IsPassed (first :: s)) :
    readMarkup? (first :: s ++ ['>']) = some (tagEvent (first :: s), []) := by
  have := passed ['>']
  rw [List.cons_append] at this ⊢
  rw [readMarkup?_of_isAlpha letter, this]
  simp [untilBracket?]

theorem exists_written_tagOf (named : isName name = true) (attributes : List (String × String)) :
    ∃ first more, (tagOf name attributes).written = first :: more ∧ first.isAlpha = true := by
  obtain ⟨first, more, split, letters⟩ := exists_of_isName named
  exact ⟨first, more ++ attributes.flatMap attributeWritten, by simp [written_tagOf, split],
    letters first List.mem_cons_self⟩

/-- **A written tag is read as such.** -/
theorem isMarkupFor_opening (named : isName name = true)
    (keyed : ∀ entry ∈ attributes, isKey entry.1 = true) :
    isMarkupFor (.opening (tagOf name attributes)) (tagOf name attributes).written = true := by
  have passed := isPassed_written_tagOf named keyed
  have event := tagEvent_written (tagOf name attributes) (takeWhile_written_tagOf named)
    (getLast?_written_tagOf named)
  obtain ⟨first, more, split, letter⟩ := exists_written_tagOf named attributes
  rw [split] at passed event ⊢
  rw [isMarkupFor, readMarkup?_of_isPassed letter passed, event, beq_self_eq_true]

/-- **A written tag with a slash at its end** is read as one that closes itself. -/
theorem isMarkupFor_selfClosing (named : isName name = true)
    (keyed : ∀ entry ∈ attributes, isKey entry.1 = true) :
    isMarkupFor (.selfClosing (tagOf name attributes))
      ((tagOf name attributes).written ++ ['/']) = true := by
  have slash : IsPassed ['/'] := .singleton (by decide) (by decide) (by decide)
  have passed := (isPassed_written_tagOf named keyed).append slash
  have event := tagEvent_written_slash (tagOf name attributes) (takeWhile_written_tagOf named)
  obtain ⟨first, more, split, letter⟩ := exists_written_tagOf named attributes
  rw [split, List.cons_append] at passed event ⊢
  rw [isMarkupFor, readMarkup?_of_isPassed letter passed, event, beq_self_eq_true]

theorem isMarkupFor_closing (named : isName name = true) :
    isMarkupFor (.closing name) (closingText name) = true := by
  obtain ⟨first, more, split, letters⟩ := exists_of_isName named
  have passed : IsPassed name.toList := .of_isAlpha (split ▸ letters)
  have noSpace : name.toList.reverse.dropWhile isMarkupSpace = name.toList.reverse := by
    cases reversed : name.toList.reverse with
    | nil => rfl
    | cons c cs =>
      have among : c ∈ name.toList := List.mem_reverse.1 (reversed ▸ List.mem_cons_self)
      simp [isMarkupSpace_of_isAlpha (letters c (split ▸ among))]
  have event : closingEvent name.toList = .closing name := by
    simp [closingEvent, noSpace]
  have := passed ['>']
  rw [isMarkupFor, closingText, List.cons_append, readMarkup?, this]
  simp [untilBracket?, event]

end Tags

end VerifierTrials.Xml
