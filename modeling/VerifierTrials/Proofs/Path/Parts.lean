import Mathlib.Data.List.Basic
import VerifierTrials.Proofs.Path.Expansion
import VerifierTrials.Proofs.Path.References
import VerifierTrials.Proofs.Path.Routes

/-!
# The parts of a pattern

A pattern is taken as a list of **parts** (`Path.Part`), one for each of its components, of which
the first may stand for the home directory. Its parts are expanded one by one as long as no
reference reaches over a slash, that is, as long as none opens a brace in one part that is closed in
a later one (`Path.AreApart`, `Path.expand_eq_join`). Then what a pattern is expanded to leads where
its parts lead, one behind the other (`Path.resolve_expand`).
-/

namespace VerifierTrials.Path

open VerifierTrials.Text

variable {env : Environment} {path : String}

/-! ### References between slashes -/

/-- A text that closes the braces of each reference that it opens. -/
def IsClosed (s : String) : Prop := ∀ inner, '$' :: '\x7b' :: inner <:+ s.toList → '\x7d' ∈ inner

/-- **Texts with no reference that reaches from one of them into a later one.** -/
def AreApart (parts : List String) : Prop :=
  parts.Pairwise fun part later => IsClosed part ∨ '\x7d' ∉ later.toList

theorem isClosed_of_not_mem {s : String} (noDollar : '$' ∉ s.toList) : IsClosed s :=
  fun _ reference => absurd (reference.subset List.mem_cons_self) noDollar

theorem isWord_slash : isWord '/' = false := by decide

/-- A dollar sign that begins no reference begins none with a slash behind the text. -/
theorem not_beginsReference_append {s t : List Char} (none_ : ¬BeginsReference s)
    (closed : ∀ inner, s = '\x7b' :: inner → '\x7d' ∈ inner ∨ '\x7d' ∉ t) :
    ¬BeginsReference (s ++ '/' :: t) := by
  rintro (⟨c, first, word⟩ | ⟨more, same, brace⟩)
  · cases s with
    | nil =>
      obtain rfl : '/' = c := by simpa using first
      rw [isWord_slash] at word
      cases word
    | cons d s => exact none_ (.inl ⟨c, first, word⟩)
  · cases s with
    | nil => exact absurd (List.cons.inj same).1 (by decide)
    | cons d s =>
      obtain ⟨rfl, rfl⟩ := List.cons.inj same
      have inside : '\x7d' ∈ s ∨ '\x7d' ∈ t := by simpa using brace
      rcases closed s rfl with within | outside
      · exact none_ (.inr ⟨s, rfl, within⟩)
      · exact none_ (.inr ⟨s, rfl, inside.resolve_right outside⟩)

/-- Pieces before a slash still fit when something follows the slash. -/
theorem Fit.append_slash {pieces more : List Piece} (fit : Fit pieces) (fit' : Fit more)
    (closed : ∀ inner, '$' :: '\x7b' :: inner <:+ pieces.flatMap Piece.text →
      '\x7d' ∈ inner ∨ '\x7d' ∉ more.flatMap Piece.text) :
    Fit (pieces ++ .plain '/' :: more) := by
  induction pieces with
  | nil => exact ⟨fun dollar => absurd dollar (by decide), fit'⟩
  | cons piece pieces ih =>
    have rest : (pieces ++ .plain '/' :: more).flatMap Piece.text =
        pieces.flatMap Piece.text ++ '/' :: more.flatMap Piece.text := by
      rw [List.flatMap_append, List.flatMap_cons]
      rfl
    refine ⟨?_, ih fit.2 fun inner reference => closed inner
      (reference.trans (List.suffix_append piece.text _))⟩
    change piece.Fits ((pieces ++ .plain '/' :: more).flatMap Piece.text)
    rw [rest]
    have fits := fit.1
    cases piece with
    | plain c =>
      intro dollar
      refine not_beginsReference_append (fits dollar) fun inner same => closed inner ?_
      rw [List.flatMap_cons, same, dollar]
      exact List.suffix_rfl
    | named name =>
      obtain ⟨some_, run, ends⟩ := fits
      refine ⟨some_, run, fun c first => ?_⟩
      cases empty : pieces.flatMap Piece.text with
      | nil =>
        rw [empty] at first
        obtain rfl : '/' = c := by simpa using first
        exact isWord_slash
      | cons d s =>
        rw [empty] at first ends
        exact ends c first
    | braced inner => exact fits

/-- **Expansion goes on anew behind a slash** that stands in no reference. -/
theorem expandVariables_slash {s t : String} (closed : IsClosed s ∨ '\x7d' ∉ t.toList) :
    expandVariables env (s ++ "/" ++ t) =
      expandVariables env s ++ "/" ++ expandVariables env t := by
  obtain ⟨pieces, whole, fit⟩ := exists_isReading s
  obtain ⟨more, whole', fit'⟩ := exists_isReading t
  have fits : Fit (pieces ++ .plain '/' :: more) := by
    refine fit.append_slash fit' fun inner reference => ?_
    rw [whole] at reference
    rw [whole']
    exact closed.imp (fun closed => closed inner reference) id
  have joined : (pieces ++ .plain '/' :: more).flatMap Piece.text = (s ++ "/" ++ t).toList := by
    rw [List.flatMap_append, List.flatMap_cons, whole, whole']
    simp [Piece.text]
  rw [← String.toList_inj]
  simp only [expandVariables, String.toList_ofList, String.toList_append]
  rw [← String.toList_append, ← String.toList_append, ← joined, expandFrom_pieces fits, ← whole,
    expandFrom_pieces fit, ← whole', expandFrom_pieces fit', List.flatMap_append, List.flatMap_cons,
    List.append_assoc]
  rfl

theorem expandVariables_of_not_mem {s : String} (noDollar : '$' ∉ s.toList) :
    expandVariables env s = s := by
  have kept : ∀ cs : List Char, '$' ∉ cs → expandFrom env 0 cs = cs := by
    intro cs none_
    induction cs with
    | nil => rfl
    | cons c cs ih =>
      obtain ⟨other, none_⟩ := List.ne_and_not_mem_of_not_mem_cons none_
      rw [expandFrom, if_neg (Ne.symm other), ih none_]
  rw [expandVariables, kept _ noDollar, String.ofList_toList]

theorem not_mem_join {c : Char} (other : c ≠ '/') {parts : List String}
    (none_ : ∀ part ∈ parts, c ∉ part.toList) : c ∉ (Text.join "/" parts).toList := by
  by_cases empty : parts = []
  · subst empty
    exact List.not_mem_nil
  · have slash : "/".toList = ['/'] := rfl
    rw [← List.contains_iff_mem, List.contains_eq_any_beq, ← any_pieces (by simpa using other),
      pieces_join slash empty, List.any_eq_true]
    rintro ⟨piece, among, inside⟩
    obtain ⟨part, within, among⟩ := List.mem_flatMap.mp among
    rw [← List.contains_eq_any_beq, List.contains_iff_mem] at inside
    exact none_ part within (subset_of_mem_pieces among inside)

/-- **Texts that are apart are expanded one by one.** -/
theorem expandVariables_join {parts : List String} (apart : AreApart parts) :
    expandVariables env (Text.join "/" parts) =
      Text.join "/" (parts.map (expandVariables env)) := by
  induction parts with
  | nil => exact expandVariables_of_not_mem (by decide)
  | cons part parts ih =>
    by_cases last : parts = []
    · subst last
      simp [Text.join]
    · obtain ⟨closed, apart⟩ := List.pairwise_cons.mp apart
      have goesOn : IsClosed part ∨ '\x7d' ∉ (Text.join "/" parts).toList := by
        by_cases open_ : IsClosed part
        · exact .inl open_
        · exact .inr (not_mem_join (by decide) fun later among =>
            (closed later among).resolve_left open_)
      rw [join_cons last, expandVariables_slash goesOn, ih apart, List.map_cons,
        join_cons (by simpa using last)]

/-! ### Parts of a pattern -/

/-- A component of a pattern: as it is written, and with the home directory put in for it where it
is a tilde at the front. -/
structure Part where
  written : String
  meant : String
  deriving DecidableEq

/-- What a part is expanded to. -/
def Part.expanded (env : Environment) (part : Part) : String := expandVariables env part.meant

/-- A part that no home directory is put in for. -/
def Part.IsOwn (part : Part) : Prop := part.meant = part.written

/-- A component that is not at the front. -/
def Part.later (component : String) : Part := ⟨component, component⟩

/-- **The parts of a pattern.** Only the first one may be a home directory. -/
def partsOf (env : Environment) (path : String) : List Part :=
  match components path with
  | [] => []
  | first :: rest => ⟨first, expandUser env first⟩ :: rest.map Part.later

theorem partsOf_eq {first : String} {rest : List String} (parts : components path = first :: rest) :
    partsOf env path = ⟨first, expandUser env first⟩ :: rest.map Part.later := by
  rw [partsOf, parts]

theorem map_written_partsOf (env : Environment) (path : String) :
    (partsOf env path).map Part.written = components path := by
  obtain ⟨first, rest, parts⟩ := List.exists_cons_of_ne_nil (components_ne_nil path)
  rw [partsOf_eq parts, parts, List.map_cons, List.map_map]
  simp [Function.comp_def, Part.later]

theorem noSlash_of_mem_partsOf {part : Part} (among : part ∈ partsOf env path) :
    '/' ∉ part.written.toList := by
  have within := List.mem_map_of_mem (f := Part.written) among
  rw [map_written_partsOf] at within
  exact not_mem_of_mem_components within

theorem isOwn_later (component : String) : (Part.later component).IsOwn := rfl

theorem startsAtHome_of_not_mem {component : String} (noSlash : '/' ∉ component.toList) :
    StartsAtHome component ↔ component = "~" := by
  refine ⟨?_, .inl⟩
  rintro (tilde | ⟨rest, rfl⟩)
  · exact tilde
  · exact absurd (by simp) noSlash

theorem startsAtHome_of_components {rest : List String} (parts : components path = "~" :: rest) :
    StartsAtHome path := by
  have whole : Text.join "/" ("~" :: rest) = path := parts ▸ join_components path
  by_cases last : rest = []
  · subst last
    exact .inl (whole.symm.trans (by simp [Text.join]))
  · rw [join_cons last] at whole
    exact .inr ⟨Text.join "/" rest, whole.symm⟩

theorem isOwn_of_mem_partsOf {part : Part} (among : part ∈ partsOf env path)
    (noTilde : part.written ≠ "~") : part.IsOwn := by
  have noSlash := noSlash_of_mem_partsOf among
  obtain ⟨first, rest, parts⟩ := List.exists_cons_of_ne_nil (components_ne_nil path)
  rw [partsOf_eq parts] at among
  rcases List.mem_cons.mp among with rfl | among
  · exact expandUser_of_not_startsAtHome (mt (startsAtHome_of_not_mem noSlash).mp noTilde)
  · obtain ⟨component, -, rfl⟩ := List.mem_map.mp among
    exact isOwn_later component

theorem map_later_of_isOwn {parts : List Part} (own : ∀ part ∈ parts, part.IsOwn) :
    (parts.map Part.written).map Part.later = parts := by
  rw [List.map_map]
  refine (List.map_congr_left fun part among => ?_).trans (List.map_id parts)
  exact congrArg (Part.mk part.written) (own part among).symm

theorem partsOf_eq_map {first : String} {rest : List String}
    (parts : components path = first :: rest) (noTilde : first ≠ "~") :
    partsOf env path = (first :: rest).map Part.later := by
  have noSlash : '/' ∉ first.toList := not_mem_of_mem_components (parts ▸ List.mem_cons_self)
  rw [partsOf_eq parts, List.map_cons, Part.later,
    expandUser_of_not_startsAtHome (mt (startsAtHome_of_not_mem noSlash).mp noTilde)]

/-- The home directory is put in for the first component alone. -/
theorem expandUser_slash {first : String} (noSlash : '/' ∉ first.toList) (rest : String) :
    expandUser env (first ++ "/" ++ rest) = expandUser env first ++ "/" ++ rest := by
  by_cases tilde : first = "~"
  · subst tilde
    have path_eq : ("~" ++ "/" ++ rest).toList = '~' :: '/' :: rest.toList := by simp
    have alone : "~".toList = '~' :: [] := rfl
    rw [expandUser_of_startsAtHome path_eq (.inr rfl),
      expandUser_of_startsAtHome alone (.inl rfl)]
    cases env.get? "HOME" with
    | none => rfl
    | some home =>
      rw [← String.toList_inj]
      simp
  · have elsewhere : ¬StartsAtHome (first ++ "/" ++ rest) := by
      rw [startsAtHome_iff]
      rintro ⟨more, same, ends⟩
      cases chars : first.toList with
      | nil => simp [chars] at same
      | cons c cs =>
        obtain ⟨rfl, rfl⟩ : c = '~' ∧ cs ++ '/' :: rest.toList = more := by simpa [chars] using same
        cases cs with
        | nil => exact tilde (String.toList_inj.mp chars)
        | cons d cs =>
          obtain rfl : d = '/' := by simpa using ends
          exact noSlash (by simp [chars])
    rw [expandUser_of_not_startsAtHome elsewhere, expandUser_of_not_startsAtHome
      (mt (startsAtHome_of_not_mem noSlash).mp tilde)]

theorem expandUser_eq_join (env : Environment) (path : String) :
    expandUser env path = Text.join "/" ((partsOf env path).map Part.meant) := by
  obtain ⟨first, rest, parts⟩ := List.exists_cons_of_ne_nil (components_ne_nil path)
  have whole : Text.join "/" (first :: rest) = path := parts ▸ join_components path
  have noSlash : '/' ∉ first.toList := not_mem_of_mem_components (parts ▸ List.mem_cons_self)
  have meant : (rest.map Part.later).map Part.meant = rest := by
    rw [List.map_map]
    exact List.map_id rest
  rw [partsOf_eq parts, List.map_cons, meant, ← whole]
  by_cases last : rest = []
  · simp [last, Text.join]
  · rw [join_cons last, join_cons last, expandUser_slash noSlash]

/-- **A pattern is expanded part by part**, where no reference reaches over a slash. -/
theorem expand_eq_join (apart : AreApart ((partsOf env path).map Part.meant)) :
    expand env path = Text.join "/" ((partsOf env path).map (Part.expanded env)) := by
  rw [expand, expandUser_eq_join, expandVariables_join apart, List.map_map]
  rfl

/-- The components that a part is expanded to. -/
def Part.steps (env : Environment) (part : Part) : List String := components (part.expanded env)

/-- The components that a part with nothing to expand is expanded to. -/
theorem Part.steps_of_isOwn {part : Part} (own : part.IsOwn)
    (noDollar : '$' ∉ part.written.toList) : part.steps env = components part.written := by
  rw [Part.steps, Part.expanded, own, expandVariables_of_not_mem noDollar]

theorem steps_later {component : String} (noDollar : '$' ∉ component.toList) :
    (Part.later component).steps env = components component :=
  Part.steps_of_isOwn (isOwn_later component) noDollar

theorem partsOf_ne_nil (env : Environment) (path : String) : partsOf env path ≠ [] := by
  obtain ⟨first, rest, parts⟩ := List.exists_cons_of_ne_nil (components_ne_nil path)
  rw [partsOf_eq parts]
  exact List.cons_ne_nil _ _

theorem components_expand (apart : AreApart ((partsOf env path).map Part.meant)) :
    components (expand env path) = (partsOf env path).flatMap (Part.steps env) := by
  have slash : "/".toList = ['/'] := rfl
  rw [expand_eq_join apart, components,
    pieces_join slash (by simpa using partsOf_ne_nil env path), List.flatMap_map]
  rfl

/-- **Where an expanded pattern leads**, part by part. -/
theorem resolve_expand (apart : AreApart ((partsOf env path).map Part.meant))
    (directory : List String) :
    resolve directory (expand env path) =
      ((partsOf env path).flatMap (Part.steps env)).foldl Path.enter
        (if isAbsolute (expand env path) then [] else directory) := by
  rw [resolve, components_expand apart]

end VerifierTrials.Path
