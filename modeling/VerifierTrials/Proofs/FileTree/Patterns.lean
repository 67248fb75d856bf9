import Mathlib
import VerifierTrials.FileTree.Glob
import VerifierTrials.Proofs.FileTree.Ways

/-!
# The paths that patterns stand for

The paths that a pattern stands for are found from its last component back. What they are is said
the other way round (`FileTree.Denotes`): everything before the first wildcard is taken as it is
written, and from there the components are walked one by one, a wildcard going to every name in a
directory that it takes, and a plain component staying where there is something at the end of it
(`FileTree.Walk`). The two agree (`FileTree.glob_denotes`), since looking for the paths from the
last component back is the same as advancing a list of paths over the components from the first
wildcard on (`FileTree.globFrom_eq_foldl`).

No path is found twice. This is less clear than it seems, as the directories `a` and `a/` differ
and have the same paths in them. But the paths after a component either all end in a slash or none
of them does (`FileTree.IsLevel`), and so what stands before a name tells the directory.

That each path that is found leads somewhere depends on the way into a directory being the same for
a listing and for a path that goes on from there (`FileTree.locate_join`).
-/

namespace VerifierTrials.FileTree

open VerifierTrials.Text

/-! ### What a pattern stands for -/

/-- A name that can stand in a directory. -/
structure IsEntryName (name : String) : Prop where
  names : Names name
  noSlash : '/' ∉ name.toList
  noNull : '\x00' ∉ name.toList

instance (name : String) : Decidable (IsEntryName name) :=
  decidable_of_iff (Names name ∧ '/' ∉ name.toList ∧ '\x00' ∉ name.toList)
    ⟨fun ⟨names, noSlash, noNull⟩ => ⟨names, noSlash, noNull⟩,
      fun named => ⟨named.names, named.noSlash, named.noNull⟩⟩

/-- **A tree as it is found on a machine**: there is one entry at a place, and what leads there are
names. -/
structure IsOrdinary (tree : FileTree) : Prop where
  once : (tree.entries.map Prod.fst).Nodup
  named : ∀ place ∈ tree.entries.map Prod.fst, ∀ name ∈ place, IsEntryName name

/-- **A directory has a name in it.** It is found by its path, links followed; the empty path is
the working directory. -/
def HasEntry (tree : FileTree) (directory name : String) : Prop :=
  ∃ place, tree.locate true (if directory = "" then "." else directory) = .ok place ∧
    tree.entry? place = some .directory ∧ (tree.entry? (place ++ [name])).isSome

/-- **A wildcard takes a name in a directory** that it matches. Names that begin with a dot are
left to wildcards that do so, and what cannot be read as a wildcard takes nothing. -/
structure Takes (tree : FileTree) (component directory name : String) : Prop where
  entry : HasEntry tree directory name
  shown : isHiddenName name = true → isHiddenName component = true
  fits : ∃ wildcard, Wildcard.read? component = some wildcard ∧
    Wildcard.matchesName wildcard name = true

/-- **A walk over components** from a path, left to right. -/
inductive Walk (tree : FileTree) : String → List String → String → Prop
  | done {path} : Walk tree path [] path
  | take {here component rest path name} (wild : hasWildcard component = true)
      (taken : Takes tree component here name)
      (further : Walk tree (Path.join here name) rest path) :
      Walk tree here (component :: rest) path
  | keep {here component rest path} (plain : hasWildcard component = false)
      (there : tree.pathExists (Path.join here component) = true)
      (further : Walk tree (Path.join here component) rest path) :
      Walk tree here (component :: rest) path

/-- The text before a component, without the slash between them. In front of a path name that
begins with a slash this is the root, and the slash is its name. -/
def textBefore : List String → String
  | [""] => "/"
  | before => Text.join "/" before

/-- **A pattern denotes a path**: without a wildcard, itself, and otherwise every path that a walk
leads to, which begins at the text before the first component with a wildcard. -/
inductive Denotes (tree : FileTree) (pattern : String) : String → Prop
  | literal (plain : hasWildcard pattern = false) (there : tree.pathExists pattern = true) :
      Denotes tree pattern pattern
  | walk {before component rest path}
      (parts : Path.components pattern = before ++ component :: rest)
      (plain : ∀ c ∈ before, hasWildcard c = false) (wild : hasWildcard component = true)
      (walk : Walk tree (textBefore before) (component :: rest) path) :
      Denotes tree pattern path

variable {tree : FileTree} {directory component name path : String} {paths : List String}

/-! ### From the last component back, and from the first one on -/

/-- A text has a wildcard if one of its components has. -/
theorem hasWildcard_eq (s : String) : hasWildcard s = (Path.components s).any hasWildcard :=
  (any_pieces (by decide) s).symm

theorem hasWildcard_textBefore {parts : List String} (plain : ∀ part ∈ parts, '/' ∉ part.toList) :
    hasWildcard (textBefore parts) = parts.any hasWildcard := by
  unfold textBefore
  split
  next => decide
  next =>
    by_cases none_ : parts = []
    · rw [none_]
      decide
    · rw [hasWildcard_eq, Path.components_join none_ plain]

theorem directoryText_reverse (parts : List String) :
    directoryText parts.reverse = textBefore parts := by
  unfold directoryText textBefore
  split
  next root =>
    obtain rfl : parts = [""] := by simpa using root
    rfl
  next other =>
    split
    next => exact absurd rfl other
    next => rw [List.reverse_reverse]

/-- The paths that one more component leads to. -/
def advance (tree : FileTree) (paths : List String) (component : String) : List String :=
  paths.flatMap (tree.step component)

/-- **Looking for paths from the last component back** is advancing over the components from the
first wildcard on. -/
theorem globFrom_eq_foldl {before rest : List String}
    (slashless : ∀ part ∈ before ++ component :: rest, '/' ∉ part.toList)
    (plain : ∀ part ∈ before, hasWildcard part = false) (wild : hasWildcard component = true) :
    tree.globFrom (before ++ component :: rest).reverse =
      (component :: rest).foldl tree.advance [textBefore before] := by
  -- by induction from the back, as the recursion goes
  induction rest using List.reverseRecOn with
  | nil =>
    have start : hasWildcard (textBefore before) = false := by
      rw [hasWildcard_textBefore fun part among => slashless part (List.mem_append_left _ among),
        List.any_eq_false]
      exact fun part among => by simp [plain part among]
    rw [List.reverse_append, List.reverse_singleton, List.singleton_append, globFrom,
      directoryText_reverse, start]
    by_cases none_ : before = []
    · rw [none_]
      rfl
    · simp [none_, advance]
  | append_singleton rest last ih =>
    have whole : before ++ component :: (rest ++ [last]) =
        (before ++ component :: rest) ++ [last] := by simp
    rw [whole] at slashless ⊢
    have slashless' : ∀ part ∈ before ++ component :: rest, '/' ∉ part.toList :=
      fun part among => slashless part (List.mem_append_left _ among)
    have goesOn : hasWildcard (textBefore (before ++ component :: rest)) = true := by
      rw [hasWildcard_textBefore slashless', List.any_eq_true]
      exact ⟨component, by simp, wild⟩
    rw [List.reverse_append, List.reverse_singleton, List.singleton_append, globFrom,
      directoryText_reverse, goesOn, ih slashless', ← List.cons_append, List.foldl_append]
    simp [advance]

/-- The first wildcard among components. -/
theorem exists_first_wildcard {parts : List String} (some_ : parts.any hasWildcard = true) :
    ∃ before component rest, parts = before ++ component :: rest ∧
      (∀ part ∈ before, hasWildcard part = false) ∧ hasWildcard component = true := by
  obtain ⟨component, found⟩ := Option.isSome_iff_exists.mp
    (List.find?_isSome.mpr (List.any_eq_true.mp some_))
  obtain ⟨wild, before, rest, same, plain⟩ := List.find?_eq_some_iff_append.mp found
  exact ⟨before, component, rest, same, fun part among => by simpa using plain part among, wild⟩

/-! ### The names in a directory -/

theorem isSome_entry_append (place : List String) :
    (tree.entry? (place ++ [name])).isSome = true ↔
      place ++ [name] ∈ tree.entries.map Prod.fst := by
  rw [FileTree.entry?, if_neg (by simp), List.lookup_isSome_iff, List.mem_map]
  simp only [beq_iff_eq, @eq_comm _ (place ++ [name])]

/-- A name listed at a place. -/
def nameAt? (place : List String) (entry : List String) : Option String :=
  match entry.getLast? with
  | some name => if entry.dropLast = place then some name else none
  | none => none

theorem nameAt?_eq_some_iff {place entry : List String} :
    nameAt? place entry = some name ↔ entry = place ++ [name] := by
  unfold nameAt?
  split
  next last found =>
    obtain ⟨front, rfl⟩ := List.getLast?_eq_some_iff.mp found
    rw [List.dropLast_concat]
    split
    next same => simp [same]
    next other => simp [other]
  next none_ =>
    rw [List.getLast?_eq_none_iff.mp none_]
    simp

theorem namesIn_eq (place : List String) :
    tree.namesIn place = (tree.entries.map Prod.fst).filterMap (nameAt? place) := by
  rw [List.filterMap_map]
  rfl

theorem mem_namesIn_iff {place : List String} :
    name ∈ tree.namesIn place ↔ (tree.entry? (place ++ [name])).isSome = true := by
  rw [namesIn_eq, List.mem_filterMap, isSome_entry_append]
  simp only [nameAt?_eq_some_iff, exists_eq_right]

theorem nodup_namesIn (ordinary : IsOrdinary tree) (place : List String) :
    (tree.namesIn place).Nodup := by
  rw [namesIn_eq]
  refine ordinary.once.filterMap fun entry other name here there => ?_
  rw [nameAt?_eq_some_iff.mp here, nameAt?_eq_some_iff.mp there]

theorem mem_list_iff : name ∈ tree.list path ↔ ∃ place, tree.locate true path = .ok place ∧
    tree.entry? place = some .directory ∧ (tree.entry? (place ++ [name])).isSome = true := by
  rw [list]
  split
  next place led =>
    split
    next directory => simp [led, directory, List.mem_mergeSort, mem_namesIn_iff]
    next other => simp [led, other]
  next failed => simp [failed]

theorem nodup_list (ordinary : IsOrdinary tree) (path : String) : (tree.list path).Nodup := by
  rw [list]
  split
  next place _ =>
    split
    next => exact (List.mergeSort_perm _ _).nodup_iff.mpr (nodup_namesIn ordinary place)
    next => exact List.nodup_nil
  next => exact List.nodup_nil

theorem HasEntry.isEntryName (has : HasEntry tree directory name) (ordinary : IsOrdinary tree) :
    IsEntryName name := by
  obtain ⟨place, -, -, entry⟩ := has
  exact ordinary.named _ ((isSome_entry_append place).mp entry) name (by simp)

theorem mem_matchingNames_iff :
    name ∈ tree.matchingNames directory component ↔ Takes tree component directory name := by
  rw [matchingNames]
  constructor
  · intro among
    split at among
    next => cases among
    next wildcard read =>
      obtain ⟨listed, shown, fits⟩ : _ ∧ _ ∧ _ := by
        simpa only [List.mem_filter, Bool.and_eq_true] using among
      refine ⟨mem_list_iff.mp listed, fun hidden => ?_, wildcard, read, fits⟩
      simpa [hidden] using shown
  · rintro ⟨entry, shown, wildcard, read, fits⟩
    have visible : (isHiddenName component || !isHiddenName name) = true := by
      cases hidden : isHiddenName name with
      | true => simp [shown hidden]
      | false => simp
    rw [read]
    exact List.mem_filter.mpr ⟨mem_list_iff.mpr entry, by simp [visible, fits]⟩

/-! ### One component -/

/-- What a component puts behind a directory. -/
def choices (tree : FileTree) (component directory : String) : List String :=
  if hasWildcard component then tree.matchingNames directory component
  else if tree.pathExists (Path.join directory component) then [component] else []

theorem step_eq (component directory : String) :
    tree.step component directory =
      (tree.choices component directory).map (Path.join directory) := by
  rw [step, choices]
  split
  next => rfl
  next =>
    dsimp only
    split <;> rfl

theorem nodup_choices (ordinary : IsOrdinary tree) (component directory : String) :
    (tree.choices component directory).Nodup := by
  rw [choices]
  split
  next =>
    rw [matchingNames]
    split
    next => exact List.nodup_nil
    next => exact (nodup_list ordinary _).filter _
  next =>
    split
    next => exact List.nodup_singleton _
    next => exact List.nodup_nil

/-- What a component puts behind a directory has no slash, and is empty only if the component
is. -/
theorem plain_of_mem_choices (ordinary : IsOrdinary tree) (plain : '/' ∉ component.toList)
    {x : String} (among : x ∈ tree.choices component directory) :
    '/' ∉ x.toList ∧ (x = "" ↔ component = "") := by
  rw [choices] at among
  split at among
  next wild =>
    have named := (mem_matchingNames_iff.mp among).entry.isEntryName ordinary
    have some_ : component ≠ "" := by
      rintro rfl
      exact absurd wild (by decide)
    exact ⟨named.noSlash, by simp [named.names.nonempty, some_]⟩
  next =>
    split at among
    next =>
      obtain rfl := List.mem_singleton.mp among
      exact ⟨plain, Iff.rfl⟩
    next => cases among

theorem walk_cons_iff {here : String} {rest : List String} :
    Walk tree here (component :: rest) path ↔
      ∃ next ∈ tree.step component here, Walk tree next rest path := by
  rw [step]
  constructor
  · rintro (_ | ⟨wild, taken, further⟩ | ⟨plain, there, further⟩)
    · rw [if_pos wild]
      exact ⟨_, List.mem_map_of_mem (mem_matchingNames_iff.mpr taken), further⟩
    · rw [if_neg (by simp [plain])]
      exact ⟨_, by simp [there], further⟩
  · rintro ⟨next, among, further⟩
    split at among
    next wild =>
      obtain ⟨name, matching, rfl⟩ := List.mem_map.mp among
      exact .take wild (mem_matchingNames_iff.mp matching) further
    next plain =>
      dsimp only at among
      split at among
      next there =>
        obtain rfl := List.mem_singleton.mp among
        exact .keep (by simpa using plain) there further
      next => cases among

/-- **Advancing over components** leads to the ends of walks. -/
theorem mem_foldl_advance_iff {components : List String} :
    path ∈ components.foldl tree.advance paths ↔ ∃ here ∈ paths, Walk tree here components path := by
  induction components generalizing paths with
  | nil =>
    constructor
    · exact fun among => ⟨path, among, .done⟩
    · rintro ⟨here, among, ⟨⟩⟩
      exact among
  | cons component rest ih =>
    rw [List.foldl_cons, ih]
    simp only [walk_cons_iff, advance, List.mem_flatMap]
    constructor
    · rintro ⟨next, ⟨here, among, stepped⟩, further⟩
      exact ⟨here, among, next, stepped, further⟩
    · rintro ⟨here, among, next, stepped, further⟩
      exact ⟨next, ⟨here, among, stepped⟩, further⟩

/-! ### No path is found twice -/

/-- **Paths on one level**: they are different, and either all of them are open or none is. -/
structure IsLevel (paths : List String) : Prop where
  once : paths.Nodup
  alike : ∀ path ∈ paths, ∀ other ∈ paths, Path.isOpen path = Path.isOpen other

theorem IsLevel.advance (level : IsLevel paths) (ordinary : IsOrdinary tree)
    (plain : '/' ∉ component.toList) : IsLevel (tree.advance paths component) := by
  have found : ∀ {path}, path ∈ tree.advance paths component → ∃ directory ∈ paths,
      ∃ x, '/' ∉ x.toList ∧ (x = "" ↔ component = "") ∧ path = Path.join directory x := by
    intro path among
    obtain ⟨directory, here, stepped⟩ := List.mem_flatMap.mp among
    rw [step_eq] at stepped
    obtain ⟨x, chosen, rfl⟩ := List.mem_map.mp stepped
    obtain ⟨slashless, empty⟩ := plain_of_mem_choices ordinary plain chosen
    exact ⟨directory, here, x, slashless, empty, rfl⟩
  constructor
  · rw [FileTree.advance, List.nodup_flatMap]
    constructor
    · intro directory _
      rw [step_eq]
      refine (List.nodup_map_iff_inj_on (nodup_choices ordinary component directory)).mpr ?_
      intro x xs y ys same
      exact (Path.join_inj (plain_of_mem_choices ordinary plain xs).1
        (plain_of_mem_choices ordinary plain ys).1 same).1
    · refine level.once.imp_of_mem fun {directory other} here there different => ?_
      intro path first second
      rw [step_eq] at first second
      obtain ⟨x, xs, rfl⟩ := List.mem_map.mp first
      obtain ⟨y, ys, same⟩ := List.mem_map.mp second
      have leading := (Path.join_inj (plain_of_mem_choices ordinary plain ys).1
        (plain_of_mem_choices ordinary plain xs).1 same).2
      exact different (Path.eq_of_leading (level.alike _ here _ there) leading.symm)
  · intro path first other second
    obtain ⟨directory, -, x, plain', empty, rfl⟩ := found first
    obtain ⟨directory', -, y, plain'', empty', rfl⟩ := found second
    rw [Path.isOpen_join plain', Path.isOpen_join plain'']
    exact decide_eq_decide.mpr (empty.trans empty'.symm)

theorem IsLevel.foldl_advance {components : List String} (level : IsLevel paths)
    (ordinary : IsOrdinary tree) (plain : ∀ part ∈ components, '/' ∉ part.toList) :
    IsLevel (components.foldl tree.advance paths) := by
  induction components generalizing paths with
  | nil => exact level
  | cons component rest ih =>
    rw [List.forall_mem_cons] at plain
    exact ih (level.advance ordinary plain.1) plain.2

/-! ### Every path that is found leads somewhere -/

theorem pathExists_of_locate {place : List String} (led : tree.locate false path = .ok place)
    (entry : (tree.entry? place).isSome = true) : tree.pathExists path = true := by
  obtain ⟨found, there⟩ := Option.isSome_iff_exists.mp entry
  rw [pathExists, find_eq_ok_iff.mpr ⟨place, led, there⟩]
  rfl

/-- A way into a directory goes on from there, whether or not it ends in a slash. -/
theorem follow_leading {place here : List String} {links : Nat}
    (leads : Leads tree true links here (Path.components directory) place)
    (inside : tree.entry? place = some .directory)
    (names : Names name) :
    tree.follow false links here (Path.front (Path.leading directory) ++ [name]) =
      .ok (place ++ [name]) := by
  rw [Path.leading]
  split
  next open_ =>
    -- the empty component behind the last slash leads nowhere else
    have parts := Path.front_concat_lastPart directory
    rw [Path.lastPart_of_isOpen open_] at parts
    obtain ⟨q, left, same⟩ := leads.cut parts.symm (by simp)
    have ended := follow_of_leads leads
    rw [← parts, same _ _ (by simp), follow_idle (.inl rfl), follow_nil] at ended
    obtain rfl : q = place := Except.ok.inj ended
    rw [same _ _ (by simp), follow_false_name names]
  next =>
    have parts : Path.front (directory ++ "/") = Path.components directory := by
      rw [← String.append_empty (s := directory ++ "/"), Path.front, Path.components_slash]
      exact List.dropLast_concat
    obtain ⟨left, same⟩ := leads.into inside
    rw [parts, same _ _ (by simp), follow_false_name names]

/-- **A name in a directory leads to its place there.** -/
theorem locate_join {place : List String} (named : IsEntryName name)
    (led : tree.locate true (if directory = "" then "." else directory) = .ok place)
    (inside : tree.entry? place = some .directory) :
    tree.locate false (Path.join directory name) = .ok (place ++ [name]) := by
  obtain ⟨names, noSlash, noNull⟩ := named
  have relative := Path.isAbsolute_of_not_mem noSlash
  by_cases empty : directory = ""
  · subst empty
    have parts : Path.components "." = ["."] := by decide
    obtain ⟨-, -, leads⟩ := locate_eq_ok_iff.mp led
    have stays := follow_of_leads leads
    rw [if_pos rfl, parts, follow_idle (.inr rfl), follow_nil] at stays
    obtain rfl : tree.workingDirectory = place := Except.ok.inj stays
    have joined : Path.join "" name = name := rfl
    rw [joined, locate_eq_ok_iff, relative, Path.components_of_not_mem noSlash]
    exact ⟨by simpa using noNull, names.nonempty, leads_of_follow (follow_false_name names)⟩
  · rw [if_neg empty] at led
    obtain ⟨plain, -, leads⟩ := locate_eq_ok_iff.mp led
    have absolute : Path.isAbsolute (Path.leading directory ++ name) =
        Path.isAbsolute directory := by
      rw [Path.leading]
      split
      next => exact Path.isAbsolute_append empty name
      next => rw [String.append_assoc, Path.isAbsolute_append empty]
    have noNull' : (Path.leading directory ++ name).toList.contains '\x00' = false := by
      rw [Path.leading]
      split <;> simp_all
    rw [locate_eq_ok_iff]
    refine ⟨?_, Path.join_ne_empty directory names.nonempty, leads_of_follow ?_⟩
    · rwa [Path.join_eq_leading relative]
    · rw [Path.components_join_of_not_mem _ noSlash, Path.join_eq_leading relative, absolute]
      exact follow_leading leads inside names

theorem pathExists_join (ordinary : IsOrdinary tree) (has : HasEntry tree directory name) :
    tree.pathExists (Path.join directory name) = true := by
  have named := has.isEntryName ordinary
  obtain ⟨place, led, inside, entry⟩ := has
  exact pathExists_of_locate (locate_join named led inside) entry

/-- **Every walk ends where something is.** -/
theorem Walk.pathExists {here : String} {components : List String}
    (walk : Walk tree here components path) (ordinary : IsOrdinary tree)
    (some_ : components ≠ []) : tree.pathExists path = true := by
  induction walk with
  | done => exact absurd rfl some_
  | @take here component rest path name wild taken further ih =>
    by_cases last : rest = []
    · subst last
      cases further
      exact pathExists_join ordinary taken.entry
    · exact ih last
  | @keep here component rest path plain there further ih =>
    by_cases last : rest = []
    · subst last
      cases further
      exact there
    · exact ih last

theorem Denotes.pathExists {pattern : String} (denotes : Denotes tree pattern path)
    (ordinary : IsOrdinary tree) : tree.pathExists path = true := by
  cases denotes with
  | literal plain there => exact there
  | walk parts plain wild walk => exact walk.pathExists ordinary (by simp)

/-! ### Patterns -/

/-- The paths of a pattern with a wildcard, found by advancing from the first one on. -/
theorem glob_of_parts {pattern : String} {before rest : List String}
    (parts : Path.components pattern = before ++ component :: rest)
    (plain : ∀ part ∈ before, hasWildcard part = false) (wild : hasWildcard component = true) :
    tree.glob pattern = (component :: rest).foldl tree.advance [textBefore before] := by
  have slashless : ∀ part ∈ before ++ component :: rest, '/' ∉ part.toList := fun part among =>
    Path.not_mem_of_mem_components (parts ▸ among)
  have magic : hasWildcard pattern = true := by
    rw [hasWildcard_eq, parts, List.any_eq_true]
    exact ⟨component, by simp, wild⟩
  rw [glob, if_pos magic, parts, globFrom_eq_foldl slashless plain wild]

theorem isLevel_singleton (path : String) : IsLevel [path] := by
  refine ⟨List.nodup_singleton path, fun first here other there => ?_⟩
  rw [List.mem_singleton.mp here, List.mem_singleton.mp there]

theorem mem_glob_iff {pattern : String} : path ∈ tree.glob pattern ↔ Denotes tree pattern path := by
  constructor
  · intro among
    by_cases magic : hasWildcard pattern = true
    · obtain ⟨before, component, rest, parts, plain, wild⟩ :=
        exists_first_wildcard (hasWildcard_eq pattern ▸ magic)
      rw [glob_of_parts parts plain wild, mem_foldl_advance_iff] at among
      obtain ⟨here, start, walk⟩ := among
      obtain rfl := List.mem_singleton.mp start
      exact .walk parts plain wild walk
    · rw [glob, if_neg magic] at among
      split at among
      next there =>
        obtain rfl := List.mem_singleton.mp among
        exact .literal (by simpa using magic) there
      next => cases among
  · rintro (⟨plain, there⟩ | ⟨parts, plain, wild, walk⟩)
    · rw [glob, if_neg (by simp [plain]), if_pos there]
      exact List.mem_singleton_self path
    · rw [glob_of_parts parts plain wild, mem_foldl_advance_iff]
      exact ⟨_, List.mem_singleton_self _, walk⟩

theorem nodup_glob (ordinary : IsOrdinary tree) (pattern : String) : (tree.glob pattern).Nodup := by
  by_cases magic : hasWildcard pattern = true
  · obtain ⟨before, component, rest, parts, plain, wild⟩ :=
      exists_first_wildcard (hasWildcard_eq pattern ▸ magic)
    rw [glob_of_parts parts plain wild]
    refine ((isLevel_singleton _).foldl_advance ordinary fun part among => ?_).once
    exact Path.not_mem_of_mem_components (parts ▸ List.mem_append_right before among)
  · rw [glob, if_neg magic]
    split
    next => exact List.nodup_singleton pattern
    next => exact List.nodup_nil

/-- **The paths that are found for a pattern** are those it denotes, each of them once, and each
of them leads somewhere. -/
theorem glob_denotes (tree : FileTree) (ordinary : IsOrdinary tree) (pattern : String) :
    (∀ path, path ∈ tree.glob pattern ↔ Denotes tree pattern path) ∧
      (tree.glob pattern).Nodup ∧ ∀ path ∈ tree.glob pattern, tree.pathExists path = true :=
  ⟨fun _ => mem_glob_iff, nodup_glob ordinary pattern,
    fun _ among => (mem_glob_iff.mp among).pathExists ordinary⟩

/-- A directory with a source file and a hidden one in it, and a link to the directory. -/
def linked : FileTree where
  entries :=
    [(["a"], .directory), (["a", "x.c"], .file 0o644 []), (["a", ".y.c"], .file 0o644 []),
      (["b"], .link "a")]

/-- The directory is walked into, and so is the link to it. The hidden file is left out. -/
theorem glob_denotes_linked : IsOrdinary linked ∧
    linked.glob "*/*.c" = ["a/x.c", "b/x.c"] ∧
      (∀ path, path ∈ linked.glob "*/*.c" ↔ Denotes linked "*/*.c" path) ∧
        (linked.glob "*/*.c").Nodup ∧
          ∀ path ∈ linked.glob "*/*.c", linked.pathExists path = true := by
  have ordinary : IsOrdinary linked := ⟨by decide, by decide⟩
  have found : linked.glob "*/*.c" = ["a/x.c", "b/x.c"] := by cbv
  exact ⟨ordinary, found, glob_denotes linked ordinary "*/*.c"⟩

end VerifierTrials.FileTree
