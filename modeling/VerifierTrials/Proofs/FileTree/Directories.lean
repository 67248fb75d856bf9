import VerifierTrials.Proofs.FileTree.Patterns
import VerifierTrials.Verifier.Preparation

/-!
# The directory that a file lies in

A path name that leads to a file ends in a name, and what stands before the name leads into the
directory that the file lies in (`FileTree.exists_directory`). So does the directory that is cut
out of the path name as it is written (`FileTree.locate_around`): the components that are left out
there stay where they are.

Two dots and links may take a way anywhere, and it is not told by the entries of a tree alone that
there are directories wherever it comes. It is told by where the way begins: from a place that is
**grounded**, with directories all the way from the root, steps lead to grounded places only
(`FileTree.Leads.front`). The working directory has to be grounded as well, and what names it from
the root then stands for it (`FileTree.locate_workingPath`).
-/

namespace VerifierTrials.FileTree

open VerifierTrials.Text

/-! ### Grounded places -/

/-- **A place with directories all the way** from the root, itself included. -/
def Grounded (tree : FileTree) (place : List String) : Prop :=
  ∀ q, q <+: place → tree.entry? q = some .directory

/-- **A working directory that can be worked in**: it is grounded, and names lead to it. -/
structure Settled (tree : FileTree) : Prop where
  named : ∀ name ∈ tree.workingDirectory, IsEntryName name
  grounded : Grounded tree tree.workingDirectory

variable {tree : FileTree} {takeLast : Bool} {links : Nat} {here names p place : List String}
  {c path : String}

theorem grounded_root (tree : FileTree) : Grounded tree [] := by
  intro q before
  rw [List.prefix_nil.mp before]
  exact if_pos rfl

namespace Grounded

theorem directory (grounded : Grounded tree place) : tree.entry? place = some .directory :=
  grounded place List.prefix_rfl

theorem up (grounded : Grounded tree place) : Grounded tree place.dropLast :=
  fun q before => grounded q (before.trans (List.dropLast_prefix place))

theorem enter (grounded : Grounded tree place)
    (directory : tree.entry? (place ++ [c]) = some .directory) : Grounded tree (place ++ [c]) := by
  intro q before
  rcases List.prefix_concat_iff.mp before with rfl | before
  · exact directory
  · exact grounded q before

theorem turn (grounded : Grounded tree here) (target : String) :
    Grounded tree (turnFrom target here) := by
  rw [turnFrom]
  split
  next => exact grounded_root tree
  next => exact grounded

end Grounded

/-! ### Ways through directories -/

/-- **What stands before the end of a way leads into a directory.** -/
theorem Leads.front {front back : List String} (grounded : Grounded tree here)
    (leads : Leads tree takeLast links here names p) (parts : names = front ++ back)
    (more : back ≠ []) : ∃ q, Leads tree true links here front q ∧ Grounded tree q := by
  -- by induction on the way, as a link puts its target in front of what is left
  induction leads generalizing front with
  | done => exact absurd (List.append_eq_nil_iff.mp parts.symm).2 more
  | stay idle _ ih =>
    rcases List.cons_eq_append_iff.mp parts with ⟨rfl, -⟩ | ⟨front, rfl, rest_eq⟩
    · exact ⟨_, .done, grounded⟩
    · obtain ⟨q, further, grounded⟩ := ih grounded rest_eq
      exact ⟨q, .stay idle further, grounded⟩
  | up _ ih =>
    rcases List.cons_eq_append_iff.mp parts with ⟨rfl, -⟩ | ⟨front, rfl, rest_eq⟩
    · exact ⟨_, .done, grounded⟩
    · obtain ⟨q, further, grounded⟩ := ih grounded.up rest_eq
      exact ⟨q, .up further, grounded⟩
  | enter names directory _ ih =>
    rcases List.cons_eq_append_iff.mp parts with ⟨rfl, -⟩ | ⟨front, rfl, rest_eq⟩
    · exact ⟨_, .done, grounded⟩
    · obtain ⟨q, further, grounded⟩ := ih (grounded.enter directory) rest_eq
      exact ⟨q, .enter names directory further, grounded⟩
  | last | lastLink =>
    rcases List.cons_eq_append_iff.mp parts with ⟨rfl, -⟩ | ⟨front, rfl, rest_eq⟩
    · exact ⟨_, .done, grounded⟩
    · exact absurd (List.append_eq_nil_iff.mp rest_eq.symm).2 more
  | @turn links here c rest p target names link _ _ ih =>
    rcases List.cons_eq_append_iff.mp parts with ⟨rfl, -⟩ | ⟨front, rfl, rest_eq⟩
    · exact ⟨_, .done, grounded⟩
    · obtain ⟨q, further, grounded⟩ :=
        ih (grounded.turn target) (by rw [rest_eq, List.append_assoc])
      exact ⟨q, .turn names link (.inr rfl) further, grounded⟩

/-- Components that stay where they are change nothing in front of others. -/
theorem follow_areIdle {idle : List String} (areIdle : Path.AreIdle idle) (rest : List String) :
    tree.follow takeLast links here (idle ++ rest) = tree.follow takeLast links here rest := by
  induction idle with
  | nil => rfl
  | cons part idle ih =>
    obtain ⟨first, further⟩ := List.forall_mem_cons.mp areIdle
    rw [List.cons_append, follow_idle first, ih further]

/-- Names lead down through directories. -/
theorem follow_grounded {down : List String} (named : ∀ name ∈ down, IsEntryName name)
    (grounded : Grounded tree (here ++ down)) (rest : List String) :
    tree.follow takeLast links here (down ++ rest) =
      tree.follow takeLast links (here ++ down) rest := by
  induction down generalizing here with
  | nil => rw [List.append_nil, List.nil_append]
  | cons name down ih =>
    obtain ⟨first, further⟩ := List.forall_mem_cons.mp named
    have split_ : here ++ name :: down = here ++ [name] ++ down := by simp
    rw [split_] at grounded ⊢
    have directory := grounded (here ++ [name]) (List.prefix_append _ _)
    rw [List.cons_append, follow_directory first.names directory, ih further grounded]

/-! ### The directory of a file -/

/-- Where a path name is followed from. -/
def startOf (tree : FileTree) (path : String) : List String :=
  if Path.isAbsolute path then [] else tree.workingDirectory

theorem Settled.grounded_start (settled : Settled tree) (path : String) :
    Grounded tree (tree.startOf path) := by
  rw [startOf]
  split
  next => exact grounded_root tree
  next => exact settled.grounded

/-- **A path name that leads to a file ends in a name**, and what stands before it leads into the
directory of the file. -/
theorem exists_directory (settled : Settled tree) (led : tree.locate true path = .ok p)
    (noDirectory : tree.entry? p ≠ some .directory) {front : List String}
    (parts : Path.components path = front ++ [c]) :
    ∃ directory, Names c ∧
      Leads tree true linkBound (tree.startOf path) front directory ∧
      Grounded tree directory ∧ tree.locate false path = .ok (directory ++ [c]) := by
  obtain ⟨noNull, nonempty, leads⟩ := locate_eq_ok_iff.mp led
  obtain ⟨directory, leads', grounded⟩ := leads.front (settled.grounded_start path) parts (by simp)
  obtain ⟨left, same⟩ := leads'.into grounded.directory
  have ended := follow_of_leads leads
  rw [parts] at ended
  have ended' := (same true [c] (by simp)).symm.trans ended
  have named : Names c := by
    by_cases idle : c = "" ∨ c = "."
    · rw [follow_idle idle, follow_nil] at ended'
      cases ended'
      exact absurd grounded.directory noDirectory
    · obtain ⟨nonempty, notDot⟩ := not_or.mp idle
      by_cases up : c = ".."
      · rw [up, follow_up, follow_nil] at ended'
        cases ended'
        exact absurd grounded.up.directory noDirectory
      · exact names_of_follow nonempty notDot up ended'
  refine ⟨directory, named, leads', grounded, ?_⟩
  refine locate_eq_ok_iff.mpr ⟨noNull, nonempty, leads_of_follow ?_⟩
  rw [parts]
  exact (same false [c] (by simp)).trans (follow_false_name named)

/-- What stays where it is at the end of a way can be left out. -/
theorem Leads.dropIdle {kept idle : List String} (grounded : Grounded tree here)
    (leads : Leads tree true links here (kept ++ idle) p) (areIdle : Path.AreIdle idle) :
    Leads tree true links here kept p := by
  by_cases none_ : idle = []
  · rwa [none_, List.append_nil] at leads
  · obtain ⟨q, leads', grounded'⟩ := leads.front grounded rfl none_
    obtain ⟨left, same⟩ := leads'.into grounded'.directory
    have ended := (same true idle none_).symm.trans (follow_of_leads leads)
    have stays := @follow_areIdle tree true left q idle areIdle []
    rw [List.append_nil, ended, follow_nil] at stays
    rwa [Except.ok.inj stays]

theorem textBefore_eq (kept : List String) :
    textBefore kept = if kept = [""] then "/" else Text.join "/" kept := by
  rw [textBefore.eq_def]
  split
  next => rfl
  next before notRoot => rw [if_neg fun root => notRoot root]

/-- The text before a name is empty only if nothing stands there. -/
theorem textBefore_ne_empty {kept : List String} (some_ : kept ≠ [])
    (plain : ∀ part ∈ kept, '/' ∉ part.toList) : textBefore kept ≠ "" := by
  rw [textBefore_eq]
  split
  next => decide
  next notRoot =>
    intro empty
    have parts := Path.components_join some_ plain
    rw [empty] at parts
    exact notRoot parts.symm

/-- What stands before a name leads, written as a path name, where its components lead. -/
theorem locate_textBefore {kept rest : List String} (some_ : kept ≠ [])
    (parts : Path.components path = kept ++ rest) (more : rest ≠ [])
    (noNull : path.toList.contains '\x00' = false)
    (leads : Leads tree true linkBound (tree.startOf path) kept p) :
    tree.locate true (textBefore kept) = .ok p := by
  have within : ∀ part ∈ kept, part ∈ Path.components path := fun part among => by
    rw [parts]
    exact List.mem_append_left rest among
  have plain : ∀ part ∈ kept, '/' ∉ part.toList := fun part among =>
    Path.not_mem_of_mem_components (within part among)
  obtain ⟨first, further, rfl⟩ := List.exists_cons_of_ne_nil some_
  have absolute : Path.isAbsolute path = decide (first = "") := by
    rw [Path.isAbsolute_of_components parts]
    simp [more]
  by_cases root : first :: further = [""]
  · obtain ⟨rfl, rfl⟩ : first = "" ∧ further = [] := by simpa using root
    rw [startOf, absolute] at leads
    have ended := follow_of_leads leads
    rw [follow_idle (.inl rfl), follow_nil] at ended
    obtain rfl : [] = p := Except.ok.inj ended
    have parts' : Path.components "/" = ["", ""] := by decide
    refine locate_eq_ok_iff.mpr ⟨by decide, by decide, ?_⟩
    change Leads tree true linkBound [] (Path.components "/") []
    rw [parts']
    exact .stay (.inl rfl) (.stay (.inl rfl) .done)
  · have text : textBefore (first :: further) = Text.join "/" (first :: further) := by
      rw [textBefore_eq, if_neg root]
    have parts' := Path.components_join some_ plain
    have absolute' : Path.isAbsolute (Text.join "/" (first :: further)) =
        Path.isAbsolute path := by
      rw [absolute, Path.isAbsolute_of_components parts']
      cases further with
      | nil => simpa using root
      | cons => simp
    rw [Path.contains_eq_any (by decide), List.any_eq_false] at noNull
    refine locate_eq_ok_iff.mpr ⟨?_, textBefore_ne_empty some_ plain, ?_⟩
    · rw [text, Path.contains_eq_any (by decide), parts', List.any_eq_false]
      exact fun part among => noNull part (within part among)
    · rw [text, parts', absolute']
      exact leads

/-- The directory around a path, with a dot where nothing is written of it. -/
def enclosing (path : String) : String :=
  match Path.parent? path with
  | some directory => if directory = "" then "." else directory
  | none => "."

/-- **The directory that is cut out of the path name of a file** is the one that it lies in. -/
theorem locate_enclosing (settled : Settled tree) (noNull : path.toList.contains '\x00' = false)
    {front : List String} (parts : Path.components path = front ++ [c]) (named : Names c)
    (leads : Leads tree true linkBound (tree.startOf path) front place) :
    tree.locate true (enclosing path) = .ok place := by
  by_cases alone : front = []
  · subst alone
    have relative : Path.isAbsolute path = false := by
      simp [Path.isAbsolute_of_components parts]
    have dot : enclosing path = "." := by
      simp [enclosing, Path.parent?_of_components_nil parts named.nonempty rfl]
    have parts' : Path.components "." = ["."] := by decide
    rw [startOf, relative] at leads
    cases leads
    rw [dot, locate_eq_ok_iff]
    refine ⟨by decide, by decide, ?_⟩
    rw [parts']
    exact .stay (.inr rfl) .done
  · obtain ⟨kept, idle, rfl, areIdle, some_, parent⟩ :=
      Path.parent?_of_components parts named.nonempty named.notDot alone
    rw [← textBefore_eq] at parent
    have plain : ∀ part ∈ kept, '/' ∉ part.toList := fun part among =>
      Path.not_mem_of_mem_components (by rw [parts]; simp [among])
    have text : enclosing path = textBefore kept := by
      simp [enclosing, parent, textBefore_ne_empty some_ plain]
    rw [List.append_assoc] at parts
    rw [text]
    exact locate_textBefore some_ parts (by simp) noNull
      (leads.dropIdle (settled.grounded_start path) areIdle)

/-! ### Path names from the root -/

theorem components_workingPath (settled : Settled tree) {path : String} :
    Path.components (Path.leading tree.workingPath ++ path) =
      "" :: (tree.workingDirectory ++ Path.components path) := by
  have plain : ∀ name ∈ tree.workingDirectory, '/' ∉ name.toList :=
    fun name among => (settled.named name among).noSlash
  by_cases root : tree.workingDirectory = []
  · have text : Path.leading tree.workingPath = "" ++ "/" := by
      rw [workingPath, root]
      decide
    rw [text, Path.components_slash, root]
    rfl
  · have parts : Path.components tree.workingPath = "" :: tree.workingDirectory := by
      have text : tree.workingPath = "" ++ "/" ++ Text.join "/" tree.workingDirectory := by
        rw [String.empty_append]
        rfl
      rw [text, Path.components_slash, Path.components_join root plain]
      rfl
    have closed : Path.isOpen tree.workingPath ≠ true := by
      intro open_
      have last := Path.lastPart_of_isOpen open_
      rw [Path.lastPart, parts, List.getLastD_cons, List.getLastD_eq_getLast?,
        List.getLast?_eq_some_getLast root] at last
      exact (settled.named _ (List.getLast_mem root)).names.nonempty last
    rw [Path.leading, if_neg closed, Path.components_slash, parts]
    rfl

/-- **A path name read from the working directory** leads where it leads on its own. -/
theorem locate_workingPath (settled : Settled tree) (nonempty : path ≠ "") :
    tree.locate takeLast (Path.join tree.workingPath path) = tree.locate takeLast path := by
  by_cases absolute : Path.isAbsolute path = true
  · rw [Path.join, if_pos (by simp [absolute])]
  · have relative : Path.isAbsolute path = false := by simpa using absolute
    have parts := @components_workingPath tree settled path
    have rooted : Path.isAbsolute (Path.leading tree.workingPath ++ path) = true := by
      rw [Path.isAbsolute_of_components parts]
      simp [Path.components_ne_nil]
    have plain : (tree.workingDirectory.any fun part => part.toList.contains '\x00') = false := by
      rw [List.any_eq_false]
      intro name among
      simpa using (settled.named name among).noNull
    have nonempty' : Path.leading tree.workingPath ++ path ≠ "" := by simp [nonempty]
    rw [Path.join_eq_leading relative, locate, locate, if_neg nonempty', if_neg nonempty,
      Path.contains_eq_any (by decide), Path.contains_eq_any (by decide), parts, List.any_cons,
      List.any_append, plain, rooted, relative, if_pos rfl, follow_idle (.inl rfl),
      follow_grounded settled.named settled.grounded, List.nil_append]
    rfl

end VerifierTrials.FileTree
