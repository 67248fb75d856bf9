import VerifierTrials.FileTree.Basic
import VerifierTrials.Proofs.Path.Components
import Mathlib.Tactic.SplitIfs

/-!
# The ways that path names lead

Following a path name is a recursion over its components that may jump: a link puts the
components of its target in front of those that are left. What it does step by step is the
relation `FileTree.Leads`, and `follow` finds a place exactly when there is a way to it
(`follow_eq_ok_iff`).

Two facts about ways carry everything that is said of reports later. A way can be **cut**
between two components: where the first of them lead, and how many links are left there, does
not depend on those behind (`Leads.cut`). And a way looks at directories and links only, so
that it leads to the same place in every tree of the **same shape** (`SameShape.locate`),
whatever has become of the files.

A way into a directory goes on to the names in it (`Leads.into`), also where it ends at a link: with
components behind it, a link is taken anyway.
-/

namespace VerifierTrials.FileTree

/-- A component that names something: neither empty nor a dot, nor two dots, and not too
long. -/
structure Names (c : String) : Prop where
  nonempty : c ≠ ""
  notDot : c ≠ "."
  notUp : c ≠ ".."
  short : c.utf8ByteSize ≤ nameBound

instance (c : String) : Decidable (Names c) :=
  decidable_of_iff (c ≠ "" ∧ c ≠ "." ∧ c ≠ ".." ∧ c.utf8ByteSize ≤ nameBound)
    ⟨fun ⟨nonempty, notDot, notUp, short⟩ => ⟨nonempty, notDot, notUp, short⟩,
      fun names => ⟨names.nonempty, names.notDot, names.notUp, names.short⟩⟩

theorem proper_of_length {c : String} (long : 2 < c.length) : c ≠ "" ∧ c ≠ "." ∧ c ≠ ".." := by
  refine ⟨fun same => ?_, fun same => ?_, fun same => ?_⟩ <;>
    · rw [same] at long
      exact absurd long (by decide)

/-- Whatever is at a place is a file. -/
structure AtMostFile (tree : FileTree) (place : List String) : Prop where
  noDirectory : tree.entry? place ≠ some .directory
  noLink : ∀ target, tree.entry? place ≠ some (.link target)

/-- Where the components of the target of a link are followed from. -/
def turnFrom (target : String) (here : List String) : List String :=
  if Path.isAbsolute target then [] else here

/-- **The way that components lead**, step by step. -/
inductive Leads (tree : FileTree) (takeLast : Bool) :
    Nat → List String → List String → List String → Prop
  | done {links here} : Leads tree takeLast links here [] here
  | stay {links here c rest p} (idle : c = "" ∨ c = ".")
      (further : Leads tree takeLast links here rest p) :
      Leads tree takeLast links here (c :: rest) p
  | up {links here rest p} (further : Leads tree takeLast links here.dropLast rest p) :
      Leads tree takeLast links here (".." :: rest) p
  | enter {links here c rest p} (names : Names c)
      (directory : tree.entry? (here ++ [c]) = some .directory)
      (further : Leads tree takeLast links (here ++ [c]) rest p) :
      Leads tree takeLast links here (c :: rest) p
  | last {links here c} (names : Names c) (ends : AtMostFile tree (here ++ [c])) :
      Leads tree takeLast links here [c] (here ++ [c])
  | lastLink {links here c target} (names : Names c)
      (link : tree.entry? (here ++ [c]) = some (.link target)) (notTaken : takeLast = false) :
      Leads tree takeLast links here [c] (here ++ [c])
  | turn {links here c rest p target} (names : Names c)
      (link : tree.entry? (here ++ [c]) = some (.link target))
      (taken : rest ≠ [] ∨ takeLast = true)
      (further : Leads tree takeLast links (turnFrom target here)
        (Path.components target ++ rest) p) :
      Leads tree takeLast (links + 1) here (c :: rest) p

variable {tree after : FileTree} {takeLast : Bool} {links : Nat} {here names rest p : List String}
  {c : String}

/-! ### One step of a way -/

theorem follow_nil : tree.follow takeLast links here [] = .ok here := by
  rw [follow]

theorem follow_idle (idle : c = "" ∨ c = ".") :
    tree.follow takeLast links here (c :: rest) = tree.follow takeLast links here rest := by
  rw [follow, if_pos (by simpa using idle)]

theorem follow_up :
    tree.follow takeLast links here (".." :: rest) =
      tree.follow takeLast links here.dropLast rest := by
  rw [follow, if_neg (by decide), if_pos rfl]

theorem follow_name (names : Names c) :
    tree.follow takeLast links here (c :: rest) =
      match tree.entry? (here ++ [c]) with
      | none => if rest.isEmpty then .ok (here ++ [c]) else .error .notFound
      | some .directory => tree.follow takeLast links (here ++ [c]) rest
      | some (.file _ _) => if rest.isEmpty then .ok (here ++ [c]) else .error .notDirectory
      | some (.link target) =>
        if rest.isEmpty && !takeLast then .ok (here ++ [c])
        else
          match links with
          | 0 => .error .tooManyLinks
          | links + 1 =>
            tree.follow takeLast links (turnFrom target here) (Path.components target ++ rest) := by
  obtain ⟨nonempty, notDot, notUp, short⟩ := names
  rw [follow, if_neg (by simp [nonempty, notDot]), if_neg notUp, if_neg (by omega)]
  rfl

theorem follow_directory (names : Names c)
    (directory : tree.entry? (here ++ [c]) = some .directory) :
    tree.follow takeLast links here (c :: rest) =
      tree.follow takeLast links (here ++ [c]) rest := by
  simp only [follow_name names, directory]

theorem follow_link {target : String} (names : Names c)
    (link : tree.entry? (here ++ [c]) = some (.link target)) (taken : rest ≠ [] ∨ takeLast = true) :
    tree.follow takeLast (links + 1) here (c :: rest) =
      tree.follow takeLast links (turnFrom target here) (Path.components target ++ rest) := by
  have goes : (rest.isEmpty && !takeLast) = false := by
    rcases taken with more | taken
    · simp [more]
    · simp [taken]
  simp only [follow_name names, link, goes, Bool.false_eq_true, if_false]

theorem follow_last (names : Names c) (ends : AtMostFile tree (here ++ [c])) :
    tree.follow takeLast links here [c] = .ok (here ++ [c]) := by
  rw [follow_name names]
  split
  next => rfl
  next directory => exact absurd directory ends.noDirectory
  next => rfl
  next target link => exact absurd link (ends.noLink target)

/-! ### Ways and their ends -/

theorem follow_of_leads (leads : Leads tree takeLast links here names p) :
    tree.follow takeLast links here names = .ok p := by
  induction leads with
  | done => exact follow_nil
  | stay idle _ ih => rw [follow_idle idle, ih]
  | up _ ih => rw [follow_up, ih]
  | enter names directory _ ih => rw [follow_directory names directory, ih]
  | last names ends => exact follow_last names ends
  | lastLink names link notTaken => simp [follow_name names, link, notTaken]
  | turn names link taken _ ih => rw [follow_link names link taken, ih]

theorem names_of_not (proper : ¬(decide (c = "") || decide (c = ".")) = true) (notUp : c ≠ "..")
    (short : ¬nameBound < c.utf8ByteSize) : Names c := by
  have both : c ≠ "" ∧ c ≠ "." := by simpa using proper
  exact ⟨both.1, both.2, notUp, Nat.le_of_not_lt short⟩

theorem leads_of_follow (led : tree.follow takeLast links here names = .ok p) :
    Leads tree takeLast links here names p := by
  fun_induction tree.follow takeLast links here names with
  | case1 links here => cases led; exact .done
  | case2 links here c rest idle ih => exact .stay (by simpa using idle) (ih led)
  | case3 links here rest _ ih => exact .up (ih led)
  | case4 | case6 | case9 | case11 => cases led
  | case5 links here c rest proper notUp short absent isLast =>
    cases led
    obtain rfl : rest = [] := List.isEmpty_iff.mp isLast
    exact .last (names_of_not proper notUp short) ⟨by simp [absent], by simp [absent]⟩
  | case7 links here c rest proper notUp short directory ih =>
    exact .enter (names_of_not proper notUp short) directory (ih led)
  | case8 links here c rest proper notUp short mode content file isLast =>
    cases led
    obtain rfl : rest = [] := List.isEmpty_iff.mp isLast
    exact .last (names_of_not proper notUp short) ⟨by simp [file], by simp [file]⟩
  | case10 links here c rest proper notUp short target link stops =>
    cases led
    obtain ⟨isLast, notTaken⟩ : rest = [] ∧ takeLast = false := by simpa using stops
    subst isLast
    exact .lastLink (names_of_not proper notUp short) link notTaken
  | case12 here c rest proper notUp short target link goes links ih =>
    have taken : rest ≠ [] ∨ takeLast = true := by
      cases rest <;> simp_all
    exact .turn (names_of_not proper notUp short) link taken (ih led)

theorem follow_eq_ok_iff :
    tree.follow takeLast links here names = .ok p ↔ Leads tree takeLast links here names p :=
  ⟨leads_of_follow, follow_of_leads⟩

/-! ### Ways cut in two -/

/-- **A way can be cut**: where some components lead on their own, and how many links are
left there, does not depend on the components behind them. -/
theorem Leads.cut {front back : List String} (leads : Leads tree takeLast links here names p)
    (parts : names = front ++ back) (more : back ≠ []) :
    ∃ q left, ∀ (takeLast : Bool) (back : List String), back ≠ [] →
      tree.follow takeLast links here (front ++ back) = tree.follow takeLast left q back := by
  -- by induction on the way and not on the components, which a link makes longer
  induction leads generalizing front with
  | done => exact absurd (List.append_eq_nil_iff.mp parts.symm).2 more
  | @stay links here c rest p idle further ih =>
    rcases List.cons_eq_append_iff.mp parts with ⟨rfl, -⟩ | ⟨front, rfl, rest_eq⟩
    · exact ⟨here, links, fun _ _ _ => rfl⟩
    · obtain ⟨q, left, same⟩ := ih rest_eq
      refine ⟨q, left, fun takeLast back more => ?_⟩
      rw [List.cons_append, follow_idle idle, same takeLast back more]
  | @up links here rest p further ih =>
    rcases List.cons_eq_append_iff.mp parts with ⟨rfl, -⟩ | ⟨front, rfl, rest_eq⟩
    · exact ⟨here, links, fun _ _ _ => rfl⟩
    · obtain ⟨q, left, same⟩ := ih rest_eq
      refine ⟨q, left, fun takeLast back more => ?_⟩
      rw [List.cons_append, follow_up, same takeLast back more]
  | @enter links here c rest p names directory further ih =>
    rcases List.cons_eq_append_iff.mp parts with ⟨rfl, -⟩ | ⟨front, rfl, rest_eq⟩
    · exact ⟨here, links, fun _ _ _ => rfl⟩
    · obtain ⟨q, left, same⟩ := ih rest_eq
      refine ⟨q, left, fun takeLast back more => ?_⟩
      rw [List.cons_append, follow_directory names directory, same takeLast back more]
  | @last links here c | @lastLink links here c =>
    rcases List.cons_eq_append_iff.mp parts with ⟨rfl, -⟩ | ⟨front, rfl, rest_eq⟩
    · exact ⟨here, links, fun _ _ _ => rfl⟩
    · exact absurd (List.append_eq_nil_iff.mp rest_eq.symm).2 more
  | @turn links here c rest p target names link taken further ih =>
    rcases List.cons_eq_append_iff.mp parts with ⟨rfl, -⟩ | ⟨front, rfl, rest_eq⟩
    · exact ⟨here, links + 1, fun _ _ _ => rfl⟩
    -- the target of the link stands before the cut as well
    · have parts' : Path.components target ++ rest = (Path.components target ++ front) ++ back := by
        rw [rest_eq, List.append_assoc]
      obtain ⟨q, left, same⟩ := ih parts'
      refine ⟨q, left, fun takeLast back more => ?_⟩
      rw [List.cons_append, follow_link names link (.inl (by simp [more])), ← List.append_assoc,
        same takeLast back more]

/-- **A way into a directory can be continued**: where it leads, and how many links are left
there, does not depend on the components behind it. -/
theorem Leads.into {q : List String} (leads : Leads tree true links here names q)
    (directory : tree.entry? q = some .directory) :
    ∃ left, ∀ (takeLast : Bool) (back : List String), back ≠ [] →
      tree.follow takeLast links here (names ++ back) = tree.follow takeLast left q back := by
  induction leads with
  | @done links => exact ⟨links, fun _ _ _ => rfl⟩
  | stay idle _ ih =>
    obtain ⟨left, same⟩ := ih directory
    refine ⟨left, fun takeLast back more => ?_⟩
    rw [List.cons_append, follow_idle idle, same takeLast back more]
  | up _ ih =>
    obtain ⟨left, same⟩ := ih directory
    refine ⟨left, fun takeLast back more => ?_⟩
    rw [List.cons_append, follow_up, same takeLast back more]
  | enter names inside _ ih =>
    obtain ⟨left, same⟩ := ih directory
    refine ⟨left, fun takeLast back more => ?_⟩
    rw [List.cons_append, follow_directory names inside, same takeLast back more]
  | last _ ends => exact absurd directory ends.noDirectory
  | lastLink _ _ notTaken => cases notTaken
  | turn names link _ _ ih =>
    obtain ⟨left, same⟩ := ih directory
    refine ⟨left, fun takeLast back more => ?_⟩
    rw [List.cons_append, follow_link names link (.inl (by simp [more])), ← List.append_assoc,
      same takeLast back more]

/-! ### The last component -/

theorem follow_false_name (names : Names c) :
    tree.follow false links here [c] = .ok (here ++ [c]) := by
  rw [follow_name names]
  split
  next => rfl
  next => exact follow_nil
  next => rfl
  next => rfl

/-- A name that leads anywhere is not too long. -/
theorem names_of_follow (nonempty : c ≠ "") (notDot : c ≠ ".") (notUp : c ≠ "..")
    (led : tree.follow takeLast links here (c :: rest) = .ok p) : Names c := by
  refine ⟨nonempty, notDot, notUp, Nat.le_of_not_lt fun long => ?_⟩
  rw [follow, if_neg (by simp [nonempty, notDot]), if_neg notUp, if_pos long] at led
  cases led

/-- Behind a name that is no directory and no link, a way ends. -/
theorem eq_of_follow_name (names : Names c) (ends : AtMostFile tree (here ++ [c]))
    (led : tree.follow takeLast links here (c :: rest) = .ok p) :
    rest = [] ∧ p = here ++ [c] := by
  cases leads_of_follow led with
  | stay idle => exact absurd idle (by simp [names.nonempty, names.notDot])
  | up => exact absurd rfl names.notUp
  | enter _ directory => exact absurd directory ends.noDirectory
  | last => exact ⟨rfl, rfl⟩
  | lastLink => exact ⟨rfl, rfl⟩
  | turn _ link => exact absurd link (ends.noLink _)

/-- A way that does not end at a link does not take it. -/
theorem Leads.taken (leads : Leads tree false links here names p)
    (noLink : ∀ target, tree.entry? p ≠ some (.link target)) :
    Leads tree true links here names p := by
  induction leads with
  | done => exact .done
  | stay idle _ ih => exact .stay idle (ih noLink)
  | up _ ih => exact .up (ih noLink)
  | enter names directory _ ih => exact .enter names directory (ih noLink)
  | last names ends => exact .last names ends
  | lastLink names link => exact absurd link (noLink _)
  | turn names link _ _ ih => exact .turn names link (.inr rfl) (ih noLink)

/-- In a tree without links no way takes any. -/
theorem Leads.notTaken (noLinks : ∀ p target, tree.entry? p ≠ some (.link target))
    (leads : Leads tree true links here names p) : Leads tree false links here names p := by
  induction leads with
  | done => exact .done
  | stay idle _ ih => exact .stay idle ih
  | up _ ih => exact .up ih
  | enter names directory _ ih => exact .enter names directory ih
  | last names ends => exact .last names ends
  | lastLink _ link | turn _ link => exact absurd link (noLinks _ _)

/-! ### Trees of the same shape -/

/-- **Two trees of the same shape**: with the same directories and the same links, seen from
the same working directory. They may differ in their files. -/
structure SameShape (tree after : FileTree) : Prop where
  workingDirectory : after.workingDirectory = tree.workingDirectory
  directory : ∀ p, after.entry? p = some .directory ↔ tree.entry? p = some .directory
  link : ∀ p target,
    after.entry? p = some (.link target) ↔ tree.entry? p = some (.link target)

namespace SameShape

theorem refl (tree : FileTree) : SameShape tree tree :=
  ⟨rfl, fun _ => Iff.rfl, fun _ _ => Iff.rfl⟩

theorem symm (same : SameShape tree after) : SameShape after tree :=
  ⟨same.workingDirectory.symm, fun p => (same.directory p).symm,
    fun p target => (same.link p target).symm⟩

theorem trans {further : FileTree} (same : SameShape tree after)
    (more : SameShape after further) : SameShape tree further :=
  ⟨more.workingDirectory.trans same.workingDirectory,
    fun p => (more.directory p).trans (same.directory p),
    fun p target => (more.link p target).trans (same.link p target)⟩

theorem atMostFile (same : SameShape tree after) (ends : AtMostFile tree p) :
    AtMostFile after p :=
  ⟨mt (same.directory p).mp ends.noDirectory,
    fun target => mt (same.link p target).mp (ends.noLink target)⟩

theorem leads (same : SameShape tree after) (leads : Leads tree takeLast links here names p) :
    Leads after takeLast links here names p := by
  induction leads with
  | done => exact .done
  | stay idle _ ih => exact .stay idle ih
  | up _ ih => exact .up ih
  | enter names directory _ ih => exact .enter names ((same.directory _).mpr directory) ih
  | last names ends => exact .last names (same.atMostFile ends)
  | lastLink names link notTaken =>
    exact .lastLink names ((same.link _ _).mpr link) notTaken
  | turn names link taken _ ih => exact .turn names ((same.link _ _).mpr link) taken ih

end SameShape

/-- **Two trees with the same directories and links in a directory.** -/
structure Alike (q : List String) (tree after : FileTree) : Prop where
  directory : ∀ p (_ : q <+: p),
    after.entry? p = some .directory ↔ tree.entry? p = some .directory
  link : ∀ p target (_ : q <+: p),
    after.entry? p = some (.link target) ↔ tree.entry? p = some (.link target)

namespace Alike

variable {q : List String}

theorem refl (q : List String) (tree : FileTree) : Alike q tree tree :=
  ⟨fun _ _ => Iff.rfl, fun _ _ _ => Iff.rfl⟩

theorem trans {further : FileTree} (alike : Alike q tree after) (more : Alike q after further) :
    Alike q tree further :=
  ⟨fun p inside => (more.directory p inside).trans (alike.directory p inside),
    fun p target inside => (more.link p target inside).trans (alike.link p target inside)⟩

theorem atMostFile (alike : Alike q tree after) (inside : q <+: p) (ends : AtMostFile tree p) :
    AtMostFile after p :=
  ⟨mt (alike.directory p inside).mp ends.noDirectory,
    fun target => mt (alike.link p target inside).mp (ends.noLink target)⟩

end Alike

theorem SameShape.alike (same : SameShape tree after) (q : List String) : Alike q tree after :=
  ⟨fun p _ => same.directory p, fun p target _ => same.link p target⟩

/-! ### Path names -/

theorem locate_eq_ok_iff {path : String} : tree.locate takeLast path = .ok p ↔
    path.toList.contains '\x00' = false ∧ path ≠ "" ∧
      Leads tree takeLast linkBound
        (if Path.isAbsolute path then [] else tree.workingDirectory) (Path.components path) p := by
  rw [locate]
  split_ifs with null empty absolute <;> simp_all [follow_eq_ok_iff]

/-- What a path name finds is the entry at the place that it leads to. -/
theorem find_eq_ok_iff {path : String} {entry : Entry} :
    tree.find takeLast path = .ok entry ↔
      ∃ p, tree.locate takeLast path = .ok p ∧ tree.entry? p = some entry := by
  cases led : tree.locate takeLast path with
  | error cause => simp [find, led, bind, Except.bind]
  | ok p => cases held : tree.entry? p <;> simp [find, led, held, bind, Except.bind]

/-- **Path names lead to the same places in trees of the same shape.** -/
theorem SameShape.locate (same : SameShape tree after) {path : String}
    (led : tree.locate takeLast path = .ok p) : after.locate takeLast path = .ok p := by
  rw [locate_eq_ok_iff] at led ⊢
  rw [same.workingDirectory]
  exact ⟨led.1, led.2.1, same.leads led.2.2⟩

/-- A path name that does not end at a link leads there in either way. -/
theorem locate_taken {path : String} (led : tree.locate false path = .ok p)
    (noLink : ∀ target, tree.entry? p ≠ some (.link target)) :
    tree.locate true path = .ok p := by
  rw [locate_eq_ok_iff] at led ⊢
  exact ⟨led.1, led.2.1, led.2.2.taken noLink⟩

theorem locate_notTaken (noLinks : ∀ p target, tree.entry? p ≠ some (.link target)) {path : String}
    (led : tree.locate true path = .ok p) : tree.locate false path = .ok p := by
  rw [locate_eq_ok_iff] at led ⊢
  exact ⟨led.1, led.2.1, led.2.2.notTaken noLinks⟩

/-- The last component of a path name that leads anywhere is not too long. -/
theorem names_of_locate {path : String} {front : List String}
    (led : tree.locate takeLast path = .ok p) (parts : Path.components path = front ++ [c])
    (nonempty : c ≠ "") (notDot : c ≠ ".") (notUp : c ≠ "..") : Names c := by
  obtain ⟨-, -, leads⟩ := locate_eq_ok_iff.mp led
  obtain ⟨here, left, same⟩ := leads.cut parts (by simp)
  have ended := follow_of_leads leads
  rw [parts, same _ _ (by simp)] at ended
  exact names_of_follow nonempty notDot notUp ended

/-- A path name that is not followed through its last component ends with that name. -/
theorem locate_last {path : String} {front : List String} (led : tree.locate false path = .ok p)
    (parts : Path.components path = front ++ [c]) (nonempty : c ≠ "") (notDot : c ≠ ".")
    (notUp : c ≠ "..") : ∃ here, p = here ++ [c] := by
  have names := names_of_locate led parts nonempty notDot notUp
  obtain ⟨-, -, leads⟩ := locate_eq_ok_iff.mp led
  obtain ⟨here, left, same⟩ := leads.cut parts (by simp)
  have ended := follow_of_leads leads
  rw [parts, same _ _ (by simp), follow_false_name names] at ended
  exact ⟨here, (Except.ok.inj ended).symm⟩

/-- A name leads from the working directory to its own place. -/
theorem locate_name (names : Names c) (plain : '/' ∉ c.toList)
    (noNull : c.toList.contains '\x00' = false)
    (ends : AtMostFile tree (tree.workingDirectory ++ [c])) :
    tree.locate takeLast c = .ok (tree.workingDirectory ++ [c]) := by
  refine locate_eq_ok_iff.mpr ⟨noNull, names.nonempty, ?_⟩
  rw [Path.isAbsolute_of_not_mem plain, Path.components_of_not_mem plain]
  exact .last names ends

/-- The name of a directory leads from the working directory into it. -/
theorem locate_directory (names : Names c) (plain : '/' ∉ c.toList)
    (noNull : c.toList.contains '\x00' = false)
    (directory : tree.entry? (tree.workingDirectory ++ [c]) = some .directory) :
    tree.locate takeLast c = .ok (tree.workingDirectory ++ [c]) := by
  refine locate_eq_ok_iff.mpr ⟨noNull, names.nonempty, ?_⟩
  rw [Path.isAbsolute_of_not_mem plain, Path.components_of_not_mem plain]
  exact .enter names directory .done

end VerifierTrials.FileTree
