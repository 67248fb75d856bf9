import VerifierTrials.Proofs.FileTree.Ways
import VerifierTrials.Verifier.Preparation

/-!
# Writing files

What an operation that writes does to a tree, said on places: a file is put or dropped at
the place that a path name leads to, where nothing else than a file may be, so that the tree
keeps its shape and every path name leads where it led.
-/

namespace VerifierTrials

/-! ### Writes that fail -/

namespace WriteFault

variable {fault? : Option WriteFault} {content taken : Bytes}

/-- **What a device takes** is all of a text, or not all and a cause is given. -/
theorem taken_cases {cut? : Option FileError}
    (taking : WriteFault.taken fault? content = .ok (taken, cut?)) :
    (cut? = none ∧ taken = content) ∨
      ∃ cause, cut? = some cause ∧ taken <+: content ∧ taken ≠ content := by
  match fault? with
  | none => cases taking; exact .inl ⟨rfl, rfl⟩
  | some (.unopened cause) => cases taking
  | some (.cut n cause) =>
    rw [WriteFault.taken] at taking
    split at taking
    next short =>
      cases taking
      refine .inr ⟨cause, rfl, List.take_prefix n content, fun whole => ?_⟩
      have length := congrArg List.length whole
      rw [List.length_take] at length
      omega
    next => cases taking; exact .inl ⟨rfl, rfl⟩

/-- A text that has not been cut has been taken as a whole. -/
theorem eq_of_taken (taking : WriteFault.taken fault? content = .ok (taken, none)) :
    taken = content := by
  rcases taken_cases taking with ⟨-, whole⟩ | ⟨_, impossible, -⟩
  · exact whole
  · cases impossible

end WriteFault

namespace FileTree

/-! ### Entries put and dropped -/

section Lookup

variable {entries : List (List String × Entry)} {place p : List String}

theorem lookup_replaced_self (entry : Entry) (present : (entries.lookup place).isSome) :
    (entries.map fun e => if e.1 = place then (place, entry) else e).lookup place =
      some entry := by
  induction entries with
  | nil => simp at present
  | cons e entries ih =>
    by_cases here : e.1 = place
    · rw [List.map_cons, if_pos here, List.lookup_cons_self]
    · have apart : (place == e.1) = false := beq_false_of_ne (Ne.symm here)
      rw [List.lookup_cons, apart] at present
      rw [List.map_cons, if_neg here, List.lookup_cons, apart]
      exact ih present

theorem lookup_replaced_ne (entry : Entry) (other : p ≠ place) :
    (entries.map fun e => if e.1 = place then (place, entry) else e).lookup p =
      entries.lookup p := by
  induction entries with
  | nil => rfl
  | cons e entries ih =>
    by_cases here : e.1 = place
    · have apart : (p == place) = false := beq_false_of_ne other
      rw [List.map_cons, if_pos here, List.lookup_cons, List.lookup_cons, here, apart]
      exact ih
    · rw [List.map_cons, if_neg here, List.lookup_cons, List.lookup_cons, ih]

theorem lookup_without_self : (entries.filter fun e => e.1 != place).lookup place = none := by
  induction entries with
  | nil => rfl
  | cons e entries ih =>
    by_cases here : e.1 = place
    · rw [List.filter_cons_of_neg (by simpa using here), ih]
    · rw [List.filter_cons_of_pos (by simpa using here), List.lookup_cons,
        beq_false_of_ne (Ne.symm here)]
      exact ih

theorem lookup_without_ne (other : p ≠ place) :
    (entries.filter fun e => e.1 != place).lookup p = entries.lookup p := by
  induction entries with
  | nil => rfl
  | cons e entries ih =>
    by_cases here : e.1 = place
    · rw [List.filter_cons_of_neg (by simpa using here), ih, List.lookup_cons, here,
        beq_false_of_ne other]
    · rw [List.filter_cons_of_pos (by simpa using here), List.lookup_cons, List.lookup_cons, ih]

end Lookup

variable {tree after : FileTree} {place p : List String}

theorem entry_root (tree : FileTree) : tree.entry? [] = some .directory := if_pos rfl

theorem entry_put (entry : Entry) (proper : place ≠ []) (p : List String) :
    FileTree.entry? (tree.put place entry) p =
      if p = place then some entry else tree.entry? p := by
  by_cases root : p = []
  · rw [root, entry_root, entry_root, if_neg (Ne.symm proper)]
  · rw [ entry?, if_neg root, entry?, if_neg root, put]
    split
    next present =>
      split
      next same => rw [same]; exact lookup_replaced_self entry present
      next other => exact lookup_replaced_ne entry other
    next absent =>
      rw [List.lookup_append]
      split
      next same => rw [same, Option.not_isSome_iff_eq_none.mp absent]; simp
      next other => simp [List.lookup_cons, beq_false_of_ne other]

theorem entry_drop (proper : place ≠ []) (p : List String) :
    FileTree.entry? (tree.drop place) p = if p = place then none else tree.entry? p := by
  by_cases root : p = []
  · rw [root, entry_root, entry_root, if_neg (Ne.symm proper)]
  · rw [ entry?, if_neg root, entry?, if_neg root, drop]
    split
    next same => rw [same]; exact lookup_without_self
    next other => exact lookup_without_ne other


/-! ### Files put and dropped -/

theorem AtMostFile.ne_root (ends : AtMostFile tree p) : p ≠ [] :=
  fun root => ends.noDirectory (root ▸ entry_root tree)

theorem AtMostFile.of_none (absent : tree.entry? p = none) : AtMostFile tree p :=
  ⟨by simp [absent], by simp [absent]⟩

theorem AtMostFile.of_file {mode : Nat} {content : Bytes}
    (file : tree.entry? p = some (.file mode content)) : AtMostFile tree p :=
  ⟨by simp [file], by simp [file]⟩

theorem AtMostFile.sameShape_put (ends : AtMostFile tree p) (mode : Nat) (content : Bytes) :
    SameShape tree (tree.put p (.file mode content)) := by
  refine ⟨?_, fun at_ => ?_, fun at_ target => ?_⟩
  · rw [put]
    split <;> rfl
  · rw [entry_put _ ends.ne_root]
    split
    next same => simp [same, ends.noDirectory]
    next => rfl
  · rw [entry_put _ ends.ne_root]
    split
    next same => simp [same, ends.noLink]
    next => rfl

theorem AtMostFile.sameShape_drop (ends : AtMostFile tree p) : SameShape tree (tree.drop p) := by
  refine ⟨rfl, fun at_ => ?_, fun at_ target => ?_⟩
  · rw [entry_drop ends.ne_root]
    split
    next same => simp [same, ends.noDirectory]
    next => rfl
  · rw [entry_drop ends.ne_root]
    split
    next same => simp [same, ends.noLink]
    next => rfl

/-! ### Contents -/

/-- **The bytes of the file at a place**, if there is one. -/
def contentAt (tree : FileTree) (place : List String) : Option Bytes :=
  match tree.entry? place with
  | some (.file _ content) => some content
  | _ => none

theorem contentAt_put (ends : AtMostFile tree place) (mode : Nat) (content : Bytes)
    (p : List String) : (tree.put place (.file mode content)).contentAt p =
      if p = place then some content else tree.contentAt p := by
  rw [contentAt, entry_put _ ends.ne_root]
  split_ifs with same
  · rfl
  · rfl

theorem contentAt_drop (ends : AtMostFile tree place) (p : List String) :
    (tree.drop place).contentAt p = if p = place then none else tree.contentAt p := by
  rw [contentAt, entry_drop ends.ne_root]
  split_ifs with same
  · rfl
  · rfl

theorem entry_of_contentAt {content : Bytes} (held : tree.contentAt p = some content) :
    ∃ mode, tree.entry? p = some (.file mode content) := by
  rw [contentAt] at held
  split at held
  next mode bytes file => cases held; exact ⟨mode, file⟩
  next => cases held

/-- What a place holds is told by its entry. -/
theorem contentAt_congr (same : after.entry? p = tree.entry? p) :
    after.contentAt p = tree.contentAt p := by
  rw [contentAt, contentAt, same]

theorem contentAt_eq_none (absent : tree.entry? p = none) : tree.contentAt p = none := by
  rw [contentAt, absent]

theorem contentAt_of_entry {entry : Entry} (held : tree.entry? p = some entry)
    (noFile : ∀ mode content, entry ≠ .file mode content) : tree.contentAt p = none := by
  rw [contentAt, held]
  split
  next mode content file => exact absurd (Option.some.inj file) (noFile mode content)
  next => rfl

theorem read_of_contentAt {path : String} {content : Bytes} (led : tree.locate true path = .ok p)
    (held : tree.contentAt p = some content) : tree.read path = .ok content := by
  obtain ⟨mode, file⟩ := entry_of_contentAt held
  rw [read, find_eq_ok_iff.mpr ⟨p, led, file⟩]
  rfl

/-- Where at most a file is, its content is read. -/
theorem read_of_locate {path : String} (led : tree.locate true path = .ok p)
    (ends : AtMostFile tree p) :
    tree.read path = (tree.contentAt p).elim (.error .notFound) .ok := by
  cases held : tree.contentAt p with
  | some content => exact read_of_contentAt led held
  | none =>
    have absent : tree.entry? p = none := by
      cases entry : tree.entry? p with
      | none => rfl
      | some entry' =>
        cases entry' with
        | file mode content => rw [contentAt, entry] at held; cases held
        | directory => exact absurd entry ends.noDirectory
        | link target => exact absurd entry (ends.noLink target)
    simp [read, find, led, absent, bind, Except.bind]

theorem isFile_of_read {path : String} {content : Bytes} (reading : tree.read path = .ok content) :
    tree.isFile path = true := by
  rw [read] at reading
  cases found : tree.find true path with
  | error cause =>
    rw [found] at reading
    cases reading
  | ok entry =>
    rw [found] at reading
    rw [isFile, found]
    cases entry with
    | file => rfl
    | directory | link => cases reading

/-- A file whose text can be read holds something. -/
theorem exists_of_readText {path text : String} (reading : tree.readText path = .ok text) :
    ∃ content, tree.read path = .ok content := by
  rw [readText] at reading
  cases held : tree.read path with
  | error cause =>
    rw [held] at reading
    cases reading
  | ok content => exact ⟨content, rfl⟩

theorem exists_of_isFile {path : String} (file : tree.isFile path = true) :
    ∃ p, tree.locate true path = .ok p ∧ tree.contentAt p ≠ none := by
  rw [isFile] at file
  split at file
  next mode content found =>
    obtain ⟨p, led, held⟩ := find_eq_ok_iff.mp found
    exact ⟨p, led, by simp [contentAt, held]⟩
  next => cases file

/-- **Two trees with the same entries**, seen from the same working directory. -/
structure SameEntries (tree after : FileTree) : Prop where
  workingDirectory : after.workingDirectory = tree.workingDirectory
  entry : ∀ p, after.entry? p = tree.entry? p

namespace SameEntries

theorem refl (tree : FileTree) : SameEntries tree tree :=
  ⟨rfl, fun _ => rfl⟩

theorem shape (same : SameEntries tree after) : SameShape tree after :=
  ⟨same.workingDirectory, fun p => by rw [same.entry], fun p target => by rw [same.entry]⟩

theorem content (same : SameEntries tree after) (p : List String) :
    after.contentAt p = tree.contentAt p :=
  contentAt_congr (same.entry p)

end SameEntries

/-! ### Operations -/

theorem fileAt_eq {path : String} (led : tree.locate true path = .ok place) :
    tree.fileAt path =
      match tree.entry? place with
      | some (.file mode content) => .ok (place, some (mode, content))
      | some .directory => .error .isDirectory
      | some (.link _) => .error .tooManyLinks
      | none => .ok (place, none) := by
  rw [fileAt, led]
  rfl

/-- What is written to is a file, or nothing yet. -/
theorem fileAt_eq_ok {path : String} {held? : Option (Nat × Bytes)}
    (found : tree.fileAt path = .ok (place, held?)) :
    tree.locate true path = .ok place ∧ AtMostFile tree place ∧
      tree.contentAt place = held?.map Prod.snd := by
  cases led : tree.locate true path with
  | error cause =>
    rw [fileAt, led] at found
    cases found
  | ok q =>
    rw [fileAt_eq led] at found
    split at found
    next file => cases found; exact ⟨rfl, .of_file file, by rw [contentAt, file]; rfl⟩
    next => cases found
    next => cases found
    next absent => cases found; exact ⟨rfl, .of_none absent, by rw [contentAt, absent]; rfl⟩

/-- **A file written**: the place that the path name leads to holds it, and nothing else has
changed. -/
theorem write_eq_ok {path : String} {content : Bytes}
    (written : tree.write path content = .ok after) :
    ∃ place, tree.locate true path = .ok place ∧ SameShape tree after ∧
      ∀ p, after.contentAt p = if p = place then some content else tree.contentAt p := by
  cases found : tree.fileAt path with
  | error cause =>
    rw [write, found] at written
    cases written
  | ok file =>
    obtain ⟨place, held?⟩ := file
    obtain ⟨led, ends, -⟩ := fileAt_eq_ok found
    rw [write, found] at written
    refine ⟨place, led, ?_⟩
    rcases held? with _ | ⟨mode, before⟩ <;> cases written <;>
      exact ⟨ends.sameShape_put _ _, contentAt_put ends _ _⟩

/-- **A file appended to**, which had nothing in it if it was not there. -/
theorem append_eq_ok {path : String} {content : Bytes}
    (appended : tree.append path content = .ok after) :
    ∃ place, tree.locate true path = .ok place ∧ SameShape tree after ∧
      ∀ p, after.contentAt p =
        if p = place then some ((tree.contentAt place).getD [] ++ content)
        else tree.contentAt p := by
  cases found : tree.fileAt path with
  | error cause =>
    rw [append, found] at appended
    cases appended
  | ok file =>
    obtain ⟨place, held?⟩ := file
    obtain ⟨led, ends, held⟩ := fileAt_eq_ok found
    rw [append, found] at appended
    refine ⟨place, led, ?_⟩
    rw [held]
    rcases held? with _ | ⟨mode, before⟩ <;> cases appended <;>
      exact ⟨ends.sameShape_put _ _, contentAt_put ends _ _⟩

/-- A file can be written to where at most a file is. -/
theorem fileAt_of_locate {path : String} (led : tree.locate true path = .ok place)
    (ends : AtMostFile tree place) : ∃ held?, tree.fileAt path = .ok (place, held?) := by
  rw [fileAt_eq led]
  split
  next => exact ⟨_, rfl⟩
  next directory => exact absurd directory ends.noDirectory
  next target link => exact absurd link (ends.noLink target)
  next => exact ⟨_, rfl⟩

theorem write_of_locate {path : String} (led : tree.locate true path = .ok place)
    (ends : AtMostFile tree place) (content : Bytes) :
    ∃ after, tree.write path content = .ok after := by
  obtain ⟨held?, found⟩ := fileAt_of_locate led ends
  rw [write, found]
  rcases held? with _ | ⟨mode, before⟩ <;> exact ⟨_, rfl⟩

/-- A file that is there is written with its permission bits kept. -/
theorem write_of_file {path : String} {mode : Nat} {before : Bytes}
    (led : tree.locate true path = .ok place) (file : tree.entry? place = some (.file mode before))
    (content : Bytes) : tree.write path content = .ok (tree.put place (.file mode content)) := by
  rw [write, fileAt_eq led, file]
  rfl

theorem append_of_locate {path : String} (led : tree.locate true path = .ok place)
    (ends : AtMostFile tree place) (content : Bytes) :
    ∃ after, tree.append path content = .ok after := by
  obtain ⟨held?, found⟩ := fileAt_of_locate led ends
  rw [append, found]
  rcases held? with _ | ⟨mode, before⟩ <;> exact ⟨_, rfl⟩

theorem create_eq {path : String} (led : tree.locate false path = .ok place) :
    tree.create path =
      match tree.entry? place with
      | some _ => .error .alreadyExists
      | none => .ok (tree.put place (.file scratchMode [])) := by
  rw [create, led]
  rfl

/-- **A file created**, where nothing was. -/
theorem create_eq_ok {path : String} (created : tree.create path = .ok after) :
    ∃ place, tree.locate false path = .ok place ∧ tree.entry? place = none ∧
      after = tree.put place (.file scratchMode []) := by
  cases led : tree.locate false path with
  | error cause =>
    rw [create, led] at created
    cases created
  | ok q =>
    rw [create_eq led] at created
    split at created
    next => cases created
    next absent => cases created; exact ⟨q, rfl, absent, rfl⟩

theorem remove_eq {path : String} (led : tree.locate false path = .ok place) :
    tree.remove path =
      match tree.entry? place with
      | none => .error .notFound
      | some .directory => .error .isDirectory
      | some _ => .ok (tree.drop place) := by
  rw [remove, led]
  rfl

/-- A file that is there is removed. -/
theorem remove_of_file {path : String} {mode : Nat} {content : Bytes}
    (led : tree.locate false path = .ok place)
    (file : tree.entry? place = some (.file mode content)) :
    tree.remove path = .ok (tree.drop place) := by
  rw [remove_eq led, file]

/-- **A file removed** that a path name leads to, unless it has gone already. -/
theorem remove_getD {path : String} (led : tree.locate false path = .ok place)
    (noLink : ∀ target, tree.entry? place ≠ some (.link target)) :
    SameShape tree ((tree.remove path).toOption.getD tree) ∧
      ∀ p, ((tree.remove path).toOption.getD tree).contentAt p =
        if p = place then none else tree.contentAt p := by
  rw [remove_eq led]
  split
  next absent =>
    refine ⟨.refl tree, fun p => ?_⟩
    split
    next same => rw [same]; exact contentAt_eq_none absent
    next => rfl
  next directory =>
    refine ⟨.refl tree, fun p => ?_⟩
    split
    next same => rw [same]; exact contentAt_of_entry directory (by simp)
    next => rfl
  next entry other present =>
    have ends : AtMostFile tree place :=
      ⟨fun directory => other (Option.some.inj (present.symm.trans directory)), noLink⟩
    exact ⟨ends.sameShape_drop, contentAt_drop ends⟩

end FileTree

end VerifierTrials
