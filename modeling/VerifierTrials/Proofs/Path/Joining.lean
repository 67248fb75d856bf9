import VerifierTrials.Proofs.Path.Routes

/-!
# Joining path names

A path name of a definition is read from the directory of the file that names it, and that file may
have been named from a further directory. Joining serves all of these readings because it is the
composition of path names: it is associative, it may be done before or after its parts are brought
into normal form, and what it makes leads, from every directory, along the first path name and from
there along the second one (`Path.join_composes`).

The exceptions are the same in all of them: an absolute path name does not care what it is joined
to, an empty one stays where it is, and a slash is put between two path names only where the first
one does not end in one (`Path.leading`).
-/

namespace VerifierTrials.Path

variable {base path : String}

/-! ### Absolute and relative path names -/

theorem join_of_isAbsolute (absolute : isAbsolute path = true) (base : String) :
    join base path = path := by
  rw [join, if_pos (by simp [absolute])]

theorem leading_empty : leading "" = "" := rfl

/-- What is put behind a directory is relative if the directory is. -/
theorem isAbsolute_leading_append (relative : isAbsolute path = false) (base : String) :
    isAbsolute (leading base ++ path) = isAbsolute base := by
  by_cases empty : base = ""
  · rw [empty, leading_empty, String.empty_append, relative]
    rfl
  · rw [leading]
    split
    next => exact isAbsolute_append empty path
    next => rw [String.append_assoc, isAbsolute_append empty]

/-- A directory in a directory stands before a name as the two of them. -/
theorem leading_leading_append (outer inner : String) :
    leading (leading outer ++ inner) = leading outer ++ leading inner := by
  have alike : isOpen (leading outer ++ inner) = isOpen inner := by
    by_cases empty : inner = ""
    · rw [empty, String.append_empty, isOpen_leading]
      rfl
    · exact isOpen_append _ empty
  rw [leading, alike, leading.eq_1 inner]
  split
  next => rfl
  next => rw [String.append_assoc]

/-! ### The three laws -/

/-- **Joining is associative.** -/
theorem join_assoc (a b c : String) : join (join a b) c = join a (join b c) := by
  cases last : isAbsolute c with
  | true => rw [join_of_isAbsolute last, join_of_isAbsolute last, join_of_isAbsolute last]
  | false =>
    have inner : join b c = leading b ++ c := join_eq_leading last b
    have begins : isAbsolute (leading b ++ c) = isAbsolute b := isAbsolute_leading_append last b
    cases middle : isAbsolute b with
    | true =>
      have absolute : isAbsolute (join b c) = true := by rw [inner, begins, middle]
      rw [join_of_isAbsolute middle, join_of_isAbsolute absolute]
    | false =>
      have relative : isAbsolute (join b c) = false := by rw [inner, begins, middle]
      calc join (join a b) c
          = leading (leading a ++ b) ++ c := by
            rw [join_eq_leading last, join_eq_leading middle]
        _ = leading a ++ (leading b ++ c) := by
            rw [leading_leading_append, String.append_assoc]
        _ = join a (join b c) := by rw [join_eq_leading relative, inner]

/-- The slash at the end of a directory leads nowhere. -/
theorem foldl_enter_front_leading (base : String) (directory : List String) :
    (front (leading base)).foldl enter directory = (components base).foldl enter directory := by
  have parts := front_concat_lastPart (leading base)
  rw [lastPart_of_isOpen (isOpen_leading base)] at parts
  by_cases open_ : isOpen base = true
  · have same : leading base = base := if_pos open_
    rw [same] at parts
    rw [same, ← parts, List.foldl_append]
    rfl
  · have same : leading base = base ++ "/" ++ "" := by
      rw [leading, if_neg open_, String.append_empty]
    have split_ : front (leading base) ++ [""] = components base ++ [""] := by
      rw [parts, same, components_slash]
      rfl
    rw [List.append_cancel_right split_]

/-- **A joined path name leads along the first one and then along the second one.** -/
theorem resolve_join (directory : List String) (a b : String) :
    resolve directory (join a b) = resolve (resolve directory a) b := by
  cases absolute : isAbsolute b with
  | true =>
    rw [join_of_isAbsolute absolute, resolve, resolve, absolute]
    rfl
  | false =>
    rw [join_eq_leading absolute, resolve, isAbsolute_leading_append absolute,
      components_leading_append, List.foldl_append, foldl_enter_front_leading,
      resolve.eq_1 _ b, absolute]
    rfl

/-- **Joining composes path names**: it is associative, it does not matter whether its parts are in
normal form, and what it makes leads along its parts, one after the other. -/
theorem join_composes (a b c : String) (directory : List String) :
    join (join a b) c = join a (join b c) ∧
      normalize (join a b) = normalize (join (normalize a) (normalize b)) ∧
      resolve directory (normalize (join a b)) = resolve (resolve directory a) b := by
  refine ⟨join_assoc a b c, normalize_eq_of_resolve fun from_ => ?_, ?_⟩
  · rw [resolve_join, resolve_join, resolve_normalize, resolve_normalize]
  · rw [resolve_normalize, resolve_join]

example : normalize (join "lists" "../progs/a.c") = "progs/a.c" := by decide

end VerifierTrials.Path
