import Mathlib.Data.List.Basic
import VerifierTrials.Proofs.Path.Parts

/-!
# The order of expansion and normalisation

A pattern is brought into normal form first and expanded then. The other order may denote another
path: two dots take off a component as it is written, and its value may be several names, or none.

Normalising sorts the parts of a pattern: what two dots take off goes, and the others are kept
(`Path.Remainder`). If each part that goes comes to one name when it is expanded, two dots take
off that name as well, and the pattern and its normal form come to the same steps
(`Path.foldl_partsOf`). What is left is where these steps begin: a part that was further back and
comes to the front may expand to an absolute path (`Path.normalize_expand_normalize_iff`).
-/

namespace VerifierTrials.Path

open VerifierTrials.Text

variable {env : Environment} {path : String}

/-! ### What comes to one name -/

/-- **A text that comes to one name** when it stands between slashes. -/
def ComesToName (s : String) : Prop := IsName (normalize ("./" ++ s))

instance (s : String) : Decidable (ComesToName s) :=
  inferInstanceAs (Decidable (IsName (normalize ("./" ++ s))))

theorem resolve_of_isName {name : String} (named : IsName name) (directory : List String) :
    resolve directory name = directory ++ [name] := by
  rw [resolve, components_of_not_mem named.noSlash, isAbsolute_of_not_mem named.noSlash]
  change Path.enter directory name = directory ++ [name]
  rw [Path.enter, if_neg (by simp [named.nonempty, named.notDot]), if_neg named.notUp]

/-- Such a text leads down to its name, wherever one is. -/
theorem ComesToName.foldl_enter {s : String} (one : ComesToName s) (directory : List String) :
    (components s).foldl Path.enter directory = directory ++ [normalize ("./" ++ s)] := by
  have parts : components ("./" ++ s) = "." :: components s := components_slash "." s
  have relative : isAbsolute ("./" ++ s) = false := by simp [isAbsolute_of_components parts]
  have leads := resolve_normalize directory ("./" ++ s)
  rw [resolve_of_isName one, resolve, relative, parts] at leads
  exact leads.symm

/-- Two dots take such a text off. -/
theorem ComesToName.foldl_enter_up {s : String} (one : ComesToName s) (directory : List String) :
    (components s ++ [".."]).foldl Path.enter directory = directory := by
  rw [List.foldl_append, one.foldl_enter]
  exact List.dropLast_concat

/-! ### What is kept of a pattern -/

/-- **What normalising makes of parts**: how often it has gone up from where the pattern begins,
which parts it has kept, last first, and which ones two dots have taken off. -/
structure Remainder where
  up : Nat
  kept : List Part
  gone : List Part

namespace Remainder

/-- One part more. -/
def enter (remainder : Remainder) (part : Part) : Remainder :=
  if part.written = "" ∨ part.written = "." then remainder
  else if part.written = ".." then
    match remainder.kept with
    | last :: kept => ⟨remainder.up, kept, last :: remainder.gone⟩
    | [] => ⟨remainder.up + 1, [], remainder.gone⟩
  else { remainder with kept := part :: remainder.kept }

/-- The components that a remainder is expanded to. -/
def steps (env : Environment) (remainder : Remainder) : List String :=
  List.replicate remainder.up ".." ++ remainder.kept.reverse.flatMap (Part.steps env)

variable {remainder : Remainder} {part : Part} {parts : List Part}

theorem enter_idle (idle : part.written = "" ∨ part.written = ".") :
    remainder.enter part = remainder := if_pos idle

theorem enter_up (up : part.written = "..") : remainder.enter part =
    match remainder.kept with
    | last :: kept => ⟨remainder.up, kept, last :: remainder.gone⟩
    | [] => ⟨remainder.up + 1, [], remainder.gone⟩ := by
  rw [enter, if_neg (by rw [up]; decide), if_pos up]

theorem enter_name (named : IsName part.written) :
    remainder.enter part = { remainder with kept := part :: remainder.kept } := by
  rw [enter, if_neg (by simp [named.nonempty, named.notDot]), if_neg named.notUp]

/-- **What one part does**: nothing, or it goes and takes the last one with it, or it goes up from
where the pattern begins, or it is kept. -/
theorem enter_cases (remainder : Remainder) (part : Part) :
    remainder.enter part = remainder ∨
      (∃ last kept, remainder.kept = last :: kept ∧
        remainder.enter part = ⟨remainder.up, kept, last :: remainder.gone⟩) ∨
      (remainder.kept = [] ∧ remainder.enter part = ⟨remainder.up + 1, [], remainder.gone⟩) ∨
      remainder.enter part = { remainder with kept := part :: remainder.kept } := by
  by_cases idle : part.written = "" ∨ part.written = "."
  · exact .inl (enter_idle idle)
  · by_cases up : part.written = ".."
    · rw [enter_up up]
      cases remainder.kept with
      | nil => exact .inr (.inr (.inl ⟨rfl, rfl⟩))
      | cons last kept => exact .inr (.inl ⟨last, kept, rfl, rfl⟩)
    · refine .inr (.inr (.inr ?_))
      rw [enter, if_neg idle, if_neg up]

/-- What is gone does not come back. -/
theorem gone_subset_enter (remainder : Remainder) (part : Part) :
    remainder.gone ⊆ (remainder.enter part).gone := by
  obtain same | ⟨last, kept, -, same⟩ | ⟨-, same⟩ | same := enter_cases remainder part
  · rw [same]
    exact List.Subset.refl _
  · rw [same]
    exact List.subset_cons_self _ _
  · rw [same]
    exact List.Subset.refl _
  · rw [same]
    exact List.Subset.refl _

theorem gone_subset_foldl (parts : List Part) (remainder : Remainder) :
    remainder.gone ⊆ (parts.foldl enter remainder).gone := by
  induction parts generalizing remainder with
  | nil => exact List.Subset.refl _
  | cons part parts ih =>
    exact List.Subset.trans (gone_subset_enter remainder part) (ih (remainder.enter part))

/-- **One part more leads one part further**, if what two dots take off comes to one name. -/
theorem foldl_steps_enter (noSlash : '/' ∉ part.written.toList)
    (own : part.written ≠ "~" → part.IsOwn)
    (single : ∀ last ∈ (remainder.enter part).gone, ComesToName (last.expanded env))
    (directory : List String) :
    (remainder.steps env ++ part.steps env).foldl Path.enter directory =
      ((remainder.enter part).steps env).foldl Path.enter directory := by
  rcases Route.component_cases noSlash with idle | up | named
  · have own' : part.IsOwn := own (by rcases idle with same | same <;> rw [same] <;> decide)
    have steps : part.steps env = [part.written] := by
      rw [part.steps_of_isOwn own' (by rcases idle with same | same <;> rw [same] <;> decide),
        components_of_not_mem noSlash]
    rw [enter_idle idle, List.foldl_append, steps]
    exact if_pos (by simpa using idle)
  · have own' : part.IsOwn := own (by rw [up]; decide)
    have steps : part.steps env = [".."] := by
      rw [part.steps_of_isOwn own' (by rw [up]; decide), components_of_not_mem noSlash, up]
    rw [enter_up up] at single ⊢
    rw [steps, Remainder.steps]
    cases kept : remainder.kept with
    | nil =>
      rw [Remainder.steps]
      simp [List.replicate_succ']
    | cons last kept =>
      rw [kept] at single
      have one := single last List.mem_cons_self
      rw [List.reverse_cons, List.flatMap_append, List.flatMap_singleton, ← List.append_assoc,
        List.append_assoc, List.foldl_append, Part.steps, one.foldl_enter_up]
      rfl
  · rw [enter_name named, Remainder.steps, Remainder.steps, List.reverse_cons, List.flatMap_append,
      List.flatMap_singleton, List.append_assoc]

/-- **A pattern leads where its remainder leads**, if what two dots take off comes to one name. -/
theorem foldl_steps (noSlash : ∀ part ∈ parts, '/' ∉ part.written.toList)
    (own : ∀ part ∈ parts, part.written ≠ "~" → part.IsOwn)
    (single : ∀ last ∈ (parts.foldl enter remainder).gone, ComesToName (last.expanded env))
    (directory : List String) :
    (remainder.steps env ++ parts.flatMap (Part.steps env)).foldl Path.enter directory =
      ((parts.foldl enter remainder).steps env).foldl Path.enter directory := by
  induction parts generalizing remainder with
  | nil => rw [List.flatMap_nil, List.append_nil, List.foldl_nil]
  | cons part parts ih =>
    rw [List.forall_mem_cons] at noSlash own
    have first := foldl_steps_enter noSlash.1 own.1
      (fun last among => single last (gone_subset_foldl parts _ among)) directory
    rw [List.flatMap_cons, ← List.append_assoc, List.foldl_append, first, ← List.foldl_append,
      ih noSlash.2 own.2 single, List.foldl_cons]

end Remainder

/-! ### The parts of a normal form -/

/-- **What is kept of a pattern**, and what goes. -/
def remainderOf (env : Environment) (path : String) : Remainder :=
  (partsOf env path).foldl Remainder.enter ⟨0, [], []⟩

namespace Remainder

variable {remainder : Remainder} {part : Part} {parts : List Part}

/-- A remainder is what makes a route. -/
structure Describes (remainder : Remainder) (route : Route) : Prop where
  names : route.names = remainder.kept.reverse.map Part.written
  up : route.absolute = false → route.up = remainder.up

theorem Describes.enter {route : Route} (describes : remainder.Describes route)
    (noSlash : '/' ∉ part.written.toList) :
    (remainder.enter part).Describes (route.enter part.written) := by
  obtain ⟨names, up⟩ := describes
  rcases Route.component_cases noSlash with idle | up' | named
  · rw [enter_idle idle, Route.enter_idle idle]
    exact ⟨names, up⟩
  · rw [enter_up up', up', Route.enter_up, Route.leave]
    cases kept : remainder.kept with
    | nil =>
      have alone : route.names = [] := by simpa [kept] using names
      rw [if_pos alone]
      refine ⟨alone, fun relative => ?_⟩
      have relative' : route.absolute = false := relative
      simp [relative', up relative']
    | cons last kept =>
      rw [kept, List.reverse_cons, List.map_append] at names
      rw [if_neg (by simp [names])]
      refine ⟨?_, up⟩
      change route.names.dropLast = _
      rw [names]
      exact List.dropLast_concat
  · rw [enter_name named]
    refine ⟨?_, fun relative => ?_⟩
    · rw [Route.names_enter named, names, List.reverse_cons, List.map_append]
      rfl
    · rw [Route.absolute_enter] at relative
      rw [Route.up_enter named, up relative]

theorem Describes.foldl_enter {route : Route} (describes : remainder.Describes route)
    (noSlash : ∀ part ∈ parts, '/' ∉ part.written.toList) :
    (parts.foldl Remainder.enter remainder).Describes
      ((parts.map Part.written).foldl Route.enter route) := by
  induction parts generalizing remainder route with
  | nil => exact describes
  | cons part parts ih =>
    rw [List.forall_mem_cons] at noSlash
    exact ih (describes.enter noSlash.1) noSlash.2

theorem kept_sublist_enter (remainder : Remainder) (part : Part) :
    (remainder.enter part).kept.reverse.Sublist (remainder.kept.reverse ++ [part]) := by
  obtain same | ⟨last, kept, before, same⟩ | ⟨-, same⟩ | same := enter_cases remainder part
  · rw [same]
    exact List.sublist_append_left _ _
  · rw [same, before, List.reverse_cons, List.append_assoc]
    exact List.sublist_append_left _ _
  · rw [same]
    exact List.nil_sublist _
  · rw [same, List.reverse_cons]

/-- What is kept stands in the order of the pattern. -/
theorem kept_sublist_foldl (parts : List Part) (remainder : Remainder) :
    (parts.foldl enter remainder).kept.reverse.Sublist (remainder.kept.reverse ++ parts) := by
  induction parts generalizing remainder with
  | nil => rw [List.append_nil, List.foldl_nil]
  | cons part parts ih =>
    refine (ih (remainder.enter part)).trans ?_
    rw [← List.singleton_append, ← List.append_assoc]
    exact (kept_sublist_enter remainder part).append_right parts

/-- **A part that is kept has nothing put in for it**, but for the one at the front of the pattern,
which stays at the front as long as it is kept. -/
def IsOwn (first : Part) (remainder : Remainder) : Prop :=
  (∀ part ∈ remainder.kept, part.IsOwn) ∨
    remainder.up = 0 ∧ ∃ more, remainder.kept = more ++ [first] ∧ ∀ part ∈ more, part.IsOwn

theorem IsOwn.enter {first : Part} (own : remainder.IsOwn first) (own' : part.IsOwn) :
    (remainder.enter part).IsOwn first := by
  obtain same | ⟨last, kept, before, same⟩ | ⟨-, same⟩ | same := enter_cases remainder part
  · rwa [same]
  · rw [same]
    rcases own with all | ⟨up, more, front, all⟩
    · rw [before, List.forall_mem_cons] at all
      exact .inl all.2
    · cases more with
      | nil =>
        -- the last part that is kept is the front one, and it goes
        obtain rfl : kept = [] := (List.cons.inj (before.symm.trans front)).2
        exact .inl (List.forall_mem_nil _)
      | cons one more =>
        obtain rfl : kept = more ++ [first] := (List.cons.inj (before.symm.trans front)).2
        exact .inr ⟨up, more, rfl, (List.forall_mem_cons.mp all).2⟩
  · rw [same]
    exact .inl (List.forall_mem_nil _)
  · rw [same]
    rcases own with all | ⟨up, more, front, all⟩
    · exact .inl (List.forall_mem_cons.mpr ⟨own', all⟩)
    · exact .inr ⟨up, part :: more, congrArg (part :: ·) front,
        List.forall_mem_cons.mpr ⟨own', all⟩⟩

theorem IsOwn.foldl_enter {first : Part} (own : remainder.IsOwn first)
    (own' : ∀ part ∈ parts, part.IsOwn) : (parts.foldl Remainder.enter remainder).IsOwn first := by
  induction parts generalizing remainder with
  | nil => exact own
  | cons part parts ih =>
    rw [List.forall_mem_cons] at own'
    exact ih (own.enter own'.1) own'.2

end Remainder

theorem describes_remainderOf (env : Environment) (path : String) :
    (remainderOf env path).Describes (Route.ofPath path) := by
  have begins : (Remainder.mk 0 [] []).Describes (Route.start (isAbsolute path)) :=
    ⟨rfl, fun _ => rfl⟩
  have noSlash : ∀ part ∈ partsOf env path, '/' ∉ part.written.toList :=
    fun _ => noSlash_of_mem_partsOf
  have whole := begins.foldl_enter noSlash
  rwa [map_written_partsOf] at whole

theorem isOwn_remainderOf (env : Environment) {first : String} {rest : List String}
    (parts : components path = first :: rest) :
    (remainderOf env path).IsOwn ⟨first, expandUser env first⟩ := by
  have begins : ((Remainder.mk 0 [] []).enter ⟨first, expandUser env first⟩).IsOwn
      ⟨first, expandUser env first⟩ := by
    obtain same | ⟨last, kept, before, -⟩ | ⟨-, same⟩ | same :=
      Remainder.enter_cases ⟨0, [], []⟩ ⟨first, expandUser env first⟩
    · rw [same]
      exact .inl (List.forall_mem_nil _)
    · cases before
    · rw [same]
      exact .inl (List.forall_mem_nil _)
    · rw [same]
      exact .inr ⟨rfl, [], rfl, List.forall_mem_nil _⟩
  rw [remainderOf, partsOf_eq parts, List.foldl_cons]
  refine begins.foldl_enter fun part among => ?_
  obtain ⟨component, -, rfl⟩ := List.mem_map.mp among
  exact isOwn_later component

theorem kept_sublist_partsOf (env : Environment) (path : String) :
    (remainderOf env path).kept.reverse.Sublist (partsOf env path) :=
  Remainder.kept_sublist_foldl (partsOf env path) ⟨0, [], []⟩

/-- Nothing is above the root. -/
theorem foldl_enter_root (n : Nat) : (List.replicate n "..").foldl Path.enter [] = [] := by
  induction n with
  | zero => rfl
  | succ n ih => exact ih

/-- Parts that are kept of an absolute pattern have nothing put in for them. -/
theorem isOwn_of_absolute (env : Environment) (absolute : isAbsolute path = true) :
    ∀ part ∈ (remainderOf env path).kept.reverse, part.IsOwn := by
  obtain ⟨first, rest, parts⟩ := List.exists_cons_of_ne_nil (components_ne_nil path)
  rw [isAbsolute_of_components parts, Bool.and_eq_true, decide_eq_true_eq] at absolute
  intro part among
  have within := (kept_sublist_partsOf env path).subset among
  rw [partsOf_eq_map parts (by rw [absolute.1]; decide)] at within
  obtain ⟨component, -, rfl⟩ := List.mem_map.mp within
  exact isOwn_later component

/-- **The parts of a normal form**: those that are kept, behind some that go up from where the
pattern begins. -/
structure KeepsParts (env : Environment) (path : String) (above : List Part) : Prop where
  parts : partsOf env (normalize path) = above ++ (remainderOf env path).kept.reverse
  closed : ∀ part ∈ above, IsClosed part.meant
  leads : ∀ directory, (isAbsolute path = true → directory = []) →
    (above.flatMap (Part.steps env)).foldl Path.enter directory =
      (List.replicate (remainderOf env path).up "..").foldl Path.enter directory

/-- Components with nothing to expand, before parts with nothing put in for them. -/
theorem keepsParts_of_above {first : String} {above : List String}
    (parts : components (normalize path) =
      (first :: above) ++ (remainderOf env path).kept.reverse.map Part.written)
    (plain : ∀ c ∈ first :: above, c = "" ∨ c = "." ∨ c = "..")
    (own : ∀ part ∈ (remainderOf env path).kept.reverse, part.IsOwn)
    (leads : ∀ directory, (isAbsolute path = true → directory = []) →
      (first :: above).foldl Path.enter directory =
        (List.replicate (remainderOf env path).up "..").foldl Path.enter directory) :
    KeepsParts env path ((first :: above).map Part.later) := by
  have bare : ∀ c ∈ first :: above, '$' ∉ c.toList ∧ '/' ∉ c.toList ∧ c ≠ "~" := by
    intro c among
    rcases plain c among with rfl | rfl | rfl <;> decide
  have steps : ∀ c ∈ first :: above, (Part.later c).steps env = [c] := fun c among => by
    rw [steps_later (bare c among).1, components_of_not_mem (bare c among).2.1]
  refine ⟨?_, List.forall_mem_map.mpr fun c among => isClosed_of_not_mem (bare c among).1,
    fun directory root => ?_⟩
  · rw [List.cons_append] at parts
    rw [partsOf_eq_map parts (bare first List.mem_cons_self).2.2, ← List.cons_append,
      List.map_append, map_later_of_isOwn own]
  · rw [List.flatMap_map, List.flatMap_congr steps, List.flatMap_singleton', leads directory root]

theorem keepsParts_of_absolute (absolute : isAbsolute path = true) :
    ∃ above, KeepsParts env path above := by
  have names := (describes_remainderOf env path).names
  have rooted : (Route.ofPath path).absolute = true := (absolute_ofPath path).trans absolute
  have steps : (Route.ofPath path).steps =
      (remainderOf env path).kept.reverse.map Part.written := by
    rw [Route.steps, (Route.ofPath path).grounded rooted, names]
    rfl
  have parts := (Route.ofPath path).components_text
  rw [← normalize_eq_text, if_pos rooted, steps] at parts
  have own := isOwn_of_absolute env absolute
  by_cases none_ : (remainderOf env path).kept.reverse.map Part.written = []
  · have parts' : components (normalize path) =
        ["", ""] ++ (remainderOf env path).kept.reverse.map Part.written := by
      rw [parts, if_pos none_, none_]
      rfl
    refine ⟨_, keepsParts_of_above parts' (by simp) own fun directory root => ?_⟩
    rw [root absolute, foldl_enter_root]
    rfl
  · have parts' : components (normalize path) =
        [""] ++ (remainderOf env path).kept.reverse.map Part.written := by
      rw [parts, if_neg none_]
      rfl
    refine ⟨_, keepsParts_of_above parts' (by simp) own fun directory root => ?_⟩
    rw [root absolute, foldl_enter_root]
    rfl

/-- **A normal form has its own tilde**: if it begins at home, it does so with the component that
the pattern begins with, or there is no home directory. -/
def KeepsHome (env : Environment) (path : String) : Prop :=
  StartsAtHome (normalize path) → ∀ part, (remainderOf env path).kept.getLast? = some part →
    expandUser env part.written = part.meant

/-- The components of a relative normal form. -/
theorem components_normalize_of_relative (env : Environment) (relative : isAbsolute path = false) :
    components (normalize path) =
      if List.replicate (remainderOf env path).up ".." ++
        (remainderOf env path).kept.reverse.map Part.written = [] then ["."]
      else List.replicate (remainderOf env path).up ".." ++
        (remainderOf env path).kept.reverse.map Part.written := by
  obtain ⟨names, up⟩ := describes_remainderOf env path
  have unrooted : (Route.ofPath path).absolute = false := (absolute_ofPath path).trans relative
  have parts := (Route.ofPath path).components_text
  rwa [← normalize_eq_text, if_neg (by simp [unrooted]), Route.steps, up unrooted, names] at parts

/-- What is kept behind two dots has nothing put in for it, as the front of the pattern is gone. -/
theorem keepsParts_of_up {n : Nat} (relative : isAbsolute path = false)
    (up : (remainderOf env path).up = n + 1) : ∃ above, KeepsParts env path above := by
  obtain ⟨first, rest, parts⟩ := List.exists_cons_of_ne_nil (components_ne_nil path)
  have own : ∀ part ∈ (remainderOf env path).kept.reverse, part.IsOwn := by
    rcases isOwn_remainderOf env parts with all | ⟨zero, -⟩
    · exact fun part among => all part (List.mem_reverse.mp among)
    · rw [up] at zero
      cases zero
  have parts' := components_normalize_of_relative env relative
  rw [up, List.replicate_succ, List.cons_append, if_neg (List.cons_ne_nil _ _)] at parts'
  refine ⟨_, keepsParts_of_above parts' (fun c among => ?_) own fun directory _ => ?_⟩
  · rw [← List.replicate_succ] at among
    exact .inr (.inr (List.eq_of_mem_replicate among))
  · rw [up, List.replicate_succ]

/-- What is kept at the front of a normal form is the front of the pattern, or has nothing put in
for it. -/
theorem keepsParts_of_front {front : Part} {more : List Part} (relative : isAbsolute path = false)
    (home : KeepsHome env path) (up : (remainderOf env path).up = 0)
    (kept : (remainderOf env path).kept.reverse = front :: more) : KeepsParts env path [] := by
  have parts := components_normalize_of_relative env relative
  rw [up, kept, List.replicate_zero, List.nil_append, List.map_cons,
    if_neg (List.cons_ne_nil _ _)] at parts
  have last : (remainderOf env path).kept.getLast? = some front := by
    rw [← List.head?_reverse, kept, List.head?_cons]
  have within : front ∈ partsOf env path :=
    (kept_sublist_partsOf env path).subset (kept ▸ List.mem_cons_self)
  have same : expandUser env front.written = front.meant := by
    by_cases tilde : front.written = "~"
    · rw [tilde] at parts
      exact home (startsAtHome_of_components parts) front last
    · rw [expandUser_of_not_startsAtHome
        (mt (startsAtHome_of_not_mem (noSlash_of_mem_partsOf within)).mp tilde),
        isOwn_of_mem_partsOf within tilde]
  have own : ∀ part ∈ more, part.IsOwn := by
    obtain ⟨first, rest, parts'⟩ := List.exists_cons_of_ne_nil (components_ne_nil path)
    rcases isOwn_remainderOf env parts' with all | ⟨-, others, kept', all⟩
    · exact fun part among => all part (List.mem_reverse.mp (by rw [kept]; simp [among]))
    · rw [kept', List.reverse_append] at kept
      obtain ⟨-, rfl⟩ := List.cons.inj kept
      exact fun part among => all part (List.mem_reverse.mp among)
  refine ⟨?_, List.forall_mem_nil _, fun directory _ => ?_⟩
  · rw [partsOf_eq parts, same, map_later_of_isOwn own, kept]
    rfl
  · rw [up]
    rfl

theorem keepsParts_of_relative (relative : isAbsolute path = false) (home : KeepsHome env path) :
    ∃ above, KeepsParts env path above := by
  cases up : (remainderOf env path).up with
  | succ n => exact keepsParts_of_up relative up
  | zero =>
    cases kept : (remainderOf env path).kept.reverse with
    | cons front more => exact ⟨[], keepsParts_of_front relative home up kept⟩
    | nil =>
      have parts := components_normalize_of_relative env relative
      rw [up, kept, List.replicate_zero, List.map_nil, List.nil_append, if_pos rfl] at parts
      have parts' : components (normalize path) =
          ["."] ++ (remainderOf env path).kept.reverse.map Part.written := by
        rw [parts, kept]
        rfl
      have own : ∀ part ∈ (remainderOf env path).kept.reverse, part.IsOwn := by
        rw [kept]
        exact List.forall_mem_nil _
      refine ⟨_, keepsParts_of_above parts' (by simp) own fun directory _ => ?_⟩
      rw [up]
      rfl

theorem exists_keepsParts (home : KeepsHome env path) : ∃ above, KeepsParts env path above := by
  cases absolute : isAbsolute path with
  | true => exact keepsParts_of_absolute absolute
  | false => exact keepsParts_of_relative absolute home

/-! ### The two orders -/

/-- **A pattern that expands in its place**: no reference reaches over a slash, what two dots take
off comes to one name, and the normal form has no tilde at its front but that of the pattern. -/
structure ExpandsInPlace (env : Environment) (path : String) : Prop where
  apart : AreApart ((partsOf env path).map Part.meant)
  single : ∀ part ∈ (remainderOf env path).gone, ComesToName (part.expanded env)
  home : KeepsHome env path

/-- A pattern leads where its remainder leads. -/
theorem foldl_partsOf
    (single : ∀ part ∈ (remainderOf env path).gone, ComesToName (part.expanded env))
    (directory : List String) :
    ((partsOf env path).flatMap (Part.steps env)).foldl Path.enter directory =
      ((remainderOf env path).steps env).foldl Path.enter directory :=
  Remainder.foldl_steps (fun _ => noSlash_of_mem_partsOf) (fun _ => isOwn_of_mem_partsOf) single
    directory

/-- **Expanded, an absolute pattern is absolute.** -/
theorem isAbsolute_expand (apart : AreApart ((partsOf env path).map Part.meant))
    (absolute : isAbsolute path = true) : isAbsolute (expand env path) = true := by
  obtain ⟨first, rest, parts⟩ := List.exists_cons_of_ne_nil (components_ne_nil path)
  rw [isAbsolute_of_components parts, Bool.and_eq_true, decide_eq_true_eq] at absolute
  obtain ⟨rfl, more⟩ := absolute
  have whole := components_expand apart
  rw [partsOf_eq_map parts (by decide), List.map_cons, List.flatMap_cons,
    steps_later (by decide)] at whole
  rw [isAbsolute_of_components whole]
  obtain ⟨next, rest, rfl⟩ := List.exists_cons_of_ne_nil (by simpa using more)
  simp [Part.steps, components_ne_nil]

/-- **Normalising a pattern before it is expanded** makes no difference to the path it denotes
exactly if it makes none to whether the path is absolute, for every pattern that expands in its
place. -/
theorem normalize_expand_normalize_iff (place : ExpandsInPlace env path) :
    normalize (expand env (normalize path)) = normalize (expand env path) ↔
      isAbsolute (expand env (normalize path)) = isAbsolute (expand env path) := by
  refine ⟨fun same => ?_, fun alike => normalize_eq_of_resolve fun directory => ?_⟩
  · rw [← isAbsolute_normalize, same, isAbsolute_normalize]
  obtain ⟨above, parts, closed, leads⟩ := exists_keepsParts place.home
  have closed' : ∀ text ∈ above.map Part.meant, IsClosed text := List.forall_mem_map.mpr closed
  have apart : AreApart ((partsOf env (normalize path)).map Part.meant) := by
    rw [parts, List.map_append, AreApart, List.pairwise_append]
    exact ⟨List.pairwise_of_forall_mem_list fun text among _ _ => .inl (closed' text among),
      place.apart.sublist ((kept_sublist_partsOf env path).map _),
      fun text among _ _ => .inl (closed' text among)⟩
  have begins : isAbsolute path = true →
      (if isAbsolute (expand env path) then [] else directory) = [] := fun absolute => by
    rw [isAbsolute_expand place.apart absolute, if_pos rfl]
  rw [resolve_expand apart, resolve_expand place.apart, alike, foldl_partsOf place.single, parts,
    List.flatMap_append, List.foldl_append, leads _ begins, Remainder.steps, List.foldl_append]

/-- A home directory, two values with several names in them, and one with one name. -/
def furnished : Environment := ⟨[("HOME", "/h"), ("X", "a/b"), ("Y", "y"), ("Z", "c//d")]⟩

/-- The variable that two dots take off is the one with one name. -/
theorem normalize_expand_normalize_furnished :
    ExpandsInPlace furnished "~/$X//$Y/../$Z/." ∧
      normalize (expand furnished (normalize "~/$X//$Y/../$Z/.")) =
        normalize (expand furnished "~/$X//$Y/../$Z/.") ∧
      normalize (expand furnished "~/$X//$Y/../$Z/.") = "/h/a/b/c/d" := by
  have noBrace : ∀ text ∈ (partsOf furnished "~/$X//$Y/../$Z/.").map Part.meant,
      '\x7d' ∉ text.toList := by decide
  have front : (remainderOf furnished "~/$X//$Y/../$Z/.").kept.getLast? = some ⟨"~", "/h"⟩ := by
    decide
  have place : ExpandsInPlace furnished "~/$X//$Y/../$Z/." :=
    { apart := List.pairwise_of_forall_mem_list fun _ _ later among => .inr (noBrace later among)
      single := by decide
      home := fun _ part last => by
        obtain rfl := Option.some.inj (front.symm.trans last)
        decide }
  exact ⟨place, (normalize_expand_normalize_iff place).mpr (by decide), by decide⟩

/-- Two dots take off a component as it is written, and so a whole path that it stands for. -/
theorem not_forall_normalize_expand_normalize : ¬∀ (env : Environment) (path : String),
    normalize (expand env (normalize path)) = normalize (expand env path) := by
  intro all
  have same := all ⟨[("X", "b/c")]⟩ "$X/../a.c"
  revert same
  decide

end VerifierTrials.Path
