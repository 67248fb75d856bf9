import VerifierTrials.Proofs.Path.Components

/-!
# The routes that path names describe

A path name says more than where it leads: it may go down and up again, stay where it is, or go
up from the root. What it comes down to is a **route** (`Path.Route`): from the root or from where
one is, so many steps up, and then down along names. A route is read off a path name component by
component (`Path.Route.ofPath`), and it leads from every directory to where the path name leads
(`Path.resolve_eq_leadsTo`).

The normal form of a path name is its route written down (`Path.normalize_eq_text`), and what is
written is read again (`Path.Route.ofPath_text`), so that nothing of a route is lost. That nothing
more than its meaning is kept takes directories in which two routes come apart
(`Path.Route.eq_of_leadsTo`): from the root both show their names alone, and from a directory that
is deep enough the number of names that are left tells how far each of them has gone up.
-/

namespace VerifierTrials.Path

open VerifierTrials.Text

/-- **A name**: a component that goes down. -/
structure IsName (name : String) : Prop where
  nonempty : name ≠ ""
  notDot : name ≠ "."
  notUp : name ≠ ".."
  noSlash : '/' ∉ name.toList

instance (name : String) : Decidable (IsName name) :=
  decidable_of_iff (name ≠ "" ∧ name ≠ "." ∧ name ≠ ".." ∧ '/' ∉ name.toList)
    ⟨fun ⟨nonempty, notDot, notUp, noSlash⟩ => ⟨nonempty, notDot, notUp, noSlash⟩,
      fun named => ⟨named.nonempty, named.notDot, named.notUp, named.noSlash⟩⟩

/-- A directory, by the names that lead to it from the root. -/
def IsDirectory (directory : List String) : Prop := ∀ name ∈ directory, IsName name

/-- **What a path name comes down to**: the way from the root, or so many steps up from where one
is, and then down along names. Nothing is above the root. -/
@[ext]
structure Route where
  absolute : Bool
  up : Nat
  names : List String
  named : ∀ name ∈ names, IsName name
  grounded : absolute = true → up = 0

namespace Route

/-- The route that stays at the root, or where one is. -/
def start (absolute : Bool) : Route := ⟨absolute, 0, [], by simp, fun _ => rfl⟩

/-- One step up. -/
def leave (route : Route) : Route :=
  if route.names = [] then
    { route with
      up := if route.absolute then 0 else route.up + 1
      grounded := fun absolute => if_pos absolute }
  else
    { route with
      names := route.names.dropLast
      named := fun name among => route.named name (List.dropLast_subset _ among) }

/-- One component more. What is neither a name nor two dots stays where it is. -/
def enter (route : Route) (component : String) : Route :=
  if component = ".." then route.leave
  else if named : IsName component then
    { route with
      names := route.names ++ [component]
      named := List.forall_mem_append.mpr ⟨route.named, List.forall_mem_singleton.mpr named⟩ }
  else route

/-- **The route of a path name.** -/
def ofPath (path : String) : Route := (components path).foldl enter (start (isAbsolute path))

/-- **Where a route leads** from a directory. -/
def leadsTo (route : Route) (directory : List String) : List String :=
  (if route.absolute then [] else directory.take (directory.length - route.up)) ++ route.names

/-- The components that a route is written with. -/
def steps (route : Route) : List String := List.replicate route.up ".." ++ route.names

/-- **A route written down.** The one that goes nowhere is a dot. -/
def text (route : Route) : String :=
  if route.absolute then "/" ++ Text.join "/" route.steps
  else if route.steps = [] then "." else Text.join "/" route.steps

variable {route : Route} {component : String}

/-! ### One component more -/

theorem enter_idle (idle : component = "" ∨ component = ".") :
    route.enter component = route := by
  have notUp : component ≠ ".." := by rcases idle with rfl | rfl <;> decide
  have notName : ¬IsName component := by
    rcases idle with rfl | rfl
    · exact fun named => named.nonempty rfl
    · exact fun named => named.notDot rfl
  rw [enter, if_neg notUp, dif_neg notName]

theorem enter_up : route.enter ".." = route.leave := if_pos rfl

theorem names_enter (named : IsName component) :
    (route.enter component).names = route.names ++ [component] := by
  rw [enter, if_neg named.notUp, dif_pos named]

theorem up_enter (named : IsName component) : (route.enter component).up = route.up := by
  rw [enter, if_neg named.notUp, dif_pos named]

theorem absolute_leave (route : Route) : route.leave.absolute = route.absolute := by
  rw [leave]
  split <;> rfl

theorem absolute_enter (route : Route) (component : String) :
    (route.enter component).absolute = route.absolute := by
  rw [enter]
  split
  next => exact absolute_leave route
  next => split <;> rfl

/-- A component that has no slash in it stays, goes up, or is a name. -/
theorem component_cases (noSlash : '/' ∉ component.toList) :
    (component = "" ∨ component = ".") ∨ component = ".." ∨ IsName component := by
  by_cases idle : component = "" ∨ component = "."
  · exact .inl idle
  · by_cases up : component = ".."
    · exact .inr (.inl up)
    · obtain ⟨nonempty, notDot⟩ := not_or.mp idle
      exact .inr (.inr ⟨nonempty, notDot, up, noSlash⟩)

/-! ### Where it leads -/

/-- One step up on a route is one step up from where it leads. -/
theorem leadsTo_leave (route : Route) (directory : List String) :
    route.leave.leadsTo directory = (route.leadsTo directory).dropLast := by
  rw [leave]
  split
  next alone =>
    simp only [leadsTo, alone, List.append_nil]
    cases route.absolute with
    | true => rfl
    | false =>
      simp only [Bool.false_eq_true, if_false, List.dropLast_eq_take, List.take_take,
        List.length_take]
      congr 1
      omega
  next further => simp [leadsTo, List.dropLast_append_of_ne_nil further]

/-- **One component more leads one step further.** -/
theorem leadsTo_enter (noSlash : '/' ∉ component.toList) (directory : List String) :
    (route.enter component).leadsTo directory = Path.enter (route.leadsTo directory) component := by
  rcases component_cases noSlash with idle | rfl | named
  · rw [enter_idle idle, Path.enter, if_pos (by simpa using idle)]
  · rw [enter_up, leadsTo_leave]
    rfl
  · rw [Path.enter, if_neg (by simp [named.nonempty, named.notDot]), if_neg named.notUp, leadsTo,
      absolute_enter, up_enter named, names_enter named, leadsTo, List.append_assoc]

theorem leadsTo_foldl {parts : List String} (plain : ∀ part ∈ parts, '/' ∉ part.toList)
    (route : Route) (directory : List String) :
    (parts.foldl enter route).leadsTo directory =
      parts.foldl Path.enter (route.leadsTo directory) := by
  induction parts generalizing route with
  | nil => rfl
  | cons part parts ih =>
    obtain ⟨noSlash, plain⟩ := List.forall_mem_cons.mp plain
    rw [List.foldl_cons, List.foldl_cons, ih plain, leadsTo_enter noSlash]

end Route

/-- **A path name leads where its route leads.** -/
theorem resolve_eq_leadsTo (directory : List String) (path : String) :
    resolve directory path = (Route.ofPath path).leadsTo directory := by
  have begins : (Route.start (isAbsolute path)).leadsTo directory =
      if isAbsolute path then [] else directory := by
    simp [Route.start, Route.leadsTo]
  rw [resolve, Route.ofPath, Route.leadsTo_foldl fun part among => not_mem_of_mem_components among,
    begins]

/-! ### Routes told apart -/

namespace Route

variable {route other : Route} {component : String}

theorem length_leadsTo (route : Route) (directory : List String) :
    (route.leadsTo directory).length =
      (if route.absolute then 0 else directory.length - route.up) + route.names.length := by
  rw [leadsTo, List.length_append]
  split
  next => rfl
  next => rw [List.length_take, Nat.min_eq_left (Nat.sub_le _ _)]

/-- **Routes that lead to the same place from every directory are the same.** -/
theorem eq_of_leadsTo
    (same : ∀ directory, IsDirectory directory →
      route.leadsTo directory = other.leadsTo directory) :
    route = other := by
  have names : route.names = other.names := by
    simpa [leadsTo] using same [] (by simp [IsDirectory])
  -- a directory that neither of the two goes up to the root from
  let depth := route.up + other.up + 1
  have deep : IsDirectory (List.replicate depth "a") := fun name among => by
    rw [List.eq_of_mem_replicate among]
    decide
  have left := congrArg List.length (same _ deep)
  rw [length_leadsTo, length_leadsTo, names, Nat.add_right_cancel_iff,
    List.length_replicate] at left
  have starts : route.absolute = other.absolute ∧ route.up = other.up := by
    cases root : route.absolute <;> cases root' : other.absolute <;>
      simp only [root, root', Bool.false_eq_true, if_true, if_false] at left
    · exact ⟨rfl, by omega⟩
    · omega
    · omega
    · exact ⟨rfl, by rw [route.grounded root, other.grounded root']⟩
  exact Route.ext starts.1 starts.2 names

/-! ### Routes written down -/

theorem noSlash_of_mem_steps (route : Route) : ∀ part ∈ route.steps, '/' ∉ part.toList := by
  intro part among
  rcases List.mem_append.mp among with above | below
  · rw [List.eq_of_mem_replicate above]
    decide
  · exact (route.named part below).noSlash

theorem nonempty_of_mem_steps (route : Route) : ∀ part ∈ route.steps, part ≠ "" := by
  intro part among
  rcases List.mem_append.mp among with above | below
  · rw [List.eq_of_mem_replicate above]
    decide
  · exact (route.named part below).nonempty

theorem components_join_steps (further : route.steps ≠ []) :
    components (Text.join "/" route.steps) = route.steps :=
  components_join further route.noSlash_of_mem_steps

/-- Only where there are no steps nothing is written. -/
theorem join_steps_eq_empty : Text.join "/" route.steps = "" ↔ route.steps = [] := by
  refine ⟨fun empty => Decidable.of_not_not fun further => ?_, fun none_ => by rw [none_]; rfl⟩
  have parts := components_join_steps further
  rw [empty, show components "" = [""] from rfl] at parts
  exact route.nonempty_of_mem_steps "" (parts ▸ List.mem_singleton_self "") rfl

/-- Steps up from where one is, or from above it. -/
theorem foldl_enter_up (n : Nat) (alone : route.names = []) (relative : route.absolute = false) :
    ((List.replicate n "..").foldl enter route).up = route.up + n ∧
      ((List.replicate n "..").foldl enter route).names = [] := by
  induction n generalizing route with
  | zero => exact ⟨rfl, alone⟩
  | succ n ih =>
    have stepUp : (route.enter "..").up = route.up + 1 := by
      rw [enter_up, leave, if_pos alone]
      simp [relative]
    have stepNames : (route.enter "..").names = [] := by
      rw [enter_up, leave, if_pos alone]
      exact alone
    obtain ⟨up, names⟩ := ih stepNames ((absolute_enter _ _).trans relative)
    rw [List.replicate_succ, List.foldl_cons]
    exact ⟨by rw [up, stepUp, Nat.add_assoc, Nat.add_comm 1], names⟩

/-- Names on the way down. -/
theorem foldl_enter_names {names : List String} (named : ∀ name ∈ names, IsName name)
    (route : Route) :
    (names.foldl enter route).up = route.up ∧
      (names.foldl enter route).names = route.names ++ names := by
  induction names generalizing route with
  | nil => exact ⟨rfl, (List.append_nil _).symm⟩
  | cons name names ih =>
    obtain ⟨first, named⟩ := List.forall_mem_cons.mp named
    obtain ⟨up, further⟩ := ih named (route.enter name)
    rw [List.foldl_cons]
    exact ⟨up.trans (up_enter first), by rw [further, names_enter first, List.append_assoc]; rfl⟩

theorem absolute_foldl (parts : List String) (route : Route) :
    (parts.foldl enter route).absolute = route.absolute := by
  induction parts generalizing route with
  | nil => rfl
  | cons part parts ih => rw [List.foldl_cons, ih, absolute_enter]

/-- **The steps of a route make the route.** -/
theorem foldl_steps (route : Route) : route.steps.foldl enter (start route.absolute) = route := by
  let above := (List.replicate route.up "..").foldl enter (start route.absolute)
  obtain ⟨up, names⟩ : above.up = route.up ∧ above.names = [] := by
    cases root : route.absolute with
    | true =>
      have none_ : route.up = 0 := route.grounded root
      simp [above, none_, start]
    | false =>
      have alone : (start route.absolute).names = [] := rfl
      obtain ⟨up, names⟩ := foldl_enter_up route.up alone root
      exact ⟨up.trans (Nat.zero_add _), names⟩
  obtain ⟨up', names'⟩ := foldl_enter_names route.named above
  rw [steps, List.foldl_append]
  refine Route.ext ?_ (up'.trans up) (by rw [names', names, List.nil_append])
  rw [absolute_foldl, absolute_foldl]
  rfl

/-- **A route that is written down is read again.** -/
theorem ofPath_text (route : Route) : ofPath route.text = route := by
  have again : ∀ absolute, (components (Text.join "/" route.steps)).foldl enter (start absolute) =
      route.steps.foldl enter (start absolute) := fun absolute => by
    by_cases none_ : route.steps = []
    · rw [join_steps_eq_empty.mpr none_, none_]
      exact enter_idle (.inl rfl)
    · rw [components_join_steps none_]
  refine Eq.trans ?_ (foldl_steps route)
  cases root : route.absolute with
  | true =>
    have parts : components route.text = "" :: components (Text.join "/" route.steps) := by
      rw [text, if_pos root]
      exact components_slash "" _
    have absolute : isAbsolute route.text = true := by
      rw [isAbsolute_of_components parts]
      simp [components_ne_nil]
    rw [ofPath, absolute, parts, List.foldl_cons, enter_idle (.inl rfl), again]
  | false =>
    by_cases none_ : route.steps = []
    · rw [text, if_neg (by simp [root]), if_pos none_, none_]
      exact enter_idle (.inr rfl)
    · have parts : components route.text = route.steps := by
        rw [text, if_neg (by simp [root]), if_neg none_, components_join_steps none_]
      obtain ⟨first, more, steps⟩ := List.exists_cons_of_ne_nil none_
      have relative : isAbsolute route.text = false := by
        rw [isAbsolute_of_components (parts.trans steps)]
        have nonempty : first ≠ "" :=
          route.nonempty_of_mem_steps first (by rw [steps]; exact List.mem_cons_self)
        simp [nonempty]
      rw [ofPath, relative, parts]

/-! ### The stack of a route -/

theorem steps_of_further (further : route.names ≠ []) :
    route.steps = route.leave.steps ++ [route.names.getLast further] := by
  rw [leave, if_neg further, steps, steps, List.append_assoc, List.dropLast_concat_getLast]

theorem steps_of_alone (alone : route.names = []) :
    route.steps = List.replicate route.up ".." ∧
      route.leave.steps =
        List.replicate (if route.absolute then 0 else route.up + 1) ".." := by
  simp [leave, steps, alone]

/-- **One component put on the stack of a route** makes the stack of the route with it. -/
theorem push_steps (noSlash : '/' ∉ component.toList) :
    push route.absolute route.steps.reverse component = (route.enter component).steps.reverse := by
  unfold push
  rcases component_cases noSlash with idle | rfl | named
  · rw [enter_idle idle, if_pos (by simpa using idle)]
  · rw [enter_up, if_neg (by decide), if_pos rfl]
    by_cases alone : route.names = []
    · obtain ⟨before, after⟩ := steps_of_alone alone
      rw [before, after, List.reverse_replicate, List.reverse_replicate]
      cases root : route.absolute with
      | true => rw [route.grounded root]; rfl
      | false => cases route.up <;> rfl
    · have notUp : route.names.getLast alone ≠ ".." :=
        (route.named _ (List.getLast_mem alone)).notUp
      rw [steps_of_further alone, List.reverse_concat]
      simp only [if_neg notUp]
  · rw [if_neg (by simp [named.nonempty, named.notDot]), if_neg named.notUp, steps, steps,
      up_enter named, names_enter named, ← List.append_assoc, List.reverse_concat]

theorem foldl_push {parts : List String} (plain : ∀ part ∈ parts, '/' ∉ part.toList)
    (route : Route) :
    parts.foldl (push route.absolute) route.steps.reverse =
      (parts.foldl enter route).steps.reverse := by
  induction parts generalizing route with
  | nil => rfl
  | cons part parts ih =>
    obtain ⟨noSlash, plain⟩ := List.forall_mem_cons.mp plain
    rw [List.foldl_cons, List.foldl_cons, push_steps noSlash, ← ih plain, absolute_enter]

end Route

/-- **The normal form of a path name is its route written down.** -/
theorem normalize_eq_text (path : String) : normalize path = (Route.ofPath path).text := by
  have stack : (components path).foldl (push (isAbsolute path)) [] =
      (Route.ofPath path).steps.reverse :=
    Route.foldl_push (fun part among => not_mem_of_mem_components among)
      (Route.start (isAbsolute path))
  have absolute : (Route.ofPath path).absolute = isAbsolute path := Route.absolute_foldl _ _
  simp only [normalize, stack, List.reverse_reverse, Route.text, absolute,
    Route.join_steps_eq_empty]

/-- The components of a route that is written down. -/
theorem Route.components_text (route : Route) : components route.text =
    if route.absolute then "" :: (if route.steps = [] then [""] else route.steps)
    else if route.steps = [] then ["."] else route.steps := by
  rw [text]
  by_cases none_ : route.steps = []
  · simp only [none_, if_true]
    split <;> rfl
  · simp only [none_, if_false]
    split
    next => exact (components_slash "" _).trans (congrArg ("" :: ·) (components_join_steps none_))
    next => exact components_join_steps none_

theorem absolute_ofPath (path : String) : (Route.ofPath path).absolute = isAbsolute path :=
  Route.absolute_foldl _ _

/-- A normal form leads where the path name leads. -/
theorem resolve_normalize (directory : List String) (path : String) :
    resolve directory (normalize path) = resolve directory path := by
  rw [resolve_eq_leadsTo, resolve_eq_leadsTo, normalize_eq_text, Route.ofPath_text]

/-- Path names that lead to the same places have one normal form. -/
theorem normalize_eq_of_resolve {path other : String}
    (same : ∀ directory, resolve directory path = resolve directory other) :
    normalize path = normalize other := by
  simp only [resolve_eq_leadsTo] at same
  rw [normalize_eq_text, normalize_eq_text, Route.eq_of_leadsTo fun directory _ => same directory]

theorem isAbsolute_normalize (path : String) : isAbsolute (normalize path) = isAbsolute path := by
  rw [← absolute_ofPath, normalize_eq_text, Route.ofPath_text, absolute_ofPath]

/-- **Normal forms are sound and canonical**: a path name and its normal form lead to the same place
from everywhere, and two path names that do so from every directory have one normal form. -/
theorem normalize_canonical (path other : String) :
    (∀ directory, resolve directory (normalize path) = resolve directory path) ∧
      (normalize path = normalize other ↔
        ∀ directory, IsDirectory directory → resolve directory path = resolve directory other) ∧
      normalize (normalize path) = normalize path := by
  have again : Route.ofPath (normalize path) = Route.ofPath path := by
    rw [normalize_eq_text, Route.ofPath_text]
  refine ⟨fun directory => ?_, ⟨fun same directory _ => ?_, fun same => ?_⟩, ?_⟩
  · rw [resolve_eq_leadsTo, resolve_eq_leadsTo, again]
  · rw [resolve_eq_leadsTo, resolve_eq_leadsTo, ← Route.ofPath_text (Route.ofPath path),
      ← normalize_eq_text, same, normalize_eq_text, Route.ofPath_text]
  · simp only [resolve_eq_leadsTo] at same
    rw [normalize_eq_text, normalize_eq_text, Route.eq_of_leadsTo same]
  · rw [normalize_eq_text (normalize path), again, ← normalize_eq_text]

example : normalize "/../a//b/./../../../c/" = "/c" := by decide

end VerifierTrials.Path
