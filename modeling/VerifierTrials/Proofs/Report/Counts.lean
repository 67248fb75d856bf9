import VerifierTrials.Report.Tally

/-!
# What a tally counts

A tally is filled one result at a time (`Tally.after`), and what it says in the end has to depend
on the results alone. Every result falls into one of five **classes** (`Tally.Class`), by its
status and by whether its file promises a bug, and a tally has one counter for each of them
(`Tally.counter`).

* **One result** moves the counter of its class by one, the total by one, and nothing else
  (`Tally.counter_add`). In particular it leaves the marks alone, so that the class of a result
  does not depend on when it comes.
* **A list of results** therefore moves each counter by how often its class occurs in the list
  (`Tally.counter_after`), and these numbers know nothing of the order of the list.

As the classes exclude each other and cover everything, the counters add up to the total. This
balance (`Tally.Balanced`) is also why no counter can leave a word of 32 bits before the number of
results does: what a counter holds on the way is at most the total on the way
(`Tally.FitsWords`).
-/

namespace VerifierTrials

open VerifierTrials.Text

namespace Tally

/-! ### Classes of results -/

/-- **What a result is counted as.** -/
inductive Class where
  /-- Found safe, and no bug is promised. -/
  | correctSafe
  /-- Found unsafe, and a bug is promised. -/
  | correctViolated
  /-- No verdict. -/
  | unknown
  /-- Found safe although a bug is promised. -/
  | wrongSafe
  /-- Found unsafe although no bug is promised. -/
  | wrongViolated
  deriving DecidableEq, Repr

/-- The class of a status, given whether a bug is promised. -/
def Class.of (status : Status) (promised : Bool) : Class :=
  if status = .safe then
    if promised then .wrongSafe else .correctSafe
  else if status = .violated then
    if promised then .correctViolated else .wrongViolated
  else .unknown

/-- The counter of a class. -/
def counter (tally : Tally) : Class → Nat
  | .correctSafe => tally.correctSafe
  | .correctViolated => tally.correctViolated
  | .unknown => tally.unknown
  | .wrongSafe => tally.wrongSafe
  | .wrongViolated => tally.wrongViolated

/-- The class of a result, for the marks of a tally. -/
def classOf (tally : Tally) (result : String × Status) : Class :=
  .of result.2 (tally.expectsBug result.1)

/-- **A tally after further results**, one after the other. -/
def after (tally : Tally) (results : List (String × Status)) : Tally :=
  results.foldl (fun tally result => tally.add result.1 result.2) tally

/-- Two tallies with the same marks, the same total and the same counters are the same. -/
theorem ext_counter {tally other : Tally} (marks : tally.marks = other.marks)
    (total : tally.total = other.total)
    (counters : ∀ cls, tally.counter cls = other.counter cls) : tally = other := by
  obtain ⟨marks₁, total₁, cs₁, cv₁, u₁, ws₁, wv₁⟩ := tally
  obtain ⟨marks₂, total₂, cs₂, cv₂, u₂, ws₂, wv₂⟩ := other
  have correctSafe : cs₁ = cs₂ := counters .correctSafe
  have correctViolated : cv₁ = cv₂ := counters .correctViolated
  have unknown : u₁ = u₂ := counters .unknown
  have wrongSafe : ws₁ = ws₂ := counters .wrongSafe
  have wrongViolated : wv₁ = wv₂ := counters .wrongViolated
  simp_all

/-! ### One result -/

section Add

variable (tally : Tally) (file : String) (status : Status)

@[simp] theorem marks_add : (tally.add file status).marks = tally.marks := by
  unfold add
  split <;> rfl

@[simp] theorem total_add : (tally.add file status).total = tally.total + 1 := by
  unfold add
  split <;> rfl

@[simp] theorem classOf_add (result : String × Status) :
    (tally.add file status).classOf result = tally.classOf result := by
  rw [classOf, expectsBug, marks_add]
  rfl

/-- **One result moves the counter of its class**, and no other one. -/
theorem counter_add (cls : Class) :
    (tally.add file status).counter cls =
      tally.counter cls + if tally.classOf (file, status) = cls then 1 else 0 := by
  cases promised : tally.expectsBug file <;> cases status <;> cases cls <;>
    simp [add, counter, classOf, Class.of, promised]

end Add

/-! ### Results one after the other -/

section After

variable (tally : Tally) (results : List (String × Status))

theorem after_cons (file : String) (status : Status) :
    tally.after ((file, status) :: results) = (tally.add file status).after results := rfl

theorem marks_after : (tally.after results).marks = tally.marks := by
  induction results generalizing tally with
  | nil => rfl
  | cons result results ih =>
    rw [after_cons, ih, marks_add]

theorem total_after : (tally.after results).total = tally.total + results.length := by
  induction results generalizing tally with
  | nil => rfl
  | cons result results ih =>
    rw [after_cons, ih, total_add, List.length_cons]
    omega

/-- **Each counter moves by how often its class occurs.** -/
theorem counter_after (cls : Class) :
    (tally.after results).counter cls =
      tally.counter cls + results.countP fun result => tally.classOf result = cls := by
  -- what a result is counted as is settled by the marks, which stay
  induction results generalizing tally with
  | nil => rfl
  | cons result results ih =>
    obtain ⟨file, status⟩ := result
    have rest := ih (tally.add file status)
    simp only [classOf_add, counter_add] at rest
    rw [after_cons, rest, List.countP_cons]
    simp only [decide_eq_true_eq]
    omega

/-- The order of results does not matter. -/
theorem after_perm {other : List (String × Status)} (perm : other.Perm results) :
    tally.after other = tally.after results := by
  refine ext_counter ?_ ?_ fun cls => ?_
  · rw [marks_after, marks_after]
  · rw [total_after, total_after, perm.length_eq]
  · rw [counter_after, counter_after, perm.countP_eq]

end After

/-! ### The classes cover everything -/

/-- **A balanced tally**: its counters add up to its total. -/
def Balanced (tally : Tally) : Prop :=
  tally.total = tally.correctSafe + tally.correctViolated + tally.unknown + tally.wrongSafe +
    tally.wrongViolated

/-- One result keeps the balance, as it moves exactly one counter. -/
theorem Balanced.add {tally : Tally} (balanced : tally.Balanced) (file : String)
    (status : Status) : (tally.add file status).Balanced := by
  have moved := tally.counter_add file status
  have correctSafe := moved .correctSafe
  have correctViolated := moved .correctViolated
  have unknown := moved .unknown
  have wrongSafe := moved .wrongSafe
  have wrongViolated := moved .wrongViolated
  simp only [counter] at correctSafe correctViolated unknown wrongSafe wrongViolated
  rw [Balanced] at balanced ⊢
  rw [total_add, correctSafe, correctViolated, unknown, wrongSafe, wrongViolated, balanced]
  cases tally.classOf (file, status) <;> simp <;> omega

theorem Balanced.after {tally : Tally} (balanced : tally.Balanced)
    (results : List (String × Status)) : (tally.after results).Balanced := by
  induction results generalizing tally with
  | nil => exact balanced
  | cons result results ih => exact ih (balanced.add result.1 result.2)

/-! ### Words -/

/-- How many numbers a word of 32 bits has. -/
def wordCount : Nat := Nat.pow 2 32

/-- **All numbers of a tally fit into words**, the sum of the right verdicts included. -/
structure FitsWords (tally : Tally) : Prop where
  total : tally.total < wordCount
  counters : ∀ cls, tally.counter cls < wordCount
  correct : tally.correct < wordCount

/-- In a balanced tally no number is larger than the total. -/
theorem Balanced.fitsWords {tally : Tally} (balanced : tally.Balanced)
    (few : tally.total < wordCount) : tally.FitsWords := by
  rw [Balanced] at balanced
  refine ⟨few, fun cls => ?_, ?_⟩
  · cases cls <;> rw [counter] <;> omega
  · rw [Tally.correct]
    omega

/-- **What a tally says of a list of results.** The total is their number and the sum of the five
counters, and each counter is the number of results of its class. As long as there are fewer
results than a word has numbers, no number leaves its word: neither at the end nor after the
first few results. And neither the tally nor its summary depends on the order of the results. -/
theorem after_ofMarks (marks : List String) {results : List (String × Status)}
    (few : results.length < wordCount) :
    let tally := (ofMarks marks).after results
    tally.marks = marks.map lowerCase ∧
      tally.total = results.length ∧
      tally.total = tally.correctSafe + tally.correctViolated + tally.unknown +
        tally.wrongSafe + tally.wrongViolated ∧
      (∀ cls, tally.counter cls = results.countP fun result =>
        Class.of result.2 ((ofMarks marks).expectsBug result.1) = cls) ∧
      (∀ first, first <+: results → ((ofMarks marks).after first).FitsWords) ∧
      ∀ other : List (String × Status), other.Perm results →
        (ofMarks marks).after other = tally ∧
          ((ofMarks marks).after other).summary = tally.summary := by
  have total : ∀ first, ((ofMarks marks).after first).total = first.length := fun first => by
    rw [total_after, ofMarks, Nat.zero_add]
  have start : (ofMarks marks).Balanced := rfl
  refine ⟨marks_after .., total results, start.after results, fun cls => ?_, ?_,
    fun other perm => ?_⟩
  · rw [counter_after]
    cases cls <;> exact Nat.zero_add _
  · intro first early
    refine (start.after first).fitsWords ?_
    rw [total]
    exact Nat.lt_of_le_of_lt early.length_le few
  · rw [after_perm _ _ perm]
    exact ⟨rfl, rfl⟩

/-- Three results in two orders: a right verdict of either kind, and a run without a verdict. -/
theorem after_ofMarks_three :
    let results := [("a.c", Status.safe), ("b_BUG.c", .violated), ("c.c", .timeout)]
    let tally := (ofMarks ["Bug"]).after results
    results.length < wordCount ∧ tally.total = 3 ∧ tally.correctSafe = 1 ∧
      tally.correctViolated = 1 ∧ tally.unknown = 1 ∧ tally.FitsWords ∧
      (ofMarks ["Bug"]).after results.reverse = tally := by
  intro results tally
  have few : results.length < wordCount := by decide
  obtain ⟨-, total, -, counters, fits, same⟩ := after_ofMarks ["Bug"] few
  refine ⟨few, total, ?_, ?_, ?_, fits _ (List.prefix_refl _),
    (same _ (List.reverse_perm _)).1⟩
  · exact (counters .correctSafe).trans (by decide)
  · exact (counters .correctViolated).trans (by decide)
  · exact (counters .unknown).trans (by decide)

end Tally

end VerifierTrials
