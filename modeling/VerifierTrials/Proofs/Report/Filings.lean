import VerifierTrials.Proofs.Report.Places

/-!
# What is filed where

A report is written in pieces, at different times, between pieces of other reports. Each piece
is a **filing** (`Filing`): bytes put into the file at a place, anew or behind what the file
holds. What a place holds after any number of filings is a fold over them (`filed`), so that a
report is computed from the list of all filings by leaving out those at other places. A write that
fails may have filed the beginning of what it was to file (`Filing.CutShort`).

An action has **filed** a list (`Journal.Filed`) when the directory of the reports is in order
after it, has the same directories and links in it, and every place in it holds what the fold
says. Actions one after the other file their lists one after the other (`Filed.append`). What
goes to the text report or to a log spares the reports of tests (`Journal.Spares`).
-/

namespace VerifierTrials

open FileTree

/-- **Bytes put into the file at a place**: anew, or behind what the file holds. -/
structure Filing where
  place : List String
  content : Bytes
  anew : Bool
  deriving DecidableEq, Repr

/-- What a place holds after a filing. -/
def Filing.on (filing : Filing) (p : List String) (held : Option Bytes) : Option Bytes :=
  if p = filing.place then
    some ((if filing.anew then [] else held.getD []) ++ filing.content)
  else held

/-- **What a place holds after filings**, one after the other. -/
def filed (filings : List Filing) (p : List String) (held : Option Bytes) : Option Bytes :=
  filings.foldl (fun held filing => filing.on p held) held

variable {p : List String} {held : Option Bytes}

theorem filed_append (first second : List Filing) (p : List String) (held : Option Bytes) :
    filed (first ++ second) p held = filed second p (filed first p held) :=
  List.foldl_append

theorem filed_cons (filing : Filing) (filings : List Filing) (p : List String)
    (held : Option Bytes) : filed (filing :: filings) p held = filed filings p (filing.on p held) :=
  rfl

theorem filed_of_forall_ne {filings : List Filing}
    (elsewhere : ∀ filing ∈ filings, filing.place ≠ p) : filed filings p held = held := by
  induction filings generalizing held with
  | nil => rfl
  | cons filing filings ih =>
    have here : p ≠ filing.place := (elsewhere filing (by simp)).symm
    rw [filed_cons, Filing.on, if_neg here]
    exact ih fun filing within => elsewhere filing (List.mem_cons_of_mem _ within)

theorem filed_flatMap_of_forall_ne {α : Type} {items : List α} {f : α → List Filing}
    (elsewhere : ∀ a ∈ items, ∀ filing ∈ f a, filing.place ≠ p) :
    filed (items.flatMap f) p held = held := by
  refine filed_of_forall_ne fun filing inside => ?_
  obtain ⟨a, within, inside⟩ := List.mem_flatMap.mp inside
  exact elsewhere a within filing inside

/-- What a place holds that held nothing has been filed there. -/
theorem exists_mem_of_filed {filings : List Filing} (found : filed filings p none ≠ none) :
    ∃ filing ∈ filings, filing.place = p := by
  by_cases some_ : ∃ filing ∈ filings, filing.place = p
  · exact some_
  · refine absurd (filed_of_forall_ne fun filing within same => ?_) found
    exact some_ ⟨filing, within, same⟩

/-- **A filing that has been cut short**: nothing has been filed, or a beginning of it. -/
def Filing.CutShort (filing : Filing) (filings : List Filing) : Prop :=
  filings = [] ∨ ∃ taken, taken <+: filing.content ∧ taken ≠ filing.content ∧
    filings = [{ filing with content := taken }]

/-- What has been cut short has been filed nowhere else. -/
theorem Filing.CutShort.place_eq {filing : Filing} {filings : List Filing}
    (short : filing.CutShort filings) : ∀ other ∈ filings, other.place = filing.place := by
  rcases short with rfl | ⟨taken, -, -, rfl⟩
  · simp
  · simp

/-! ### Filings at a desk -/

namespace Desk

variable {desk desk' : Desk} {path text : String}
  {change : FileTree → Bytes → Except FileError FileTree} {unopened unwritten : ReportError}

theorem faults_afterWrite (willing : desk.faults = []) (tree : FileTree) :
    (desk.afterWrite tree).faults = [] := by
  rw [afterWrite, willing]
  rfl

/-- A text that has been put into a file has been put there as a whole. -/
theorem put_eq_ok (ran : desk.put change text unopened unwritten = (.ok (), desk')) :
    change desk.tree (Utf8.encode text) = .ok desk'.tree := by
  rw [put] at ran
  split at ran
  next => cases ran
  next taken cut? taking =>
    split at ran
    next => cases ran
    next tree changed =>
      cases ran
      rw [← WriteFault.eq_of_taken taking]
      exact changed
    next => cases ran

theorem write_eq_ok (ran : desk.write path text = (.ok (), desk')) :
    desk.tree.write path (Utf8.encode text) = .ok desk'.tree :=
  put_eq_ok ran

theorem append_eq_ok (ran : desk.append path text = (.ok (), desk')) :
    desk.tree.append path (Utf8.encode text) = .ok desk'.tree :=
  put_eq_ok ran

theorem makeDirectories_eq_ok (ran : desk.makeDirectories path = (.ok (), desk')) :
    desk.tree.makeDirectories path = .ok desk'.tree := by
  rw [makeDirectories] at ran
  split at ran
  next tree made => cases ran; exact made
  next => cases ran

end Desk

namespace Journal

variable {journal : Journal} {q : List String}

/-- **Filings have been made**: the directory of the reports is in order after them, with the
same directories and links in it, and each place in it holds what they have put there. -/
structure Filed (journal : Journal) (q : List String) (before after : FileTree)
    (filings : List Filing) : Prop where
  orderly : journal.Orderly q after
  alike : Alike q before after
  contents : ∀ p, q <+: p → after.contentAt p = filed filings p (before.contentAt p)

namespace Filed

variable {before after : FileTree}

theorem nil (orderly : journal.Orderly q before) : journal.Filed q before before [] :=
  ⟨orderly, .refl q before, fun _ _ => rfl⟩

theorem append {middle : FileTree} {first second : List Filing}
    (one : journal.Filed q before middle first) (two : journal.Filed q middle after second) :
    journal.Filed q before after (first ++ second) :=
  ⟨two.orderly, one.alike.trans two.alike, fun p inside => by
    rw [filed_append, ← one.contents p inside, two.contents p inside]⟩

theorem report {filings : List Filing} (made : journal.Filed q before after filings)
    (test : Option String) (extension : String) :
    after.contentAt (journal.placeOf q test extension) =
      filed filings (journal.placeOf q test extension)
        (before.contentAt (journal.placeOf q test extension)) :=
  made.contents _ (List.prefix_append _ _)

end Filed

variable {tree after : FileTree} {path text : String} {content : Bytes}

/-- What is written to a file is a filing. -/
theorem Orderly.filed_write (orderly : journal.Orderly q tree)
    (written : tree.write path content = .ok after) :
    ∃ place, tree.locate true path = .ok place ∧
      journal.Filed q tree after [⟨place, content, true⟩] := by
  obtain ⟨place, led, shape, held⟩ := write_eq_ok written
  refine ⟨place, led, orderly.sameShape shape, shape.alike q, fun p _ => ?_⟩
  rw [filed_cons, Filing.on]
  exact held p

/-- What is appended to a file is a filing. -/
theorem Orderly.filed_append (orderly : journal.Orderly q tree)
    (appended : tree.append path content = .ok after) :
    ∃ place, tree.locate true path = .ok place ∧
      journal.Filed q tree after [⟨place, content, false⟩] := by
  obtain ⟨place, led, shape, held⟩ := append_eq_ok appended
  refine ⟨place, led, orderly.sameShape shape, shape.alike q, fun p _ => ?_⟩
  rw [filed_cons, Filing.on]
  refine (held p).trans ?_
  split
  next same => rw [same]; rfl
  next => rfl

/-- A text written at a desk is a filing. -/
theorem filed_of_write {desk desk' : Desk} (orderly : journal.Orderly q desk.tree)
    (ran : desk.write path text = (.ok (), desk')) :
    ∃ place, desk.tree.locate true path = .ok place ∧
      journal.Filed q desk.tree desk'.tree [⟨place, Utf8.encode text, true⟩] :=
  orderly.filed_write (Desk.write_eq_ok ran)

/-- A text appended at a desk is a filing. -/
theorem filed_of_append {desk desk' : Desk} (orderly : journal.Orderly q desk.tree)
    (ran : desk.append path text = (.ok (), desk')) :
    ∃ place, desk.tree.locate true path = .ok place ∧
      journal.Filed q desk.tree desk'.tree [⟨place, Utf8.encode text, false⟩] :=
  orderly.filed_append (Desk.append_eq_ok ran)

/-! ### Filings beside the reports of tests -/

variable {filings : List Filing}

/-- **Filings that spare the reports of all tests**: the tab-separated reports and the documents. -/
def Spares (journal : Journal) (q : List String) (filings : List Filing) : Prop :=
  ∀ filing ∈ filings, ∀ test, ∀ extension ∈ ["csv", "xml"],
    filing.place ≠ journal.placeOf q test extension

namespace Spares

theorem nil : journal.Spares q [] := by
  intro filing within
  cases within

theorem append {first second : List Filing} (one : journal.Spares q first)
    (two : journal.Spares q second) : journal.Spares q (first ++ second) := by
  intro filing within
  rcases List.mem_append.mp within with within | within
  · exact one filing within
  · exact two filing within

/-- A report that is spared holds what it held. -/
theorem filed_eq (spares : journal.Spares q filings) (test : Option String) {extension : String}
    (kind : extension ∈ ["csv", "xml"]) {held : Option Bytes} :
    filed filings (journal.placeOf q test extension) held = held :=
  filed_of_forall_ne fun filing within => spares filing within test extension kind

end Spares

/-- What goes to the text report spares the others. -/
theorem spares_of_text (text : ∀ filing ∈ filings, filing.place = journal.placeOf q none "txt") :
    journal.Spares q filings := by
  intro filing within test extension kind same
  rw [text filing within] at same
  obtain rfl | rfl : extension = "csv" ∨ extension = "xml" := by simpa using kind
  all_goals
    obtain ⟨-, extensions⟩ := placeOf_inj same (by decide)
    exact absurd extensions (by decide)

theorem spares_text (content : Bytes) (anew : Bool) :
    journal.Spares q [⟨journal.placeOf q none "txt", content, anew⟩] :=
  spares_of_text (by simp)

end Journal

end VerifierTrials
