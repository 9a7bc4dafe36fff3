import Dtdl.CommandLine
import Dtdl.Proofs.Omission
import Mathlib.Data.List.Forall2

/-!
# The account of a batch

A batch keeps one list of elements and one log for all of its documents.  Which document a
diagnostic is attributed to is no property of the diagnostic: it is the document that the log was
turned to when the diagnostic came in.  So an element could be lost, resolved and reported at
once, or reported under the name of another document.

None of this happens.  The main statement sets the elements that stand in the documents, which
are listed without regard to how they are worked off, against the visits of the batch: each of
them is accounted for by one visit, and every visit either gives an element or reports something.
Whoever finds nothing new in the log therefore knows that nothing is missing.
-/

namespace Dtdl

namespace Batch

/-! ## What there is to account for -/

/-- A top-level element of a document: where it stands, and what is written there. -/
structure Item where
  source : String
  index : Nat
  content : Json.Value
  deriving DecidableEq

def items (documents : List Document) : List Item :=
  documents.flatMap fun document =>
    document.content.items.mapIdx fun index content => ⟨document.source, index, content⟩

/-- Whether a visit is one to an item: it bears the place of the item, and its outcome is that
of the item when some resolver had been reached. -/
structure Item.Visited (item : Item) (visit : Visit) : Prop where
  source : visit.source = item.source
  index : visit.index = item.index
  outcome : ∃ reached,
    visit.outcome = (resolveElement reached item.source item.index item.content).1

/-- A visit that gives an element in its own place, and reports nothing. -/
def Visit.Resolved (visit : Visit) : Prop :=
  ∃ element, visit.outcome = .succeed element ∧ element.document = visit.source ∧
    element.index = visit.index

/-- A visit that gives no element, and reports something. -/
def Visit.Failed (visit : Visit) : Prop :=
  visit.outcome.result = none ∧ visit.outcome.reports ≠ []

/-! ## Items and visits -/

theorem visited_visitItems (resolver : Resolver) (number : Nat) (source : String) (index : Nat)
    (contents : List Json.Value) :
    List.Forall₂ Item.Visited
      (contents.mapIdx fun offset content => ⟨source, index + offset, content⟩)
      (visitItems resolver number source index contents).1 := by
  induction contents generalizing resolver index with
  | nil => exact .nil
  | cons content rest ih =>
      rw [List.mapIdx_cons, visitItems_cons]
      apply List.Forall₂.cons
      · exact ⟨rfl, rfl, resolver, rfl⟩
      · have behind := ih (resolveElement resolver source index content).2 (index + 1)
        simpa only [Nat.add_assoc, Nat.add_comm 1] using behind

theorem visited_visitDocuments (resolver : Resolver) (number : Nat)
    (documents : List Document) :
    List.Forall₂ Item.Visited (items documents)
      (visitDocuments resolver number documents).1 := by
  induction documents generalizing resolver number with
  | nil => exact .nil
  | cons document rest ih =>
      rw [items, List.flatMap_cons, visitDocuments_cons]
      apply List.rel_append
      · have here := visited_visitItems resolver number document.source 0 document.content.items
        simpa only [Nat.zero_add] using here
      · exact ih _ (number + 1)

theorem settled_of_mem_visits {resolver : Resolver} {documents : List Document} {visit : Visit}
    (member : visit ∈ visits resolver documents) : visit.Resolved ∨ visit.Failed := by
  have honest := honest_of_mem_visits member
  obtain ⟨reached, _, -, content, -, outcome⟩ := exists_item_of_mem_visitDocuments member
  cases found : visit.outcome.result with
  | none =>
      right
      refine ⟨found, fun silent => ?_⟩
      have given := honest.mpr silent
      rw [found] at given
      contradiction
  | some element =>
      left
      refine ⟨element, honest.eq_succeed found, ?_⟩
      rw [outcome] at found
      rcases resolveElement_eq_some found with
        ⟨id, stack, registration, -, -, rfl⟩ | ⟨id, stack, types, context, -, -, rfl⟩
      · exact ⟨rfl, rfl⟩
      · exact ⟨rfl, rfl⟩

/-! ## Counting -/

/-- Visits give as many elements as there are visits if and only if all of them are silent. -/
theorem length_elements {visited : List Visit}
    (honest : ∀ visit ∈ visited, visit.outcome.Honest) :
    (visited.filterMap (·.outcome.result)).length = visited.length ↔
      visited.flatMap Visit.diagnostics = [] := by
  rw [List.filterMap_length_eq_length, List.flatMap_eq_nil_iff]
  constructor
  · intro given visit member
    exact (Visit.diagnostics_eq_nil (honest visit member)).mpr (given visit member)
  · intro silent visit member
    exact (Visit.diagnostics_eq_nil (honest visit member)).mp (silent visit member)

/-- A batch has resolved everything if and only if it has logged nothing new. -/
theorem length_elements_process (resolver : Resolver) (documents : List Document) (log : Log) :
    (process resolver documents log).elements.length = (items documents).length ↔
      (process resolver documents log).log.diagnostics = log.diagnostics := by
  have all : (items documents).length = (visits resolver documents).length :=
    (visited_visitDocuments resolver 0 documents).length_eq
  rw [process_eq_through, all]
  exact (length_elements fun visit member => honest_of_mem_visits member).trans
    List.append_right_eq_self.symm

end Batch

/-! ## Exit codes -/

namespace CommandLine

/-- A run reports no fault if and only if it has resolved every element of its project. -/
theorem Report.faultCount_eq_zero (project : Project) (asked : Resolver.Options) :
    (ofProject project asked).faultCount = 0 ↔
      (ofProject project asked).elementCount = (Batch.items project.documents).length := by
  rw [faultCount, List.length_eq_zero_iff, elementCount, ofProject]
  exact (Batch.length_elements_process _ project.documents Log.empty).symm

/-- A run succeeds if and only if its project was loaded and it has resolved every element. -/
theorem exitCode_perform_resolve (files : Files Id) (path : Path) (format : Format)
    (asked : Resolver.Options) :
    (Id.run (perform files (.resolve path format asked))).exitCode = 0 ↔
      ∃ project, Id.run (Project.load files path) = .ok project ∧
        (Report.ofProject project asked).elementCount =
          (Batch.items project.documents).length := by
  rw [perform, Id.run_bind]
  cases loaded : Id.run (Project.load files path) with
  | error failure =>
      simp [Answer.failed]
  | ok project =>
      have complete := Report.faultCount_eq_zero project asked
      simpa [Answer.shown] using complete

end CommandLine

/-! ## The account -/

namespace Batch

/-- The elements of a batch, as they stand in its documents, are visited one after the other, and
every visit either gives one element in its own place, silently, or reports something and gives
none.  The resolved elements are those that the visits give.  What was logged before stays, and
behind it come the reports of the visits, each attributed to the document that was visited.  So
everything was resolved exactly if nothing was added to the log; and a run over a project that
could be loaded ends with exit code 0 exactly then. -/
theorem process_accounts (resolver : Resolver) (documents : List Document) (log : Log) :
    let visited := visits resolver documents
    let final := process resolver documents log
    List.Forall₂ Item.Visited (items documents) visited ∧
    (∀ visit ∈ visited, visit.Resolved ∨ visit.Failed) ∧
    final.elements = visited.filterMap (·.outcome.result) ∧
    final.log.diagnostics = log.diagnostics ++ visited.flatMap Visit.diagnostics ∧
    (∀ visit ∈ visited, ∀ diagnostic ∈ visit.diagnostics,
      diagnostic.document = some visit.source) ∧
    (final.elements.length = (items documents).length ↔
      final.log.diagnostics = log.diagnostics) ∧
    ∀ (files : Files Id) (path : Path) (format : CommandLine.Format)
        (asked : Resolver.Options),
      (Id.run (CommandLine.perform files (.resolve path format asked))).exitCode = 0 ↔
        ∃ project, Id.run (Project.load files path) = .ok project ∧
          (CommandLine.Report.ofProject project asked).elementCount =
            (items project.documents).length := by
  intro visited final
  have worked : final = _ := process_eq_through resolver documents log
  refine ⟨visited_visitDocuments resolver 0 documents, fun _ => settled_of_mem_visits,
    ?elements, ?diagnostics, ?attributed, length_elements_process resolver documents log,
    CommandLine.exitCode_perform_resolve⟩
  case elements =>
    rw [worked]
    rfl
  case diagnostics =>
    rw [worked]
    rfl
  case attributed =>
    intro visit _ diagnostic reported
    obtain ⟨problem, -, rfl⟩ := List.mem_map.mp reported
    rfl

/-- Two of five elements are resolved, and the others are reported in their documents. -/
theorem process_accounts_garden :
    let final := process Resolver.minimal garden Log.empty
    (items garden).map (fun item => (item.source, item.index)) =
      [("garden.json", 0), ("garden.json", 1), ("garden.json", 2), ("garden.json", 3),
        ("weed.json", 0)] ∧
    (∀ visit ∈ visits Resolver.minimal garden, visit.Resolved ∨ visit.Failed) ∧
    final.elements.map (fun element => (element.document, element.index)) =
      [("garden.json", 1), ("garden.json", 3)] ∧
    final.log.diagnostics.map (·.document) =
      [some "garden.json", some "garden.json", some "weed.json"] ∧
    final.elements.length ≠ (items garden).length := by
  intro final
  obtain ⟨-, settled, -, -, -, complete, -⟩ :=
    process_accounts Resolver.minimal garden Log.empty
  refine ⟨by decide +kernel, settled, by decide +kernel, by decide +kernel, ?_⟩
  rw [ne_eq, complete]
  decide +kernel

end Batch

end Dtdl
