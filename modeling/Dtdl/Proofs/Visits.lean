import Dtdl.Proofs.Reporting
import Dtdl.Proofs.Session

/-!
# The elements of a batch

A batch moves three things on at once: the resolver, the resolved elements and the log.  Seen
element by element it is simpler.  Each element is visited once, with the resolver that the
earlier ones have left behind; the resolved elements are the results of the visits, and the
log grows by what the visits report.
-/

namespace Dtdl.Batch

/-- What came of one element of a batch: the number of its document, the name of the
document, the position of the element there, and its outcome. -/
structure Visit where
  document : Nat
  source : String
  index : Nat
  outcome : Outcome Problem Element
  deriving DecidableEq

/-- The diagnostics of a visit, attributed to the document of the element. -/
def Visit.diagnostics (visit : Visit) : List Diagnostic :=
  visit.outcome.reports.map (·.diagnostic.foundIn (some visit.source))

/-- The visits to the elements of a document from a position on, and the resolver that they
leave behind. -/
def visitItems (resolver : Resolver) (document : Nat) (source : String) (index : Nat) :
    List Json.Value → List Visit × Resolver
  | [] => ([], resolver)
  | item :: rest =>
      let (outcome, next) := resolveElement resolver source index item
      let (visits, last) := visitItems next document source (index + 1) rest
      (⟨document, source, index, outcome⟩ :: visits, last)

/-- The visits to the elements of documents from a number on, and the resolver that they
leave behind. -/
def visitDocuments (resolver : Resolver) (number : Nat) :
    List Document → List Visit × Resolver
  | [] => ([], resolver)
  | document :: rest =>
      let (here, next) := visitItems resolver number document.source 0 document.content.items
      let (visits, last) := visitDocuments next (number + 1) rest
      (here ++ visits, last)

/-- All visits of a batch, in order. -/
def visits (resolver : Resolver) (documents : List Document) : List Visit :=
  (visitDocuments resolver 0 documents).1

theorem visitItems_cons (resolver : Resolver) (document : Nat) (source : String) (index : Nat)
    (item : Json.Value) (rest : List Json.Value) :
    visitItems resolver document source index (item :: rest) =
      let visited := resolveElement resolver source index item
      let behind := visitItems visited.2 document source (index + 1) rest
      (⟨document, source, index, visited.1⟩ :: behind.1, behind.2) := rfl

theorem visitDocuments_cons (resolver : Resolver) (number : Nat) (document : Document)
    (rest : List Document) :
    visitDocuments resolver number (document :: rest) =
      let here := visitItems resolver number document.source 0 document.content.items
      let behind := visitDocuments here.2 (number + 1) rest
      (here.1 ++ behind.1, behind.2) := rfl

/-! ## Visits one by one -/

theorem exists_item_of_mem_visitItems {resolver : Resolver} {document : Nat} {source : String}
    {index : Nat} {items : List Json.Value} {visit : Visit}
    (member : visit ∈ (visitItems resolver document source index items).1) :
    ∃ reached, ∃ item ∈ items,
      visit.outcome = (resolveElement reached visit.source visit.index item).1 := by
  induction items generalizing resolver index with
  | nil => simp [visitItems] at member
  | cons item rest ih =>
      rcases List.mem_cons.mp member with same | behind
      · subst same
        exact ⟨resolver, item, List.mem_cons_self, rfl⟩
      · obtain ⟨reached, item, listed, outcome⟩ := ih behind
        exact ⟨reached, item, List.mem_cons_of_mem _ listed, outcome⟩

theorem document_of_mem_visitItems {resolver : Resolver} {number : Nat} {source : String}
    {index : Nat} {items : List Json.Value} {visit : Visit}
    (member : visit ∈ (visitItems resolver number source index items).1) :
    visit.document = number := by
  induction items generalizing resolver index with
  | nil => simp [visitItems] at member
  | cons item rest ih =>
      rcases List.mem_cons.mp member with same | behind
      · rw [same]
      · exact ih behind

/-- Every visit resolves an element of one of the documents. -/
theorem exists_item_of_mem_visitDocuments {resolver : Resolver} {number : Nat}
    {documents : List Document} {visit : Visit}
    (member : visit ∈ (visitDocuments resolver number documents).1) :
    ∃ reached, ∃ document ∈ documents, ∃ item ∈ document.content.items,
      visit.outcome = (resolveElement reached visit.source visit.index item).1 := by
  induction documents generalizing resolver number with
  | nil => simp [visitDocuments] at member
  | cons document rest ih =>
      rcases List.mem_append.mp member with here | behind
      · obtain ⟨reached, item, listed, outcome⟩ := exists_item_of_mem_visitItems here
        exact ⟨reached, document, List.mem_cons_self, item, listed, outcome⟩
      · obtain ⟨reached, other, among, item, listed, outcome⟩ := ih behind
        exact ⟨reached, other, List.mem_cons_of_mem _ among, item, listed, outcome⟩

theorem honest_of_mem_visits {resolver : Resolver} {documents : List Document} {visit : Visit}
    (member : visit ∈ visits resolver documents) : visit.outcome.Honest := by
  obtain ⟨reached, _, -, item, -, outcome⟩ := exists_item_of_mem_visitDocuments member
  rw [outcome]
  exact honest_resolveElement reached visit.source visit.index item

theorem Visit.diagnostics_eq_nil {visit : Visit} (honest : visit.outcome.Honest) :
    visit.diagnostics = [] ↔ visit.outcome.result.isSome = true := by
  rw [diagnostics, List.map_eq_nil_iff]
  exact honest.symm

/-! ## What a batch makes of its visits -/

/-- The progress of a batch behind further visits. -/
def Progress.through (progress : Progress) (visited : List Visit × Resolver) : Progress where
  resolver := visited.2
  elements := progress.elements ++ visited.1.filterMap (·.outcome.result)
  log := { progress.log with
    diagnostics := progress.log.diagnostics ++ visited.1.flatMap Visit.diagnostics }

theorem Progress.elementsFrom_eq_through {progress : Progress} {source : String}
    (within : progress.log.document = some source) (document index : Nat)
    (items : List Json.Value) :
    progress.elementsFrom source index items =
      progress.through (visitItems progress.resolver document source index items) := by
  induction items generalizing progress index with
  | nil => simp [elementsFrom, through, visitItems]
  | cons item rest ih =>
      have stepped : (progress.step source index item).log.document = some source := by
        rw [step, Log.document_reportAll, within]
      rw [elementsFrom, ih stepped (index + 1)]
      simp only [through, visitItems, step, Log.diagnostics_reportAll, Log.document_reportAll,
        within]
      cases found : (resolveElement progress.resolver source index item).1.result <;>
        simp [found, Visit.diagnostics]

theorem Progress.document_eq_through (progress : Progress) (document : Document)
    (number : Nat) :
    progress.document document =
      Progress.through
        { progress with log := progress.log.within (some document.source) }
        (visitItems progress.resolver number document.source 0 document.content.items) :=
  elementsFrom_eq_through rfl number 0 document.content.items

/-- The documents of a batch are worked off by visits to their elements, and the log is left
at the last one. -/
theorem foldl_document_eq_through (progress : Progress) (number : Nat)
    (documents : List Document) :
    ∃ named, documents.foldl Progress.document progress =
      Progress.through { progress with log := progress.log.within named }
        (visitDocuments progress.resolver number documents) := by
  induction documents generalizing progress number with
  | nil =>
      exact ⟨progress.log.document, by simp [Progress.through, visitDocuments, Log.within]⟩
  | cons document rest ih =>
      obtain ⟨named, reached⟩ := ih (progress.document document) (number + 1)
      refine ⟨named, ?_⟩
      rw [List.foldl_cons, reached, progress.document_eq_through document number]
      simp [Progress.through, visitDocuments, Log.within]

theorem process_eq_through (resolver : Resolver) (documents : List Document) (log : Log) :
    process resolver documents log =
      Progress.through ⟨resolver, [], log.within none⟩ (visitDocuments resolver 0 documents) := by
  obtain ⟨named, reached⟩ := foldl_document_eq_through ⟨resolver, [], log⟩ 0 documents
  rw [process, reached]
  rfl

end Dtdl.Batch
