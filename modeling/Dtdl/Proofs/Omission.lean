import Dtdl.Proofs.Visits
import Mathlib.Data.List.Forall2

/-!
# Elements that fail

An element that fails leaves the resolver as it was, and later elements depend on earlier
ones through the resolver only.  A batch from which failing elements are left out therefore
goes the same way as the whole batch.  What changes are positions: the elements behind one
that is left out move up, and a position is recorded in a resolved element and in the report
that an element has no context.

The comparison is one of visits.  Those of the shortened batch are the visits of the whole
one to the elements that were kept, once positions are taken out of both.
-/

namespace Dtdl

/-! ## Positions -/

/-- A problem without the position of the element in which it was found. -/
def Problem.unplaced : Problem → Problem
  | .elementWithoutContext _ => .elementWithoutContext 0
  | problem => problem

def Element.unplaced (element : Element) : Element := { element with index := 0 }

/-- Two diagnostics that report the same problem in the same document, at different positions
at most. -/
def Diagnostic.SameButPlace (left right : Diagnostic) : Prop :=
  ∃ (source : String) (problem other : Problem), problem.unplaced = other.unplaced ∧
    left = problem.diagnostic.foundIn (some source) ∧
    right = other.diagnostic.foundIn (some source)

namespace Batch

def unplaced (outcome : Outcome Problem Element) : Outcome Problem Element :=
  ⟨outcome.reports.map Problem.unplaced, outcome.result.map Element.unplaced⟩

def Visit.unplaced (visit : Visit) : Visit := ⟨0, visit.source, 0, Batch.unplaced visit.outcome⟩

theorem unplaced_bind_congr {Result : Type} (first : Outcome Problem Result)
    {next other : Result → Outcome Problem Element}
    (same : ∀ result, unplaced (next result) = unplaced (other result)) :
    unplaced (first >>= next) = unplaced (first >>= other) := by
  cases first with
  | mk reports given =>
      cases given with
      | none => rfl
      | some result =>
          have each := same result
          simp only [unplaced, Outcome.mk.injEq] at each
          simp only [unplaced, bind, Outcome.andThen, List.map_append, each]

/-- The position of an element has a say in nothing but where the position is recorded. -/
theorem resolveUnder_at (resolver : Resolver) (source : String) (index other : Nat)
    (element : Json.Value) (stack : Context.Stack) :
    unplaced (resolveUnder resolver source index element stack).1 =
        unplaced (resolveUnder resolver source other element stack).1 ∧
      (resolveUnder resolver source index element stack).2 =
        (resolveUnder resolver source other element stack).2 := by
  rw [resolveUnder, resolveUnder]
  split
  · refine ⟨?_, rfl⟩
    exact unplaced_bind_congr (resolver.register _ stack).1 fun registration => rfl
  · refine ⟨?_, rfl⟩
    apply unplaced_bind_congr (resolver.process stack none)
    intro context
    exact unplaced_bind_congr (Outcome.check _) fun _ => rfl

theorem resolveElement_at (resolver : Resolver) (source : String) (index other : Nat)
    (element : Json.Value) :
    unplaced (resolveElement resolver source index element).1 =
        unplaced (resolveElement resolver source other element).1 ∧
      (resolveElement resolver source index element).2 =
        (resolveElement resolver source other element).2 := by
  rw [resolveElement, resolveElement]
  split
  · exact ⟨rfl, rfl⟩
  · next context _ =>
      constructor
      · rw [Outcome.fst_thread, Outcome.fst_thread]
        apply unplaced_bind_congr
        intro stack
        exact (resolveUnder_at resolver source index other element stack).1
      · cases read : (Context.Stack.ofJson context).result with
        | none => rw [Outcome.thread_of_none read, Outcome.thread_of_none read]
        | some stack =>
            rw [Outcome.thread_of_some read, Outcome.thread_of_some read]
            exact (resolveUnder_at resolver source index other element stack).2

theorem resolveElement_of_failed {resolver : Resolver} {source : String} {index : Nat}
    {element : Json.Value}
    (failed : (resolveElement resolver source index element).1.result = none) :
    (resolveElement resolver source index element).2 = resolver := by
  rcases resolveElement_cases resolver source index element with
    ⟨id, -, stack, state, result⟩ | ⟨state, -⟩
  · rcases Resolver.register_cases resolver id stack with
      ⟨-, preserved⟩ | ⟨registration, -, -, registered, -⟩
    · rw [state, preserved]
    · rw [result, resolveExtension, Outcome.result_bind, registered] at failed
      simp at failed
  · exact state

/-! ## Shortened batches -/

/-- The elements of a document from a position on whose positions are to be kept. -/
def keepItems (keep : Nat → Bool) (index : Nat) : List Json.Value → List Json.Value
  | [] => []
  | item :: rest =>
      if keep index then item :: keepItems keep (index + 1) rest
      else keepItems keep (index + 1) rest

end Batch

/-- A document with the elements whose positions are to be kept.  Of an array those items
remain; a document that is a single element remains as a whole or not at all. -/
def Document.keep (keep : Nat → Bool) (document : Document) : Option Document :=
  match document.content with
  | .array items => some { document with content := .array (Batch.keepItems keep 0 items) }
  | _ => if keep 0 then some document else none

/-- Either way the elements that remain are the ones to be kept. -/
theorem Document.keep_cases (keep : Nat → Bool) (document : Document) :
    (∃ shortened, document.keep keep = some shortened ∧
      shortened.source = document.source ∧
      shortened.content.items = Batch.keepItems keep 0 document.content.items) ∨
    (document.keep keep = none ∧ Batch.keepItems keep 0 document.content.items = []) := by
  rw [Document.keep]
  split
  · next items array => exact .inl ⟨_, rfl, rfl, by rw [array]; rfl⟩
  · next single =>
      have alone : document.content.items = [document.content] := by
        cases content : document.content with
        | array items => exact absurd content (single items)
        | _ => rfl
      rw [alone]
      cases first : keep 0 with
      | true => exact .inl ⟨document, rfl, rfl, by simp [Batch.keepItems, first, alone]⟩
      | false => exact .inr ⟨rfl, by simp [Batch.keepItems, first]⟩

namespace Batch

/-- The batch with the elements that are to be kept, each of them given by the number of its
document and its position there. -/
def retain (keep : Nat → Nat → Bool) (number : Nat) : List Document → List Document
  | [] => []
  | document :: rest =>
      (document.keep (keep number)).toList ++ retain keep (number + 1) rest

/-- By induction on the items.  A kept element is visited with the same resolver at another
position, and one that is left out would not have changed the resolver. -/
theorem visitItems_keepItems {resolver : Resolver} {number : Nat} {source : String}
    {index : Nat} {items : List Json.Value} {keep : Nat → Bool}
    (failed : ∀ visit ∈ (visitItems resolver number source index items).1,
      keep visit.index = false → visit.outcome.result = none) (other place : Nat) :
    (visitItems resolver other source place (keepItems keep index items)).1.map
        Visit.unplaced =
      ((visitItems resolver number source index items).1.filter
        (keep ·.index)).map Visit.unplaced ∧
    (visitItems resolver other source place (keepItems keep index items)).2 =
      (visitItems resolver number source index items).2 := by
  induction items generalizing resolver index place with
  | nil => exact ⟨rfl, rfl⟩
  | cons item rest ih =>
      rw [visitItems_cons] at failed
      have behind := fun visit member => failed visit (List.mem_cons_of_mem _ member)
      cases kept : keep index with
      | false =>
          have skipped := failed _ List.mem_cons_self kept
          have same := resolveElement_of_failed skipped
          rw [same] at behind
          simp only [visitItems_cons, keepItems, kept, same, Bool.false_eq_true, if_false,
            List.filter_cons_of_neg, not_false_eq_true]
          exact ih behind place
      | true =>
          obtain ⟨outcome, state⟩ := resolveElement_at resolver source place index item
          obtain ⟨visited, last⟩ := ih behind (place + 1)
          simp only [visitItems_cons, keepItems, kept, if_true, List.filter_cons_of_pos,
            List.map_cons, state]
          refine ⟨?_, last⟩
          rw [visited, Visit.unplaced, Visit.unplaced, outcome]

/-- A document without some of its elements is visited like a list of the others, also where
nothing is left of it. -/
theorem visitDocuments_keep_append (keep : Nat → Bool) (resolver : Resolver) (number : Nat)
    (document : Document) (rest : List Document) :
    ∃ next, visitDocuments resolver number ((document.keep keep).toList ++ rest) =
      let here := visitItems resolver number document.source 0
        (keepItems keep 0 document.content.items)
      let behind := visitDocuments here.2 next rest
      (here.1 ++ behind.1, behind.2) := by
  rcases document.keep_cases keep with ⟨shortened, kept, source, items⟩ | ⟨dropped, items⟩
  · refine ⟨number + 1, ?_⟩
    rw [kept, Option.toList_some, List.singleton_append, visitDocuments_cons, source, items]
  · refine ⟨number, ?_⟩
    rw [dropped, items]
    rfl

/-- By induction on the documents.  The documents behind one that is left out have another
number in the shortened batch, but the number has no say in the visits. -/
theorem visitDocuments_retain {resolver : Resolver} {number : Nat} {documents : List Document}
    {keep : Nat → Nat → Bool}
    (failed : ∀ visit ∈ (visitDocuments resolver number documents).1,
      keep visit.document visit.index = false → visit.outcome.result = none) (other : Nat) :
    (visitDocuments resolver other (retain keep number documents)).1.map Visit.unplaced =
      ((visitDocuments resolver number documents).1.filter
        fun visit => keep visit.document visit.index).map Visit.unplaced ∧
    (visitDocuments resolver other (retain keep number documents)).2 =
      (visitDocuments resolver number documents).2 := by
  induction documents generalizing resolver number other with
  | nil => exact ⟨rfl, rfl⟩
  | cons document rest ih =>
      rw [visitDocuments_cons] at failed
      obtain ⟨next, visited⟩ := visitDocuments_keep_append (keep number) resolver other
        document (retain keep (number + 1) rest)
      have numbered : ∀ visit ∈
          (visitItems resolver number document.source 0 document.content.items).1,
          keep visit.document visit.index = keep number visit.index := by
        intro visit member
        rw [document_of_mem_visitItems member]
      have among : ∀ visit ∈
          (visitItems resolver number document.source 0 document.content.items).1,
          keep number visit.index = false → visit.outcome.result = none := by
        intro visit member dropped
        apply failed visit (List.mem_append_left _ member)
        rw [numbered visit member, dropped]
      obtain ⟨here, reached⟩ := visitItems_keepItems among other 0
      obtain ⟨behind, last⟩ := ih
        (fun visit member => failed visit (List.mem_append_right _ member)) next
      simp only [retain, visited, visitDocuments_cons, reached]
      refine ⟨?_, last⟩
      rw [List.map_append, here, behind, List.filter_append, List.map_append,
        List.filter_congr numbered]

/-! ## What the visits amount to -/

theorem elements_of_unplaced {left right : List Visit}
    (same : left.map Visit.unplaced = right.map Visit.unplaced) :
    (left.filterMap (·.outcome.result)).map Element.unplaced =
      (right.filterMap (·.outcome.result)).map Element.unplaced := by
  have results := congrArg (List.filterMap fun visit => visit.outcome.result) same
  rw [List.filterMap_map, List.filterMap_map] at results
  rw [List.map_filterMap, List.map_filterMap]
  exact results

theorem Visit.diagnostics_of_unplaced {left right : Visit}
    (same : left.unplaced = right.unplaced) :
    List.Forall₂ Diagnostic.SameButPlace left.diagnostics right.diagnostics := by
  simp only [unplaced, Batch.unplaced, Visit.mk.injEq, Outcome.mk.injEq, true_and] at same
  obtain ⟨source, reports, -⟩ := same
  rw [← List.forall₂_eq_eq_eq, List.forall₂_map_left_iff, List.forall₂_map_right_iff]
    at reports
  rw [diagnostics, diagnostics, List.forall₂_map_left_iff, List.forall₂_map_right_iff, source]
  exact reports.imp fun problem other equal => ⟨right.source, problem, other, equal, rfl, rfl⟩

theorem diagnostics_of_unplaced {left right : List Visit}
    (same : left.map Visit.unplaced = right.map Visit.unplaced) :
    List.Forall₂ Diagnostic.SameButPlace (left.flatMap Visit.diagnostics)
      (right.flatMap Visit.diagnostics) := by
  rw [← List.forall₂_eq_eq_eq, List.forall₂_map_left_iff, List.forall₂_map_right_iff] at same
  exact List.rel_flatMap same fun _ _ equal => Visit.diagnostics_of_unplaced equal

/-- Visits without a result that are left out have no say in the elements. -/
theorem elements_filter {visited : List Visit} {kept : Visit → Bool}
    (failed : ∀ visit ∈ visited, kept visit = false → visit.outcome.result = none) :
    (visited.filter kept).filterMap (·.outcome.result) =
      visited.filterMap (·.outcome.result) := by
  rw [List.filterMap_filter]
  apply List.filterMap_congr
  intro visit member
  cases remains : kept visit with
  | true => rfl
  | false => exact (failed visit member remains).symm

/-- Visits with a result that are left out have no say in the diagnostics. -/
theorem diagnostics_filter {visited : List Visit}
    (honest : ∀ visit ∈ visited, visit.outcome.Honest) (kept : Visit → Bool) :
    (visited.filter fun visit => visit.outcome.result.isNone && kept visit).flatMap
        Visit.diagnostics =
      (visited.filter kept).flatMap Visit.diagnostics := by
  induction visited with
  | nil => rfl
  | cons visit rest ih =>
      have others := ih fun other member => honest other (List.mem_cons_of_mem _ member)
      cases remains : kept visit with
      | false => simpa [List.filter_cons, remains] using others
      | true =>
          cases found : visit.outcome.result with
          | none => simp [remains, found, others]
          | some element =>
              have silent : visit.diagnostics = [] :=
                (Visit.diagnostics_eq_nil (honest visit List.mem_cons_self)).mpr
                  (by rw [found, Option.isSome_some])
              simp [remains, found, silent, others]

/-- Elements that fail can be left out of a batch, any of them, and the rest of the batch does
not notice.  The resolver ends up the same, and so do the resolved elements up to their
positions.  What is added to the log is exactly what the failing elements that were kept had
reported, up to the positions recorded there. -/
theorem process_retain {resolver : Resolver} {documents : List Document}
    {keep : Nat → Nat → Bool}
    (failed : ∀ visit ∈ visits resolver documents,
      keep visit.document visit.index = false → visit.outcome.result = none) (log : Log) :
    let whole := process resolver documents log
    let part := process resolver (retain keep 0 documents) log
    whole.elements = (visits resolver documents).filterMap (·.outcome.result) ∧
    whole.log.diagnostics =
      log.diagnostics ++ (visits resolver documents).flatMap Visit.diagnostics ∧
    part.resolver = whole.resolver ∧
    part.elements.map Element.unplaced = whole.elements.map Element.unplaced ∧
    ∃ errors, part.log.diagnostics = log.diagnostics ++ errors ∧
      List.Forall₂ Diagnostic.SameButPlace errors
        (((visits resolver documents).filter fun visit =>
          visit.outcome.result.isNone && keep visit.document visit.index).flatMap
            Visit.diagnostics) := by
  intro whole part
  obtain ⟨same, last⟩ := visitDocuments_retain failed 0
  have wholly : whole = _ := process_eq_through resolver documents log
  have partly : part = _ := process_eq_through resolver (retain keep 0 documents) log
  have elements : whole.elements =
      (visits resolver documents).filterMap (·.outcome.result) := by
    rw [wholly]
    rfl
  refine ⟨elements, by rw [wholly]; rfl, ?resolver, ?elements,
    (visits resolver (retain keep 0 documents)).flatMap Visit.diagnostics,
    by rw [partly]; rfl, ?errors⟩
  case resolver =>
    rw [wholly, partly]
    exact last
  case elements =>
    rw [elements, ← elements_filter failed, partly]
    exact elements_of_unplaced same
  case errors =>
    rw [diagnostics_filter fun _ member => honest_of_mem_visits member]
    exact diagnostics_of_unplaced same

/-- A batch in which an extension is declared without a version, then with one, and used behind
an element without a context; and a document that is a single such element. -/
def garden : List Document :=
  let declared (id : String) : Json.Value := .object
    [("@id", .string id),
      ("@context", .array [.string "dtmi:dtdl:context;3",
        .object [("Plant", .string "dtmi:com:example:Plant;1")]])]
  let used : Json.Value := .object
    [("@id", .string "dtmi:com:example:rose;1"), ("@type", .string "Plant"),
      ("@context", .array [.string "dtmi:dtdl:context;3", .string "dtmi:com:example:plants;1"])]
  [⟨"garden.json", .array [declared "dtmi:com:example:plants",
      declared "dtmi:com:example:plants;1", .object [], used]⟩,
    ⟨"weed.json", .bool true⟩]

/-- The declaration without a version and the single element are left out; the element in the
middle still fails, at another position. -/
theorem process_retain_garden :
    let keep : Nat → Nat → Bool := fun document index => document = 0 ∧ index ≠ 0
    let whole := process Resolver.minimal garden Log.empty
    let part := process Resolver.minimal (retain keep 0 garden) Log.empty
    part.resolver = whole.resolver ∧
    part.elements.map Element.unplaced = whole.elements.map Element.unplaced ∧
    whole.elements.map (·.index) = [1, 3] ∧ part.elements.map (·.index) = [0, 2] ∧
    ∃ diagnostic, part.log.diagnostics = [diagnostic] ∧
      Diagnostic.SameButPlace diagnostic
        ((Problem.elementWithoutContext 2).diagnostic.foundIn (some "garden.json")) := by
  intro keep whole part
  have failed : ∀ visit ∈ visits Resolver.minimal garden,
      keep visit.document visit.index = false → visit.outcome.result = none := by
    decide +kernel
  obtain ⟨-, -, resolver, elements, errors, logged, same⟩ := process_retain failed Log.empty
  refine ⟨resolver, elements, by decide +kernel, by decide +kernel, ?_⟩
  have kept : (((visits Resolver.minimal garden).filter fun visit =>
      visit.outcome.result.isNone && keep visit.document visit.index).flatMap
        Visit.diagnostics) =
      [(Problem.elementWithoutContext 2).diagnostic.foundIn (some "garden.json")] := by
    decide +kernel
  rw [kept] at same
  obtain ⟨diagnostic, _, report, none, rfl⟩ := List.forall₂_cons_right_iff.mp same
  rw [List.forall₂_nil_right_iff] at none
  exact ⟨diagnostic, by rw [logged, none]; rfl, report⟩

end Batch

end Dtdl
