/-!
# Units of work that report what is wrong

A unit of work never stops at the first fault of its input if it can still look at
the rest: it reports every fault it finds and then gives up.  An outcome is the list
of reports in the order they were made, together with the result if there is one.

`Outcome.all` is the way to look at independent parts: every part is tried, and all
of them have to succeed.  `bind` is the way to depend on an earlier part: once that
has failed, nothing after it is tried.
-/

namespace Dtdl

/-- What a unit of work reported, in order, and its result unless it gave up. -/
structure Outcome (Report Result : Type) where
  reports : List Report
  result : Option Result
  deriving DecidableEq, Repr

namespace Outcome

variable {Report Result Next : Type}

/-- Succeed without a report. -/
def succeed (result : Result) : Outcome Report Result := ⟨[], some result⟩

/-- Report one fault and give up. -/
def refuse (report : Report) : Outcome Report Result := ⟨[report], none⟩

/-- Report every listed fault; give up if there is one. -/
def check (reports : List Report) : Outcome Report Unit :=
  ⟨reports, if reports.isEmpty then some () else none⟩

/-- Go on from a result; a unit that gave up is not continued. -/
def andThen (first : Outcome Report Result) (next : Result → Outcome Report Next) :
    Outcome Report Next :=
  match first.result with
  | none => ⟨first.reports, none⟩
  | some result =>
      let second := next result
      ⟨first.reports ++ second.reports, second.result⟩

instance : Monad (Outcome Report) where
  pure := succeed
  bind := andThen

/-- Go on from a result with a unit of work that moves a state on.  A unit that gave up
leaves the state where it was. -/
def thread {State : Type} (first : Outcome Report Result) (state : State)
    (next : Result → Outcome Report Next × State) : Outcome Report Next × State :=
  match first.result with
  | none => (⟨first.reports, none⟩, state)
  | some result =>
      let second := next result
      (⟨first.reports ++ second.1.reports, second.1.result⟩, second.2)

/-- Try every part.  The reports follow the order of the parts, and the results are
given only if no part gave up. -/
def all : List (Outcome Report Result) → Outcome Report (List Result)
  | [] => succeed []
  | part :: rest =>
      let others := all rest
      ⟨part.reports ++ others.reports,
        match part.result, others.result with
        | some result, some results => some (result :: results)
        | _, _ => none⟩

@[simp] theorem result_pure (result : Result) :
    (pure result : Outcome Report Result).result = some result := rfl

@[simp] theorem result_succeed (result : Result) :
    (succeed result : Outcome Report Result).result = some result := rfl

@[simp] theorem result_refuse (report : Report) :
    (refuse report : Outcome Report Result).result = none := rfl

@[simp] theorem result_check {reports : List Report} {nothing : Unit} :
    (check reports).result = some nothing ↔ reports = [] := by
  cases reports <;> simp [check]

@[simp] theorem result_bind (first : Outcome Report Result)
    (next : Result → Outcome Report Next) :
    (first >>= next).result = first.result.bind fun result => (next result).result := by
  cases first with
  | mk reports result => cases result <;> rfl

theorem result_bind_succeed (first : Outcome Report Result) (image : Result → Next) :
    (first >>= fun result => succeed (image result)).result = first.result.map image := by
  cases first with
  | mk reports given => cases given <;> rfl

theorem reports_bind_succeed (first : Outcome Report Result) (image : Result → Next) :
    (first >>= fun result => succeed (image result)).reports = first.reports := by
  cases first with
  | mk reports given =>
      cases given with
      | none => rfl
      | some result => exact List.append_nil reports

@[simp] theorem succeed_bind (result : Result) (next : Result → Outcome Report Next) :
    (succeed result >>= next) = next result := rfl

@[simp] theorem check_nil_bind (next : Unit → Outcome Report Next) :
    (check [] >>= next) = next () := rfl

@[simp] theorem check_singleton_bind (report : Report) (next : Unit → Outcome Report Next) :
    (check [report] >>= next) = refuse report := rfl

theorem result_all {parts : List (Outcome Report Result)} {results : List Result} :
    (all parts).result = some results ↔ parts.map (·.result) = results.map some := by
  induction parts generalizing results with
  | nil => cases results <;> simp [all]
  | cons part rest ih =>
      simp only [all]
      cases results with
      | nil => cases part.result <;> cases (all rest).result <;> simp
      | cons head tail =>
          simp only [List.map_cons, List.cons.injEq, ← ih]
          cases part.result <;> cases (all rest).result <;> simp

theorem reports_all (parts : List (Outcome Report Result)) :
    (all parts).reports = parts.flatMap (·.reports) := by
  induction parts with
  | nil => rfl
  | cons part rest ih => rw [all, ih, List.flatMap_cons]

/-- The results of all parts depend on the results of the parts only. -/
theorem result_all_congr {Source : Type} {sources : List Source}
    {part other : Source → Outcome Report Result}
    (same : ∀ source ∈ sources, (part source).result = (other source).result) :
    (all (sources.map part)).result = (all (sources.map other)).result := by
  ext results
  rw [result_all, result_all, List.map_map, List.map_map]
  have results : sources.map (fun source => (part source).result) =
      sources.map fun source => (other source).result :=
    List.map_congr_left same
  exact results ▸ Iff.rfl

/-- Where parts have succeeded, every result is that of a part. -/
theorem exists_part {Source : Type} {part : Source → Outcome Report Result}
    {sources : List Source} {results : List Result}
    (each : sources.map (fun source => (part source).result) = results.map some)
    {result : Result} (member : result ∈ results) :
    ∃ source ∈ sources, (part source).result = some result := by
  have found : some result ∈ results.map some := List.mem_map_of_mem member
  rw [← each] at found
  exact List.mem_map.mp found

theorem filterMap_of_each {Source Image : Type} {part : Source → Outcome Report Result}
    {sources : List Source} {results : List Result}
    (each : sources.map (fun source => (part source).result) = results.map some)
    (image : Result → Option Image) :
    results.filterMap image = sources.filterMap fun source => (part source).result.bind image := by
  calc
    results.filterMap image = (results.map some).filterMap (·.bind image) := by
      rw [List.filterMap_map]
      rfl
    _ = sources.filterMap fun source => (part source).result.bind image := by
      rw [← each, List.filterMap_map]
      rfl

theorem findSome?_of_each {Source Image : Type} {part : Source → Outcome Report Result}
    {sources : List Source} {results : List Result}
    (each : sources.map (fun source => (part source).result) = results.map some)
    (image : Result → Option Image) :
    results.findSome? image = sources.findSome? fun source => (part source).result.bind image := by
  calc
    results.findSome? image = (results.map some).findSome? (·.bind image) := by
      rw [List.findSome?_map]
      rfl
    _ = sources.findSome? fun source => (part source).result.bind image := by
      rw [← each, List.findSome?_map]
      rfl

theorem exists_result {Source : Type} {part : Source → Outcome Report Result}
    {sources : List Source} {results : List Result}
    (each : sources.map (fun source => (part source).result) = results.map some)
    {source : Source} (member : source ∈ sources) :
    ∃ result ∈ results, (part source).result = some result := by
  have found : (part source).result ∈ results.map some := by
    rw [← each]
    exact List.mem_map.mpr ⟨source, member, rfl⟩
  obtain ⟨result, listed, same⟩ := List.mem_map.mp found
  exact ⟨result, listed, same.symm⟩

/-- Where parts have succeeded, others that succeed alike have the same results. -/
theorem each_of_alike {Source : Type} {part other : Source → Outcome Report Result}
    {sources : List Source} {results : List Result}
    (each : sources.map (fun source => (part source).result) = results.map some)
    (alike : ∀ source ∈ sources, ∀ result, (part source).result = some result →
      (other source).result = some result) :
    sources.map (fun source => (other source).result) = results.map some := by
  rw [← each]
  apply List.map_congr_left
  intro source member
  obtain ⟨result, -, found⟩ := exists_result each member
  rw [found]
  exact alike source member result found

@[simp] theorem thread_of_none {State : Type} {first : Outcome Report Result}
    (failed : first.result = none) (state : State)
    (next : Result → Outcome Report Next × State) :
    first.thread state next = (⟨first.reports, none⟩, state) := by
  simp [thread, failed]

@[simp] theorem thread_of_some {State : Type} {first : Outcome Report Result} {result : Result}
    (found : first.result = some result) (state : State)
    (next : Result → Outcome Report Next × State) :
    first.thread state next =
      (⟨first.reports ++ (next result).1.reports, (next result).1.result⟩, (next result).2) := by
  simp [thread, found]

theorem fst_thread {State : Type} (first : Outcome Report Result) (state : State)
    (next : Result → Outcome Report Next × State) :
    (first.thread state next).1 = first >>= fun result => (next result).1 := by
  cases first with
  | mk reports given => cases given <;> rfl

end Outcome

end Dtdl
