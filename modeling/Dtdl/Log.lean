import Dtdl.Problem

/-!
# The log of a session

A log collects the diagnostics of many units of work.  A diagnostic that does not name
a document is attributed to the one that is being worked on.
-/

namespace Dtdl

/-- A diagnostic with the document that it is attributed to. -/
def Diagnostic.foundIn (diagnostic : Diagnostic) (document : Option String) : Diagnostic :=
  { diagnostic with document }

/-- Collected diagnostics, and the document that is being worked on. -/
structure Log where
  diagnostics : List Diagnostic
  document : Option String
  deriving DecidableEq

namespace Log

/-- The log before anything is reported. -/
def empty : Log := ⟨[], none⟩

/-- Go on with another document. -/
def within (log : Log) (document : Option String) : Log := { log with document }

def report (log : Log) (diagnostic : Diagnostic) : Log :=
  { log with
    diagnostics :=
      log.diagnostics ++ [{ diagnostic with document := diagnostic.document.or log.document }] }

def reportAll (log : Log) (problems : List Problem) : Log :=
  problems.foldl (fun log problem => log.report problem.diagnostic) log

/-- Whether a fault of some kind was reported. -/
def contains (log : Log) (kind : Diagnostic.Kind) : Bool :=
  log.diagnostics.any (·.kind = kind)

/-- The diagnostics of problems come behind those that are there, in order, and all of them
are attributed to the document that is being worked on. -/
theorem diagnostics_reportAll (log : Log) (problems : List Problem) :
    (log.reportAll problems).diagnostics =
      log.diagnostics ++ problems.map (·.diagnostic.foundIn log.document) := by
  induction problems generalizing log with
  | nil => simp [reportAll]
  | cons problem rest ih =>
      rw [reportAll, List.foldl_cons, ← reportAll, ih]
      simp [report, Problem.diagnostic, Diagnostic.foundIn]

@[simp] theorem document_reportAll (log : Log) (problems : List Problem) :
    (log.reportAll problems).document = log.document := by
  induction problems generalizing log with
  | nil => rfl
  | cons problem rest ih => exact ih (log.report problem.diagnostic)

end Log

end Dtdl
