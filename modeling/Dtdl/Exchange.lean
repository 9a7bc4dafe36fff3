import Dtdl.Exchange.Records

/-!
# Requests in JSON

Callers that hold JSON texts hand over a context or a batch of documents together with
options, and get an answer in JSON.  The answer says whether the texts could be read;
what is wrong with the contexts themselves is part of its data.
-/

namespace Dtdl.Exchange

open Json (Value)

/-- The answer to a request that could be read. -/
def success (data : Value) : String :=
  (Value.object [("success", .bool true), ("data", data)]).text

/-- The answer to a request that could not be read. -/
def failure (message : String) : String :=
  (Value.object [("success", .bool false), ("error", .string message)]).text

/-- The answer for a resolved context, or for one that failed. -/
def contextData (outcome : Outcome Problem Context.Resolved) : Value :=
  let context := outcome.result
  let affiliates := (context.map (·.affiliates)).getD []
  .object
    ([("resolved", .bool context.isSome)] ++
      (context.toList.map fun context => ("dtdlVersion", .ofNat context.language.version.major)) ++
      [("affiliates", .ofTexts (affiliates.map (·.specifier))),
        ("scope", ((context.map (·.scope)).getD Scope.empty).toJson),
        ("errors", .array (outcome.reports.map fun problem => problem.diagnostic.toJson))])

/-- Resolve one context.  The options are read first. -/
def resolveContext (context options : String) : String :=
  match Resolver.Options.parse options with
  | .error fault => failure s!"Invalid options JSON: {fault.message}"
  | .ok options =>
      match Json.parse context with
      | .error fault => failure s!"Invalid context JSON: {fault.message}"
      | .ok value =>
          success (contextData do
            let stack ← Context.Stack.ofJson value
            (Resolver.released options).process stack none)

/-- Resolve a batch of documents.  The options are read first. -/
def processDocuments (documents options : String) : String :=
  match Resolver.Options.parse options with
  | .error fault => failure s!"Invalid options JSON: {fault.message}"
  | .ok options =>
      match Document.parseList documents with
      | .error fault => failure s!"Invalid input JSON: {fault.message}"
      | .ok documents =>
          let progress := Batch.process (Resolver.released options) documents Log.empty
          success (.object
            [("elements", .array (progress.elements.map Element.toJson)),
              ("errors", .array (progress.log.diagnostics.map Diagnostic.toJson))])

end Dtdl.Exchange
