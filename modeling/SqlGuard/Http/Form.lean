/-
The query form: what is accepted as a query.

The form has one field, the query, which is required.  The framework fills it and looks whether it
is there; what the form itself asks is that the query is a text, and not longer than the limit.
-/
import SqlGuard.Http.Framework
import SqlGuard.Http.Handler

namespace SqlGuard

/-- The name of the field that holds the query. -/
def queryField : String :=
  "query"

/-- What is wrong with a query, as the form says it. -/
def checkQuery (limit : Limit) (query : Json) : Except Abort (Option String) :=
  match query with
  | .str s => do
    if ← limit.check s.toList.length then return some (Refusal.tooLong limit).message
    else return none
  | _ => return some Refusal.notText.message

/-- What comes of a form. -/
structure FormOutcome where
  /-- Whether the form was submitted and is accepted. -/
  accepted : Bool
  /-- What is wrong with each field that is not accepted, by its name. -/
  errors : List (String × List String)
  /-- What the field of the query holds. -/
  query : Json

/-- What comes of a form that was submitted, given what is wrong with its query. -/
def FormOutcome.ofErrors (query : Json) (errors : List String) : FormOutcome where
  accepted := errors.isEmpty
  errors := if errors.isEmpty then [] else [(queryField, errors)]
  query := query

/-- What a form says where it has no error to tell. -/
def FormOutcome.noError : String :=
  "Invalid request"

/-- The message of a form. -/
def FormOutcome.firstError (outcome : FormOutcome) : String :=
  (outcome.errors.findSome? fun field => field.2.head?).getD noError

/-- Fills the form from a request and looks at it.  One that is not submitted is empty, and is not
looked at. -/
def Form.check (fw : Framework) (request : Request) : Handler FormOutcome := do
  if fw.submits request then
    let config ← Handler.config
    let values ← Handler.ofExcept (fw.sent config.maxContentLength request queryField)
    let query := fw.held values
    let own := checkQuery config.maxQueryLength query
    let errors ← Handler.ofExcept (fw.errors values Refusal.required.message own)
    return .ofErrors query errors
  else
    return { accepted := false, errors := [], query := fw.held [] }

end SqlGuard
