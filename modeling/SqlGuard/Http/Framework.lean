/-
What is done for the service by the framework that it is built on.

The service does not find its own routes, read bodies, fill forms or deliver files.  It has this
done, and takes the result as it is given.  A framework is therefore a parameter here: any choice
of functions for what the service has done.  They are functions of the request, and of the limit or
size that is passed along: a framework keeps nothing from one request to the next.  `standard` is
the choice that the service runs with, up to what depends on the machine.
-/
import SqlGuard.Http.Part
import SqlGuard.Http.Route

namespace SqlGuard

/-- What the service has done for it. -/
structure Framework where
  /-- The method of a request, in upper case. -/
  method : Request → String
  /-- The path that routes are looked up with. -/
  target : Request → Text
  /-- The path, as the service gets to see it. -/
  path : Request → String
  /-- Where a request leads. -/
  destination : Request → Destination
  /-- Whether the client gets the response without its body. -/
  omitsBody : Request → Bool
  /-- The value that a request carries, under a limit on the length of its body. -/
  payload : Limit → Request → Except Abort (Option Json)
  /-- Whether a request submits a form. -/
  submits : Request → Bool
  /-- The values that a request submits for a field of a form, under the same limit. -/
  sent : Limit → Request → String → Except Abort (List Json)
  /-- What a field for a text holds, given the values that were submitted for it. -/
  held : List Json → Json
  /-- The errors of a field that is required, given the values that were submitted for it, what is
  said where it is missing, and what comes of the check that the form itself makes of it. -/
  errors : List Json → String → Except Abort (Option String) → Except Abort (List String)
  /-- What a request gets of a page of a given size. -/
  serving : Nat → Request → Serving

namespace Framework

/-! ### What is relied on -/

/-- What the service relies on when a query is posted. -/
structure Documented (fw : Framework) : Prop where
  /-- A route of the service is found by its path and by a method that it allows. -/
  found : ∀ request, ∀ route ∈ Route.registered, fw.target request = route.path →
    fw.method request ∈ route.methods → fw.method request ≠ "OPTIONS" →
    fw.destination request = .found route
  /-- The service gets to see the path that was looked up, if there was one. -/
  path_eq : ∀ request, fw.target request ≠ [] →
    fw.path request = String.ofList (fw.target request)
  /-- What is posted gets a response with its body. -/
  answers_post : ∀ request, fw.method request = "POST" → fw.omitsBody request = false
  /-- What is posted submits a form. -/
  submits_post : ∀ request, fw.method request = "POST" → fw.submits request = true
  /-- A body is read, or it is too large, or something goes wrong while it is read. -/
  payload_error : ∀ limit request abort, fw.payload limit request = .error abort →
    abort = .status 413 ∨ ∃ cause, abort = .crash cause
  /-- A form is filled from the members of an object. -/
  sent_object : ∀ limit request members field, fw.submits request = true →
    fw.payload limit request = .ok (some (.obj members)) →
    fw.sent limit request field = .ok (Field.ofMember? (members.lookup field))
  /-- Of several values a field for a text holds the first. -/
  held_eq : ∀ values, fw.held values = values.head?.getD .null
  /-- A required field needs a value, and a first one that holds something; nothing else is looked
  at where it is missing. -/
  errors_missing : ∀ values missing own, (∀ v ∈ values.head?, v.isTruthy = false) →
    fw.errors values missing own = .ok [missing]
  /-- Otherwise the form's own check decides. -/
  errors_own : ∀ v rest missing own, v.isTruthy = true →
    fw.errors (v :: rest) missing own = own.map Option.toList

/-! ### The framework of the service -/

/-- The errors of a required field.  It is missing if no value was submitted or the first one holds
nothing, and then nothing else is said of it. -/
def requiredErrors (values : List Json) (missing : String)
    (own : Except Abort (Option String)) : Except Abort (List String) :=
  if (values.head?.getD .null).isTruthy then own.map Option.toList else .ok [missing]

/-- The framework of the service, for a given way to read values. -/
def standard (reading : Json.Reading) : Framework where
  method r := r.verb
  target r := r.target
  path r := r.path
  destination r := Destination.find r.verb r.target
  omitsBody r := r.method == "HEAD"
  payload limit r := (r.payload reading limit).map Payload.value?
  submits r := r.submits
  sent limit r field := r.sent reading limit field
  held values := values.head?.getD .null
  errors := requiredErrors
  serving size r := r.serving size

end Framework

end SqlGuard
