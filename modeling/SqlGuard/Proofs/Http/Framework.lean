/-
The framework of the service is as documented.

What the service relies on is a list of facts about a framework that is not known.  They hold of
the one that the service runs with, whatever way of reading values it is given.  Only one of them
takes more than a look at the definitions: a request that carries an object cannot carry a form as
well, because it says of its body that it is the one or the other, and so the form is filled from
the object.
-/
import SqlGuard.Http.Framework

namespace SqlGuard

/-! ### Reading a body -/

theorem Request.checkLength_cases (request : Request) (limit : Limit) :
    request.checkLength limit = .ok () ∨ request.checkLength limit = .error (.status 413) ∨
      ∃ cause, request.checkLength limit = .error (.crash cause) := by
  unfold Request.checkLength
  cases request.bodyLength? with
  | none => exact Or.inl rfl
  | some length =>
      simp only [Limit.check]
      rcases limit.isExceeded length with typeName | _ | _
      · exact Or.inr (Or.inr ⟨.incomparable typeName, rfl⟩)
      · exact Or.inl rfl
      · exact Or.inr (Or.inl rfl)

section Payload

variable {reading : Json.Reading} {limit : Limit} {request : Request}

/-- A body that is read keeps to the limit. -/
theorem Request.payload_value {v : Json} (h : request.payload reading limit = .ok (.value v)) :
    request.isJson = true ∧ request.checkLength limit = .ok () := by
  unfold Request.payload at h
  cases hjson : request.isJson with
  | false => simp [hjson] at h
  | true =>
      rcases request.checkLength_cases limit with hlength | hlength | ⟨cause, hlength⟩
      · exact ⟨rfl, hlength⟩
      · simp [hjson, hlength, bind, Except.bind] at h
      · simp [hjson, hlength, bind, Except.bind] at h

/-- A body is read unless it is too large or something goes wrong. -/
theorem Request.payload_error {abort : Abort} (h : request.payload reading limit = .error abort) :
    abort = .status 413 ∨ ∃ cause, abort = .crash cause := by
  unfold Request.payload at h
  cases hjson : request.isJson with
  | false => simp [hjson] at h
  | true =>
      rcases request.checkLength_cases limit with hlength | hlength | ⟨cause, hlength⟩
      · rw [hjson, hlength] at h
        cases htext : Encoding.bodyText? reading.lone request.body with
        | none => simp [htext, bind, Except.bind] at h
        | some s =>
            rcases hread : Json.read reading s with (_ | container) | v
            · simp [htext, hread, bind, Except.bind] at h
            · refine Or.inr ⟨.tooDeep container, ?_⟩
              simpa [htext, hread, bind, Except.bind] using h.symm
            · simp [htext, hread, bind, Except.bind] at h
      · rw [hjson, hlength] at h
        exact Or.inl (by simpa [bind, Except.bind] using h.symm)
      · rw [hjson, hlength] at h
        exact Or.inr ⟨cause, by simpa [bind, Except.bind] using h.symm⟩

/-- A body is a value or a form, and not both. -/
theorem Request.formFields_of_isJson (h : request.isJson = true) : request.formFields = [] := by
  unfold Request.formFields
  cases hform : request.isForm with
  | false => rfl
  | true =>
      have htype : request.mimetype = "application/x-www-form-urlencoded" := by
        simpa [Request.isForm] using hform
      rw [Request.isJson, htype] at h
      exact absurd h (by decide)

/-- A form is filled from the object that a request carries. -/
theorem Request.sent_object {members : List (String × Json)}
    (h : request.payload reading limit = .ok (.value (.obj members))) (field : String) :
    request.sent reading limit field = .ok (Field.ofMember? (members.lookup field)) := by
  obtain ⟨hjson, hlength⟩ := Request.payload_value h
  unfold Request.sent
  rw [hlength, Request.formFields_of_isJson hjson, h]
  rfl

end Payload

/-! ### Finding a route -/

theorem Destination.find_registered {method : String} {route : Route}
    (hroute : route ∈ Route.registered) (hmethod : method ∈ route.methods)
    (hoptions : method ≠ "OPTIONS") : Destination.find method route.path = .found route := by
  have hpath : route.path.isEmpty = false ∧ Route.ofPath? route.path = some route := by
    revert hroute
    simp only [Route.registered, List.mem_cons, List.not_mem_nil, or_false]
    rintro (rfl | rfl | rfl | rfl) <;> exact ⟨by decide, by decide⟩
  unfold Destination.find
  rw [hpath.1, hpath.2]
  simp [Destination.atRoute, hmethod, hoptions]

/-! ### The framework -/

theorem Framework.payload_standard {reading : Json.Reading} {limit : Limit} {request : Request}
    {v : Json} (h : (standard reading).payload limit request = .ok (some v)) :
    request.payload reading limit = .ok (.value v) := by
  unfold standard at h
  dsimp only at h
  rcases hpayload : request.payload reading limit with abort | _ | _ | w
  · simp [hpayload, Except.map] at h
  · simp [hpayload, Except.map, Payload.value?] at h
  · simp [hpayload, Except.map, Payload.value?] at h
  · simp only [hpayload, Except.map, Payload.value?, Except.ok.injEq, Option.some.injEq] at h
    rw [h]

/-- **The framework that the service runs with is as documented.** -/
theorem Framework.documented_standard (reading : Json.Reading) : (standard reading).Documented where
  found request route hroute htarget hmethod hoptions := by
    have hfound : Destination.find request.verb route.path = .found route :=
      Destination.find_registered hroute hmethod hoptions
    rw [← htarget] at hfound
    exact hfound
  path_eq request htarget := by
    have hne : request.target ≠ [] := htarget
    show String.ofList (Address.path request.address) = String.ofList request.target
    unfold Request.target at hne ⊢
    split at hne
    · exact absurd rfl hne
    · rename_i hempty
      rw [if_neg hempty]
  answers_post request hmethod := by
    have hverb : request.verb = "POST" := hmethod
    show (request.method == "HEAD") = false
    refine beq_eq_false_iff_ne.2 fun hhead => ?_
    unfold Request.verb at hverb
    rw [hhead] at hverb
    exact absurd hverb (by decide)
  submits_post request hmethod := by
    have hverb : request.verb = "POST" := hmethod
    show request.submits = true
    unfold Request.submits
    rw [hverb]
    decide
  payload_error limit request abort h := by
    unfold standard at h
    dsimp only at h
    rcases hpayload : request.payload reading limit with abort' | payload
    · rw [hpayload] at h
      obtain rfl : abort' = abort := by simpa [Except.map] using h
      exact Request.payload_error hpayload
    · simp [hpayload, Except.map] at h
  sent_object limit request members field _ h := Request.sent_object (payload_standard h) field
  held_eq values := rfl
  errors_missing values missing own h := by
    have hhead : (values.head?.getD .null).isTruthy = false := by
      cases values with
      | nil => rfl
      | cons v rest => exact h v rfl
    show requiredErrors values missing own = _
    unfold requiredErrors
    rw [hhead]
    rfl
  errors_own v rest missing own h := by
    show requiredErrors (v :: rest) missing own = _
    unfold requiredErrors
    rw [List.head?_cons, Option.getD_some, h, if_pos rfl]

end SqlGuard
