import ApprovalWatch.Json.Skip
import ApprovalWatch.Json.Unquote
import ApprovalWatch.Json.Value

/-!
# Bodies of status responses

The body of a response is a JSON object with a text under `status`, or an array of that text alone.
Other members are passed over.
-/

namespace ApprovalWatch.StatusBody

open Json

/-- The status among the members of an object, whose opening brace is read. `found` is the status
of a member before. Nothing may follow the object. -/
def readMembers (found : Option String) : List Token → Option String
  | .text key :: .colon :: ts =>
    match unquote key with
    | none => none
    | some "status" =>
      match found, ts with
      | none, .text raw :: .comma :: ts => (unquote raw).bind fun s => readMembers (some s) ts
      | none, [.text raw, .rightBrace] => unquote raw
      | _, _ => none
    | some _ =>
      match _h : skip ts with
      | some (.comma :: ts') => readMembers found ts'
      | some [.rightBrace] => found
      | _ => none
  | _ => none
termination_by ts => ts.length
decreasing_by
  · simp only [List.length_cons]; omega
  · have := skip_length _h
    simp only [List.length_cons] at *
    omega

/-- The status that the tokens of a body give. -/
def readTokens : List Token → Option String
  | [.leftBracket, .text raw, .rightBracket] => unquote raw
  | .leftBrace :: ts => readMembers none ts
  | _ => none

/-- The status that a body gives (what `StatusPayload.from_json` takes). -/
def read? (body : List UInt8) : Option String :=
  (tokens? body).bind readTokens

/-- The body that gives a status (the body that `check` answers with). -/
def write (status : String) : String :=
  (Value.object [("status", .string status)]).compact

end ApprovalWatch.StatusBody
