import RestClient.Http.Method
import RestClient.Response

/-!
# Operations

A schema is a list of operations: for a path and a method, what may be sent and what may come back.
-/

namespace RestClient

/-- A path of a schema: its name and its template. -/
structure Route where
  name : String
  template : String
  deriving DecidableEq, Repr

/-- What a method does at a path. -/
structure Operation where
  route : Route
  method : Method
  /-- The statuses that are declared. -/
  statuses : List Nat
  /-- The shape of the path parameters; none if there are none to give. -/
  params? : Option Shape := none
  /-- The shape of the query; none if there is none to give. -/
  query? : Option Shape := none
  /-- The content type of requests where none is chosen. -/
  requestType : ContentType := .json
  /-- The content types that requests may have, each with the shape of its body. -/
  bodies : List (ContentType × Shape) := []
  /-- The content type of responses where none is chosen. -/
  responseType : ContentType := .json
  /-- The content types that responses may have, each with its union. -/
  responses : List (ContentType × Union) := []

namespace Operation

/-- The shape of a body under a content type, by its name and rule together; none under a content
type that the operation does not take. -/
def bodyShape? (op : Operation) (ct : ContentType) : Option Shape :=
  (op.bodies.find? fun b => b.1 = ct).map (·.2)

/-- The union of responses under a content type; none under a content type that the operation does
not answer with. -/
def union? (op : Operation) (ct : ContentType) : Option Union :=
  (op.responses.find? fun r => r.1 = ct).map (·.2)

end Operation
end RestClient
