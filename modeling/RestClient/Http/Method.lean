/-!
# Request methods

The eight methods of a request, each with its name on the wire. Only three of them carry a body.
-/

namespace RestClient

/-- **The method of a request.** Only some of them send a body; for the others a body that was given
is left out. -/
inductive Method where
  | get
  | post
  | put
  | patch
  | delete
  | head
  | options
  | trace
  deriving DecidableEq, Repr, Inhabited

namespace Method

/-- All methods. -/
def all : List Method := [.get, .post, .put, .patch, .delete, .head, .options, .trace]

/-- The name of a method on the wire. -/
def name : Method → String
  | .get => "GET"
  | .post => "POST"
  | .put => "PUT"
  | .patch => "PATCH"
  | .delete => "DELETE"
  | .head => "HEAD"
  | .options => "OPTIONS"
  | .trace => "TRACE"

/-- The method of a name, which is written in capitals. -/
def ofName? (s : String) : Option Method := all.find? fun m => m.name = s

/-- Whether requests of the method carry a body. For the others a body that was given is not
sent. -/
def hasBody : Method → Bool
  | .post | .put | .patch => true
  | _ => false

theorem ofName?_name (m : Method) : ofName? m.name = some m := by
  cases m <;> decide

end Method
end RestClient
