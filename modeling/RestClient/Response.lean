import RestClient.ContentType

/-!
# Responses

An operation declares its responses as a union: one arm for each status, with a variant's name and
the shape of the body if the status has one. The status of a response chooses the arm; only an arm
with a body looks at the text.
-/

namespace RestClient

/-- The response declared for a status: the name of its variant, and the shape of its body where it
has one. -/
structure Arm where
  status : Nat
  variant : String
  body? : Option Shape := none

/-- The responses that an operation declares under one content type. Nothing forbids a status to
stand twice; the first of the two counts then. -/
abbrev Union := List Arm

/-- A response of a union. -/
structure Response where
  status : Nat
  variant : String
  data? : Option Datum := none
  deriving Repr

namespace Union

/-- The declared statuses, in order. -/
def statuses (u : Union) : List Nat := u.map (·.status)

/-- The arm of a status. -/
def arm? (u : Union) (status : Nat) : Option Arm := u.find? fun a => a.status = status

/-- The response of an arm. An arm without a shape takes no body, so the text is not read at all and
any text will do; otherwise the reader decides, and its error is the outcome. -/
def decodeArm (arm : Arm) (read : BodyReader) (status : Nat) (text : String) :
    Except ValidationError Response :=
  match arm.body? with
  | none => .ok { status := arm.status, variant := arm.variant }
  | some shape => (read shape text status).map fun d => ⟨arm.status, arm.variant, some d⟩

/-- **The response of a status and a text.** The arm of the status decodes it, and a status that is
not declared is an error that keeps the text, so that a caller can still look at it. -/
def decode (u : Union) (read : BodyReader) (status : Nat) (text : String) :
    Except ValidationError Response :=
  match u.arm? status with
  | none => .error (.undeclaredStatus status text)
  | some arm => decodeArm arm read status text

end Union

/-- Whether a status means success. -/
def Response.isSuccess (r : Response) : Bool := 200 ≤ r.status && r.status < 300

/-- Whether two lists hold the same statuses, whatever their order and repetitions: each status of
the one is looked for in the other, and the other way round. -/
def sameStatuses (declared listed : List Nat) : Bool :=
  declared.all listed.contains && listed.all declared.contains

end RestClient
