import RestClient.Operation
import RestClient.Sample.Types

/-!
# The sample schema

The operations of a pet store, and operations on paths that take templates, methods and content
types to their limits.
-/

namespace RestClient.Sample

/-! ## Content types -/

/-- Tables of values separated by commas. -/
def csv : ContentType := { mime := "text/csv" }

/-- A content type whose name no header can carry. -/
def brokenMime : ContentType := { mime := "text/bad\nmime" }

/-! ## Unions -/

def updatePet : Union := [
  ⟨200, "Ok", some pet⟩, ⟨400, "InvalidId", none⟩, ⟨404, "NotFound", none⟩,
  ⟨422, "ValidationFailed", none⟩]

def findPets : Union := [⟨200, "Ok", some (.seq pet)⟩, ⟨400, "InvalidStatus", none⟩]

def getPet : Union := [
  ⟨200, "Ok", some pet⟩, ⟨400, "InvalidId", none⟩, ⟨404, "NotFound", none⟩]

def deletePet : Union := [⟨200, "Deleted", none⟩, ⟨400, "InvalidId", none⟩]

def placeOrder : Union := [
  ⟨200, "Ok", some order⟩, ⟨400, "Invalid", none⟩, ⟨422, "Unprocessable", none⟩]

def placeOrderText : Union := [
  ⟨200, "Ok", some .text⟩, ⟨400, "Invalid", some .text⟩, ⟨422, "Unprocessable", none⟩]

def echoResponse : Union := [⟨200, "Ok", some .any⟩, ⟨204, "Empty", none⟩]

def fileText : Union := [
  ⟨200, "Text", some .text⟩, ⟨301, "Moved", none⟩, ⟨404, "Missing", some .text⟩,
  ⟨500, "Broken", none⟩]

def uploaded : Union := [
  ⟨503, "Busy", some (.int .u64)⟩, ⟨201, "Created", some figure⟩, ⟨200, "Ok", some .any⟩,
  ⟨204, "Empty", none⟩, ⟨400, "Problem", some strict⟩, ⟨299, "Odd", some (.option .text)⟩,
  ⟨300, "Choices", some (.seq (.int .i64))⟩, ⟨0, "Zero", none⟩, ⟨65535, "Max", some .text⟩]

/-- All unions by name. -/
def unions : List (String × Union) := [
  ("UpdatePet", updatePet), ("FindPets", findPets), ("GetPet", getPet), ("DeletePet", deletePet),
  ("PlaceOrder", placeOrder), ("PlaceOrderText", placeOrderText), ("EchoResponse", echoResponse),
  ("FileText", fileText), ("Uploaded", uploaded)]

/-! ## Routes -/

def petCollection : Route := ⟨"PetCollection", "/pet"⟩
def findByStatus : Route := ⟨"FindByStatus", "/pet/findByStatus"⟩
def petById : Route := ⟨"PetById", "/pet/\x7bpetId\x7d"⟩
def storeOrder : Route := ⟨"StoreOrder", "/store/order"⟩
def echo : Route := ⟨"Echo", "/echo"⟩
def shelf : Route := ⟨"Shelf", "/shelves/\x7bname\x7d"⟩
def files : Route := ⟨"Files", "files/\x7bdir\x7d/\x7bname\x7d.\x7bext\x7d"⟩
def upload : Route := ⟨"Upload", "/upload/\x7bkind\x7d/"⟩
def root : Route := ⟨"Root", "/"⟩
def versioned : Route := ⟨"Versioned", "/v\x7bmajor\x7d.\x7bminor\x7d/\x7bmajor\x7d"⟩
def dots : Route := ⟨"Dots", "/a/../\x7bx\x7d/./b"⟩
def unclosed : Route := ⟨"Unclosed", "/bad/\x7bx"⟩
def emptyName : Route := ⟨"EmptyName", "/bad/\x7b\x7d"⟩
def stray : Route := ⟨"Stray", "/bad/x\x7d"⟩
def nested : Route := ⟨"Nested", "/bad/\x7ba\x7bb\x7d\x7d"⟩

/-! ## Operations -/

/-- A method that takes any value and answers with it. -/
def echoing (method : Method) : Operation where
  route := echo
  method := method
  statuses := [200, 204]
  bodies := [(.json, .any)]
  responses := [(.json, echoResponse)]

/-- A method at a route that takes parameters and a query of any shape, and no body. -/
def free (route : Route) (method : Method) : Operation where
  route := route
  method := method
  statuses := [200, 204]
  params? := some .any
  query? := some .any
  responses := [(.json, echoResponse)]

/-- The operations on pets and orders. -/
def storeOperations : List Operation := [
  { route := petCollection, method := .put, statuses := [200, 400, 404, 422]
    bodies := [(.json, pet), (.xml, pet), (.yaml, pet)]
    responses := [(.json, updatePet), (.xml, updatePet), (.yaml, updatePet)] },
  { route := findByStatus, method := .get, statuses := [200, 400]
    query? := some .any
    responses := [(.json, findPets)] },
  { route := petById, method := .get, statuses := [200, 400, 404]
    params? := some petIdParams
    query? := some search
    responses := [(.json, getPet)] },
  { route := petById, method := .delete, statuses := [200, 400]
    params? := some petIdParams
    bodies := [(.json, .any)]
    responses := [(.json, deletePet)] },
  { route := storeOrder, method := .post, statuses := [422, 200, 400]
    bodies := [(.json, order)]
    responses := [(.json, placeOrder), (.plainText, placeOrderText)] }]

/-- The operations that send and receive in several content types. -/
def fileOperations : List Operation := [
  { route := files, method := .get, statuses := [200, 301, 404, 500]
    params? := some .any
    query? := some .any
    responseType := .plainText
    responses := [(.plainText, fileText), (.html, fileText), (.json, fileText)] },
  { route := upload, method := .post, statuses := [0, 200, 201, 204, 299, 300, 400, 503, 65535]
    params? := some .any
    query? := some .any
    requestType := .plainText
    bodies := [
      (.json, .any), (.xml, .any), (.yaml, .any), (.plainText, .any), (.html, .any),
      (.formUrlEncoded, .any), (.octetStream, .any), (csv, .any), (brokenMime, .any)]
    responseType := .yaml
    responses := [
      (.json, uploaded), (.xml, uploaded), (.yaml, uploaded), (csv, uploaded),
      (.octetStream, uploaded)] }]

/-- **All operations of the schema**: those of the store, one for each method at a path that echoes,
and single ones for what a template and a path may look like. -/
def operations : List Operation :=
  storeOperations ++
  [.get, .post, .put, .patch, .delete, .head, .options, .trace].map echoing ++
  [free shelf .get, { free shelf .patch with bodies := [(.json, .any)] }] ++
  fileOperations ++
  [{ free root .options with requestType := .octetStream },
    free versioned .head, free dots .get, free unclosed .get, free emptyName .get,
    free stray .get, free nested .get]

/-- The operation of a method at a route. -/
def operation? (routeName : String) (method : Method) : Option Operation :=
  operations.find? fun op => op.route.name = routeName && op.method = method

end RestClient.Sample
