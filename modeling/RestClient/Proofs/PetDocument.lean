import Mathlib.Data.Int.CharZero
import RestClient.Proofs.Documents
import RestClient.Proofs.Echo
import RestClient.Proofs.TextBodies

/-!
# A pet that comes back

A pet is written as a document and read back (`Pet.readXml_writeXml`). What is read is the pet with
the ends of lines of its texts made equal; so it is the pet itself if its texts have no other ends
of lines than line feeds (`Pet.lined_eq_self_iff`), and whatever else they hold. An empty text is an
element that closes itself, and a value that is absent is no element at all, so that the two stay
apart.

Pets are values of their type, and the only ones (`Pet.holds_iff`).
-/

namespace RestClient

open DraftStep Xml

/-- The fields of a record. -/
def Shape.fields : Shape → List (Field Shape)
  | .record _ _ fields => fields
  | _ => []

/-- A pet: it may have a number and a status. -/
structure Pet where
  id? : Option UInt64
  name : String
  status? : Option String
  deriving DecidableEq, Repr

namespace Pet

/-- The fields of a pet that are there. -/
def members (p : Pet) : List (String × Datum) :=
  (p.id?.toList.map fun n => ("id", .present (.int .u64 n.toNat))) ++
    ("name", .text p.name) ::
    p.status?.toList.map fun s => ("status", .present (.text s))

/-- A pet as a typed value. -/
def toDatum (p : Pet) : Datum := .record "Pet" p.members

/-- The texts of the fields of a pet that are there. -/
def children (p : Pet) : List (String × List Char) :=
  (p.id?.toList.map fun n => ("id", Json.intText n.toNat)) ++
    ("name", p.name.toList) ::
    p.status?.toList.map fun s => ("status", s.toList)

/-- A text whose ends of lines are equal. -/
def linedText (s : String) : String := String.ofList (withLineEnds s.toList)

/-- A pet with texts whose ends of lines are equal. -/
def lined (p : Pet) : Pet := ⟨p.id?, linedText p.name, p.status?.map linedText⟩

/-- **The texts of a pet have no ends of lines but line feeds**: no carriage return, no next line
(both are control characters) and no line separator. -/
def IsKept (p : Pet) : Prop :=
  (∀ c ∈ p.name.toList, isKept c = true) ∧ ∀ s ∈ p.status?, ∀ c ∈ s.toList, isKept c = true

/-! ## Pets and their values -/

theorem contains_u64_iff {n : Int} : IntKind.u64.contains n = true ↔ 0 ≤ n ∧ n < 2 ^ 64 := by
  have hpow : Int.pow 2 IntKind.u64.bits = 2 ^ 64 := by decide
  show (decide (0 ≤ n) && decide (n < Int.pow 2 IntKind.u64.bits)) = true ↔ _
  rw [hpow, Bool.and_eq_true, decide_eq_true_eq, decide_eq_true_eq]

theorem contains_u64_toNat (n : UInt64) : IntKind.u64.contains n.toNat = true := by
  have hlt : n.toNat < 2 ^ 64 := n.toNat_lt
  exact contains_u64_iff.mpr ⟨by omega, by omega⟩

theorem exists_toNat_eq {n : Int} (h : IntKind.u64.contains n = true) :
    ∃ m : UInt64, (m.toNat : Int) = n := by
  obtain ⟨hle, hlt⟩ := contains_u64_iff.mp h
  have hsize : n.toNat < UInt64.size := by
    show n.toNat < 2 ^ 64
    omega
  exact ⟨UInt64.ofNat n.toNat, by rw [UInt64.toNat_ofNat_of_lt' hsize, Int.toNat_of_nonneg hle]⟩

/-- **Different pets are different values**, an absent status and an empty one as well. -/
theorem eq_of_toDatum_eq {p q : Pet} (h : p.toDatum = q.toDatum) : p = q := by
  obtain ⟨id?, name, status?⟩ := p
  obtain ⟨id'?, name', status'?⟩ := q
  have hmembers := (Datum.record.inj h).2
  cases id? <;> cases id'? <;> cases status? <;> cases status'? <;>
    simp_all [members, UInt64.toNat_inj]

/-- The values of all fields of a pet, whether they are there or not. -/
def values (p : Pet) : List Datum := [
  p.id?.elim .absent fun n => .present (.int .u64 n.toNat),
  .text p.name,
  p.status?.elim .absent fun s => .present (.text s)]

theorem placeAll_values (p : Pet) : Field.placeAll Sample.pet.fields p.values = p.members := by
  obtain ⟨id?, name, status?⟩ := p
  cases id? <;> cases status? <;> rfl

/-- The values of the fields are those of a pet. -/
theorem forall₂_holds_iff {ds : List Datum} :
    List.Forall₂ (fun f d => f.shape.Holds d) Sample.pet.fields ds ↔ ∃ p : Pet, ds = p.values := by
  constructor
  · rintro (_ | @⟨_, id, _, _, hid, _ | ⟨hname, _ | @⟨_, status, _, _, hstatus, _ | _⟩⟩⟩)
    cases hname with
    | text name =>
      obtain ⟨id?, rfl⟩ : ∃ id? : Option UInt64,
          id = id?.elim Datum.absent fun n => .present (.int .u64 n.toNat) := by
        cases hid with
        | absent => exact ⟨none, rfl⟩
        | present value =>
          cases value with
          | int fits =>
            obtain ⟨n, rfl⟩ := exists_toNat_eq fits
            exact ⟨some n, rfl⟩
      obtain ⟨status?, rfl⟩ : ∃ status? : Option String,
          status = status?.elim Datum.absent fun s => .present (.text s) := by
        cases hstatus with
        | absent => exact ⟨none, rfl⟩
        | present value =>
          cases value with
          | text s => exact ⟨some s, rfl⟩
      exact ⟨⟨id?, name, status?⟩, rfl⟩
  · rintro ⟨⟨id?, name, status?⟩, rfl⟩
    refine .cons ?_ (.cons (.text name) (.cons ?_ .nil))
    · cases id? with
      | none => exact .absent _
      | some n => exact .present (.int (contains_u64_toNat n))
    · cases status? with
      | none => exact .absent _
      | some s => exact .present (.text s)

/-- **The values of the type of pets are the pets**, so what is said of all pets is said of all
values of the type. -/
theorem holds_iff {d : Datum} : Sample.pet.Holds d ↔ ∃ p : Pet, d = p.toDatum := by
  constructor
  · intro h
    cases h with
    | record hvalues =>
      obtain ⟨p, rfl⟩ := forall₂_holds_iff.mp hvalues
      exact ⟨p, congrArg _ p.placeAll_values⟩
  · rintro ⟨p, rfl⟩
    rw [toDatum, ← placeAll_values]
    exact .record (forall₂_holds_iff.mpr ⟨p, rfl⟩)

/-! ## The document of a pet -/

/-- **The children of a pet stand for its fields**: each is named for one and has the line that the
value of the field has. -/
theorem stands (p : Pet) : List.Forall₂ (StandsFor Sample.pet.fields) p.children p.members := by
  have htag : ∀ name ∈ ["id", "name", "status"], IsTagName name.toList := by decide
  have hid : ∀ n : UInt64, StandsFor Sample.pet.fields ("id", Json.intText n.toNat)
      ("id", .present (.int .u64 n.toNat)) := fun n =>
    ⟨rfl, htag _ (by simp), _, rfl, .present (.int (contains_u64_toNat n))⟩
  have hname : ∀ s : String, StandsFor Sample.pet.fields ("name", s.toList) ("name", .text s) :=
    fun s => ⟨rfl, htag _ (by simp), _, rfl, .text s⟩
  have hstatus : ∀ s : String, StandsFor Sample.pet.fields ("status", s.toList)
      ("status", .present (.text s)) :=
    fun s => ⟨rfl, htag _ (by simp), _, rfl, .present (.text s)⟩
  obtain ⟨id?, name, status?⟩ := p
  cases id? <;> cases status? <;> simp [children, members, hid, hname, hstatus]

theorem linedText_eq_self_iff {s : String} :
    linedText s = s ↔ ∀ c ∈ s.toList, isKept c = true := by
  rw [← withLineEnds_eq_self_iff, linedText, ← String.toList_inj, String.toList_ofList]

/-- The texts of the pet that comes back. -/
theorem children_lined (p : Pet) : p.lined.children = p.children.map linedChild := by
  have hid : ∀ n : Int, withLineEnds (Json.intText n) = Json.intText n := fun n =>
    withLineEnds_eq_self_iff.mpr fun c hc => (isPlain_of_mem_intText hc).2.2
  obtain ⟨id?, name, status?⟩ := p
  cases id? <;> cases status? <;> simp [lined, children, linedChild, linedText, hid]

/-- **The pets that come back as they are**: those whose texts have no other ends of lines than line
feeds. -/
theorem lined_eq_self_iff {p : Pet} : p.lined = p ↔ p.IsKept := by
  obtain ⟨id?, name, status?⟩ := p
  cases status? <;> simp [lined, IsKept, linedText_eq_self_iff]

theorem nodup_members (p : Pet) : (p.members.map Prod.fst).Nodup := by
  obtain ⟨id?, name, status?⟩ := p
  cases id? <;> cases status? <;> simp [members]

theorem assemble_members (p : Pet) :
    Field.assemble Sample.pet.fields p.members.reverse = .ok p.members := by
  obtain ⟨id?, name, status?⟩ := p
  cases id? <;> cases status? <;> rfl

/-- **A pet is read back from its document**, up to its ends of lines, which all become line feeds.
Markup and references in its texts are escaped, and blanks around them are kept. -/
theorem readXml_writeXml (p : Pet) : ∃ text, Body.writeXml p.toDatum = .ok text ∧
    ∀ status, Body.readXml Sample.pet text status = .ok p.lined.toDatum := by
  have hstands := p.lined.stands
  rw [children_lined, List.forall₂_map_left_iff] at hstands
  have hroot : IsTagName "Pet".toList := by decide
  have hread := ofXml_record false hroot hstands p.lined.nodup_members "Pet"
  rw [assemble_members] at hread
  have hwrite := document_record p.stands (by simp [children]) "Pet"
  refine ⟨String.ofList (wrapped "Pet" (childrenText p.children)), ?_, fun status => ?_⟩
  · show ((document p.toDatum).map String.ofList).mapError _ = _
    rw [toDatum, hwrite]
    rfl
  · show (Sample.pet.ofXml _).mapError _ = _
    exact congrArg _ hread

end Pet

/-! ## Through a call -/

/-- **A call that sends a pet as a document** and takes a pet back: the method carries a body, the
path has no placeholders and nothing is given to fill them, the pet is the body that is given last,
bodies are written and read as documents, and the arm of the status 200 has a pet. -/
structure Call.SendsPet (c : Call) (p : Pet) (arm : Arm) : Prop where
  start : c.start = Draft.startWith c.start.operation .xml Body.writeXml
  method : c.start.operation.method.hasBody = true
  literal : ∀ s ∈ Template.segments c.start.operation.route.template, Template.IsLiteral s
  params : last? paramsGiven? c.steps = none
  query : last? queryGiven? c.steps = none
  body : last? bodyGiven? c.steps = some p.toDatum
  reader : c.accept.reader = Body.readXml
  declared : c.accept.union.arm? 200 = some arm
  shape : arm.body? = some Sample.pet

theorem Call.SendsPet.result_run {c : Call} {p : Pet} {arm : Arm} (h : c.SendsPet p arm)
    {client : Client} (hbase : client.base.isHierarchical = true) {q : Draft}
    (hsteps : c.start.steps c.steps = .ok q) {transport : List TransportRequest → Transport}
    {received : List TransportRequest} (echoes : (transport received).Echoes) :
    ((c.exchange client).run transport received).result
      = .ok ⟨200, arm.variant, some p.lined.toDatum⟩ := by
  obtain ⟨text, hwrite, hread⟩ := p.readXml_writeXml
  have hurl : ∃ u, q.url client = .ok u := by
    have hleave := hsteps
    rw [Draft.steps_eq, Except.map_eq_ok] at hleave
    obtain ⟨o, -, rfl⟩ := hleave
    refine Draft.url_of_literal ?_ ?_ h.literal hbase
    · show (last? paramsGiven? c.steps).or c.start.params? = none
      rw [h.params, h.start]
      rfl
    · show (last? queryGiven? c.steps).or c.start.query? = none
      rw [h.query, h.start]
      rfl
  obtain ⟨u, hu⟩ := hurl
  have hmime : HeaderMap.value? c.start.contentType.mime = some c.start.contentType.mime := by
    rw [h.start]
    show HeaderMap.value? ContentType.xml.mime = some ContentType.xml.mime
    rfl
  have hwritten : c.start.writer p.toDatum = .ok text := by
    rw [h.start]
    exact hwrite
  obtain ⟨request, -, -, -, hresult⟩ :=
    Call.run_exchange_of_written h.method hmime h.body hwritten hsteps hu echoes
  rw [hresult]
  exact Acceptance.verdict_of_read h.declared h.shape (by rw [h.reader, hread])

/-- Steps that set no options never fail. -/
theorem Draft.exists_steps_eq_ok (r : Draft) {chain : List DraftStep}
    (h : chain.filter isOption = []) : ∃ q, r.steps chain = .ok q := by
  rw [steps_eq, ← Options.follow_filter, h]
  exact ⟨_, rfl⟩

/-- **A pet that is sent as a document comes back.** If its texts have no ends of lines but line
feeds, it is written and read back as itself, and no other pet is the same typed value. A call that
sends it to a transport that echoes comes to the arm of the status 200 with this very pet, once its
steps succeed; and steps that set no options always do. -/
theorem Pet.run_exchange_of_document_echo {p : Pet} (hp : p.IsKept) :
    (∃ text, Body.writeXml p.toDatum = .ok text ∧
      (∀ status, Body.readXml Sample.pet text status = .ok p.toDatum) ∧
      ∀ q : Pet, q.toDatum = p.toDatum → q = p) ∧
    ∀ (c : Call) (arm : Arm), c.SendsPet p arm →
      (c.steps.filter isOption = [] → ∃ q, c.start.steps c.steps = .ok q) ∧
      ∀ client transport received, client.base.isHierarchical = true →
        (transport received).Echoes → (∃ q, c.start.steps c.steps = .ok q) →
        ((c.exchange client).run transport received).result
          = .ok ⟨200, arm.variant, some p.toDatum⟩ := by
  have hlined := Pet.lined_eq_self_iff.mpr hp
  constructor
  · obtain ⟨text, hwrite, hread⟩ := p.readXml_writeXml
    rw [hlined] at hread
    exact ⟨text, hwrite, hread, fun q => eq_of_toDatum_eq⟩
  · refine fun c arm h => ⟨c.start.exists_steps_eq_ok, ?_⟩
    rintro client transport received hbase echoes ⟨q, hsteps⟩
    have hresult := h.result_run hbase hsteps echoes
    rwa [hlined] at hresult

/-! ## A pet that is hard to write -/

/-- A pet whose name looks like markup and like a reference, without a number, and with a status
that is an empty text. -/
def Pet.awkward : Pet := ⟨none, "</name> \"&amp;\" & <id>\n1", some ""⟩

/-- The operation that replaces a pet. -/
def replacing : Operation where
  route := Sample.petCollection
  method := .put
  statuses := [200, 400, 404, 422]
  bodies := [(.xml, Sample.pet)]
  responses := [(.xml, Sample.updatePet)]

/-- A pet put to the store as a document. -/
def Pet.putting (p : Pet) : Call where
  start := Draft.startWith replacing .xml Body.writeXml
  steps := [.body p.toDatum]
  sendOptions := {}
  accept := ⟨.xml, Sample.updatePet, Body.readXml⟩

/-- It is put to the store and comes back. -/
theorem Pet.run_exchange_of_document_echo_awkward :
    awkward.IsKept ∧ awkward.putting.SendsPet awkward ⟨200, "Ok", some Sample.pet⟩ ∧
    (parrot []).Echoes ∧
    ((awkward.putting.exchange Client.gateway).run parrot []).result
      = .ok ⟨200, "Ok", some awkward.toDatum⟩ := by
  have kept : awkward.IsKept := by
    refine ⟨List.all_eq_true.mp rfl, fun s hs => ?_⟩
    obtain rfl := Option.some.inj hs
    exact List.all_eq_true.mp rfl
  have sends : awkward.putting.SendsPet awkward ⟨200, "Ok", some Sample.pet⟩ := by
    refine ⟨rfl, rfl, fun s hs => ?_, rfl, rfl, rfl, rfl, rfl, rfl⟩
    obtain rfl := List.mem_singleton.mp hs
    exact ⟨_, rfl, rfl⟩
  obtain ⟨-, hcalls⟩ := run_exchange_of_document_echo kept
  obtain ⟨hbuilt, hresult⟩ := hcalls _ _ sends
  exact ⟨kept, sends, echoes_parrot [], hresult _ _ _ rfl (echoes_parrot []) (hbuilt rfl)⟩

end RestClient
