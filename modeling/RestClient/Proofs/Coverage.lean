import RestClient.Proofs.Session

/-!
# Which statuses are undeclared

An operation declares its statuses once, and under every content type the union of responses lists
them again, in an order of its own. `sameStatuses` looks whether the two lists hold the same
statuses (`sameStatuses_eq_true_iff`), and a union calls a status undeclared if it has no arm for
it. So whether a status is undeclared is a matter of the operation and not of the content type: all
unions that pass the check agree about it, and with the list of the operation
(`undeclared_iff_of_sameStatuses`).

This speaks of readers that leave statuses to the union. A reader may fail as it likes, so it could
say that a status is undeclared which has an arm. The readers of the formats do not
(`Body.neverUndeclared_of_mem`), nor do those made of a function that does not.
-/

namespace RestClient

/-! ## The check -/

/-- **The check compares sets**: order and repetitions do not count, although it is made by going
through the two lists. -/
theorem sameStatuses_eq_true_iff {declared listed : List Nat} :
    sameStatuses declared listed = true ↔ ∀ s, s ∈ declared ↔ s ∈ listed := by
  unfold sameStatuses
  rw [Bool.and_eq_true, List.all_eq_true, List.all_eq_true]
  constructor
  · rintro ⟨hlisted, hdeclared⟩ s
    exact ⟨fun h => List.contains_iff_mem.mp (hlisted s h),
      fun h => List.contains_iff_mem.mp (hdeclared s h)⟩
  · intro h
    exact ⟨fun s hs => List.contains_iff_mem.mpr ((h s).mp hs),
      fun s hs => List.contains_iff_mem.mpr ((h s).mpr hs)⟩

/-- All unions of the sample schema list the statuses of their operations. -/
example : ∀ op ∈ Sample.operations, ∀ r ∈ op.responses,
    sameStatuses op.statuses r.2.statuses = true := by decide

/-! ## Readers -/

/-- **A reader that leaves statuses alone**: none of its failures is that a status is undeclared. -/
def BodyReader.NeverUndeclared (read : BodyReader) : Prop :=
  ∀ shape text status s body, read shape text status ≠ .error (.undeclaredStatus s body)

namespace Body

/-- A reader whose failures are all of one kind leaves statuses alone if this kind does. -/
theorem neverUndeclared_mapError {ε : Type} {parse : Shape → String → Except ε Datum}
    {cause : ε → ValidationError} (h : ∀ e s body, cause e ≠ .undeclaredStatus s body) :
    BodyReader.NeverUndeclared fun shape text _ => (parse shape text).mapError cause := by
  intro shape text status s body hread
  obtain ⟨e, -, he⟩ := Except.mapError_eq_error.mp hread
  exact h e s body he

/-- The readers of all formats leave statuses alone. -/
theorem neverUndeclared_of_mem {read : BodyReader}
    (h : read ∈ [readJson, readText, readXml, readYaml]) : read.NeverUndeclared := by
  simp only [List.mem_cons, List.not_mem_nil, or_false] at h
  rcases h with rfl | rfl | rfl | rfl
  all_goals exact neverUndeclared_mapError fun _ _ _ => nofun

/-- So does a reader made of a function that does. -/
theorem neverUndeclared_readThrough {f : String → Nat → Except ValidationError Json}
    (h : ∀ text status s body, f text status ≠ .error (.undeclaredStatus s body)) :
    (readThrough f).NeverUndeclared := by
  intro shape text status s body hread
  rcases Except.bind_eq_error.mp hread with hf | ⟨j, -, hj⟩
  · exact h text status s body hf
  · obtain ⟨e, -, he⟩ := Except.mapError_eq_error.mp hj
    cases he

end Body

/-! ## Unions -/

namespace Union

variable {u : Union} {read : BodyReader} {status : Nat}

theorem arm?_eq_none_iff : u.arm? status = none ↔ status ∉ u.statuses := by
  unfold arm? statuses
  simp [List.find?_eq_none]

theorem status_of_arm? {arm : Arm} (h : u.arm? status = some arm) : arm.status = status := by
  simpa using List.find?_some h

/-- What an arm makes of a text is not that the status is undeclared. -/
theorem decodeArm_ne_undeclared (h : read.NeverUndeclared) (arm : Arm) (text : String) (s : Nat)
    (body : String) : decodeArm arm read status text ≠ .error (.undeclaredStatus s body) := by
  unfold decodeArm
  split
  · exact nofun
  · next shape _ =>
    intro hdecode
    cases hread : read shape text status with
    | error e =>
      rw [hread] at hdecode
      cases hdecode
      exact h shape text status s body hread
    | ok d =>
      rw [hread] at hdecode
      cases hdecode

/-- **A union calls a status undeclared just when it does not list it.** The reader has to leave
statuses alone, for its failures are passed on, and one that says the same of a body could not be
told apart. -/
theorem undeclared_iff (h : read.NeverUndeclared) (text : String) :
    (∃ s body, u.decode read status text = .error (.undeclaredStatus s body)) ↔
      status ∉ u.statuses := by
  rw [← arm?_eq_none_iff]
  unfold decode
  cases harm : u.arm? status with
  | none => exact ⟨fun _ => rfl, fun _ => ⟨status, text, rfl⟩⟩
  | some arm =>
    constructor
    · rintro ⟨s, body, hdecode⟩
      exact (decodeArm_ne_undeclared h arm text s body hdecode).elim
    · exact nofun

end Union

/-- The verdict on a text that arrived is the one of the union. -/
theorem Acceptance.verdict_undeclared_iff {a : Acceptance} (h : a.reader.NeverUndeclared)
    (status : Nat) (text : String) :
    (∃ s body, a.verdict (.response status (.ok text))
        = .error (.validation (.undeclaredStatus s body))) ↔ status ∉ a.union.statuses := by
  rw [← Union.undeclared_iff h text]
  refine exists_congr fun s => exists_congr fun body => ?_
  show (a.union.decode a.reader status text).mapError ApiError.validation = _ ↔ _
  rw [Except.mapError_eq_error]
  constructor
  · rintro ⟨e, hdecode, he⟩
    rw [hdecode, ApiError.validation.inj he]
  · exact fun hdecode => ⟨_, hdecode, rfl⟩

/-! ## Operations -/

/-- **The statuses that an operation declares are the ones that its unions know**, under every
content type and for every call that gets a response. If a union lists the statuses of the
operation, in whatever order and however often, then a status is undeclared to it just when it is
undeclared to the operation; so two such unions agree about every status, whatever the texts, and so
does every call whose request could be prepared and whose response came with a text. The readers
have to leave statuses alone. -/
theorem undeclared_iff_of_sameStatuses :
    (∀ (op : Operation) (u : Union) (read : BodyReader),
      sameStatuses op.statuses u.statuses = true → read.NeverUndeclared → ∀ status text,
      (∃ s body, u.decode read status text = .error (.undeclaredStatus s body)) ↔
        status ∉ op.statuses) ∧
    (∀ (op : Operation) (u v : Union) (readU readV : BodyReader),
      sameStatuses op.statuses u.statuses = true → sameStatuses op.statuses v.statuses = true →
      readU.NeverUndeclared → readV.NeverUndeclared → ∀ status textU textV,
      (∃ s body, u.decode readU status textU = .error (.undeclaredStatus s body)) ↔
        ∃ s body, v.decode readV status textV = .error (.undeclaredStatus s body)) ∧
    (∀ declared listed, sameStatuses declared listed = true ↔ ∀ s, s ∈ declared ↔ s ∈ listed) ∧
    ∀ (r : Draft) (client : Client) (sendOptions : Options) (a : Acceptance)
      (transport : List TransportRequest → Transport) received request status text,
      sameStatuses r.operation.statuses a.union.statuses = true → a.reader.NeverUndeclared →
      r.prepare client sendOptions = .ok request →
      (transport received).answer request = .response status (.ok text) →
      ((∃ s body, ((r.exchange client sendOptions a).run transport received).result
        = .error (.validation (.undeclaredStatus s body))) ↔ status ∉ r.operation.statuses) := by
  refine ⟨?_, ?_, fun _ _ => sameStatuses_eq_true_iff, ?_⟩
  · intro op u read hcheck hread status text
    rw [Union.undeclared_iff hread, sameStatuses_eq_true_iff.mp hcheck]
  · intro op u v readU readV hu hv hreadU hreadV status textU textV
    rw [Union.undeclared_iff hreadU, Union.undeclared_iff hreadV,
      ← sameStatuses_eq_true_iff.mp hu, ← sameStatuses_eq_true_iff.mp hv]
  · intro r client sendOptions a transport received request status text hcheck hread hrequest
      hanswer
    -- The one request of the exchange was answered, so its result is the verdict on the answer.
    rw [Draft.run_exchange_of_ok hrequest, hanswer, sameStatuses_eq_true_iff.mp hcheck]
    exact Acceptance.verdict_undeclared_iff hread status text

/-! ## Orders -/

/-- The operation that places an order. Its unions list the statuses in another order than it. -/
def ordering : Operation where
  route := Sample.storeOrder
  method := .post
  statuses := [422, 200, 400]
  responses := [(.json, Sample.placeOrder), (.plainText, Sample.placeOrderText)]

/-- A transport that answers everything with one status. -/
def answering (status : Nat) (text : String) : Transport where
  answer _ := .response status (.ok text)

/-- What is not found is undeclared in JSON and as a text, and in a call as well; what cannot be
processed is declared, and is so even though it comes without a body. -/
theorem undeclared_iff_of_sameStatuses_ordering :
    ((∃ s body, Sample.placeOrder.decode Body.readJson 404 "no"
        = .error (.undeclaredStatus s body)) ↔
      ∃ s body, Sample.placeOrderText.decode Body.readText 404 ""
        = .error (.undeclaredStatus s body)) ∧
    (¬ ∃ s body, Sample.placeOrder.decode Body.readJson 422 ""
      = .error (.undeclaredStatus s body)) ∧
    ∃ s body, (((Draft.start ordering).exchange Client.gateway {}
        ⟨.json, Sample.placeOrder, Body.readJson⟩).run (fun _ => answering 404 "no") []).result
      = .error (.validation (.undeclaredStatus s body)) := by
  have hjson : BodyReader.NeverUndeclared Body.readJson :=
    Body.neverUndeclared_of_mem (by simp)
  have htext : BodyReader.NeverUndeclared Body.readText :=
    Body.neverUndeclared_of_mem (by simp)
  have hplaced : sameStatuses ordering.statuses Sample.placeOrder.statuses = true := by decide
  have hplacedText : sameStatuses ordering.statuses Sample.placeOrderText.statuses = true := by
    decide
  obtain ⟨hunion, hunions, -, hcall⟩ := undeclared_iff_of_sameStatuses
  obtain ⟨request, hrequest⟩ :
      ∃ request, (Draft.start ordering).prepare Client.gateway {} = .ok request := ⟨_, rfl⟩
  refine ⟨hunions ordering _ _ _ _ hplaced hplacedText hjson htext 404 "no" "", ?_, ?_⟩
  · rw [hunion ordering _ _ hplaced hjson 422 ""]
    decide
  · rw [hcall _ _ _ _ _ _ request 404 "no" hplaced hjson hrequest rfl]
    decide

end RestClient
