import Mathlib.Data.List.Nodup
import RestClient.Proofs.Coverage

/-!
# What a union makes of a response

A union is declared as a list of arms, and three things are read off it: the statuses that it lists,
the response that it makes of a status and a text, and the status of each of its variants. They have
to fit together arm by arm, which takes that no status and no variant has two arms
(`Union.IsDeclared`). Then the arm of a status is the one that was declared for it
(`arm?_eq_some_iff`), and a response has the status of its variant (`statusOf?_of_decode`).

A reader is asked at most once, under the shape of the arm, about the text and the status. What it
would say of anything else has no part in the outcome (`decode_congr`), so it is not asked at all if
the status has no arm or the arm has no body.
-/

namespace RestClient

/-- Among items with different keys, the one with a key is the one that is found. -/
theorem find?_key_eq_some_iff {α κ : Type} [DecidableEq κ] {key : α → κ} {items : List α}
    (h : (items.map key).Nodup) {k : κ} {a : α} :
    items.find? (fun b => key b = k) = some a ↔ a ∈ items ∧ key a = k := by
  constructor
  · intro hfind
    exact ⟨List.mem_of_find?_eq_some hfind, by simpa using List.find?_some hfind⟩
  · rintro ⟨ha, rfl⟩
    have hsome : (items.find? fun b => key b = key a).isSome = true :=
      List.find?_isSome.mpr ⟨a, ha, decide_eq_true rfl⟩
    obtain ⟨b, hb⟩ := Option.isSome_iff_exists.mp hsome
    have hkey : key b = key a := by simpa using List.find?_some hb
    rw [hb, List.inj_on_of_nodup_map h (List.mem_of_find?_eq_some hb) ha hkey]

namespace Union

/-- **A union that can be declared**: no status and no variant has two arms, so a status has one
variant at most and a variant one status. -/
structure IsDeclared (u : Union) : Prop where
  statuses : u.statuses.Nodup
  variants : (u.map Arm.variant).Nodup

/-- Whether a union can be declared can be decided. -/
instance (u : Union) : Decidable u.IsDeclared :=
  decidable_of_iff (u.statuses.Nodup ∧ (u.map Arm.variant).Nodup)
    ⟨fun ⟨statuses, variants⟩ => ⟨statuses, variants⟩, fun h => ⟨h.statuses, h.variants⟩⟩

/-- The unions of the sample schema can be declared. -/
example : ∀ u ∈ Sample.unions, Union.IsDeclared u.2 := by decide

/-- The status of a variant. -/
def statusOf? (u : Union) (variant : String) : Option Nat :=
  (u.find? fun a => a.variant = variant).map Arm.status

variable {u : Union} {read : BodyReader} {status : Nat} {text : String}

/-! ## Arms -/

/-- **The arm of a status is the one declared for it**, wherever it stands among the others: with
distinct statuses the first is the only one. -/
theorem arm?_eq_some_iff (h : u.statuses.Nodup) {arm : Arm} :
    u.arm? status = some arm ↔ arm ∈ u ∧ arm.status = status :=
  find?_key_eq_some_iff h

theorem statusOf?_variant (h : (u.map Arm.variant).Nodup) {arm : Arm} (harm : arm ∈ u) :
    u.statusOf? arm.variant = some arm.status := by
  unfold statusOf?
  rw [(find?_key_eq_some_iff h).mpr ⟨harm, rfl⟩, Option.map_some]

theorem decodeArm_of_statusOnly {arm : Arm} (h : arm.body? = none) :
    decodeArm arm read status text = .ok ⟨arm.status, arm.variant, none⟩ := by
  unfold decodeArm
  rw [h]

theorem decodeArm_of_body {arm : Arm} {shape : Shape} (h : arm.body? = some shape) :
    decodeArm arm read status text
      = (read shape text status).map fun d => ⟨arm.status, arm.variant, some d⟩ := by
  unfold decodeArm
  rw [h]

/-- A response of an arm has the status and the variant of the arm. -/
theorem parts_of_decodeArm {arm : Arm} {r : Response}
    (h : decodeArm arm read status text = .ok r) :
    r.status = arm.status ∧ r.variant = arm.variant := by
  cases hbody : arm.body? with
  | none =>
    rw [decodeArm_of_statusOnly hbody] at h
    cases h
    exact ⟨rfl, rfl⟩
  | some shape =>
    rw [decodeArm_of_body hbody] at h
    obtain ⟨d, -, rfl⟩ := Except.map_eq_ok.mp h
    exact ⟨rfl, rfl⟩

/-! ## Unions -/

theorem decode_of_not_mem (h : status ∉ u.statuses) :
    u.decode read status text = .error (.undeclaredStatus status text) := by
  unfold decode
  rw [arm?_eq_none_iff.mpr h]

theorem decode_of_mem (h : u.statuses.Nodup) {arm : Arm} (harm : arm ∈ u) :
    u.decode read arm.status text = decodeArm arm read arm.status text := by
  unfold decode
  rw [(arm?_eq_some_iff h).mpr ⟨harm, rfl⟩]

/-- A response comes from an arm of its status. -/
theorem exists_arm_of_decode {r : Response} (h : u.decode read status text = .ok r) :
    ∃ arm ∈ u, arm.status = status ∧ r.status = arm.status ∧ r.variant = arm.variant := by
  unfold decode at h
  cases harm : u.arm? status with
  | none =>
    rw [harm] at h
    cases h
  | some arm =>
    rw [harm] at h
    exact ⟨arm, List.mem_of_find?_eq_some harm, status_of_arm? harm, parts_of_decodeArm h⟩

/-- A response has the status that it came with. -/
theorem status_of_decode {r : Response} (h : u.decode read status text = .ok r) :
    r.status = status := by
  obtain ⟨arm, -, harm, hstatus, -⟩ := exists_arm_of_decode h
  rw [hstatus, harm]

/-- **A response has the status that its variant was declared for**, so the status can be asked of
the variant alone. -/
theorem statusOf?_of_decode (h : (u.map Arm.variant).Nodup) {r : Response}
    (hdecode : u.decode read status text = .ok r) : u.statusOf? r.variant = some status := by
  obtain ⟨arm, harm, rfl, -, hvariant⟩ := exists_arm_of_decode hdecode
  rw [hvariant, statusOf?_variant h harm]

/-- **Only what the reader says of the text under the shape of the arm counts.** In particular no
reader is asked about a status without an arm, or about an arm without a body. -/
theorem decode_congr {other : BodyReader}
    (h : ∀ arm ∈ u, arm.status = status → ∀ shape, arm.body? = some shape →
      read shape text status = other shape text status) :
    u.decode read status text = u.decode other status text := by
  unfold decode
  cases harm : u.arm? status with
  | none => rfl
  | some arm =>
    dsimp only
    cases hbody : arm.body? with
    | none => rw [decodeArm_of_statusOnly hbody, decodeArm_of_statusOnly hbody]
    | some shape =>
      rw [decodeArm_of_body hbody, decodeArm_of_body hbody,
        h arm (List.mem_of_find?_eq_some harm) (status_of_arm? harm) shape hbody]

/-- **Decoding follows the declaration.** A status without an arm is undeclared, and the text is
kept. An arm without a body gives its variant. An arm with one gives its variant with what the
reader makes of the text, or the failure of the reader. No reader is asked about anything else. Each
response has the status that it came with, so different statuses give different variants, and it is
a success for the statuses from 200 to 299. -/
theorem decode_declared (u : Union) (hu : u.IsDeclared) (status : Nat) (text : String) :
    (status ∉ u.statuses → ∀ read,
      u.decode read status text = .error (.undeclaredStatus status text)) ∧
    (∀ arm ∈ u, arm.status = status → arm.body? = none → ∀ read,
      u.decode read status text = .ok ⟨status, arm.variant, none⟩) ∧
    (∀ arm ∈ u, arm.status = status → ∀ shape, arm.body? = some shape → ∀ read,
      (∀ r, u.decode read status text = .ok r ↔
        ∃ d, read shape text status = .ok d ∧ r = ⟨status, arm.variant, some d⟩) ∧
      ∀ e, u.decode read status text = .error e ↔ read shape text status = .error e) ∧
    (∀ read other, (∀ arm ∈ u, arm.status = status → ∀ shape, arm.body? = some shape →
        read shape text status = other shape text status) →
      u.decode read status text = u.decode other status text) ∧
    (∀ read r, u.decode read status text = .ok r →
      r.status = status ∧ u.statusOf? r.variant = some status ∧
        (r.isSuccess = true ↔ 200 ≤ status ∧ status < 300)) ∧
    ∀ read r read' status' text' r', u.decode read status text = .ok r →
      u.decode read' status' text' = .ok r' → status ≠ status' → r.variant ≠ r'.variant := by
  refine ⟨fun h _ => decode_of_not_mem h, ?_, ?_, fun _ _ => decode_congr, ?_, ?_⟩
  · rintro arm harm rfl hbody read
    rw [decode_of_mem hu.statuses harm, decodeArm_of_statusOnly hbody]
  · rintro arm harm rfl shape hbody read
    rw [decode_of_mem hu.statuses harm, decodeArm_of_body hbody]
    refine ⟨fun r => ?_, fun e => Except.map_eq_error⟩
    rw [Except.map_eq_ok]
    exact exists_congr fun d => and_congr_right fun _ => eq_comm
  · intro read r h
    have hstatus := status_of_decode h
    refine ⟨hstatus, statusOf?_of_decode hu.variants h, ?_⟩
    unfold Response.isSuccess
    rw [hstatus, Bool.and_eq_true, decide_eq_true_eq, decide_eq_true_eq]
  · rintro read r read' status' text' r' h h' hne hvariant
    have hstatus := statusOf?_of_decode hu.variants h
    rw [hvariant, statusOf?_of_decode hu.variants h', Option.some.injEq] at hstatus
    exact hne hstatus.symm

/-- A reader that fails, whatever it is asked. -/
def refusing : BodyReader := fun _ _ _ => .error (.xmlSerialize "refused")

/-- The sample union with the lowest and the highest status: it does not ask a reader that refuses
everything about a status that it does not know or one without a body, and passes on what it says of
others. -/
theorem decode_declared_uploaded :
    Sample.uploaded.IsDeclared ∧
    Sample.uploaded.decode refusing 404 "gone" = .error (.undeclaredStatus 404 "gone") ∧
    Sample.uploaded.decode refusing 0 "any" = Sample.uploaded.decode Body.readText 0 "any" ∧
    Sample.uploaded.decode refusing 0 "any" = .ok ⟨0, "Zero", none⟩ ∧
    Sample.uploaded.decode refusing 65535 "full" = .error (.xmlSerialize "refused") ∧
    Sample.uploaded.decode Body.readText 65535 "full" = .ok ⟨65535, "Max", some (.text "full")⟩ ∧
    Sample.uploaded.statusOf? "Max" = some 65535 ∧ "Zero" ≠ "Max" := by
  have hu : Sample.uploaded.IsDeclared := by decide
  have hzero : (⟨0, "Zero", none⟩ : Arm) ∈ Sample.uploaded := by simp [Sample.uploaded]
  have hmax : (⟨65535, "Max", some .text⟩ : Arm) ∈ Sample.uploaded := by simp [Sample.uploaded]
  obtain ⟨hunknown, -⟩ := decode_declared Sample.uploaded hu 404 "gone"
  obtain ⟨-, hempty, -, hasked, -, hdiffer⟩ := decode_declared Sample.uploaded hu 0 "any"
  obtain ⟨-, -, hbody, -, hstatus, -⟩ := decode_declared Sample.uploaded hu 65535 "full"
  have hnone := hempty _ hzero rfl rfl refusing
  have hfull := ((hbody _ hmax rfl _ rfl Body.readText).1 _).mpr ⟨.text "full", rfl, rfl⟩
  refine ⟨hu, hunknown (by decide) refusing, hasked _ _ ?_, hnone, ?_, hfull,
    (hstatus _ _ hfull).2.1, hdiffer _ _ _ _ _ _ hnone hfull (by decide)⟩
  · simp [Sample.uploaded]
  · exact ((hbody _ hmax rfl _ rfl refusing).2 _).mpr rfl

end Union
end RestClient
