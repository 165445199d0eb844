import RestClient.Error

/-!
# Options of a request

Options are layers: those of the client, those of a call, and those given when it is sent. A layer
over another replaces whole headers, the timeout if it has one, and whole passthrough options.
-/

namespace RestClient

/-- Options that only the transport understands: values under names, in order of the names. The
order stands in the structure, so options with the same values under all names are equal. -/
structure Passthrough where
  members : List (String × Json)
  /-- The names are in order, and none stands twice. -/
  ordered : (members.map Prod.fst).Pairwise (· < ·)
  deriving Repr

namespace Passthrough

instance : Coe Passthrough (List (String × Json)) := ⟨members⟩

/-- No options. -/
def empty : Passthrough := ⟨[], .nil⟩

instance : EmptyCollection Passthrough := ⟨empty⟩

instance : Inhabited Passthrough := ⟨empty⟩

/-- The value under a name. -/
def get? (p : Passthrough) (name : String) : Option Json := p.members.lookup name

/-- The value under a name, whatever it was before. A value that is an object is replaced as well,
and nothing of it is kept. -/
def set (p : Passthrough) (name : String) (value : Json) : Passthrough :=
  ⟨Json.insert name value p.members, Json.pairwise_insert name value p.ordered⟩

/-- Options over others, name by name. The value of a name that both have is the layer's, and not
made of the two. -/
def merge (target layer : Passthrough) : Passthrough :=
  layer.members.foldl (fun acc m => acc.set m.1 m.2) target

theorem get?_set (p : Passthrough) (name key : String) (value : Json) :
    (p.set name value).get? key = if key = name then some value else p.get? key :=
  Json.lookup_insert name key value p.members

/-- Options are the same if they have the same values under all names. -/
theorem eq_of_get?_eq {p q : Passthrough} (h : ∀ key, p.get? key = q.get? key) : p = q := by
  obtain ⟨ps, hp⟩ := p
  obtain ⟨qs, hq⟩ := q
  congr 1
  exact Json.eq_of_lookup_eq hp hq h

/-- **Options over others decide about their names**, each value as a whole. An object under a name
does not get the members of the object that it replaces. -/
theorem get?_merge (target layer : Passthrough) (key : String) :
    (target.merge layer).get? key = (layer.get? key).or (target.get? key) := by
  obtain ⟨members, ordered⟩ := layer
  show (members.foldl (fun acc m => acc.set m.1 m.2) target).get? key
    = (members.lookup key).or (target.get? key)
  induction members generalizing target with
  | nil => simp
  | cons m rest ih =>
    rw [List.map_cons, List.pairwise_cons] at ordered
    rw [List.foldl_cons, ih _ ordered.2, get?_set, Json.lookup_cons_eq_ite]
    by_cases hkey : key = m.1
    · -- the names that follow are greater, so the value stays
      rw [hkey, Json.lookup_eq_none_of_lt ordered.1, if_pos rfl, if_pos rfl]
      rfl
    · simp [hkey]

end Passthrough

/-- **One layer of options.** A client, a context, a call and a sending have one each, and a request
is prepared from all of them. -/
structure Options where
  headers : HeaderMap := .empty
  /-- In milliseconds. -/
  timeout? : Option Nat := none
  passthrough : Passthrough := .empty
  deriving Repr, Inhabited

namespace Options

/-- **A layer over another.** Headers are replaced name by name, the timeout is the layer's if it
has one, and passthrough options are replaced key by key. Nothing of the lower layer is merged into
a value of the upper one. -/
def merge (target layer : Options) : Options where
  headers := target.headers.merge layer.headers
  timeout? := layer.timeout?.or target.timeout?
  passthrough := target.passthrough.merge layer.passthrough

/-- Sets a header, in place of all the values that its name had. The name is looked at before the
value, and a refused header leaves no options behind. -/
def withHeader (o : Options) (name value : String) : Except ConfigError Options :=
  match HeaderMap.parseHeader name value with
  | .error f => .error (.invalidHeader name f)
  | .ok (n, v) => .ok { o with headers := o.headers.insert n v }

/-- Puts a header map over the headers. A name of the map replaces all the values that the name had,
and keeps all those that the map has under it. -/
def withHeaders (o : Options) (layer : HeaderMap) : Options :=
  { o with headers := o.headers.merge layer }

/-- Sets the timeout. -/
def withTimeout (o : Options) (ms : Nat) : Options := { o with timeout? := some ms }

/-- Sets a passthrough option. -/
def withPassthrough (o : Options) (name : String) (value : Json) : Options :=
  { o with passthrough := o.passthrough.set name value }

end Options

/-- A step in building options. Options that were built elsewhere are a step too, with the steps
that built them. -/
inductive OptionStep where
  | header (name value : String)
  | headers (layer : HeaderMap)
  | timeout (ms : Nat)
  | passthrough (name : String) (value : Json)
  /-- Builds other options and puts them over those built so far. -/
  | merge (steps : List OptionStep)

mutual

/-- One step. For a merge the other options are built from nothing first, so that a failure among
their steps is the failure of the merge. -/
def Options.step (o : Options) : OptionStep → Except ConfigError Options
  | .header name value => o.withHeader name value
  | .headers layer => .ok (o.withHeaders layer)
  | .timeout ms => .ok (o.withTimeout ms)
  | .passthrough name value => .ok (o.withPassthrough name value)
  | .merge steps => (Options.steps {} steps).map o.merge

/-- Steps in order. The first one that fails decides, and nothing of the steps before it is kept. -/
def Options.steps (o : Options) : List OptionStep → Except ConfigError Options
  | [] => .ok o
  | s :: rest => do
    let o ← Options.step o s
    Options.steps o rest

end

/-- **Options built from nothing**, as a context of a client and the options of a call and of a
sending are. -/
def Options.build (steps : List OptionStep) : Except ConfigError Options := Options.steps {} steps

end RestClient
