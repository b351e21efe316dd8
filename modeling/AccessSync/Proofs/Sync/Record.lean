import AccessSync.Proofs.Json.Line
import AccessSync.Proofs.Text.Segment
import AccessSync.Sync.Record

/-!
# Records read back

The line of a record is read as an object that says what the record is and has the fields of the
record, no name twice. The record is read back from it, whatever texts it holds; only the lists in a
profile are told as one text each.

* `Record.plain`: the record with its lists as texts.
* `Record.decode`: the record in the structure of a line.
* `Record.tells_tree`: what a line tells.
-/

namespace AccessSync

open Json (Decoder Fields Mismatch Shape Tree)

/-! ## What is told of a profile -/

namespace Profile

/-- The text that is told of each attribute: one text as it is, a list as its items with commas
between them. -/
def texts (p : Profile) : List (String × String) :=
  p.attributes.map fun
    | (name, .one s) => (name, s)
    | (name, .many items) => (name, ",".intercalate items)

theorem texts_eq (p : Profile) :
    p.texts = p.attributes.map fun (name, value) => (name, value.text) := by
  apply List.map_congr_left
  rintro ⟨name, value⟩ -
  cases value with
  | one s => rfl
  | many items => exact congrArg (name, ·) (Text.joinWith_eq_intercalate "," items).symm

/-- Attributes of one text each. -/
def singles (texts : List (String × String)) : List (String × Attribute) :=
  texts.map fun (name, s) => (name, .one s)

/-- The profile with each list as the text that is told of it. -/
def plain (p : Profile) : Profile where
  attributes := singles p.texts
  ascending := by
    unfold singles
    rw [texts_eq, List.pairwise_map, List.pairwise_map]
    exact p.ascending

/-- The attributes of an object, each of them a text, set one after the other. -/
def decodeAttributes (done : Profile) : Fields → Except Mismatch Profile
  | [] => .ok done
  | (none, _) :: _ => .error .halfSurrogate
  | (some name, t) :: rest =>
    match Decoder.text t with
    | .error e => .error e
    | .ok value => decodeAttributes (done.setText name value) rest

/-- The profile that an object tells. -/
def decode : Decoder Profile
  | .object fields => decodeAttributes .empty fields
  | t => .error (.type t "a map")

/-- An attribute that comes after all others is set at the end. -/
theorem setAttribute_of_forall_lt {name : String} (value : Attribute)
    {attributes : List (String × Attribute)} (h : ∀ a ∈ attributes, a.1 < name) :
    setAttribute name value attributes = attributes ++ [(name, value)] := by
  induction attributes with
  | nil => rfl
  | cons first rest ih =>
    have hfirst : first.1 < name := h first List.mem_cons_self
    have hnot : ¬name < first.1 := fun hlt => String.lt_irrefl _ (String.lt_trans hfirst hlt)
    have hne : name ≠ first.1 := fun heq => hnot (heq ▸ hfirst)
    rw [setAttribute, if_neg hnot, if_neg hne, ih fun a ha => h a (List.mem_cons_of_mem _ ha)]
    rfl

/-- Attributes in ascending order are set at the end, one after the other. -/
theorem exists_of_decodeAttributes (done : Profile) {texts : List (String × String)}
    (h : (done.attributes ++ singles texts).Pairwise fun a b => a.1 < b.1) :
    ∃ p, decodeAttributes done (texts.map fun (name, s) => (some name, .text (some s))) = .ok p ∧
      p.attributes = done.attributes ++ singles texts := by
  induction texts generalizing done with
  | nil => exact ⟨done, rfl, (List.append_nil _).symm⟩
  | cons a rest ih =>
    have hbefore : ∀ b ∈ done.attributes, b.1 < a.1 := fun b hb =>
      (List.pairwise_append.1 h).2.2 b hb _ List.mem_cons_self
    have hset : (done.setText a.1 a.2).attributes = done.attributes ++ [(a.1, .one a.2)] :=
      setAttribute_of_forall_lt _ hbefore
    have hsingles : done.attributes ++ singles (a :: rest) =
        (done.setText a.1 a.2).attributes ++ singles rest := by
      rw [hset, ← List.append_cons]
      rfl
    rw [hsingles] at h ⊢
    exact ih (done.setText a.1 a.2) h

/-- **A profile is read back** from what is told of it. -/
theorem decode_json (p : Profile) : decode p.json.tree = .ok p.plain := by
  have htold : p.json.tree =
      .object (p.texts.map fun (name, s) => (some name, .text (some s))) := by
    rw [json, Json.tree, Json.treeFields_eq_map, List.map_map, texts_eq, List.map_map]
    rfl
  obtain ⟨read, hread, hattributes⟩ := exists_of_decodeAttributes .empty p.plain.ascending
  have hplain : read = p.plain := Profile.ext hattributes
  rw [htold, decode, hread, hplain]

theorem wordless_json (p : Profile) : p.json.wordless := by
  have htexts : ∀ attributes : List (String × Attribute),
      Json.wordlessFields (attributes.map fun (name, value) => (name, .text value.text)) := by
    intro attributes
    induction attributes with
    | nil => rfl
    | cons a rest ih => exact ih
  exact htexts p.attributes

/-- Nothing is told of a profile without attributes. -/
theorem plain_of_isEmpty {p : Profile} (h : p.isEmpty) : p.plain = .empty := by
  have hnone : p.texts = [] := by
    rw [texts_eq, List.isEmpty_iff.1 h]
    rfl
  apply Profile.ext
  show singles p.texts = []
  rw [hnone]
  rfl

/-- A profile has no attribute twice. -/
theorem distinct_json (p : Profile) : p.json.tree.Distinct := by
  apply Json.distinct_object
  · rw [List.map_map]
    refine List.Pairwise.map _ ?_ p.ascending
    intro a b hlt heq
    have hname : a.1 = b.1 := heq
    rw [hname] at hlt
    exact String.lt_irrefl _ hlt
  · intro f hf
    obtain ⟨a, -, rfl⟩ := List.mem_map.1 hf
    exact Json.distinct_text a.2.text

end Profile

/-! ## Readers of the other things -/

/-- A kind, by its name. -/
def Kind.decode : Decoder Kind := Decoder.name (Kind.all.map fun k => (k.name, k))

def EntitlementKind.decode : Decoder EntitlementKind :=
  Decoder.name [("assignment", .assignment), ("permission", .permission)]

def ResourceId.decode : Decoder ResourceId :=
  (((Shape.required "resource_type" Kind.decode).both (.required "resource" .text)).map
    fun (kind, key) => ⟨kind, key⟩).decode

/-- A resource; its parent and its profile may be absent. -/
def Resource.shape : Shape Resource :=
  ((Shape.required "id" ResourceId.decode).both ((Shape.required "display_name" .text).both
    ((Shape.optional "parent_id" (fun t => (ResourceId.decode t).map some) none).both
      (.optional "profile" Profile.decode .empty)))).map
    fun (id, displayName, parent, profile) => { id, displayName, parent, profile }

def Entitlement.shape : Shape Entitlement :=
  ((Shape.required "id" .text).both ((Shape.required "resource" ResourceId.decode).both
    ((Shape.required "slug" .text).both ((Shape.required "kind" EntitlementKind.decode).both
      ((Shape.required "display_name" .text).both ((Shape.required "description" .text).both
        (.required "grantable_to" (.list Kind.decode)))))))).map
    fun (id, resource, slug, kind, displayName, description, grantableTo) =>
      { id, resource, slug, kind, displayName, description, grantableTo }

def Grant.shape : Shape Grant :=
  ((Shape.required "id" .text).both ((Shape.required "entitlement_id" .text).both
    ((Shape.required "resource" ResourceId.decode).both ((Shape.required "slug" .text).both
      (.required "principal" ResourceId.decode))))).map
    fun (id, entitlementId, resource, slug, principal) =>
      { id, entitlementId, resource, slug, principal }

theorem Kind.decode_name (k : Kind) : Kind.decode (.text (some k.name)) = .ok k := by
  cases k <;> rfl

theorem EntitlementKind.decode_name (k : EntitlementKind) :
    EntitlementKind.decode (.text (some k.name)) = .ok k := by
  cases k <;> rfl

namespace ResourceId

theorem decode_json (id : ResourceId) : decode id.json.tree = .ok id := by
  obtain ⟨kind, key⟩ := id
  simp [json, decode, Shape.decode, Shape.map, Shape.both, Shape.required, Shape.check,
    Shape.failure?, Json.tree, Json.treeFields, Decoder.text, Fields.find?, Except.map,
    List.lookup_cons, Kind.decode_name]

theorem wordless_json (id : ResourceId) : id.json.wordless := rfl

theorem distinct_json (id : ResourceId) : id.json.tree.Distinct := by
  apply Json.distinct_object
  · show ["resource_type", "resource"].Nodup
    decide
  · simp [Json.distinct_text]

end ResourceId

/-- The resource with the profile that is told of it. -/
def Resource.plain (r : Resource) : Resource := { r with profile := r.profile.plain }

namespace Sync.Record

/-! ## Records -/

/-- The record with the profile that is told of it. -/
def plain : Record → Record
  | .resource r => .resource r.plain
  | .entitlement e => .entitlement e
  | .grant g => .grant g

/-- The record that an object tells: what it is decides about its other fields. -/
def decode : Decoder Record := fun t =>
  match (Shape.required "record" Decoder.text).decode t with
  | .error e => .error e
  | .ok "resource" => (Resource.shape.decode t).map .resource
  | .ok "entitlement" => (Entitlement.shape.decode t).map .entitlement
  | .ok "grant" => (Grant.shape.decode t).map .grant
  | .ok other => .error (.unknownName other ["resource", "entitlement", "grant"])

theorem decode_resource (r : Resource) :
    decode (json (.resource r)).tree = .ok (.resource r.plain) := by
  obtain ⟨id, displayName, parent, profile⟩ := r
  -- a parent and a profile stand in the object only when there is any
  cases parent <;> by_cases hp : profile.isEmpty <;>
    simp [hp, Profile.plain_of_isEmpty, json, fields, Resource.fields, Resource.plain, decode,
      Resource.shape, Shape.decode, Shape.map, Shape.both, Shape.required, Shape.optional,
      Shape.check, Shape.failure?, Json.tree, Json.treeFields, Decoder.text, Fields.find?,
      Except.map, List.lookup_cons, ResourceId.decode_json, Profile.decode_json]

theorem decode_entitlement (e : Entitlement) :
    decode (json (.entitlement e)).tree = .ok (.entitlement e) := by
  obtain ⟨id, resource, slug, kind, displayName, description, grantableTo⟩ := e
  have hkinds : Decoder.list Kind.decode
      (.array (Json.treeItems (grantableTo.map fun k => .text k.name))) = .ok grantableTo := by
    rw [Json.treeItems_map]
    exact Json.decodeAll_map _ _ Kind.decode_name _
  simp [hkinds, json, fields, Entitlement.fields, decode, Entitlement.shape, Shape.decode,
    Shape.map, Shape.both, Shape.required, Shape.check, Shape.failure?, Json.tree, Json.treeFields,
    Decoder.text, Fields.find?, Except.map, List.lookup_cons, ResourceId.decode_json,
    EntitlementKind.decode_name]

theorem decode_grant (g : Grant) : decode (json (.grant g)).tree = .ok (.grant g) := by
  obtain ⟨id, entitlementId, resource, slug, principal⟩ := g
  simp [json, fields, Grant.fields, decode, Grant.shape, Shape.decode, Shape.map, Shape.both,
    Shape.required, Shape.check, Shape.failure?, Json.tree, Json.treeFields, Decoder.text,
    Fields.find?, Except.map, List.lookup_cons, ResourceId.decode_json]

theorem json_eq (r : Record) : r.json = .object (("record", .text r.fields.1) :: r.fields.2) := rfl

/-- **A record is read back** from its structure. -/
theorem decode_json (r : Record) : decode r.json.tree = .ok r.plain := by
  cases r with
  | resource r => exact decode_resource r
  | entitlement e => exact decode_entitlement e
  | grant g => exact decode_grant g

/-- What the fields of a record are called; a parent and a profile are there only when there is any.
-/
def names : Record → List String
  | .resource r => ["id", "display_name"] ++ (if r.parent.isSome then ["parent_id"] else []) ++
    if r.profile.isEmpty then [] else ["profile"]
  | .entitlement _ =>
    ["id", "resource", "slug", "kind", "display_name", "description", "grantable_to"]
  | .grant _ => ["id", "entitlement_id", "resource", "slug", "principal"]

theorem names_fields (r : Record) : r.fields.2.map (·.1) = r.names := by
  cases r with
  | entitlement e => rfl
  | grant g => rfl
  | resource r =>
    obtain ⟨id, displayName, parent, profile⟩ := r
    cases parent <;> by_cases hp : profile.isEmpty <;>
      simp [hp, fields, names, Resource.fields]

theorem nodup_names (r : Record) : ("record" :: r.names).Nodup := by
  cases r with
  | resource r =>
    obtain ⟨id, displayName, parent, profile⟩ := r
    cases parent <;> by_cases hp : profile.isEmpty <;> simp [hp, names]
  | entitlement e => simp [names]
  | grant g => simp [names]

/-- A record is made of texts. -/
theorem wordless_json (r : Record) : r.json.wordless := by
  cases r with
  | grant g => rfl
  | entitlement e =>
    have hkinds := Json.wordlessItems_map (fun k : Kind => .text k.name) (fun _ => rfl) e.grantableTo
    simp [json, fields, Entitlement.fields, Json.wordless, Json.wordlessFields, hkinds,
      ResourceId.wordless_json]
  | resource r =>
    obtain ⟨id, displayName, parent, profile⟩ := r
    cases parent <;> by_cases hp : profile.isEmpty <;>
      simp [hp, json, fields, Resource.fields, Json.wordless, Json.wordlessFields,
        ResourceId.wordless_json, Profile.wordless_json]

/-- No field of a record has a name twice in it. -/
theorem distinct_fields (r : Record) : ∀ f ∈ r.fields.2, f.2.tree.Distinct := by
  cases r with
  | grant g =>
    simp [fields, Grant.fields, Json.distinct_text, ResourceId.distinct_json]
  | entitlement e =>
    have hkinds := Json.distinct_array_map (fun k : Kind => Json.distinct_text k.name) e.grantableTo
    simp [fields, Entitlement.fields, Json.distinct_text, ResourceId.distinct_json, hkinds]
  | resource r =>
    obtain ⟨id, displayName, parent, profile⟩ := r
    cases parent <;> by_cases hp : profile.isEmpty <;>
      simp [hp, fields, Resource.fields, Json.distinct_text, ResourceId.distinct_json,
        Profile.distinct_json]

/-- What the structure of a line tells: an object that says what the record is and has the fields of
the record and no others, no name twice at any level, from which the record is read back. -/
structure Tells (t : Tree) (r : Record) : Prop where
  object : ∃ fields, t = .object fields ∧ fields.map (·.1) = ("record" :: r.names).map some
  distinct : t.Distinct
  decoded : decode t = .ok r.plain

/-- **The structure of a record** tells the record. -/
theorem tells_tree (r : Record) : Tells r.json.tree r where
  object := by
    refine ⟨_, by rw [json_eq, Json.tree], ?_⟩
    rw [Json.names_treeFields, List.map_cons, names_fields]
  distinct := by
    rw [json_eq]
    apply Json.distinct_object
    · rw [List.map_cons, names_fields]
      exact r.nodup_names
    · intro f hf
      rcases List.mem_cons.1 hf with rfl | hf
      · exact Json.distinct_text _
      · exact r.distinct_fields f hf
  decoded := r.decode_json

/-! ## Lines -/

/-- **A line tells its record.** -/
theorem read_line (r : Record) : ∃ t, Json.read r.line = some t ∧ Tells t r :=
  ⟨_, Json.read_compact r.wordless_json, r.tells_tree⟩

theorem line_ne_empty (r : Record) : r.line ≠ "" := Json.compact_object_ne_empty _

theorem newline_not_mem_line (r : Record) : '\n' ∉ r.line.toList :=
  Json.newline_not_mem_compact r.wordless_json

end Sync.Record

end AccessSync
