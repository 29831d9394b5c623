import ImportBoundary.Policy.Schema

/-!
# Keywords of the schema

The schema read as the document that it is (`document`). Along a path of keys and positions one part of
the schema stands for one part of a value (`Governs`), and there each keyword refuses the values that
it is about (`Refuses`). Nothing of this looks at shapes. Main statements: the faults that a shape finds
in a value are the refusals by the schema that the shape is written as, path by path and keyword by
keyword (`tells_faults_iff`), and so it is with a document and the schema of policies
(`tells_policyFaults_iff`).
-/

namespace ImportBoundary.Schema

/-- The keywords by which a schema refuses a value. -/
inductive Keyword
  | type
  | required
  | additionalProperties
  | minLength
  deriving DecidableEq, Repr

/-- The word of a schema for the kind of a value. -/
def typeWord : Json → String
  | .null => "null"
  | .bool _ => "boolean"
  | .int _ | .float _ => "number"
  | .str _ => "string"
  | .arr _ => "array"
  | .obj _ => "object"

/-- A keyword of a schema refuses a value. -/
def Refuses (schema : Json) (keyword : Keyword) (v : Json) : Prop :=
  match keyword with
  | .type => ∃ word, schema.get? "type" = some (.str word) ∧ typeWord v ≠ word
  | .required => ∃ names fields name, schema.get? "required" = some (.arr names) ∧
      v = .obj fields ∧ Json.str name ∈ names ∧ fields.lookup name = none
  | .additionalProperties => ∃ fields f, schema.get? "additionalProperties" = some (.bool false) ∧
      v = .obj fields ∧ f ∈ fields ∧
      ((schema.get? "properties").getD (.obj [])).get? f.1 = none
  | .minLength => ∃ length s, schema.get? "minLength" = some (.int length) ∧ v = .str s ∧
      (s.length : Int) < length

/-- What the schema of policies defines under a name. -/
def definitionOf (name : String) : Option Json :=
  (document.get? "$defs").bind (·.get? name)

/-- `Governs schema v path part x`: where `schema` stands for `v`, the path leads in `v` to `x`, and
`part` stands for it. -/
inductive Governs : Json → Json → List Step → Json → Json → Prop
  | here (schema v : Json) : Governs schema v [] schema v
  | reference {schema target v part x : Json} {path : List Step} {name : String}
    (refers : schema.get? "$ref" = some (.str ("#/$defs/" ++ name)))
    (defined : definitionOf name = some target) (rest : Governs target v path part x) :
    Governs schema v path part x
  | property {schema known inner v y part x : Json} {path : List Step} {name : String}
    (properties : schema.get? "properties" = some known) (named : known.get? name = some inner)
    (has : v.get? name = some y) (rest : Governs inner y path part x) :
    Governs schema v (.field name :: path) part x
  | item {schema inner y part x : Json} {items : List Json} {path : List Step} {n : Nat}
    (all : schema.get? "items" = some inner) (has : items[n]? = some y)
    (rest : Governs inner y path part x) : Governs schema (.arr items) (.index n :: path) part x

/-- Where `schema` stands for `v`, the keyword refuses what the path leads to. -/
def RefusesAt (schema v : Json) (path : List Step) (keyword : Keyword) : Prop :=
  ∃ part x, Governs schema v path part x ∧ Refuses part keyword x

/-- The schema of policies refuses nothing in the value. -/
def Conforms (v : Json) : Prop :=
  ∀ path keyword, ¬ RefusesAt document v path keyword

/-- The value that a path leads to. -/
def valueAt? (v : Json) : List Step → Option Json
  | [] => some v
  | .field name :: path => (v.get? name).bind (valueAt? · path)
  | .index n :: path =>
    match v with
    | .arr items => items[n]?.bind (valueAt? · path)
    | _ => none

theorem Governs.valueAt?_eq {schema v part x : Json} {path : List Step}
    (h : Governs schema v path part x) : valueAt? v path = some x := by
  induction h with
  | here => rfl
  | reference _ _ _ ih => exact ih
  | property _ _ has _ ih => rw [valueAt?, has, Option.bind_some, ih]
  | item _ has _ ih => rw [valueAt?, has, Option.bind_some, ih]

/-! ## One step of a path -/

theorem refusesAt_iff {schema v : Json} {path : List Step} {keyword : Keyword} :
    RefusesAt schema v path keyword ↔
      (path = [] ∧ Refuses schema keyword v) ∨
      (∃ name target, schema.get? "$ref" = some (.str ("#/$defs/" ++ name)) ∧
        definitionOf name = some target ∧ RefusesAt target v path keyword) ∨
      (∃ known name inner y rest, schema.get? "properties" = some known ∧
        known.get? name = some inner ∧ v.get? name = some y ∧ path = .field name :: rest ∧
        RefusesAt inner y rest keyword) ∨
      ∃ inner items n y rest, schema.get? "items" = some inner ∧ v = .arr items ∧
        items[n]? = some y ∧ path = .index n :: rest ∧ RefusesAt inner y rest keyword := by
  constructor
  · rintro ⟨part, x, governs, refuses⟩
    cases governs with
    | here => exact .inl ⟨rfl, refuses⟩
    | reference refers defined rest =>
      exact .inr (.inl ⟨_, _, refers, defined, part, x, rest, refuses⟩)
    | property properties named has rest =>
      exact .inr (.inr (.inl ⟨_, _, _, _, _, properties, named, has, rfl, part, x, rest, refuses⟩))
    | item all has rest =>
      exact .inr (.inr (.inr ⟨_, _, _, _, _, all, rfl, has, rfl, part, x, rest, refuses⟩))
  · rintro (⟨rfl, refuses⟩ | ⟨name, target, refers, defined, part, x, rest, refuses⟩ |
      ⟨known, name, inner, y, path, properties, named, has, rfl, part, x, rest, refuses⟩ |
      ⟨inner, items, n, y, path, all, rfl, has, rfl, part, x, rest, refuses⟩)
    · exact ⟨schema, v, .here schema v, refuses⟩
    · exact ⟨part, x, .reference refers defined rest, refuses⟩
    · exact ⟨part, x, .property properties named has rest, refuses⟩
    · exact ⟨part, x, .item all has rest, refuses⟩

/-! ## Shapes as schemas -/

/-- The schema that a shape is written as. -/
def Shape.toJson (shape : Shape) : Json :=
  .obj shape.toFields

theorem Shape.toJson_text :
    Shape.text.toJson = .obj [("type", .str "string"), ("minLength", .int 1)] :=
  rfl

theorem Shape.toJson_list (item : Shape) :
    (Shape.list item).toJson = .obj [("type", .str "array"), ("items", item.toJson)] :=
  rfl

theorem Shape.toJson_record (required : List String) (known : List (String × Shape)) :
    (Shape.record required known).toJson =
      .obj ([("type", .str "object"), ("additionalProperties", .bool false)] ++
        (if required.isEmpty then [] else [("required", .arr (required.map .str))]) ++
        [("properties", .obj (propertyFields known))]) :=
  rfl

theorem Shape.toJson_named (name : String) (shape : Shape) :
    (Shape.named name shape).toJson = .obj [("$ref", .str ("#/$defs/" ++ name))] :=
  rfl

/-- A name that stands for itself in the text of a path. -/
def IsPlain (name : String) : Prop :=
  name ≠ "" ∧ '.' ∉ name.toList ∧ '[' ∉ name.toList

instance (name : String) : Decidable (IsPlain name) :=
  inferInstanceAs (Decidable (_ ∧ _))

/-- The shape can be read off the schema that it is written as, and a path in it off its text: no field
comes twice, every name is plain, and what is named is defined under its name. -/
inductive IsWritten : Shape → Prop
  | text : IsWritten .text
  | list {item : Shape} (h : IsWritten item) : IsWritten (.list item)
  | record {required : List String} {fields : List (String × Shape)}
    (distinct : (fields.map (·.1)).Nodup) (plain : ∀ f ∈ fields, IsPlain f.1)
    (h : ∀ f ∈ fields, IsWritten f.2) : IsWritten (.record required fields)
  | named {name : String} {shape : Shape} (defined : definitionOf name = some shape.toJson)
    (h : IsWritten shape) : IsWritten (.named name shape)

theorem lookup_propertyFields (fields : List (String × Shape)) (name : String) :
    (propertyFields fields).lookup name = (fields.lookup name).map Shape.toJson := by
  induction fields with
  | nil => rfl
  | cons f fields ih =>
    obtain ⟨known, shape⟩ := f
    rw [propertyFields, List.lookup_cons, List.lookup_cons, ih]
    cases name == known <;> rfl

/-- The keyword by which a difference is a refusal. -/
def Complaint.keyword : Complaint → Keyword
  | .wrongType _ _ => .type
  | .unexpected _ => .additionalProperties
  | .missing _ => .required
  | .emptyText => .minLength

/-- One of the faults is at the path and of the keyword. -/
def Tells (faults : List Fault) (path : List Step) (keyword : Keyword) : Prop :=
  ∃ f ∈ faults, f.path = path ∧ f.complaint.keyword = keyword

theorem get?_obj (fields : List (String × Json)) (name : String) :
    (Json.obj fields).get? name = fields.lookup name :=
  rfl

theorem refuses_text {v : Json} {keyword : Keyword} :
    Refuses Shape.text.toJson keyword v ↔
      (keyword = .type ∧ ∀ s, v ≠ .str s) ∨ (keyword = .minLength ∧ v = .str "") := by
  cases keyword with
  | type => cases v <;> simp [Refuses, Shape.toJson_text, Json.get?, typeWord]
  | minLength =>
    have empty (s : String) : (s.length : Int) < 1 ↔ s = "" := by
      rw [← String.length_eq_zero_iff]
      omega
    cases v <;> simp [Refuses, Shape.toJson_text, Json.get?, List.lookup_cons, empty]
  | _ => simp [Refuses, Shape.toJson_text, Json.get?, List.lookup_cons, List.lookup_nil]

theorem refuses_list {item : Shape} {v : Json} {keyword : Keyword} :
    Refuses (Shape.list item).toJson keyword v ↔ keyword = .type ∧ ∀ items, v ≠ .arr items := by
  cases keyword with
  | type => cases v <;> simp [Refuses, Shape.toJson_list, Json.get?, typeWord]
  | _ => simp [Refuses, Shape.toJson_list, Json.get?, List.lookup_cons, List.lookup_nil]

theorem get?_record_required (required : List String) (known : List (String × Shape)) :
    (Shape.record required known).toJson.get? "required" =
      if required.isEmpty then none else some (.arr (required.map .str)) := by
  cases required <;> simp [Shape.toJson_record, Json.get?, List.lookup_cons]

theorem get?_record_properties (required : List String) (known : List (String × Shape)) :
    (Shape.record required known).toJson.get? "properties" =
      some (.obj (propertyFields known)) := by
  cases required <;> simp [Shape.toJson_record, Json.get?, List.lookup_cons]

/-- A record is written with no other keywords than these. -/
theorem get?_record {required : List String} {known : List (String × Shape)} {name : String}
    (h : name ∉ ["type", "additionalProperties", "required", "properties"]) :
    (Shape.record required known).toJson.get? name = none := by
  simp only [List.mem_cons, List.not_mem_nil, or_false, not_or, ← ne_eq, ← beq_eq_false_iff_ne] at h
  obtain ⟨type, additional, asked, properties⟩ := h
  cases required <;>
    simp [Shape.toJson_record, get?_obj, List.lookup_cons, List.lookup_nil, type,
      additional, asked, properties]

theorem refuses_record {required : List String} {known : List (String × Shape)} {v : Json}
    {keyword : Keyword} :
    Refuses (Shape.record required known).toJson keyword v ↔
      (keyword = .type ∧ ∀ fields, v ≠ .obj fields) ∨
      (keyword = .additionalProperties ∧ ∃ fields, v = .obj fields ∧
        ∃ f ∈ fields, known.lookup f.1 = none) ∨
      (keyword = .required ∧ ∃ fields, v = .obj fields ∧
        ∃ name ∈ required, fields.lookup name = none) := by
  cases keyword with
  | type => cases v <;> simp [Refuses, Shape.toJson_record, Json.get?, typeWord]
  | required =>
    simp only [Refuses, get?_record_required]
    cases required <;> simp
  | additionalProperties =>
    have closed : (Shape.record required known).toJson.get? "additionalProperties" =
        some (.bool false) := by
      simp [Shape.toJson_record, Json.get?, List.lookup_cons]
    simp only [Refuses, closed, get?_record_properties, Option.getD_some, get?_obj,
      lookup_propertyFields, Option.map_eq_none_iff]
    simp
  | minLength => simp [Refuses, get?_record]

theorem refuses_named {name : String} {shape : Shape} {v : Json} {keyword : Keyword} :
    ¬ Refuses (Shape.named name shape).toJson keyword v := by
  cases keyword <;>
    simp [Refuses, Shape.toJson_named, Json.get?, List.lookup_cons, List.lookup_nil]

/-! ## Refusals by the schema of a shape -/

variable {v : Json} {path : List Step} {keyword : Keyword}

theorem refusesAt_text :
    RefusesAt Shape.text.toJson v path keyword ↔
      path = [] ∧ Refuses Shape.text.toJson keyword v := by
  rw [refusesAt_iff]
  simp [Shape.toJson_text, get?_obj, List.lookup_cons, List.lookup_nil]

theorem refusesAt_list {item : Shape} :
    RefusesAt (Shape.list item).toJson v path keyword ↔
      (path = [] ∧ Refuses (Shape.list item).toJson keyword v) ∨
      ∃ items n x rest, v = .arr items ∧ items[n]? = some x ∧ path = .index n :: rest ∧
        RefusesAt item.toJson x rest keyword := by
  rw [refusesAt_iff]
  simp [Shape.toJson_list, get?_obj, List.lookup_cons, List.lookup_nil]

theorem refusesAt_record {required : List String} {known : List (String × Shape)} :
    RefusesAt (Shape.record required known).toJson v path keyword ↔
      (path = [] ∧ Refuses (Shape.record required known).toJson keyword v) ∨
      ∃ name shape x rest, known.lookup name = some shape ∧ v.get? name = some x ∧
        path = .field name :: rest ∧ RefusesAt shape.toJson x rest keyword := by
  rw [refusesAt_iff, get?_record_properties, get?_record (by decide), get?_record (by decide)]
  simp only [reduceCtorEq, false_and, exists_false, false_or, or_false, Option.some.injEq]
  apply or_congr_right
  constructor
  · rintro ⟨-, name, inner, x, rest, rfl, found, has, rfl, refused⟩
    rw [get?_obj, lookup_propertyFields, Option.map_eq_some_iff] at found
    obtain ⟨shape, found, rfl⟩ := found
    exact ⟨name, shape, x, rest, found, has, rfl, refused⟩
  · rintro ⟨name, shape, x, rest, found, has, rfl, refused⟩
    refine ⟨_, name, shape.toJson, x, rest, rfl, ?_, has, rfl, refused⟩
    rw [get?_obj, lookup_propertyFields, found, Option.map_some]

theorem refusesAt_named {name : String} {shape : Shape}
    (defined : definitionOf name = some shape.toJson) :
    RefusesAt (Shape.named name shape).toJson v path keyword ↔
      RefusesAt shape.toJson v path keyword := by
  have reference (key : String) : (Shape.named name shape).toJson.get? key =
      if key = "$ref" then some (.str ("#/$defs/" ++ name)) else none := by
    rw [Shape.toJson_named, get?_obj, List.lookup_cons]
    by_cases same : key = "$ref"
    · simp [same]
    · simp [same, beq_eq_false_iff_ne.mpr same]
  rw [refusesAt_iff]
  simp [reference, refuses_named, defined]

/-! ## Faults of a shape -/

theorem tells_nil : ¬ Tells [] path keyword := by
  simp [Tells]

theorem tells_singleton {f : Fault} :
    Tells [f] path keyword ↔ path = f.path ∧ keyword = f.complaint.keyword := by
  simp [Tells, eq_comm]

theorem tells_append {faults others : List Fault} :
    Tells (faults ++ others) path keyword ↔
      Tells faults path keyword ∨ Tells others path keyword := by
  simp only [Tells, List.mem_append, or_and_right, exists_or]

theorem tells_under {faults : List Fault} {step : Step} :
    Tells (faults.map (Fault.under step)) path keyword ↔
      ∃ rest, path = step :: rest ∧ Tells faults rest keyword := by
  constructor
  · rintro ⟨_, mem, rfl, rfl⟩
    obtain ⟨f, inside, rfl⟩ := List.mem_map.mp mem
    exact ⟨f.path, rfl, f, inside, rfl, rfl⟩
  · rintro ⟨_, rfl, f, mem, rfl, rfl⟩
    exact ⟨f.under step, List.mem_map_of_mem mem, rfl, rfl⟩

theorem tells_itemFaults {check : Json → List Fault} {start : Nat} {items : List Json} :
    Tells (itemFaults check start items) path keyword ↔
      ∃ n x rest, items[n]? = some x ∧ path = .index (start + n) :: rest ∧
        Tells (check x) rest keyword := by
  induction items generalizing start with
  | nil => simp [itemFaults, tells_nil]
  | cons item items ih =>
    rw [itemFaults, tells_append, tells_under, ih]
    constructor
    · rintro (⟨rest, rfl, told⟩ | ⟨n, x, rest, has, rfl, told⟩)
      · exact ⟨0, item, rest, rfl, rfl, told⟩
      · refine ⟨n + 1, x, rest, has, ?_, told⟩
        rw [Nat.add_assoc, Nat.add_comm 1 n]
    · rintro ⟨n, x, rest, has, rfl, told⟩
      cases n with
      | zero =>
        obtain rfl : item = x := Option.some.inj has
        exact .inl ⟨rest, rfl, told⟩
      | succ n =>
        refine .inr ⟨n, x, rest, has, ?_, told⟩
        rw [Nat.add_assoc, Nat.add_comm 1 n]

theorem tells_fieldFaults {known : List (String × Shape)} {fields : List (String × Json)} :
    Tells (fieldFaults known fields) path keyword ↔
      ∃ k ∈ known, ∃ x rest, fields.lookup k.1 = some x ∧ path = .field k.1 :: rest ∧
        Tells (k.2.faults x) rest keyword := by
  induction known with
  | nil => simp [fieldFaults, tells_nil]
  | cons k known ih =>
    obtain ⟨name, shape⟩ := k
    simp only [fieldFaults, tells_append, ih, List.mem_cons, or_and_right, exists_or,
      exists_eq_left]
    apply or_congr_left
    cases fields.lookup name with
    | none => simp [tells_nil]
    | some x => simp [tells_under]

theorem tells_missing {names : List String} :
    Tells (names.map fun name => ⟨[], .missing name⟩) path keyword ↔
      path = [] ∧ keyword = .required ∧ ∃ name, name ∈ names := by
  constructor
  · rintro ⟨_, mem, rfl, rfl⟩
    obtain ⟨name, inside, rfl⟩ := List.mem_map.mp mem
    exact ⟨rfl, rfl, name, inside⟩
  · rintro ⟨rfl, rfl, name, inside⟩
    exact ⟨_, List.mem_map_of_mem inside, rfl, rfl⟩

theorem tells_nameFaults {required known : List String} {fields : List (String × Json)} :
    Tells (nameFaults required known fields) path keyword ↔ path = [] ∧
      ((keyword = .additionalProperties ∧ ∃ f ∈ fields, f.1 ∉ known) ∨
        keyword = .required ∧ ∃ name ∈ required, fields.lookup name = none) := by
  have extra : ((fields.map (·.1)).filter fun name => !known.contains name).isEmpty = false ↔
      ∃ f ∈ fields, f.1 ∉ known := by
    simp
  have lacking : (∃ name, name ∈ required.filter fun name => (fields.lookup name).isNone) ↔
      ∃ name ∈ required, fields.lookup name = none := by
    simp only [List.mem_filter, Option.isNone_iff_eq_none]
  rw [nameFaults, tells_append, tells_missing, lacking, ← extra, and_or_left]
  apply or_congr_left
  cases ((fields.map (·.1)).filter fun name => !known.contains name).isEmpty with
  | true => simp [tells_nil]
  | false => simp [tells_singleton, Complaint.keyword]

theorem tells_text :
    Tells (Shape.text.faults v) path keyword ↔
      path = [] ∧ Refuses Shape.text.toJson keyword v := by
  rw [refuses_text]
  cases v with
  | str s => by_cases empty : s = "" <;>
      simp [Shape.faults, tells_nil, tells_singleton, Complaint.keyword, empty]
  | _ => simp [Shape.faults, tells_singleton, Complaint.keyword]

theorem tells_list {item : Shape} :
    Tells ((Shape.list item).faults v) path keyword ↔
      (path = [] ∧ Refuses (Shape.list item).toJson keyword v) ∨
      ∃ items n x rest, v = .arr items ∧ items[n]? = some x ∧ path = .index n :: rest ∧
        Tells (item.faults x) rest keyword := by
  rw [refuses_list]
  cases v with
  | arr items => simp [Shape.faults, tells_itemFaults]
  | _ => simp [Shape.faults, tells_singleton, Complaint.keyword]

/-- Where no name comes twice, what is there is what is found. -/
theorem lookup_eq_some_iff_mem {known : List (String × Shape)} (distinct : (known.map (·.1)).Nodup)
    {name : String} {shape : Shape} : known.lookup name = some shape ↔ (name, shape) ∈ known := by
  induction known with
  | nil => simp
  | cons k known ih =>
    obtain ⟨first, kind⟩ := k
    obtain ⟨new, others⟩ := List.nodup_cons.mp distinct
    rw [List.lookup_cons, List.mem_cons, Prod.mk.injEq]
    by_cases same : name = first
    · subst same
      have absent : (name, shape) ∉ known := fun inside =>
        new (List.mem_map.mpr ⟨_, inside, rfl⟩)
      simp [absent, eq_comm]
    · rw [beq_eq_false_iff_ne.mpr same, ih others]
      simp [same]

theorem tells_record {required : List String} {known : List (String × Shape)}
    (distinct : (known.map (·.1)).Nodup) :
    Tells ((Shape.record required known).faults v) path keyword ↔
      (path = [] ∧ Refuses (Shape.record required known).toJson keyword v) ∨
      ∃ name shape x rest, known.lookup name = some shape ∧ v.get? name = some x ∧
        path = .field name :: rest ∧ Tells (shape.faults x) rest keyword := by
  rw [refuses_record]
  cases v with
  | obj fields =>
    have unknown (name : String) : name ∉ known.map (·.1) ↔ known.lookup name = none := by
      rw [List.lookup_eq_none_iff, List.mem_map]
      simp only [not_exists, not_and, bne_iff_ne, ne_eq, eq_comm (a := name)]
    have object : ¬ ∀ others, Json.obj fields ≠ .obj others := fun other => other fields rfl
    simp only [Shape.faults, tells_append, tells_nameFaults, tells_fieldFaults, unknown,
      lookup_eq_some_iff_mem distinct, get?_obj, object, and_false, false_or, Json.obj.injEq,
      exists_eq_left', Prod.exists, exists_and_left]
  | _ => simp [Shape.faults, tells_singleton, Complaint.keyword, Json.get?]

/-- The faults of a shape are the refusals by the schema that it is written as. -/
theorem tells_faults_iff {shape : Shape} (written : IsWritten shape) :
    Tells (shape.faults v) path keyword ↔ RefusesAt shape.toJson v path keyword := by
  induction written generalizing v path with
  | text => rw [tells_text, refusesAt_text]
  | list _ ih => simp only [tells_list, refusesAt_list, ih]
  | @record required known distinct _ _ ih =>
    rw [tells_record distinct, refusesAt_record]
    apply or_congr_right
    constructor
    · rintro ⟨name, shape, x, rest, found, has, rfl, told⟩
      have inside := (lookup_eq_some_iff_mem distinct).mp found
      exact ⟨name, shape, x, rest, found, has, rfl, (ih _ inside).mp told⟩
    · rintro ⟨name, shape, x, rest, found, has, rfl, refused⟩
      have inside := (lookup_eq_some_iff_mem distinct).mp found
      exact ⟨name, shape, x, rest, found, has, rfl, (ih _ inside).mpr refused⟩
  | named defined _ ih => rw [Shape.faults, refusesAt_named defined, ih]

/-! ## The schema of policies -/

/-- The names by which a schema says what it refuses, and what stands for the parts of a value. -/
def keys : List String :=
  ["type", "required", "additionalProperties", "minLength", "$ref", "properties", "items"]

theorem refusesAt_congr {schema schema' : Json}
    (same : ∀ key ∈ keys, schema.get? key = schema'.get? key) :
    RefusesAt schema v path keyword ↔ RefusesAt schema' v path keyword := by
  simp only [keys, List.forall_mem_cons, List.not_mem_nil, false_implies, implies_true,
    and_true] at same
  obtain ⟨type, required, additional, minLength, reference, properties, items⟩ := same
  have refuses : Refuses schema keyword v ↔ Refuses schema' keyword v := by
    cases keyword <;> simp only [Refuses, type, required, additional, minLength, properties]
  rw [refusesAt_iff, refusesAt_iff, refuses, reference, properties, items]

/-- The shape of policies can be read off their schema. -/
theorem isWritten_policyShape : IsWritten policyShape := by
  have paths : IsWritten pathList := .named rfl (.list .text)
  have regexes : IsWritten regexList := .named rfl (.list .text)
  have zone : IsWritten zoneShape :=
    .record (by decide) (by simp [IsPlain]) (by simp [IsWritten.text, paths])
  have restricted : IsWritten restrictedShape :=
    .record (by decide) (by simp [IsPlain]) (by simp [IsWritten.text, paths])
  have privateFiles : IsWritten privateFilesShape :=
    .record (by decide) (by simp [IsPlain]) (by simp [regexes])
  have scope : IsWritten scopeShape :=
    .record (by decide) (by simp [IsPlain]) (by simp [IsWritten.text, paths, regexes])
  exact .record (by decide) (by simp [IsPlain])
    (by simp [IsWritten.list zone, IsWritten.list restricted, privateFiles, IsWritten.list scope])

/-- The faults of a document are the refusals by the schema of policies. -/
theorem tells_policyFaults_iff :
    Tells (policyShape.faults v) path keyword ↔ RefusesAt document v path keyword := by
  have same : ∀ key ∈ keys, policyShape.toJson.get? key = document.get? key := by
    simp only [keys, List.forall_mem_cons, List.not_mem_nil, false_implies, implies_true, and_true]
    exact ⟨rfl, rfl, rfl, rfl, rfl, rfl, rfl⟩
  rw [tells_faults_iff isWritten_policyShape, refusesAt_congr same]

end ImportBoundary.Schema
