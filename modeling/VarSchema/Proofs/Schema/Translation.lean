import VarSchema.Constraint.Conformity
import VarSchema.Proofs.Except
import VarSchema.Proofs.Schema.Bounds
import VarSchema.Proofs.Schema.Nullable
import VarSchema.Proofs.Schema.Record
import VarSchema.Schema.Translation

/-!
# The schema of a type accepts the values of the type

* `Constraint.Represents` : a node accepts the values that conform to a constraint; one lemma for each kind
  of constraint, from nodes that represent its parts;
* `Constraint.toNode_represents` : a well-formed constraint has a schema, and that represents it;
  `Constraint.wellFormed_of_toNode` : and no other has one;
* `Constraint.IsBase`, `Constraint.isBase_of_toNode` : the keywords of a schema at the top of a variable;
* `Constraint.translate_accepts_iff_conforms` : the same of a variable's schema, which may accept null as well.
-/

namespace VarSchema

theorem Schema.accepts_typed (t : String) (v : Json) :
    accepts (Node.typed t).toJson v = Assertion.hasType t v := by
  have h : (Node.typed t).toJson = .obj [("type", .str t)] := rfl
  simp [h, accepts, acceptsKeywords, Assertion.holds, Assertion.typeNames]

theorem Assertion.allDistinct_eq_pairwiseDistinct : ∀ vs : List Json,
    allDistinct vs = Constraint.pairwiseDistinct vs
  | [] => rfl
  | v :: rest => by
    rw [allDistinct, allDistinct_eq_pairwiseDistinct rest, Constraint.pairwiseDistinct,
      Constraint.pairwiseDistinct, Bool.eq_iff_iff]
    simp

namespace Constraint

/-- The node accepts the values that conform to the constraint. -/
def Represents (options : Options) (n : Node) (t : Constraint) : Prop :=
  ∀ v, Schema.accepts n.toJson v = t.conforms options v

variable {options : Options}

/-! ## Kinds without parts -/

/-- The branches of a nested `any` exhaust the types. -/
theorem accepts_genericNode (v : Json) : Schema.accepts genericNode.toJson v = true := by
  have hbranch (t : String) : Schema.accepts ((Node.typed t).set "title" (.str t)).toJson v =
      Assertion.hasType t v := by
    rw [Schema.accepts_set_of_not_mem (by decide), Schema.accepts_typed]
  have h : genericNode.toJson = .obj [("anyOf", .arr (branchTypes.map fun t =>
      ((Node.typed t).set "title" (.str t)).toJson))] := rfl
  rw [h]
  simp only [branchTypes, List.map_cons, List.map_nil, Schema.accepts, Schema.acceptsKeywords,
    Schema.acceptsAny, Schema.acceptsSome, hbranch]
  cases v <;> rfl

theorem represents_primitive (k : Primitive) (position : Position) :
    Represents options (primitiveNode k position) (.primitive k) := by
  intro v
  rw [conforms]
  cases k with
  | any =>
    cases position with
    | top => rfl
    | nested => exact accepts_genericNode v
  | string | number | bool =>
    unfold primitiveNode
    simp only [Primitive.schemaType?, Schema.accepts_typed]
    cases v <;> rfl

/-! ## Collections -/

variable {n : Node} {t : Constraint}

theorem Represents.list (h : Represents options n t) :
    Represents options ((Node.typed "array").set "items" n.toJson) (.list t) := by
  intro v
  have hnode : ((Node.typed "array").set "items" n.toJson).toJson =
      .obj [("items", n.toJson), ("type", .str "array")] := rfl
  rw [hnode, Schema.accepts_obj, List.all_cons, List.all_cons, List.all_nil, Schema.asserts_items,
    Schema.asserts_type, Bool.and_true, funext h]
  cases v with
  | arr items => simp only [Assertion.itemsOf, Assertion.hasType, beq_self_eq_true, Bool.and_true, conforms]
  | _ => rfl

theorem Represents.set (h : Represents options n t) :
    Represents options (((Node.typed "array").set "uniqueItems" (.bool true)).set "items" n.toJson) (.set t) := by
  intro v
  have hnode : (((Node.typed "array").set "uniqueItems" (.bool true)).set "items" n.toJson).toJson =
      .obj [("items", n.toJson), ("type", .str "array"), ("uniqueItems", .bool true)] := rfl
  have hunique (siblings : Entries Json) : Schema.asserts siblings "uniqueItems" (.bool true) v =
      pairwiseDistinct (Assertion.itemsOf v) := by
    rw [← Assertion.allDistinct_eq_pairwiseDistinct]
    rfl
  rw [hnode, Schema.accepts_obj, List.all_cons, List.all_cons, List.all_cons, List.all_nil, Schema.asserts_items,
    Schema.asserts_type, hunique, Bool.and_true, funext h]
  cases v with
  | arr items =>
    rw [Assertion.itemsOf, conforms, Assertion.hasType, beq_self_eq_true, Bool.true_and, Bool.and_comm]
  | _ => simp [Assertion.hasType, conforms]

theorem Represents.map (h : Represents options n t) :
    Represents options ((Node.typed "object").set "additionalProperties" n.toJson) (.map t) := by
  intro v
  have hnode : ((Node.typed "object").set "additionalProperties" n.toJson).toJson =
      .obj [("additionalProperties", n.toJson), ("type", .str "object")] := rfl
  have hadditional (w : Json) : Schema.asserts [("additionalProperties", w), ("type", .str "object")]
      "additionalProperties" w v = (Assertion.fieldsOf v).all fun e => Schema.accepts w e.2 := by
    simp [Schema.asserts, Schema.additionalFields, Schema.propertyNames, Entries.get?]
  rw [hnode, Schema.accepts_obj, List.all_cons, List.all_cons, List.all_nil, hadditional, Schema.asserts_type,
    Bool.and_true, funext h]
  cases v with
  | obj fields => simp only [Assertion.fieldsOf, Assertion.hasType, beq_self_eq_true, Bool.and_true, conforms]
  | _ => rfl

/-! ## Tuples and objects -/

/-- Elements of another number conform to no tuple. -/
theorem length_eq_of_conformItems : ∀ {ts : List Constraint} {vs : List Json},
    conformItems options ts vs = true → vs.length = ts.length
  | [], [], _ => rfl
  | [], _ :: _, h | _ :: _, [], h => by cases h
  | t :: ts, v :: vs, h => by
    rw [conformItems, Bool.and_eq_true] at h
    rw [List.length_cons, List.length_cons, length_eq_of_conformItems h.2]

theorem represents_tuple {ts : List Constraint} {ss : List Json} (hlen : ss.length = ts.length)
    (h : ∀ vs : List Json, vs.length = ts.length → Schema.acceptsItems ss vs = conformItems options ts vs) :
    Represents options (tupleNode ss) (.tuple ts) := by
  intro v
  have hnode : (tupleNode ss).toJson = .obj [("items", .arr ss), ("maxItems", .int ss.length),
      ("minItems", .int ss.length), ("type", .str "array")] := rfl
  rw [hnode, Schema.accepts_obj, List.all_cons, List.all_cons, List.all_cons, List.all_cons, List.all_nil,
    Schema.asserts_positions, Schema.asserts_type, Bool.and_true]
  cases v with
  | arr vs =>
    have hmin (siblings : Entries Json) : Schema.asserts siblings "minItems" (.int ss.length) (.arr vs) =
        decide ((ss.length : Int) ≤ vs.length) := by
      rw [Schema.asserts_eq_holds (by decide)]
      rfl
    have hmax (siblings : Entries Json) : Schema.asserts siblings "maxItems" (.int ss.length) (.arr vs) =
        decide ((vs.length : Int) ≤ ss.length) := by
      rw [Schema.asserts_eq_holds (by decide)]
      rfl
    rw [hmin, hmax, conforms, Assertion.itemsOf, hlen, Bool.eq_iff_iff]
    simp only [Assertion.hasType, beq_self_eq_true, Bool.and_true, Bool.and_eq_true, decide_eq_true_eq]
    constructor
    · rintro ⟨hitems, hmax, hmin⟩
      rwa [← h vs (by omega)]
    · intro hitems
      have hvs := length_eq_of_conformItems hitems
      exact ⟨by rwa [h vs hvs], by omega, by omega⟩
  | _ => simp [Assertion.hasType, conforms]

/-- The attributes that an object schema requires. -/
def requiredNames (options : Options) (optional : NameSet) (names : List String) : List String :=
  names.filter fun k => options.requireAll || !optional.contains k

theorem isRecord_objectNode (options : Options) (optional : NameSet) (properties : Entries Json) :
    (objectNode options optional properties).IsRecord
      (requiredNames options optional (Entries.keys properties)) properties options.allowAdditionalProperties where
  type := rfl
  required := rfl
  properties := rfl
  additional := rfl
  others := by
    intro k _ hk
    simp only [List.mem_cons, List.not_mem_nil, or_false, not_or] at hk
    obtain ⟨htype, hrequired, hproperties, hadditional⟩ := hk
    rw [objectNode, Node.get?_set_of_ne (Ne.symm hrequired), Node.get?_set_of_ne (Ne.symm hproperties),
      Node.get?_set_of_ne (Ne.symm hadditional), Node.typed, Node.get?_set_of_ne (Ne.symm htype), Node.get?_empty]

theorem keysConform_iff (declared : List String) (optional : NameSet) (keys : List String) :
    keysConform options declared optional keys = true ↔
      (∀ k ∈ requiredNames options optional declared, k ∈ keys) ∧
        (options.allowAdditionalProperties = false → ∀ k ∈ keys, k ∈ declared) := by
  rw [keysConform, Bool.and_eq_true, List.all_eq_true, Bool.or_eq_true, List.all_eq_true]
  simp only [requiredNames, List.mem_filter, and_imp, Bool.or_eq_true, Bool.and_eq_true, Bool.not_eq_true',
    List.contains_iff_mem]
  grind

theorem represents_object {fields : List (String × Constraint)} {properties : Entries Json} (optional : NameSet)
    (hkeys : Entries.keys properties = Entries.keys fields)
    (h : ∀ es, Schema.acceptsFields properties (.obj es) = conformFields options fields es) :
    Represents options (objectNode options optional properties) (.object fields optional) := by
  intro v
  rw [Bool.eq_iff_iff, (isRecord_objectNode options optional properties).accepts_iff, hkeys]
  cases v with
  | obj es =>
    rw [conforms, Bool.and_eq_true, keysConform_iff, ← h es]
    constructor
    · rintro ⟨es', heq, hrequired, hfields, hadditional⟩
      cases heq
      exact ⟨⟨hrequired, hadditional⟩, hfields⟩
    · rintro ⟨⟨hrequired, hadditional⟩, hfields⟩
      exact ⟨es, rfl, hrequired, hfields, hadditional⟩
  | _ => simp [conforms]

/-! ## Every constraint -/

theorem undeclared?_eq_none {names : List String} {optional : NameSet} (h : ∀ k ∈ optional.toList, k ∈ names) :
    undeclared? names optional = none := by
  rw [undeclared?, List.find?_eq_none]
  intro k hk
  simp [h k hk]

mutual
/-- A well-formed constraint has a schema at each position, and that represents it. -/
theorem toNode_represents (options : Options) : ∀ (t : Constraint) (position : Position), t.WellFormed →
    ∃ n, toNode options position t = .ok n ∧ Represents options n t
  | .primitive k, position, _ => ⟨_, rfl, represents_primitive k position⟩
  | .list t, _, ht => by
    obtain ⟨n, hn, h⟩ := toNode_represents options t .nested ht
    exact ⟨_, by rw [toNode, hn]; rfl, h.list⟩
  | .set t, _, ht => by
    obtain ⟨n, hn, h⟩ := toNode_represents options t .nested ht
    exact ⟨_, by rw [toNode, hn]; rfl, h.set⟩
  | .map t, _, ht => by
    obtain ⟨n, hn, h⟩ := toNode_represents options t .nested ht
    exact ⟨_, by rw [toNode, hn]; rfl, h.map⟩
  | .tuple ts, _, ht => by
    obtain ⟨ss, hss, hlen, h⟩ := itemNodes_represent options ts 0 ht
    exact ⟨_, by rw [toNode, hss]; rfl, represents_tuple hlen h⟩
  | .object fields optional, _, ht => by
    rw [WellFormed] at ht
    obtain ⟨properties, hproperties, hkeys, h⟩ := fieldNodes_represent options fields ht.2
    exact ⟨_, by rw [toNode, undeclared?_eq_none ht.1, hproperties]; rfl, represents_object optional hkeys h⟩
termination_by structural t => t

theorem fieldNodes_represent (options : Options) : ∀ fields : List (String × Constraint),
    WellFormedFields fields → ∃ properties, fieldNodes options fields = .ok properties ∧
      Entries.keys properties = Entries.keys fields ∧
      ∀ es, Schema.acceptsFields properties (.obj es) = conformFields options fields es
  | [], _ => ⟨[], rfl, rfl, fun _ => rfl⟩
  | (k, t) :: rest, ht => by
    rw [WellFormedFields] at ht
    obtain ⟨n, hn, h⟩ := toNode_represents options t .nested ht.1
    obtain ⟨properties, hproperties, hkeys, hrest⟩ := fieldNodes_represent options rest ht.2
    refine ⟨(k, n.toJson) :: properties, by rw [fieldNodes, hn, hproperties]; rfl, ?_, fun es => ?_⟩
    · rw [Entries.keys, List.map_cons, ← Entries.keys, hkeys]
      rfl
    · rw [Schema.acceptsFields, conformFields, hrest es, Json.field?]
      cases Entries.get? k es with
      | none => rfl
      | some x => simp only [h x]
termination_by structural fields => fields

theorem itemNodes_represent (options : Options) : ∀ (ts : List Constraint) (i : Nat), WellFormedItems ts →
    ∃ ss, itemNodes options i ts = .ok ss ∧ ss.length = ts.length ∧
      ∀ vs : List Json, vs.length = ts.length → Schema.acceptsItems ss vs = conformItems options ts vs
  | [], _, _ => ⟨[], rfl, rfl, fun vs hvs => by rw [List.eq_nil_of_length_eq_zero hvs]; rfl⟩
  | t :: rest, i, ht => by
    rw [WellFormedItems] at ht
    obtain ⟨n, hn, h⟩ := toNode_represents options t .nested ht.1
    obtain ⟨ss, hss, hlen, hrest⟩ := itemNodes_represent options rest (i + 1) ht.2
    refine ⟨n.toJson :: ss, by rw [itemNodes, hn, hss]; rfl, by rw [List.length_cons, hlen, List.length_cons],
      fun vs hvs => ?_⟩
    cases vs with
    | nil => cases hvs
    | cons v vs =>
      rw [Schema.acceptsItems, conformItems, h v, hrest vs (Nat.succ.inj hvs)]
termination_by structural ts => ts
end

/-! ## Only well-formed constraints -/

theorem within_eq_ok {α : Type} {segment : String} {r : Except TypeError α} {a : α} :
    within segment r = .ok a ↔ r = .ok a := Except.mapError_eq_ok

theorem mem_of_undeclared?_eq_none {names : List String} {optional : NameSet}
    (h : undeclared? names optional = none) : ∀ k ∈ optional.toList, k ∈ names := by
  rw [undeclared?, List.find?_eq_none] at h
  intro k hk
  simpa using h k hk

theorem fieldNodes_cons_eq_ok {k : String} {rest : List (String × Constraint)} {properties : Entries Json} :
    fieldNodes options ((k, t) :: rest) = .ok properties ↔ ∃ n others, toNode options .nested t = .ok n ∧
      fieldNodes options rest = .ok others ∧ (k, n.toJson) :: others = properties := by
  rw [fieldNodes]
  cases h : within (attributeSegment k) (toNode options .nested t) with
  | error e =>
    refine iff_of_false nofun ?_
    rintro ⟨n, others, hn, -⟩
    rw [within_eq_ok.2 hn] at h
    cases h
  | ok n =>
    rw [within_eq_ok] at h
    simp only [Except.map_eq_ok, h, Except.ok.injEq, exists_and_left, exists_eq_left']

theorem itemNodes_cons_eq_ok {i : Nat} {rest : List Constraint} {ss : List Json} :
    itemNodes options i (t :: rest) = .ok ss ↔ ∃ n others, toNode options .nested t = .ok n ∧
      itemNodes options (i + 1) rest = .ok others ∧ n.toJson :: others = ss := by
  rw [itemNodes]
  cases h : within (tupleSegment i) (toNode options .nested t) with
  | error e =>
    refine iff_of_false nofun ?_
    rintro ⟨n, others, hn, -⟩
    rw [within_eq_ok.2 hn] at h
    cases h
  | ok n =>
    rw [within_eq_ok] at h
    simp only [Except.map_eq_ok, h, Except.ok.injEq, exists_and_left, exists_eq_left']

mutual
/-- Only a well-formed constraint has a schema. -/
theorem wellFormed_of_toNode : ∀ {t : Constraint} {position : Position} {n : Node},
    toNode options position t = .ok n → t.WellFormed
  | .primitive _, _, _, _ => trivial
  | .list t, _, _, h | .set t, _, _, h | .map t, _, _, h => by
    obtain ⟨m, hm, -⟩ := Except.map_eq_ok.1 h
    exact wellFormed_of_toNode (t := t) (within_eq_ok.1 hm)
  | .tuple ts, _, _, h => by
    obtain ⟨ss, hss, -⟩ := Except.map_eq_ok.1 h
    exact wellFormed_of_itemNodes hss
  | .object fields optional, _, _, h => by
    rw [toNode] at h
    split at h
    · cases h
    · next hdeclared =>
      obtain ⟨properties, hproperties, -⟩ := Except.map_eq_ok.1 h
      exact ⟨mem_of_undeclared?_eq_none hdeclared, wellFormed_of_fieldNodes hproperties⟩
termination_by structural t => t

theorem wellFormed_of_fieldNodes : ∀ {fields : List (String × Constraint)} {properties : Entries Json},
    fieldNodes options fields = .ok properties → WellFormedFields fields
  | [], _, _ => trivial
  | (k, t) :: rest, _, h => by
    obtain ⟨n, others, hn, hothers, -⟩ := fieldNodes_cons_eq_ok.1 h
    exact ⟨wellFormed_of_toNode hn, wellFormed_of_fieldNodes hothers⟩
termination_by structural fields => fields

theorem wellFormed_of_itemNodes : ∀ {ts : List Constraint} {i : Nat} {ss : List Json},
    itemNodes options i ts = .ok ss → WellFormedItems ts
  | [], _, _, _ => trivial
  | t :: rest, _, _, h => by
    obtain ⟨n, others, hn, hothers, -⟩ := itemNodes_cons_eq_ok.1 h
    exact ⟨wellFormed_of_toNode hn, wellFormed_of_itemNodes hothers⟩
termination_by structural ts => ts
end

/-- A schema represents its constraint. -/
theorem represents_of_toNode {position : Position} (h : toNode options position t = .ok n) :
    Represents options n t := by
  obtain ⟨m, hm, hrepresents⟩ := toNode_represents options t position (wellFormed_of_toNode h)
  rw [h] at hm
  cases hm
  exact hrepresents

/-! ## The schema of a variable -/

/-- The type of a constraint's schema at the top of a variable. -/
def schemaType? : Constraint → Option String
  | .primitive k => k.schemaType?
  | .object _ _ | .map _ => some "object"
  | .list _ | .set _ | .tuple _ => some "array"

/-- The keywords about items and properties that the schema of a type may have. -/
def shapeKeywords : List String :=
  ["items", "uniqueItems", "minItems", "maxItems", "properties", "additionalProperties", "required"]

/-- The keywords of a schema at the top of a variable: its type and keywords about items and properties, of
which those that count hold a length. -/
structure IsBase (n : Node) (type : Option String) : Prop where
  type : n.get? "type" = type.map .str
  counts : ∀ k ∈ ["minItems", "maxItems"], ∀ w, n.get? k = some w → ∃ len : Nat, w = .int len
  known : ∀ k, k ≠ "type" → k ∉ shapeKeywords → n.get? k = none

theorem isBase_empty : IsBase .empty none where
  type := rfl
  counts := by
    intro k _ w hw
    cases hw
  known _ _ _ := rfl

theorem isBase_typed (type : String) : IsBase (.typed type) (some type) where
  type := rfl
  counts := by
    intro k hk w hw
    rw [Node.typed, Node.get?_set_of_ne (by rintro rfl; revert hk; decide), Node.get?_empty] at hw
    cases hw
  known := by
    intro k htype _
    rw [Node.typed, Node.get?_set_of_ne (Ne.symm htype), Node.get?_empty]

theorem IsBase.set_keyword {type : Option String} (h : IsBase n type) {k : String} {w : Json}
    (hk : k ∈ shapeKeywords) (hw : k ∈ ["minItems", "maxItems"] → ∃ len : Nat, w = .int len) :
    IsBase (n.set k w) type where
  type := by
    rw [Node.get?_set_of_ne (by rintro rfl; revert hk; decide), h.type]
  counts := by
    intro l hl u hu
    rw [Node.get?_set] at hu
    split at hu
    · next hkl =>
      cases hu
      exact hw (hkl ▸ hl)
    · exact h.counts l hl u hu
  known := by
    intro l htype hl
    rw [Node.get?_set_of_ne (by rintro rfl; exact hl hk), h.known l htype hl]

theorem IsBase.set_shape {type : Option String} (h : IsBase n type) {k : String} (hk : k ∈ shapeKeywords)
    (hcount : k ∉ ["minItems", "maxItems"]) (w : Json) : IsBase (n.set k w) type :=
  h.set_keyword hk fun hmem => absurd hmem hcount

theorem IsBase.set_length {type : Option String} (h : IsBase n type) {k : String}
    (hk : k ∈ ["minItems", "maxItems"]) (len : Nat) : IsBase (n.set k (.int len)) type := by
  have hshape : k ∈ shapeKeywords := by
    simp only [List.mem_cons, List.not_mem_nil, or_false] at hk
    rcases hk with rfl | rfl <;> decide
  exact h.set_keyword hshape fun _ => ⟨len, rfl⟩

theorem isBase_of_toNode (h : toNode options .top t = .ok n) : IsBase n t.schemaType? := by
  cases t with
  | primitive k =>
    cases h
    cases k with
    | any => exact isBase_empty
    | _ => exact isBase_typed _
  | list t =>
    obtain ⟨m, -, rfl⟩ := Except.map_eq_ok.1 h
    exact (isBase_typed _).set_shape (by decide) (by decide) _
  | set t =>
    obtain ⟨m, -, rfl⟩ := Except.map_eq_ok.1 h
    exact ((isBase_typed _).set_shape (by decide) (by decide) _).set_shape (by decide) (by decide) _
  | map t =>
    obtain ⟨m, -, rfl⟩ := Except.map_eq_ok.1 h
    exact (isBase_typed _).set_shape (by decide) (by decide) _
  | tuple ts =>
    obtain ⟨ss, -, rfl⟩ := Except.map_eq_ok.1 h
    exact (((isBase_typed _).set_shape (by decide) (by decide) _).set_length (by decide) _).set_length
      (by decide) _
  | object fields optional =>
    rw [toNode] at h
    split at h
    · cases h
    · obtain ⟨properties, -, rfl⟩ := Except.map_eq_ok.1 h
      exact (((isBase_typed _).set_shape (by decide) (by decide) _).set_shape (by decide)
        (by decide) _).set_shape (by decide) (by decide) _

theorem length_of_itemNodes {ts : List Constraint} {i : Nat} {ss : List Json} (h : itemNodes options i ts = .ok ss) :
    ss.length = ts.length := by
  obtain ⟨others, hothers, hlen, -⟩ := itemNodes_represent options ts i (wellFormed_of_itemNodes h)
  rw [h] at hothers
  cases hothers
  exact hlen

theorem keys_of_fieldNodes {fields : List (String × Constraint)} {properties : Entries Json}
    (h : fieldNodes options fields = .ok properties) : Entries.keys properties = Entries.keys fields := by
  obtain ⟨others, hothers, hkeys, -⟩ := fieldNodes_represent options fields (wellFormed_of_fieldNodes h)
  rw [h] at hothers
  cases hothers
  exact hkeys

/-- Of the keywords that count, only a tuple has any, and they hold its length. -/
theorem eq_length_of_toNode (h : toNode options .top t = .ok n) {k : String}
    (hk : k ∈ Side.countKeywords) {w : Json} (hw : n.get? k = some w) : ∃ ts, t = .tuple ts ∧ w = .int ts.length := by
  simp only [Side.countKeywords, List.mem_cons, List.not_mem_nil, or_false] at hk
  cases t with
  | primitive p =>
    cases h
    cases p <;> rcases hk with rfl | rfl | rfl | rfl | rfl | rfl <;> cases hw
  | list t | set t | map t =>
    obtain ⟨m, -, rfl⟩ := Except.map_eq_ok.1 h
    rcases hk with rfl | rfl | rfl | rfl | rfl | rfl <;> cases hw
  | tuple ts =>
    obtain ⟨ss, hss, rfl⟩ := Except.map_eq_ok.1 h
    refine ⟨ts, rfl, ?_⟩
    rw [← length_of_itemNodes hss]
    rcases hk with rfl | rfl | rfl | rfl | rfl | rfl <;> cases hw <;> rfl
  | object fields optional =>
    rw [toNode] at h
    split at h
    · cases h
    · obtain ⟨properties, -, rfl⟩ := Except.map_eq_ok.1 h
      rcases hk with rfl | rfl | rfl | rfl | rfl | rfl <;> cases hw

theorem IsBase.typeName? {type : Option String} (h : IsBase n type) : n.typeName? = type := by
  rw [Node.typeName?, h.type]
  cases type <;> rfl

theorem IsBase.isWrapped {type : Option String} (h : IsBase n type) : n.isWrapped = false := by
  rw [Node.isWrapped, h.known "anyOf" (by decide) (by decide)]

/-- A wrapper is put around every schema but that of `any`. -/
theorem admitsNull_of_toNode (h : toNode options .top t = .ok n) : n.admitsNull = t.isAny := by
  have hbase := isBase_of_toNode h
  have hnames (hany : t.schemaType?.isSome = true) : n.names.all Node.annotations.contains = false := by
    rw [List.all_eq_false]
    refine ⟨"type", Entries.mem_keys_iff.2 ?_, by decide⟩
    have htype := hbase.type
    rw [Node.get?, KeyMap.get?] at htype
    rw [htype, Option.isSome_map, hany]
  rw [Node.admitsNull, hbase.isWrapped, hbase.typeName?]
  cases t with
  | primitive k =>
    cases k with
    | any =>
      cases h
      rfl
    | _ => rw [hnames rfl]; rfl
  | _ => rw [hnames rfl]; rfl

theorem translate_eq_ok_iff {name : String} {nullable : Bool} {base : Node} :
    t.translate name nullable options = .ok base ↔
      ∃ n, toNode options .top t = .ok n ∧ (if nullable then n.wrap name else n) = base := by
  cases nullable with
  | false => simp [translate]
  | true => simp only [translate, if_true, Except.map_eq_ok]

theorem translate_eq_error_iff {name : String} {nullable : Bool} {e : TypeError} :
    t.translate name nullable options = .error e ↔ toNode options .top t = .error e := by
  cases nullable with
  | false => rfl
  | true => exact Except.map_eq_error

theorem translate_eq_ok {name : String} {nullable : Bool} {base : Node}
    (h : t.translate name nullable options = .ok base) :
    ∃ n, IsBase n t.schemaType? ∧ n.admitsNull = t.isAny ∧ base = if nullable then n.wrap name else n := by
  cases nullable with
  | false => exact ⟨base, isBase_of_toNode h, admitsNull_of_toNode h, rfl⟩
  | true =>
    obtain ⟨n, hn, rfl⟩ := Except.map_eq_ok.1 h
    exact ⟨n, isBase_of_toNode hn, admitsNull_of_toNode hn, rfl⟩

theorem eq_any_of_isAny (h : t.isAny = true) : t = any := by
  unfold isAny at h
  split at h
  · rfl
  · cases h

/-- Without the inner type, a wrapper accepts null and what the schema of the type accepts. -/
theorem accepts_strip_wrap (h : toNode options .top t = .ok n) (name : String) (v : Json) :
    Schema.accepts (n.wrap name).strip.toJson v = true ↔ v = .null ∨ Schema.accepts n.toJson v = true := by
  cases hadmits : n.admitsNull with
  | false => exact Node.accepts_strip_wrap hadmits name v
  | true =>
    -- the schema of any is not wrapped, and accepts null
    obtain rfl : t = any := eq_any_of_isAny (by rw [← admitsNull_of_toNode h, hadmits])
    cases h
    exact iff_of_true rfl (.inr rfl)

/-- **A variable of a well-formed type has a schema, and that accepts the values that conform to the type, and
null if the variable is nullable.** -/
theorem translate_accepts_iff_conforms (ht : t.WellFormed) (name : String) (nullable : Bool)
    (options : Options) :
    ∃ n, t.translate name nullable options = .ok n ∧
      ∀ v, Schema.accepts (if nullable then n.strip else n).toJson v = true ↔
        (nullable = true ∧ v = .null) ∨ t.conforms options v = true := by
  obtain ⟨n, hn, h⟩ := toNode_represents options t .top ht
  cases nullable with
  | false => exact ⟨n, hn, fun v => by simp [h v]⟩
  | true =>
    refine ⟨n.wrap name, by rw [translate, hn]; rfl, fun v => ?_⟩
    have hadmits := admitsNull_of_toNode hn
    cases hany : t.isAny with
    | false =>
      rw [hany] at hadmits
      simp only [if_true, true_and, Node.accepts_strip_wrap hadmits, h v]
    | true =>
      -- the schema of any accepts null without a wrapper
      rw [hany] at hadmits
      have hstrip : (n.wrap name).strip = n := by
        rw [Node.wrap, if_pos hadmits, Node.strip, if_neg (by rw [(isBase_of_toNode hn).isWrapped]; decide)]
      have hconforms : t.conforms options v = true := by
        rw [eq_any_of_isAny hany]
        rfl
      simp only [if_true, true_and, hstrip, h v, hconforms, or_true]

/-- A nullable object with a set inside and an optional attribute. -/
theorem translate_accepts_iff_conforms_object :
    let t : Constraint := .object [("port", .primitive .number), ("tags", .set (.primitive .any))]
      (NameSet.ofList ["port"])
    t.WellFormed ∧ ∃ n, t.translate "service" true Options.standard = .ok n ∧
      ∀ v, Schema.accepts n.strip.toJson v = true ↔ v = .null ∨ t.conforms Options.standard v = true := by
  intro t
  have ht : t.WellFormed := ⟨by decide, trivial, trivial, trivial⟩
  refine ⟨ht, ?_⟩
  obtain ⟨n, hn, h⟩ := translate_accepts_iff_conforms ht "service" true Options.standard
  simp only [if_true, true_and] at h
  exact ⟨n, hn, h⟩

end Constraint

end VarSchema
