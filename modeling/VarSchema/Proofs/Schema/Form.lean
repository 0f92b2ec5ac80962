import VarSchema.Proofs.Schema.Translation
import VarSchema.Schema.WellFormed

/-!
# The form of schemas

* `Schema.isFormed` : whether one keyword has a value of its form; `Schema.isSubschema_iff` : a node is a schema if
  and only if every keyword of it has; `Schema.isSubschema_congr` : so keywords of which this is known may differ;
* `Constraint.hasNoEmptyTuple` : whether every tuple inside has elements; `Constraint.isSubschema_of_toNode` : then
  and only then the schema of a type is one, since a list of schemas by position must not be empty;
* `Node.isSubschema_titled`, `Node.isSubschema_strip_wrap` : the same of a wrapper.
-/

namespace VarSchema

/-! ## Keyword by keyword -/

namespace Schema

/-- Whether a keyword has a value of its form. -/
def isFormed (k : String) (w : Json) : Bool :=
  if k = "additionalProperties" then isSubschema w
  else if k = "items" then isSubschema w || (hasItems w && isList w)
  else if k = "anyOf" then hasItems w && isList w
  else if k = "properties" ∨ k = "definitions" then isMap w
  else hasForm k w

theorem allKeywords_eq_all : ∀ es : Entries Json, allKeywords es = es.all fun e => isFormed e.1 e.2
  | [] => rfl
  | (k, w) :: rest => by
    rw [allKeywords, allKeywords_eq_all rest]
    rfl

theorem allItems_eq_all : ∀ ss : List Json, allItems ss = ss.all isSubschema
  | [] => rfl
  | s :: rest => by rw [allItems, allItems_eq_all rest, List.all_cons]

theorem allFields_eq_all : ∀ es : Entries Json, allFields es = es.all fun e => isSubschema e.2
  | [] => rfl
  | (k, s) :: rest => by
    rw [allFields, allFields_eq_all rest]
    rfl

/-- What the node has at a keyword has the form of that keyword. -/
def FormedAt (n : Node) (k : String) : Prop := ∀ w, n.get? k = some w → isFormed k w = true

theorem formedAt_of_none {n : Node} {k : String} (h : n.get? k = none) : FormedAt n k := by
  intro w hw
  rw [h] at hw
  cases hw

theorem formedAt_set_empty {k : String} {w : Json} (h : isFormed k w = true) (l : String) :
    FormedAt (Node.empty.set k w) l := by
  intro u hu
  rw [Node.get?_set] at hu
  split at hu
  · next hk =>
    cases hu
    rwa [← hk]
  · cases hu

theorem allKeywords_entries_iff (n : Node) : allKeywords n.entries = true ↔ ∀ k, FormedAt n k := by
  rw [allKeywords_eq_all, List.all_eq_true]
  constructor
  · intro h k w hk
    exact h (k, w) (Entries.mem_of_get? hk)
  · rintro h ⟨k, w⟩ hm
    exact h k w ((n.keywords.ordered.get?_eq_some_iff).2 hm)

/-- A node that names no version is a schema if and only if each keyword has its form. -/
theorem isSubschema_iff {n : Node} (h : n.get? "$schema" = none) :
    isSubschema n.toJson = true ↔ ∀ k, FormedAt n k := by
  have hfollows : followsVersion n.entries = true := by
    have hnone : Entries.get? "$schema" n.entries = none := h
    rw [followsVersion, hnone]
    rfl
  have hobject : isSubschema n.toJson = (followsVersion n.entries && allKeywords n.entries) := rfl
  rw [hobject, hfollows, Bool.true_and, allKeywords_entries_iff]

/-- Keywords of which the form is known do not matter. -/
theorem isSubschema_congr {n m : Node} (hn : n.get? "$schema" = none)
    (h : ∀ k, n.get? k = m.get? k ∨ FormedAt n k ∧ FormedAt m k) (hm : m.get? "$schema" = none) :
    isSubschema n.toJson = isSubschema m.toJson := by
  rw [Bool.eq_iff_iff, isSubschema_iff hn, isSubschema_iff hm]
  refine forall_congr' fun k => ?_
  rcases h k with hsame | ⟨hn, hm⟩
  · rw [FormedAt, FormedAt, hsame]
  · exact iff_of_true hn hm

/-- One more keyword adds its form. -/
theorem isSubschema_set {n : Node} (hn : n.get? "$schema" = none) {k : String} (hk : k ≠ "$schema")
    (hnone : n.get? k = none) (w : Json) :
    isSubschema (n.set k w).toJson = (isSubschema n.toJson && isFormed k w) := by
  have hset : (n.set k w).get? "$schema" = none := by rw [Node.get?_set_of_ne hk, hn]
  rw [Bool.eq_iff_iff, Bool.and_eq_true, isSubschema_iff hset, isSubschema_iff hn]
  constructor
  · intro hall
    refine ⟨fun l => ?_, hall k w (Node.get?_set_self ..)⟩
    by_cases hl : k = l
    · exact formedAt_of_none (hl ▸ hnone)
    · intro u hu
      exact hall l u (by rw [Node.get?_set_of_ne hl, hu])
  · rintro ⟨hall, hw⟩ l u hu
    rw [Node.get?_set] at hu
    split at hu
    · next hl =>
      cases hu
      rwa [← hl]
    · exact hall l u hu

/-! ## Forms of values -/

theorem isFormed_bound {k : String} (h : (Side.ofKeyword? k).isSome = true) (i : Nat) :
    isFormed k (.int i) = true := by
  obtain ⟨side, hside⟩ := Option.isSome_iff_exists.1 h
  rcases Side.ofKeyword?_eq_some hside with ⟨-, hk⟩ | ⟨-, hk⟩
  all_goals
    simp only [List.mem_cons, List.not_mem_nil, or_false] at hk
    rcases hk with rfl | rfl | rfl | rfl | rfl <;> simp [isFormed, hasForm, Assertion.limit?, Json.number?, Json.int]

theorem isFormed_text {k : String} (h : k ∈ ["title", "description"]) (s : String) : isFormed k (.str s) = true := by
  simp only [List.mem_cons, List.not_mem_nil, or_false] at h
  rcases h with rfl | rfl <;> rfl

theorem isFormed_items (n : Node) : isFormed "items" n.toJson = isSubschema n.toJson := Bool.or_false _

theorem isFormed_positions (ss : List Json) : isFormed "items" (.arr ss) = (!ss.isEmpty && ss.all isSubschema) := by
  rw [← allItems_eq_all]
  rfl

theorem isFormed_properties (es : Entries Json) :
    isFormed "properties" (.obj es) = es.all fun e => isSubschema e.2 := by
  rw [← allFields_eq_all]
  rfl

theorem isFormed_required {names : List String} (h : names.Nodup) :
    isFormed "required" (.arr (names.map .str)) = true := by
  have htexts : (names.map Json.str).mapM Json.text? = some names := by
    induction names with
    | nil => rfl
    | cons k names ih => rw [List.map_cons, List.mapM_cons, ih (List.nodup_cons.1 h).2]; rfl
  have hform : isFormed "required" (.arr (names.map .str)) = (distinctTexts? (.arr (names.map .str))).isSome := rfl
  rw [hform, distinctTexts?, htexts]
  simp [h]

end Schema

/-! ## Schemas of types -/

namespace Constraint

mutual
/-- Whether every tuple inside has elements. -/
def hasNoEmptyTuple : Constraint → Bool
  | .primitive _ => true
  | .object fields _ => fieldsHaveNoEmptyTuple fields
  | .map t => hasNoEmptyTuple t
  | .list t => hasNoEmptyTuple t
  | .set t => hasNoEmptyTuple t
  | .tuple ts => !ts.isEmpty && itemsHaveNoEmptyTuple ts
termination_by structural t => t

/-- Attribute by attribute. -/
def fieldsHaveNoEmptyTuple : List (String × Constraint) → Bool
  | [] => true
  | (_, t) :: rest => hasNoEmptyTuple t && fieldsHaveNoEmptyTuple rest
termination_by structural ts => ts

/-- Element by element. -/
def itemsHaveNoEmptyTuple : List Constraint → Bool
  | [] => true
  | t :: rest => hasNoEmptyTuple t && itemsHaveNoEmptyTuple rest
termination_by structural ts => ts
end

variable {options : Options}

theorem isSubschema_primitive (k : Primitive) (position : Position) :
    Schema.isSubschema (primitiveNode k position).toJson = true := by
  cases k <;> cases position <;> decide

theorem isSubschema_typed {type : String} (h : type ∈ Schema.knownTypes) :
    Schema.isSubschema (Node.typed type).toJson = true := by
  simp only [Schema.knownTypes, List.mem_cons, List.not_mem_nil, or_false] at h
  rcases h with rfl | rfl | rfl | rfl | rfl | rfl | rfl <;> decide

theorem isSubschema_list (n : Node) :
    Schema.isSubschema ((Node.typed "array").set "items" n.toJson).toJson = Schema.isSubschema n.toJson := by
  rw [Schema.isSubschema_set rfl (by decide) rfl, isSubschema_typed (by decide), Schema.isFormed_items, Bool.true_and]

theorem isSubschema_set (n : Node) :
    Schema.isSubschema (((Node.typed "array").set "uniqueItems" (.bool true)).set "items" n.toJson).toJson =
      Schema.isSubschema n.toJson := by
  have hunique : Schema.isFormed "uniqueItems" (.bool true) = true := rfl
  rw [Schema.isSubschema_set rfl (by decide) rfl, Schema.isSubschema_set rfl (by decide) rfl,
    isSubschema_typed (by decide), hunique, Schema.isFormed_items, Bool.true_and, Bool.true_and]

theorem isSubschema_map (n : Node) :
    Schema.isSubschema ((Node.typed "object").set "additionalProperties" n.toJson).toJson =
      Schema.isSubschema n.toJson := by
  have hadditional : Schema.isFormed "additionalProperties" n.toJson = Schema.isSubschema n.toJson := rfl
  rw [Schema.isSubschema_set rfl (by decide) rfl, isSubschema_typed (by decide), hadditional, Bool.true_and]

theorem isSubschema_tupleNode (ss : List Json) :
    Schema.isSubschema (tupleNode ss).toJson = (!ss.isEmpty && ss.all Schema.isSubschema) := by
  rw [tupleNode, Schema.isSubschema_set rfl (by decide) rfl, Schema.isSubschema_set rfl (by decide) rfl,
    Schema.isSubschema_set rfl (by decide) rfl, isSubschema_typed (by decide), Schema.isFormed_positions,
    Schema.isFormed_bound rfl, Schema.isFormed_bound rfl, Bool.true_and, Bool.and_true, Bool.and_true]

theorem isSubschema_objectNode (optional : NameSet) {properties : Entries Json}
    (h : (Entries.keys properties).Nodup) :
    Schema.isSubschema (objectNode options optional properties).toJson =
      properties.all fun e => Schema.isSubschema e.2 := by
  have hadditional (b : Bool) : Schema.isFormed "additionalProperties" (.bool b) = true := rfl
  have hrequired := Schema.isFormed_required
    (h.filter fun k => options.requireAll || !optional.contains k)
  rw [objectNode, Schema.isSubschema_set rfl (by decide) rfl, Schema.isSubschema_set rfl (by decide) rfl,
    Schema.isSubschema_set rfl (by decide) rfl, isSubschema_typed (by decide), hadditional,
    Schema.isFormed_properties, hrequired, Bool.true_and, Bool.true_and, Bool.and_true]

/-- The keys of ordered attributes are distinct. -/
theorem nodup_keys_of_fieldNodes {fields : List (String × Constraint)} {properties : Entries Json}
    (h : fieldNodes options fields = .ok properties) (hfields : Entries.Ordered fields) :
    (Entries.keys properties).Nodup := by
  rw [keys_of_fieldNodes h]
  exact List.pairwise_map.2 (hfields.imp fun hlt => String.ne_of_lt hlt)

mutual
/-- The schema of a type is one if and only if every tuple inside has elements. -/
theorem isSubschema_of_toNode : ∀ {t : Constraint} {position : Position} {n : Node},
    toNode options position t = .ok n → t.Ordered → Schema.isSubschema n.toJson = t.hasNoEmptyTuple
  | .primitive k, position, _, h, _ => by
    cases h
    exact isSubschema_primitive k position
  | .list t, _, _, h, ht => by
    obtain ⟨m, hm, rfl⟩ := Except.map_eq_ok.1 h
    rw [isSubschema_list, isSubschema_of_toNode (within_eq_ok.1 hm) ht, hasNoEmptyTuple]
  | .set t, _, _, h, ht => by
    obtain ⟨m, hm, rfl⟩ := Except.map_eq_ok.1 h
    rw [isSubschema_set, isSubschema_of_toNode (within_eq_ok.1 hm) ht, hasNoEmptyTuple]
  | .map t, _, _, h, ht => by
    obtain ⟨m, hm, rfl⟩ := Except.map_eq_ok.1 h
    rw [isSubschema_map, isSubschema_of_toNode (within_eq_ok.1 hm) ht, hasNoEmptyTuple]
  | .tuple ts, _, _, h, ht => by
    obtain ⟨ss, hss, rfl⟩ := Except.map_eq_ok.1 h
    have hempty : ss.isEmpty = ts.isEmpty := by
      rw [Bool.eq_iff_iff, List.isEmpty_iff_length_eq_zero, List.isEmpty_iff_length_eq_zero, length_of_itemNodes hss]
    rw [isSubschema_tupleNode, hempty, allItems_of_itemNodes hss ht, hasNoEmptyTuple]
  | .object fields optional, _, _, h, ht => by
    rw [toNode] at h
    split at h
    · cases h
    · obtain ⟨properties, hproperties, rfl⟩ := Except.map_eq_ok.1 h
      rw [isSubschema_objectNode optional (nodup_keys_of_fieldNodes hproperties ht.1),
        allFields_of_fieldNodes hproperties ht.2, hasNoEmptyTuple]
termination_by structural t => t

theorem allFields_of_fieldNodes : ∀ {fields : List (String × Constraint)} {properties : Entries Json},
    fieldNodes options fields = .ok properties → OrderedFields fields →
      (properties.all fun e => Schema.isSubschema e.2) = fieldsHaveNoEmptyTuple fields
  | [], _, h, _ => by
    cases h
    rfl
  | (k, t) :: rest, _, h, ht => by
    obtain ⟨n, others, hn, hothers, rfl⟩ := fieldNodes_cons_eq_ok.1 h
    rw [List.all_cons, isSubschema_of_toNode hn ht.1, allFields_of_fieldNodes hothers ht.2, fieldsHaveNoEmptyTuple]
termination_by structural fields => fields

theorem allItems_of_itemNodes : ∀ {ts : List Constraint} {i : Nat} {ss : List Json},
    itemNodes options i ts = .ok ss → OrderedItems ts → ss.all Schema.isSubschema = itemsHaveNoEmptyTuple ts
  | [], _, _, h, _ => by
    cases h
    rfl
  | t :: rest, _, _, h, ht => by
    obtain ⟨n, others, hn, hothers, rfl⟩ := itemNodes_cons_eq_ok.1 h
    rw [List.all_cons, isSubschema_of_toNode hn ht.1, allItems_of_itemNodes hothers ht.2, itemsHaveNoEmptyTuple]
termination_by structural ts => ts
end

end Constraint

/-! ## Wrappers -/

namespace Node

variable {inner : Node}

theorem isSubschema_titled (hschema : inner.get? "$schema" = none) (htitle : inner.get? "title" = none) :
    Schema.isSubschema inner.titled.toJson = Schema.isSubschema inner.toJson := by
  unfold titled
  split
  · rw [Schema.isSubschema_set hschema (by decide) htitle, Schema.isFormed_text (by decide), Bool.and_true]
  · rfl

/-- Without the inner type, a wrapper is a schema if and only if the inner node is. -/
theorem isSubschema_strip_wrap (h : inner.admitsNull = false) (hschema : inner.get? "$schema" = none)
    (htitle : inner.get? "title" = none) (name : String) :
    Schema.isSubschema (inner.wrap name).strip.toJson = Schema.isSubschema inner.toJson := by
  let branches : Json := .arr [nullBranch, inner.titled.toJson]
  let outer : Node := (empty.set "title" (.str (name ++ ": Select a type"))).set "anyOf" branches
  have hsame (k : String) : (inner.wrap name).strip.get? k = outer.get? k := by
    rw [get?_strip_wrap h, get?_set, get?_set, get?_empty]
    simp only [eq_comm (a := k)]
    rfl
  have hempty : Schema.isSubschema empty.toJson = true := rfl
  have hbranches : Schema.isFormed "anyOf" branches = Schema.isSubschema inner.titled.toJson := by
    have hnull : Schema.isSubschema nullBranch = true := by decide
    have hall : Schema.isFormed "anyOf" branches = Schema.allItems [nullBranch, inner.titled.toJson] := rfl
    rw [hall, Schema.allItems_eq_all, List.all_cons, List.all_cons, List.all_nil, hnull, Bool.true_and, Bool.and_true]
  rw [Schema.isSubschema_congr (hsame "$schema") (fun k => .inl (hsame k)) rfl,
    Schema.isSubschema_set rfl (by decide) rfl, Schema.isSubschema_set rfl (by decide) rfl, hempty,
    Schema.isFormed_text (by decide), hbranches, isSubschema_titled hschema htitle, Bool.true_and, Bool.true_and]

end Node

end VarSchema
