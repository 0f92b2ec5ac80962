import VarSchema.Proofs.Condition.RoundTrip
import VarSchema.Proofs.Constraint.Canonical
import VarSchema.Variable

/-!
# Variable files and their JSON form

* `DeclaredType.ofJson_toJson_ofJson` : the written form of a type that was read, malformed or not, reads as that type;
* `Variable.IsCanonical` : the type, the default and the conditions of a variable read as themselves;
  `Variable.isCanonical_of_ofJson?` : those of every variable that is read do;
* `Variable.ofJson?_toJson` : the written form of such a variable reads as the variable;
* `VariableFile.ofJson?_toJson_round_trip` : files and conditions survive being written and read again.
-/

namespace VarSchema

/-! ## Fields -/

variable {β : Type} {k : String} {read? : Json → Option β} {absent : β} {es : Entries Json} {b : β}

theorem fieldValues_append (k : String) (es ds : Entries Json) :
    fieldValues k (es ++ ds) = fieldValues k es ++ fieldValues k ds := by
  simp [fieldValues]

/-- A field that is read is absent, or there is one value. -/
theorem optionalField_eq_some (h : optionalField k read? absent es = some b) :
    absent = b ∨ ∃ v, read? v = some b := by
  unfold optionalField at h
  split at h
  · exact .inl (Option.some.inj h)
  · next v _ => exact .inr ⟨v, h⟩
  · cases h

theorem requiredField_of_fieldValues {v : Json} (h : fieldValues k es = [v]) :
    requiredField k read? es = read? v := by
  rw [requiredField, h]

theorem optionalField_of_fieldValues {w : Option Json} (h : fieldValues k es = w.toList) :
    optionalField k read? absent es = w.elim (some absent) read? := by
  rw [optionalField, h]
  cases w <;> rfl

/-! ## Types -/

namespace DeclaredType

/-- The form of a type that was read is in order and reads as the type. -/
theorem ofJson_toJson_ofJson {j : Json} (hj : j.Ordered) :
    (ofJson j).toJson.Ordered ∧ ofJson (ofJson j).toJson = ofJson j := by
  cases h : Constraint.ofJson j with
  | ok t =>
    have hself : ofJson j = valid t := by rw [ofJson, h]
    have hread := Constraint.ofJson_toJson (Constraint.wellFormed_and_toJson_of_ofJson h).1
    refine ⟨hself ▸ Constraint.ordered_toJson_of_ofJson hj h, ?_⟩
    rw [hself, toJson, ofJson, hread]
  | error e =>
    have hself : ofJson j = malformed j e := by rw [ofJson, h]
    -- a malformed type keeps the value, so that reading it again finds the same error
    refine ⟨hself ▸ hj, ?_⟩
    rw [hself, toJson, hself]

end DeclaredType

namespace Variable

/-! ## Reading what was written -/

/-- The type reads as itself, and the default and the constants of the conditions are in order. -/
structure IsCanonical (v : Variable) : Prop where
  type : DeclaredType.ofJson v.type.toJson.canonical = v.type
  default : ∀ d, v.default = some d → d.Ordered
  conditions : Condition.OrderedItems v.conditions

theorem fieldValues_fieldOf_self (k : String) (w : Option Json) : fieldValues k (fieldOf k w) = w.toList := by
  cases w <;> simp [fieldValues, fieldOf]

theorem fieldValues_fieldOf_of_ne {k l : String} (h : l ≠ k) (w : Option Json) : fieldValues k (fieldOf l w) = [] := by
  cases w <;> simp [fieldValues, fieldOf, h]

variable {v : Variable}

/-- The fields of the form. -/
def toFields (v : Variable) : Entries Json :=
  fieldOf "conditions" (if v.conditions.isEmpty then none else some (.arr (Condition.toItems v.conditions))) ++
    fieldOf "default" v.default ++ fieldOf "description" (v.description.map .str) ++
    fieldOf "name" (some (.str v.name)) ++ fieldOf "nullable" (v.nullable.map .bool) ++
    fieldOf "type" (some v.type.toJson)

theorem toJson_eq (v : Variable) : v.toJson = .obj v.toFields := rfl

/-- The form has one value of a field if the variable has one, and else none. -/
theorem fieldValues_toFields (v : Variable) :
    fieldValues "conditions" v.toFields =
      (if v.conditions.isEmpty then none else some (Json.arr (Condition.toItems v.conditions))).toList ∧
    fieldValues "default" v.toFields = v.default.toList ∧
    fieldValues "description" v.toFields = (v.description.map Json.str).toList ∧
    fieldValues "name" v.toFields = [.str v.name] ∧
    fieldValues "nullable" v.toFields = (v.nullable.map Json.bool).toList ∧
    fieldValues "type" v.toFields = [v.type.toJson] := by
  simp [toFields, fieldValues_append, fieldValues_fieldOf_self, fieldValues_fieldOf_of_ne]

/-- The form of a variable reads as the variable. -/
theorem ofJson?_toJson (h : v.IsCanonical) : ofJson? v.toJson = some v := by
  obtain ⟨hconditions, hdefault, hdescription, hname, hnullable, htype⟩ := fieldValues_toFields v
  have name_eq : requiredField "name" Json.text? v.toFields = some v.name :=
    requiredField_of_fieldValues hname
  have type_eq : optionalField "type" (fun w => some (DeclaredType.ofJson w.canonical)) (.valid .any) v.toFields =
      some v.type := by
    rw [optionalField_of_fieldValues (w := some v.type.toJson) htype, Option.elim_some, h.type]
  have nullable_eq : optionalField "nullable" (orNull Json.toBool?) none v.toFields = some v.nullable := by
    rw [optionalField_of_fieldValues hnullable]
    cases v.nullable <;> rfl
  have default_eq : optionalField "default" (fun w => some (some w.canonical)) none v.toFields = some v.default := by
    rw [optionalField_of_fieldValues hdefault]
    cases hd : v.default with
    | none => rfl
    | some d => rw [Option.elim_some, Json.canonical_of_ordered (h.default d hd)]
  have description_eq : optionalField "description" (orNull Json.text?) none v.toFields = some v.description := by
    rw [optionalField_of_fieldValues hdescription]
    cases v.description <;> rfl
  have conditions_eq : optionalField "conditions" Condition.ofArray? [] v.toFields = some v.conditions := by
    rw [optionalField_of_fieldValues hconditions]
    split
    · next hempty => rw [List.isEmpty_iff.1 hempty]; rfl
    · exact Condition.readList?_toItems false h.conditions
  rw [toJson_eq, ofJson?, ofFields?, name_eq, type_eq, nullable_eq, default_eq, description_eq, conditions_eq]
  rfl

/-! ## What is read -/

theorem isCanonical_of_ofFields? (h : ofFields? es = some v) : v.IsCanonical := by
  unfold ofFields? at h
  simp only [Option.bind_eq_bind, Option.bind_eq_some_iff, Option.pure_def, Option.some.injEq] at h
  obtain ⟨name, -, type, htype, nullable, -, default, hdefault, description, -, conditions, hconditions, rfl⟩ := h
  constructor
  case type =>
    rcases optionalField_eq_some htype with rfl | ⟨w, hw⟩
    · rfl
    · obtain ⟨hordered, hread⟩ := DeclaredType.ofJson_toJson_ofJson (Json.ordered_canonical w)
      rw [← Option.some.inj hw, Json.canonical_of_ordered hordered, hread]
  case default =>
    rintro d rfl
    rcases optionalField_eq_some hdefault with hnone | ⟨w, hw⟩
    · cases hnone
    · rw [← Option.some.inj (Option.some.inj hw)]
      exact Json.ordered_canonical w
  case conditions =>
    rcases optionalField_eq_some hconditions with rfl | ⟨w, hw⟩
    · exact trivial
    · exact Condition.ordered_of_readArray? hw

theorem isCanonical_of_ofJson? {j : Json} (h : ofJson? j = some v) : v.IsCanonical := by
  cases j with
  | obj es => exact isCanonical_of_ofFields? h
  | arr values =>
    rw [ofJson?] at h
    split at h
    · exact isCanonical_of_ofFields? h
    · cases h
  | _ => cases h

end Variable

/-! ## Files -/

namespace VariableFile

theorem isCanonical_of_declarations? {j : Json} {vs : List Variable} (h : declarations? j = some vs) :
    ∀ v ∈ vs, v.IsCanonical := by
  cases j with
  | arr items =>
    rw [declarations?] at h
    induction items generalizing vs with
    | nil =>
      cases h
      simp
    | cons item items ih =>
      rw [List.mapM_cons] at h
      obtain ⟨v, hv, h⟩ := Option.bind_eq_some_iff.1 h
      obtain ⟨rest, hrest, h⟩ := Option.bind_eq_some_iff.1 h
      cases h
      exact List.forall_mem_cons.2 ⟨Variable.isCanonical_of_ofJson? hv, ih hrest⟩
  | _ => cases h

theorem isCanonical_of_ofJson? {j : Json} {f : VariableFile} (h : ofJson? j = some f) :
    ∀ v ∈ f.declarations, v.IsCanonical := by
  unfold ofJson? at h
  split at h
  · obtain ⟨vs, hvs, rfl⟩ := Option.map_eq_some_iff.1 h
    rcases optionalField_eq_some hvs with rfl | ⟨w, hw⟩
    · simp
    · exact isCanonical_of_declarations? hw
  · cases h
    simp
  · obtain ⟨vs, hvs, rfl⟩ := Option.map_eq_some_iff.1 h
    exact isCanonical_of_declarations? hvs
  · cases h

theorem declarations?_toJson {vs : List Variable} (h : ∀ v ∈ vs, v.IsCanonical) :
    declarations? (.arr (vs.map Variable.toJson)) = some vs := by
  rw [declarations?]
  induction vs with
  | nil => rfl
  | cons v vs ih =>
    obtain ⟨hv, hvs⟩ := List.forall_mem_cons.1 h
    rw [List.map_cons, List.mapM_cons, Variable.ofJson?_toJson hv, ih hvs]
    rfl

/-- The form of a file of canonical variables reads as the file. -/
theorem ofJson?_toJson {f : VariableFile} (h : ∀ v ∈ f.declarations, v.IsCanonical) : ofJson? f.toJson = some f := by
  show (declarations? (.arr (f.declarations.map Variable.toJson))).map mk = some f
  rw [declarations?_toJson h]
  rfl

/-- **Files survive being written and read again: if a value reads as a file, then so does the form of that file. By
itself, a condition is what its form reads as if and only if its constants are values, whose keys are in order.** -/
theorem ofJson?_toJson_round_trip :
    (∀ (j : Json) (f : VariableFile), ofJson? j = some f → ofJson? f.toJson = some f) ∧
    (∀ c : Condition, Condition.ofJson? c.toJson = some c ↔ c.Ordered) := by
  refine ⟨fun j f h => ofJson?_toJson (isCanonical_of_ofJson? h), fun c => ?_⟩
  exact ⟨Condition.ordered_of_read?, Condition.read?_toJson false⟩

/-- A malformed type and a default that is null; a call without arguments and a constant with keys out of order. -/
theorem ofJson?_toJson_round_trip_malformed :
    let j : Json := .obj [("variables", .arr [
      .obj [("type", .arr [.str "capsule"]), ("name", .str "a"), ("default", .null)],
      .arr [.str "b", .null, .bool false, .obj [], .null,
        .arr [.arr [.str "and", .obj [("kind", .str "call"), ("name", .str "f")],
          .arr [.str "literal", .obj [("z", .int 1), ("a", .arr [])]]]]]])]
    let c : Condition := .and (.call "f" []) (.literal (.obj [("a", .arr []), ("z", .int 1)]))
    let f : VariableFile := ⟨[
      ⟨"a", .malformed (.arr [.str "capsule"]) (.unknownKind "capsule"), none, some .null, none, []⟩,
      ⟨"b", .valid .any, some false, some (.obj []), none, [c]⟩]⟩
    ofJson? j = some f ∧ ofJson? f.toJson = some f ∧ c.Ordered ∧ Condition.ofJson? c.toJson = some c := by
  intro j c f
  have hread : ofJson? j = some f := by decide +kernel
  have hkeys : Entries.Ordered [("a", Json.arr []), ("z", .int 1)] := by
    unfold Entries.Ordered
    decide
  have hordered : c.Ordered := ⟨trivial, hkeys, trivial, trivial, trivial⟩
  obtain ⟨hfiles, hconditions⟩ := ofJson?_toJson_round_trip
  exact ⟨hread, hfiles j f hread, hordered, (hconditions c).2 hordered⟩

end VariableFile

end VarSchema
