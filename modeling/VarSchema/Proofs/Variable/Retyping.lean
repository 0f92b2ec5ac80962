import VarSchema.Proofs.Variable.RoundTrip

/-!
# Another type for one variable of a file

* `Retyped` : fields with another value as type; `retyped_setType` : the value can be put in the place of the type, or
  behind the other fields;
* `Variable.ofFields?_of_retyped` : whatever the value is, the variable is read as it was, but for its type;
  `Variable.field?_toJson_retyped` : and its form differs from what it was in that type;
* `VariableFile.items?`, `VariableFile.ofJson?_eq` : the variables of a file as they are written, which are read one by
  one; `VariableFile.ofJson?_of_retyped` : so the other variables are read as they were.
-/

namespace VarSchema

/-! ## Fields -/

/-- The second fields have the value as their only type, and otherwise the values of the first. -/
structure Retyped (fields : Entries Json) (j : Json) (fields' : Entries Json) : Prop where
  type : fieldValues "type" fields' = [j]
  other : ∀ k, k ≠ "type" → fieldValues k fields' = fieldValues k fields

variable {fields fields' : Entries Json} {j : Json} {k : String}

theorem fieldValues_cons (k : String) (e : String × Json) (es : Entries Json) :
    fieldValues k (e :: es) = if e.1 = k then e.2 :: fieldValues k es else fieldValues k es := by
  unfold fieldValues
  by_cases hk : e.1 = k
  · rw [List.filter_cons_of_pos (by simp [hk]), if_pos hk, List.map_cons]
  · rw [List.filter_cons_of_neg (by simp [hk]), if_neg hk]

theorem get?_eq_head?_fieldValues (k : String) (es : Entries Json) : Entries.get? k es = (fieldValues k es).head? := by
  induction es with
  | nil => rfl
  | cons e es ih =>
    rw [Entries.get?_cons, fieldValues_cons]
    split
    · rfl
    · exact ih

/-- Fields with a value as type, in the place of the type or behind the other fields. -/
def setType (j : Json) : Entries Json → Entries Json
  | [] => [("type", j)]
  | (k, w) :: rest => if k = "type" then (k, j) :: rest else (k, w) :: setType j rest

theorem retyped_setType (h : (fieldValues "type" fields).length ≤ 1) (j : Json) :
    Retyped fields j (setType j fields) where
  type := by
    induction fields with
    | nil => rfl
    | cons e fields ih =>
      rw [fieldValues_cons] at h
      rw [setType]
      split
      · next hk =>
        rw [if_pos hk, List.length_cons] at h
        have hnone : fieldValues "type" fields = [] := List.eq_nil_of_length_eq_zero (by omega)
        rw [fieldValues_cons, if_pos hk, hnone]
      · next hk =>
        rw [if_neg hk] at h
        rw [fieldValues_cons, if_neg hk, ih h]
  other k hk := by
    clear h
    induction fields with
    | nil => rw [setType, fieldValues_cons, if_neg (Ne.symm hk)]
    | cons e fields ih =>
      rw [setType]
      split
      · next htype =>
        have hne : e.1 ≠ k := htype ▸ Ne.symm hk
        rw [fieldValues_cons, fieldValues_cons, if_neg hne, if_neg hne]
      · rw [fieldValues_cons, fieldValues_cons, ih]

section Reading

variable {β : Type} {read? : Json → Option β} {absent : β} {es ds : Entries Json}

theorem requiredField_congr (h : fieldValues k es = fieldValues k ds) :
    requiredField k read? es = requiredField k read? ds := by
  rw [requiredField, requiredField, h]

theorem optionalField_congr (h : fieldValues k es = fieldValues k ds) :
    optionalField k read? absent es = optionalField k read? absent ds := by
  rw [optionalField, optionalField, h]

end Reading

/-! ## Variables -/

namespace Variable

variable {v : Variable}

/-- Whatever is given as type, the variable is read as it was, but for its type. -/
theorem ofFields?_of_retyped (h : Retyped fields j fields') (hv : ofFields? fields = some v) :
    ofFields? fields' = some { v with type := DeclaredType.ofJson j.canonical } := by
  have htype : optionalField "type" (fun w => some (DeclaredType.ofJson w.canonical)) (.valid .any) fields' =
      some (DeclaredType.ofJson j.canonical) := optionalField_of_fieldValues (w := some j) h.type
  unfold ofFields? at hv ⊢
  rw [requiredField_congr (h.other "name" (by decide)), htype,
    optionalField_congr (h.other "nullable" (by decide)), optionalField_congr (h.other "default" (by decide)),
    optionalField_congr (h.other "description" (by decide)), optionalField_congr (h.other "conditions" (by decide))]
  simp only [Option.bind_eq_bind, Option.bind_eq_some_iff, Option.pure_def, Option.some.injEq] at hv
  obtain ⟨name, hname, type, -, nullable, hnullable, default, hdefault, description, hdescription, conditions,
    hconditions, rfl⟩ := hv
  rw [hname, hnullable, hdefault, hdescription, hconditions]
  rfl

theorem retyped_toFields (v : Variable) (type : DeclaredType) :
    Retyped v.toFields type.toJson ({ v with type := type } : Variable).toFields where
  type := (fieldValues_toFields { v with type := type }).2.2.2.2.2
  other k hk := by
    unfold toFields
    rw [fieldValues_append, fieldValues_append _ _ (fieldOf "type" (some v.type.toJson)),
      fieldValues_fieldOf_of_ne (Ne.symm hk), fieldValues_fieldOf_of_ne (Ne.symm hk)]

/-- The form of a variable with another type is its form with the form of that type. -/
theorem field?_toJson_retyped (v : Variable) (type : DeclaredType) (k : String) :
    ({ v with type := type } : Variable).toJson.field? k =
      if k = "type" then some type.toJson else v.toJson.field? k := by
  have h := retyped_toFields v type
  rw [toJson_eq, toJson_eq, Json.field?, Json.field?, get?_eq_head?_fieldValues, get?_eq_head?_fieldValues]
  split
  · next hk => rw [hk, h.type, List.head?_cons]
  · next hk => rw [h.other k hk]

end Variable

/-! ## Files -/

/-- The items of an array. -/
def Json.toItems? : Json → Option (List Json)
  | .arr items => some items
  | _ => none

namespace VariableFile

/-- The variables of a file as they are written. -/
def items? : Json → Option (List Json)
  | .obj fields => optionalField "variables" Json.toItems? [] fields
  | .arr [] => some []
  | .arr [v] => v.toItems?
  | _ => none

theorem declarations?_eq (v : Json) : declarations? v = v.toItems?.bind fun items => items.mapM Variable.ofJson? := by
  cases v <;> rfl

/-- The variables of a file are read one by one. -/
theorem ofJson?_eq : ∀ file : Json, ofJson? file =
    ((items? file).bind fun items => items.mapM Variable.ofJson?).map VariableFile.mk
  | .obj fields => by
    rw [ofJson?, items?, optionalField, optionalField]
    rcases fieldValues "variables" fields with _ | ⟨v, _ | ⟨w, rest⟩⟩
    · rfl
    · exact congrArg (Option.map mk) (declarations?_eq v)
    · rfl
  | .arr [] => rfl
  | .arr [v] => congrArg (Option.map mk) (declarations?_eq v)
  | .arr (_ :: _ :: _) => rfl
  | .null | .bool _ | .num _ | .str _ => rfl

theorem mapM_append_cons {α β : Type} {g : α → Option β} {xs ys : List α} {x : α} {l : List β} :
    (xs ++ x :: ys).mapM g = some l ↔
      ∃ us u ws, xs.mapM g = some us ∧ g x = some u ∧ ys.mapM g = some ws ∧ us ++ u :: ws = l := by
  simp [List.mapM_append, List.mapM_cons, Option.bind_eq_some_iff]

theorem length_of_mapM {α β : Type} {g : α → Option β} {xs : List α} {us : List β} (h : xs.mapM g = some us) :
    us.length = xs.length := by
  induction xs generalizing us with
  | nil => cases h; rfl
  | cons x xs ih =>
    simp only [List.mapM_cons, Option.bind_eq_bind, Option.bind_eq_some_iff, Option.pure_def, Option.some.injEq] at h
    obtain ⟨u, -, us, hus, rfl⟩ := h
    rw [List.length_cons, List.length_cons, ih hus]

variable {file file' : Json} {f : VariableFile} {before after : List Json}

/-- A file with another value as type of a variable is read as the file, but for that type. -/
theorem ofJson?_of_retyped (hfile : ofJson? file = some f)
    (hitems : items? file = some (before ++ .obj fields :: after))
    (hitems' : items? file' = some (before ++ .obj fields' :: after)) (h : Retyped fields j fields') :
    ∃ us v ws, us.length = before.length ∧ f.declarations = us ++ v :: ws ∧
      ofJson? file' = some ⟨us ++ { v with type := DeclaredType.ofJson j.canonical } :: ws⟩ := by
  rw [ofJson?_eq, hitems, Option.bind_some] at hfile
  obtain ⟨vs, hvs, rfl⟩ := Option.map_eq_some_iff.1 hfile
  obtain ⟨us, v, ws, hus, hv, hws, rfl⟩ := mapM_append_cons.1 hvs
  have hv' : Variable.ofJson? (.obj fields') = some { v with type := DeclaredType.ofJson j.canonical } :=
    Variable.ofFields?_of_retyped h hv
  refine ⟨us, v, ws, length_of_mapM hus, rfl, ?_⟩
  rw [ofJson?_eq, hitems', Option.bind_some, mapM_append_cons.2 ⟨us, _, ws, hus, hv', hws, rfl⟩]
  rfl

end VariableFile

end VarSchema
