import Mathlib.Data.Finset.Sort
import Mathlib.Data.String.Basic
import VarSchema.Constraint.Wire
import VarSchema.Proofs.Schema.Translation

/-!
# Types and their JSON form

* `NameSet.ofList_toList`, `NameSet.toList_ofList` : a set of names is the sorted list of its members;
* `Constraint.ofJson_toJson` : the written form of a well-formed type reads as the type;
  `Constraint.ofJson_toJson_of_not_wellFormed` : any other type's form is refused for an undeclared name;
* `Constraint.normalForm` : a form as it would be written, without reading it;
* `Constraint.wellFormed_and_toJson_of_ofJson` : a form that reads as a type is, but for that, the form of the type;
* `Constraint.ofJson_toJson_round_trip` : both directions.
-/

namespace VarSchema

/-! ## Sets of names -/

namespace NameSet

/-- The set of a set's members. -/
theorem ofList_toList (s : NameSet) : ofList s.toList = s :=
  ext ((ofList s.toList).ordered.eq_of_mem_iff s.ordered fun _ => mem_ofList)

theorem toList_ofList (names : List String) : (ofList names).toList = names.toFinset.sort := by
  refine (ofList names).ordered.eq_of_mem_iff (Finset.sortedLT_sort _).pairwise fun k => ?_
  rw [mem_ofList, Finset.mem_sort, List.mem_toFinset]

theorem isEmpty_ofList (names : List String) : (ofList names).isEmpty = names.toFinset.sort.isEmpty := by
  rw [isEmpty, toList_ofList]

end NameSet

/-- The error is about an optional name that its object does not declare. -/
def TypeError.NamesUndeclared (e : TypeError) : Prop :=
  ∃ name, e.fault = .structural (.undeclaredOptional name)

theorem TypeError.NamesUndeclared.within {e : TypeError} (h : e.NamesUndeclared) (segment : String) :
    (e.within segment).NamesUndeclared := h

namespace Constraint

variable {t : Constraint} {fields : List (String × Constraint)}

/-! ## Optional names -/

/-- The argument behind an object's attributes, if one is written. -/
def optionalPart (optional : NameSet) : List Json :=
  if optional.isEmpty then [] else [.arr (optional.toList.map .str)]

theorem length_optionalPart_le (optional : NameSet) : ¬1 < (optionalPart optional).length := by
  rw [optionalPart]
  split
  · exact Nat.not_lt_zero 1
  · exact Nat.lt_irrefl 1

theorem optionalNames_map_str : ∀ names : List String, optionalNames (names.map .str) = .ok names
  | [] => rfl
  | k :: names => by rw [List.map_cons, optionalNames, optionalNames_map_str names]; rfl

theorem optionalNames_eq_ok : ∀ {vs : List Json} {names : List String}, optionalNames vs = .ok names →
    vs.filterMap Json.text? = names
  | [], _, h => by cases h; rfl
  | .str k :: rest, _, h => by
    rw [optionalNames] at h
    obtain ⟨others, hothers, rfl⟩ := Except.map_eq_ok.1 h
    rw [← optionalNames_eq_ok hothers]
    rfl
  | .null :: _, _, h | .bool _ :: _, _, h | .num _ :: _, _, h | .arr _ :: _, _, h | .obj _ :: _, _, h => by cases h

theorem optionalSet_optionalPart (optional : NameSet) : optionalSet (optionalPart optional) = .ok optional := by
  rw [optionalPart]
  split
  · next h =>
    rw [optionalSet, show optional = NameSet.empty from NameSet.ext (List.isEmpty_iff.1 h)]
  · rw [optionalSet, optionalNames_map_str, Except.map, NameSet.ofList_toList]

/-- Attributes and names make an object if and only if every name is an attribute's. -/
theorem withOptional_eq_ok {rest : List Json} : withOptional fields rest = .ok t ↔
    ∃ optional, optionalSet rest = .ok optional ∧ (∀ k ∈ optional.toList, k ∈ Entries.keys fields) ∧
      .object fields optional = t := by
  rw [withOptional]
  cases optionalSet rest with
  | error e => exact iff_of_false nofun nofun
  | ok optional =>
    simp only [Except.ok.injEq, exists_eq_left']
    cases h : undeclared? (Entries.keys fields) optional with
    | some name =>
      refine iff_of_false (fun h => by cases h) ?_
      rintro ⟨hdeclared, -⟩
      rw [undeclared?_eq_none hdeclared] at h
      cases h
    | none =>
      rw [Except.ok.injEq]
      exact ⟨fun ht => ⟨mem_of_undeclared?_eq_none h, ht⟩, And.right⟩

theorem withOptional_optionalPart_eq_error {optional : NameSet}
    (h : ¬∀ k ∈ optional.toList, k ∈ Entries.keys fields) :
    ∃ e, withOptional fields (optionalPart optional) = .error e ∧ e.NamesUndeclared := by
  rw [withOptional, optionalSet_optionalPart]
  cases hundeclared : undeclared? (Entries.keys fields) optional with
  | none => exact absurd (mem_of_undeclared?_eq_none hundeclared) h
  | some name => exact ⟨.structural (.undeclaredOptional name), by simp only [hundeclared], name, rfl⟩

/-! ## Reading what was written -/

theorem toJson_object (fields : List (String × Constraint)) (optional : NameSet) :
    toJson (.object fields optional) =
      .arr (.str "object" :: .obj (toFields fields) :: optionalPart optional) := rfl

theorem ofParts_object (fields : List (String × Constraint)) (optional : NameSet) :
    ofParts (.str "object" :: .obj (toFields fields) :: optionalPart optional) =
      (ofFields (toFields fields)).bind fun fs => withOptional fs (optionalPart optional) := by
  have hobject (args : List Json) : ofParts (.str "object" :: args) = ofObject args := rfl
  rw [hobject, ofObject, if_neg (length_optionalPart_le optional), ofAttributes]
  cases ofFields (toFields fields) <;> rfl

variable {kind : String} {wrap : Constraint → Constraint} {v : Json}

theorem ofElement_eq_ok (h : ofJson v = .ok t) : ofElement kind wrap [v] = .ok (wrap t) := by
  rw [ofElement, h]
  rfl

theorem ofElement_eq_error {e : TypeError} (h : ofJson v = .error e) :
    ofElement kind wrap [v] = .error (e.within kind) := by
  rw [ofElement, h]
  rfl

mutual
/-- The form of a well-formed type reads as the type. -/
theorem ofJson_toJson : ∀ {t : Constraint}, t.WellFormed → ofJson t.toJson = .ok t
  | .primitive k, _ => by cases k <;> rfl
  | .list t, h | .set t, h | .map t, h => ofElement_eq_ok (ofJson_toJson (t := t) h)
  | .tuple ts, h => by
    rw [WellFormed] at h
    exact Except.map_eq_ok.2 ⟨ts, ofItems_toItems 0 h, rfl⟩
  | .object fields optional, h => by
    rw [WellFormed] at h
    rw [toJson_object, ofJson, ofParts_object, ofFields_toFields h.2]
    exact withOptional_eq_ok.2 ⟨optional, optionalSet_optionalPart optional, h.1, rfl⟩
termination_by structural t => t

theorem ofFields_toFields : ∀ {fields : List (String × Constraint)}, WellFormedFields fields →
    ofFields (toFields fields) = .ok fields
  | [], _ => rfl
  | (k, t) :: rest, h => by
    rw [WellFormedFields] at h
    rw [toFields, ofFields, ofJson_toJson h.1, ofFields_toFields h.2]
    rfl
termination_by structural fields => fields

theorem ofItems_toItems : ∀ (i : Nat) {ts : List Constraint}, WellFormedItems ts →
    ofItems i (toItems ts) = .ok ts
  | _, [], _ => rfl
  | i, t :: rest, h => by
    rw [WellFormedItems] at h
    rw [toItems, ofItems, ofJson_toJson h.1, ofItems_toItems (i + 1) h.2]
    rfl
termination_by structural _ ts => ts
end

mutual
/-- The form of any other type is refused, for an optional name without an attribute. -/
theorem ofJson_toJson_of_not_wellFormed : ∀ {t : Constraint}, ¬t.WellFormed →
    ∃ e, ofJson t.toJson = .error e ∧ e.NamesUndeclared
  | .primitive _, h => absurd trivial h
  | .list t, h | .set t, h | .map t, h => by
    obtain ⟨e, he, hnames⟩ := ofJson_toJson_of_not_wellFormed (t := t) h
    exact ⟨_, ofElement_eq_error he, hnames.within _⟩
  | .tuple ts, h => by
    rw [WellFormed] at h
    obtain ⟨e, he, hnames⟩ := ofItems_toItems_of_not_wellFormed 0 h
    exact ⟨e, Except.map_eq_error.2 he, hnames⟩
  | .object fields optional, h => by
    rw [WellFormed] at h
    rw [toJson_object, ofJson, ofParts_object]
    -- the attributes are read first, so that a fault in one of them hides a fault of the object's own
    by_cases hfields : WellFormedFields fields
    · rw [ofFields_toFields hfields]
      exact withOptional_optionalPart_eq_error fun hdeclared => h ⟨hdeclared, hfields⟩
    · obtain ⟨e, he, hnames⟩ := ofFields_toFields_of_not_wellFormed hfields
      exact ⟨e, by rw [he]; rfl, hnames⟩
termination_by structural t => t

theorem ofFields_toFields_of_not_wellFormed : ∀ {fields : List (String × Constraint)},
    ¬WellFormedFields fields → ∃ e, ofFields (toFields fields) = .error e ∧ e.NamesUndeclared
  | [], h => absurd trivial h
  | (k, t) :: rest, h => by
    rw [WellFormedFields] at h
    rw [toFields, ofFields]
    by_cases ht : t.WellFormed
    · obtain ⟨e, he, hnames⟩ := ofFields_toFields_of_not_wellFormed fun hrest => h ⟨ht, hrest⟩
      exact ⟨e, by rw [ofJson_toJson ht, he]; rfl, hnames⟩
    · obtain ⟨e, he, hnames⟩ := ofJson_toJson_of_not_wellFormed ht
      exact ⟨_, by rw [he], hnames.within _⟩
termination_by structural fields => fields

theorem ofItems_toItems_of_not_wellFormed : ∀ (i : Nat) {ts : List Constraint},
    ¬WellFormedItems ts → ∃ e, ofItems i (toItems ts) = .error e ∧ e.NamesUndeclared
  | _, [], h => absurd trivial h
  | i, t :: rest, h => by
    rw [WellFormedItems] at h
    rw [toItems, ofItems]
    by_cases ht : t.WellFormed
    · obtain ⟨e, he, hnames⟩ := ofItems_toItems_of_not_wellFormed (i + 1) fun hrest => h ⟨ht, hrest⟩
      exact ⟨e, by rw [ofJson_toJson ht, he]; rfl, hnames⟩
    · obtain ⟨e, he, hnames⟩ := ofJson_toJson_of_not_wellFormed ht
      exact ⟨_, by rw [he], hnames.within _⟩
termination_by structural _ ts => ts
end

/-! ## Writing what was read -/

/-- Optional names as they are written: by code points, each once, and no list of none. -/
def normalOptional : List Json → List Json
  | [.arr names] =>
    let sorted := (names.filterMap Json.text?).toFinset.sort
    if sorted.isEmpty then [] else [.arr (sorted.map .str)]
  | rest => rest

mutual
/-- A form with `"any"` for no type and for `"dynamic"` at each place of a type, and with its optional names as
they are written. -/
def normalForm : Json → Json
  | .null => .str "any"
  | .str k => .str (if k = "dynamic" then "any" else k)
  | .arr parts => .arr (normalParts parts)
  | v => v
termination_by structural v => v

/-- A kind and its arguments. -/
def normalParts : List Json → List Json
  | .str kind :: args =>
    .str kind :: (if kind = "tuple" then normalTuple args else if kind = "object" then normalObject args
      else normalItems args)
  | parts => parts
termination_by structural vs => vs

/-- The arguments of a tuple. -/
def normalTuple : List Json → List Json
  | [] => []
  | v :: rest => normalElements v :: rest
termination_by structural vs => vs

/-- The elements of a tuple. -/
def normalElements : Json → Json
  | .arr vs => .arr (normalItems vs)
  | v => v
termination_by structural v => v

/-- The arguments of an object. -/
def normalObject : List Json → List Json
  | [] => []
  | v :: rest => normalAttributes v :: normalOptional rest
termination_by structural vs => vs

/-- The attributes of an object. -/
def normalAttributes : Json → Json
  | .obj attributes => .obj (normalFields attributes)
  | v => v
termination_by structural v => v

/-- Forms one after the other. -/
def normalItems : List Json → List Json
  | [] => []
  | v :: rest => normalForm v :: normalItems rest
termination_by structural vs => vs

/-- The form of each attribute. -/
def normalFields : List (String × Json) → List (String × Json)
  | [] => []
  | (k, v) :: rest => (k, normalForm v) :: normalFields rest
termination_by structural es => es
end

/-- The keyword of a kind is the one it was read from, but for `any`. -/
theorem keyword_of_ofKeyword? {s : String} {k : Primitive} (h : Primitive.ofKeyword? s = some k) :
    k.keyword = if s = "dynamic" then "any" else s := by
  rw [Primitive.ofKeyword?] at h
  split_ifs at h <;> cases h <;> grind [Primitive.keyword]

theorem normalOptional_eq_optionalPart {rest : List Json} {optional : NameSet} (hlen : ¬1 < rest.length)
    (h : optionalSet rest = .ok optional) : normalOptional rest = optionalPart optional := by
  rcases rest with _ | ⟨v, _ | ⟨w, rest⟩⟩
  · cases h
    rfl
  · cases v with
    | arr names =>
      obtain ⟨texts, htexts, rfl⟩ := Except.map_eq_ok.1 h
      rw [normalOptional, optionalNames_eq_ok htexts, optionalPart, NameSet.isEmpty_ofList, NameSet.toList_ofList]
    | _ => cases h
  · exact absurd (by simp) hlen

-- One theorem for each function of the reader, in the reader's own recursion: the arguments of a kind, in normal form,
-- are what is written behind that kind for the parts that were read.
mutual
/-- A form that reads as a type is, up to its normal form, what is written for the type. -/
theorem wellFormed_and_toJson_of_ofJson : ∀ {j : Json} {t : Constraint}, ofJson j = .ok t →
    t.WellFormed ∧ t.toJson = normalForm j
  | .null, _, h => by cases h; exact ⟨trivial, rfl⟩
  | .str s, t, h => by
    rw [ofJson] at h
    split at h
    · next k hk =>
      cases h
      exact ⟨trivial, by rw [toJson, normalForm, keyword_of_ofKeyword? hk]⟩
    · cases h
  | .arr parts, t, h => by
    rw [ofJson] at h
    obtain ⟨ht, hparts⟩ := wellFormed_and_toJson_of_ofParts h
    exact ⟨ht, by rw [normalForm, hparts]⟩
  | .bool _, _, h | .num _, _, h | .obj _, _, h => by cases h
termination_by structural j => j

theorem wellFormed_and_toJson_of_ofParts : ∀ {parts : List Json} {t : Constraint}, ofParts parts = .ok t →
    t.WellFormed ∧ t.toJson = .arr (normalParts parts)
  | [], _, h => by cases h
  | .str kind :: args, t, h => by
    rw [ofParts] at h
    split_ifs at h with hlist hset hmap htuple hobject
    · obtain ⟨e, rfl, he, hargs⟩ := wellFormed_and_toItems_of_ofElement h
      subst hlist
      exact ⟨he, by rw [toJson, normalParts, hargs]; rfl⟩
    · obtain ⟨e, rfl, he, hargs⟩ := wellFormed_and_toItems_of_ofElement h
      subst hset
      exact ⟨he, by rw [toJson, normalParts, hargs]; rfl⟩
    · obtain ⟨e, rfl, he, hargs⟩ := wellFormed_and_toItems_of_ofElement h
      subst hmap
      exact ⟨he, by rw [toJson, normalParts, hargs]; rfl⟩
    · obtain ⟨ts, rfl, hts, hargs⟩ := wellFormed_and_toItems_of_ofTuple h
      subst htuple
      exact ⟨hts, by rw [toJson, normalParts, hargs]; rfl⟩
    · obtain ⟨fields, optional, rfl, ht, hargs⟩ := wellFormed_and_toFields_of_ofObject h
      subst hobject
      exact ⟨ht, by rw [toJson_object, normalParts, hargs]; rfl⟩
  | .null :: _, _, h | .bool _ :: _, _, h | .num _ :: _, _, h | .arr _ :: _, _, h | .obj _ :: _, _, h => by cases h
termination_by structural parts => parts

theorem wellFormed_and_toItems_of_ofElement : ∀ {kind : String} {wrap : Constraint → Constraint}
    {args : List Json} {t : Constraint}, ofElement kind wrap args = .ok t →
    ∃ e, wrap e = t ∧ e.WellFormed ∧ normalItems args = [e.toJson]
  | _, _, [], _, h => by cases h
  | kind, wrap, [v], t, h => by
    rw [ofElement] at h
    simp only [List.isEmpty_nil, if_true] at h
    split at h
    · next e hv =>
      cases h
      obtain ⟨he, hform⟩ := wellFormed_and_toJson_of_ofJson hv
      exact ⟨e, rfl, he, by rw [normalItems, normalItems, hform]⟩
    · cases h
  | _, _, _ :: _ :: _, _, h => by cases h
termination_by structural _ _ args => args

theorem wellFormed_and_toItems_of_ofTuple : ∀ {args : List Json} {t : Constraint}, ofTuple args = .ok t →
    ∃ ts, .tuple ts = t ∧ WellFormedItems ts ∧ normalTuple args = [.arr (toItems ts)]
  | [], _, h => by cases h
  | [v], _, h => by
    obtain ⟨ts, hts, hform, helements⟩ := wellFormed_and_toItems_of_ofElements h
    exact ⟨ts, hts, hform, by rw [normalTuple, helements]⟩
  | _ :: _ :: _, _, h => by cases h
termination_by structural args => args

theorem wellFormed_and_toItems_of_ofElements : ∀ {v : Json} {t : Constraint}, ofElements v = .ok t →
    ∃ ts, .tuple ts = t ∧ WellFormedItems ts ∧ normalElements v = .arr (toItems ts)
  | .arr vs, _, h => by
    obtain ⟨ts, hts, rfl⟩ := Except.map_eq_ok.1 h
    obtain ⟨hform, hitems⟩ := wellFormed_and_toItems_of_ofItems hts
    exact ⟨ts, rfl, hform, by rw [normalElements, hitems]⟩
  | .null, _, h | .bool _, _, h | .num _, _, h | .str _, _, h | .obj _, _, h => by cases h
termination_by structural v => v

theorem wellFormed_and_toItems_of_ofItems : ∀ {i : Nat} {vs : List Json} {ts : List Constraint},
    ofItems i vs = .ok ts → WellFormedItems ts ∧ toItems ts = normalItems vs
  | _, [], _, h => by cases h; exact ⟨trivial, rfl⟩
  | i, v :: rest, _, h => by
    rw [ofItems] at h
    split at h
    · cases h
    · next t hv =>
      obtain ⟨others, hothers, rfl⟩ := Except.map_eq_ok.1 h
      obtain ⟨ht, hform⟩ := wellFormed_and_toJson_of_ofJson hv
      obtain ⟨hrest, hforms⟩ := wellFormed_and_toItems_of_ofItems hothers
      exact ⟨⟨ht, hrest⟩, by rw [toItems, normalItems, hform, hforms]⟩
termination_by structural _ vs => vs

theorem wellFormed_and_toFields_of_ofObject : ∀ {args : List Json} {t : Constraint}, ofObject args = .ok t →
    ∃ fields optional, .object fields optional = t ∧ t.WellFormed ∧
      normalObject args = .obj (toFields fields) :: optionalPart optional
  | [], _, h => by cases h
  | v :: rest, t, h => by
    rw [ofObject] at h
    split_ifs at h with hlen
    split at h
    · cases h
    · next fields hfields =>
      obtain ⟨hform, hattributes⟩ := wellFormed_and_toFields_of_ofAttributes hfields
      obtain ⟨optional, hoptional, hdeclared, rfl⟩ := withOptional_eq_ok.1 h
      exact ⟨fields, optional, rfl, ⟨hdeclared, hform⟩,
        by rw [normalObject, hattributes, normalOptional_eq_optionalPart hlen hoptional]⟩
termination_by structural args => args

theorem wellFormed_and_toFields_of_ofAttributes : ∀ {v : Json} {fields : List (String × Constraint)},
    ofAttributes v = .ok fields → WellFormedFields fields ∧ normalAttributes v = .obj (toFields fields)
  | .obj attributes, _, h => by
    rw [ofAttributes] at h
    obtain ⟨hform, hfields⟩ := wellFormed_and_toFields_of_ofFields h
    exact ⟨hform, by rw [normalAttributes, hfields]⟩
  | .null, _, h | .bool _, _, h | .num _, _, h | .str _, _, h | .arr _, _, h => by cases h
termination_by structural v => v

theorem wellFormed_and_toFields_of_ofFields : ∀ {es : List (String × Json)}
    {fields : List (String × Constraint)}, ofFields es = .ok fields →
    WellFormedFields fields ∧ toFields fields = normalFields es
  | [], _, h => by cases h; exact ⟨trivial, rfl⟩
  | (k, v) :: rest, _, h => by
    rw [ofFields] at h
    split at h
    · cases h
    · next t hv =>
      obtain ⟨others, hothers, rfl⟩ := Except.map_eq_ok.1 h
      obtain ⟨ht, hform⟩ := wellFormed_and_toJson_of_ofJson hv
      obtain ⟨hrest, hforms⟩ := wellFormed_and_toFields_of_ofFields hothers
      exact ⟨⟨ht, hrest⟩, by rw [toFields, normalFields, hform, hforms]⟩
termination_by structural es => es
end

/-- **Types and forms are the same, up to the normal form.** The form of a type in which every optional name is
declared reads as the type, and the form of any other is refused for an undeclared name; what reads as a type
is such a type, and its form is the normal form of what was read, which reads as the same type. -/
theorem ofJson_toJson_round_trip :
    (∀ t : Constraint, t.WellFormed → ofJson t.toJson = .ok t) ∧
    (∀ t : Constraint, ¬t.WellFormed → ∃ path name,
      ofJson t.toJson = .error ⟨path, .structural (.undeclaredOptional name)⟩) ∧
    (∀ (j : Json) (t : Constraint), ofJson j = .ok t →
      t.WellFormed ∧ t.toJson = normalForm j ∧ ofJson t.toJson = .ok t) := by
  refine ⟨fun t ht => ofJson_toJson ht, fun t ht => ?_, fun j t h => ?_⟩
  · obtain ⟨⟨path, fault⟩, he, name, hfault⟩ := ofJson_toJson_of_not_wellFormed ht
    exact ⟨path, name, by rw [he, ← hfault]⟩
  · obtain ⟨ht, hform⟩ := wellFormed_and_toJson_of_ofJson h
    exact ⟨ht, hform, ofJson_toJson ht⟩

/-- Types left out or `"dynamic"`, and names out of order and repeated; and an undeclared name inside a list. -/
theorem ofJson_toJson_round_trip_names :
    let form : Json := .arr [.str "object",
      .obj [("a", .null), ("b", .arr [.str "tuple", .arr [.str "dynamic", .str "bool"]]), ("c", .str "number")],
      .arr [.str "b", .str "a", .str "b"]]
    let t : Constraint := .object
      [("a", any), ("b", .tuple [any, .primitive .bool]), ("c", .primitive .number)] (NameSet.ofList ["a", "b"])
    ofJson form = .ok t ∧ t.WellFormed ∧ ofJson t.toJson = .ok t ∧ t.toJson = normalForm form ∧
      normalForm form = .arr [.str "object",
        .obj [("a", .str "any"), ("b", .arr [.str "tuple", .arr [.str "any", .str "bool"]]), ("c", .str "number")],
        .arr [.str "a", .str "b"]] ∧
      ¬(list (.object [] (NameSet.ofList ["x"]))).WellFormed ∧
      ∃ path name, ofJson (list (.object [] (NameSet.ofList ["x"]))).toJson =
        .error ⟨path, .structural (.undeclaredOptional name)⟩ := by
  intro form t
  have hread : ofJson form = .ok t := rfl
  have hbad : ¬(list (.object [] (NameSet.ofList ["x"]))).WellFormed :=
    fun h => absurd (h.1 "x" (by decide)) (by decide)
  obtain ⟨hwritten, hrefused, hform⟩ := ofJson_toJson_round_trip
  obtain ⟨ht, hnormal, -⟩ := hform form t hread
  exact ⟨hread, ht, hwritten t ht, hnormal, hnormal ▸ rfl, hbad, hrefused _ hbad⟩

end Constraint

end VarSchema
