import VarSchema.Proofs.Schema.Pointer
import VarSchema.Proofs.Schema.Record
import VarSchema.Schema.Violation

/-!
# Violations, keyword by keyword

* `Schema.reported`, `Schema.keywordViolations_eq_flatMap` : the violations of a schema are those of each keyword;
* `Schema.declaredIn_eq`, `Schema.mem_declaredFields`, `Schema.lookup_declaredFields` : the violations of the declared
  properties, which are reported by one of two keywords;
* `Schema.Reports` : a schema reports violations of exactly the values that it refuses, each at the value's place or
  below; `Schema.ItemsReport.eq_nil_iff` : so does the keyword of items, if the schemas inside do;
* `Schema.DeclaredViolation`, `Schema.mem_declared`, `Schema.mem_entries` : the violations of declared properties,
  reported by themselves or with those of the other properties;
* `Schema.reported_additional_eq_nil_iff` : in the latter case nothing is reported if all of them are accepted;
  `Schema.mem_reported_cases` : what a violation of a keyword can concern.
-/

namespace VarSchema

namespace Schema

open Assertion

variable {siblings ps : Entries Json} {s v w x : Json} {k ip sp : String} {e : Violation}

/-! ## Declared properties -/

/-- The declared properties of a schema. -/
def declaredProperties (siblings : Entries Json) : Entries Json :=
  match Entries.get? "properties" siblings with
  | some (.obj ps) => ps
  | _ => []

theorem propertyNames_eq (siblings : Entries Json) :
    propertyNames siblings = Entries.keys (declaredProperties siblings) := by
  unfold propertyNames declaredProperties
  cases hproperties : Entries.get? "properties" siblings with
  | none => rfl
  | some w => cases w <;> rfl

theorem declaredIn_eq (v : Json) (ip sp : String) : ∀ siblings : Entries Json, declaredIn siblings v ip sp =
    declaredFields (declaredProperties siblings) v ip (Pointer.push sp "properties")
  | [] => rfl
  | (k, w) :: rest => by
    rw [declaredIn, declaredProperties, Entries.get?_cons]
    by_cases hk : k = "properties"
    · rw [if_pos hk, if_pos hk, hk]
      cases w <;> rfl
    · rw [if_neg hk, if_neg hk, declaredIn_eq v ip sp rest, declaredProperties]

theorem declaredFields_eq_filterMap (v : Json) (ip sp : String) : ∀ ps : Entries Json, declaredFields ps v ip sp =
    ps.filterMap fun p => (v.field? p.1).map fun x =>
      (p.1, violationsAt p.2 x (Pointer.push ip p.1) (Pointer.push sp p.1))
  | [] => rfl
  | p :: ps => by
    rw [declaredFields, declaredFields_eq_filterMap v ip sp ps, List.filterMap_cons]
    cases v.field? p.1 <;> rfl

theorem mem_declaredFields {vs : List Violation} : (k, vs) ∈ declaredFields ps v ip sp ↔
    ∃ s x, (k, s) ∈ ps ∧ v.field? k = some x ∧ violationsAt s x (Pointer.push ip k) (Pointer.push sp k) = vs := by
  rw [declaredFields_eq_filterMap, List.mem_filterMap]
  constructor
  · rintro ⟨⟨l, s⟩, hs, h⟩
    obtain ⟨x, hx, heq⟩ := Option.map_eq_some_iff.1 h
    cases heq
    exact ⟨s, x, hs, hx, rfl⟩
  · rintro ⟨s, x, hs, hx, rfl⟩
    exact ⟨(k, s), hs, by rw [hx]; rfl⟩

/-- The violations that are looked up under a key are those of the declared property. -/
theorem lookup_declaredFields (ps : Entries Json) (v : Json) (ip sp k : String) :
    (declaredFields ps v ip sp).lookup k = (Entries.get? k ps).bind fun s =>
      (v.field? k).map fun x => violationsAt s x (Pointer.push ip k) (Pointer.push sp k) := by
  induction ps with
  | nil => rfl
  | cons p ps ih =>
    rw [declaredFields, Entries.get?_cons]
    by_cases hk : p.1 = k
    · subst hk
      cases hx : v.field? p.1 with
      | none => simp [ih, hx]
      | some x => simp
    · have hne : (k == p.1) = false := by simpa using Ne.symm hk
      rw [if_neg hk]
      cases v.field? p.1 with
      | none => rw [List.nil_append, ih]
      | some x => rw [List.singleton_append, List.lookup_cons, hne, ih]

theorem exists_field?_of_mem {f : String × Json} (h : f ∈ fieldsOf v) : ∃ x, v.field? f.1 = some x := by
  cases v with
  | obj fields => exact Option.isSome_iff_exists.1 (Entries.mem_keys_iff.1 (List.mem_map_of_mem h))
  | _ => cases h

theorem mem_of_field? (h : v.field? k = some x) : (k, x) ∈ fieldsOf v := by
  cases v with
  | obj fields => exact Entries.mem_of_get? h
  | _ => cases h

/-! ## Keyword by keyword -/

/-- The violations of one keyword of a schema; `siblings` are all keywords of the schema. -/
def reported (siblings : Entries Json) (k : String) (w v : Json) (ip sp : String) : List Violation :=
  keywordViolations siblings (declaredIn siblings v ip sp) [(k, w)] v ip sp

theorem keywordViolations_eq_flatMap (siblings : Entries Json) (v : Json) (ip sp : String) : ∀ es : Entries Json,
    keywordViolations siblings (declaredIn siblings v ip sp) es v ip sp =
      es.flatMap fun e => reported siblings e.1 e.2 v ip sp
  | [] => rfl
  | (k, w) :: rest => by
    rw [List.flatMap_cons, ← keywordViolations_eq_flatMap siblings v ip sp rest, reported]
    cases w <;> simp only [keywordViolations, List.append_nil]

theorem reported_leaf (hk : k ∉ ["properties", "additionalProperties", "items", "anyOf"]) (siblings : Entries Json)
    (w v : Json) (ip sp : String) : reported siblings k w v ip sp = leafViolations k w v ip (Pointer.push sp k) := by
  simp only [List.mem_cons, List.not_mem_nil, or_false, not_or] at hk
  unfold reported
  cases w <;> simp only [keywordViolations, List.append_nil, if_neg hk.1, if_neg hk.2.1, if_neg hk.2.2.1,
    if_neg hk.2.2.2]

theorem reported_anyOf (siblings : Entries Json) (w v : Json) (ip sp : String) : reported siblings "anyOf" w v ip sp =
    if acceptsAny w v then [] else [⟨ip, Pointer.push sp "anyOf", anyOfMessage v⟩] := by
  cases w <;> simp [reported, keywordViolations]

theorem leafViolations_eq_nil_iff : leafViolations k w v ip sp = [] ↔ holds k w v = true := by
  unfold leafViolations
  split
  · next hk =>
    subst hk
    rw [List.map_eq_nil_iff, ← List.isEmpty_iff]
    rfl
  · split
    · next hholds => exact iff_of_true rfl hholds
    · next hholds => exact iff_of_false nofun hholds

theorem instancePath_of_mem_leafViolations (h : e ∈ leafViolations k w v ip sp) : e.instancePath = ip := by
  unfold leafViolations at h
  split at h
  · obtain ⟨name, -, rfl⟩ := List.mem_map.1 h
    rfl
  · split at h
    · cases h
    · rw [List.mem_singleton.1 h]

/-! ## Schemas that report what they refuse -/

/-- The schema reports violations of exactly the values that it refuses, each at the value's place or below. -/
structure Reports (s : Json) : Prop where
  eq_nil_iff : ∀ v ip sp, violationsAt s v ip sp = [] ↔ accepts s v = true
  reaches : ∀ v ip sp, ∀ e ∈ violationsAt s v ip sp, Pointer.Reaches ip e.instancePath

theorem reports_bool (b : Bool) : Reports (.bool b) where
  eq_nil_iff v ip sp := by cases b <;> simp [violationsAt, accepts]
  reaches v ip sp e he := by
    cases b with
    | true => cases he
    | false =>
      rw [List.mem_singleton.1 he]
      exact .refl ip

/-- What stands under `items`: one schema, or one for each position. -/
def ItemsReport : Json → Prop
  | .arr ss => ∀ s ∈ ss, Reports s
  | w => Reports w

theorem itemViolations_eq_nil_iff : ∀ {ss : List Json} {i : Nat} {xs : List Json}, (∀ s ∈ ss, Reports s) →
    (itemViolations ss i xs ip sp = [] ↔ acceptsItems ss xs = true)
  | [], _, xs, _ => by simp [itemViolations, acceptsItems]
  | s :: ss, _, [], _ => by simp [itemViolations, acceptsItems]
  | s :: ss, i, x :: xs, h => by
    rw [List.forall_mem_cons] at h
    rw [itemViolations, List.append_eq_nil_iff, h.1.eq_nil_iff, itemViolations_eq_nil_iff h.2, acceptsItems,
      Bool.and_eq_true]

theorem reported_positions (siblings : Entries Json) (ss : List Json) (v : Json) (ip sp : String) :
    reported siblings "items" (.arr ss) v ip sp = itemViolations ss 0 (itemsOf v) ip (Pointer.push sp "items") := by
  simp [reported, keywordViolations, positionViolations]

theorem reported_items (hw : ∀ ss, w ≠ .arr ss) (siblings : Entries Json) (v : Json) (ip sp : String) :
    reported siblings "items" w v ip sp = (itemsOf v).zipIdx.flatMap fun p =>
      violationsAt w p.1 (Pointer.push ip (toString p.2)) (Pointer.push sp "items") := by
  cases w with
  | arr ss => exact absurd rfl (hw ss)
  | _ => simp [reported, keywordViolations]

theorem asserts_items_of_ne (hw : ∀ ss, w ≠ .arr ss) (siblings : Entries Json) (v : Json) :
    asserts siblings "items" w v = (itemsOf v).all (accepts w) := by
  cases w with
  | arr ss => exact absurd rfl (hw ss)
  | _ => rfl

theorem ItemsReport.cases (h : ItemsReport w) :
    (∃ ss, w = .arr ss ∧ ∀ s ∈ ss, Reports s) ∨ (∀ ss, w ≠ .arr ss) ∧ Reports w := by
  cases w with
  | arr ss => exact .inl ⟨ss, rfl, h⟩
  | _ => exact .inr ⟨nofun, h⟩

theorem ItemsReport.eq_nil_iff (h : ItemsReport w) (siblings : Entries Json) (v : Json) (ip sp : String) :
    reported siblings "items" w v ip sp = [] ↔ asserts siblings "items" w v = true := by
  obtain ⟨ss, rfl, hss⟩ | ⟨hne, hw⟩ := h.cases
  · rw [reported_positions, asserts_positions, itemViolations_eq_nil_iff hss]
  · rw [reported_items hne, asserts_items_of_ne hne, List.flatMap_eq_nil_iff, List.all_eq_true]
    simp only [hw.eq_nil_iff]
    constructor
    · intro hall x hx
      rw [← List.zipIdx_map_fst 0 (itemsOf v)] at hx
      obtain ⟨p, hp, rfl⟩ := List.mem_map.1 hx
      exact hall p hp
    · exact fun hall p hp => hall p.1 (List.fst_mem_of_mem_zipIdx hp)

/-! ## Declared and other properties -/

/-- A violation of a declared property that the value has. -/
def DeclaredViolation (siblings : Entries Json) (v : Json) (ip sp : String) (e : Violation) : Prop :=
  ∃ k s x, Entries.get? k (declaredProperties siblings) = some s ∧ v.field? k = some x ∧
    e ∈ violationsAt s x (Pointer.push ip k) (Pointer.push (Pointer.push sp "properties") k)

theorem mem_declaredIn : e ∈ (declaredIn siblings v ip sp).flatMap Prod.snd ↔
    ∃ k s x, (k, s) ∈ declaredProperties siblings ∧ v.field? k = some x ∧
      e ∈ violationsAt s x (Pointer.push ip k) (Pointer.push (Pointer.push sp "properties") k) := by
  simp only [declaredIn_eq, List.mem_flatMap, Prod.exists, mem_declaredFields]
  constructor
  · rintro ⟨k, _, ⟨s, x, hs, hx, rfl⟩, he⟩
    exact ⟨k, s, x, hs, hx, he⟩
  · rintro ⟨k, s, x, hs, hx, he⟩
    exact ⟨k, _, ⟨s, x, hs, hx, rfl⟩, he⟩

theorem mem_declared (hordered : Entries.Ordered (declaredProperties siblings)) :
    e ∈ (declaredIn siblings v ip sp).flatMap Prod.snd ↔ DeclaredViolation siblings v ip sp e := by
  simp only [mem_declaredIn, DeclaredViolation, hordered.get?_eq_some_iff]

theorem DeclaredViolation.mem_declared (h : DeclaredViolation siblings v ip sp e) :
    e ∈ (declaredIn siblings v ip sp).flatMap Prod.snd := by
  obtain ⟨k, s, x, hs, hx, he⟩ := h
  exact mem_declaredIn.2 ⟨k, s, x, Entries.mem_of_get? hs, hx, he⟩

/-- Entry by entry, an object's violations are those of its declared properties and what is reported of the others. -/
theorem mem_entries (other : String × Json → List Violation) :
    e ∈ ((fieldsOf v).flatMap fun f => ((declaredIn siblings v ip sp).lookup f.1).getD (other f)) ↔
      DeclaredViolation siblings v ip sp e ∨ ∃ f ∈ additionalFields siblings v, e ∈ other f := by
  have hlookup (f : String × Json) := lookup_declaredFields (declaredProperties siblings) v ip
    (Pointer.push sp "properties") f.1
  simp only [declaredIn_eq, List.mem_flatMap, additionalFields, List.mem_filter, propertyNames_eq]
  constructor
  · rintro ⟨f, hf, he⟩
    obtain ⟨x, hx⟩ := exists_field?_of_mem hf
    rw [hlookup] at he
    cases hs : Entries.get? f.1 (declaredProperties siblings) with
    | none =>
      rw [hs] at he
      have hother : f.1 ∉ Entries.keys (declaredProperties siblings) := by simp [Entries.mem_keys_iff, hs]
      exact .inr ⟨f, ⟨hf, by simpa using hother⟩, he⟩
    | some s =>
      rw [hs, hx] at he
      exact .inl ⟨f.1, s, x, hs, hx, he⟩
  · rintro (⟨k, s, x, hs, hx, he⟩ | ⟨f, ⟨hf, hother⟩, he⟩)
    · refine ⟨(k, x), mem_of_field? hx, ?_⟩
      rw [hlookup, hs, hx]
      exact he
    · refine ⟨f, hf, ?_⟩
      have hnone : Entries.get? f.1 (declaredProperties siblings) = none := by
        simpa [Entries.mem_keys_iff] using hother
      rw [hlookup, hnone]
      exact he

/-- No declared property is violated if and only if all of them are accepted. -/
theorem forall_not_declaredViolation_iff (hordered : Entries.Ordered (declaredProperties siblings))
    (hreports : ∀ k s, (k, s) ∈ declaredProperties siblings → Reports s) (ip sp : String) :
    (∀ e, ¬DeclaredViolation siblings v ip sp e) ↔ acceptsFields (declaredProperties siblings) v = true := by
  rw [acceptsFields_iff]
  constructor
  · intro hnone k s hs x hx
    rw [← (hreports k s hs).eq_nil_iff, List.eq_nil_iff_forall_not_mem]
    exact fun e he => hnone e ⟨k, s, x, hordered.get?_eq_some_iff.2 hs, hx, he⟩
  · rintro hall e ⟨k, s, x, hs, hx, he⟩
    have hmem := hordered.get?_eq_some_iff.1 hs
    rw [((hreports k s hmem).eq_nil_iff _ _ _).2 (hall k s hmem x hx)] at he
    cases he

theorem reported_properties (siblings : Entries Json) (w v : Json) (ip sp : String) :
    reported siblings "properties" w v ip sp =
      if restrictsAdditional siblings then [] else (declaredIn siblings v ip sp).flatMap Prod.snd := by
  cases w <;> simp [reported, keywordViolations]

theorem asserts_properties (h : Entries.get? "properties" siblings = some w) (v : Json) :
    asserts siblings "properties" w v = acceptsFields (declaredProperties siblings) v := by
  unfold asserts declaredProperties
  rw [if_pos rfl, h]
  cases w <;> rfl

/-- What is reported of a property that is not declared. -/
def otherViolations (w : Json) (ip sp : String) (f : String × Json) : List Violation :=
  match w with
  | .bool _ => []
  | _ => violationsAt w f.2 (Pointer.push ip f.1) (Pointer.push sp "additionalProperties")

/-- What is reported of all of them. -/
def unexpectedViolations (siblings : Entries Json) (w v : Json) (ip sp : String) : List Violation :=
  match w with
  | .bool _ => unexpected siblings v ip (Pointer.push sp "additionalProperties")
  | _ => []

theorem reported_additional (siblings : Entries Json) (w v : Json) (ip sp : String) :
    reported siblings "additionalProperties" w v ip sp =
      if restrictsAdditional siblings then
        ((fieldsOf v).flatMap fun f => ((declaredIn siblings v ip sp).lookup f.1).getD (otherViolations w ip sp f)) ++
          unexpectedViolations siblings w v ip sp
      else [] := by
  have hkey : "additionalProperties" ≠ "properties" := by decide
  cases w with
  | bool b =>
    simp only [reported, keywordViolations, List.append_nil, if_neg hkey, if_true]
    refine if_congr Iff.rfl (congrArg (List.flatMap · (fieldsOf v) ++ _) (funext fun f => ?_)) rfl
    cases (declaredIn siblings v ip sp).lookup f.1 <;> rfl
  | _ =>
    simp only [reported, keywordViolations, unexpectedViolations, List.append_nil, if_neg hkey, if_true]
    refine if_congr Iff.rfl (congrArg (List.flatMap · (fieldsOf v)) (funext fun f => ?_)) rfl
    cases (declaredIn siblings v ip sp).lookup f.1 <;> rfl

theorem asserts_additionalProperties (siblings : Entries Json) (w v : Json) :
    asserts siblings "additionalProperties" w v = (additionalFields siblings v).all fun f => accepts w f.2 := by
  cases w <;> rfl

theorem exists_of_restrictsAdditional (h : restrictsAdditional siblings = true) :
    ∃ w, Entries.get? "additionalProperties" siblings = some w ∧ (w = .bool false ∨ ∃ fields, w = .obj fields) := by
  unfold restrictsAdditional at h
  split at h
  · next hw => exact ⟨_, hw, .inl rfl⟩
  · next fields hw => exact ⟨_, hw, .inr ⟨fields, rfl⟩⟩
  · cases h

theorem asserts_additional_of_not_restricts (h : restrictsAdditional siblings = false)
    (hw : Entries.get? "additionalProperties" siblings = some w) (v : Json) :
    asserts siblings "additionalProperties" w v = true := by
  have haccepts (x : Json) : accepts w x = true := by
    rw [restrictsAdditional, hw] at h
    cases w with
    | bool b =>
      cases b with
      | true => rfl
      | false => cases h
    | obj fields => cases h
    | _ => rfl
  rw [asserts_additionalProperties, List.all_eq_true]
  exact fun f _ => haccepts f.2

theorem instancePath_of_mem_unexpected (he : e ∈ unexpected siblings v ip sp) : e.instancePath = ip := by
  rw [unexpected] at he
  cases hextra : additionalFields siblings v with
  | nil => rw [hextra] at he; cases he
  | cons f rest => rw [hextra] at he; rw [List.mem_singleton.1 he]

theorem unexpected_eq_nil_iff : unexpected siblings v ip sp = [] ↔ additionalFields siblings v = [] := by
  rw [unexpected]
  cases additionalFields siblings v with
  | nil => exact iff_of_true rfl rfl
  | cons f rest => exact iff_of_false (List.cons_ne_nil _ _) (List.cons_ne_nil _ _)

/-- Nothing is reported of the other properties if and only if they are accepted. -/
theorem others_eq_nil_iff (hw : w = .bool false ∨ ∃ fields, w = .obj fields) (hreports : Reports w)
    (ip sp : String) :
    (∀ f ∈ additionalFields siblings v, otherViolations w ip sp f = []) ∧
        unexpectedViolations siblings w v ip sp = [] ↔
      asserts siblings "additionalProperties" w v = true := by
  rw [asserts_additionalProperties, List.all_eq_true]
  obtain rfl | ⟨fields, rfl⟩ := hw
  · have hrefuses (x : Json) : accepts (.bool false) x = false := rfl
    simp only [otherViolations, implies_true, true_and, unexpectedViolations, unexpected_eq_nil_iff, hrefuses,
      Bool.false_eq_true, imp_false]
    exact List.eq_nil_iff_forall_not_mem
  · simp only [otherViolations, unexpectedViolations, and_true, hreports.eq_nil_iff]

theorem reported_additional_eq_nil_iff (hrestricts : restrictsAdditional siblings = true)
    (hw : Entries.get? "additionalProperties" siblings = some w) (hreports : Reports w)
    (hordered : Entries.Ordered (declaredProperties siblings))
    (hdeclared : ∀ k s, (k, s) ∈ declaredProperties siblings → Reports s) (v : Json) (ip sp : String) :
    reported siblings "additionalProperties" w v ip sp = [] ↔
      acceptsFields (declaredProperties siblings) v = true ∧ asserts siblings "additionalProperties" w v = true := by
  obtain ⟨u, hu, hform⟩ := exists_of_restrictsAdditional hrestricts
  rw [hw] at hu
  cases hu
  rw [reported_additional, if_pos hrestricts, List.append_eq_nil_iff, List.eq_nil_iff_forall_not_mem,
    ← others_eq_nil_iff hform hreports ip sp, ← and_assoc]
  refine and_congr_left fun _ => ?_
  simp only [mem_entries, not_or, forall_and, forall_not_declaredViolation_iff hordered hdeclared]
  refine and_congr_right fun _ => ?_
  simp only [List.eq_nil_iff_forall_not_mem]
  exact ⟨fun hnone f hf e he => hnone e ⟨f, hf, he⟩, fun hnone e ⟨f, hf, he⟩ => hnone f hf e he⟩

/-- What a keyword reports concerns a declared property, another one or an item, or the value itself. -/
theorem mem_reported_cases (he : e ∈ reported siblings k w v ip sp) :
    e ∈ (declaredIn siblings v ip sp).flatMap Prod.snd ∨
      (k = "additionalProperties" ∧ ∃ f, e ∈ otherViolations w ip sp f) ∨ k = "items" ∨ e.instancePath = ip := by
  by_cases hproperties : k = "properties"
  · subst hproperties
    rw [reported_properties] at he
    split at he
    · cases he
    · exact .inl he
  by_cases hadditional : k = "additionalProperties"
  · subst hadditional
    rw [reported_additional] at he
    split at he
    · rw [List.mem_append, mem_entries] at he
      rcases he with (he | ⟨f, -, he⟩) | he
      · exact .inl he.mem_declared
      · exact .inr (.inl ⟨rfl, f, he⟩)
      · unfold unexpectedViolations at he
        split at he
        · exact .inr (.inr (.inr (instancePath_of_mem_unexpected he)))
        · cases he
    · cases he
  by_cases hitems : k = "items"
  · exact .inr (.inr (.inl hitems))
  refine .inr (.inr (.inr ?_))
  by_cases hany : k = "anyOf"
  · subst hany
    rw [reported_anyOf] at he
    split at he
    · cases he
    · rw [List.mem_singleton.1 he]
  · rw [reported_leaf (by simp [hproperties, hadditional, hitems, hany])] at he
    exact instancePath_of_mem_leafViolations he

end Schema

end VarSchema
