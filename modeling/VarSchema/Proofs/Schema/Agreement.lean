import VarSchema.Proofs.Schema.Translation
import VarSchema.Proofs.Schema.Vocabulary

/-!
# Two readings of generated schemas

* `Schema.emittedKeywords`, `Schema.Emitted` : the keywords that generated schemas assert something by;
* `Schema.demands_eq_holds`, `Schema.demands_properties`, `Schema.demands_additionalProperties`,
  `Schema.demands_items`, `Schema.demands_anyOf_eq_asserts` : what such a keyword demands;
* `Schema.admits_eq_accepts` : a schema of such keywords accepts the same in the whole schema language;
* `Schema.EmittedAt`, `Schema.emitted_toJson_iff` : the same of nodes, keyword by keyword;
* `Constraint.emitted_of_toNode`, `Node.emitted_strip_wrap` : the schemas of types, and wrappers of such;
* `Constraint.translate_admits_eq_accepts` : so the schema of a variable's type accepts the same.
-/

namespace VarSchema

namespace Schema

open Assertion

/-- The keywords whose value holds no schema. -/
def plainKeywords : List String :=
  ["enum", "exclusiveMaximum", "exclusiveMinimum", "maxItems", "maxLength", "maxProperties", "maximum", "minItems",
   "minLength", "minProperties", "minimum", "pattern", "required", "type", "uniqueItems"]

/-- The keywords that generated schemas assert something by. -/
def emittedKeywords : List String := ["additionalProperties", "anyOf", "items", "properties"] ++ plainKeywords

/-- No other keyword asserts anything, here or inside. -/
def Emitted : Json → Prop := Throughout fun es => ∀ k w, (k, w) ∈ es → k ∈ assertingKeywords → k ∈ emittedKeywords

variable {d : Dialect} {refers : Json → Json → Bool}

theorem get?_of_not_emitted {es : Entries Json}
    (h : ∀ k w, (k, w) ∈ es → k ∈ assertingKeywords → k ∈ emittedKeywords) {k : String} (hk : k ∈ assertingKeywords)
    (hnot : k ∉ emittedKeywords) : Entries.get? k es = none := by
  cases hw : Entries.get? k es with
  | none => rfl
  | some w => exact absurd (h k w (Entries.mem_of_get? hw) hk) hnot

/-! ## One keyword -/

theorem demands_eq_holds {k : String} (h : k ∈ plainKeywords) (sibling : String → Option Reading) (r : Reading)
    (v : Json) : demands d sibling k r v = holds k r.written v := by
  simp only [plainKeywords, List.mem_cons, List.not_mem_nil, or_false] at h
  rcases h with rfl | rfl | rfl | rfl | rfl | rfl | rfl | rfl | rfl | rfl | rfl | rfl | rfl | rfl | rfl <;> rfl

theorem all_zip_eq_acceptsItems : ∀ (ss vs : List Json),
    (ss.zip vs).all (fun e => accepts e.1 e.2) = acceptsItems ss vs
  | [], _ => rfl
  | _ :: _, [] => rfl
  | s :: ss, v :: vs => by rw [List.zip_cons_cons, List.all_cons, all_zip_eq_acceptsItems ss vs, acceptsItems]

theorem demands_properties (sibling : String → Option Reading) (siblings : Entries Json) {w : Json}
    (h : ∀ es, w = .obj es → ∀ e ∈ es, admits d refers e.2 = accepts e.2) (v : Json) :
    demands d sibling "properties" (reading d refers w) v = asserts siblings "properties" w v := by
  cases w with
  | obj es =>
    show (reading d refers (.obj es)).fields.all _ = acceptsFields es v
    rw [fields_reading, List.all_map, Bool.eq_iff_iff, List.all_eq_true, acceptsFields_iff]
    simp only [Prod.forall, Function.comp_apply, Option.all_eq_true]
    exact forall_congr' fun k => forall_congr' fun s => forall_congr' fun hm => by rw [h es rfl (k, s) hm]
  | _ => rfl

theorem isDeclared_eq_contains {es : Entries Json} (h : Entries.get? "patternProperties" es = none) (key : String) :
    isDeclared (fun k => (Entries.get? k es).map (reading d refers)) key = (propertyNames es).contains key := by
  unfold isDeclared propertyNames
  simp only [h, Option.map_none, Option.any_none, Bool.or_false]
  cases Entries.get? "properties" es with
  | none => rfl
  | some w =>
    cases w with
    | obj fs =>
      show (Entries.keys (reading d refers (.obj fs)).fields).contains key = _
      rw [fields_reading, Entries.keys, List.map_map]
      rfl
    | _ => rfl

theorem demands_additionalProperties {es : Entries Json} (h : Entries.get? "patternProperties" es = none) {w : Json}
    (hw : admits d refers w = accepts w) (v : Json) :
    demands d (fun k => (Entries.get? k es).map (reading d refers)) "additionalProperties" (reading d refers w) v =
      asserts es "additionalProperties" w v := by
  show (fieldsOf v).all (fun f => isDeclared _ f.1 || admits d refers w f.2) =
    (additionalFields es v).all fun f => accepts w f.2
  unfold additionalFields
  rw [List.all_filter, hw]
  simp only [isDeclared_eq_contains h, Bool.not_not]

theorem demands_items (sibling : String → Option Reading) (siblings : Entries Json) {w : Json}
    (hw : admits d refers w = accepts w) (h : ∀ ss, w = .arr ss → ∀ s ∈ ss, admits d refers s = accepts s) (v : Json) :
    demands d sibling "items" (reading d refers w) v = asserts siblings "items" w v := by
  cases w with
  | arr ss =>
    have hitems : (reading d refers (.arr ss)).items = ss.map fun s => ⟨s, accepts s⟩ := by
      rw [items_reading]
      exact List.map_congr_left fun s hs => by rw [h ss rfl s hs]
    show ((reading d refers (.arr ss)).items.zip (itemsOf v)).all _ = acceptsItems ss (itemsOf v)
    rw [hitems, List.zip_map_left, List.all_map, ← all_zip_eq_acceptsItems]
    rfl
  | _ =>
    show (itemsOf v).all (admits d refers _) = (itemsOf v).all (accepts _)
    rw [hw]

theorem demands_anyOf_eq_asserts (sibling : String → Option Reading) (siblings : Entries Json) {w : Json}
    (h : ∀ ss, w = .arr ss → ∀ s ∈ ss, admits d refers s = accepts s) (v : Json) :
    demands d sibling "anyOf" (reading d refers w) v = asserts siblings "anyOf" w v := by
  cases w with
  | arr ss =>
    rw [demands_anyOf, asserts_anyOf, Bool.eq_iff_iff, List.any_eq_true, List.any_eq_true]
    exact exists_congr fun s => and_congr_right fun hs => by rw [h ss rfl s hs]
  | _ => rfl

/-! ## Schemas -/

/-- A schema of emitted keywords accepts the same in the whole schema language. -/
theorem admits_eq_accepts {s : Json} (h : Emitted s) (d : Dialect) (refers : Json → Json → Bool) :
    admits d refers s = accepts s := by
  induction h with
  | @plain s h =>
    cases s with
    | obj es => exact absurd rfl (h es)
    | _ => rfl
  | @obj es here _ _ _ hschema hlist hmap =>
    have href : Entries.get? "$ref" es = none := get?_of_not_emitted here (by decide) (by decide)
    have hpatterns : Entries.get? "patternProperties" es = none := get?_of_not_emitted here (by decide) (by decide)
    funext v
    have hsame : ∀ k w, (k, w) ∈ es →
        demands d (fun l => (Entries.get? l es).map (reading d refers)) k (reading d refers w) v =
          asserts es k w v := by
      intro k w hm
      by_cases hasserts : k ∈ assertingKeywords
      · have hk := here k w hm hasserts
        simp only [emittedKeywords, List.mem_append, List.mem_cons, List.not_mem_nil, or_false, or_assoc] at hk
        rcases hk with rfl | rfl | rfl | rfl | hplain
        · exact demands_additionalProperties hpatterns (hschema _ w hm (by decide)) v
        · exact demands_anyOf_eq_asserts _ es (fun ss hss => hlist _ ss (hss ▸ hm) (by decide)) v
        · exact demands_items _ es (hschema _ w hm (by decide)) (fun ss hss => hlist _ ss (hss ▸ hm) (by decide)) v
        · exact demands_properties _ es (fun fs hfs => hmap _ fs (hfs ▸ hm) (by decide)) v
        · have hnoSchema : k ∉ ["properties", "additionalProperties", "items", "anyOf"] := fun hk =>
            (by decide : ∀ l ∈ ["properties", "additionalProperties", "items", "anyOf"], l ∉ plainKeywords) k hk hplain
          rw [demands_eq_holds hplain, written_reading, asserts_eq_holds hnoSchema]
      · rw [demands_of_not_mem hasserts, asserts_of_not_mem hasserts]
    rw [admits_obj href, accepts_obj, Bool.eq_iff_iff, List.all_eq_true, List.all_eq_true]
    exact forall₂_congr fun e he => by rw [hsame e.1 e.2 he]

/-! ## Nodes -/

/-- A keyword that may stand in such a schema, and the schemas in its value are such schemas. -/
structure EmittedAt (k : String) (w : Json) : Prop where
  known : k ∈ assertingKeywords → k ∈ emittedKeywords
  schema : k ∈ schemaKeywords → Emitted w
  list : k ∈ listKeywords → ∀ ss, w = .arr ss → ∀ s ∈ ss, Emitted s
  map : k ∈ mapKeywords → ∀ fs, w = .obj fs → ∀ f ∈ fs, Emitted f.2

theorem emitted_toJson_iff (n : Node) : Emitted n.toJson ↔ ∀ k w, n.get? k = some w → EmittedAt k w := by
  constructor
  · intro h k w hk
    have hm : (k, w) ∈ n.keywords.entries := Entries.mem_of_get? hk
    cases h with
    | plain h => exact absurd rfl (h n.keywords.entries)
    | obj here hschema hlist hmap =>
      exact ⟨here k w hm, hschema k w hm, fun hk ss hss => hlist k ss (hss ▸ hm) hk,
        fun hk fs hfs => hmap k fs (hfs ▸ hm) hk⟩
  · intro h
    have hat : ∀ k w, (k, w) ∈ n.keywords.entries → EmittedAt k w := fun k w hm =>
      h k w ((n.keywords.ordered.get?_eq_some_iff).2 hm)
    exact .obj (fun k w hm => (hat k w hm).known) (fun k w hm => (hat k w hm).schema)
      (fun k ss hm hk => (hat k _ hm).list hk ss rfl) fun k fs hm hk => (hat k _ hm).map hk fs rfl

theorem emitted_set {n : Node} {k : String} {w : Json} (hn : Emitted n.toJson) (hw : EmittedAt k w) :
    Emitted (n.set k w).toJson := by
  rw [emitted_toJson_iff] at hn ⊢
  intro l u hu
  rw [Node.get?_set] at hu
  split at hu
  · next hl =>
    cases hu
    rwa [← hl]
  · exact hn l u hu

theorem emittedAt_plain {k : String} (hk : k ∉ schemaKeywords ∧ k ∉ listKeywords ∧ k ∉ mapKeywords)
    (hknown : k ∈ assertingKeywords → k ∈ emittedKeywords) (w : Json) : EmittedAt k w where
  known := hknown
  schema h := absurd h hk.1
  list h := absurd h hk.2.1
  map h := absurd h hk.2.2

theorem emittedAt_additionalProperties {w : Json} (h : Emitted w) : EmittedAt "additionalProperties" w where
  known _ := by decide
  schema _ := h
  list hk := absurd hk (by decide)
  map hk := absurd hk (by decide)

theorem emittedAt_items {n : Node} (h : Emitted n.toJson) : EmittedAt "items" n.toJson where
  known _ := by decide
  schema _ := h
  list _ ss hss := by cases hss
  map hk := absurd hk (by decide)

theorem emittedAt_positions {ss : List Json} (h : ∀ s ∈ ss, Emitted s) : EmittedAt "items" (.arr ss) where
  known _ := by decide
  schema _ := .plain (by rintro es ⟨⟩)
  list _ ss hss := by
    cases hss
    exact h
  map hk := absurd hk (by decide)

theorem emittedAt_anyOf {ss : List Json} (h : ∀ s ∈ ss, Emitted s) : EmittedAt "anyOf" (.arr ss) where
  known _ := by decide
  schema hk := absurd hk (by decide)
  list _ ss hss := by
    cases hss
    exact h
  map hk := absurd hk (by decide)

theorem emittedAt_properties {fs : Entries Json} (h : ∀ f ∈ fs, Emitted f.2) : EmittedAt "properties" (.obj fs) where
  known _ := by decide
  schema hk := absurd hk (by decide)
  list hk := absurd hk (by decide)
  map _ fs hfs := by
    cases hfs
    exact h

theorem emitted_empty : Emitted Node.empty.toJson := by
  apply (emitted_toJson_iff _).2
  intro k w hk
  rw [Node.get?_empty] at hk
  cases hk

theorem emitted_typed (t : String) : Emitted (Node.typed t).toJson :=
  emitted_set emitted_empty (emittedAt_plain (by decide) (by decide) _)

end Schema

/-! ## Wrappers -/

namespace Node

theorem emitted_titled {n : Node} (h : Schema.Emitted n.toJson) : Schema.Emitted n.titled.toJson := by
  unfold titled
  split
  · exact Schema.emitted_set h (Schema.emittedAt_plain (by decide) (by decide) _)
  · exact h

theorem emitted_strip_wrap {n : Node} (h : Schema.Emitted n.toJson) (name : String) :
    Schema.Emitted (n.wrap name).strip.toJson := by
  apply (Schema.emitted_toJson_iff _).2
  intro k w hk
  cases hadmits : n.admitsNull with
  | true =>
    rw [wrap_of_admitsNull hadmits, get?_strip] at hk
    split at hk
    · cases hk
    · exact (Schema.emitted_toJson_iff n).1 h k w hk
  | false =>
    rw [get?_strip_wrap hadmits] at hk
    split at hk
    · next hanyOf =>
      cases hk
      rw [hanyOf]
      have htitle : Schema.EmittedAt "title" (.str "null") := Schema.emittedAt_plain (by decide) (by decide) _
      have hnull : Schema.Emitted nullBranch := Schema.emitted_set (Schema.emitted_typed "null") htitle
      apply Schema.emittedAt_anyOf
      rw [List.forall_mem_cons, List.forall_mem_singleton]
      exact ⟨hnull, emitted_titled h⟩
    · split at hk
      · next htitle =>
        rw [htitle]
        exact Schema.emittedAt_plain (by decide) (by decide) w
      · cases hk

end Node

/-! ## Types -/

namespace Constraint

open Schema

variable {options : Options}

theorem emitted_primitive (k : Primitive) (position : Position) : Emitted (primitiveNode k position).toJson := by
  unfold primitiveNode
  split
  · exact emitted_typed _
  · exact emitted_empty
  · apply emitted_set emitted_empty
    apply emittedAt_anyOf
    intro s hs
    obtain ⟨t, -, rfl⟩ := List.mem_map.1 hs
    exact emitted_set (emitted_typed t) (emittedAt_plain (by decide) (by decide) _)

mutual
/-- The schema of a type has only keywords that `accepts` knows. -/
theorem emitted_of_toNode : ∀ {t : Constraint} {position : Position} {n : Node},
    toNode options position t = .ok n → Emitted n.toJson
  | .primitive k, position, _, h => by
    cases h
    exact emitted_primitive k position
  | .list t, _, _, h => by
    obtain ⟨m, hm, rfl⟩ := Except.map_eq_ok.1 h
    exact emitted_set (emitted_typed _) (emittedAt_items (emitted_of_toNode (within_eq_ok.1 hm)))
  | .set t, _, _, h => by
    obtain ⟨m, hm, rfl⟩ := Except.map_eq_ok.1 h
    have hunique : EmittedAt "uniqueItems" (.bool true) := emittedAt_plain (by decide) (by decide) _
    exact emitted_set (emitted_set (emitted_typed _) hunique) (emittedAt_items (emitted_of_toNode (within_eq_ok.1 hm)))
  | .map t, _, _, h => by
    obtain ⟨m, hm, rfl⟩ := Except.map_eq_ok.1 h
    exact emitted_set (emitted_typed _) (emittedAt_additionalProperties (emitted_of_toNode (within_eq_ok.1 hm)))
  | .tuple ts, _, _, h => by
    obtain ⟨ss, hss, rfl⟩ := Except.map_eq_ok.1 h
    have hitems := emitted_set (emitted_typed "array") (emittedAt_positions (emitted_of_itemNodes hss))
    have hmin := emitted_set hitems (emittedAt_plain (k := "minItems") (by decide) (by decide) (.int ss.length))
    exact emitted_set hmin (emittedAt_plain (by decide) (by decide) _)
  | .object fields optional, _, _, h => by
    rw [toNode] at h
    split at h
    · cases h
    · obtain ⟨properties, hproperties, rfl⟩ := Except.map_eq_ok.1 h
      have hadditional : EmittedAt "additionalProperties" (.bool options.allowAdditionalProperties) :=
        emittedAt_additionalProperties (.plain (by rintro es ⟨⟩))
      have hproperties := emittedAt_properties (emitted_of_fieldNodes hproperties)
      have hrequired := fun w => emittedAt_plain (k := "required") (by decide) (by decide) w
      exact emitted_set (emitted_set (emitted_set (emitted_typed _) hadditional) hproperties) (hrequired _)
termination_by structural t => t

theorem emitted_of_fieldNodes : ∀ {fields : List (String × Constraint)} {properties : Entries Json},
    fieldNodes options fields = .ok properties → ∀ f ∈ properties, Emitted f.2
  | [], _, h => by
    cases h
    exact List.forall_mem_nil _
  | (k, t) :: rest, _, h => by
    obtain ⟨n, others, hn, hothers, rfl⟩ := fieldNodes_cons_eq_ok.1 h
    exact List.forall_mem_cons.2 ⟨emitted_of_toNode hn, emitted_of_fieldNodes hothers⟩
termination_by structural fields => fields

theorem emitted_of_itemNodes : ∀ {ts : List Constraint} {i : Nat} {ss : List Json},
    itemNodes options i ts = .ok ss → ∀ s ∈ ss, Emitted s
  | [], _, _, h => by
    cases h
    exact List.forall_mem_nil _
  | t :: rest, _, _, h => by
    obtain ⟨n, others, hn, hothers, rfl⟩ := itemNodes_cons_eq_ok.1 h
    exact List.forall_mem_cons.2 ⟨emitted_of_toNode hn, emitted_of_itemNodes hothers⟩
termination_by structural ts => ts
end

/-- The schema of a variable's type accepts the same in the whole schema language. -/
theorem translate_admits_eq_accepts {t : Constraint} {name : String} {nullable : Bool} {n : Node}
    (h : t.translate name nullable options = .ok n) (d : Dialect) (refers : Json → Json → Bool) :
    admits d refers (if nullable then n.strip else n).toJson =
      accepts (if nullable then n.strip else n).toJson := by
  apply admits_eq_accepts
  obtain ⟨m, hm, rfl⟩ := translate_eq_ok_iff.1 h
  cases nullable with
  | false => exact emitted_of_toNode hm
  | true => exact Node.emitted_strip_wrap (emitted_of_toNode hm) name

end Constraint

end VarSchema
