import VarSchema.Proofs.Schema.Keywords
import VarSchema.Schema.Vocabulary

/-!
# Schemas of any keywords, keyword by keyword

* `Schema.toPart_reading`, `Schema.items_reading`, `Schema.fields_reading` : a reading by its parts;
* `Schema.admits_obj` : a schema without reference accepts what all its keywords demand;
* `Schema.Agree`, `Schema.demands_congr` : of two readings of one value that agree where it looks, a keyword demands the
  same;
  `Schema.contextKeywords` : the siblings that keywords look at;
* `Schema.demands_of_not_mem`, `Schema.admits_set_of_not_mem` : keywords that only describe;
* `Schema.admits_congr` : what references say is nothing to a schema without references.
-/

namespace VarSchema

namespace Schema

open Assertion

variable {d : Dialect} {refers refers' : Json → Json → Bool}

/-! ## Readings by their parts -/

theorem written_reading (d : Dialect) (refers : Json → Json → Bool) (s : Json) : (reading d refers s).written = s := by
  cases s <;> rfl

theorem toPart_reading (d : Dialect) (refers : Json → Json → Bool) (s : Json) :
    (reading d refers s).toPart = ⟨s, admits d refers s⟩ := by
  cases s <;> rfl

theorem readItems_eq_map (d : Dialect) (refers : Json → Json → Bool) :
    ∀ ss : List Json, readItems d refers ss = ss.map fun s => ⟨s, admits d refers s⟩
  | [] => rfl
  | s :: ss => by rw [readItems, readItems_eq_map d refers ss, toPart_reading, List.map_cons]

theorem readFields_eq_map (d : Dialect) (refers : Json → Json → Bool) :
    ∀ es : Entries Json, readFields d refers es = es.map fun e => (e.1, reading d refers e.2)
  | [] => rfl
  | (k, s) :: rest => by rw [readFields, readFields_eq_map d refers rest, List.map_cons]

theorem items_reading (d : Dialect) (refers : Json → Json → Bool) (ss : List Json) :
    (reading d refers (.arr ss)).items = ss.map fun s => ⟨s, admits d refers s⟩ := readItems_eq_map d refers ss

theorem fields_reading (d : Dialect) (refers : Json → Json → Bool) (es : Entries Json) :
    (reading d refers (.obj es)).fields = es.map fun e => (e.1, ⟨e.2, admits d refers e.2⟩) := by
  show (readFields d refers es).map _ = _
  rw [readFields_eq_map, List.map_map]
  refine List.map_congr_left fun e _ => ?_
  show (e.1, (reading d refers e.2).toPart) = _
  rw [toPart_reading]

theorem get?_readFields (d : Dialect) (refers : Json → Json → Bool) (k : String) (es : Entries Json) :
    Entries.get? k (readFields d refers es) = (Entries.get? k es).map (reading d refers) := by
  induction es with
  | nil => rfl
  | cons e es ih =>
    rw [readFields, Entries.get?_cons, Entries.get?_cons, ih]
    split <;> rfl

/-- A schema without reference accepts what all its keywords demand. -/
theorem admits_obj {es : Entries Json} (h : Entries.get? "$ref" es = none) (d : Dialect)
    (refers : Json → Json → Bool) (v : Json) :
    admits d refers (.obj es) v =
      es.all fun e => demands d (fun k => (Entries.get? k es).map (reading d refers)) e.1 (reading d refers e.2) v := by
  show meets d refers (readFields d refers es) v = _
  rw [meets, get?_readFields, h]
  show (readFields d refers es).all _ = _
  simp only [get?_readFields]
  rw [readFields_eq_map, List.all_map]
  rfl

theorem admits_toJson_iff {n : Node} (h : n.get? "$ref" = none) (d : Dialect) (refers : Json → Json → Bool)
    (v : Json) :
    admits d refers n.toJson v = true ↔ ∀ k w, n.get? k = some w →
      demands d (fun l => (n.get? l).map (reading d refers)) k (reading d refers w) v = true := by
  rw [Node.toJson, admits_obj h, List.all_eq_true]
  constructor
  · intro hall k w hk
    exact hall (k, w) (Entries.mem_of_get? hk)
  · rintro hall ⟨k, w⟩ hm
    exact hall k w ((n.keywords.ordered.get?_eq_some_iff).2 hm)

theorem demands_anyOf (d : Dialect) (refers : Json → Json → Bool) (sibling : String → Option Reading) (ss : List Json)
    (v : Json) :
    demands d sibling "anyOf" (reading d refers (.arr ss)) v = ss.any fun s => admits d refers s v := by
  show (reading d refers (.arr ss)).items.any _ = _
  rw [items_reading, List.any_map]
  rfl

/-! ## What a keyword looks at -/

/-- Readings of one value that agree where the keyword `k` looks. -/
structure Agree (k : String) (r r' : Reading) : Prop where
  written : r.written = r'.written
  accepts : k ∈ schemaKeywords → r.accepts = r'.accepts
  items : k ∈ listKeywords → r.items = r'.items
  fields : k ∈ mapKeywords → r.fields = r'.fields

theorem Agree.refl (k : String) (r : Reading) : Agree k r r := ⟨rfl, fun _ => rfl, fun _ => rfl, fun _ => rfl⟩

/-- The keywords that their siblings look at. -/
def contextKeywords : List String := ["contentEncoding", "else", "items", "patternProperties", "properties", "then"]

/-- Siblings that agree where keywords look at them. -/
def SiblingsAgree (sibling sibling' : String → Option Reading) : Prop :=
  ∀ k ∈ contextKeywords, Option.Rel (Agree k) (sibling k) (sibling' k)

variable {sibling sibling' : String → Option Reading}

theorem SiblingsAgree.apply_eq {β : Type} (h : SiblingsAgree sibling sibling') {k : String}
    (hk : k ∈ contextKeywords) (f : Option Reading → β) (hf : ∀ r r', Agree k r r' → f (some r) = f (some r')) :
    f (sibling k) = f (sibling' k) := by
  have hrel := h k hk
  generalize sibling k = x at hrel ⊢
  generalize sibling' k = y at hrel ⊢
  cases hrel with
  | none => rfl
  | some hr => exact hf _ _ hr

theorem SiblingsAgree.of_values {g g' : String → Option Json} {f f' : Json → Reading}
    (hg : ∀ k ∈ contextKeywords, g k = g' k) (hf : ∀ k w, g k = some w → Agree k (f w) (f' w)) :
    SiblingsAgree (fun k => (g k).map f) fun k => (g' k).map f' := by
  intro k hk
  show Option.Rel (Agree k) ((g k).map f) ((g' k).map f')
  rw [← hg k hk]
  cases hw : g k with
  | none => exact .none
  | some w => exact .some (hf k w hw)

theorem isDeclared_congr (h : SiblingsAgree sibling sibling') (key : String) :
    isDeclared sibling key = isDeclared sibling' key := by
  have hproperties := h.apply_eq (k := "properties") (by decide)
    (fun o => o.any fun r => (Entries.keys r.fields).contains key)
    fun r r' hr => by simp only [Option.any_some, hr.fields (by decide)]
  have hpatterns := h.apply_eq (k := "patternProperties") (by decide)
    (fun o => o.any fun r => (Entries.keys r.fields).any fun p => matchesPattern (.str p) (.str key))
    fun r r' hr => by simp only [Option.any_some, hr.fields (by decide)]
  unfold isDeclared
  rw [hproperties, hpatterns]

theorem positions?_congr (h : SiblingsAgree sibling sibling') : positions? sibling = positions? sibling' :=
  h.apply_eq (k := "items") (by decide) (fun o => o.bind _) fun r r' hr => by
    simp only [Option.bind_some, hr.written]

/-- A keyword demands the same by two readings of its value that agree where it looks. -/
theorem demands_congr (h : SiblingsAgree sibling sibling') {k : String} {r r' : Reading} (hr : Agree k r r')
    (v : Json) : demands d sibling k r v = demands d sibling' k r' v := by
  unfold demands
  split
  case h_1 | h_2 | h_3 | h_4 => rw [hr.written]
  case h_5 =>
    have hencoding := h.apply_eq (k := "contentEncoding") (by decide)
      (fun o => o.bind fun e => e.written.text?) fun r r' hr => by simp only [Option.bind_some, hr.written]
    rw [hr.written, hencoding]
  case h_6 => rw [hr.written, hr.items (by decide), hr.accepts (by decide)]
  case h_7 => rw [positions?_congr h, hr.accepts (by decide)]
  case h_8 | h_12 | h_17 => rw [hr.accepts (by decide)]
  case h_9 | h_10 | h_13 => rw [hr.fields (by decide)]
  case h_11 => simp only [isDeclared_congr h, hr.accepts (by decide)]
  case h_14 => rw [hr.items (by decide)]
  case h_15 | h_16 => rw [hr.written, hr.items (by decide)]
  case h_18 =>
    rw [hr.accepts (by decide)]
    cases r'.accepts v with
    | true =>
      exact h.apply_eq (k := "then") (by decide) (fun o => o.all fun s => s.accepts v) fun r r' hr => by
        simp only [Option.all_some, hr.accepts (by decide)]
    | false =>
      exact h.apply_eq (k := "else") (by decide) (fun o => o.all fun s => s.accepts v) fun r r' hr => by
        simp only [Option.all_some, hr.accepts (by decide)]
  case h_19 => rw [hr.written]

/-! ## Keywords that only describe -/

theorem demands_of_not_mem {k : String} (h : k ∉ assertingKeywords) (sibling : String → Option Reading) (r : Reading)
    (v : Json) : demands d sibling k r v = true := by
  unfold demands
  split
  case h_19 =>
    have hplain : k ∉ ["properties", "additionalProperties", "items", "anyOf"] := fun hk =>
      h ((by decide : ∀ l ∈ ["properties", "additionalProperties", "items", "anyOf"], l ∈ assertingKeywords) k hk)
    rw [← asserts_eq_holds hplain [], asserts_of_not_mem h]
  all_goals exact absurd (by decide) h

theorem mem_assertingKeywords_of_context : ∀ k ∈ contextKeywords, k ∈ assertingKeywords := by decide

/-- Setting a keyword that only describes changes nothing. -/
theorem admits_set_of_not_mem {k : String} (hk : k ∉ assertingKeywords) {n : Node} (hn : n.get? "$ref" = none)
    (u v : Json) : admits d refers (n.set k u).toJson v = admits d refers n.toJson v := by
  have hother : ∀ l ∈ assertingKeywords, (n.set k u).get? l = n.get? l := by
    intro l hl
    apply Node.get?_set_of_ne
    rintro rfl
    exact hk hl
  have hsiblings : SiblingsAgree (fun l => ((n.set k u).get? l).map (reading d refers))
      fun l => (n.get? l).map (reading d refers) :=
    .of_values (fun l hl => hother l (mem_assertingKeywords_of_context l hl)) fun l w _ => Agree.refl l _
  have href : (n.set k u).get? "$ref" = none := (hother "$ref" (by decide)).trans hn
  rw [Bool.eq_iff_iff, admits_toJson_iff href, admits_toJson_iff hn]
  refine forall_congr' fun l => ?_
  by_cases hl : l ∈ assertingKeywords
  · rw [hother l hl]
    simp only [demands_congr hsiblings (Agree.refl l _)]
  · simp only [demands_of_not_mem hl, implies_true]

/-! ## References -/

/-- What references say is nothing to a schema without references. -/
theorem admits_congr {s : Json} (h : ReferenceFree s) : admits d refers s = admits d refers' s := by
  induction h with
  | @plain s h =>
    cases s with
    | obj es => exact absurd rfl (h es)
    | _ => rfl
  | @obj es here _ _ _ hschema hlist hmap =>
    have href : Entries.get? "$ref" es = none := here
    have hagree : ∀ k w, (k, w) ∈ es → Agree k (reading d refers w) (reading d refers' w) := by
      intro k w hm
      refine ⟨?_, fun hk => hschema k w hm hk, fun hk => ?_, fun hk => ?_⟩
      · rw [written_reading, written_reading]
      · cases w with
        | arr ss =>
          rw [items_reading, items_reading]
          exact List.map_congr_left fun s hs => by rw [hlist k ss hm hk s hs]
        | _ => rfl
      · cases w with
        | obj fs =>
          rw [fields_reading, fields_reading]
          exact List.map_congr_left fun f hf => by rw [hmap k fs hm hk f hf]
        | _ => rfl
    have hsiblings : SiblingsAgree (fun k => (Entries.get? k es).map (reading d refers))
        fun k => (Entries.get? k es).map (reading d refers') :=
      .of_values (fun _ _ => rfl) fun k w hk => hagree k w (Entries.mem_of_get? hk)
    funext v
    rw [admits_obj href, admits_obj href, Bool.eq_iff_iff, List.all_eq_true, List.all_eq_true]
    exact forall₂_congr fun e he => by rw [demands_congr hsiblings (hagree e.1 e.2 he)]

end Schema

end VarSchema
