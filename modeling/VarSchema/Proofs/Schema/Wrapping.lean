import VarSchema.Proofs.Schema.Agreement

/-!
# Wrapping once, and what it adds

* `Node.isWrapped_strip`, `Node.admitsNull_wrap`, `Node.admitsNull_strip` : a node that admits null still does so
  afterwards, and a wrapper always does;
* `Node.wrap_wrap`, `Node.wrap_strip_wrap`, `Node.strip_strip` : wrapping and stripping a second time change nothing;
* `Node.admits_of_annotations` : a node that only describes accepts everything;
* `Node.demands_branches`, `Node.admits_strip_wrap` : without the inner type, a wrapper accepts null and what the inner
  node accepts, whatever keywords that has;
* `Node.wrap_once_adds_null` : the laws of wrapping together, in the whole schema language; on the schemas of types this
  is what `Schema.accepts` says.
-/

namespace VarSchema

namespace Node

/-! ## Wrapping and stripping again -/

theorem isWrapped_strip (n : Node) : n.strip.isWrapped = n.isWrapped := by
  unfold isWrapped
  rw [get?_strip, if_neg fun h => absurd h.2 (by decide)]

theorem admitsNull_of_isWrapped {n : Node} (h : n.isWrapped = true) : n.admitsNull = true := by
  unfold admitsNull
  rw [h, Bool.true_or, Bool.true_or]

theorem admitsNull_wrap (name : String) (n : Node) : (wrap name n).admitsNull = true := by
  cases h : n.admitsNull with
  | true => rw [wrap_of_admitsNull h, h]
  | false => exact admitsNull_of_isWrapped (isWrapped_wrap h name)

theorem admitsNull_strip {n : Node} (h : n.admitsNull = true) : n.strip.admitsNull = true := by
  cases hw : n.isWrapped with
  | true => exact admitsNull_of_isWrapped (by rw [isWrapped_strip, hw])
  | false => rw [strip_of_not_isWrapped hw, h]

theorem wrap_wrap (a b : String) (n : Node) : wrap b (wrap a n) = wrap a n :=
  wrap_of_admitsNull (admitsNull_wrap a n) b

theorem wrap_strip_wrap (a b : String) (n : Node) : wrap b (wrap a n).strip = (wrap a n).strip :=
  wrap_of_admitsNull (admitsNull_strip (admitsNull_wrap a n)) b

theorem strip_strip (n : Node) : n.strip.strip = n.strip := by
  apply ext_get?
  intro k
  rw [get?_strip n.strip, isWrapped_strip, get?_strip]
  split <;> rfl

/-! ## Acceptance -/

variable {d : Dialect} {refers refers' : Json → Json → Bool}

theorem not_mem_assertingKeywords_of_annotation : ∀ k ∈ annotations, k ∉ Schema.assertingKeywords := by decide

/-- A node that only describes accepts everything. -/
theorem admits_of_annotations {n : Node} (h : n.names.all annotations.contains = true) (v : Json) :
    Schema.admits d refers n.toJson v = true := by
  have hother : ∀ k w, n.get? k = some w → k ∉ Schema.assertingKeywords := by
    intro k w hk
    have hname : k ∈ n.names := mem_names_iff.2 (by rw [hk]; rfl)
    have hdescribes := List.all_eq_true.1 h k hname
    exact not_mem_assertingKeywords_of_annotation k (List.contains_iff_mem.1 hdescribes)
  have href : n.get? "$ref" = none := by
    cases hk : n.get? "$ref" with
    | none => rfl
    | some w => exact absurd (by decide) (hother _ w hk)
  apply (Schema.admits_toJson_iff href d refers v).2
  intro k w hk
  exact Schema.demands_of_not_mem (hother k w hk) _ _ v

theorem admits_titled {n : Node} (h : n.get? "$ref" = none) (v : Json) :
    Schema.admits d refers n.titled.toJson v = Schema.admits d refers n.toJson v := by
  unfold titled
  split
  · exact Schema.admits_set_of_not_mem (by decide) h _ v
  · rfl

theorem admits_nullBranch (v : Json) : Schema.admits d refers nullBranch v = true ↔ v = .null := by
  have htype : Schema.admits d refers nullBranch v = Assertion.hasType "null" v := by
    unfold nullBranch
    rw [Schema.admits_obj rfl]
    simp [Schema.demands, Assertion.holds, Schema.written_reading, Assertion.typeNames]
  rw [htype]
  cases v <;> simp [Assertion.hasType]

/-- The branches of a wrapper accept null and what the inner node accepts. -/
theorem demands_branches {inner : Node} (h : inner.get? "$ref" = none) (sibling : String → Option Schema.Reading)
    (v : Json) :
    Schema.demands d sibling "anyOf" (Schema.reading d refers (.arr [nullBranch, inner.titled.toJson])) v = true ↔
      v = .null ∨ Schema.admits d refers inner.toJson v = true := by
  rw [Schema.demands_anyOf, List.any_cons, List.any_cons, List.any_nil, Bool.or_false, Bool.or_eq_true,
    admits_nullBranch, admits_titled h]

/-- Without the inner type, a wrapper accepts null and what the inner node accepts. -/
theorem admits_strip_wrap {inner : Node} (h : inner.admitsNull = false) (href : inner.get? "$ref" = none)
    (name : String) (v : Json) :
    Schema.admits d refers (wrap name inner).strip.toJson v = true ↔
      v = .null ∨ Schema.admits d refers inner.toJson v = true := by
  have hwrapper : (wrap name inner).strip.get? "$ref" = none := by
    rw [get?_strip_wrap h, if_neg (by decide), if_neg (by decide)]
  rw [Schema.admits_toJson_iff hwrapper]
  constructor
  · intro hall
    exact (demands_branches href _ v).1 (hall "anyOf" _ (by rw [get?_strip_wrap h, if_pos rfl]))
  · intro hv k w hk
    rw [get?_strip_wrap h] at hk
    split at hk
    · next hanyOf =>
      cases hk
      rw [hanyOf]
      exact (demands_branches href _ v).2 hv
    · split at hk
      · next htitle =>
        rw [htitle]
        exact Schema.demands_of_not_mem (by decide) _ _ v
      · cases hk

theorem get?_ref_of_referenceFree {n : Node} (h : Schema.ReferenceFree n.toJson) : n.get? "$ref" = none := by
  cases h with
  | plain h => exact absurd rfl (h n.keywords.entries)
  | obj href => exact href

/-- **Wrapping a second time changes nothing, before or after stripping, and neither does stripping a second time. A
node without references, without branches and of another type than null is wrapped so that the stripped wrapper
accepts null and what the node accepts. No other keyword of the node matters, and neither does the meaning of
references, formats, encodings and media types. And the schema of a type, stripped if it is wrapped, accepts in the
whole schema language what it accepts by the keywords that are generated.** -/
theorem wrap_once_adds_null :
    (∀ (n : Node) (a b : String),
      wrap b (wrap a n) = wrap a n ∧ wrap b (wrap a n).strip = (wrap a n).strip ∧ n.strip.strip = n.strip) ∧
    (∀ (n : Node) (a : String),
      Schema.ReferenceFree n.toJson → n.get? "anyOf" = none → n.typeName? ≠ some "null" →
        ∀ (d : Dialect) (refers refers' : Json → Json → Bool) (v : Json),
          Schema.admits d refers (wrap a n).strip.toJson v = true ↔
            v = .null ∨ Schema.admits d refers' n.toJson v = true) ∧
    ∀ (t : Constraint) (name : String) (nullable : Bool) (options : Options) (n : Node),
      t.translate name nullable options = .ok n → ∀ (d : Dialect) (refers : Json → Json → Bool),
        Schema.admits d refers (if nullable then n.strip else n).toJson =
          Schema.accepts (if nullable then n.strip else n).toJson := by
  refine ⟨fun n a b => ⟨wrap_wrap a b n, wrap_strip_wrap a b n, strip_strip n⟩, ?_,
    fun t name nullable options n h d refers => Constraint.translate_admits_eq_accepts h d refers⟩
  intro n a hfree hanyOf htype d refers refers' v
  have hsame : Schema.admits d refers' n.toJson = Schema.admits d refers n.toJson := Schema.admits_congr hfree
  rw [hsame]
  have hwrapped : n.isWrapped = false := by
    unfold isWrapped
    rw [hanyOf]
  cases h : n.admitsNull with
  | false => exact admits_strip_wrap h (get?_ref_of_referenceFree hfree) a v
  | true =>
    -- nothing else is left that could admit null
    have hdescribes : n.names.all annotations.contains = true := by
      unfold admitsNull at h
      rw [hwrapped, Bool.false_or, Bool.or_eq_true] at h
      exact h.resolve_left fun hnull => htype (eq_of_beq hnull)
    rw [wrap_of_admitsNull h, strip_of_not_isWrapped hwrapped]
    exact iff_of_true (admits_of_annotations hdescribes v) (.inr (admits_of_annotations hdescribes v))

/-- A text or a whole number, but not `a`; and a nullable list of texts. -/
theorem wrap_once_adds_null_not :
    let n := (((Node.empty.set "not" (.obj [("enum", .arr [.str "a"])])).set "title" (.str "Port")).set "type"
      (.arr [.str "string", .str "integer"]))
    let d : Dialect := ⟨fun _ _ => true, fun _ _ => true, fun _ _ _ => true⟩
    let accepts := Schema.admits d (fun _ _ => false) (wrap "port" n).strip.toJson
    accepts .null = true ∧ accepts (.str "b") = true ∧ accepts (.str "a") = false ∧
      ∃ m, (Constraint.list (.primitive .string)).translate "ports" true Options.standard = .ok m ∧
        Schema.admits d (fun _ _ => false) m.strip.toJson (.arr [.str "b"]) = true ∧
        Schema.admits d (fun _ _ => false) m.strip.toJson (.arr [.null]) = false := by
  intro n d accepts
  have hentries : n.keywords.entries = [("not", .obj [("enum", .arr [.str "a"])]), ("title", .str "Port"),
      ("type", .arr [.str "string", .str "integer"])] := by decide
  have hfree : Schema.ReferenceFree n.toJson := by
    unfold Node.toJson
    rw [hentries]
    refine .obj rfl ?_ ?_ ?_
    · intro k w hm _
      simp only [List.mem_cons, List.not_mem_nil, or_false, Prod.mk.injEq] at hm
      obtain ⟨-, rfl⟩ | ⟨-, rfl⟩ | ⟨-, rfl⟩ := hm
      · refine .obj rfl ?_ ?_ ?_ <;> simp [Schema.schemaKeywords, Schema.listKeywords, Schema.mapKeywords]
      · exact .plain (by rintro es ⟨⟩)
      · exact .plain (by rintro es ⟨⟩)
    · simp [Schema.listKeywords]
    · simp [Schema.mapKeywords]
  have haccepts : ∀ v, accepts v = true ↔ v = .null ∨ Schema.admits d (fun _ _ => true) n.toJson v = true :=
    wrap_once_adds_null.2.1 n "port" hfree rfl (by decide) d _ _
  have hagrees := wrap_once_adds_null.2.2 (.list (.primitive .string)) "ports" true Options.standard _ rfl d
    fun _ _ => false
  rw [if_pos rfl] at hagrees
  refine ⟨(haccepts _).2 (.inl rfl), (haccepts _).2 (.inr rfl), ?_, _, rfl, ?_, ?_⟩
  · rw [Bool.eq_false_iff, ne_eq, haccepts]
    decide
  · rw [hagrees]
    decide
  · rw [hagrees]
    decide

end Node

end VarSchema
