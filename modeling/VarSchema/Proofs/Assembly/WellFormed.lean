import VarSchema.Proofs.Assembly.Acceptance
import VarSchema.Proofs.Rule.Form

/-!
# Which roots are well-formed

* `Variable.isSubschema_finish` : the default, the conditions and the description keep the form of a schema;
* `Variable.isSubschema_typeNode` : so it is one if and only if every tuple inside the type has elements;
* `Assembly.isWellFormed_root` : the generated root keywords have their form;
* `Assembly.run_isWellFormed_iff` : a root is well-formed if and only if no emitted variable's type has a tuple without
  elements inside; `Assembly.run_isWellFormed_tuple`, `Assembly.run_not_isWellFormed` : with one and without.
-/

namespace VarSchema

namespace Variable

variable {options : Options} {v : Variable} {t : Constraint} {n : Node}

/-! ## Types -/

theorem isSubschema_typeNode (hn : t.toNode options .top = .ok n) (ht : t.Ordered) :
    Schema.isSubschema (v.typeNode options (v.baseNode options n)).toJson = t.hasNoEmptyTuple := by
  have hbase := Constraint.isBase_of_toNode hn
  rw [← Constraint.isSubschema_of_toNode hn ht, typeNode, baseNode]
  cases v.isNullable options.nullableDefault with
  | false => rfl
  | true =>
    rw [if_pos rfl, if_pos rfl]
    cases hadmits : n.admitsNull with
    | true =>
      rw [Node.wrap_of_admitsNull hadmits, Node.strip_of_not_isWrapped hbase.isWrapped]
    | false =>
      exact Node.isSubschema_strip_wrap hadmits (hbase.known _ (by decide) (by decide))
        (hbase.known _ (by decide) (by decide)) v.name

/-! ## Variables -/

/-- What a type has at the keywords that conditions can set has its form. -/
theorem formedAt_baseNode (hn : t.toNode options .top = .ok n) {k : String} (hk : k ∉ Condition.untouched) :
    Schema.FormedAt (v.baseNode options n) k := by
  have hself : Schema.FormedAt n k := by
    intro w hw
    by_cases hcount : k ∈ Side.countKeywords
    · obtain ⟨ts, rfl, rfl⟩ := Constraint.eq_length_of_toNode hn hcount hw
      exact Schema.isFormed_bound (Side.isSome_ofKeyword?_of_count k hcount) ts.length
    · rw [get?_eq_none_of_toNode hn hk hcount] at hw
      cases hw
  rcases baseNode_cases options v n with hplain | ⟨hadmits, hwrap⟩
  · rwa [hplain]
  · rw [hwrap]
    exact Schema.formedAt_of_none (Node.get?_wrap_of_not_mem_untouched hadmits v.name hk)

theorem formedAt_description (hn : t.toNode options .top = .ok n) :
    Schema.FormedAt (v.finish options (v.baseNode options n)) "description" := by
  have hfinish : (v.finish options (v.baseNode options n)).get? "description" =
      (setIf "description" (v.description.map .str) (v.applied (v.baseNode options n)).1).get? "description" := by
    unfold finish
    dsimp only
    split
    · rw [Node.get?_strip, if_neg fun h => absurd h.2 (by decide)]
    · rfl
  intro w hw
  rw [hfinish] at hw
  cases hdescription : v.description with
  | some s =>
    rw [hdescription, Option.map_some, setIf, Node.get?_set_self] at hw
    cases hw
    rfl
  | none =>
    -- then the keyword would come from the type
    rw [hdescription, Option.map_none, setIf, get?_applied rfl (fun _ _ => rfl) (by decide),
      get?_baseNode hn (by decide) (by decide)] at hw
    cases hw

/-- What the conditions leave has its form, at each keyword that they can set. -/
theorem formedAt_applied (hn : t.toNode options .top = .ok n) (hrange : ∀ c ∈ v.conditions, c.HasNumbersInRange)
    (hpattern : ∀ c ∈ v.conditions, c.HasKnownPattern) {k : String} (hk : k ∉ Condition.untouched) :
    Schema.FormedAt (v.applied (v.baseNode options n)).1 k := by
  intro w hw
  rcases exists_source_of_applyAll hw with hstart | ⟨c, hc, d, hd, hdw⟩
  · rw [get?_setIf (Condition.ne_of_not_mem_untouched hk (by decide)).symm] at hstart
    exact formedAt_baseNode hn hk w hstart
  · exact Condition.formedAt_of_toDelta hd (hrange c hc) (hpattern c hc) k w hdw

/-- The default, the conditions and the description keep the form of a schema. -/
theorem isSubschema_finish (hn : t.toNode options .top = .ok n)
    (hrange : ∀ c ∈ v.conditions, c.HasNumbersInRange) (hpattern : ∀ c ∈ v.conditions, c.HasKnownPattern) :
    Schema.isSubschema (v.finish options (v.baseNode options n)).toJson =
      Schema.isSubschema (v.typeNode options (v.baseNode options n)).toJson := by
  have hnone {k : String} (hk : k ∉ ["type", "anyOf", "title"]) (hshape : k ∉ Constraint.shapeKeywords)
      (htype : k ≠ "type") : (v.typeNode options (v.baseNode options n)).get? k = none := by
    rw [get?_typeNode htype, get?_baseNode hn hk hshape]
  have hschema : (v.finish options (v.baseNode options n)).get? "$schema" = none := by
    rw [get?_finish (by decide) (by decide), get?_applied rfl (fun _ _ => rfl) (by decide),
      get?_baseNode hn (by decide) (by decide)]
  refine Schema.isSubschema_congr hschema (fun k => ?_) (hnone (by decide) (by decide) (by decide))
  by_cases hk : k ∈ Condition.untouched
  · by_cases hdefault : k = "default"
    · subst hdefault
      exact .inr ⟨fun _ _ => rfl, fun _ _ => rfl⟩
    · by_cases hdescription : k = "description"
      · subst hdescription
        exact .inr ⟨formedAt_description hn, Schema.formedAt_of_none (hnone (by decide) (by decide) (by decide))⟩
      · exact .inl (get?_finish_of_untouched hk hdefault hdescription)
  · have htype : k ≠ "type" := Condition.ne_of_not_mem_untouched hk (by decide)
    refine .inr ⟨fun w hw => ?_, fun w hw => ?_⟩
    · rw [get?_finish htype (Condition.ne_of_not_mem_untouched hk (by decide))] at hw
      exact formedAt_applied hn hrange hpattern hk w hw
    · rw [get?_typeNode htype] at hw
      exact formedAt_baseNode hn hk w hw

end Variable

/-! ## The dialect -/

namespace UriReference

theorem holdsOnly_of_all {p q : Char → Bool} (hpq : ∀ c, q c = true → p c = true) : ∀ {cs : List Char},
    (cs.all fun c => c != '%' && q c) = true → holdsOnly p cs = true
  | [], _ => rfl
  | c :: rest, h => by
    rw [List.all_cons, Bool.and_eq_true, Bool.and_eq_true, bne_iff_ne] at h
    obtain ⟨⟨hne, hc⟩, hrest⟩ := h
    rw [holdsOnly, hpq c hc, holdsOnly_of_all hpq hrest]
    · rfl
    · rintro a b tail rfl
      exact absurd rfl hne

/-- Letters, digits and some marks that names of hosts or paths hold. -/
def isPlain (marks : List Char) (c : Char) : Bool := c.isAlphanum || marks.contains c

theorem isNameChar_of_isPlain (c : Char) (h : isPlain ['-', '.'] c = true) : isNameChar c = true := by
  rw [isPlain, Bool.or_eq_true, List.contains_iff_mem] at h
  rw [isNameChar, isUnreserved, String.contains_char_eq]
  rcases h with h | h
  · rw [h]
    rfl
  · have hmark : c ∈ "-._~".toList := by
      simp only [List.mem_cons, List.not_mem_nil, or_false] at h
      rcases h with rfl | rfl <;> decide
    simp only [hmark, decide_true, Bool.or_true, Bool.true_or]

theorem isPathChar_of_isPlain (c : Char) (h : isPlain ['-', '.', '/'] c = true) : isPathChar c = true := by
  by_cases hslash : c = '/'
  · rw [isPathChar, hslash]
    simp
  · have hname : isNameChar c = true := by
      refine isNameChar_of_isPlain c ?_
      simpa [isPlain, hslash] using h
    rw [isPathChar, hname]
    rfl

end UriReference

namespace Assembly

/-- The name of the dialect is a reference with a scheme. -/
theorem isReference_dialect : Schema.isReference UriReference.isAbsolute (.str dialect) = true := by
  have hsplit : UriReference.split dialect.toList =
      ⟨some "http".toList, some "json-schema.org".toList, "/draft-07/schema".toList, none, some []⟩ := rfl
  have hscheme : UriReference.isScheme "http".toList = true := by decide +kernel
  have hhost : UriReference.holdsOnly UriReference.isNameChar "json-schema.org".toList = true :=
    UriReference.holdsOnly_of_all UriReference.isNameChar_of_isPlain (by decide +kernel)
  have hpath : UriReference.holdsOnly UriReference.isPathChar "/draft-07/schema".toList = true :=
    UriReference.holdsOnly_of_all UriReference.isPathChar_of_isPlain (by decide +kernel)
  have hauthority : UriReference.isAuthority "json-schema.org".toList =
      (UriReference.holdsOnly UriReference.isNameChar "json-schema.org".toList && UriReference.isService []) := rfl
  have hvalid : (UriReference.split dialect.toList).isValid = true := by
    rw [hsplit, UriReference.isValid]
    simp only [Option.all_some, Option.all_none, hscheme, hauthority, hhost, hpath]
    rfl
  have hreference : UriReference.ofText? dialect = some (UriReference.split dialect.toList) := if_pos hvalid
  rw [Schema.isReference, Json.text?, Option.bind_some, hreference, hsplit]
  rfl

/-! ## The root -/

variable {options : Options}

/-- The generated root keywords have their form, so that the root has if the properties have. -/
theorem isWellFormed_root (h : options.rootProperties = KeyMap.empty) {p : Parts} (hdistinct : p.required.Nodup) :
    Schema.isWellFormed (root options p).toJson = p.properties.entries.all fun e => Schema.isSubschema e.2 := by
  have hextra : extraKeywords options = [] := by rw [extraKeywords, h]; rfl
  have hkeywords : (root options p).toJson = .obj [("$schema", .str dialect),
      ("additionalProperties", .bool options.allowAdditionalProperties), ("properties", .obj p.properties.entries),
      ("required", .arr (p.required.mergeSort.map .str)), ("type", .str "object")] := by
    rw [root, hextra]
    rfl
  have hnames : p.required.mergeSort.Nodup := (List.mergeSort_perm p.required _).nodup_iff.2 hdistinct
  have hschema : Schema.isFormed "$schema" (.str dialect) = true := isReference_dialect
  have hadditional (b : Bool) : Schema.isFormed "additionalProperties" (.bool b) = true := rfl
  have htype : Schema.isFormed "type" (.str "object") = true := by decide
  have hidentified (es : Entries Json) (hid : Entries.get? "$id" es = none)
      (hdialect : Entries.get? "$schema" es = some (.str dialect)) : Schema.isIdentified es = true := by
    have hnone : Schema.identifier? es = none := by
      rw [Schema.identifier?, hid]
      rfl
    have hhand : Schema.isAtHand none dialect = true := by decide +kernel
    rw [Schema.isIdentified, hnone, hdialect, Option.bind_some, Json.text?]
    exact hhand
  rw [hkeywords, Schema.isWellFormed, hidentified _ rfl rfl, Schema.allKeywords_eq_all]
  simp only [List.all_cons, List.all_nil, hschema, hadditional, Schema.isFormed_properties,
    Schema.isFormed_required hnames, htype, Bool.true_and, Bool.and_true]

/-- **A root is well-formed if and only if no emitted variable's type has a tuple without elements inside.** -/
theorem run_isWellFormed_iff {vs : List Variable} {a : Assembly} (h : run options vs = .ok a)
    (hroot : options.rootProperties = KeyMap.empty) (hordered : ∀ v ∈ vs, ∀ t, v.type = .valid t → t.Ordered)
    (hrange : ∀ v ∈ vs, ∀ c ∈ v.conditions, c.HasNumbersInRange)
    (hpattern : ∀ v ∈ vs, ∀ c ∈ v.conditions, c.HasKnownPattern) :
    Schema.isWellFormed a.schema.toJson = true ↔
      ∀ v ∈ vs, v.Emitted options → ∀ t, v.type = .valid t → t.hasNoEmptyTuple = true := by
  obtain ⟨p, -, hp, rfl⟩ := run_eq_ok h
  have hschema {v : Variable} (hv : v ∈ vs) {t : Constraint} (ht : v.type = .valid t) {n : Node}
      (hn : t.toNode options .top = .ok n) :
      Schema.isSubschema (v.finish options (v.baseNode options n)).toJson = t.hasNoEmptyTuple := by
    rw [Variable.isSubschema_finish hn (hrange v hv) (hpattern v hv),
      Variable.isSubschema_typeNode hn (hordered v hv t ht)]
  rw [isWellFormed_root hroot hp.distinct, List.all_eq_true]
  constructor
  · intro hall v hv hemitted t ht
    obtain ⟨s, hs⟩ := Variable.emitted_iff.1 hemitted
    have hmem := p.properties.ordered.get?_eq_some_iff.1 ((hp.properties v.name s).2 ⟨v, hv, rfl, hs⟩)
    obtain ⟨-, t', n, ht', hn, rfl⟩ := Variable.yields_iff.1 hs
    rw [ht] at ht'
    cases ht'
    rw [← hschema hv ht hn]
    exact hall _ hmem
  · rintro hall ⟨k, s⟩ hm
    obtain ⟨v, hv, rfl, hs⟩ := (hp.properties k s).1 (p.properties.ordered.get?_eq_some_iff.2 hm)
    obtain ⟨-, t, n, ht, hn, rfl⟩ := Variable.yields_iff.1 hs
    dsimp only
    rw [hschema hv ht hn]
    exact hall v hv (Variable.emitted_iff.2 ⟨_, hs⟩) t ht

/-- A nullable tuple with an element, a bound and a description. -/
theorem run_isWellFormed_tuple :
    let bound : Condition := .compare .ge (.length (.varRef "x")) (.literal (.int 1))
    let v : Variable := ⟨"x", .valid (.tuple [.primitive .string]), some true, none, some "one text", [bound]⟩
    ∃ a, run Options.standard [v] = .ok a ∧ Schema.isWellFormed a.schema.toJson = true := by
  intro bound v
  have hok : (run Options.standard [v]).isOk = true := by decide +kernel
  obtain ⟨a, h⟩ := Except.isOk_iff.1 hok
  have hrange : bound.HasNumbersInRange := by
    intro op l r hmem n hn
    cases List.mem_singleton.1 hmem
    rcases hn with hn | hn <;> cases hn
    exact ⟨by decide +kernel, by decide +kernel⟩
  have hpattern : bound.HasKnownPattern := fun p hp => nomatch hp
  refine ⟨a, h, (run_isWellFormed_iff h rfl ?_ ?_ ?_).2 ?_⟩
  · intro u hu t ht
    obtain rfl := List.mem_singleton.1 hu
    cases ht
    exact ⟨trivial, trivial⟩
  · intro u hu c hc
    obtain rfl := List.mem_singleton.1 hu
    obtain rfl := List.mem_singleton.1 hc
    exact hrange
  · intro u hu c hc
    obtain rfl := List.mem_singleton.1 hu
    obtain rfl := List.mem_singleton.1 hc
    exact hpattern
  · intro u hu _ t ht
    obtain rfl := List.mem_singleton.1 hu
    cases ht
    rfl

/-- A tuple without elements is a well-formed type, and no root with it can be used to validate. -/
theorem run_not_isWellFormed :
    let v : Variable := ⟨"x", .valid (.tuple []), none, none, none, []⟩
    Options.standard.rootProperties = KeyMap.empty ∧ (Constraint.tuple []).WellFormed ∧
      ∃ a, run Options.standard [v] = .ok a ∧ a.diagnostics = [] ∧ Schema.isWellFormed a.schema.toJson = false := by
  intro v
  refine ⟨rfl, trivial, _, rfl, rfl, ?_⟩
  rw [isWellFormed_root rfl (by decide)]
  rfl

end Assembly

end VarSchema
