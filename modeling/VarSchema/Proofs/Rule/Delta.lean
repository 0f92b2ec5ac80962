import VarSchema.Proofs.Rule.Meaning

/-!
# The keywords that conditions set

* `Condition.sets`, `Condition.replaces` : whether a condition gives a keyword that is no bound, and whether two
  give the same one, of which merging keeps the later;
* `Condition.toDelta_cases` : the keywords of a condition are allowed values, bounds, or a pattern;
  `Condition.sets_of_get?`, `Condition.exists_bound_of_get?`, `Condition.not_mem_untouched` : so at each keyword it
  is known what they hold;
* `Condition.toDelta_congr`, `Condition.condition_of_toDelta` : of a node, rules read only the type, and a refusal
  names the condition.
-/

namespace VarSchema

namespace Condition

variable {name : String} {n d : Node} {c : Condition}

/-- Whether the condition gives the keyword, which is no bound: allowed values or a pattern. -/
def sets (name k : String) (c : Condition) : Bool :=
  if k = "enum" then (Enumeration.ofMembership name c).isOk || (Enumeration.ofEqualities name c).isOk
  else if k = "pattern" then (Rule.ofRegexCall name (some "string") c).isOk
  else false

/-- Whether a later condition replaces a keyword of an earlier one: both give allowed values, or both a
pattern. -/
def replaces (name : String) (later earlier : Condition) : Bool :=
  ["enum", "pattern"].any fun k => later.sets name k && earlier.sets name k

theorem sets_of_replaces {later earlier : Condition} (h : later.replaces name earlier = false) {k : String}
    (hk : earlier.sets name k = true) : later.sets name k = false := by
  rw [replaces, List.any_eq_false] at h
  by_cases hmem : k ∈ ["enum", "pattern"]
  · have hnot := h k hmem
    rw [hk, Bool.and_true, Bool.not_eq_true] at hnot
    exact hnot
  · simp only [List.mem_cons, List.not_mem_nil, or_false, not_or] at hmem
    rw [sets, if_neg hmem.1, if_neg hmem.2]

/-! ## Three kinds of keywords -/

theorem toDelta_cases (h : c.toDelta name n = .ok d) :
    (c.sets name "enum" = true ∧ ∃ values, d = Enumeration.node values) ∨
    (∃ t bs, n.typeName? = some t ∧ Range.bounds name t c = .ok bs ∧ d = Range.tightest bs) ∨
    (c.sets name "pattern" = true ∧ ∃ p, d = Node.empty.set "pattern" (.str p)) := by
  obtain ⟨r, hr⟩ := recognize_of_toDelta h
  cases r with
  | membership =>
    obtain ⟨values, hd, -⟩ := Enumeration.ofMembership_holds hr
    refine .inl ⟨?_, values, hd⟩
    have hok : Enumeration.ofMembership name c = .ok d := hr
    rw [sets, if_pos rfl, hok]
    rfl
  | equalityChain =>
    obtain ⟨values, hd, -⟩ := Enumeration.ofEqualities_holds hr
    refine .inl ⟨?_, values, hd⟩
    have hok : Enumeration.ofEqualities name c = .ok d := hr
    rw [sets, if_pos rfl, hok]
    exact Bool.or_true _
  | rangeChain =>
    obtain ⟨t, bs, ht, -, hbs, hd⟩ := Range.ofComparisons_eq_ok hr
    exact .inr (.inl ⟨t, bs, ht, hbs, hd⟩)
  | regexCall =>
    have hok : Rule.ofRegexCall name n.typeName? c = .ok d := hr
    obtain ⟨-, -, -, p, htype, -, -, -, -, hd⟩ := Rule.ofRegexCall_eq_ok hok
    refine .inr (.inr ⟨?_, p, hd⟩)
    rw [htype] at hok
    rw [sets, if_neg (by decide), if_pos rfl, hok]
    rfl

/-- Keywords that are no bounds come from conditions that set them. -/
theorem sets_of_get? (h : c.toDelta name n = .ok d) {k : String} (hk : Side.ofKeyword? k = none) {w : Json}
    (hw : d.get? k = some w) : c.sets name k = true := by
  obtain ⟨hsets, values, rfl⟩ | ⟨t, bs, -, hbs, rfl⟩ | ⟨hsets, p, rfl⟩ := toDelta_cases h
  · rwa [← Node.eq_of_get?_set_empty hw]
  · rw [Range.get?_tightest (Range.bounds_keyword hbs) hk] at hw
    cases hw
  · rwa [← Node.eq_of_get?_set_empty hw]

/-- At a keyword of bounds the keywords of a condition with exact literals hold an exact bound. -/
theorem exists_bound_of_get? (h : c.toDelta name n = .ok d) (hexact : c.hasExactLiterals name = true) {k : String}
    {side : Side} (hk : Side.ofKeyword? k = some side) {w : Json} (hw : d.get? k = some w) :
    ∃ b, Range.IsExact b side ∧ b.1 = k ∧ Range.boundJson b.2 = w := by
  obtain ⟨-, values, rfl⟩ | ⟨t, bs, -, hbs, rfl⟩ | ⟨-, p, rfl⟩ := toDelta_cases h
  · rw [Enumeration.node, Node.get?_set_of_ne (by rintro rfl; cases hk)] at hw
    cases hw
  · obtain ⟨b, side', hb, rfl, hbw⟩ := Range.holdsBounds_tightest (Range.bounds_exact hbs hexact) k w hw
    rw [hb.keyword] at hk
    cases hk
    exact ⟨b, hb, rfl, hbw⟩
  · rw [Node.get?_set_of_ne (by rintro rfl; cases hk)] at hw
    cases hw

/-- Keywords that conditions leave alone. -/
def untouched : List String :=
  ["type", "title", "description", "default", "anyOf", "items", "uniqueItems", "properties", "additionalProperties",
    "required"]

theorem mem_untouched_of_schema : ∀ k ∈ ["properties", "additionalProperties", "items", "anyOf"], k ∈ untouched := by
  decide

theorem ne_of_not_mem_untouched {k l : String} (hk : k ∉ untouched) (hl : l ∈ untouched) : k ≠ l := by
  rintro rfl
  exact hk hl

theorem not_bound_of_mem_untouched : ∀ k ∈ untouched, Side.ofKeyword? k = none := by decide

theorem not_mem_untouched_of_bound {k : String} {side : Side} (hk : Side.ofKeyword? k = some side) :
    k ∉ untouched := by
  intro hmem
  rw [not_bound_of_mem_untouched k hmem] at hk
  cases hk

theorem sets_of_mem_untouched {k : String} (hk : k ∈ untouched) (c : Condition) : c.sets name k = false := by
  have hne : ∀ l ∈ untouched, l ≠ "enum" ∧ l ≠ "pattern" := by decide
  obtain ⟨henum, hpattern⟩ := hne k hk
  rw [sets, if_neg henum, if_neg hpattern]

theorem not_mem_untouched (h : c.toDelta name n = .ok d) {k : String} {w : Json} (hw : d.get? k = some w) :
    k ∉ untouched := by
  intro hmem
  have hsets := sets_of_get? h (not_bound_of_mem_untouched k hmem) hw
  rw [sets_of_mem_untouched hmem] at hsets
  cases hsets

/-- What meets the keywords of a condition one by one is accepted. -/
theorem accepts_of_holdsAt (h : c.toDelta name n = .ok d) {v : Json} (hv : ∀ k w, d.get? k = some w → d.HoldsAt k v) :
    Schema.accepts d.toJson v = true := by
  refine (Node.accepts_iff_holdsAt (fun k hk => ?_) v).2 fun k w hw => hv k w hw w hw
  cases hd : d.get? k with
  | none => rfl
  | some w => exact absurd (mem_untouched_of_schema k hk) (not_mem_untouched h hd)

/-! ## The node's part -/

theorem toDelta_congr {m : Node} (h : n.typeName? = m.typeName?) : c.toDelta name n = c.toDelta name m := by
  rw [toDelta, toDelta, h]

theorem condition_of_toDelta {cause : NotApplicable} (h : c.toDelta name n = .error cause) :
    cause.condition = c := by
  unfold toDelta at h
  cases hd : firstDelta name n.typeName? c Rule.all with
  | ok _ => rw [hd] at h; cases h
  | error rejections =>
    rw [hd] at h
    cases h
    rfl

/-- The type of a node stays when the keywords of a condition are merged in. -/
theorem typeName?_merge_toDelta {m : Node} (h : c.toDelta name n = .ok d) : (m.merge d).typeName? = m.typeName? := by
  refine Node.typeName?_merge ?_ m
  cases htype : d.get? "type" with
  | none => rfl
  | some w => exact absurd (by decide) (not_mem_untouched h htype)

end Condition

end VarSchema
