import VarSchema.Proofs.Rule.Exclusion
import VarSchema.Proofs.Rule.Form
import VarSchema.Proofs.Schema.Tightest

/-!
# What the rules give

* `Condition.givenBy` : the keywords of a condition by some of the rules;
* `Rule.settersOf` : the rules that can set a keyword; `Condition.valueAt_eq_givenBy` : what a condition gives at a
  keyword, one of these gives;
* `Condition.isSome_get?_of_givenBy` : a rule of allowed values or of patterns always sets its keyword;
  `Condition.isBound_of_valueAt` : at a keyword of bounds a condition gives a number as bounds are written.
-/

namespace VarSchema

/-! ## Bounds -/

namespace Range

theorem isBound_of_finite {b : Binary64} {x : Binary64.Finite} (h : b = .finite x) : (boundJson b).IsBound :=
  ⟨x, by rw [h, boundJson_finite]⟩

theorem isBound_of_exactCount {b : Binary64} (h : (boundJson b).IsExactCount) : (boundJson b).IsBound := by
  obtain ⟨i, hi, -⟩ := h
  cases b with
  | finite x => exact isBound_of_finite rfl
  | infinite _ | nan => cases hi

/-- The bounds of numbers that a JSON text can hold are written as numbers. -/
theorem isBound_of_bounds {name type : String} {c : Condition} {bs : List Bound} (h : bounds name type c = .ok bs)
    (hrange : c.HasNumbersInRange) : ∀ b ∈ bs, (boundJson b.2).IsBound := by
  intro b hb
  obtain ⟨op, l, r, hmem, part, hpart, hbpart⟩ := exists_comparison h b hb
  obtain ⟨op', s, bound, n, horiented, hliteral, ⟨-, -, hnumber⟩ | ⟨-, -, hlength⟩⟩ := ofComparison_eq_ok hpart
  · obtain ⟨x, hx⟩ := Number.exists_finite_of_inRange (inRange_of_oriented hrange hmem horiented hliteral)
    rw [hx] at hnumber
    obtain ⟨side, hexact⟩ := ofNumber_exact hnumber b hbpart
    obtain ⟨y, hy⟩ := hexact.finite
    exact isBound_of_finite hy
  · exact isBound_of_exactCount (ofLength_count hlength b hbpart)

end Range

/-! ## Keywords and rules -/

/-- The rules that can set a keyword. -/
def Rule.settersOf (k : String) : List Rule :=
  if k = "enum" then [membership, equalityChain]
  else if k = "pattern" then [regexCall]
  else if (Side.ofKeyword? k).isSome then [rangeChain]
  else []

theorem Rule.settersOf_of_bound {k : String} {side : Side} (hk : Side.ofKeyword? k = some side) :
    settersOf k = [rangeChain] := by
  rw [settersOf, if_neg (by rintro rfl; cases hk), if_neg (by rintro rfl; cases hk), hk]
  rfl

namespace Condition

variable {name : String} {type : Option String} {c : Condition} {d : Node} {rules : List Rule} {k : String}

/-- The keywords of a condition by some of the rules. -/
def givenBy (name : String) (type : Option String) (rules : List Rule) (c : Condition) : Option Node :=
  (firstDelta name type c rules).toOption

theorem givenBy_eq_some_iff :
    c.givenBy name type rules = some d ↔ ∃ r ∈ rules, r.recognize name type c = .ok d := by
  rw [← firstDelta_eq_ok_iff, givenBy]
  cases firstDelta name type c rules <;> simp [Except.toOption]

/-- What a condition gives at a keyword, by any rule. -/
def valueAt (name : String) (type : Option String) (k : String) (c : Condition) : Option Json :=
  (c.givenBy name type Rule.all).bind (·.get? k)

theorem givenBy_all (name : String) (c : Condition) (n : Node) :
    c.givenBy name n.typeName? Rule.all = (c.toDelta name n).toOption := by
  rw [givenBy, toDelta]
  cases firstDelta name n.typeName? c Rule.all <;> rfl

theorem valueAt_of_toDelta {n : Node} (h : c.toDelta name n = .ok d) (k : String) :
    c.valueAt name n.typeName? k = d.get? k := by
  rw [valueAt, givenBy_all, h]
  rfl

theorem valueAt_of_toDelta_error {n : Node} {cause : NotApplicable} (h : c.toDelta name n = .error cause)
    (k : String) : c.valueAt name n.typeName? k = none := by
  rw [valueAt, givenBy_all, h]
  rfl

/-- A keyword of a condition is one that its rule can set. -/
theorem mem_settersOf {r : Rule} (h : r.recognize name type c = .ok d) {w : Json} (hw : d.get? k = some w) :
    r ∈ Rule.settersOf k := by
  cases r with
  | membership =>
    obtain ⟨values, rfl, -⟩ := Enumeration.ofMembership_holds h
    obtain rfl := Node.eq_of_get?_set_empty hw
    decide
  | equalityChain =>
    obtain ⟨values, rfl, -⟩ := Enumeration.ofEqualities_holds h
    obtain rfl := Node.eq_of_get?_set_empty hw
    decide
  | rangeChain =>
    obtain ⟨t, bs, -, -, hbs, rfl⟩ := Range.ofComparisons_eq_ok_iff.1 h
    obtain ⟨b, hb, rfl, -⟩ := Range.exists_bound hw
    obtain ⟨side, hside⟩ := Option.isSome_iff_exists.1 (Range.bounds_keyword hbs b hb)
    rw [Rule.settersOf_of_bound hside]
    exact List.mem_singleton_self _
  | regexCall =>
    obtain ⟨-, pattern, subject, p, -, -, -, -, rfl⟩ := Rule.ofRegexCall_eq_ok_iff.1 h
    obtain rfl := Node.eq_of_get?_set_empty hw
    decide

/-- What a condition gives at a keyword, one of the rules gives that can set it. -/
theorem valueAt_eq_givenBy (k : String) :
    c.valueAt name type k = (c.givenBy name type (Rule.settersOf k)).bind (·.get? k) := by
  ext w
  simp only [valueAt, Option.bind_eq_some_iff, givenBy_eq_some_iff]
  constructor
  · rintro ⟨d, ⟨r, -, hr⟩, hw⟩
    exact ⟨d, ⟨r, mem_settersOf hr hw, hr⟩, hw⟩
  · rintro ⟨d, ⟨r, -, hr⟩, hw⟩
    exact ⟨d, ⟨r, r.mem_all, hr⟩, hw⟩

theorem filterMap_valueAt (k : String) (cs : List Condition) : cs.filterMap (·.valueAt name type k) =
    (cs.filterMap (·.givenBy name type (Rule.settersOf k))).filterMap (·.get? k) := by
  rw [List.filterMap_filterMap]
  simp only [valueAt_eq_givenBy]

/-- A rule of allowed values or of patterns always sets its keyword. -/
theorem isSome_get?_of_givenBy (hk : k ∈ ["enum", "pattern"]) (h : c.givenBy name type (Rule.settersOf k) = some d) :
    (d.get? k).isSome = true := by
  obtain ⟨r, hr, hd⟩ := givenBy_eq_some_iff.1 h
  simp only [List.mem_cons, List.not_mem_nil, or_false] at hk
  rcases hk with rfl | rfl
  · have hr : r = .membership ∨ r = .equalityChain := by simpa [Rule.settersOf] using hr
    rcases hr with rfl | rfl
    · obtain ⟨values, rfl, -⟩ := Enumeration.ofMembership_holds hd
      rfl
    · obtain ⟨values, rfl, -⟩ := Enumeration.ofEqualities_holds hd
      rfl
  · obtain rfl : r = .regexCall := by simpa [Rule.settersOf] using hr
    obtain ⟨-, pattern, subject, p, -, -, -, -, rfl⟩ := Rule.ofRegexCall_eq_ok_iff.1 hd
    rfl

/-- At a keyword of bounds a condition gives a number as bounds are written. -/
theorem isBound_of_valueAt {side : Side} (hk : Side.ofKeyword? k = some side) (hrange : c.HasNumbersInRange)
    {w : Json} (hw : c.valueAt name type k = some w) : w.IsBound := by
  rw [valueAt_eq_givenBy, Rule.settersOf_of_bound hk] at hw
  obtain ⟨d, hd, hw⟩ := Option.bind_eq_some_iff.1 hw
  obtain ⟨r, hr, hd⟩ := givenBy_eq_some_iff.1 hd
  obtain rfl := List.mem_singleton.1 hr
  obtain ⟨t, bs, -, -, hbs, rfl⟩ := Range.ofComparisons_eq_ok_iff.1 hd
  obtain ⟨b, hb, -, rfl⟩ := Range.exists_bound hw
  exact Range.isBound_of_bounds hbs hrange b hb

theorem isBound_of_givenBy {side : Side} (hk : Side.ofKeyword? k = some side) {cs : List Condition}
    (hrange : ∀ c ∈ cs, c.HasNumbersInRange) {w : Json}
    (hw : w ∈ (cs.filterMap (·.givenBy name type [.rangeChain])).filterMap (·.get? k)) : w.IsBound := by
  rw [← Rule.settersOf_of_bound hk, ← filterMap_valueAt] at hw
  obtain ⟨c, hc, hvalue⟩ := List.mem_filterMap.1 hw
  exact isBound_of_valueAt hk (hrange c hc) hvalue

end Condition

end VarSchema
