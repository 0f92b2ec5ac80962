import VarSchema.Proofs.Rule.RangeChain

/-!
# Values of bounds

* `Binary64.Finite.toWord` : the conversion to a whole number of 64 bits, which stops at their limits;
  `Number.ofFinite_eq_toWord` : a bound is written by it only where it does not stop;
* `Range.boundKeywords` : the keywords that bound each type;
* `Range.exists_finite_of_gives`, `Range.exists_count_of_gives` : what a link gives is finite, and a natural number
  below `2 ^ 63` if it bounds a length;
* `Range.recognize_bound_values` : the keywords of bounds and their values.
-/

namespace VarSchema

/-! ## Conversion to whole numbers of 64 bits -/

/-- The whole part, or the limit of 64 bits that it is beyond. -/
def Binary64.Finite.toWord (x : Binary64.Finite) : Int :=
  max (-(Number.wholeLimit : Int)) (min ((Number.wholeLimit : Int) - 1) x.toInt)

/-- A whole number below `2 ^ 63` is converted as it is. -/
theorem Binary64.Finite.toWord_mul_one {x : Binary64.Finite} (hwhole : x.isWhole = true)
    (hlt : x.magnitude < Number.wholeLimit * Binary64.one) :
    x.toWord = x.toInt ∧ x.toWord * Binary64.one = x.toUnits := by
  have hx := Number.toInt_mul_one hwhole
  have habs : x.toInt.natAbs < Number.wholeLimit := by
    rw [Binary64.magnitude_of_toUnits hx.symm] at hlt
    exact Nat.lt_of_mul_lt_mul_right hlt
  have hword : x.toWord = x.toInt := by
    unfold toWord
    omega
  exact ⟨hword, by rw [hword, hx]⟩

/-- A number is written as what the conversion gives just where this is its value. -/
theorem Number.ofFinite_eq_toWord (x : Binary64.Finite) :
    (ofFinite x = .integer x.toWord ∧ x.toWord * Binary64.one = x.toUnits) ∨ ofFinite x = .float x := by
  unfold ofFinite
  split
  · next h =>
    rw [Bool.and_eq_true, decide_eq_true_iff] at h
    obtain ⟨hword, hunits⟩ := Binary64.Finite.toWord_mul_one h.1 h.2
    exact .inl ⟨by rw [hword], hunits⟩
  · exact .inr rfl

theorem Number.inRange_ofFinite (x : Binary64.Finite) : (ofFinite x).InRange := by
  unfold ofFinite
  split
  · next h =>
    rw [Bool.and_eq_true, decide_eq_true_iff] at h
    have hlt := h.2
    rw [Binary64.magnitude_of_toUnits (toInt_mul_one h.1).symm, Nat.mul_lt_mul_right Binary64.one_pos] at hlt
    have hlimits : wholeLimit ≤ wordLimit := by decide +kernel
    exact ⟨by omega, by omega⟩
  · trivial

namespace Range

variable {name t k : String} {type : Option String} {op : Comparison} {c : Condition} {n : Number} {v : Binary64}
  {bs : List Bound} {d : Node} {keywords : List String}

/-! ## Keywords -/

/-- The keywords that bound each type. -/
def boundKeywords : List (String × List String) :=
  [("number", ["minimum", "maximum", "exclusiveMinimum", "exclusiveMaximum"]), ("array", ["minItems", "maxItems"]),
    ("object", ["minProperties", "maxProperties"]), ("string", ["minLength", "maxLength"])]

theorem exists_boundKeywords (ht : t ∈ types) : ∃ keywords, (t, keywords) ∈ boundKeywords := by
  have htypes : types = boundKeywords.map Prod.fst := rfl
  rw [htypes] at ht
  obtain ⟨⟨_, keywords⟩, hmem, rfl⟩ := List.mem_map.1 ht
  exact ⟨keywords, hmem⟩

theorem mem_of_keywordsOf (ht : (t, keywords) ∈ boundKeywords) (hk : k ∈ keywordsOf t op) : k ∈ keywords := by
  have hall : ∀ p ∈ boundKeywords, ∀ k ∈ keywordsOf p.1 op, k ∈ p.2 := by cases op <;> decide
  exact hall _ ht k hk

theorem keywordsOf_ne_nil (h : Admits t op n) : keywordsOf t op ≠ [] := by
  obtain ⟨hne, hop⟩ := h
  unfold keywordsOf
  split
  · next ht =>
    rw [if_pos ht] at hop
    cases op <;> simp [numberKeyword?] at hne hop ⊢
  · exact lengthKeywords_ne_nil hne

/-! ## Values -/

/-- A link gives a finite value, if the numbers are ones that a JSON text can hold. -/
theorem exists_finite_of_gives (h : bounds name t c = .ok bs) (hrange : c.HasNumbersInRange) (hv : Gives name t c k v) :
    ∃ x, v = .finite x ∧
      ((boundJson v = .int x.toWord ∧ x.toWord * Binary64.one = x.toUnits) ∨ boundJson v = .num (.float x)) := by
  obtain ⟨x, rfl⟩ := finite_of_gives hrange h hv
  refine ⟨x, rfl, ?_⟩
  rw [boundJson_finite]
  rcases Number.ofFinite_eq_toWord x with ⟨hword, hunits⟩ | hfloat
  · exact .inl ⟨by rw [hword]; rfl, hunits⟩
  · exact .inr (by rw [hfloat])

/-- A link of lengths gives a natural number below `2 ^ 63`. -/
theorem exists_count_of_gives (h : bounds name t c = .ok bs) (ht : t ≠ "number") (hv : Gives name t c k v) :
    ∃ i : Nat, boundJson v = .int i ∧ i < Number.wholeLimit := by
  obtain ⟨op, l, r, -, part, hpart, hmem⟩ := exists_comparison h _ ((mem_bounds_iff h).2 hv)
  obtain ⟨op', s, bound, n, -, -, ⟨-, hnumber, -⟩ | ⟨-, -, hlength⟩⟩ := ofComparison_eq_ok hpart
  · exact absurd hnumber ht
  · obtain ⟨y, i, rfl, hyu, hi⟩ := exists_count_of_ofLength hlength _ hmem
    exact ⟨i, by rw [boundJson_finite, Number.ofFinite_eq_integer hyu hi]; rfl, hi⟩

/-- Some link gives some value. -/
theorem exists_gives (h : bounds name t c = .ok bs) : ∃ k v, Gives name t c k v := by
  obtain ⟨link, hlink⟩ := List.exists_mem_of_ne_nil _ c.conjuncts_ne_nil
  obtain ⟨op, n, hlinks, hadmits⟩ := isOk_bounds_iff.1 (Except.isOk_iff.2 ⟨bs, h⟩) link hlink
  obtain ⟨k, hk⟩ := List.exists_mem_of_ne_nil _ (keywordsOf_ne_nil hadmits)
  exact ⟨k, _, link, hlink, op, n, hlinks, hk, rfl⟩

/-- **What is recognized as bounds has keywords, only such that bound its type, and their values are numbers that a JSON
text can hold, and natural numbers below `2 ^ 63` where they count. On the way to them every bound is finite, and it is
converted to a whole number only where this keeps its value.** -/
theorem recognize_bound_values (h : Rule.rangeChain.recognize name type c = .ok d) (hrange : c.HasNumbersInRange) :
    ∃ t keywords, type = some t ∧ (t, keywords) ∈ boundKeywords ∧ d.names ≠ [] ∧
      (∀ k w, d.get? k = some w → k ∈ keywords ∧
        (t = "number" → ∃ n : Number, w = .num n ∧ n.InRange) ∧
        (t ≠ "number" → ∃ i : Nat, w = .int i ∧ i < Number.wholeLimit)) ∧
      ∀ k v, Gives name t c k v → ∃ x, v = .finite x ∧
        ((boundJson v = .int x.toWord ∧ x.toWord * Binary64.one = x.toUnits) ∨ boundJson v = .num (.float x)) := by
  obtain ⟨t, bs, rfl, ht, hbs, rfl⟩ := ofComparisons_eq_ok_iff.1 h
  obtain ⟨keywords, hkeywords⟩ := exists_boundKeywords ht
  refine ⟨t, keywords, rfl, hkeywords, ?_, fun k w hw => ?_, fun k v hv => exists_finite_of_gives hbs hrange hv⟩
  · obtain ⟨k, v, hv⟩ := exists_gives hbs
    have hmem := (mem_names_of_bounds hbs fun k v hv => finite_of_gives hrange hbs hv).2 ⟨v, hv⟩
    exact List.ne_nil_of_mem hmem
  · obtain ⟨⟨l, v⟩, hb, rfl, rfl⟩ := exists_bound hw
    have hv := (mem_bounds_iff hbs).1 hb
    obtain ⟨link, -, op, n, -, hk, -⟩ := id hv
    refine ⟨mem_of_keywordsOf hkeywords hk, fun _ => ?_, fun hne => exists_count_of_gives hbs hne hv⟩
    obtain ⟨x, rfl⟩ := finite_of_gives hrange hbs hv
    exact ⟨_, boundJson_finite x, Number.inRange_ofFinite x⟩

/-- The last binary64 below `2 ^ 63`, to which adding one is absorbed, and the zero below zero. -/
theorem recognize_bound_values_absorbed :
    let last : Binary64.Finite := ⟨false, Binary64.lastWhole * Binary64.one, by decide +kernel⟩
    let zero : Binary64.Finite := ⟨true, 0, Binary64.representable_zero⟩
    let c : Condition := .and (.compare .gt (.length (.varRef "x")) (.literal (.num (.float last))))
      (.compare .le (.literal (.num (.float zero))) (.length (.varRef "x")))
    last.shift 1 = .finite last ∧ c.HasNumbersInRange ∧
      ∃ d, Rule.rangeChain.recognize "x" (some "array") c = .ok d ∧ d.names ≠ [] ∧
        d.get? "minItems" = some (.int 9223372036854774784) ∧
        ∃ i : Nat, (9223372036854774784 : Int) = i ∧ i < Number.wholeLimit := by
  intro last zero c
  have habsorbed : last.shift 1 = .finite last := by decide +kernel
  have hrange : c.HasNumbersInRange := by
    intro op l r hmem n hn
    simp only [c, Condition.comparisons, List.cons_append, List.nil_append, List.mem_cons, List.not_mem_nil,
      or_false] at hmem
    obtain hmem | hmem := hmem <;> cases hmem <;> rcases hn with hn | hn <;> cases hn
    all_goals exact trivial
  have hread : (Rule.rangeChain.recognize "x" (some "array") c).toOption.bind (·.get? "minItems") =
      some (.int 9223372036854774784) := by decide +kernel
  cases hd : Rule.rangeChain.recognize "x" (some "array") c with
  | error e =>
    rw [hd] at hread
    cases hread
  | ok d =>
    rw [hd] at hread
    have hget : d.get? "minItems" = some (.int 9223372036854774784) := hread
    obtain ⟨t, keywords, ht, -, hnames, hvalues, -⟩ := recognize_bound_values hd hrange
    cases ht
    obtain ⟨i, hi, hlt⟩ := (hvalues "minItems" _ hget).2.2 (by decide)
    cases hi
    exact ⟨habsorbed, hrange, d, rfl, hnames, hget, _, rfl, hlt⟩

end Range

end VarSchema
