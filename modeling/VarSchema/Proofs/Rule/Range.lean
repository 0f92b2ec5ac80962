import VarSchema.Proofs.Condition.Views
import VarSchema.Proofs.Except
import VarSchema.Proofs.Schema.Bounds

/-!
# Bounds say what the comparisons say

* `Range.IsExact` : a bound as a comparison with an exact literal gives it;
* `Range.ofComparison_exact`, `Range.ofComparison_holds` : the bounds of one comparison are exact, and a value
  of the type meets them if and only if the comparison is true;
* `Range.bounds_exact`, `Range.bounds_holds` : the same of a conjunction;
* `Range.bounds_keyword`, `Range.get?_tightest` : only keywords of bounds are set, whatever the literals;
* `Range.IsExact.comparableAt_length` : an exact bound is comparable with any length;
* `Range.holdsAt_tightest` : keeping the tightest bound of each keyword keeps what all of them assert.
-/

namespace VarSchema

/-! ## Comparisons of numbers -/

theorem Comparison.holds_num_congr (op : Comparison) (m : Number) {n n' : Number}
    (h : n.toUnits = n'.toUnits) : op.holds (.num m) (.num n) = op.holds (.num m) (.num n') := by
  cases op with
  | eq => simp [Comparison.holds, Json.equal, Json.same, Number.equal, h]
  | ne => simp [Comparison.holds, Json.equal, Json.same, Number.equal, h]
  | _ => simp [Comparison.holds, Number.less, h]

namespace Range

/-! ## Exact bounds -/

theorem boundJson_finite (x : Binary64.Finite) : boundJson (.finite x) = .num (.ofFinite x) := rfl

/-- A bound as a comparison with an exact literal gives it: finite, and at a keyword that counts a natural
number up to `2 ^ 53`, which an upper one does not reach. -/
structure IsExact (b : Bound) (side : Side) : Prop where
  keyword : Side.ofKeyword? b.1 = some side
  finite : ∃ x : Binary64.Finite, b.2 = .finite x
  count : b.1 ∈ Side.countKeywords → ∃ i : Nat, boundJson b.2 = .int i ∧ i ≤ Binary64.wholeReach ∧
    (side = .upper → i < Binary64.wholeReach)

/-- A value meets a bound. -/
def Meets (v : Json) (b : Bound) : Prop := Assertion.holds b.1 (boundJson b.2) v = true

/-! ## Bounds of numbers -/

theorem ofNumber_exact {op : Comparison} {x : Binary64.Finite} {bs : List Bound}
    (h : ofNumber op (.finite x) = .ok bs) : ∀ b ∈ bs, ∃ side, IsExact b side := by
  cases op <;> cases h
  all_goals
    intro b hb
    obtain rfl := List.mem_singleton.1 hb
  · exact ⟨.upper, rfl, ⟨x, rfl⟩, fun hc => by simp [Side.countKeywords] at hc⟩
  · exact ⟨.upper, rfl, ⟨x, rfl⟩, fun hc => by simp [Side.countKeywords] at hc⟩
  · exact ⟨.lower, rfl, ⟨x, rfl⟩, fun hc => by simp [Side.countKeywords] at hc⟩
  · exact ⟨.lower, rfl, ⟨x, rfl⟩, fun hc => by simp [Side.countKeywords] at hc⟩

theorem ofNumber_holds {op : Comparison} {x : Binary64.Finite} {bs : List Bound}
    (h : ofNumber op (.finite x) = .ok bs) {n : Number} (hn : x.toUnits = n.toUnits) (m : Number) :
    (∀ b ∈ bs, Meets (.num m) b) ↔ op.holds (.num m) (.num n) = true := by
  have hu : (Number.ofFinite x).toUnits = n.toUnits := (Number.toUnits_ofFinite x).trans hn
  cases op <;> cases h
  all_goals
    simp only [List.forall_mem_singleton, Meets, boundJson_finite, Assertion.holds, Assertion.compares,
      Comparison.holds, Number.less, hu]

/-! ## Bounds of lengths -/

/-- A binary64 with the value of a whole number. -/
def IsInt (b : Binary64) (i : Int) : Prop :=
  ∃ x : Binary64.Finite, b = .finite x ∧ x.toUnits = i * Binary64.one

theorem IsInt.isNegative {b : Binary64} {i : Int} (h : IsInt b i) : b.isNegative = decide (i < 0) := by
  obtain ⟨x, rfl, hx⟩ := h
  have h := Binary64.mul_one_lt_mul_one (i := i) (j := 0)
  rw [Int.zero_mul] at h
  rw [Binary64.isNegative, hx]
  exact decide_eq_decide.2 h

theorem IsInt.boundJson {b : Binary64} {i : Int} (h : IsInt b i) (hi : i.natAbs ≤ Binary64.wholeReach) :
    boundJson b = .int i := by
  obtain ⟨x, rfl, hx⟩ := h
  rw [boundJson_finite, Number.ofFinite_eq_integer hx (Nat.lt_of_le_of_lt hi (by decide +kernel))]
  rfl

/-- Below `2 ^ 53` a shift by one does not round. -/
theorem IsInt.shift {x : Binary64.Finite} {i k : Int} (hx : x.toUnits = i * Binary64.one)
    (hik : (i + k).natAbs ≤ Binary64.wholeReach) : IsInt (x.shift k) (i + k) := by
  rw [Binary64.Finite.shift, hx, ← Int.add_mul]
  exact Binary64.ofInt_of_small hik

theorem countBounds_isInt {op : Comparison} {x : Binary64.Finite} {keywords : String × String}
    {bs : List Bound} (h : countBounds op x keywords = .ok bs) {i : Int}
    (hx : x.toUnits = i * Binary64.one) (hi : i.natAbs < Binary64.wholeReach) :
    ∀ b ∈ bs, ∃ j, IsInt b.2 j ∧ j.natAbs ≤ Binary64.wholeReach ∧
      (b.1 = keywords.1 ∨ b.1 = keywords.2 ∧ j < Binary64.wholeReach) := by
  have hself : IsInt (.finite x) i := ⟨x, rfl, hx⟩
  cases op <;> cases h
  case lt =>
    rw [List.forall_mem_singleton]
    exact ⟨i + -1, IsInt.shift hx (by omega), by omega, .inr ⟨rfl, by omega⟩⟩
  case le =>
    rw [List.forall_mem_singleton]
    exact ⟨i, hself, by omega, .inr ⟨rfl, by omega⟩⟩
  case gt =>
    rw [List.forall_mem_singleton]
    exact ⟨i + 1, IsInt.shift hx (by omega), by omega, .inl rfl⟩
  case ge =>
    rw [List.forall_mem_singleton]
    exact ⟨i, hself, by omega, .inl rfl⟩
  case eq =>
    rw [List.forall_mem_cons, List.forall_mem_singleton]
    exact ⟨⟨i, hself, by omega, .inl rfl⟩, ⟨i, hself, by omega, .inr ⟨rfl, by omega⟩⟩⟩

theorem ofLength_eq_ok {op : Comparison} {x : Binary64.Finite} {type : String} {bs : List Bound}
    (h : ofLength op (.finite x) type = .ok bs) :
    x.isWhole = true ∧ countBounds op x (countKeywords type) = .ok bs ∧ ∀ b ∈ bs, b.2.isNegative = false := by
  unfold ofLength at h
  dsimp only at h
  split at h
  · cases h
  split at h
  · cases h
  next hwhole =>
  split at h
  · cases h
  next bounds hbounds =>
  split at h
  · cases h
  next hnone =>
  cases h
  refine ⟨by simpa using hwhole, hbounds, fun b hb => ?_⟩
  simpa using List.find?_eq_none.1 hnone b hb

/-! ### The keywords of a type -/

theorem ofKeyword?_countKeywords (type : String) :
    Side.ofKeyword? (countKeywords type).1 = some .lower ∧
      Side.ofKeyword? (countKeywords type).2 = some .upper := by
  unfold countKeywords
  split
  · exact ⟨rfl, rfl⟩
  · split <;> exact ⟨rfl, rfl⟩

theorem holds_countKeywords (type : String) (w v : Json) :
    Assertion.holds (countKeywords type).1 w v =
        Assertion.counts (countKeywords type).1 (fun n limit => limit ≤ n) w v ∧
      Assertion.holds (countKeywords type).2 w v =
        Assertion.counts (countKeywords type).2 (fun n limit => n ≤ limit) w v := by
  unfold countKeywords
  split
  · exact ⟨rfl, rfl⟩
  · split <;> exact ⟨rfl, rfl⟩

/-- A value of a type with a length is counted by the type's keywords. -/
theorem count?_countKeywords {type : String} (ht : type ∈ types) (hn : type ≠ "number") {v : Json}
    (hv : Assertion.hasType type v = true) :
    ∃ len : Nat, v.length? = some len ∧ Assertion.count? (countKeywords type).1 v = some len ∧
      Assertion.count? (countKeywords type).2 v = some len := by
  simp only [types, List.mem_cons, List.not_mem_nil, or_false] at ht
  rcases ht with rfl | rfl | rfl | rfl
  · exact absurd rfl hn
  · cases v with
    | arr items => exact ⟨items.length, rfl, rfl, rfl⟩
    | _ => simp [Assertion.hasType] at hv
  · cases v with
    | obj fields => exact ⟨fields.length, rfl, rfl, rfl⟩
    | _ => simp [Assertion.hasType] at hv
  · cases v with
    | str s => exact ⟨s.length, rfl, rfl, rfl⟩
    | _ => simp [Assertion.hasType] at hv

theorem meets_lower {type : String} {v : Json} {len : Nat}
    (hlen : Assertion.count? (countKeywords type).1 v = some len) {x : Binary64} {i : Int}
    (hx : boundJson x = .int i) : Meets v ((countKeywords type).1, x) ↔ i ≤ len := by
  rw [Meets, hx, (holds_countKeywords type _ v).1, Json.int, Assertion.counts_integer, hlen]
  exact decide_eq_true_iff

theorem meets_upper {type : String} {v : Json} {len : Nat}
    (hlen : Assertion.count? (countKeywords type).2 v = some len) {x : Binary64} {i : Int}
    (hx : boundJson x = .int i) : Meets v ((countKeywords type).2, x) ↔ (len : Int) ≤ i := by
  rw [Meets, hx, (holds_countKeywords type _ v).2, Json.int, Assertion.counts_integer, hlen]
  exact decide_eq_true_iff

/-! ### Meaning -/

theorem countBounds_holds {op : Comparison} {x : Binary64.Finite} {type : String} {bs : List Bound}
    (h : countBounds op x (countKeywords type) = .ok bs) {i : Int} (hx : x.toUnits = i * Binary64.one)
    (hi : i.natAbs < Binary64.wholeReach) {v : Json} {len : Nat}
    (hlower : Assertion.count? (countKeywords type).1 v = some len)
    (hupper : Assertion.count? (countKeywords type).2 v = some len) :
    (∀ b ∈ bs, Meets v b) ↔ op.holds (.int len) (.int i) = true := by
  have hself : boundJson (.finite x) = .int i := IsInt.boundJson ⟨x, rfl, hx⟩ (by omega)
  cases op <;> cases h
  case lt =>
    have hshift : boundJson (x.shift (-1)) = .int (i + -1) := (IsInt.shift hx (by omega)).boundJson (by omega)
    rw [List.forall_mem_singleton, meets_upper hupper hshift]
    simp only [Comparison.holds, Json.int, Number.less_integer, decide_eq_true_eq]
    omega
  case le =>
    rw [List.forall_mem_singleton, meets_upper hupper hself]
    simp only [Comparison.holds, Json.int, Number.less_integer, Bool.not_eq_true', decide_eq_false_iff_not]
    omega
  case gt =>
    have hshift : boundJson (x.shift 1) = .int (i + 1) := (IsInt.shift hx (by omega)).boundJson (by omega)
    rw [List.forall_mem_singleton, meets_lower hlower hshift]
    simp only [Comparison.holds, Json.int, Number.less_integer, decide_eq_true_eq]
    omega
  case ge =>
    rw [List.forall_mem_singleton, meets_lower hlower hself]
    simp only [Comparison.holds, Json.int, Number.less_integer, Bool.not_eq_true', decide_eq_false_iff_not]
    omega
  case eq =>
    rw [List.forall_mem_cons, List.forall_mem_singleton, meets_lower hlower hself, meets_upper hupper hself]
    simp only [Comparison.holds, Json.int, Json.equal, Json.same, Number.equal_integer, decide_eq_true_eq]
    omega

theorem ofLength_exact {op : Comparison} {x : Binary64.Finite} {type : String} {bs : List Bound}
    (h : ofLength op (.finite x) type = .ok bs) {i : Int} (hx : x.toUnits = i * Binary64.one)
    (hi : i.natAbs < Binary64.wholeReach) : ∀ b ∈ bs, ∃ side, IsExact b side := by
  obtain ⟨-, hbounds, hneg⟩ := ofLength_eq_ok h
  intro b hb
  obtain ⟨j, hj, hjr, hkey⟩ := countBounds_isInt hbounds hx hi b hb
  have hnonneg : ¬ j < 0 := by simpa [hj.isNegative] using hneg b hb
  have hcount : boundJson b.2 = .int (j.toNat : Nat) := by
    rw [hj.boundJson hjr, Int.toNat_of_nonneg (by omega)]
  obtain ⟨y, hy, -⟩ := hj
  rcases hkey with hkey | ⟨hkey, hlt⟩
  · refine ⟨.lower, ⟨?_, ⟨y, hy⟩, fun _ => ⟨j.toNat, hcount, by omega, fun hs => by cases hs⟩⟩⟩
    rw [hkey]
    exact (ofKeyword?_countKeywords type).1
  · refine ⟨.upper, ⟨?_, ⟨y, hy⟩, fun _ => ⟨j.toNat, hcount, by omega, fun _ => by omega⟩⟩⟩
    rw [hkey]
    exact (ofKeyword?_countKeywords type).2

/-! ## One comparison -/

theorem oriented_cases {name : String} {op op' : Comparison} {l r s b : Condition}
    (h : oriented name op l r = (op', s, b)) :
    (op' = op ∧ s = l ∧ b = r) ∨ (op' = op.mirrored ∧ s = r ∧ b = l) := by
  unfold oriented at h
  split at h
  · cases h
    exact .inr ⟨rfl, rfl, rfl⟩
  · cases h
    exact .inl ⟨rfl, rfl, rfl⟩

theorem holds_oriented {name : String} {op op' : Comparison} {l r s b : Condition}
    (h : oriented name op l r = (op', s, b)) {v a w : Json} (hs : s.value? name v = some a)
    (hb : b.value? name v = some w) : (Condition.compare op l r).holds name v = op'.holds a w := by
  rcases oriented_cases h with ⟨rfl, rfl, rfl⟩ | ⟨rfl, rfl, rfl⟩
  · rw [Condition.holds, hs, hb]
  · rw [Condition.holds, hs, hb, Comparison.holds_mirrored]

theorem isExactBound_oriented {name : String} {op op' : Comparison} {l r s b : Condition}
    (h : oriented name op l r = (op', s, b))
    (hexact : (Condition.compare op l r).hasExactLiterals name = true) :
    s.isExactBound name b = true := by
  rw [Condition.hasExactLiterals, Bool.and_eq_true] at hexact
  rcases oriented_cases h with ⟨-, rfl, rfl⟩ | ⟨-, rfl, rfl⟩
  · exact hexact.1
  · exact hexact.2

/-- What a comparison with bounds looks like: the variable or its length on one side and a number on the
other. -/
theorem ofComparison_eq_ok {name type : String} {op : Comparison} {l r : Condition} {bs : List Bound}
    (h : ofComparison name type op l r = .ok bs) :
    ∃ op' s b n, oriented name op l r = (op', s, b) ∧ b.literalValue? = some (.num n) ∧
      ((s.isVar name = true ∧ type = "number" ∧ ofNumber op' n.toBinary64 = .ok bs) ∨
        (s.isLengthOf name = true ∧ type ≠ "number" ∧ ofLength op' n.toBinary64 type = .ok bs)) := by
  unfold ofComparison at h
  rcases horient : oriented name op l r with ⟨op', s, b⟩
  rw [horient] at h
  dsimp only at h
  split at h
  · cases h
  split at h
  · cases h
  next hrefers =>
  split at h
  · cases h
  next n hn =>
  obtain ⟨w, hw, hwn⟩ := Option.bind_eq_some_iff.1 hn
  have hlit : b.literalValue? = some (.num n) := by
    cases w <;> cases hwn
    exact hw
  refine ⟨op', s, b, n, rfl, hlit, ?_⟩
  cases hvar : s.isVar name with
  | true =>
    simp only [hvar, ofSubject, Bool.not_true, Bool.false_eq_true, if_false] at h
    split at h
    · next ht => exact .inl ⟨rfl, ht, h⟩
    · cases h
  | false =>
    have hlen : s.isLengthOf name = true := by simpa [refers, hvar] using hrefers
    simp only [hvar, ofSubject, Bool.not_false, if_true] at h
    split at h
    · cases h
    · next ht => exact .inr ⟨hlen, ht, h⟩

/-- An exact literal is a finite binary64, and small if it bounds a length. -/
theorem finite_of_isExactBound {name : String} {s b : Condition} {n : Number}
    (hb : s.isExactBound name b = true) (hlit : b.literalValue? = some (.num n)) :
    ∃ x, n.toBinary64 = .finite x ∧ x.toUnits = n.toUnits ∧ (s.isLengthOf name = true → n.isSmall = true) := by
  rw [Condition.isExactBound, hlit] at hb
  simp only [Bool.and_eq_true, Bool.or_eq_true, Bool.not_eq_true'] at hb
  obtain ⟨x, hx, hxn⟩ := Number.isExact_iff.1 hb.1
  exact ⟨x, hx, hxn, fun hlen => hb.2.resolve_left (by simp [hlen])⟩

/-- A whole binary64 with the value of a small number. -/
theorem toInt_of_isSmall {n : Number} {x : Binary64.Finite} (hxn : x.toUnits = n.toUnits)
    (hn : n.isSmall = true) (hx : x.isWhole = true) :
    x.toUnits = x.toInt * Binary64.one ∧ x.toInt.natAbs < Binary64.wholeReach := by
  have hmul := Number.toInt_mul_one hx
  refine ⟨hmul.symm, ?_⟩
  have hlt : n.toUnits.natAbs < Binary64.wholeReach * Binary64.one := of_decide_eq_true hn
  rw [← hxn, ← hmul, Binary64.natAbs_mul_one] at hlt
  exact Nat.lt_of_mul_lt_mul_right hlt

theorem ofComparison_exact {name type : String} {op : Comparison} {l r : Condition} {bs : List Bound}
    (h : ofComparison name type op l r = .ok bs)
    (hexact : (Condition.compare op l r).hasExactLiterals name = true) :
    ∀ b ∈ bs, ∃ side, IsExact b side := by
  obtain ⟨op', s, b, n, horient, hlit, hkind⟩ := ofComparison_eq_ok h
  obtain ⟨x, hx, hxn, hsmall⟩ := finite_of_isExactBound (isExactBound_oriented horient hexact) hlit
  rw [hx] at hkind
  obtain ⟨-, -, hnum⟩ | ⟨hlength, -, hlen⟩ := hkind
  · exact ofNumber_exact hnum
  · obtain ⟨hunits, hi⟩ := toInt_of_isSmall hxn (hsmall hlength) (ofLength_eq_ok hlen).1
    exact ofLength_exact hlen hunits hi

/-- The bounds of a comparison say what the comparison says of the values of its type. -/
theorem ofComparison_holds {name type : String} {op : Comparison} {l r : Condition} {bs : List Bound}
    (h : ofComparison name type op l r = .ok bs) (ht : type ∈ types)
    (hexact : (Condition.compare op l r).hasExactLiterals name = true) {v : Json}
    (hv : Assertion.hasType type v = true) :
    (∀ b ∈ bs, Meets v b) ↔ (Condition.compare op l r).holds name v = true := by
  obtain ⟨op', s, b, n, horient, hlit, hkind⟩ := ofComparison_eq_ok h
  obtain ⟨x, hx, hxn, hsmall⟩ := finite_of_isExactBound (isExactBound_oriented horient hexact) hlit
  rw [hx] at hkind
  obtain ⟨hvar, rfl, hnum⟩ | ⟨hlength, hne, hlen⟩ := hkind
  · cases v with
    | num m =>
      rw [holds_oriented horient (Condition.value?_of_isVar hvar) (Condition.value?_of_literalValue? hlit)]
      exact ofNumber_holds hnum hxn m
    | _ => simp [Assertion.hasType] at hv
  · obtain ⟨hwhole, hbounds, -⟩ := ofLength_eq_ok hlen
    obtain ⟨hunits, hi⟩ := toInt_of_isSmall hxn (hsmall hlength) hwhole
    obtain ⟨len, hlenv, hlower, hupper⟩ := count?_countKeywords ht hne hv
    have hvalue : s.value? name v = some (.int len) := by
      rw [Condition.value?_of_isLengthOf hlength, Condition.lengthValue?, hlenv]
      rfl
    have hnumber : n.toUnits = (Number.integer x.toInt).toUnits := by rw [Number.toUnits_integer, ← hunits, hxn]
    rw [holds_oriented horient hvalue (Condition.value?_of_literalValue? hlit),
      countBounds_holds hbounds hunits hi hlower hupper, Json.int, Comparison.holds_num_congr op' _ hnumber]
    rfl

/-! ## Conjunctions -/

theorem bounds_exact {name type : String} : ∀ {c : Condition} {bs : List Bound},
    bounds name type c = .ok bs → c.hasExactLiterals name = true → ∀ b ∈ bs, ∃ side, IsExact b side
  | .and l r, bs, h, hexact => by
    rw [Condition.hasExactLiterals, Bool.and_eq_true] at hexact
    rw [bounds] at h
    split at h
    · cases h
    next ls hl =>
    obtain ⟨rs, hr, rfl⟩ := Except.map_eq_ok.1 h
    intro b hb
    rcases List.mem_append.1 hb with hb | hb
    · exact bounds_exact hl hexact.1 b hb
    · exact bounds_exact hr hexact.2 b hb
  | .paren inner, bs, h, hexact => by
    rw [bounds] at h
    rw [Condition.hasExactLiterals] at hexact
    exact bounds_exact h hexact
  | .compare op l r, bs, h, hexact => ofComparison_exact h hexact
  | .or .., _, h, _ | .call .., _, h, _ | .varRef _, _, h, _ | .length _, _, h, _ | .literal _, _, h, _
  | .list _, _, h, _ => by cases h
termination_by structural c => c

/-- The bounds of a conjunction of comparisons say what the conjunction says. -/
theorem bounds_holds {name type : String} (ht : type ∈ types) {v : Json}
    (hv : Assertion.hasType type v = true) : ∀ {c : Condition} {bs : List Bound},
    bounds name type c = .ok bs → c.hasExactLiterals name = true →
      ((∀ b ∈ bs, Meets v b) ↔ c.holds name v = true)
  | .and l r, bs, h, hexact => by
    rw [Condition.hasExactLiterals, Bool.and_eq_true] at hexact
    rw [bounds] at h
    split at h
    · cases h
    next ls hl =>
    obtain ⟨rs, hr, rfl⟩ := Except.map_eq_ok.1 h
    rw [List.forall_mem_append, bounds_holds ht hv hl hexact.1, bounds_holds ht hv hr hexact.2, Condition.holds,
      Bool.and_eq_true]
  | .paren inner, bs, h, hexact => by
    rw [bounds] at h
    rw [Condition.hasExactLiterals] at hexact
    rw [bounds_holds ht hv h hexact, Condition.holds]
  | .compare op l r, bs, h, hexact => ofComparison_holds h ht hexact hv
  | .or .., _, h, _ | .call .., _, h, _ | .varRef _, _, h, _ | .length _, _, h, _ | .literal _, _, h, _
  | .list _, _, h, _ => by cases h
termination_by structural c => c

/-! ## Keywords -/

theorem ofNumber_keyword {op : Comparison} {x : Binary64} {bs : List Bound} (h : ofNumber op x = .ok bs) :
    ∀ b ∈ bs, (Side.ofKeyword? b.1).isSome = true := by
  cases op <;> cases h <;> simp [Side.ofKeyword?]

theorem ofLength_keyword {op : Comparison} {x : Binary64} {type : String} {bs : List Bound}
    (h : ofLength op x type = .ok bs) : ∀ b ∈ bs, (Side.ofKeyword? b.1).isSome = true := by
  cases x with
  | finite x =>
    obtain ⟨-, hbounds, -⟩ := ofLength_eq_ok h
    obtain ⟨hlower, hupper⟩ := ofKeyword?_countKeywords type
    cases op <;> cases hbounds <;> simp [hlower, hupper]
  | infinite _ | nan => cases h

/-- Each bound of a conjunction is at a keyword of bounds. -/
theorem bounds_keyword {name type : String} : ∀ {c : Condition} {bs : List Bound},
    bounds name type c = .ok bs → ∀ b ∈ bs, (Side.ofKeyword? b.1).isSome = true
  | .and l r, bs, h => by
    rw [bounds] at h
    split at h
    · cases h
    next ls hl =>
    obtain ⟨rs, hr, rfl⟩ := Except.map_eq_ok.1 h
    intro b hb
    rcases List.mem_append.1 hb with hb | hb
    · exact bounds_keyword hl b hb
    · exact bounds_keyword hr b hb
  | .paren inner, bs, h => by
    rw [bounds] at h
    exact bounds_keyword h
  | .compare op l r, bs, h => by
    obtain ⟨op', s, b, n, -, -, ⟨-, -, hnum⟩ | ⟨-, -, hlen⟩⟩ := ofComparison_eq_ok h
    · exact ofNumber_keyword hnum
    · exact ofLength_keyword hlen
  | .or .., _, h | .call .., _, h | .varRef _, _, h | .length _, _, h | .literal _, _, h
  | .list _, _, h => by cases h
termination_by structural c => c

theorem get?_addBound_of_ne {b : Bound} {k : String} (h : b.1 ≠ k) (n : Node) :
    (addBound n b).get? k = n.get? k := by
  unfold addBound
  split
  · split
    · rw [Node.get?_set_of_ne h]
    · rfl
  · rw [Node.get?_set_of_ne h]

/-- At other keywords the tightest bounds hold nothing. -/
theorem get?_tightest {bs : List Bound} (hbs : ∀ b ∈ bs, (Side.ofKeyword? b.1).isSome = true) {k : String}
    (hk : Side.ofKeyword? k = none) : (tightest bs).get? k = none := by
  suffices ∀ n : Node, (bs.foldl addBound n).get? k = n.get? k from this Node.empty
  induction bs with
  | nil => exact fun _ => rfl
  | cons b bs ih =>
    intro n
    rw [List.forall_mem_cons] at hbs
    have hne : b.1 ≠ k := by
      rintro rfl
      rw [hk] at hbs
      cases hbs.1
    rw [List.foldl_cons, ih hbs.2, get?_addBound_of_ne hne]

/-! ## The tightest bounds -/

theorem addBound_eq_mergeKeyword (n : Node) (k : String) (x : Binary64.Finite) :
    addBound n (k, .finite x) = n.mergeKeyword k (boundJson (.finite x)) := by
  obtain ⟨y, hy, hyu⟩ := Number.isExact_iff.1 (Number.isExact_ofFinite x)
  have hu : y.toUnits = x.toUnits := hyu.trans (Number.toUnits_ofFinite x)
  unfold addBound Node.mergeKeyword Node.keeps
  rw [boundJson_finite]
  dsimp only [Json.number?]
  cases Side.ofKeyword? k with
  | none => rfl
  | some side =>
    cases n.number? k with
    | none => rfl
    | some current =>
      have htight : side.tighter current (Number.ofFinite x).toBinary64 = side.tighter current (.finite x) := by
        rw [hy, Side.tighter_congr side current hu]
      simp only [htight]
      cases side.tighter current (.finite x) <;> rfl

/-- Two exact bounds at one keyword are comparable. -/
theorem IsExact.comparableAt {a b : Bound} {side : Side} (ha : IsExact a side) (hb : IsExact b side)
    (hab : a.1 = b.1) : side.ComparableAt b.1 (boundJson a.2) (boundJson b.2) := by
  obtain ⟨x, hx⟩ := ha.finite
  obtain ⟨y, hy⟩ := hb.finite
  refine ⟨.ofFinite x, .ofFinite y, by rw [hx, boundJson_finite], by rw [hy, boundJson_finite],
    Side.comparable_of_exact side (Number.isExact_ofFinite x) (Number.isExact_ofFinite y), fun hc => ?_⟩
  obtain ⟨i, hi, -⟩ := ha.count (hab ▸ hc)
  obtain ⟨j, hj, -⟩ := hb.count hc
  rw [hx, boundJson_finite] at hi
  rw [hy, boundJson_finite] at hj
  exact ⟨⟨i, Json.num.inj hi⟩, j, Json.num.inj hj⟩

/-- An exact bound of a count is comparable with any length, also one that is not representable. -/
theorem IsExact.comparableAt_length {b : Bound} {side : Side} (hb : IsExact b side)
    (hk : b.1 ∈ Side.countKeywords) (len : Nat) : side.ComparableAt b.1 (.int len) (boundJson b.2) := by
  obtain ⟨i, hi, hreach, hupper⟩ := hb.count hk
  refine ⟨.integer len, .integer i, rfl, hi, ?_, fun _ => ⟨⟨len, rfl⟩, i, rfl⟩⟩
  by_cases hlen : len ≤ Binary64.wholeReach
  · exact Side.comparable_of_exact side (Number.isExact_integer (by simpa using hlen))
      (Number.isExact_integer (by simpa using hreach))
  · exact Side.comparable_of_reach (by omega) hreach hupper

/-- A node that holds only exact bounds. -/
def HoldsBounds (n : Node) : Prop :=
  ∀ k w, n.get? k = some w → ∃ b side, IsExact b side ∧ b.1 = k ∧ boundJson b.2 = w

theorem HoldsBounds.comparableAt {n : Node} (hn : HoldsBounds n) {b : Bound} {side : Side}
    (hb : IsExact b side) {u : Json} (hu : n.get? b.1 = some u) :
    side.ComparableAt b.1 u (boundJson b.2) := by
  obtain ⟨a, side', ha, hab, rfl⟩ := hn b.1 u hu
  have hside : side' = side := by
    have h := ha.keyword
    rw [hab, hb.keyword] at h
    exact (Option.some.inj h).symm
  subst hside
  exact ha.comparableAt hb hab

theorem get?_addBound {b : Bound} {side : Side} (hb : IsExact b side) (n : Node) (k : String) :
    (addBound n b).get? k = (n.mergeKeyword b.1 (boundJson b.2)).get? k := by
  obtain ⟨x, hx⟩ := hb.finite
  obtain ⟨l, y⟩ := b
  dsimp only at hx ⊢
  rw [hx, addBound_eq_mergeKeyword]

theorem HoldsBounds.addBound {n : Node} (hn : HoldsBounds n) {b : Bound} {side : Side} (hb : IsExact b side) :
    HoldsBounds (addBound n b) := by
  intro k w hw
  rw [get?_addBound hb, Node.get?_mergeKeyword] at hw
  split at hw
  · next h =>
    cases hw
    exact ⟨b, side, hb, h.1, rfl⟩
  · exact hn k w hw

theorem holdsAt_addBound {n : Node} (hn : HoldsBounds n) {b : Bound} {side : Side} (hb : IsExact b side)
    (v : Json) : (∀ k, (addBound n b).HoldsAt k v) ↔ (∀ k, n.HoldsAt k v) ∧ Meets v b := by
  have hself := Node.holdsAt_mergeKeyword hb.keyword (fun u hu => hn.comparableAt hb hu) v
  have hkey := fun k => Node.HoldsAt.congr (v := v) (get?_addBound hb n k)
  have hother : ∀ k, k ≠ b.1 → ((addBound n b).HoldsAt k v ↔ n.HoldsAt k v) := by
    intro k hk
    rw [hkey]
    refine Node.HoldsAt.congr ?_
    rw [Node.get?_mergeKeyword, if_neg fun h => hk h.1.symm]
  constructor
  · intro h
    obtain ⟨hn', hb'⟩ := hself.1 ((hkey b.1).1 (h b.1))
    refine ⟨fun k => ?_, hb'⟩
    by_cases hk : k = b.1
    · rw [hk]
      exact hn'
    · exact (hother k hk).1 (h k)
  · rintro ⟨h, hb'⟩ k
    by_cases hk : k = b.1
    · rw [hk, hkey]
      exact hself.2 ⟨h b.1, hb'⟩
    · exact (hother k hk).2 (h k)

theorem holdsAt_addBounds {bs : List Bound} (hbs : ∀ b ∈ bs, ∃ side, IsExact b side) (v : Json) :
    ∀ {n : Node}, HoldsBounds n → HoldsBounds (bs.foldl addBound n) ∧
      ((∀ k, (bs.foldl addBound n).HoldsAt k v) ↔ (∀ k, n.HoldsAt k v) ∧ ∀ b ∈ bs, Meets v b) := by
  induction bs with
  | nil => exact fun hn => ⟨hn, by simp⟩
  | cons b bs ih =>
    intro n hn
    rw [List.forall_mem_cons] at hbs
    obtain ⟨⟨side, hb⟩, hbs⟩ := hbs
    obtain ⟨hbounds, hholds⟩ := ih hbs (hn.addBound hb)
    refine ⟨hbounds, ?_⟩
    rw [List.foldl_cons, hholds, holdsAt_addBound hn hb, List.forall_mem_cons, and_assoc]

theorem holdsBounds_empty : HoldsBounds Node.empty := fun k w h => by
  rw [Node.get?_empty] at h
  cases h

theorem holdsBounds_tightest {bs : List Bound} (hbs : ∀ b ∈ bs, ∃ side, IsExact b side) :
    HoldsBounds (tightest bs) := (holdsAt_addBounds hbs .null holdsBounds_empty).1

/-- Keeping the tightest bound of each keyword keeps what all of them assert. -/
theorem holdsAt_tightest {bs : List Bound} (hbs : ∀ b ∈ bs, ∃ side, IsExact b side) (v : Json) :
    (∀ k, (tightest bs).HoldsAt k v) ↔ ∀ b ∈ bs, Meets v b := by
  refine (holdsAt_addBounds hbs v holdsBounds_empty).2.trans (and_iff_right fun k w h => ?_)
  rw [Node.get?_empty] at h
  cases h

end Range

end VarSchema
