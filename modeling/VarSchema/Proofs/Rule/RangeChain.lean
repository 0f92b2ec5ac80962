import VarSchema.Proofs.Condition.Grammar
import VarSchema.Proofs.Rule.Given
import VarSchema.Proofs.Rule.NumberBound

/-!
# Chains of comparisons

* `Range.Links` : a comparison of the variable, or of its length, with a number on either side;
* `Range.Admits` : the operators and numbers that bound a type; `Range.boundsOf` : their keywords and value;
* `Range.linkBounds_eq_ok_iff` : the bounds of one link; `Range.bounds_eq_mapM` : a conjunction is read link by link;
* `Range.Gives` : the values that the links give at a keyword; `Range.get?_tightest_eq_some_iff` : the tightest of them
  stays, whatever their order;
* `Range.recognize_comparisons` : the conjunctions that are recognized, and their keywords.
-/

namespace VarSchema

namespace Range

variable {name t k : String} {op op' : Comparison} {s b c link : Condition} {n n' : Number} {v : Binary64}
  {x : Binary64.Finite} {bs : List Bound} {w : Json}

/-! ## Links -/

/-- What bounds of a type are about: the variable if it is a number, and else its length. -/
def IsSubject (name t : String) (s : Condition) : Prop := if t = "number" then s.IsReference name else s.IsLength name

/-- A comparison of the subject with a number; the operator is the one that has the subject on its left. -/
inductive Links (name t : String) : Condition → Comparison → Number → Prop
  | left {op : Comparison} {s b : Condition} {n : Number} :
      IsSubject name t s → b.Denotes (.num n) → Links name t (.compare op s b) op n
  | right {op : Comparison} {s b : Condition} {n : Number} :
      IsSubject name t s → b.Denotes (.num n) → Links name t (.compare op b s) op.mirrored n

theorem links_compare_iff {l r : Condition} : Links name t (.compare op l r) op' n ↔
    (op' = op ∧ IsSubject name t l ∧ r.Denotes (.num n)) ∨
      (op' = op.mirrored ∧ IsSubject name t r ∧ l.Denotes (.num n)) := by
  constructor
  · rintro (⟨hs, hb⟩ | ⟨hs, hb⟩)
    · exact .inl ⟨rfl, hs, hb⟩
    · exact .inr ⟨rfl, hs, hb⟩
  · rintro (⟨rfl, hs, hb⟩ | ⟨rfl, hs, hb⟩)
    · exact .left hs hb
    · exact .right hs hb

theorem isVar_of_isLength (h : s.IsLength name) : s.isVar name = false := by
  induction h with
  | length _ => rfl
  | call _ => rfl
  | paren _ ih => exact ih

theorem IsSubject.refers (h : IsSubject name t s) : refers name s = true := by
  unfold IsSubject at h
  rw [Range.refers, Bool.or_eq_true, Condition.isVar_iff, Condition.isLengthOf_iff]
  split at h
  · exact .inl h
  · exact .inr h

/-- A comparison has one subject and one number, since a number is no subject. -/
theorem Links.unique (h : Links name t link op n) (h' : Links name t link op' n') : op = op' ∧ n = n' := by
  have hconstant {b : Condition} {m m' : Number} (hm : b.Denotes (.num m)) (hm' : b.Denotes (.num m')) : m = m' := by
    rw [← Condition.literalValue?_eq_some_iff] at hm hm'
    cases hm.symm.trans hm'
    rfl
  have hsubject {b : Condition} {m : Number} (hm : b.Denotes (.num m)) (hs : IsSubject name t b) : False := by
    have hrefers : refers name b = false := refers_eq_false (Condition.literalValue?_eq_some_iff.2 hm)
    rw [hs.refers] at hrefers
    cases hrefers
  cases h with
  | left hs hb =>
    cases h' with
    | left _ hb' => exact ⟨rfl, hconstant hb hb'⟩
    | right hs' _ => exact (hsubject hb hs').elim
  | right hs hb =>
    cases h' with
    | left hs' _ => exact (hsubject hb hs').elim
    | right _ hb' => exact ⟨rfl, hconstant hb hb'⟩

/-! ## Bounds of links -/

/-- A whole number that is read as one below `2 ^ 63`, and is not negative after it is shifted. -/
def IsCount (op : Comparison) (n : Number) : Prop :=
  ∃ i : Int, n.toUnits = i * Binary64.one ∧ i.natAbs < n.readLimit ∧ 0 ≤ i + adjustment op

/-- The operators and numbers that bound a type. -/
def Admits (t : String) (op : Comparison) (n : Number) : Prop :=
  op ≠ .ne ∧ if t = "number" then op ≠ .eq else IsCount op n

/-- The keywords of a comparison. -/
def keywordsOf (t : String) (op : Comparison) : List String :=
  if t = "number" then (numberKeyword? op).toList else lengthKeywords (countKeywords t) op

/-- The value of a comparison's bound. -/
def valueOf (t : String) (op : Comparison) (n : Number) : Binary64 :=
  if t = "number" then n.toBinary64 else adjusted op n.toBinary64

/-- The bounds of a comparison. -/
def boundsOf (t : String) (op : Comparison) (n : Number) : List Bound :=
  (keywordsOf t op).map fun k => (k, valueOf t op n)

theorem ofNumber_eq_ok_iff_boundsOf :
    ofNumber op n.toBinary64 = .ok bs ↔ Admits "number" op n ∧ bs = boundsOf "number" op n := by
  cases op <;> simp [ofNumber, Admits, boundsOf, keywordsOf, numberKeyword?, valueOf, eq_comm]

theorem ofLength_eq_ok_iff_boundsOf (ht : t ≠ "number") :
    ofLength op n.toBinary64 t = .ok bs ↔ Admits t op n ∧ bs = boundsOf t op n := by
  have hbounds : boundsOf t op n =
      (lengthKeywords (countKeywords t) op).map fun k => (k, adjusted op n.toBinary64) := by
    rw [boundsOf, keywordsOf, if_neg ht, valueOf, if_neg ht]
  rw [hbounds, Admits, if_neg ht, IsCount, ← Number.exists_whole_reading_iff (natAbs_adjustment op),
    ofLength_eq_ok_iff, and_assoc]

/-- What a type is bounded by. -/
theorem ofSubject_eq_ok_iff (hs : refers name s = true) :
    op ≠ .ne ∧ ofSubject t (!s.isVar name) op n.toBinary64 = .ok bs ↔
      IsSubject name t s ∧ Admits t op n ∧ bs = boundsOf t op n := by
  have hlength : s.isVar name = false ↔ s.IsLength name := by
    constructor
    · intro hvar
      rw [refers, hvar, Bool.false_or] at hs
      exact Condition.isLengthOf_iff.1 hs
    · exact isVar_of_isLength
  have hne (h : Admits t op n ∧ bs = boundsOf t op n) : op ≠ .ne := h.1.1
  by_cases ht : t = "number"
  · subst ht
    rw [IsSubject, if_pos rfl, ← Condition.isVar_iff, ofSubject, if_pos rfl]
    cases s.isVar name with
    | false =>
      refine iff_of_false ?_ ?_
      · rintro ⟨-, hbs⟩
        cases hbs
      · rintro ⟨hsubject, -⟩
        cases hsubject
    | true =>
      show op ≠ .ne ∧ ofNumber op n.toBinary64 = .ok bs ↔ _
      rw [ofNumber_eq_ok_iff_boundsOf, and_iff_right_of_imp hne, and_iff_right rfl]
  · rw [IsSubject, if_neg ht, ← hlength, ofSubject, if_neg ht]
    cases s.isVar name with
    | true =>
      refine iff_of_false ?_ ?_
      · rintro ⟨-, hbs⟩
        cases hbs
      · rintro ⟨hsubject, -⟩
        cases hsubject
    | false =>
      show op ≠ .ne ∧ ofLength op n.toBinary64 t = .ok bs ↔ _
      rw [ofLength_eq_ok_iff_boundsOf ht, and_iff_right_of_imp hne, and_iff_right rfl]

/-- The bounds of one link. -/
def linkBounds (name t : String) : Condition → Except Reason (List Bound)
  | .compare op l r => ofComparison name t op l r
  | .or _ _ => .error .disjunctionNotRange
  | _ => .error .notEvaluable

theorem bounds_iff : Bounds name t op s b bs ↔
    ∃ n, IsSubject name t s ∧ b.Denotes (.num n) ∧ Admits t op n ∧ bs = boundsOf t op n := by
  unfold Bounds
  simp only [← Condition.literalValue?_eq_some_iff]
  constructor
  · rintro ⟨hop, hs, n, hb, hbs⟩
    obtain ⟨hsubject, hadmits, rfl⟩ := (ofSubject_eq_ok_iff hs).1 ⟨hop, hbs⟩
    exact ⟨n, hsubject, hb, hadmits, rfl⟩
  · rintro ⟨n, hs, hb, hadmits, rfl⟩
    obtain ⟨hop, hbs⟩ := (ofSubject_eq_ok_iff hs.refers).2 ⟨hs, hadmits, rfl⟩
    exact ⟨hop, hs.refers, n, hb, hbs⟩

/-- A link has bounds just if it is a comparison of the subject with a number that its type admits. -/
theorem linkBounds_eq_ok_iff : linkBounds name t link = .ok bs ↔
    ∃ op n, Links name t link op n ∧ Admits t op n ∧ bs = boundsOf t op n := by
  cases link with
  | compare op l r =>
    show ofComparison name t op l r = .ok bs ↔ _
    rw [ofComparison_eq_ok_iff, bounds_iff, bounds_iff]
    simp only [links_compare_iff]
    constructor
    · rintro (⟨n, hs, hb, hadmits, hbs⟩ | ⟨n, hs, hb, hadmits, hbs⟩)
      · exact ⟨op, n, .inl ⟨rfl, hs, hb⟩, hadmits, hbs⟩
      · exact ⟨op.mirrored, n, .inr ⟨rfl, hs, hb⟩, hadmits, hbs⟩
    · rintro ⟨op', n, ⟨rfl, hs, hb⟩ | ⟨rfl, hs, hb⟩, hadmits, hbs⟩
      · exact .inl ⟨n, hs, hb, hadmits, hbs⟩
      · exact .inr ⟨n, hs, hb, hadmits, hbs⟩
  | _ => exact iff_of_false nofun (fun ⟨_, _, h, _⟩ => nomatch h)

/-! ## Chains -/

/-- A conjunction is read link by link. -/
theorem bounds_eq_mapM : ∀ c : Condition,
    bounds name t c = (c.conjuncts.mapM (linkBounds name t)).map List.flatten
  | .and l r => by
    rw [bounds, bounds_eq_mapM l, bounds_eq_mapM r, Condition.conjuncts, Except.mapM_append]
    cases l.conjuncts.mapM (linkBounds name t) with
    | error e => rfl
    | ok ls => cases r.conjuncts.mapM (linkBounds name t) <;> simp [Except.map, Except.bind]
  | .paren inner => bounds_eq_mapM inner
  | .compare op l r => by
    show ofComparison name t op l r = ([Condition.compare op l r].mapM (linkBounds name t)).map List.flatten
    rw [Except.mapM_singleton, linkBounds]
    cases ofComparison name t op l r <;> simp [Except.map]
  | .or .. | .call .. | .varRef _ | .length _ | .literal _ | .list _ => rfl
termination_by structural c => c

theorem isOk_bounds_iff : (bounds name t c).isOk = true ↔
    ∀ link ∈ c.conjuncts, ∃ op n, Links name t link op n ∧ Admits t op n := by
  have hlink (link : Condition) : (linkBounds name t link).isOk = true ↔
      ∃ op n, Links name t link op n ∧ Admits t op n := by
    simp only [Except.isOk_iff, linkBounds_eq_ok_iff]
    constructor
    · rintro ⟨bs, op, n, hlinks, hadmits, -⟩
      exact ⟨op, n, hlinks, hadmits⟩
    · rintro ⟨op, n, hlinks, hadmits⟩
      exact ⟨_, op, n, hlinks, hadmits, rfl⟩
  rw [bounds_eq_mapM, Except.isOk_map, Except.isOk_mapM_iff]
  simp only [hlink]

/-! ## Values at a keyword -/

/-- A link gives a value at a keyword. -/
def Gives (name t : String) (c : Condition) (k : String) (v : Binary64) : Prop :=
  ∃ link ∈ c.conjuncts, ∃ op n, Links name t link op n ∧ k ∈ keywordsOf t op ∧ v = valueOf t op n

theorem Gives.congr {other : Condition} (h : ∀ link, link ∈ other.conjuncts ↔ link ∈ c.conjuncts) :
    Gives name t other k v ↔ Gives name t c k v := by
  simp only [Gives, h]

/-- The bounds of a conjunction are the values that its links give. -/
theorem mem_bounds_iff (h : bounds name t c = .ok bs) : (k, v) ∈ bs ↔ Gives name t c k v := by
  rw [bounds_eq_mapM] at h
  obtain ⟨parts, hparts, rfl⟩ := Except.map_eq_ok.1 h
  rw [List.mem_flatten]
  constructor
  · rintro ⟨part, hpart, hv⟩
    obtain ⟨link, hlink, hbounds⟩ := (Except.mem_of_mapM_eq_ok hparts).1 hpart
    obtain ⟨op, n, hlinks, -, rfl⟩ := linkBounds_eq_ok_iff.1 hbounds
    obtain ⟨k', hk, hkv⟩ := List.mem_map.1 hv
    cases hkv
    exact ⟨link, hlink, op, n, hlinks, hk, rfl⟩
  · rintro ⟨link, hlink, op, n, hlinks, hk, rfl⟩
    -- this link has bounds like all others, and only one operator and one number
    obtain ⟨part, hbounds⟩ := Except.isOk_iff.1 (Except.isOk_mapM_iff.1 (Except.isOk_iff.2 ⟨parts, hparts⟩) link hlink)
    have hpart := (Except.mem_of_mapM_eq_ok hparts).2 ⟨link, hlink, hbounds⟩
    obtain ⟨op', n', hlinks', -, rfl⟩ := linkBounds_eq_ok_iff.1 hbounds
    obtain ⟨rfl, rfl⟩ := hlinks.unique hlinks'
    exact ⟨_, hpart, List.mem_map_of_mem hk⟩

/-- What the bounds hold at a keyword. -/
def valuesAt (k : String) (bs : List Bound) : List Json := (bs.filter fun b => b.1 = k).map fun b => boundJson b.2

theorem mem_valuesAt : w ∈ valuesAt k bs ↔ ∃ v, (k, v) ∈ bs ∧ boundJson v = w := by
  simp only [valuesAt, List.mem_map, List.mem_filter, decide_eq_true_eq, Prod.exists]
  constructor
  · rintro ⟨_, v, ⟨hv, rfl⟩, hw⟩
    exact ⟨v, hv, hw⟩
  · rintro ⟨v, hv, hw⟩
    exact ⟨k, v, ⟨hv, rfl⟩, hw⟩

/-- Adding bounds adds what they hold to the values of which the tightest stays. -/
theorem holdsTightest_addBounds {side : Side} (hk : Side.ofKeyword? k = some side) :
    ∀ {bs : List Bound} {n : Node} {values : List Json}, (∀ b ∈ bs, ∃ x, b.2 = .finite x) →
      (∀ u ∈ values, u.IsBound) → n.HoldsTightest side k values →
      (bs.foldl addBound n).HoldsTightest side k (values ++ valuesAt k bs)
  | [], n, values, _, _, hn => by
    rw [valuesAt, List.filter_nil, List.map_nil, List.append_nil]
    exact hn
  | (l, v) :: bs, n, values, hbs, hvalues, hn => by
    obtain ⟨⟨x, rfl⟩, htail⟩ := List.forall_mem_cons.1 hbs
    rw [List.foldl_cons, addBound_eq_mergeKeyword]
    by_cases hl : l = k
    · subst l
      have hadd := hn.mergeKeyword hk hvalues (isBound_of_finite (rfl : Binary64.finite x = .finite x))
      have hmore := holdsTightest_addBounds hk htail
        (List.forall_mem_append.2 ⟨hvalues, List.forall_mem_singleton.2 (isBound_of_finite rfl)⟩) hadd
      rw [List.append_assoc] at hmore
      simpa [valuesAt] using hmore
    · -- a bound at another keyword leaves what is held at this one
      have hother := hn.congr (m := n.mergeKeyword l (boundJson (.finite x)))
        (by rw [Node.get?_mergeKeyword, if_neg fun h => hl h.1])
      have hmore := holdsTightest_addBounds hk htail hvalues hother
      simpa [valuesAt, hl] using hmore

theorem holdsTightest_tightest {side : Side} (hk : Side.ofKeyword? k = some side)
    (hbs : ∀ b ∈ bs, ∃ x, b.2 = .finite x) : (tightest bs).HoldsTightest side k (valuesAt k bs) :=
  holdsTightest_addBounds hk hbs (List.forall_mem_nil _) (.inl ⟨rfl, rfl⟩)

/-- At a keyword the tightest bounds hold the value than which no other there is tighter. -/
theorem get?_tightest_eq_some_iff {side : Side} (hk : Side.ofKeyword? k = some side)
    (hbs : ∀ b ∈ bs, ∃ x, b.2 = .finite x) : (tightest bs).get? k = some w ↔
      ∃ v, (k, v) ∈ bs ∧ w = boundJson v ∧ ∀ v', (k, v') ∈ bs → side.tighter v v' = false := by
  obtain ⟨hnil, hnone⟩ | ⟨m, hm, hget, htightest⟩ := holdsTightest_tightest hk hbs
  · refine iff_of_false (by rw [hnone]; nofun) ?_
    rintro ⟨v, hv, -⟩
    exact List.ne_nil_of_mem (mem_valuesAt.2 ⟨v, hv, rfl⟩) hnil
  · obtain ⟨v₀, hv₀, hm⟩ := mem_valuesAt.1 hm
    obtain ⟨x₀, rfl⟩ : ∃ x, v₀ = .finite x := hbs _ hv₀
    obtain rfl : Number.ofFinite x₀ = m := Json.num.inj hm
    have hnone_tighter (v : Binary64) (hv : (k, v) ∈ bs) : side.tighter (.finite x₀) v = false := by
      obtain ⟨x, rfl⟩ : ∃ x, v = .finite x := hbs _ hv
      obtain ⟨a, ha, hnarrows⟩ := htightest _ (mem_valuesAt.2 ⟨_, hv, rfl⟩)
      obtain rfl : Number.ofFinite x = a := Json.num.inj ha
      rwa [Side.narrows_ofFinite] at hnarrows
    rw [hget, Option.some.injEq]
    constructor
    · rintro rfl
      exact ⟨_, hv₀, rfl, hnone_tighter⟩
    · rintro ⟨v, hv, rfl, htighter⟩
      obtain ⟨x, rfl⟩ : ∃ x, v = .finite x := hbs _ hv
      have hx₀ := hnone_tighter _ hv
      have hx := htighter _ hv₀
      rw [← Side.narrows_ofFinite] at hx₀ hx
      have hunits := Side.toUnits_eq_of_not_narrows hx₀ hx
      rw [Number.toUnits_ofFinite, Number.toUnits_ofFinite] at hunits
      rw [boundJson_finite, Number.ofFinite_eq_of_toUnits_eq hunits]

/-! ## Conjunctions -/

variable {type : Option String} {d : Node}

theorem finite_of_gives (hrange : c.HasNumbersInRange) (h : bounds name t c = .ok bs) (hv : Gives name t c k v) :
    ∃ x, v = .finite x := by
  obtain ⟨x, hx⟩ := isBound_of_bounds h hrange _ ((mem_bounds_iff h).2 hv)
  cases v with
  | finite y => exact ⟨y, rfl⟩
  | infinite _ | nan => cases hx

theorem get?_of_bounds (h : bounds name t c = .ok bs) (hfinite : ∀ k v, Gives name t c k v → ∃ x, v = .finite x)
    {side : Side} (hk : Side.ofKeyword? k = some side) : (tightest bs).get? k = some w ↔
      ∃ v, Gives name t c k v ∧ w = boundJson v ∧ ∀ v', Gives name t c k v' → side.tighter v v' = false := by
  simp only [← mem_bounds_iff h]
  exact get?_tightest_eq_some_iff hk fun b hb => hfinite b.1 b.2 ((mem_bounds_iff h).1 hb)

theorem mem_names_of_bounds (h : bounds name t c = .ok bs)
    (hfinite : ∀ k v, Gives name t c k v → ∃ x, v = .finite x) :
    k ∈ (tightest bs).names ↔ ∃ v, Gives name t c k v := by
  rw [Node.mem_names_iff, Option.isSome_iff_exists]
  constructor
  · rintro ⟨w, hw⟩
    obtain ⟨⟨l, v⟩, hb, rfl, -⟩ := exists_bound hw
    exact ⟨v, (mem_bounds_iff h).1 hb⟩
  · rintro ⟨v, hv⟩
    have hb := (mem_bounds_iff h).2 hv
    obtain ⟨side, hk⟩ := Option.isSome_iff_exists.1 (bounds_keyword h _ hb)
    obtain ⟨hnil, -⟩ | ⟨m, -, hget, -⟩ :=
      holdsTightest_tightest hk fun b hb => hfinite b.1 b.2 ((mem_bounds_iff h).1 hb)
    · exact absurd hnil (List.ne_nil_of_mem (mem_valuesAt.2 ⟨v, hb, rfl⟩))
    · exact ⟨_, hget⟩

/-- Conjunctions of the same links have the same bounds. -/
theorem recognize_congr {other : Condition} (hsame : ∀ link, link ∈ other.conjuncts ↔ link ∈ c.conjuncts)
    (hrange : c.HasNumbersInRange) (h : Rule.rangeChain.recognize name type c = .ok d) :
    Rule.rangeChain.recognize name type other = .ok d := by
  obtain ⟨t, bs, rfl, ht, hbs, rfl⟩ := ofComparisons_eq_ok_iff.1 h
  have hisOk : (bounds name t other).isOk = true := by
    rw [isOk_bounds_iff]
    simp only [hsame]
    exact isOk_bounds_iff.1 (Except.isOk_iff.2 ⟨bs, hbs⟩)
  obtain ⟨bs', hbs'⟩ := Except.isOk_iff.1 hisOk
  refine ofComparisons_eq_ok_iff.2 ⟨t, bs', rfl, ht, hbs', Node.ext_get? fun k => ?_⟩
  have hfinite (k : String) (v : Binary64) (hv : Gives name t c k v) := finite_of_gives hrange hbs hv
  cases hk : Side.ofKeyword? k with
  | none => rw [get?_tightest (bounds_keyword hbs) hk, get?_tightest (bounds_keyword hbs') hk]
  | some side =>
    ext w
    rw [get?_of_bounds hbs hfinite hk, get?_of_bounds hbs' (fun k v hv => hfinite k v ((Gives.congr hsame).1 hv)) hk]
    simp only [Gives.congr hsame]

/-- **A condition is recognized as bounds if and only if the type has some and each of its links compares the variable,
or its length, with a number that the type admits. It has the keywords that the links give, each with the tightest of
the values given there, so that neither the order of the links nor how they are grouped or repeated matters.** -/
theorem recognize_comparisons (name : String) (type : Option String) (c : Condition) :
    ((Rule.rangeChain.recognize name type c).isOk = true ↔
      ∃ t ∈ ["number", "array", "object", "string"], type = some t ∧
        ∀ link ∈ c.conjuncts, ∃ op n, Links name t link op n ∧ Admits t op n) ∧
    ∀ t d, type = some t → c.HasNumbersInRange → Rule.rangeChain.recognize name type c = .ok d →
      (∀ k, k ∈ d.names ↔ ∃ v, Gives name t c k v) ∧
      (∀ k side w, Side.ofKeyword? k = some side → (d.get? k = some w ↔
        ∃ v, Gives name t c k v ∧ w = boundJson v ∧ ∀ v', Gives name t c k v' → side.tighter v v' = false)) ∧
      ∀ other : Condition, (∀ link, link ∈ other.conjuncts ↔ link ∈ c.conjuncts) →
        Rule.rangeChain.recognize name type other = .ok d := by
  constructor
  · simp only [← isOk_bounds_iff, Except.isOk_iff]
    constructor
    · rintro ⟨d, hd⟩
      obtain ⟨t, bs, rfl, ht, hbs, -⟩ := ofComparisons_eq_ok_iff.1 hd
      exact ⟨t, ht, rfl, bs, hbs⟩
    · rintro ⟨t, ht, rfl, bs, hbs⟩
      exact ⟨_, ofComparisons_eq_ok_iff.2 ⟨t, bs, rfl, ht, hbs, rfl⟩⟩
  · intro t d ht hrange hd
    obtain ⟨t', bs, htype, -, hbs, rfl⟩ := ofComparisons_eq_ok_iff.1 hd
    obtain rfl : t' = t := Option.some.inj (htype.symm.trans ht)
    have hfinite (k : String) (v : Binary64) (hv : Gives name t' c k v) := finite_of_gives hrange hbs hv
    exact ⟨fun k => mem_names_of_bounds hbs hfinite, fun k side w hk => get?_of_bounds hbs hfinite hk,
      fun other hsame => recognize_congr hsame hrange hd⟩

/-- Bounds of a length in both spellings and on both sides, of which two are lower, and the same links in another order
and grouping and with one of them repeated. -/
theorem recognize_comparisons_regrouped :
    let a : Condition := .compare .ge (.length (.varRef "x")) (.literal (.int 5))
    let b : Condition := .compare .lt (.literal (.int 2)) (.call "length" [.varRef "x"])
    let e : Condition := .compare .le (.paren (.length (.varRef "x"))) (.literal (.int 9))
    let left : Condition := .and (.paren (.and a b)) e
    let right : Condition := .and e (.and (.paren b) (.and a b))
    left.HasNumbersInRange ∧ (∀ link, link ∈ right.conjuncts ↔ link ∈ left.conjuncts) ∧
      ∃ d, Rule.rangeChain.recognize "x" (some "string") left = .ok d ∧
        Rule.rangeChain.recognize "x" (some "string") right = .ok d ∧
        (∃ v, Gives "x" "string" left "minLength" v) ∧ d.entries = [("maxLength", .int 9), ("minLength", .int 5)] := by
  intro a b e left right
  have hrange : left.HasNumbersInRange := by
    intro op l r hmem n hn
    simp only [left, a, b, e, Condition.comparisons, List.cons_append, List.nil_append, List.mem_cons,
      List.not_mem_nil, or_false] at hmem
    obtain hmem | hmem | hmem := hmem <;> cases hmem <;> rcases hn with hn | hn <;> cases hn
    all_goals exact ⟨by decide +kernel, by decide +kernel⟩
  have hsame (link : Condition) : link ∈ right.conjuncts ↔ link ∈ left.conjuncts := by
    simp only [right, left, Condition.conjuncts, List.mem_append]
    tauto
  have hread : (Rule.rangeChain.recognize "x" (some "string") left).toOption.map Node.entries =
      some [("maxLength", .int 9), ("minLength", .int 5)] := by decide +kernel
  cases hd : Rule.rangeChain.recognize "x" (some "string") left with
  | error e =>
    rw [hd] at hread
    cases hread
  | ok d =>
    have hentries : d.entries = [("maxLength", .int 9), ("minLength", .int 5)] := by
      rw [hd] at hread
      exact Option.some.inj hread
    obtain ⟨hnames, -, hother⟩ := (recognize_comparisons "x" (some "string") left).2 "string" d rfl hrange hd
    refine ⟨hrange, hsame, d, rfl, hother right hsame, (hnames "minLength").1 ?_, hentries⟩
    show "minLength" ∈ Entries.keys d.entries
    rw [hentries]
    decide

/-- The last whole number of 63 bits is read as `2 ^ 63`, which is out of range. -/
theorem recognize_comparisons_refused :
    let n : Number := .integer 9223372036854775807
    let link : Condition := .compare .le (.length (.varRef "x")) (.literal (.num n))
    link.conjuncts = [link] ∧ Links "x" "string" link .le n ∧
      (∃ i : Int, n.toUnits = i * Binary64.one ∧ i.natAbs < Number.wholeLimit ∧ 0 ≤ i + adjustment .le) ∧
      (Rule.rangeChain.recognize "x" (some "string") link).isOk = false := by
  intro n link
  exact ⟨rfl, .left (.length .varRef) (.literal _), ⟨_, rfl, by decide +kernel, by decide⟩, by decide +kernel⟩

end Range

end VarSchema
