import VarSchema.Proofs.Schema.Bounds

/-!
# Merging as an operation on nodes

* `Number.reading` : the value of the binary64 as which a number is read; `Number.lt_toBinary64_iff` : these are in the
  order of their values; `Side.tighter_trans`, `Side.not_tighter_trans` : so which of two bounds is tighter is a strict
  weak order, in which equal readings tie;
* `Node.select` : of the values of two nodes at one keyword, the one that stays; `Node.get?_merge_eq_select` : merging
  selects at each keyword; `Node.select_assoc`, `Node.select_select_self` : the laws of one keyword;
* `Node.merge_assoc`, `Node.merge_empty`, `Node.empty_merge`, `Node.merge_merge_self` : the laws of nodes;
  `Node.foldl_merge` : merging a run of nodes one by one merges what they are together;
* `Node.merge_idempotent_monoid` : all this, and what a node holds after merging.
-/

namespace VarSchema

/-! ## The order of readings -/

namespace Binary64

/-- The value in units. Infinite ones count as the first magnitude beyond the finite ones, and `nan`, as which no number
is read, as zero. -/
def value : Binary64 → Int
  | .finite x => x.toUnits
  | .infinite true => -limit
  | .infinite false => limit
  | .nan => 0

theorem limit_pos : 0 < limit := twoPow_pos _

theorem Finite.toUnits_bounds (x : Finite) : -(limit : Int) < x.toUnits ∧ x.toUnits < limit := by
  have hmagnitude := x.representable.2
  rw [← natAbs_toUnits] at hmagnitude
  omega

theorem lt_iff_value_lt {a b : Binary64} (ha : a ≠ .nan) (hb : b ≠ .nan) : a.lt b = true ↔ a.value < b.value := by
  have hlimit : -(limit : Int) < limit := by
    have := limit_pos
    omega
  cases a with
  | nan => exact absurd rfl ha
  | finite x =>
    have ⟨hlower, hupper⟩ := x.toUnits_bounds
    cases b with
    | nan => exact absurd rfl hb
    | finite y => exact decide_eq_true_iff
    | infinite negative =>
      cases negative with
      | true => exact iff_of_false Bool.false_ne_true (Int.lt_asymm hlower)
      | false => exact iff_of_true rfl hupper
  | infinite negative =>
    cases b with
    | nan => exact absurd rfl hb
    | finite y =>
      have ⟨hlower, hupper⟩ := y.toUnits_bounds
      cases negative with
      | true => exact iff_of_true rfl hlower
      | false => exact iff_of_false Bool.false_ne_true (Int.lt_asymm hupper)
    | infinite negative' =>
      cases negative <;> cases negative'
      · exact iff_of_false Bool.false_ne_true (Int.lt_irrefl _)
      · exact iff_of_false Bool.false_ne_true (Int.lt_asymm hlimit)
      · exact iff_of_true rfl hlimit
      · exact iff_of_false Bool.false_ne_true (Int.lt_irrefl _)

end Binary64

namespace Number

/-- The value of the binary64 as which a number is read. -/
def reading (n : Number) : Int := n.toBinary64.value

theorem toBinary64_ne_nan (n : Number) : n.toBinary64 ≠ .nan := by
  intro h
  cases n with
  | float x => cases h
  | integer i =>
    simp only [toBinary64, Binary64.ofInt, Binary64.ofUnits, Binary64.ofRatio] at h
    split at h <;> cases h

theorem lt_toBinary64_iff {m n : Number} : m.toBinary64.lt n.toBinary64 = true ↔ m.reading < n.reading :=
  Binary64.lt_iff_value_lt m.toBinary64_ne_nan n.toBinary64_ne_nan

end Number

namespace Side

variable {side : Side} {l m n : Number}

theorem lower_tighter_iff : lower.tighter m.toBinary64 n.toBinary64 = true ↔ m.reading < n.reading :=
  Number.lt_toBinary64_iff

theorem upper_tighter_iff : upper.tighter m.toBinary64 n.toBinary64 = true ↔ n.reading < m.reading :=
  Number.lt_toBinary64_iff

theorem tighter_trans (hlm : side.tighter l.toBinary64 m.toBinary64 = true)
    (hmn : side.tighter m.toBinary64 n.toBinary64 = true) : side.tighter l.toBinary64 n.toBinary64 = true := by
  cases side <;> simp only [lower_tighter_iff, upper_tighter_iff] at hlm hmn ⊢ <;> omega

theorem not_tighter_trans (hlm : side.tighter l.toBinary64 m.toBinary64 = false)
    (hmn : side.tighter m.toBinary64 n.toBinary64 = false) : side.tighter l.toBinary64 n.toBinary64 = false := by
  rw [← Bool.not_eq_true] at hlm hmn ⊢
  cases side <;> simp only [lower_tighter_iff, upper_tighter_iff] at hlm hmn ⊢ <;> omega

end Side

/-- Only a number has a number. -/
theorem Json.eq_num_of_number? {v : Json} {m : Number} (h : v.number? = some m) : v = .num m := by
  cases v <;> cases h
  rfl

namespace Node

variable {k : String} {side : Side} {a b c n : Node} {u v w : Json} {l m : Number}

/-! ## One keyword -/

/-- Of the values of two nodes at a keyword, the one that stays: of two numbers at a bound the second if it is tighter
and else the first, and in any other case the second. -/
def select (k : String) (u v : Json) : Json :=
  match Side.ofKeyword? k, u.number?, v.number? with
  | some side, some m, some n => if side.tighter m.toBinary64 n.toBinary64 then v else u
  | _, _, _ => v

theorem select_of_not_bound (hk : Side.ofKeyword? k = none) (u v : Json) : select k u v = v := by
  rw [select, hk]

theorem select_of_not_number_left (hu : u.number? = none) (v : Json) : select k u v = v := by
  rw [select, hu]
  cases Side.ofKeyword? k <;> rfl

theorem select_of_not_number_right (hv : v.number? = none) (u : Json) : select k u v = v := by
  rw [select, hv]
  cases Side.ofKeyword? k <;> cases u.number? <;> rfl

theorem select_num (hk : Side.ofKeyword? k = some side) (m l : Number) : select k (.num m) (.num l) =
    if side.tighter m.toBinary64 l.toBinary64 then .num l else .num m := by
  rw [select, hk]
  rfl

theorem select_eq_or (k : String) (u v : Json) : select k u v = u ∨ select k u v = v := by
  unfold select
  split
  · split
    · exact .inr rfl
    · exact .inl rfl
  · exact .inr rfl

theorem select_self (k : String) (v : Json) : select k v v = v := (select_eq_or k v v).elim id id

/-- Selecting the same value once more changes nothing. -/
theorem select_select_self (k : String) (u v : Json) : select k (select k u v) v = select k u v := by
  rcases select_eq_or k u v with h | h
  · rw [h, h]
  · rw [h, select_self]

theorem select_assoc_num (hk : Side.ofKeyword? k = some side) (l m n : Number) :
    select k (select k (.num l) (.num m)) (.num n) = select k (.num l) (select k (.num m) (.num n)) := by
  rw [select_num hk l m, select_num hk m n]
  cases hlm : side.tighter l.toBinary64 m.toBinary64 with
  | true =>
    cases hmn : side.tighter m.toBinary64 n.toBinary64 with
    | true =>
      have hln := Side.tighter_trans hlm hmn
      simp only [if_true, select_num hk, hmn, hln]
    | false => simp only [Bool.false_eq_true, if_true, if_false, select_num hk, hlm, hmn]
  | false =>
    cases hmn : side.tighter m.toBinary64 n.toBinary64 with
    | true => simp only [Bool.false_eq_true, if_true, if_false]
    | false =>
      have hln := Side.not_tighter_trans hlm hmn
      simp only [Bool.false_eq_true, if_false, select_num hk, hlm, hln]

/-- Selection is associative, if the value in the middle is a number at a bound. -/
theorem select_assoc (hv : (Side.ofKeyword? k).isSome = true → ∃ m, v = .num m) (u w : Json) :
    select k (select k u v) w = select k u (select k v w) := by
  cases hk : Side.ofKeyword? k with
  | none => rw [select_of_not_bound hk, select_of_not_bound hk, select_of_not_bound hk]
  | some side =>
    obtain ⟨m, rfl⟩ := hv (by rw [hk]; rfl)
    -- a value that is no number gives way to the one after it and replaces the one before it
    cases hu : u.number? with
    | none => rw [select_of_not_number_left hu (.num m), select_of_not_number_left hu]
    | some l =>
      cases hw : w.number? with
      | none => rw [select_of_not_number_right hw, select_of_not_number_right hw, select_of_not_number_right hw]
      | some n =>
        rw [Json.eq_num_of_number? hu, Json.eq_num_of_number? hw]
        exact select_assoc_num hk l m n

/-! ## Nodes -/

/-- Merging selects at each keyword that both nodes have. -/
theorem get?_merge_eq_select (n d : Node) (k : String) :
    (n.merge d).get? k = Option.merge (select k) (n.get? k) (d.get? k) := by
  rw [get?_merge]
  cases d.get? k with
  | none => cases n.get? k <;> rfl
  | some v =>
    cases hn : n.get? k with
    | none =>
      have hkeeps : n.keeps k v = false := by
        rw [keeps, number?, hn]
        cases Side.ofKeyword? k <;> rfl
      simp [hkeeps]
    | some u =>
      have hkeeps : (if n.keeps k v = true then some u else some v) = some (select k u v) := by
        rw [keeps, number?, hn, Option.bind_some, select]
        rcases Side.ofKeyword? k with _ | side
        · rfl
        rcases u.number? with _ | m
        · rfl
        rcases v.number? with _ | l
        · rfl
        cases h : side.tighter m.toBinary64 l.toBinary64 <;> simp [h]
      exact hkeeps

/-- The bounds of a node, where present, are numbers. -/
def HasNumericBounds (n : Node) : Prop :=
  ∀ k v, n.get? k = some v → (Side.ofKeyword? k).isSome = true → ∃ m, v = .num m

theorem merge_empty (a : Node) : a.merge empty = a := ext_get? fun _ => get?_merge_of_none rfl a

theorem empty_merge (a : Node) : empty.merge a = a := by
  refine ext_get? fun k => ?_
  rw [get?_merge_eq_select, get?_empty]
  cases a.get? k <;> rfl

/-- Merging is associative, if the bounds of the node in the middle are numbers. -/
theorem merge_assoc (a : Node) (hb : b.HasNumericBounds) (c : Node) : (a.merge b).merge c = a.merge (b.merge c) := by
  refine ext_get? fun k => ?_
  simp only [get?_merge_eq_select]
  cases hv : b.get? k with
  | none => cases a.get? k <;> cases c.get? k <;> rfl
  | some v =>
    cases a.get? k with
    | none => cases c.get? k <;> rfl
    | some u =>
      cases c.get? k with
      | none => rfl
      | some w => exact congrArg some (select_assoc (hb k v hv) u w)

theorem merge_merge_self (a b : Node) : (a.merge b).merge b = a.merge b := by
  refine ext_get? fun k => ?_
  simp only [get?_merge_eq_select]
  cases b.get? k with
  | none => cases a.get? k <;> rfl
  | some v =>
    cases a.get? k with
    | none => exact congrArg some (select_self k v)
    | some u => exact congrArg some (select_select_self k u v)

/-- Merging a run of nodes one by one merges what they are together. -/
theorem foldl_merge : ∀ {ds : List Node}, (∀ d ∈ ds, d.HasNumericBounds) → ∀ n : Node,
    ds.foldl merge n = n.merge (ds.foldl merge empty)
  | [], _, n => (merge_empty n).symm
  | d :: ds, h, n => by
    obtain ⟨hd, hds⟩ := List.forall_mem_cons.1 h
    calc (d :: ds).foldl merge n
        = (n.merge d).merge (ds.foldl merge empty) := foldl_merge hds (n.merge d)
      _ = n.merge (d.merge (ds.foldl merge empty)) := merge_assoc n hd _
      _ = n.merge (ds.foldl merge d) := by rw [← foldl_merge hds d]
      _ = n.merge ((d :: ds).foldl merge empty) := by rw [List.foldl_cons, empty_merge]

theorem hasNumericBounds_set_empty (k : String) (m : Number) : (empty.set k (.num m)).HasNumericBounds := by
  intro l v hv _
  obtain rfl := eq_of_get?_set_empty hv
  rw [get?_set_self] at hv
  exact ⟨m, (Option.some.inj hv).symm⟩

theorem HasNumericBounds.merge (ha : a.HasNumericBounds) (hb : b.HasNumericBounds) : (a.merge b).HasNumericBounds := by
  intro k v hv hk
  rcases get?_merge_cases hv with h | h
  · exact ha k v h hk
  · exact hb k v h hk

theorem mem_names_merge_iff : k ∈ (a.merge b).names ↔ k ∈ a.names ∨ k ∈ b.names := by
  simp only [mem_names_iff, get?_merge_eq_select]
  cases a.get? k <;> cases b.get? k <;> simp

/-- At a lower bound that both nodes have, the second node's number stays if it is read as larger, and else the
first's. -/
theorem get?_merge_lower (hk : Side.ofKeyword? k = some .lower) (ha : a.get? k = some (.num m))
    (hb : b.get? k = some (.num l)) :
    (a.merge b).get? k = some (.num (if m.reading < l.reading then l else m)) := by
  rw [get?_merge_eq_select, ha, hb, Option.merge_some_some, select_num hk]
  simp only [Side.lower_tighter_iff, apply_ite Json.num]

/-- At an upper bound, if it is read as smaller. -/
theorem get?_merge_upper (hk : Side.ofKeyword? k = some .upper) (ha : a.get? k = some (.num m))
    (hb : b.get? k = some (.num l)) :
    (a.merge b).get? k = some (.num (if l.reading < m.reading then l else m)) := by
  rw [get?_merge_eq_select, ha, hb, Option.merge_some_some, select_num hk]
  simp only [Side.upper_tighter_iff, apply_ite Json.num]

/-- **Merging is an idempotent monoid operation on the nodes whose bounds are numbers, and a run of merges is one merge
of what the run is by itself. A merged node has the keywords of both nodes. A keyword of only one keeps its value; of
both, it has the second value, but for a bound: this has the second value only if it is tighter, that is, read as a
larger binary64 at a lower bound and as a smaller one at an upper bound.** -/
theorem merge_idempotent_monoid :
    (∀ a b c : Node, b.HasNumericBounds → (a.merge b).merge c = a.merge (b.merge c)) ∧
    (∀ a : Node, a.merge empty = a ∧ empty.merge a = a) ∧
    (∀ a b : Node, a.HasNumericBounds → b.HasNumericBounds → (a.merge b).HasNumericBounds) ∧
    (∀ a b : Node, (a.merge b).merge b = a.merge b) ∧
    (∀ (a b : Node) (k : String), k ∈ (a.merge b).names ↔ k ∈ a.names ∨ k ∈ b.names) ∧
    (∀ (a b : Node) (k : String), b.get? k = none → (a.merge b).get? k = a.get? k) ∧
    (∀ (a b : Node) (k : String) (v : Json), a.get? k = none ∨ Side.ofKeyword? k = none → b.get? k = some v →
      (a.merge b).get? k = some v) ∧
    (∀ (a b : Node) (k : String) (m l : Number), a.get? k = some (.num m) → b.get? k = some (.num l) →
      (Side.ofKeyword? k = some .lower →
        (a.merge b).get? k = some (.num (if m.reading < l.reading then l else m))) ∧
      (Side.ofKeyword? k = some .upper →
        (a.merge b).get? k = some (.num (if l.reading < m.reading then l else m)))) ∧
    ∀ (n : Node) (ds : List Node), (∀ d ∈ ds, d.HasNumericBounds) →
      ds.foldl merge n = n.merge (ds.foldl merge empty) := by
  refine ⟨fun a b c hb => merge_assoc a hb c, fun a => ⟨merge_empty a, empty_merge a⟩, fun a b => .merge,
    merge_merge_self, fun a b k => mem_names_merge_iff, fun a b k hb => get?_merge_of_none hb a, ?_,
    fun a b k m l ha hb => ⟨fun hk => get?_merge_lower hk ha hb, fun hk => get?_merge_upper hk ha hb⟩,
    fun n ds hds => foldl_merge hds n⟩
  rintro a b k v (ha | hk) hb
  · rw [get?_merge_eq_select, ha, hb]
    rfl
  · exact get?_merge_of_not_bound hk hb a

/-- Two whole numbers that are read as the same binary64, in which case the first stays, and a smaller one: tighter as
an upper bound, and looser as a lower one. -/
theorem merge_idempotent_monoid_tie :
    let odd : Number := .integer 9007199254740993
    let even : Number := .integer 9007199254740992
    let a : Node := empty.set "maximum" (.num odd)
    let b : Node := empty.set "maximum" (.num even)
    let c : Node := empty.set "maximum" (.int 5)
    let d : Node := empty.set "minimum" (.num even)
    let e : Node := empty.set "minimum" (.int 5)
    a.HasNumericBounds ∧ b.HasNumericBounds ∧ c.HasNumericBounds ∧
      (a.merge b).merge c = a.merge (b.merge c) ∧ (a.merge b).HasNumericBounds ∧
      (a.merge b).get? "maximum" = some (.num odd) ∧ (a.merge c).get? "maximum" = some (.int 5) ∧
      (c.merge a).get? "maximum" = some (.int 5) ∧ (d.merge e).get? "minimum" = some (.num even) ∧
      (e.merge d).get? "minimum" = some (.num even) ∧ (empty.merge b).get? "maximum" = some (.num even) ∧
      [b, c].foldl merge a = a.merge ([b, c].foldl merge empty) := by
  intro odd even a b c d e
  obtain ⟨hassoc, -, hmerge, -, -, -, hother, hbound, hrun⟩ := merge_idempotent_monoid
  have ha : a.HasNumericBounds := hasNumericBounds_set_empty "maximum" odd
  have hb : b.HasNumericBounds := hasNumericBounds_set_empty "maximum" even
  have hc : c.HasNumericBounds := hasNumericBounds_set_empty "maximum" (.integer 5)
  have htie : ¬even.reading < odd.reading := by decide +kernel
  have hless : (Number.integer 5).reading < odd.reading := by decide +kernel
  have hless' : (Number.integer 5).reading < even.reading := by decide +kernel
  have hupper (m l : Number) : ((empty.set "maximum" (.num m)).merge (empty.set "maximum" (.num l))).get? "maximum" =
      some (.num (if l.reading < m.reading then l else m)) :=
    (hbound _ _ "maximum" m l (get?_set_self ..) (get?_set_self ..)).2 rfl
  have hlower (m l : Number) : ((empty.set "minimum" (.num m)).merge (empty.set "minimum" (.num l))).get? "minimum" =
      some (.num (if m.reading < l.reading then l else m)) :=
    (hbound _ _ "minimum" m l (get?_set_self ..) (get?_set_self ..)).1 rfl
  refine ⟨ha, hb, hc, hassoc a b c hb, hmerge a b ha hb, ?_, ?_, ?_, ?_, ?_,
    hother empty b _ _ (.inl rfl) (get?_set_self ..),
    hrun a [b, c] (List.forall_mem_cons.2 ⟨hb, List.forall_mem_singleton.2 hc⟩)⟩
  · rw [hupper odd even, if_neg htie]
  · exact (hupper odd (.integer 5)).trans (by rw [if_pos hless]; rfl)
  · exact (hupper (.integer 5) odd).trans (by rw [if_neg (Int.lt_asymm hless)]; rfl)
  · exact (hlower even (.integer 5)).trans (by rw [if_neg (Int.lt_asymm hless')])
  · exact (hlower (.integer 5) even).trans (by rw [if_pos hless'])

end Node

end VarSchema
