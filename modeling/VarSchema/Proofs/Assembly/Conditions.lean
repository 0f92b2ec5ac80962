import VarSchema.Assembly
import VarSchema.Proofs.Rule.Delta

/-!
# What a run of conditions does to a node

* `Variable.applyAll_of_ok`, `Variable.applyAll_of_error` : one step; `Variable.typeName?_applyAll` : the type stays,
  so that each condition is recognized or not by itself;
* `Variable.get?_applyAll` : keywords that no condition sets stay; `Variable.mem_applyAll` : a condition that is not
  recognized is reported;
* `Variable.exists_source_of_applyAll` : where the keywords of a run come from; `Variable.applyAll_congr` : at each
  keyword a run depends on the node's type and that keyword alone, and what it leaves out on the type;
* `Variable.holdsAt_applyAll_of_comparable` : at a keyword of bounds, a run is the conjunction of its conditions, if
  they are comparable; `Node.IsComparable`, `Variable.holdsAt_applyAll` : as those with exact literals are;
* `Variable.holdsAt_of_applyAll` : what a condition asserts stays, unless a later one replaces it.
-/

namespace VarSchema

/-- The bounds of the node are comparable with every exact bound. -/
def Node.IsComparable (n : Node) : Prop :=
  ∀ b side, Range.IsExact b side → ∀ u, n.get? b.1 = some u → side.ComparableAt b.1 u (Range.boundJson b.2)

namespace Variable

variable {name : String} {n d : Node} {c : Condition} {cs : List Condition}

/-! ## One step -/

theorem applyAll_of_ok (h : c.toDelta name n = .ok d) :
    applyAll name (c :: cs) n = applyAll name cs (n.merge d) := by
  rw [applyAll, Node.apply, h]
  rfl

theorem applyAll_of_error {cause : NotApplicable} (h : c.toDelta name n = .error cause) :
    applyAll name (c :: cs) n =
      ((applyAll name cs n).1, .conditionNotApplicable name cause :: (applyAll name cs n).2) := by
  rw [applyAll, Node.apply, h]
  rfl

/-! ## Runs -/

/-- A run is one part after the other. -/
theorem applyAll_append (before after : List Condition) (n : Node) :
    applyAll name (before ++ after) n =
      ((applyAll name after (applyAll name before n).1).1,
        (applyAll name before n).2 ++ (applyAll name after (applyAll name before n).1).2) := by
  induction before generalizing n with
  | nil => rfl
  | cons c before ih =>
    rw [List.cons_append]
    cases h : c.toDelta name n with
    | ok d => rw [applyAll_of_ok h, applyAll_of_ok h, ih]
    | error cause => rw [applyAll_of_error h, applyAll_of_error h, ih, List.cons_append]

/-- Keywords that no condition sets stay. -/
theorem get?_applyAll {k : String} (hk : Side.ofKeyword? k = none) :
    ∀ {cs : List Condition} (n : Node), (∀ c ∈ cs, c.sets name k = false) →
      (applyAll name cs n).1.get? k = n.get? k
  | [], _, _ => rfl
  | c :: cs, n, hcs => by
    rw [List.forall_mem_cons] at hcs
    cases h : c.toDelta name n with
    | ok d =>
      have hnone : d.get? k = none := by
        cases hd : d.get? k with
        | none => rfl
        | some w =>
          have hsets := Condition.sets_of_get? h hk hd
          rw [hcs.1] at hsets
          cases hsets
      rw [applyAll_of_ok h, get?_applyAll hk _ hcs.2, Node.get?_merge_of_none hnone]
    | error cause => rw [applyAll_of_error h, get?_applyAll hk _ hcs.2]

theorem typeName?_applyAll (cs : List Condition) (n : Node) : (applyAll name cs n).1.typeName? = n.typeName? := by
  rw [Node.typeName?, get?_applyAll rfl n fun _ _ => rfl, Node.typeName?]

/-- A condition that is not recognized is reported. -/
theorem mem_applyAll {cause : NotApplicable} : ∀ {cs : List Condition} {n : Node}, c ∈ cs →
    c.toDelta name n = .error cause → .conditionNotApplicable name cause ∈ (applyAll name cs n).2
  | c' :: cs, n, hmem, hc => by
    cases h : c'.toDelta name n with
    | ok d =>
      rw [applyAll_of_ok h]
      rcases List.mem_cons.1 hmem with rfl | hmem
      · rw [h] at hc
        cases hc
      · refine mem_applyAll hmem ?_
        rwa [Condition.toDelta_congr (Condition.typeName?_merge_toDelta h)]
    | error cause' =>
      rw [applyAll_of_error h]
      rcases List.mem_cons.1 hmem with rfl | hmem
      · rw [h] at hc
        cases hc
        exact List.mem_cons_self ..
      · exact List.mem_cons_of_mem _ (mem_applyAll hmem hc)

/-- What a run leaves at a keyword stood there before, or a condition gives it. -/
theorem exists_source_of_applyAll {k : String} {w : Json} : ∀ {cs : List Condition} {n : Node},
    (applyAll name cs n).1.get? k = some w →
      n.get? k = some w ∨ ∃ c ∈ cs, ∃ d, c.toDelta name n = .ok d ∧ d.get? k = some w
  | [], _, hw => .inl hw
  | c :: cs, n, hw => by
    cases h : c.toDelta name n with
    | error cause =>
      rw [applyAll_of_error h] at hw
      refine (exists_source_of_applyAll hw).imp_right ?_
      rintro ⟨c', hc', d, hd⟩
      exact ⟨c', List.mem_cons_of_mem _ hc', d, hd⟩
    | ok d =>
      rw [applyAll_of_ok h] at hw
      rcases exists_source_of_applyAll hw with hmerge | ⟨c', hc', d', hd', hw'⟩
      · exact (Node.get?_merge_cases hmerge).imp_right fun hd => ⟨c, List.mem_cons_self .., d, h, hd⟩
      · rw [Condition.toDelta_congr (Condition.typeName?_merge_toDelta h)] at hd'
        exact .inr ⟨c', List.mem_cons_of_mem _ hc', d', hd', hw'⟩

/-- On nodes of one type, runs leave out the same conditions and agree at the keywords at which the nodes do. -/
theorem applyAll_congr : ∀ {cs : List Condition} {n m : Node}, n.typeName? = m.typeName? →
    (applyAll name cs n).2 = (applyAll name cs m).2 ∧
      ∀ k, n.get? k = m.get? k → (applyAll name cs n).1.get? k = (applyAll name cs m).1.get? k
  | [], _, _, _ => ⟨rfl, fun _ hk => hk⟩
  | c :: cs, n, m, htype => by
    have hsame : c.toDelta name n = c.toDelta name m := Condition.toDelta_congr htype
    cases h : c.toDelta name m with
    | error cause =>
      obtain ⟨hdiagnostics, hkeywords⟩ : _ ∧ _ := applyAll_congr htype
      rw [applyAll_of_error h, applyAll_of_error (hsame.trans h), hdiagnostics]
      exact ⟨rfl, hkeywords⟩
    | ok d =>
      have hmerge : (n.merge d).typeName? = (m.merge d).typeName? := by
        rw [Condition.typeName?_merge_toDelta h, Condition.typeName?_merge_toDelta h, htype]
      obtain ⟨hdiagnostics, hkeywords⟩ := applyAll_congr hmerge
      rw [applyAll_of_ok h, applyAll_of_ok (hsame.trans h)]
      exact ⟨hdiagnostics, fun k hk => hkeywords k (Node.get?_merge_congr hk d)⟩

/-! ## Bounds -/

/-- At a keyword of bounds, a run is the conjunction of its conditions, if what conditions set there is comparable. -/
theorem holdsAt_applyAll_of_comparable {k : String} {side : Side} (hk : Side.ofKeyword? k = some side)
    (IsBound : Json → Prop) (hbounds : ∀ u w, IsBound u → IsBound w → side.ComparableAt k u w) (v : Json) :
    ∀ {cs : List Condition} {n : Node},
      (∀ c ∈ cs, ∀ m d w, c.toDelta name m = .ok d → d.get? k = some w → IsBound w) →
      (∀ u w, n.get? k = some u → IsBound w → side.ComparableAt k u w) →
      ((applyAll name cs n).1.HoldsAt k v ↔
        n.HoldsAt k v ∧ ∀ c ∈ cs, ∀ d, c.toDelta name n = .ok d → d.HoldsAt k v)
  | [], _, _, _ => by simp [applyAll]
  | c :: cs, n, hcs, hn => by
    rw [List.forall_mem_cons] at hcs ⊢
    cases h : c.toDelta name n with
    | error cause =>
      rw [applyAll_of_error h, holdsAt_applyAll_of_comparable hk IsBound hbounds v hcs.2 hn]
      simp
    | ok d =>
      have htype := Condition.typeName?_merge_toDelta (m := n) h
      have hmerge : ∀ u w, (n.merge d).get? k = some u → IsBound w → side.ComparableAt k u w := by
        intro u w hu hw
        rcases Node.get?_merge_cases hu with hu | hu
        · exact hn u w hu hw
        · exact hbounds u w (hcs.1 n d u h hu) hw
      rw [applyAll_of_ok h, holdsAt_applyAll_of_comparable hk IsBound hbounds v hcs.2 hmerge,
        Node.holdsAt_merge hk fun u w hu hw => hn u w hu (hcs.1 n d w h hw), and_assoc]
      simp only [Condition.toDelta_congr htype, Except.ok.injEq, forall_eq']

/-- So is it if the literals are exact. -/
theorem holdsAt_applyAll {k : String} {side : Side} (hk : Side.ofKeyword? k = some side) (v : Json)
    (hexact : ∀ c ∈ cs, c.hasExactLiterals name = true) (hn : n.IsComparable) :
    (applyAll name cs n).1.HoldsAt k v ↔
      n.HoldsAt k v ∧ ∀ c ∈ cs, ∀ d, c.toDelta name n = .ok d → d.HoldsAt k v := by
  refine holdsAt_applyAll_of_comparable hk (fun w => ∃ b, Range.IsExact b side ∧ b.1 = k ∧ Range.boundJson b.2 = w)
    ?_ v (fun c hc m d w h hw => Condition.exists_bound_of_get? h (hexact c hc) hk hw) ?_
  · rintro u w ⟨a, ha, rfl, rfl⟩ ⟨b, hb, hba, rfl⟩
    have hcomparable := ha.comparableAt hb hba.symm
    rwa [hba] at hcomparable
  · rintro u w hu ⟨b, hb, rfl, rfl⟩
    exact hn b side hb u hu

/-! ## One condition of a run -/

/-- What a condition asserts stays, unless a later one replaces it. -/
theorem holdsAt_of_applyAll {before after : List Condition} {n : Node} (hn : n.IsComparable)
    (hexact : ∀ c' ∈ before ++ c :: after, c'.hasExactLiterals name = true)
    (hreplaced : ∀ later ∈ after, later.replaces name c = false) (h : c.toDelta name n = .ok d) {k : String}
    {v : Json} (hv : (applyAll name (before ++ c :: after) n).1.HoldsAt k v) : d.HoldsAt k v := by
  cases hk : Side.ofKeyword? k with
  | some side =>
    have hall := ((holdsAt_applyAll hk v hexact hn).1 hv).2
    exact hall c (by simp) d h
  | none =>
    intro w hw
    have hlater : ∀ later ∈ after, later.sets name k = false := fun later hmem =>
      Condition.sets_of_replaces (hreplaced later hmem) (Condition.sets_of_get? h hk hw)
    have hstep : c.toDelta name (applyAll name before n).1 = .ok d := by
      rwa [Condition.toDelta_congr (typeName?_applyAll before n)]
    refine hv w ?_
    rw [applyAll_append, applyAll_of_ok hstep, get?_applyAll hk _ hlater, Node.get?_merge_of_not_bound hk hw]

end Variable

end VarSchema
