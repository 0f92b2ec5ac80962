import VarSchema.Proofs.Schema.Keywords

/-!
# What wrappers accept

* `Node.titled` : a node titled with its type, which is how a wrapper offers it;
* `Node.get?_wrap`, `Node.isWrapped_wrap`, `Node.get?_strip`, `Node.get?_strip_wrap` : the keywords of a wrapper;
* `Node.asserts_branches`, `Node.accepts_strip_wrap` : without the inner type, a wrapper accepts null and what
  the inner node accepts.
-/

namespace VarSchema

namespace Node

/-- The node titled with its type, if that is one name. -/
def titled (n : Node) : Node :=
  match n.typeName? with
  | some t => n.set "title" (.str t)
  | none => n

theorem accepts_titled (n : Node) (v : Json) : Schema.accepts n.titled.toJson v = Schema.accepts n.toJson v := by
  unfold titled
  split
  · exact Schema.accepts_set_of_not_mem (by decide) n _ v
  · rfl

theorem accepts_nullBranch (v : Json) : Schema.accepts nullBranch v = true ↔ v = .null := by
  cases v with
  | null => exact iff_of_true rfl rfl
  | _ =>
    simp [nullBranch, Schema.accepts, Schema.acceptsKeywords, Assertion.holds, Assertion.typeNames,
      Assertion.hasType]

/-- The branches of a wrapper accept null and what the inner node accepts. -/
theorem asserts_branches (siblings : Entries Json) (inner : Node) (v : Json) :
    Schema.asserts siblings "anyOf" (.arr [nullBranch, inner.titled.toJson]) v = true ↔
      v = .null ∨ Schema.accepts inner.toJson v = true := by
  rw [Schema.asserts_anyOf, List.any_cons, List.any_cons, List.any_nil, Bool.or_false, Bool.or_eq_true,
    accepts_nullBranch, accepts_titled]

/-! ## Keywords -/

theorem wrap_of_admitsNull {inner : Node} (h : inner.admitsNull = true) (name : String) : inner.wrap name = inner :=
  if_pos h

theorem get?_wrap {inner : Node} (h : inner.admitsNull = false) (name k : String) :
    (wrap name inner).get? k =
      if k = "type" then inner.typeName?.map .str
      else if k = "anyOf" then some (.arr [nullBranch, inner.titled.toJson])
      else if k = "title" then some (.str (name ++ ": Select a type"))
      else none := by
  unfold wrap titled
  rw [if_neg (by rw [h]; decide)]
  cases inner.typeName? with
  | none =>
    simp only [get?_set, get?_empty, eq_comm (b := k)]
    grind
  | some t =>
    simp only [get?_set, get?_empty, eq_comm (b := k)]
    grind

theorem typeName?_wrap {inner : Node} (h : inner.admitsNull = false) (name : String) :
    (wrap name inner).typeName? = inner.typeName? := by
  rw [typeName?, get?_wrap h, if_pos rfl]
  cases inner.typeName? <;> rfl

theorem isWrapped_wrap {inner : Node} (h : inner.admitsNull = false) (name : String) :
    (wrap name inner).isWrapped = true := by
  rw [isWrapped, get?_wrap h, if_neg (by decide), if_pos rfl]
  rfl

theorem get?_strip (n : Node) (k : String) :
    n.strip.get? k = if n.isWrapped = true ∧ k = "type" then none else n.get? k := by
  unfold strip
  by_cases h : n.isWrapped = true
  · rw [if_pos h, get?_erase]
    simp only [h, true_and, eq_comm]
  · rw [if_neg h, if_neg fun hk => h hk.1]

theorem get?_strip_wrap {inner : Node} (h : inner.admitsNull = false) (name k : String) :
    (wrap name inner).strip.get? k =
      if k = "anyOf" then some (.arr [nullBranch, inner.titled.toJson])
      else if k = "title" then some (.str (name ++ ": Select a type"))
      else none := by
  rw [get?_strip, isWrapped_wrap h, get?_wrap h]
  grind

theorem strip_of_not_isWrapped {n : Node} (h : n.isWrapped = false) : n.strip = n := if_neg (by rw [h]; decide)

/-! ## Acceptance -/

/-- Without the inner type, a wrapper accepts null and what the inner node accepts. -/
theorem accepts_strip_wrap {inner : Node} (h : inner.admitsNull = false) (name : String) (v : Json) :
    Schema.accepts (wrap name inner).strip.toJson v = true ↔
      v = .null ∨ Schema.accepts inner.toJson v = true := by
  rw [Schema.accepts_toJson_iff]
  constructor
  · intro hall
    exact (asserts_branches _ inner v).1 (hall "anyOf" _ (by rw [get?_strip_wrap h, if_pos rfl]))
  · intro hv k w hk
    rw [get?_strip_wrap h] at hk
    split at hk
    · next hanyOf =>
      cases hk
      rw [hanyOf]
      exact (asserts_branches _ inner v).2 hv
    · split at hk
      · next htitle =>
        rw [htitle]
        exact Schema.asserts_of_not_mem (by decide) _ w v
      · cases hk

end Node

end VarSchema
