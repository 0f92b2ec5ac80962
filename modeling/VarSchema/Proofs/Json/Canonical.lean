import VarSchema.Json.Basic

/-!
# Canonical values

* `Entries.sorted_of_ordered` : ordered entries stay as they are; `Entries.mem_of_mem_sorted` : sorting adds none;
* `Json.ordered_canonical` : a canonical form has its keys in order; `Json.canonical_of_ordered` : and what has its
  keys in order is its own canonical form.
-/

namespace VarSchema

variable {α : Type}

namespace Entries

/-- A key above all others goes to the end. -/
theorem insert_of_forall_lt {k : String} {v : α} {es : Entries α} (h : ∀ e ∈ es, e.1 < k) :
    insert k v es = es ++ [(k, v)] := by
  induction es with
  | nil => rfl
  | cons e es ih =>
    have hlt : e.1 < k := h e (List.mem_cons_self ..)
    rw [insert, if_neg (String.lt_asymm hlt), if_neg (String.ne_of_lt hlt).symm,
      ih fun d hd => h d (List.mem_cons_of_mem _ hd), List.cons_append]

theorem sorted_of_ordered {es : Entries α} (h : Ordered es) : sorted es = es := by
  -- the entries inserted so far are below the rest
  suffices ∀ acc : Entries α, Ordered (acc ++ es) →
      es.foldl (fun acc e => insert e.1 e.2 acc) acc = acc ++ es from this [] h
  clear h
  induction es with
  | nil => intro acc _; simp
  | cons e es ih =>
    intro acc hacc
    have hbelow : ∀ d ∈ acc, d.1 < e.1 := fun d hd =>
      (List.pairwise_append.1 hacc).2.2 d hd e (List.mem_cons_self ..)
    rw [List.foldl_cons, insert_of_forall_lt hbelow, ih _ (by simpa using hacc), List.append_assoc]
    rfl

theorem mem_of_mem_sorted {e : String × α} {es : Entries α} (h : e ∈ sorted es) : e ∈ es := by
  suffices ∀ acc : Entries α, e ∈ es.foldl (fun acc d => insert d.1 d.2 acc) acc → e ∈ acc ∨ e ∈ es from
    (this [] h).resolve_left List.not_mem_nil
  clear h
  induction es with
  | nil => intro acc h; exact .inl h
  | cons d es ih =>
    intro acc h
    rcases ih _ h with hacc | hes
    · rcases mem_insert hacc with rfl | hacc
      · exact .inr (List.mem_cons_self ..)
      · exact .inl hacc
    · exact .inr (List.mem_cons_of_mem _ hes)

end Entries

namespace Json

theorem orderedFields_iff {es : List (String × Json)} : OrderedFields es ↔ ∀ e ∈ es, e.2.Ordered := by
  induction es with
  | nil => simp [OrderedFields]
  | cons e es ih => rw [OrderedFields, ih, List.forall_mem_cons]

mutual
/-- A canonical form has its keys in order. -/
theorem ordered_canonical : ∀ v : Json, v.canonical.Ordered
  | .null | .bool _ | .num _ | .str _ => trivial
  | .arr items => by
    rw [canonical, Ordered]
    exact orderedItems_canonicalItems items
  | .obj fields => by
    rw [canonical, Ordered]
    have hvalues := orderedFields_iff.1 (orderedFields_canonicalFields fields)
    exact ⟨Entries.ordered_sorted _, orderedFields_iff.2 fun e he => hvalues e (Entries.mem_of_mem_sorted he)⟩
termination_by structural v => v

theorem orderedItems_canonicalItems (vs : List Json) : OrderedItems (canonicalItems vs) := by
  cases vs with
  | nil => trivial
  | cons v rest => exact ⟨ordered_canonical v, orderedItems_canonicalItems rest⟩
termination_by structural vs

theorem orderedFields_canonicalFields (es : List (String × Json)) : OrderedFields (canonicalFields es) := by
  cases es with
  | nil => trivial
  | cons e rest => cases e with
    | mk k v => exact ⟨ordered_canonical v, orderedFields_canonicalFields rest⟩
termination_by structural es
end

mutual
/-- What has its keys in order is its own canonical form. -/
theorem canonical_of_ordered : ∀ {v : Json}, v.Ordered → v.canonical = v
  | .null, _ | .bool _, _ | .num _, _ | .str _, _ => rfl
  | .arr items, h => by
    rw [Ordered] at h
    rw [canonical, canonicalItems_of_ordered h]
  | .obj fields, h => by
    rw [Ordered] at h
    rw [canonical, canonicalFields_of_ordered h.2, Entries.sorted_of_ordered h.1]
termination_by structural v => v

theorem canonicalItems_of_ordered : ∀ {vs : List Json}, OrderedItems vs → canonicalItems vs = vs
  | [], _ => rfl
  | v :: rest, h => by
    rw [OrderedItems] at h
    rw [canonicalItems, canonical_of_ordered h.1, canonicalItems_of_ordered h.2]
termination_by structural vs => vs

theorem canonicalFields_of_ordered : ∀ {es : List (String × Json)}, OrderedFields es → canonicalFields es = es
  | [], _ => rfl
  | (k, v) :: rest, h => by
    rw [OrderedFields] at h
    rw [canonicalFields, canonical_of_ordered h.1, canonicalFields_of_ordered h.2]
termination_by structural es => es
end

end Json

end VarSchema
