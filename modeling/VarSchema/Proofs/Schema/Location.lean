import VarSchema.Proofs.Schema.Violation

/-!
# Where violations are

* `Schema.reaches_of_mem_violationsAt` : whatever the schema, what it reports is at the value's place or below;
  `Schema.isWritten_of_mem_violations` : so the pointer of a violation is that of the whole value, or under a key;
* `Violation.variableName?_eq_iff_isUnder` : that key, its slashes and tildes restored, is the name the violation
  concerns.
-/

namespace VarSchema

namespace Schema

variable {s v w : Json} {k ip sp : String} {e : Violation}

/-! ## Parts of a schema -/

theorem sizeOf_lt_of_mem_keywords {keywords : Entries Json} (h : (k, w) ∈ keywords) :
    sizeOf w < sizeOf (Json.obj keywords) := by
  have hlt := List.sizeOf_lt_of_mem h
  simp only [Json.obj.sizeOf_spec, Prod.mk.sizeOf_spec] at hlt ⊢
  omega

theorem sizeOf_lt_of_mem_declaredProperties {keywords : Entries Json} (h : (k, s) ∈ declaredProperties keywords) :
    sizeOf s < sizeOf (Json.obj keywords) := by
  unfold declaredProperties at h
  split at h
  · next ps hps =>
    exact Nat.lt_trans (sizeOf_lt_of_mem_keywords h) (sizeOf_lt_of_mem_keywords (Entries.mem_of_get? hps))
  · cases h

theorem exists_of_mem_itemViolations : ∀ {ss : List Json} {i : Nat} {xs : List Json}, e ∈ itemViolations ss i xs ip sp →
    ∃ s ∈ ss, ∃ (j : Nat) (x : Json) (sp' : String), e ∈ violationsAt s x (Pointer.push ip (toString j)) sp'
  | [], _, _, he => by cases he
  | s :: ss, _, [], he => by cases he
  | s :: ss, i, x :: xs, he => by
    rw [itemViolations, List.mem_append] at he
    rcases he with he | he
    · exact ⟨s, List.mem_cons_self .., i, x, _, he⟩
    · obtain ⟨t, ht, hj⟩ := exists_of_mem_itemViolations he
      exact ⟨t, List.mem_cons_of_mem _ ht, hj⟩

/-- What is reported under `items` is reported by the schema there, or by one of those there. -/
theorem exists_of_mem_reported_items {siblings : Entries Json} (he : e ∈ reported siblings "items" w v ip sp) :
    ∃ s, sizeOf s ≤ sizeOf w ∧ ∃ (j : Nat) (x : Json) (sp' : String),
      e ∈ violationsAt s x (Pointer.push ip (toString j)) sp' := by
  by_cases hw : ∃ ss, w = .arr ss
  · obtain ⟨ss, rfl⟩ := hw
    rw [reported_positions] at he
    obtain ⟨s, hs, hj⟩ := exists_of_mem_itemViolations he
    have hlt := List.sizeOf_lt_of_mem hs
    refine ⟨s, ?_, hj⟩
    rw [Json.arr.sizeOf_spec]
    omega
  · rw [reported_items (not_exists.1 hw), List.mem_flatMap] at he
    obtain ⟨p, -, he⟩ := he
    exact ⟨w, Nat.le_refl _, p.2, p.1, _, he⟩

/-! ## Places -/

/-- What a schema reports is at the value's place or below. -/
theorem reaches_of_mem_violationsAt (s : Json) {v : Json} {ip sp : String} :
    ∀ e ∈ violationsAt s v ip sp, Pointer.Reaches ip e.instancePath := by
  intro e he
  match s with
  | .bool true | .null | .num _ | .str _ | .arr _ => cases he
  | .bool false =>
    rw [List.mem_singleton.1 he]
    exact .refl ip
  | .obj keywords =>
    rw [violationsAt, keywordViolations_eq_flatMap, List.mem_flatMap] at he
    obtain ⟨⟨k, w⟩, hw, he⟩ := he
    have hsize := sizeOf_lt_of_mem_keywords hw
    rcases mem_reported_cases he with hdeclared | ⟨-, f, hother⟩ | rfl | hself
    · obtain ⟨l, t, x, ht, -, he⟩ := mem_declaredIn.1 hdeclared
      have hdeclaredSize := sizeOf_lt_of_mem_declaredProperties ht
      exact (Pointer.reaches_push ip l).trans (reaches_of_mem_violationsAt t e he)
    · unfold otherViolations at hother
      split at hother
      · cases hother
      · exact (Pointer.reaches_push ip f.1).trans (reaches_of_mem_violationsAt w e hother)
    · obtain ⟨t, ht, j, x, sp', he⟩ := exists_of_mem_reported_items he
      exact (Pointer.reaches_push ip _).trans (reaches_of_mem_violationsAt t e he)
    · rw [hself]
      exact .refl ip
termination_by sizeOf s
decreasing_by
  · exact hdeclaredSize
  · exact hsize
  · exact Nat.lt_of_le_of_lt ht hsize

theorem isWritten_of_mem_violations (he : e ∈ violations s v) : Pointer.IsWritten e.instancePath :=
  Pointer.isWritten_of_reaches (reaches_of_mem_violationsAt s e he)

end Schema

namespace Violation

open Pointer

/-- **The name that a violation concerns is the key that its pointer is under, whatever slashes and tildes the key has,
and there is none if the pointer does not start with a slash. So two violations concern the same name if and only if
their pointers are under the same key, or under none. This covers all violations that a schema reports.** -/
theorem variableName?_eq_iff_isUnder :
    (∀ (e : Violation) (key : String), IsUnder key e.instancePath → e.variableName? = some key) ∧
    (∀ e : Violation, e.variableName? = none ↔ ∀ rest, e.instancePath ≠ "/" ++ rest) ∧
    (∀ d e : Violation, IsWritten d.instancePath → IsWritten e.instancePath →
      (d.variableName? = e.variableName? ↔ ∀ key, IsUnder key d.instancePath ↔ IsUnder key e.instancePath)) ∧
    ∀ (schema v : Json), ∀ e ∈ Schema.violations schema v, IsWritten e.instancePath := by
  refine ⟨fun e key h => first?_of_isUnder h, fun e => first?_eq_none_iff, fun d e hd he => ?_,
    fun schema v e he => Schema.isWritten_of_mem_violations he⟩
  have hname (key : String) := hd.first?_eq_some_iff (k := key)
  have hname' (key : String) := he.first?_eq_some_iff (k := key)
  simp only [← hname, ← hname']
  exact Option.ext_iff

/-- A key with a tilde in front of a one and with a slash, at its value and below it. The key of two slashes, which it
would be if tildes were restored first, is another one. -/
theorem variableName?_eq_iff_isUnder_escaped :
    let whole : Violation := ⟨"", "/type", "no object"⟩
    let value : Violation := ⟨"/~01~1", "/properties/~01~1/type", "no list"⟩
    let item : Violation := ⟨"/~01~1/0", "/properties/~01~1/items/type", "no text"⟩
    let other : Violation := ⟨"/~1~1/0", "/properties/~1~1/items/type", "no text"⟩
    let schema : Json := .obj [("properties", .obj [("~1/", .obj [("type", .str "array")])])]
    let input : Json := .obj [("~1/", .null)]
    IsUnder "~1/" value.instancePath ∧ IsUnder "~1/" item.instancePath ∧ IsUnder "//" other.instancePath ∧
      value.variableName? = some "~1/" ∧ item.variableName? = some "~1/" ∧ other.variableName? = some "//" ∧
      whole.variableName? = none ∧ (∀ key, IsUnder key value.instancePath ↔ IsUnder key item.instancePath) ∧
      (¬∀ key, IsUnder key value.instancePath ↔ IsUnder key other.instancePath) ∧
      (Schema.violations schema input).map variableName? = [some "~1/"] ∧
      ∀ e ∈ Schema.violations schema input, IsWritten e.instancePath := by
  intro whole value item other schema input
  have hvalue : IsUnder "~1/" value.instancePath := ⟨"", by decide, .inl rfl⟩
  have hitem : IsUnder "~1/" item.instancePath := ⟨"/0", by decide, .inr ⟨"0", rfl⟩⟩
  have hother : IsUnder "//" other.instancePath := ⟨"/0", by decide, .inr ⟨"0", rfl⟩⟩
  obtain ⟨hname, hnone, hsame, hreported⟩ := variableName?_eq_iff_isUnder
  have hvalueName := hname value _ hvalue
  have hitemName := hname item _ hitem
  have hotherName := hname other _ hother
  refine ⟨hvalue, hitem, hother, hvalueName, hitemName, hotherName, (hnone whole).2 fun rest h => ?_, ?_, fun h => ?_,
    by decide, hreported schema input⟩
  · have hlist := congrArg String.toList h
    rw [toList_slash_append] at hlist
    cases hlist
  · exact (hsame value item (.inr ⟨_, hvalue⟩) (.inr ⟨_, hitem⟩)).1 (hvalueName.trans hitemName.symm)
  · have heq := (hsame value other (.inr ⟨_, hvalue⟩) (.inr ⟨_, hother⟩)).2 h
    rw [hvalueName, hotherName] at heq
    revert heq
    decide

end Violation

end VarSchema
