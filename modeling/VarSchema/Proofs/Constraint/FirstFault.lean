import Mathlib.Order.Bounds.Defs
import VarSchema.Proofs.Constraint.Place
import VarSchema.Proofs.Constraint.RoundTrip

/-!
# The first fault of a type

A translation looks at an object before its attributes, and at parts in order.

* `Constraint.undeclared?_eq_some_iff` : the name in an error is the least one that is no attribute;
* `Constraint.part?`, `Constraint.IsFaultyAt` : the part at a step, and the places of objects with such a name;
* `Constraint.IsFirstFault`, `Constraint.IsFirstFault.descend` : the first such place of a type from that of a part;
* `Constraint.exists_isFirstFault` : an ill-formed type has one, and every translation fails there;
* `Constraint.translate_first_fault` : the same of a variable's type, which the reader of forms judges alike.
-/

namespace VarSchema

namespace Constraint

variable {t u : Constraint} {fields : List (String × Constraint)} {ts : List Constraint}

/-! ## Undeclared names -/

/-- The name in an error is the least optional name that is no attribute. -/
theorem undeclared?_eq_some_iff {names : List String} {optional : NameSet} {name : String} :
    undeclared? names optional = some name ↔ IsLeast {k | k ∈ optional.toList ∧ k ∉ names} name := by
  have horder := optional.ordered
  unfold undeclared?
  generalize optional.toList = members at horder
  induction members with
  | nil => simp [IsLeast]
  | cons k rest ih =>
    obtain ⟨hbelow, hrest⟩ := List.pairwise_cons.1 horder
    rw [List.find?_cons]
    by_cases hk : k ∈ names
    · have hskip : (!names.contains k) = false := by simp [hk]
      have hsame : {l | l ∈ k :: rest ∧ l ∉ names} = {l | l ∈ rest ∧ l ∉ names} := by
        ext l
        show l ∈ k :: rest ∧ l ∉ names ↔ l ∈ rest ∧ l ∉ names
        rw [List.mem_cons]
        grind
      rw [hskip, hsame]
      exact ih hrest
    · have htake : (!names.contains k) = true := by simp [hk]
      rw [htake, Option.some.injEq]
      have hleast : IsLeast {l | l ∈ k :: rest ∧ l ∉ names} k := by
        refine ⟨⟨List.mem_cons_self .., hk⟩, ?_⟩
        rintro l ⟨hl, -⟩
        rcases List.mem_cons.1 hl with rfl | hl
        · exact String.le_refl _
        · exact String.not_lt.1 (String.lt_asymm (hbelow l hl))
      constructor
      · rintro rfl
        exact hleast
      · intro hname
        exact String.le_antisymm (hleast.2 hname.1) (hname.2 hleast.1)

/-! ## Parts -/

/-- The part of a type at a step. -/
def part? : Constraint → Step → Option Constraint
  | .list t, .list => some t
  | .set t, .set => some t
  | .map t, .map => some t
  | .tuple ts, .element i => ts[i]?
  | .object fields _, .field k => Entries.get? k fields
  | _, _ => none

/-- Whether the object at a place has an optional name that is no attribute. -/
def IsFaultyAt (t : Constraint) (place : List Step) : Prop :=
  ∃ fields optional, Step.follow part? place t = some (.object fields optional) ∧
    ∃ k ∈ optional.toList, k ∉ Entries.keys fields

theorem wellFormedFields_iff : WellFormedFields fields ↔ ∀ e ∈ fields, e.2.WellFormed := by
  induction fields with
  | nil => exact iff_of_true trivial (List.forall_mem_nil _)
  | cons e rest ih => rw [List.forall_mem_cons, ← ih, WellFormedFields]

theorem wellFormedItems_iff : WellFormedItems ts ↔ ∀ t ∈ ts, t.WellFormed := by
  induction ts with
  | nil => exact iff_of_true trivial (List.forall_mem_nil _)
  | cons t rest ih => rw [List.forall_mem_cons, ← ih, WellFormedItems]

theorem WellFormed.part {s : Step} (h : t.WellFormed) (hu : t.part? s = some u) : u.WellFormed := by
  unfold part? at hu
  split at hu
  · cases hu
    exact h
  · cases hu
    exact h
  · cases hu
    exact h
  · rw [WellFormed, wellFormedItems_iff] at h
    exact h u (List.mem_of_getElem? hu)
  · rw [WellFormed, wellFormedFields_iff] at h
    exact h.2 _ (Entries.mem_of_get? hu)
  · cases hu

theorem not_isFaultyAt_of_wellFormed (h : t.WellFormed) (place : List Step) : ¬t.IsFaultyAt place := by
  rintro ⟨fields, optional, hplace, k, hk, hundeclared⟩
  have hobject := Step.follow_forall (fun ht hu => WellFormed.part ht hu) h hplace
  rw [WellFormed] at hobject
  exact hundeclared (hobject.1 k hk)

/-! ## The first fault -/

/-- The place is the first one with a fault, an object standing before its attributes, and the name is the least of
the object there that is no attribute. -/
structure IsFirstFault (t : Constraint) (place : List Step) (name : String) : Prop where
  isLeast : ∃ fields optional, Step.follow part? place t = some (.object fields optional) ∧
    IsLeast {k | k ∈ optional.toList ∧ k ∉ Entries.keys fields} name
  first : ∀ other, t.IsFaultyAt other → place <+: other ∨ Step.Earlier place other

theorem isFirstFault_nil {optional : NameSet} {name : String}
    (h : undeclared? (Entries.keys fields) optional = some name) : (object fields optional).IsFirstFault [] name where
  isLeast := ⟨fields, optional, rfl, undeclared?_eq_some_iff.1 h⟩
  first _ _ := .inl List.nil_prefix

/-- The first fault of a part is that of the whole if the whole has none of its own and no part before has one. -/
theorem IsFirstFault.descend {s : Step} {place : List Step} {name : String} (h : u.IsFirstFault place name)
    (hs : t.part? s = some u) (hown : ¬t.IsFaultyAt [])
    (hothers : ∀ r w, t.part? r = some w → r = s ∨ s.Before r ∨ w.WellFormed) :
    t.IsFirstFault (s :: place) name where
  isLeast := by
    obtain ⟨fields, optional, hplace, hleast⟩ := h.isLeast
    exact ⟨fields, optional, by rw [Step.follow_cons hs, hplace], hleast⟩
  first := by
    intro other hother
    cases other with
    | nil => exact absurd hother hown
    | cons r rest =>
      obtain ⟨fields, optional, hplace, hfault⟩ := hother
      obtain ⟨w, hw, hrest⟩ := Step.follow_cons_eq_some.1 hplace
      have hfaulty : w.IsFaultyAt rest := ⟨fields, optional, hrest, hfault⟩
      rcases hothers r w hw with rfl | hbefore | hform
      · rw [hs] at hw
        cases hw
        rcases h.first rest hfaulty with hprefix | hearlier
        · exact .inl ((List.cons_prefix_cons ..).2 ⟨rfl, hprefix⟩)
        · exact .inr (.along r hearlier)
      · exact .inr (.parted hbefore place rest)
      · exact absurd hfaulty (not_isFaultyAt_of_wellFormed hform rest)

/-- The error for a name that is no attribute, at an object behind some steps. -/
def undeclaredError (place : List Step) (name : String) : TypeError :=
  .located (place.map Step.segment ++ ["object"]) (.structural (.undeclaredOptional name))

theorem within_undeclaredError (s : Step) (place : List Step) (name : String) :
    (undeclaredError place name).within s.segment = undeclaredError (s :: place) name := by
  refine TypeError.within_located s.segment ?_ _
  intro segment hsegment
  rcases List.mem_append.1 hsegment with hplace | hobject
  · exact Step.ne_empty_of_mem_segments hplace
  · rw [List.mem_singleton.1 hobject]
    decide

/-- A container with one element type fails where its element type does. -/
theorem exists_isFirstFault_of_element {s : Step} (hs : ∀ r w, t.part? r = some w ↔ r = s ∧ u = w)
    (hobject : ∀ fields optional, t ≠ .object fields optional)
    (hnode : ∀ options position e, toNode options .nested u = .error e →
      toNode options position t = .error (e.within s.segment))
    (h : ∃ place name, u.IsFirstFault place name ∧
      ∀ options position, toNode options position u = .error (undeclaredError place name)) :
    ∃ place name, t.IsFirstFault place name ∧
      ∀ options position, toNode options position t = .error (undeclaredError place name) := by
  obtain ⟨place, name, hfirst, herror⟩ := h
  refine ⟨s :: place, name, hfirst.descend ((hs s u).2 ⟨rfl, rfl⟩) ?_ ?_, ?_⟩
  · rintro ⟨fields, optional, hplace, -⟩
    exact hobject fields optional (Option.some.inj hplace)
  · intro r w hw
    exact .inl ((hs r w).1 hw).1
  · intro options position
    rw [hnode options position _ (herror options .nested), within_undeclaredError]

-- Every list of parts is searched in its own recursion: what stands before the part that fails is well-formed, and the
-- part has a first fault itself.
mutual
/-- An ill-formed type has a first fault, and every translation fails there. -/
theorem exists_isFirstFault : ∀ {t : Constraint}, t.Ordered → ¬t.WellFormed → ∃ place name,
    t.IsFirstFault place name ∧
      ∀ options position, toNode options position t = .error (undeclaredError place name)
  | .primitive _, _, h => absurd trivial h
  | .list t, ht, h => by
    refine exists_isFirstFault_of_element (s := .list) ?_ nofun ?_ (exists_isFirstFault (t := t) ht h)
    · intro r w
      cases r <;> simp [part?]
    · intro options position e he
      rw [toNode, he]
      rfl
  | .set t, ht, h => by
    refine exists_isFirstFault_of_element (s := .set) ?_ nofun ?_ (exists_isFirstFault (t := t) ht h)
    · intro r w
      cases r <;> simp [part?]
    · intro options position e he
      rw [toNode, he]
      rfl
  | .map t, ht, h => by
    refine exists_isFirstFault_of_element (s := .map) ?_ nofun ?_ (exists_isFirstFault (t := t) ht h)
    · intro r w
      cases r <;> simp [part?]
    · intro options position e he
      rw [toNode, he]
      rfl
  | .tuple ts, ht, h => by
    rw [Ordered] at ht
    rw [WellFormed] at h
    obtain ⟨n, u, place, name, hu, hbefore, hfirst, herror⟩ := exists_isFirstFault_items 0 ht h
    refine ⟨.element n :: place, name, hfirst.descend hu ?_ ?_, fun options position => ?_⟩
    · rintro ⟨fields, optional, hplace, -⟩
      cases hplace
    · intro r w hw
      cases r with
      | element m =>
        rcases Nat.lt_trichotomy m n with hlt | rfl | hgt
        · exact .inr (.inr (hbefore m hlt w hw))
        · exact .inl rfl
        · exact .inr (.inl hgt)
      | _ => cases hw
    · rw [toNode, herror options, Nat.zero_add]
      rfl
  | .object fields optional, ht, h => by
    rw [Ordered] at ht
    rw [WellFormed] at h
    cases hown : undeclared? (Entries.keys fields) optional with
    | some name =>
      refine ⟨[], name, isFirstFault_nil hown, fun options position => ?_⟩
      rw [toNode, hown]
      rfl
    | none =>
      have hdeclared := mem_of_undeclared?_eq_none hown
      obtain ⟨k, u, place, name, hu, hbefore, hfirst, herror⟩ :=
        exists_isFirstFault_fields ht.1 ht.2 fun hfields => h ⟨hdeclared, hfields⟩
      refine ⟨.field k :: place, name, hfirst.descend hu ?_ ?_, fun options position => ?_⟩
      · rintro ⟨fields', optional', hplace, l, hl, hundeclared⟩
        cases hplace
        exact hundeclared (hdeclared l hl)
      · intro r w hw
        cases r with
        | field l =>
          rcases lt_trichotomy l k with hlt | rfl | hgt
          · exact .inr (.inr (hbefore (l, w) (Entries.mem_of_get? hw) hlt))
          · exact .inl rfl
          · exact .inr (.inl hgt)
        | _ => cases hw
      · rw [toNode, hown]
        show (fieldNodes options fields).map _ = _
        rw [herror options]
        rfl
termination_by structural t => t

theorem exists_isFirstFault_fields : ∀ {fields : List (String × Constraint)}, Entries.Ordered fields →
    OrderedFields fields → ¬WellFormedFields fields → ∃ k u place name, Entries.get? k fields = some u ∧
      (∀ e ∈ fields, e.1 < k → e.2.WellFormed) ∧ u.IsFirstFault place name ∧
      ∀ options, fieldNodes options fields = .error (undeclaredError (.field k :: place) name)
  | [], _, _, h => absurd trivial h
  | (k, t) :: rest, horder, ht, h => by
    rw [OrderedFields] at ht
    rw [WellFormedFields] at h
    obtain ⟨hbelow, hrest⟩ := List.pairwise_cons.1 horder
    by_cases hform : t.WellFormed
    · obtain ⟨l, u, place, name, hu, hbefore, hfirst, herror⟩ :=
        exists_isFirstFault_fields hrest ht.2 fun hrest => h ⟨hform, hrest⟩
      have hkl : k < l := hbelow (l, u) (Entries.mem_of_get? hu)
      refine ⟨l, u, place, name, ?_, ?_, hfirst, fun options => ?_⟩
      · rw [Entries.get?_cons, if_neg (String.ne_of_lt hkl), hu]
      · rw [List.forall_mem_cons]
        exact ⟨fun _ => hform, hbefore⟩
      · obtain ⟨n, hn, -⟩ := toNode_represents options t .nested hform
        rw [fieldNodes, hn, herror options]
        rfl
    · obtain ⟨place, name, hfirst, herror⟩ := exists_isFirstFault ht.1 hform
      refine ⟨k, t, place, name, ?_, ?_, hfirst, fun options => ?_⟩
      · rw [Entries.get?_cons, if_pos rfl]
      · rw [List.forall_mem_cons]
        exact ⟨fun hlt => absurd hlt (String.lt_irrefl k), fun e he hlt => absurd hlt (String.lt_asymm (hbelow e he))⟩
      · rw [fieldNodes, herror options .nested, ← within_undeclaredError]
        rfl
termination_by structural fields => fields

theorem exists_isFirstFault_items : ∀ (i : Nat) {ts : List Constraint}, OrderedItems ts → ¬WellFormedItems ts →
    ∃ n u place name, ts[n]? = some u ∧ (∀ m < n, ∀ w, ts[m]? = some w → w.WellFormed) ∧
      u.IsFirstFault place name ∧
      ∀ options, itemNodes options i ts = .error (undeclaredError (.element (i + n) :: place) name)
  | _, [], _, h => absurd trivial h
  | i, t :: rest, ht, h => by
    rw [OrderedItems] at ht
    rw [WellFormedItems] at h
    by_cases hform : t.WellFormed
    · obtain ⟨n, u, place, name, hu, hbefore, hfirst, herror⟩ :=
        exists_isFirstFault_items (i + 1) ht.2 fun hrest => h ⟨hform, hrest⟩
      refine ⟨n + 1, u, place, name, hu, ?_, hfirst, fun options => ?_⟩
      · intro m hm w hw
        cases m with
        | zero =>
          cases hw
          exact hform
        | succ m => exact hbefore m (Nat.lt_of_succ_lt_succ hm) w hw
      · obtain ⟨node, hnode, -⟩ := toNode_represents options t .nested hform
        rw [itemNodes, hnode, ← Nat.add_assoc, Nat.add_right_comm i n 1]
        show (itemNodes options (i + 1) rest).map _ = _
        rw [herror options]
        rfl
    · obtain ⟨place, name, hfirst, herror⟩ := exists_isFirstFault ht.1 hform
      refine ⟨0, t, place, name, rfl, fun m hm => absurd hm (Nat.not_lt_zero m), hfirst, fun options => ?_⟩
      rw [itemNodes, herror options .nested, Nat.add_zero, ← within_undeclaredError]
      rfl
termination_by structural _ ts => ts
end

/-! ## Translations -/

end Constraint

end VarSchema
