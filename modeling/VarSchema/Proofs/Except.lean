import Mathlib.Data.List.Forall2

/-!
# Results of steps that can fail

* `Except.isOk_iff`, `Except.isOk_map` : a step succeeds if and only if it gives a result;
* `Except.map_eq_ok`, `Except.bind_eq_ok`, `Except.mapError_eq_ok` : a composed step succeeds if and only if its
  parts do; `Except.map_eq_error`, `Except.mapError_eq_error` : or fails with the error of its part;
* `Except.mapM_singleton`, `Except.mapM_append` : a step taken on each element of a list, part by part;
  `Except.mapM_eq_ok`, `Except.isOk_mapM_iff`, `Except.mem_of_mapM_eq_ok` : it succeeds if and only if it does on all of
  them, and gives their results; `Except.exists_of_mapM_eq_error` : or fails with the error of one of them.
-/

namespace VarSchema

namespace Except

variable {ε α β : Type}

theorem isOk_iff {r : Except ε α} : r.isOk = true ↔ ∃ a, r = .ok a := by
  cases r <;> simp [Except.isOk, Except.toBool]

theorem isOk_map (f : α → β) (r : Except ε α) : (r.map f).isOk = r.isOk := by
  cases r <;> rfl

theorem map_eq_ok {f : α → β} {r : Except ε α} {b : β} : r.map f = .ok b ↔ ∃ a, r = .ok a ∧ f a = b := by
  cases r <;> simp [Except.map]

theorem bind_eq_ok {f : α → Except ε β} {r : Except ε α} {b : β} :
    r.bind f = .ok b ↔ ∃ a, r = .ok a ∧ f a = .ok b := by
  cases r <;> simp [Except.bind]

theorem mapError_eq_ok {δ : Type} {f : ε → δ} {r : Except ε α} {a : α} : r.mapError f = .ok a ↔ r = .ok a := by
  cases r with
  | error e => exact iff_of_false nofun nofun
  | ok b =>
    have hmap : (Except.ok b : Except ε α).mapError f = .ok b := rfl
    rw [hmap, Except.ok.injEq, Except.ok.injEq]

theorem map_eq_error {f : α → β} {r : Except ε α} {e : ε} : r.map f = .error e ↔ r = .error e := by
  cases r <;> simp [Except.map]

theorem mapError_eq_error {δ : Type} {f : ε → δ} {r : Except ε α} {e : δ} :
    r.mapError f = .error e ↔ ∃ e', r = .error e' ∧ f e' = e := by
  cases r with
  | ok a => exact iff_of_false nofun nofun
  | error e₀ =>
    have hmap : (Except.error e₀ : Except ε α).mapError f = .error (f e₀) := rfl
    simp only [hmap, Except.error.injEq, exists_eq_left']

theorem mapM_singleton (f : α → Except ε β) (a : α) : [a].mapM f = (f a).map ([·]) := by
  rw [List.mapM_cons]
  rfl

theorem mapM_append (f : α → Except ε β) (as bs : List α) :
    (as ++ bs).mapM f = (as.mapM f).bind fun ls => (bs.mapM f).map (ls ++ ·) := List.mapM_append

theorem mapM_eq_ok {f : α → Except ε β} : ∀ {as : List α} {bs : List β},
    as.mapM f = .ok bs ↔ List.Forall₂ (fun a b => f a = .ok b) as bs
  | [], bs => by
    have hnil : [].mapM f = .ok [] := List.mapM_nil
    rw [hnil, Except.ok.injEq, List.forall₂_nil_left_iff, eq_comm]
  | a :: as, bs => by
    have hcons : (a :: as).mapM f = (f a).bind fun b => (as.mapM f).map (b :: ·) := List.mapM_cons
    simp only [hcons, bind_eq_ok, map_eq_ok, mapM_eq_ok, List.forall₂_cons_left_iff]
    constructor
    · rintro ⟨b, hb, rest, hrest, rfl⟩
      exact ⟨b, rest, hb, hrest, rfl⟩
    · rintro ⟨b, rest, hb, hrest, rfl⟩
      exact ⟨b, hb, rest, hrest, rfl⟩

theorem mem_of_mapM_eq_ok {f : α → Except ε β} {as : List α} {bs : List β} (h : as.mapM f = .ok bs) {b : β} :
    b ∈ bs ↔ ∃ a ∈ as, f a = .ok b := by
  rw [mapM_eq_ok] at h
  induction h with
  | nil => simp
  | cons hab _ ih => simp [ih, hab, eq_comm]

theorem isOk_mapM_iff {f : α → Except ε β} : ∀ {as : List α}, (as.mapM f).isOk = true ↔ ∀ a ∈ as, (f a).isOk = true
  | [] => iff_of_true rfl (List.forall_mem_nil _)
  | a :: as => by
    have hcons : (a :: as).mapM f = (f a).bind fun b => (as.mapM f).map (b :: ·) := List.mapM_cons
    rw [List.forall_mem_cons, ← isOk_mapM_iff, hcons]
    cases f a with
    | error e => exact iff_of_false nofun (fun h => nomatch h.1)
    | ok b => cases as.mapM f <;> simp [Except.bind, Except.map, Except.isOk, Except.toBool]

theorem exists_of_mapM_eq_error {f : α → Except ε β} {e : ε} : ∀ {as : List α}, as.mapM f = .error e →
    ∃ a ∈ as, f a = .error e
  | [], h => by cases h
  | a :: as, h => by
    have hcons : (a :: as).mapM f = (f a).bind fun b => (as.mapM f).map (b :: ·) := List.mapM_cons
    rw [hcons] at h
    cases ha : f a with
    | error e' =>
      rw [ha] at h
      cases h
      exact ⟨a, List.mem_cons_self .., ha⟩
    | ok b =>
      rw [ha] at h
      obtain ⟨a', ha', he⟩ := exists_of_mapM_eq_error (map_eq_error.1 h)
      exact ⟨a', List.mem_cons_of_mem _ ha', he⟩

end Except

end VarSchema
