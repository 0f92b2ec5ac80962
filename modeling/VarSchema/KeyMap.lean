/-!
# Maps with text keys, in key order

* `Entries α` : a list of key-value pairs; `Entries.get?`, `Entries.insert`, `Entries.erase`,
  `Entries.keys`. Insertion is one pass that keeps key order and replaces an entry of the same key;
* `KeyMap α` : entries whose keys strictly increase by code point, so that a map has one
  representation; `KeyMap.get?_insert` and `KeyMap.ext_get?` are its view;
* `NameSet` : the keys of a map, strictly increasing; `NameSet.mem_insert`, `NameSet.mem_ofList`.
-/

namespace VarSchema

abbrev Entries (α : Type) := List (String × α)

variable {α : Type}

/-! ## Entries -/

namespace Entries

/-- The value of the first entry with key `k`. -/
def get? (k : String) : Entries α → Option α
  | [] => none
  | (l, v) :: rest => if l = k then some v else get? k rest

/-- Puts `k ↦ v` at its place in key order, in the place of an entry with that key. -/
def insert (k : String) (v : α) : Entries α → Entries α
  | [] => [(k, v)]
  | (l, w) :: rest =>
    if k < l then (k, v) :: (l, w) :: rest
    else if k = l then (k, v) :: rest
    else (l, w) :: insert k v rest

/-- Drops every entry with key `k`. -/
def erase (k : String) (es : Entries α) : Entries α :=
  es.filter (fun e => e.1 != k)

def keys (es : Entries α) : List String := es.map Prod.fst

/-- Keys strictly increase. -/
def Ordered (es : Entries α) : Prop := es.Pairwise (fun a b => a.1 < b.1)

/-- Inserts one entry after another: of two entries with one key the later stays. -/
def sorted (es : Entries α) : Entries α :=
  es.foldl (fun acc e => insert e.1 e.2 acc) []

@[simp] theorem get?_nil (k : String) : get? k ([] : Entries α) = none := rfl

theorem get?_cons (k : String) (e : String × α) (es : Entries α) :
    get? k (e :: es) = if e.1 = k then some e.2 else get? k es := rfl

theorem get?_insert_self (k : String) (v : α) (es : Entries α) :
    get? k (insert k v es) = some v := by
  induction es with
  | nil => simp [insert, get?]
  | cons e es ih =>
    rw [insert]
    split
    · simp [get?]
    · split
      · simp [get?]
      · next h => rw [get?, if_neg (Ne.symm h), ih]

theorem get?_insert_of_ne {k l : String} (h : k ≠ l) (v : α) (es : Entries α) :
    get? l (insert k v es) = get? l es := by
  induction es with
  | nil => simp [insert, get?, h]
  | cons e es ih =>
    rw [insert]
    split
    · simp [get?, h]
    · split
      · next hk => subst hk; simp [get?, h]
      · rw [get?, get?, ih]

theorem mem_insert {k : String} {v : α} {e : String × α} {es : Entries α}
    (h : e ∈ insert k v es) : e = (k, v) ∨ e ∈ es := by
  induction es with
  | nil => exact .inl (by simpa [insert] using h)
  | cons d es ih => rw [insert] at h; grind

theorem Ordered.insert {es : Entries α} (h : Ordered es) (k : String) (v : α) :
    Ordered (insert k v es) := by
  induction es with
  | nil => exact List.pairwise_singleton ..
  | cons e es ih =>
    obtain ⟨h₁, h₂⟩ := List.pairwise_cons.1 h
    rw [Entries.insert]
    split
    · next hk =>
      exact List.pairwise_cons.2 ⟨fun d hd => by
        rcases List.mem_cons.1 hd with rfl | hd
        · exact hk
        · exact String.lt_trans hk (h₁ d hd), h⟩
    · split
      · next hk => exact List.pairwise_cons.2 ⟨fun d hd => hk ▸ h₁ d hd, h₂⟩
      · refine List.pairwise_cons.2 ⟨fun d hd => ?_, ih h₂⟩
        rcases mem_insert hd with rfl | hd
        · grind
        · exact h₁ d hd

theorem Ordered.erase {es : Entries α} (h : Ordered es) (k : String) : Ordered (erase k es) :=
  List.Pairwise.filter _ h

theorem ordered_sorted (es : Entries α) : Ordered (sorted es) := by
  suffices ∀ acc : Entries α, Ordered acc →
      Ordered (es.foldl (fun acc e => Entries.insert e.1 e.2 acc) acc) from
    this [] List.Pairwise.nil
  induction es with
  | nil => exact fun _ h => h
  | cons e es ih => exact fun acc h => ih _ (h.insert e.1 e.2)

theorem mem_keys_insert {k l : String} {v : α} {es : Entries α} :
    l ∈ keys (insert k v es) ↔ l = k ∨ l ∈ keys es := by
  induction es with
  | nil => simp [insert, keys]
  | cons e es ih => rw [insert]; grind [keys]

theorem mem_keys_sorted {k : String} {es : Entries α} : k ∈ keys (sorted es) ↔ k ∈ keys es := by
  suffices ∀ acc : Entries α,
      k ∈ keys (es.foldl (fun acc e => insert e.1 e.2 acc) acc) ↔ k ∈ keys es ∨ k ∈ keys acc from
    (this []).trans (or_iff_left List.not_mem_nil)
  induction es with
  | nil => simp [keys]
  | cons e es ih =>
    intro acc
    rw [List.foldl_cons, ih, mem_keys_insert]
    grind [keys]

theorem get?_eq_none {k : String} {es : Entries α} (h : ∀ e ∈ es, e.1 ≠ k) : get? k es = none := by
  induction es with
  | nil => rfl
  | cons e es ih =>
    rw [get?_cons, if_neg (h e (List.mem_cons_self ..)), ih fun d hd => h d (List.mem_cons_of_mem _ hd)]

/-- A key below the first one is at no entry. -/
theorem Ordered.get?_of_lt {k : String} {e : String × α} {es : Entries α} (h : Ordered (e :: es))
    (hk : k < e.1) : get? k (e :: es) = none := by
  refine get?_eq_none fun d hd hdk => ?_
  rcases List.mem_cons.1 hd with rfl | hd
  · exact String.lt_irrefl _ (hdk ▸ hk)
  · exact String.lt_irrefl _ (String.lt_trans hk (hdk ▸ (List.pairwise_cons.1 h).1 d hd))

/-- Ordered entries are given by what they hold at each key. -/
theorem Ordered.eq_of_get? {as bs : Entries α} (ha : Ordered as) (hb : Ordered bs)
    (h : ∀ k, get? k as = get? k bs) : as = bs := by
  induction as generalizing bs with
  | nil =>
    cases bs with
    | nil => rfl
    | cons b bs => exact absurd (h b.1) (by simp [get?_cons])
  | cons a as ih =>
    cases bs with
    | nil => exact absurd (h a.1) (by simp [get?_cons])
    | cons b bs =>
      have hab : a.1 = b.1 := by
        by_cases h₁ : a.1 < b.1
        · exact absurd (h a.1) (by simp [hb.get?_of_lt h₁, get?_cons])
        · by_cases h₂ : b.1 < a.1
          · exact absurd (h b.1) (by simp [ha.get?_of_lt h₂, get?_cons])
          · exact String.le_antisymm (String.not_lt.1 h₂) (String.not_lt.1 h₁)
      have hv : a = b := Prod.ext hab (by simpa [get?_cons, hab] using h a.1)
      subst hv
      obtain ⟨ha₁, ha₂⟩ := List.pairwise_cons.1 ha
      obtain ⟨hb₁, hb₂⟩ := List.pairwise_cons.1 hb
      rw [ih ha₂ hb₂ fun k => ?_]
      by_cases hk : a.1 = k
      · subst hk
        rw [get?_eq_none fun e he => (String.ne_of_lt (ha₁ e he)).symm,
          get?_eq_none fun e he => (String.ne_of_lt (hb₁ e he)).symm]
      · simpa [get?_cons, hk] using h k

end Entries

/-! ## Maps -/

/-- A map from texts: its entries, with strictly increasing keys. -/
structure KeyMap (α : Type) where
  entries : Entries α
  ordered : Entries.Ordered entries

namespace KeyMap

def empty : KeyMap α := ⟨[], List.Pairwise.nil⟩

instance : Inhabited (KeyMap α) := ⟨empty⟩

def get? (m : KeyMap α) (k : String) : Option α := Entries.get? k m.entries

def insert (m : KeyMap α) (k : String) (v : α) : KeyMap α :=
  ⟨Entries.insert k v m.entries, m.ordered.insert k v⟩

def erase (m : KeyMap α) (k : String) : KeyMap α :=
  ⟨Entries.erase k m.entries, m.ordered.erase k⟩

def keys (m : KeyMap α) : List String := Entries.keys m.entries

def size (m : KeyMap α) : Nat := m.entries.length

/-- A later pair replaces an earlier one of its key. -/
def ofList (es : Entries α) : KeyMap α := ⟨Entries.sorted es, Entries.ordered_sorted es⟩

@[ext] theorem ext {m n : KeyMap α} (h : m.entries = n.entries) : m = n := by
  cases m; cases n; cases h; rfl

/-- A map is given by what it holds at each key. -/
theorem ext_get? {m n : KeyMap α} (h : ∀ k, m.get? k = n.get? k) : m = n :=
  ext (m.ordered.eq_of_get? n.ordered h)

@[simp] theorem get?_empty (k : String) : (empty : KeyMap α).get? k = none := rfl

theorem get?_insert (m : KeyMap α) (k l : String) (v : α) :
    (m.insert k v).get? l = if k = l then some v else m.get? l := by
  split
  · next h => subst h; exact Entries.get?_insert_self ..
  · next h => exact Entries.get?_insert_of_ne h ..

end KeyMap

/-! ## Sets of names -/

/-- A set of names: a map with nothing at its keys. -/
structure NameSet where
  members : KeyMap Unit

namespace NameSet

def toList (s : NameSet) : List String := s.members.keys

theorem ordered (s : NameSet) : s.toList.Pairwise (· < ·) := List.pairwise_map.2 s.members.ordered

def empty : NameSet := ⟨KeyMap.empty⟩

instance : Inhabited NameSet := ⟨empty⟩

def insert (s : NameSet) (k : String) : NameSet := ⟨s.members.insert k ()⟩

def ofList (xs : List String) : NameSet := ⟨KeyMap.ofList (xs.map fun k => (k, ()))⟩

def contains (s : NameSet) (k : String) : Bool := s.toList.contains k

def isEmpty (s : NameSet) : Bool := s.toList.isEmpty

@[ext] theorem ext {s t : NameSet} (h : s.toList = t.toList) : s = t := by
  have hentries : s.members.entries = t.members.entries := (List.map_inj_right fun _ _ hk => Prod.ext hk rfl).1 h
  cases s; cases t; cases KeyMap.ext hentries; rfl

instance : DecidableEq NameSet := fun s t =>
  if h : s.toList = t.toList then .isTrue (ext h) else .isFalse fun e => h (e ▸ rfl)

theorem mem_insert {s : NameSet} {k l : String} : l ∈ (s.insert k).toList ↔ l = k ∨ l ∈ s.toList :=
  Entries.mem_keys_insert

theorem mem_ofList {xs : List String} {k : String} : k ∈ (ofList xs).toList ↔ k ∈ xs := by
  have hkeys : Entries.keys (xs.map fun k => (k, ())) = xs := by simp [Entries.keys, Function.comp_def]
  rw [toList, KeyMap.keys, ofList, KeyMap.ofList, Entries.mem_keys_sorted, hkeys]

end NameSet

end VarSchema
