import Mathlib.Data.String.Basic
import VarSchema.Constraint.Wire

/-!
# Places inside types

An error's path has a segment for each step from a type to the part at fault.

* `TypeError.pathOf`, `TypeError.located` : segments with slashes between them, and a fault there;
  `TypeError.within_located` : seen from the enclosing type, it is one segment further in;
* `Step`, `Step.segment` : a step from a type to one of its parts, and its segment;
* `Step.Before`, `Step.Earlier` : which part of a type comes first, and which of two places that part ways;
* `Step.follow` : what steps lead to; `Step.follow_forall` : what passes from a whole to its parts holds there.
-/

namespace VarSchema

/-! ## Paths -/

namespace TypeError

/-- The path of some segments. -/
def pathOf (segments : List String) : String := "/".intercalate segments

/-- A fault behind some segments. -/
def located (segments : List String) (fault : TypeFault) : TypeError := ⟨pathOf segments, fault⟩

theorem pathOf_ne_empty {segment : String} (h : segment ≠ "") (segments : List String) :
    pathOf (segment :: segments) ≠ "" := by
  intro hempty
  apply h
  unfold pathOf at hempty
  cases segments with
  | nil => rwa [String.intercalate_singleton] at hempty
  | cons next rest =>
    rw [String.intercalate_cons_cons] at hempty
    simp only [String.append_eq_empty_iff] at hempty
    exact hempty.1.1

/-- Seen from the enclosing type, a fault is one segment further in. No segment is empty, since the path would
then not show it. -/
theorem within_located (segment : String) {segments : List String} (h : ∀ s ∈ segments, s ≠ "")
    (fault : TypeFault) : (located segments fault).within segment = located (segment :: segments) fault := by
  have hpath : joinPath segment (pathOf segments) = pathOf (segment :: segments) := by
    unfold joinPath
    cases segments with
    | nil => rw [pathOf, pathOf, String.intercalate_nil, String.intercalate_singleton, if_pos rfl]
    | cons next rest =>
      rw [if_neg (pathOf_ne_empty (h next (List.mem_cons_self ..)) rest)]
      exact String.intercalate_cons_cons.symm
  show TypeError.mk (joinPath segment (pathOf segments)) fault = _
  rw [hpath, located]

end TypeError

/-! ## Steps -/

/-- A step from a type to one of its parts. -/
inductive Step where
  | list
  | set
  | map
  | element (i : Nat)
  | field (name : String)
deriving DecidableEq

namespace Step

/-- The segment of a step. -/
def segment : Step → String
  | list => "list"
  | set => "set"
  | map => "map"
  | element i => Constraint.tupleSegment i
  | field name => Constraint.attributeSegment name

theorem segment_ne_empty (s : Step) : s.segment ≠ "" := by
  cases s with
  | list | set | map => decide
  | element i => simp [segment, Constraint.tupleSegment]
  | field name => simp [segment, Constraint.attributeSegment]

theorem ne_empty_of_mem_segments {steps : List Step} {s : String} (h : s ∈ steps.map segment) : s ≠ "" := by
  obtain ⟨step, -, rfl⟩ := List.mem_map.1 h
  exact step.segment_ne_empty

/-- Whether one part of a type comes before another: elements by position, attributes by name. -/
def Before : Step → Step → Prop
  | element i, element j => i < j
  | field k, field l => k < l
  | _, _ => False

/-- Whether of two places that part ways the first one comes before the other. -/
inductive Earlier : List Step → List Step → Prop
  | parted {s t : Step} (h : s.Before t) (p q : List Step) : Earlier (s :: p) (t :: q)
  | along (s : Step) {p q : List Step} (h : Earlier p q) : Earlier (s :: p) (s :: q)

variable {α : Type} {part? : α → Step → Option α}

/-- What steps lead to, when `part?` gives the part at one step. -/
def follow (part? : α → Step → Option α) : List Step → α → Option α
  | [], a => some a
  | s :: rest, a => (part? a s).bind (follow part? rest)

theorem follow_cons {s : Step} {rest : List Step} {a b : α} (h : part? a s = some b) :
    follow part? (s :: rest) a = follow part? rest b := by
  rw [follow, h, Option.bind_some]

theorem follow_cons_eq_some {s : Step} {rest : List Step} {a c : α} :
    follow part? (s :: rest) a = some c ↔ ∃ b, part? a s = some b ∧ follow part? rest b = some c := by
  rw [follow, Option.bind_eq_some_iff]

/-- What passes from a whole to each part holds of what steps lead to. -/
theorem follow_forall {P : α → Prop} (hpart : ∀ {a b : α} {s : Step}, P a → part? a s = some b → P b) :
    ∀ {steps : List Step} {a b : α}, P a → follow part? steps a = some b → P b
  | [], _, _, ha, h => by
    cases h
    exact ha
  | s :: rest, a, b, ha, h => by
    obtain ⟨c, hc, hb⟩ := follow_cons_eq_some.1 h
    exact follow_forall hpart (hpart ha hc) hb

end Step

end VarSchema
