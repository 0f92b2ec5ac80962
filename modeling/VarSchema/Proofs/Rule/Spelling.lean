import Mathlib.Logic.Relation
import VarSchema.Proofs.Rule.Exclusion

/-!
# Spellings of a condition

* `Condition.Respells` : one change of spelling, at a condition or anywhere inside it: a pair of parentheses, a
  comparison mirrored with its operands swapped, the length of an expression written as a call;
* `Operand`, `Condition.operand` : what rules read of an operand or argument; `Respells.operand_eq`,
  `Respells.map_callArgs?_eq` : a change of spelling shows in none of it;
* `Respells.alternatives_eq_ok_iff`, `Respells.bounds_eq_ok_iff` : nor in the links of chains;
  `Respells.recognize_eq_ok_iff` : nor in any rule;
* `Condition.toDelta_of_respellings` : so conditions of one spelling up to changes give the same keywords.
-/

namespace VarSchema

/-- What rules read of an operand or argument: its constant, and whether it is the variable or its length. -/
structure Operand where
  constant? : Option Json
  isVariable : Bool
  isLength : Bool

namespace Condition

/-! ## Changes of spelling -/

/-- One change of spelling, at the condition itself or anywhere inside. -/
inductive Respells : Condition → Condition → Prop
  | paren (c : Condition) : Respells c (.paren c)
  | mirror (op : Comparison) (l r : Condition) : Respells (.compare op l r) (.compare op.mirrored r l)
  | length (target : Condition) : Respells (.length target) (.call "length" [target])
  | andLeft {l l' : Condition} (r : Condition) : Respells l l' → Respells (.and l r) (.and l' r)
  | andRight (l : Condition) {r r' : Condition} : Respells r r' → Respells (.and l r) (.and l r')
  | orLeft {l l' : Condition} (r : Condition) : Respells l l' → Respells (.or l r) (.or l' r)
  | orRight (l : Condition) {r r' : Condition} : Respells r r' → Respells (.or l r) (.or l r')
  | compareLeft (op : Comparison) {l l' : Condition} (r : Condition) :
      Respells l l' → Respells (.compare op l r) (.compare op l' r)
  | compareRight (op : Comparison) (l : Condition) {r r' : Condition} :
      Respells r r' → Respells (.compare op l r) (.compare op l r')
  | argument (function : String) (before after : List Condition) {a a' : Condition} :
      Respells a a' → Respells (.call function (before ++ a :: after)) (.call function (before ++ a' :: after))
  | target {t t' : Condition} : Respells t t' → Respells (.length t) (.length t')
  | item (before after : List Condition) {a a' : Condition} :
      Respells a a' → Respells (.list (before ++ a :: after)) (.list (before ++ a' :: after))
  | inner {c c' : Condition} : Respells c c' → Respells (.paren c) (.paren c')

/-- What rules read of an operand. -/
def operand (name : String) (c : Condition) : Operand := ⟨c.literalValue?, c.isVar name, c.isLengthOf name⟩

/-- What rules read of the arguments of a call to `function`, if there are `arity` of them. -/
def operands? (name function : String) (arity : Nat) (c : Condition) : Option (List Operand) :=
  (c.callArgs? function arity).map (List.map (operand name))

namespace Respells

variable {name : String} {a b : Condition}

/-! ## Operands -/

theorem isVar_eq (h : Respells a b) : a.isVar name = b.isVar name := by
  induction h with
  | inner _ ih => exact ih
  | _ => rfl

theorem literalValues?_congr (h : a.literalValue? = b.literalValue?) (before after : List Condition) :
    literalValues? (before ++ a :: after) = literalValues? (before ++ b :: after) := by
  induction before with
  | nil => rw [List.nil_append, List.nil_append, literalValues?, literalValues?, h]
  | cons c before ih => rw [List.cons_append, List.cons_append, literalValues?, literalValues?, ih]

theorem literalValue?_eq (h : Respells a b) : a.literalValue? = b.literalValue? := by
  induction h with
  | item before after _ ih => rw [literalValue?, literalValue?, literalValues?_congr ih]
  | inner _ ih => exact ih
  | _ => rfl

/-- The arguments of a call differ at one place at most, and what is read there is the same. Lengths are left out, for
they are calls in one spelling only. -/
theorem map_callArgs?_eq {α : Type} (h : Respells a b) {g : Condition → α} (hg : ∀ {x y}, Respells x y → g x = g y)
    {f : String} (hf : f ≠ "length") (n : Nat) :
    (a.callArgs? f n).map (List.map g) = (b.callArgs? f n).map (List.map g) := by
  induction h with
  | length target =>
    have hnone : (Condition.call "length" [target]).callArgs? f n = none := if_neg fun hcall => hf hcall.1.symm
    rw [hnone]
    rfl
  | argument function before after hstep _ =>
    simp only [callArgs?, unparen, List.length_append, List.length_cons]
    split
    · simp only [Option.map_some, List.map_append, List.map_cons, hg hstep]
    · rfl
  | inner _ ih => exact ih
  | _ => rfl

theorem isLengthOf_eq (h : Respells a b) : a.isLengthOf name = b.isLengthOf name := by
  induction h with
  | target hstep _ => exact hstep.isVar_eq
  | argument function before after hstep _ =>
    rw [isLengthOf_call, isLengthOf_call]
    simp only [List.map_append, List.map_cons, hstep.isVar_eq]
  | inner _ ih => exact ih
  | _ => rfl

theorem operand_eq (h : Respells a b) : a.operand name = b.operand name := by
  rw [operand, operand, h.literalValue?_eq, h.isVar_eq, h.isLengthOf_eq]

theorem operands?_eq (h : Respells a b) {f : String} (hf : f ≠ "length") (n : Nat) :
    a.operands? name f n = b.operands? name f n := h.map_callArgs?_eq operand_eq hf n

/-! ## Links of chains -/

theorem equated_eq_ok_congr {l l' r r' : Condition} (hl : l.operand name = l'.operand name)
    (hr : r.operand name = r'.operand name) {w : Json} :
    Enumeration.equated name l r = .ok w ↔ Enumeration.equated name l' r' = .ok w := by
  rw [operand, operand, Operand.mk.injEq] at hl hr
  rw [Enumeration.equated_eq_ok_iff, Enumeration.equated_eq_ok_iff, hl.1, hl.2.1, hr.1, hr.2.1]

theorem alternatives_eq_ok_iff (h : Respells a b) : ∀ {values : List Json},
    Enumeration.alternatives name a = .ok values ↔ Enumeration.alternatives name b = .ok values := by
  induction h with
  | paren c => exact Iff.rfl
  | mirror op l r =>
    intro values
    have hop : op.mirrored = .eq ↔ op = .eq := by cases op <;> decide
    simp only [Enumeration.alternatives_compare_eq_ok_iff, Enumeration.equated_eq_ok_iff, hop, or_comm]
  | orLeft r _ ih | orRight l _ ih => simp only [Enumeration.alternatives_or_eq_ok_iff, ih, implies_true]
  | compareLeft op r hstep _ =>
    simp only [Enumeration.alternatives_compare_eq_ok_iff, equated_eq_ok_congr hstep.operand_eq rfl, implies_true]
  | compareRight op l hstep _ =>
    simp only [Enumeration.alternatives_compare_eq_ok_iff, equated_eq_ok_congr rfl hstep.operand_eq, implies_true]
  | inner _ ih => exact ih
  | _ => exact iff_of_false nofun nofun

theorem bounds_congr {type : String} {op : Comparison} {s s' t t' : Condition} {bs : List Bound}
    (hs : s.operand name = s'.operand name) (ht : t.operand name = t'.operand name) :
    Range.Bounds name type op s t bs ↔ Range.Bounds name type op s' t' bs := by
  rw [operand, operand, Operand.mk.injEq] at hs ht
  rw [Range.Bounds, Range.Bounds, Range.refers, Range.refers, hs.2.1, hs.2.2, ht.1]

theorem bounds_eq_ok_iff {type : String} (h : Respells a b) : ∀ {bs : List Bound},
    Range.bounds name type a = .ok bs ↔ Range.bounds name type b = .ok bs := by
  have hcompare (op : Comparison) (l r : Condition) :
      Range.bounds name type (.compare op l r) = Range.ofComparison name type op l r := rfl
  induction h with
  | paren c => exact Iff.rfl
  | mirror op l r =>
    intro bs
    rw [hcompare, hcompare, Range.ofComparison_eq_ok_iff, Range.ofComparison_eq_ok_iff, op.mirrored_mirrored, or_comm]
  | andLeft r _ ih | andRight l _ ih => simp only [Range.bounds_and_eq_ok_iff, ih, implies_true]
  | compareLeft op r hstep _ =>
    intro bs
    rw [hcompare, hcompare, Range.ofComparison_eq_ok_iff, Range.ofComparison_eq_ok_iff,
      bounds_congr hstep.operand_eq rfl, bounds_congr rfl hstep.operand_eq]
  | compareRight op l hstep _ =>
    intro bs
    rw [hcompare, hcompare, Range.ofComparison_eq_ok_iff, Range.ofComparison_eq_ok_iff,
      bounds_congr rfl hstep.operand_eq, bounds_congr hstep.operand_eq rfl]
  | inner _ ih => exact ih
  | _ => exact iff_of_false nofun nofun

end Respells

/-! ## Calls -/

section Calls

variable {name : String} {c : Condition} {d : Node}

theorem operands?_eq_some_pair {f : String} {n : Nat} {u w : Operand} : c.operands? name f n = some [u, w] ↔
    ∃ x y, c.callArgs? f n = some [x, y] ∧ x.operand name = u ∧ y.operand name = w := by
  rw [operands?, Option.map_eq_some_iff]
  constructor
  · rintro ⟨args, hargs, hmap⟩
    obtain ⟨x, rest, rfl, hx, hrest⟩ := List.map_eq_cons_iff.1 hmap
    obtain ⟨y, rfl, hy⟩ := List.map_eq_singleton_iff.1 hrest
    exact ⟨x, y, hargs, hx, hy⟩
  · rintro ⟨x, y, hargs, rfl, rfl⟩
    exact ⟨[x, y], hargs, rfl⟩

theorem ofMembership_eq_ok_iff_operands : Enumeration.ofMembership name c = .ok d ↔
    ∃ list subject values, c.operands? name "contains" 2 = some [list, subject] ∧
      list.constant? = some (.arr values) ∧ subject.isVariable = true ∧ d = Enumeration.node values := by
  simp only [Enumeration.ofMembership_eq_ok_iff, operands?_eq_some_pair]
  constructor
  · rintro ⟨list, subject, values, hargs, hlist, hvar, hd⟩
    exact ⟨_, _, values, ⟨list, subject, hargs, rfl, rfl⟩, hlist, hvar, hd⟩
  · rintro ⟨_, _, values, ⟨list, subject, hargs, rfl, rfl⟩, hlist, hvar, hd⟩
    exact ⟨list, subject, values, hargs, hlist, hvar, hd⟩

/-- What rules read of the arguments of a pattern match that is an argument of `can`. -/
def regexOperands? (name : String) (c : Condition) : Option (List (Option (List Operand))) :=
  (c.callArgs? "can" 1).map (List.map (operands? name "regex" 2))

theorem ofRegexCall_eq_ok_iff_operands {type : Option String} : Rule.ofRegexCall name type c = .ok d ↔
    type = some "string" ∧ ∃ pattern subject p, c.regexOperands? name = some [some [pattern, subject]] ∧
      subject.isVariable = true ∧ pattern.constant? = some (.str p) ∧ (Pattern.ofText p).isOk = true ∧
      d = Node.empty.set "pattern" (.str p) := by
  simp only [Rule.ofRegexCall_eq_ok_iff, Rule.regexArgs_eq_ok_iff]
  refine and_congr_right fun _ => ?_
  constructor
  · rintro ⟨pattern, subject, p, ⟨inner, hcan, hregex⟩, hvar, hp, hcompiles, hd⟩
    refine ⟨pattern.operand name, subject.operand name, p, ?_, hvar, hp, hcompiles, hd⟩
    have hinner : inner.operands? name "regex" 2 = some [pattern.operand name, subject.operand name] :=
      operands?_eq_some_pair.2 ⟨pattern, subject, hregex, rfl, rfl⟩
    rw [regexOperands?, hcan, Option.map_some, List.map_singleton, hinner]
  · rintro ⟨_, _, p, hoperands, hvar, hp, hcompiles, hd⟩
    obtain ⟨args, hcan, hmap⟩ := Option.map_eq_some_iff.1 hoperands
    obtain ⟨inner, rfl, hinner⟩ := List.map_eq_singleton_iff.1 hmap
    obtain ⟨pattern, subject, hregex, rfl, rfl⟩ := operands?_eq_some_pair.1 hinner
    exact ⟨pattern, subject, p, ⟨inner, hcan, hregex⟩, hvar, hp, hcompiles, hd⟩

end Calls

/-! ## Rules -/

variable {name : String} {a b : Condition} {d : Node}

/-- A change of spelling shows in no rule. -/
theorem Respells.recognize_eq_ok_iff (h : Respells a b) (r : Rule) {type : Option String} :
    r.recognize name type a = .ok d ↔ r.recognize name type b = .ok d := by
  cases r with
  | membership =>
    simp only [Rule.recognize, ofMembership_eq_ok_iff_operands, h.operands?_eq (by decide : "contains" ≠ "length")]
  | equalityChain => simp only [Rule.recognize, Enumeration.ofEqualities_eq_ok_iff, h.alternatives_eq_ok_iff]
  | rangeChain => simp only [Rule.recognize, Range.ofComparisons_eq_ok_iff, h.bounds_eq_ok_iff]
  | regexCall =>
    have hregex : a.regexOperands? name = b.regexOperands? name :=
      h.map_callArgs?_eq (fun hstep => hstep.operands?_eq (by decide) 2) (by decide) 1
    simp only [Rule.recognize, ofRegexCall_eq_ok_iff_operands, hregex]

theorem Respells.toDelta_eq_ok_iff (h : Respells a b) {n : Node} :
    a.toDelta name n = .ok d ↔ b.toDelta name n = .ok d := by
  simp only [Condition.toDelta_eq_ok_iff, h.recognize_eq_ok_iff]

theorem toDelta_eq_ok_iff_of_respellings (h : Relation.EqvGen Respells a b) {n : Node} :
    a.toDelta name n = .ok d ↔ b.toDelta name n = .ok d := by
  induction h with
  | rel a b hstep => exact hstep.toDelta_eq_ok_iff
  | refl a => exact Iff.rfl
  | symm a b _ ih => exact ih.symm
  | trans a b c _ _ hab hbc => exact hab.trans hbc

/-- **Conditions that differ in spelling only give the same keywords, or are both refused.** -/
theorem toDelta_of_respellings (h : Relation.EqvGen Respells a b) (name : String) (n : Node) :
    (∃ d, a.toDelta name n = .ok d ∧ b.toDelta name n = .ok d) ∨
      ∃ e f, a.toDelta name n = .error e ∧ b.toDelta name n = .error f := by
  cases ha : a.toDelta name n with
  | ok d => exact .inl ⟨d, rfl, (toDelta_eq_ok_iff_of_respellings h).1 ha⟩
  | error e =>
    cases hb : b.toDelta name n with
    | error f => exact .inr ⟨e, f, rfl, rfl⟩
    | ok d =>
      rw [(toDelta_eq_ok_iff_of_respellings h).2 hb] at ha
      cases ha

/-- A bound mirrored and in parentheses, its length written as a call, with parentheses inside the argument too. -/
theorem toDelta_of_respellings_length :
    let bound : Condition := .compare .lt (.literal (.int 2)) (.length (.varRef "x"))
    let respelled : Condition := .paren (.compare .gt (.call "length" [.paren (.varRef "x")]) (.literal (.int 2)))
    Relation.EqvGen Respells bound respelled ∧
      ∃ d, bound.toDelta "x" (Node.typed "array") = .ok d ∧ respelled.toDelta "x" (Node.typed "array") = .ok d := by
  intro bound respelled
  have hstep : Relation.EqvGen Respells bound respelled := by
    refine .trans _ _ _ (.rel _ _ (.mirror ..)) ?_
    refine .trans _ _ _ (.rel _ _ (.compareLeft _ _ (.length _))) ?_
    refine .trans _ _ _ (.rel _ _ (.compareLeft _ _ (.argument "length" [] [] (.paren _)))) ?_
    exact .rel _ _ (.paren _)
  refine ⟨hstep, (toDelta_of_respellings hstep "x" (Node.typed "array")).resolve_right ?_⟩
  rintro ⟨e, f, he, -⟩
  have hok : (bound.toDelta "x" (Node.typed "array")).isOk = true := by decide +kernel
  rw [he] at hok
  cases hok

end Condition

end VarSchema
