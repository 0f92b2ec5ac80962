import VarSchema.Proofs.Condition.Views
import VarSchema.Proofs.Text.Line

/-!
# Conditions on one line

* `Condition.names` : the names of variables and functions in a condition; `Condition.HasLineNames` : all of them are
  lines;
* `Condition.isLine_display` : such a condition is written on one line, whatever its literals are, for only names are
  written as they are;
* `Condition.HasLineNames.unparen`, `Condition.HasLineNames.arg` : the parts that rules read have such names too.
-/

namespace VarSchema

theorem Comparison.isLine_symbol (op : Comparison) : IsLine op.symbol := by
  cases op <;> exact .literal (by decide)

namespace Condition

/-! ## Names -/

mutual
/-- The names of variables and functions in a condition, from left to right. -/
def names : Condition → List String
  | .and l r => names l ++ names r
  | .or l r => names l ++ names r
  | .compare _ l r => names l ++ names r
  | .call name args => name :: itemNames args
  | .varRef name => [name]
  | .length target => names target
  | .literal _ => []
  | .list items => itemNames items
  | .paren inner => names inner
termination_by structural c => c

/-- Item by item. -/
def itemNames : List Condition → List String
  | [] => []
  | c :: rest => names c ++ itemNames rest
termination_by structural cs => cs
end

/-- No name of a variable or function has a line break. -/
def HasLineNames (c : Condition) : Prop := ∀ s ∈ c.names, IsLine s

variable {c l r : Condition} {items : List Condition}

theorem hasLineNames_and : (and l r).HasLineNames ↔ l.HasLineNames ∧ r.HasLineNames := List.forall_mem_append

theorem hasLineNames_or : (or l r).HasLineNames ↔ l.HasLineNames ∧ r.HasLineNames := List.forall_mem_append

theorem hasLineNames_compare {op : Comparison} : (compare op l r).HasLineNames ↔ l.HasLineNames ∧ r.HasLineNames :=
  List.forall_mem_append

theorem hasLineNames_items : ∀ {items : List Condition},
    (∀ s ∈ itemNames items, IsLine s) ↔ ∀ c ∈ items, c.HasLineNames
  | [] => iff_of_true (List.forall_mem_nil _) (List.forall_mem_nil _)
  | c :: rest => by
    rw [itemNames, List.forall_mem_append, List.forall_mem_cons, hasLineNames_items, HasLineNames]

theorem hasLineNames_list : (list items).HasLineNames ↔ ∀ c ∈ items, c.HasLineNames := hasLineNames_items

theorem hasLineNames_call {name : String} :
    (call name items).HasLineNames ↔ IsLine name ∧ ∀ c ∈ items, c.HasLineNames := by
  rw [← hasLineNames_items]
  exact List.forall_mem_cons

/-! ## Parts -/

theorem HasLineNames.unparen (h : c.HasLineNames) : c.unparen.HasLineNames := by
  fun_induction Condition.unparen c with
  | case1 inner ih => exact ih h
  | case2 => exact h

theorem HasLineNames.arg {f : String} {n : Nat} {args : List Condition} (h : c.HasLineNames)
    (hargs : c.callArgs? f n = some args) : ∀ a ∈ args, a.HasLineNames := by
  have hcall := h.unparen
  rw [(callArgs?_eq_some hargs).1, hasLineNames_call] at hcall
  exact hcall.2

/-! ## Text -/

mutual
/-- A condition is written on one line. -/
theorem isLine_display : ∀ {c : Condition}, c.HasLineNames → IsLine c.display
  | .and l r, h => by
    obtain ⟨hl, hr⟩ := hasLineNames_and.1 h
    exact ((isLine_display hl).append (.literal (by decide))).append (isLine_display hr)
  | .or l r, h => by
    obtain ⟨hl, hr⟩ := hasLineNames_or.1 h
    exact ((isLine_display hl).append (.literal (by decide))).append (isLine_display hr)
  | .compare op l r, h => by
    obtain ⟨hl, hr⟩ := hasLineNames_compare.1 h
    have hblank : IsLine " " := .literal (by decide)
    exact ((((isLine_display hl).append hblank).append op.isLine_symbol).append hblank).append (isLine_display hr)
  | .call name args, h => by
    obtain ⟨hname, hargs⟩ := hasLineNames_call.1 h
    have hlisted : IsLine (", ".intercalate (displayItems args)) :=
      .intercalate (.literal (by decide)) fun _ => isLine_displayItems hargs
    exact ((hname.append (.literal (by decide))).append hlisted).append (.literal (by decide))
  | .varRef name, h => .append (.literal (by decide)) (h name (List.mem_singleton_self name))
  | .length target, h => .between (isLine_display (c := target) h) (by decide) (by decide)
  | .literal v, _ => v.isLine_compact
  | .list items, h => by
    have hlisted : IsLine (", ".intercalate (displayItems items)) :=
      .intercalate (.literal (by decide)) fun _ => isLine_displayItems (hasLineNames_list.1 h)
    exact hlisted.between (by decide) (by decide)
  | .paren inner, h => .between (isLine_display (c := inner) h) (by decide) (by decide)
termination_by structural c => c

theorem isLine_displayItems : ∀ {items : List Condition}, (∀ c ∈ items, c.HasLineNames) →
    ∀ {s : String}, s ∈ displayItems items → IsLine s
  | c :: rest, h, s, hs => by
    rw [List.forall_mem_cons] at h
    rcases List.mem_cons.1 hs with rfl | hs
    · exact isLine_display h.1
    · exact isLine_displayItems h.2 hs
termination_by structural cs => cs
end

end Condition

end VarSchema
