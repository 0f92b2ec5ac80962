import VarSchema.Json.Basic

/-!
# Equality of JSON values

* `Json.equal_comm` : equality by value is symmetric.
-/

namespace VarSchema

theorem Number.equal_comm (a b : Number) : a.equal b = b.equal a := by
  rw [Number.equal, Number.equal]
  exact Bool.beq_comm

namespace Json

variable {eqv : Number → Number → Bool}

mutual
theorem same_comm (h : ∀ m n, eqv m n = eqv n m) : ∀ a b : Json, same eqv a b = same eqv b a
  | .null, b => by cases b <;> rfl
  | .bool _, b => by cases b <;> simp [same, Bool.beq_comm]
  | .num m, b => by cases b <;> simp [same, h m]
  | .str _, b => by cases b <;> simp [same, Bool.beq_comm]
  | .arr xs, b => by cases b <;> simp [same, sameItems_comm h xs]
  | .obj xs, b => by cases b <;> simp [same, sameFields_comm h xs]
termination_by structural v => v

theorem sameItems_comm (h : ∀ m n, eqv m n = eqv n m) : ∀ xs ys : List Json,
    sameItems eqv xs ys = sameItems eqv ys xs
  | [], ys => by cases ys <;> rfl
  | x :: xs, ys => by cases ys <;> simp [sameItems, same_comm h x, sameItems_comm h xs]
termination_by structural vs => vs

theorem sameFields_comm (h : ∀ m n, eqv m n = eqv n m) : ∀ xs ys : List (String × Json),
    sameFields eqv xs ys = sameFields eqv ys xs
  | [], ys => by cases ys <;> rfl
  | (_, x) :: xs, ys => by
    cases ys <;> simp [sameFields, same_comm h x, sameFields_comm h xs, Bool.beq_comm]
termination_by structural es => es
end

theorem equal_comm (a b : Json) : a.equal b = b.equal a := same_comm Number.equal_comm a b

end Json

end VarSchema
