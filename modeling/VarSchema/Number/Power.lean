/-!
# Powers of two and ten

* `twoPow`, `tenPow` : the powers, as whole numbers.
-/

namespace VarSchema

def twoPow (n : Nat) : Nat := Nat.pow 2 n

def tenPow (n : Nat) : Nat := Nat.pow 10 n

theorem twoPow_pos (n : Nat) : 0 < twoPow n := Nat.two_pow_pos n

end VarSchema
