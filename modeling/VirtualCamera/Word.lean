/-!
# Sizes that do not wrap

Buffer sizes are 32-bit words.  A product or sum of two sizes is used only
when it is a 32-bit word itself; the operations here return `none` otherwise.
Each comes with the law that says it agrees with the exact natural number.
-/

namespace VirtualCamera

namespace Word

/-- The exact product, if it is a 32-bit word. -/
def mul? (a b : UInt32) : Option UInt32 :=
  if a.toNat * b.toNat < UInt32.size then some (a * b) else none

/-- The exact sum, if it is a 32-bit word. -/
def add? (a b : UInt32) : Option UInt32 :=
  if a.toNat + b.toNat < UInt32.size then some (a + b) else none

/-- The least multiple of `step` that is at least `value`, if it is a 32-bit
word.  The step is meant to be positive. -/
def roundUp? (value step : UInt32) : Option UInt32 :=
  if value % step = 0 then some value else add? value (step - value % step)

/-! ## Agreement with exact arithmetic -/

theorem mul?_eq_some_iff {a b c : UInt32} :
    mul? a b = some c ↔ c.toNat = a.toNat * b.toNat := by
  unfold mul?
  constructor
  · intro h
    split at h
    · rename_i hlt
      obtain rfl := Option.some.inj h
      rw [UInt32.toNat_mul]
      exact Nat.mod_eq_of_lt hlt
    · cases h
  · intro h
    have hlt : a.toNat * b.toNat < UInt32.size := h ▸ c.toNat_lt
    rw [if_pos hlt]
    refine congrArg some (UInt32.toNat_inj.mp ?_)
    rw [UInt32.toNat_mul, h]
    exact Nat.mod_eq_of_lt hlt

theorem add?_eq_some_iff {a b c : UInt32} :
    add? a b = some c ↔ c.toNat = a.toNat + b.toNat := by
  unfold add?
  constructor
  · intro h
    split at h
    · rename_i hlt
      obtain rfl := Option.some.inj h
      rw [UInt32.toNat_add]
      exact Nat.mod_eq_of_lt hlt
    · cases h
  · intro h
    have hlt : a.toNat + b.toNat < UInt32.size := h ▸ c.toNat_lt
    rw [if_pos hlt]
    refine congrArg some (UInt32.toNat_inj.mp ?_)
    rw [UInt32.toNat_add, h]
    exact Nat.mod_eq_of_lt hlt

end Word

/-- Half of `n`, rounded up. -/
def halfUp (n : UInt64) : UInt64 :=
  n / 2 + n % 2

end VirtualCamera
