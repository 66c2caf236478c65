/-
  Arithmetic modulo a number: powers by repeated squaring, and inverses by Euclid's algorithm.
-/

namespace CertRenewal.Rsa

/-- A power modulo `m`. -/
def powMod (b e m : Nat) : Nat :=
  if e = 0 then 1 % m
  else
    let half := powMod (b * b % m) (e / 2) m
    if e % 2 = 1 then b * half % m else half

/-- The factor of `a` in Euclid's algorithm on `a` and a modulus: at each step `s₀` and `s₁` are
factors that give the remainders `r₀` and `r₁`. -/
def euclid (r₀ r₁ : Nat) (s₀ s₁ : Int) : Int :=
  if _h : r₁ = 0 then s₀
  else euclid r₁ (r₀ % r₁) s₁ (s₀ - (r₀ / r₁ : Nat) * s₁)
termination_by r₁
decreasing_by exact Nat.mod_lt _ (Nat.pos_of_ne_zero _h)

/-- The number below `m` whose product with `a` is 1 modulo `m`, if there is one. -/
def inverseMod (a m : Nat) : Nat := (euclid a m 1 0 % m).toNat

end CertRenewal.Rsa
