/-!
# Double-precision numbers

Every finite double is an integer multiple of `2 ^ -1074`, so it is stored as
that multiple together with its sign. No exponent is carried: addition of
scales, comparison, truncation and rounding are all plain arithmetic on natural
numbers, and a statement about a double is a statement about one natural number.

`nearestUnits` is the only place where anything is rounded. It rounds a
quotient to the nearest multiple of the spacing of the doubles around it, a half
going to the even multiple. Reading a decimal, converting an integer,
multiplying and dividing are that one function applied to an exact quotient.
-/

namespace Maquette

/-- The quotient `num / den` rounded to an integer; a half goes to the even
neighbour. -/
def roundHalfEven (num den : Nat) : Nat :=
  let q := num / den
  let r := num % den
  if 2 * r < den then q else if den < 2 * r then q + 1 else q + q % 2

theorem le_roundHalfEven (num den : Nat) : num / den ≤ roundHalfEven num den := by
  unfold roundHalfEven
  dsimp only
  split
  · exact Nat.le_refl _
  · split <;> omega

theorem roundHalfEven_le (num den : Nat) : roundHalfEven num den ≤ num / den + 1 := by
  unfold roundHalfEven
  dsimp only
  split
  · omega
  · split <;> omega

namespace Binary64

/-- How many units make one: doubles are counted in units of `2 ^ -1074`. -/
def unitsPerOne : Nat := Nat.pow 2 1074

/-- The first number of units that is too large for a finite double. -/
def unitsLimit : Nat := Nat.pow 2 2098

/-- The distance between the doubles around `units`: a double has 53 binary
digits, and the spacing never falls below one unit. -/
def spacing (units : Nat) : Nat := Nat.pow 2 (units.log2 - 52)

/-- The number of units of the double nearest to `num / den` units; of two
equally near ones the one with an even last binary digit. -/
def nearestUnits (num den : Nat) : Nat :=
  let step := spacing (num / den)
  roundHalfEven num (den * step) * step

theorem spacing_pos (units : Nat) : 0 < spacing units :=
  Nat.pow_pos (by decide)

/-- Rounding always lands on a multiple of the spacing that belongs there. -/
theorem nearestUnits_mod_spacing (num den : Nat) :
    nearestUnits num den % spacing (nearestUnits num den) = 0 := by
  have hstep : nearestUnits num den =
      roundHalfEven num (den * spacing (num / den)) * spacing (num / den) := rfl
  generalize hk : (num / den).log2 - 52 = k at *
  have hspacing : spacing (num / den) = 2 ^ k := by simp [spacing, hk]
  rw [hspacing] at hstep
  generalize hm : roundHalfEven num (den * 2 ^ k) = m at *
  have hq : num / den < 2 ^ (53 + k) := by
    by_cases h0 : num / den = 0
    · rw [h0]; exact Nat.pow_pos (by decide)
    · have := (Nat.log2_lt h0 (k := 53 + k)).1 (by omega)
      exact this
  have hfloor : num / (den * 2 ^ k) < 2 ^ 53 := by
    rw [← Nat.div_div_eq_div_mul]
    apply Nat.div_lt_of_lt_mul
    rw [← Nat.pow_add, Nat.add_comm]
    exact hq
  have hle : m ≤ 2 ^ 53 := by
    have := roundHalfEven_le num (den * 2 ^ k)
    omega
  rw [hstep]
  apply Nat.mod_eq_zero_of_dvd
  rcases Nat.lt_or_eq_of_le hle with hlt | heq
  · have hlog : (m * 2 ^ k).log2 - 52 ≤ k := by
      by_cases h0 : m * 2 ^ k = 0
      · simp [h0]
      · have : (m * 2 ^ k).log2 < 53 + k := by
          rw [Nat.log2_lt h0, Nat.pow_add]
          exact Nat.mul_lt_mul_of_pos_right hlt (Nat.pow_pos (by decide))
        omega
    exact Nat.dvd_trans (Nat.pow_dvd_pow 2 hlog) (Nat.dvd_mul_left _ _)
  · rw [heq, ← Nat.pow_add]
    unfold spacing
    rw [Nat.log2_two_pow]
    exact Nat.pow_dvd_pow 2 (by omega)

end Binary64

/-- The absolute value of a finite double, counted in units of `2 ^ -1074`: a
multiple of the spacing at its size, and below the limit. -/
structure Magnitude where
  units : Nat
  on_grid : units % Binary64.spacing units = 0
  below_limit : units < Binary64.unitsLimit
deriving DecidableEq

/-- A double-precision number. The two zeros are distinct values; all
not-a-number patterns are one. -/
inductive Binary64
  | finite (negative : Bool) (magnitude : Magnitude)
  | infinite (negative : Bool)
  | nan
deriving DecidableEq

namespace Binary64

/-- The double nearest to `num / den` units, infinite when the nearest multiple
of the spacing is past the largest finite double. -/
def ofUnits (negative : Bool) (num den : Nat) : Binary64 :=
  if h : nearestUnits num den < unitsLimit then
    .finite negative ⟨nearestUnits num den, nearestUnits_mod_spacing num den, h⟩
  else
    .infinite negative

def ofRatio (negative : Bool) (num den : Nat) : Binary64 :=
  ofUnits negative (num * unitsPerOne) den

/-- The double nearest to an integer. -/
def ofInt (n : Int) : Binary64 :=
  ofRatio (decide (n < 0)) n.natAbs 1

instance (n : Nat) : OfNat Binary64 n := ⟨ofInt n⟩

/-- Neither an infinity nor a not-a-number. -/
def isFinite : Binary64 → Bool
  | .finite _ _ => true
  | _ => false

def signedUnits (negative : Bool) (magnitude : Magnitude) : Int :=
  if negative then -(magnitude.units : Int) else magnitude.units

/-- Strictly smaller; false as soon as one side is not a number. -/
def lt : Binary64 → Binary64 → Bool
  | .nan, _ | _, .nan => false
  | .infinite s, .infinite t => s && !t
  | .infinite s, .finite _ _ => s
  | .finite _ _, .infinite t => !t
  | .finite s a, .finite t b => decide (signedUnits s a < signedUnits t b)

/-- Either of the two zeros. -/
def isZero : Binary64 → Bool
  | .finite _ m => m.units == 0
  | _ => false

/-- A finite double with this absolute value, whatever its sign. -/
def hasUnits (units : Nat) : Binary64 → Bool
  | .finite _ m => m.units == units
  | _ => false

/-- The larger of two numbers, the first one when neither is larger. -/
def max (x y : Binary64) : Binary64 :=
  if x.lt y then y else x

/-- The product, rounded once. -/
def mul : Binary64 → Binary64 → Binary64
  | .nan, _ | _, .nan => .nan
  | .infinite s, .infinite t => .infinite (s != t)
  | .infinite s, .finite t b => if b.units = 0 then .nan else .infinite (s != t)
  | .finite s a, .infinite t => if a.units = 0 then .nan else .infinite (s != t)
  | .finite s a, .finite t b => ofUnits (s != t) (a.units * b.units) unitsPerOne

/-- The quotient, rounded once. -/
def div : Binary64 → Binary64 → Binary64
  | .nan, _ | _, .nan => .nan
  | .infinite _, .infinite _ => .nan
  | .infinite s, .finite t _ => .infinite (s != t)
  | .finite s _, .infinite t => ofUnits (s != t) 0 1
  | .finite s a, .finite t b =>
    if b.units = 0 then if a.units = 0 then .nan else .infinite (s != t)
    else ofUnits (s != t) (a.units * unitsPerOne) b.units

instance : Mul Binary64 := ⟨mul⟩
instance : Div Binary64 := ⟨div⟩

/-- The integer part, toward zero, of a finite double. -/
def integerPart (negative : Bool) (magnitude : Magnitude) : Int :=
  let whole : Nat := magnitude.units / unitsPerOne
  if negative then -(whole : Int) else whole

/-- A finite double without a fraction, as the integer it is. -/
def integer? : Binary64 → Option Int
  | .finite s m => if m.units % unitsPerOne = 0 then some (integerPart s m) else none
  | _ => none

@[simp] theorem isFinite_finite (s : Bool) (m : Magnitude) : (finite s m).isFinite = true := rfl

@[simp] theorem isFinite_infinite (s : Bool) : (infinite s).isFinite = false := rfl

@[simp] theorem isFinite_nan : nan.isFinite = false := rfl

theorem exists_finite_of_hasUnits {units : Nat} :
    ∀ {x : Binary64}, x.hasUnits units = true → ∃ s m, x = .finite s m ∧ m.units = units
  | .finite s m, h => ⟨s, m, rfl, eq_of_beq h⟩
  | .infinite _, h => by cases h
  | .nan, h => by cases h

end Binary64

end Maquette
