import Mathlib.Tactic.Ring
import SearchClient.Number.Binary64

/-!
# Rounded quotients

What becomes of a quotient of integers that is rounded to the 64-bit format and then loses its
fraction. Two facts are shown of it:

1. `Binary64.truncate?_ofRatio`: below `2 ^ 53` nothing is lost, the whole part is that of the
   exact quotient, since no quotient of such a number is close enough to the next whole number to
   be rounded up to it;
2. `Binary64.truncate?_ofRatio_eq_none_iff`: there is no whole part exactly from
   `Binary64.overflow` on, which lies half way between the largest finite number and the first
   power of two that is too large.

Both compare natural numbers of units. The spacing of the numbers around a quotient is a power of
two that is told by the quotient's logarithm alone.
-/

namespace SearchClient
namespace Binary64

variable {a b e k m n w : Nat}

/-! ## The nearest multiple -/

/-- The nearest multiple is next to the quotient, on the side where at most half a divisor is left;
at a half it is the even one. -/
theorem nearestEven_cases (a b : Nat) :
    nearestEven a b = a / b ∧ 2 * (a % b) ≤ b ∧ (2 * (a % b) = b → a / b % 2 = 0) ∨
      nearestEven a b = a / b + 1 ∧ b ≤ 2 * (a % b) ∧ (2 * (a % b) = b → a / b % 2 = 1) := by
  simp only [nearestEven]
  split
  · left
    omega
  · split
    · right
      omega
    · split
      · left
        omega
      · right
        omega

/-- The nearest multiple of `b` is at most half of `b` above. -/
theorem two_mul_nearestEven_le (a b : Nat) : 2 * (nearestEven a b * b) ≤ 2 * a + b := by
  have hdiv : b * (a / b) + a % b = a := Nat.div_add_mod a b
  have hcomm : b * (a / b) = a / b * b := Nat.mul_comm b (a / b)
  have hnext : (a / b + 1) * b = a / b * b + b := Nat.succ_mul (a / b) b
  rcases nearestEven_cases a b with ⟨hnear, -, -⟩ | ⟨hnear, hhalf, -⟩
  · rw [hnear]
    omega
  · rw [hnear]
    omega

theorem div_le_nearestEven (a b : Nat) : a / b ≤ nearestEven a b := by
  rcases nearestEven_cases a b with ⟨hnear, -, -⟩ | ⟨hnear, -, -⟩
  · exact hnear.ge
  · rw [hnear]
    exact Nat.le_succ _

theorem nearestEven_le (a b : Nat) : nearestEven a b ≤ a / b + 1 := by
  rcases nearestEven_cases a b with ⟨hnear, -, -⟩ | ⟨hnear, -, -⟩
  · rw [hnear]
    exact Nat.le_succ _
  · exact hnear.le

/-- An even number is reached from half way below it on, since a half goes to the even side. -/
theorem le_nearestEven_iff (hb : 0 < b) (hk : k % 2 = 0) (hpos : 0 < k) :
    k ≤ nearestEven a b ↔ (2 * k - 1) * b ≤ 2 * a := by
  have hdiv : b * (a / b) + a % b = a := Nat.div_add_mod a b
  have hmod : a % b < b := Nat.mod_lt a hb
  have hlow := div_le_nearestEven a b
  have hhigh := nearestEven_le a b
  rcases Nat.lt_trichotomy (a / b + 1) k with hlt | heq | hgt
  · -- the quotient is too small by more than one
    have hfar : (2 * (a / b) + 3) * b ≤ (2 * k - 1) * b := Nat.mul_le_mul_right b (by omega)
    have hform : (2 * (a / b) + 3) * b = 2 * (b * (a / b)) + 3 * b := by ring
    omega
  · -- the quotient is odd, so a half goes up
    have hform : (2 * k - 1) * b = 2 * (b * (a / b)) + b := by
      have hodd : 2 * k - 1 = 2 * (a / b) + 1 := by omega
      rw [hodd]
      ring
    have hodd : a / b % 2 = 1 := by omega
    rw [hform]
    rcases nearestEven_cases a b with ⟨hnear, hhalf, heven⟩ | ⟨hnear, hhalf, -⟩ <;> omega
  · -- the whole part has reached `k` by itself
    have hnear : (2 * k - 1) * b ≤ (2 * (a / b)) * b := Nat.mul_le_mul_right b (by omega)
    have hform : (2 * (a / b)) * b = 2 * (b * (a / b)) := by ring
    omega

/-! ## Spacing -/

/-- The distance between neighbours of the format around `q` units. -/
def spacing (q : Nat) : Nat := 2 ^ (q.log2 - 52)

theorem roundUnits_eq (a b : Nat) :
    roundUnits a b = nearestEven a (b * spacing (a / b)) * spacing (a / b) := rfl

theorem spacing_pos (q : Nat) : 0 < spacing q := Nat.two_pow_pos _

/-- A spacing of more than one unit leaves 53 significant bits. -/
theorem spacing_eq_one_or (q : Nat) : spacing q = 1 ∨ spacing q * 2 ^ 52 ≤ q := by
  by_cases hlow : q.log2 ≤ 52
  · left
    rw [spacing, Nat.sub_eq_zero_of_le hlow, Nat.pow_zero]
  · right
    have hne : q ≠ 0 := by
      rintro rfl
      exact hlow (by simp)
    calc
      spacing q * 2 ^ 52 = 2 ^ (q.log2 - 52 + 52) := (Nat.pow_add 2 _ 52).symm
      _ = 2 ^ q.log2 := by rw [Nat.sub_add_cancel (by omega)]
      _ ≤ q := Nat.log2_self_le hne

theorem lt_spacing_mul (q : Nat) : q < spacing q * 2 ^ 53 := by
  calc
    q < 2 ^ (q.log2 + 1) := Nat.lt_log2_self
    _ ≤ 2 ^ (q.log2 - 52 + 53) := Nat.pow_le_pow_right (by decide) (by omega)
    _ = spacing q * 2 ^ 53 := Nat.pow_add 2 _ 53

/-! ## Reaching a power of two -/

theorem div_spacing (a b : Nat) :
    a / (b * spacing (a / b)) = a / b / spacing (a / b) := by
  rw [Nat.div_div_eq_div_mul]

/-- In a lower binade the upper end is below the power. -/
theorem roundUnits_lt_of_log2_lt (h : (a / b).log2 < e + 53) :
    roundUnits a b < 2 ^ (e + 54) := by
  have hnear : nearestEven a (b * spacing (a / b)) ≤ 2 ^ 53 := by
    have hle := nearestEven_le a (b * spacing (a / b))
    have hlt : a / b / spacing (a / b) < 2 ^ 53 := Nat.div_lt_of_lt_mul (lt_spacing_mul (a / b))
    rw [div_spacing] at hle
    omega
  have hspacing : spacing (a / b) ≤ 2 ^ e := Nat.pow_le_pow_right (by decide) (by omega)
  calc
    roundUnits a b ≤ 2 ^ 53 * 2 ^ e := by
      rw [roundUnits_eq]
      exact Nat.mul_le_mul hnear hspacing
    _ = 2 ^ (e + 53) := by rw [Nat.pow_add']
    _ < 2 ^ (e + 54) := Nat.pow_lt_pow_right (by decide) (by omega)

/-- In a higher binade the lower end is beyond the power. -/
theorem le_roundUnits_of_lt_log2 (h : e + 53 < (a / b).log2) : 2 ^ (e + 54) ≤ roundUnits a b := by
  have hspacing : 2 ^ (e + 2) ≤ spacing (a / b) := Nat.pow_le_pow_right (by decide) (by omega)
  have hbinade : spacing (a / b) * 2 ^ 52 ≤ a / b := by
    rcases spacing_eq_one_or (a / b) with hone | hle
    · have htwo : 2 ^ 1 ≤ spacing (a / b) := Nat.pow_le_pow_right (by decide) (by omega)
      omega
    · exact hle
  have hnear : 2 ^ 52 ≤ nearestEven a (b * spacing (a / b)) := by
    calc
      2 ^ 52 ≤ a / b / spacing (a / b) := by
        rw [Nat.le_div_iff_mul_le (spacing_pos _), Nat.mul_comm]
        exact hbinade
      _ = a / (b * spacing (a / b)) := (div_spacing a b).symm
      _ ≤ nearestEven a (b * spacing (a / b)) := div_le_nearestEven _ _
  calc
    2 ^ (e + 54) = 2 ^ 52 * 2 ^ (e + 2) := Nat.pow_add' 2 (e + 2) 52
    _ ≤ nearestEven a (b * spacing (a / b)) * spacing (a / b) := Nat.mul_le_mul hnear hspacing
    _ = roundUnits a b := (roundUnits_eq a b).symm

/-- In the binade below the power a tie goes up to it, as the power is on the even side. -/
theorem le_roundUnits_iff_of_log2_eq (hb : 0 < b) (h : (a / b).log2 = e + 53) :
    2 ^ (e + 54) ≤ roundUnits a b ↔ b * ((2 ^ 54 - 1) * 2 ^ e) ≤ a := by
  have hhalf : 0 < 2 ^ e := Nat.two_pow_pos e
  have hspacing : spacing (a / b) = 2 * 2 ^ e := by
    rw [spacing, h, ← Nat.pow_succ']
    congr 1
  -- counted in spacings the power is `2 ^ 53`, an even number
  have hreach := le_nearestEven_iff (a := a) (b := b * (2 * 2 ^ e)) (k := 2 ^ 53)
    (Nat.mul_pos hb (by omega)) (by decide) (by decide)
  have hform : (2 * 2 ^ 53 - 1) * (b * (2 * 2 ^ e)) = 2 * (b * ((2 ^ 54 - 1) * 2 ^ e)) := by
    generalize 2 ^ e = h
    ring
  have hscale : 2 ^ 54 * 2 ^ e = 2 ^ 53 * (2 * 2 ^ e) := by
    generalize 2 ^ e = h
    ring
  have hcancel : 2 ^ 53 * (2 * 2 ^ e) ≤ nearestEven a (b * (2 * 2 ^ e)) * (2 * 2 ^ e) ↔
      2 ^ 53 ≤ nearestEven a (b * (2 * 2 ^ e)) :=
    Nat.mul_le_mul_right_iff (Nat.mul_pos (by decide) hhalf)
  have hhalve : 2 * (b * ((2 ^ 54 - 1) * 2 ^ e)) ≤ 2 * a ↔ b * ((2 ^ 54 - 1) * 2 ^ e) ≤ a :=
    Nat.mul_le_mul_left_iff (by decide)
  rw [hform] at hreach
  rw [roundUnits_eq, hspacing, Nat.pow_add', hscale]
  exact hcancel.trans (hreach.trans hhalve)

/-- A power of two is reached from the last odd number of halves before it on. -/
theorem two_pow_le_roundUnits_iff (hb : 0 < b) :
    2 ^ (e + 54) ≤ roundUnits a b ↔ b * ((2 ^ 54 - 1) * 2 ^ e) ≤ a := by
  rcases Nat.lt_trichotomy (a / b).log2 (e + 53) with hlog | hlog | hlog
  · -- neither side holds
    refine iff_of_false (Nat.not_le.2 (roundUnits_lt_of_log2_lt hlog)) (Nat.not_le.2 ?_)
    have hquotient : a / b < (2 ^ 54 - 1) * 2 ^ e := by
      have hlt : a / b < 2 ^ 53 * 2 ^ e := by
        rw [← Nat.pow_add']
        exact Nat.lt_log2_self.trans_le (Nat.pow_le_pow_right (by decide) hlog)
      omega
    rw [Nat.mul_comm b]
    exact (Nat.div_lt_iff_lt_mul hb).1 hquotient
  · exact le_roundUnits_iff_of_log2_eq hb hlog
  · -- both sides hold
    refine iff_of_true (le_roundUnits_of_lt_log2 hlog) ?_
    have hquotient : (2 ^ 54 - 1) * 2 ^ e ≤ a / b := by
      have hne : a / b ≠ 0 := by
        intro hzero
        rw [hzero] at hlog
        exact absurd hlog (by simp)
      have hle : 2 ^ 54 * 2 ^ e ≤ a / b := by
        rw [← Nat.pow_add']
        exact (Nat.pow_le_pow_right (by decide) hlog).trans (Nat.log2_self_le hne)
      omega
    exact (Nat.mul_le_mul_left b hquotient).trans (Nat.mul_div_le a b)

/-! ## The whole part -/

section WholePart

variable {s u t : Nat}

/-- The exact whole part is a multiple of the spacing, so rounding does not go below it. -/
theorem div_mul_le_nearestEven_mul (hm : 0 < m) (hs : 0 < s) (hparts : u = t * s) :
    n / m * u ≤ nearestEven (n * u) (m * s) * s := by
  have hfloor : n / m * t ≤ n * u / (m * s) := by
    rw [Nat.le_div_iff_mul_le (Nat.mul_pos hm hs)]
    calc
      n / m * t * (m * s) = n / m * m * (t * s) := by ring
      _ ≤ n * u := by
        rw [← hparts]
        exact Nat.mul_le_mul_right _ (Nat.div_mul_le_self n m)
  calc
    n / m * u = n / m * t * s := by rw [hparts, Nat.mul_assoc]
    _ ≤ nearestEven (n * u) (m * s) * s :=
      Nat.mul_le_mul_right s (hfloor.trans (div_le_nearestEven _ _))

/-- A quotient is rounded up to the next whole number only where the spacing `s` is at least twice
the `m`-th part of the unit `u`. -/
theorem two_mul_le_of_reached (hm : 0 < m)
    (hreached : (n / m + 1) * u ≤ nearestEven (n * u) (m * s) * s) : 2 * u ≤ m * s := by
  have hnext : n + 1 ≤ (n / m + 1) * m := by
    rw [Nat.mul_comm]
    exact Nat.lt_mul_div_succ n hm
  have habove : (n + 1) * u ≤ nearestEven (n * u) (m * s) * (m * s) := by
    calc
      (n + 1) * u ≤ (n / m + 1) * m * u := Nat.mul_le_mul_right _ hnext
      _ = (n / m + 1) * u * m := by ring
      _ ≤ nearestEven (n * u) (m * s) * s * m := Nat.mul_le_mul_right m hreached
      _ = nearestEven (n * u) (m * s) * (m * s) := by ring
  have hhalf := two_mul_nearestEven_le (n * u) (m * s)
  rw [Nat.succ_mul] at habove
  omega

/-- No quotient below the next whole number is rounded up to it as long as its numerator has at
most 53 bits: the number is further away than half of the spacing. -/
theorem nearestEven_mul_lt (hn : n < 2 ^ 53) (hm : 0 < m) (hu : 2 ^ 53 ≤ u)
    (hspacing : s = 1 ∨ s * 2 ^ 52 ≤ n * u / m) :
    nearestEven (n * u) (m * s) * s < (n / m + 1) * u := by
  by_contra hreached
  rw [Nat.not_lt] at hreached
  have hwide : 2 * u ≤ m * s := two_mul_le_of_reached hm hreached
  have hqle : n * u / m * m ≤ n * u := Nat.div_mul_le_self _ m
  have hbelow : n * u < 2 ^ 53 * u := Nat.mul_lt_mul_of_pos_right hn (by omega)
  rcases hspacing with hone | hle
  · -- such a quotient is too small to be rounded even to the first whole number
    have hsmall : n * u / m < 2 ^ 52 := by
      by_contra hlarge
      have hscaled : 2 ^ 52 * m ≤ n * u / m * m := Nat.mul_le_mul_right m (by omega)
      rw [hone] at hwide
      omega
    have hnear := nearestEven_le (n * u) (m * s)
    have hfirst : 1 * u ≤ (n / m + 1) * u := Nat.mul_le_mul_right u (Nat.le_add_left 1 _)
    rw [hone, Nat.mul_one] at hnear
    rw [hone, Nat.mul_one, Nat.mul_one] at hreached
    omega
  · -- a numerator of 53 bits is too small for a spacing as wide as that
    have hscaled : s * 2 ^ 52 * m ≤ n * u / m * m := Nat.mul_le_mul_right m hle
    have hform : s * 2 ^ 52 * m = 2 ^ 52 * (m * s) := by ring
    omega

end WholePart

/-- Below `2 ^ 53` the whole part of a rounded quotient is that of the exact one. -/
theorem roundUnits_div_two_pow (hn : n < 2 ^ 53) (hm : 0 < m) (hw : 53 ≤ w) :
    roundUnits (n * 2 ^ w) m / 2 ^ w = n / m := by
  obtain ⟨q, hq⟩ : ∃ q, n * 2 ^ w / m = q := ⟨_, rfl⟩
  have hbound : q < 2 ^ (53 + w) := by
    calc
      q ≤ n * 2 ^ w := by
        rw [← hq]
        exact Nat.div_le_self _ m
      _ < 2 ^ 53 * 2 ^ w := Nat.mul_lt_mul_of_pos_right hn (Nat.two_pow_pos w)
      _ = 2 ^ (53 + w) := (Nat.pow_add 2 53 w).symm
  have hlog : q.log2 - 52 ≤ w := by
    rcases Nat.eq_zero_or_pos q with rfl | hpos
    · simp
    · have hlt : q.log2 < 53 + w := (Nat.log2_lt (by omega)).2 hbound
      omega
  -- so the unit is a multiple of the spacing, and every whole number can be rounded to
  have hparts : 2 ^ w = 2 ^ (w - (q.log2 - 52)) * spacing q := by
    rw [spacing, ← Nat.pow_add, Nat.sub_add_cancel hlog]
  rw [roundUnits_eq, hq]
  refine Nat.div_eq_of_lt_le (div_mul_le_nearestEven_mul hm (spacing_pos q) hparts) ?_
  exact nearestEven_mul_lt hn hm (Nat.pow_le_pow_right (by decide) hw)
    (hq ▸ spacing_eq_one_or q)

/-! ## Quotients of integers -/

theorem unitsPerOne_eq : unitsPerOne = 2 ^ unitPlaces := rfl

/-- The exponent of half of the last spacing below the first power of two that is too large. -/
def halfSpacingExponent : Nat := limitExponent - 54

theorem limit_eq : limit = 2 ^ (halfSpacingExponent + unitPlaces + 54) := by
  have hexponent : limitExponent + unitPlaces = halfSpacingExponent + unitPlaces + 54 := by
    have hlarge : 54 ≤ limitExponent := by
      rw [limitExponent]
      decide
    rw [halfSpacingExponent]
    omega
  rw [limit, Nat.pow_eq, hexponent]

theorem unitsPerOne_pos : 0 < unitsPerOne := by
  rw [unitsPerOne_eq]
  exact Nat.two_pow_pos unitPlaces

/-- The least natural number without a rounded value: half of the last spacing below the first
power of two that is too large. -/
def overflow : Nat := (2 ^ 54 - 1) * 2 ^ halfSpacingExponent

theorem mul_overflow (m : Nat) :
    m * overflow * unitsPerOne = m * ((2 ^ 54 - 1) * 2 ^ (halfSpacingExponent + unitPlaces)) := by
  rw [overflow, unitsPerOne_eq, Nat.pow_add]
  ring

/-- Which quotients are rounded to infinity. -/
theorem limit_le_roundUnits_iff (hm : 0 < m) :
    limit ≤ roundUnits (n * unitsPerOne) m ↔ m * overflow ≤ n := by
  have hreach : 2 ^ (halfSpacingExponent + unitPlaces + 54) ≤ roundUnits (n * unitsPerOne) m ↔
      m * ((2 ^ 54 - 1) * 2 ^ (halfSpacingExponent + unitPlaces)) ≤ n * unitsPerOne :=
    two_pow_le_roundUnits_iff hm
  have hcancel : m * overflow * unitsPerOne ≤ n * unitsPerOne ↔ m * overflow ≤ n :=
    Nat.mul_le_mul_right_iff unitsPerOne_pos
  rw [limit_eq, ← hcancel, mul_overflow]
  exact hreach

theorem truncate?_ofQuotient (negative : Bool) (n m : Nat) :
    (ofQuotient negative n m).truncate? =
      if limit ≤ roundUnits (n * unitsPerOne) m then none
      else some (signedUnits negative (roundUnits (n * unitsPerOne) m / unitsPerOne)) := by
  unfold ofQuotient
  generalize roundUnits (n * unitsPerOne) m = units
  by_cases hlimit : limit ≤ units
  · rw [if_pos hlimit, if_pos hlimit]
    rfl
  · rw [if_neg hlimit, if_neg hlimit]
    rfl

/-- **Overflow.** Exactly the quotients from `overflow` on have no whole part. -/
theorem truncate?_ofRatio_eq_none_iff {x y : Int} (hy : y ≠ 0) :
    (ofRatio x y).truncate? = none ↔ y.natAbs * overflow ≤ x.natAbs := by
  have hreach := limit_le_roundUnits_iff (n := x.natAbs) (Int.natAbs_pos.2 hy)
  rw [ofRatio, truncate?_ofQuotient, ← hreach]
  by_cases hlimit : limit ≤ roundUnits (x.natAbs * unitsPerOne) y.natAbs
  · rw [if_pos hlimit]
    exact iff_of_true rfl hlimit
  · rw [if_neg hlimit]
    exact iff_of_false (Option.some_ne_none _) hlimit

theorem two_pow_53_lt_overflow : 2 ^ 53 < overflow := by
  have hpos : 0 < 2 ^ halfSpacingExponent := Nat.two_pow_pos halfSpacingExponent
  rw [overflow]
  omega

/-- **Exactness.** Below `2 ^ 53` the whole part of a rounded quotient is the exact one. -/
theorem truncate?_ofRatio {x y : Nat} (hx : x < 2 ^ 53) (hy : 0 < y) :
    (ofRatio x y).truncate? = some ((x / y : Nat) : Int) := by
  have hsign : (decide ((x : Int) < 0) != decide ((y : Int) < 0)) = false := by
    simp only [Int.not_ofNat_neg, decide_false, bne_self_eq_false]
  have hbelow : ¬ limit ≤ roundUnits (x * unitsPerOne) y := by
    rw [limit_le_roundUnits_iff hy]
    -- the limit stays behind its name, as a number of 1024 bits
    have hle : 1 * overflow ≤ y * overflow := Nat.mul_le_mul_right overflow hy
    have hlarge := two_pow_53_lt_overflow
    omega
  have hwhole : roundUnits (x * unitsPerOne) y / unitsPerOne = x / y := by
    have hplaces : 53 ≤ unitPlaces := by
      rw [unitPlaces]
      decide
    rw [unitsPerOne_eq]
    exact roundUnits_div_two_pow hx hy hplaces
  rw [ofRatio, truncate?_ofQuotient, hsign, Int.natAbs_natCast, Int.natAbs_natCast,
    if_neg hbelow, hwhole, signedUnits]
  rfl

end Binary64
end SearchClient
