import SearchClient.Proofs.Number.Rounding

/-!
# Correct rounding

What a rounded quotient is, said without the way in which it is computed. A magnitude of the format
is a whole number of units with a significand of 53 bits (`Binary64.HasSignificand`). The correctly
rounded value of `a / b` is such a magnitude from which no other one is nearer to the quotient, and
which has an even significand if another one is as near (`Binary64.Nearest`).

1. `Binary64.nearest_roundUnits` says that `Binary64.roundUnits` is correctly rounded: a magnitude
   between the multiples of the spacing lies below the quotient's binade, so the least number of the
   binade is nearer than it;
2. `Binary64.exists_nearest_ofRatio` says this of a quotient of integers within the range.
-/

namespace SearchClient
namespace Binary64

variable {a b k u v : Nat}

/-! ## The magnitudes of the format -/

/-- The significand of a magnitude of `v` units: it has 53 bits, or fewer at the least exponent. -/
structure HasSignificand (v significand exponent : Nat) : Prop where
  value : v = significand * 2 ^ exponent
  bits : significand < 2 ^ 53
  normal : 2 ^ 52 ≤ significand ∨ exponent = 0

/-- How many `b`-th parts of a unit lie between `v` units and the quotient `a / b`. -/
def distance (a b v : Nat) : Nat := ((a : Int) - (v * b : Nat)).natAbs

/-- `v` units are the correctly rounded quotient `a / b`: no magnitude of the format is nearer, and if
another one is as near, the significand is even. -/
structure Nearest (a b v : Nat) : Prop where
  magnitude : ∃ significand exponent, HasSignificand v significand exponent
  closest : ∀ u significand exponent, HasSignificand u significand exponent →
    distance a b v ≤ distance a b u
  even_of_tie : ∀ u significand exponent, HasSignificand u significand exponent → u ≠ v →
    distance a b u = distance a b v →
      ∃ significand exponent, HasSignificand v significand exponent ∧ significand % 2 = 0

/-! ## The nearest multiple -/

theorem distance_mul (a b k s : Nat) : distance a b (k * s) = distance a (b * s) k := by
  have hform : k * s * b = k * (b * s) := by ring
  rw [distance, distance, hform]

/-- The multiple just below the quotient is at the remainder's distance, and each step further down
adds a divisor. -/
theorem distance_of_le (hk : k ≤ a / b) : distance a b k = (a / b - k) * b + a % b := by
  obtain ⟨j, hj⟩ := Nat.exists_eq_add_of_le hk
  have hdiv : b * (a / b) + a % b = a := Nat.div_add_mod a b
  have hform : b * (a / b) = k * b + j * b := by
    rw [hj]
    ring
  have hsub : a / b - k = j := by omega
  rw [hsub, distance]
  omega

theorem distance_of_lt (hb : 0 < b) (hk : a / b < k) :
    distance a b k = (k - (a / b + 1)) * b + (b - a % b) := by
  obtain ⟨j, hj⟩ := Nat.exists_eq_add_of_le (Nat.succ_le_of_lt hk)
  have hdiv : b * (a / b) + a % b = a := Nat.div_add_mod a b
  have hmod : a % b < b := Nat.mod_lt a hb
  have hform : k * b = b * (a / b) + b + j * b := by
    rw [hj, Nat.succ_eq_add_one]
    ring
  have hsub : k - (a / b + 1) = j := by omega
  rw [hsub, distance]
  omega

theorem distance_nearestEven (hb : 0 < b) :
    distance a b (nearestEven a b) = min (a % b) (b - a % b) := by
  rcases nearestEven_cases a b with ⟨hnear, hhalf, -⟩ | ⟨hnear, hhalf, -⟩
  · rw [hnear, distance_of_le (Nat.le_refl _), Nat.sub_self, Nat.zero_mul]
    omega
  · rw [hnear, distance_of_lt hb (Nat.lt_succ_self _), Nat.sub_self, Nat.zero_mul]
    omega

theorem distance_nearestEven_le (hb : 0 < b) (k : Nat) :
    distance a b (nearestEven a b) ≤ distance a b k := by
  rw [distance_nearestEven hb]
  rcases Nat.lt_or_ge (a / b) k with hlt | hle
  · rw [distance_of_lt hb hlt]
    omega
  · rw [distance_of_le hle]
    omega

/-- A multiple that is as near as the nearest one is on the other side of the quotient, and both are
half a divisor away. -/
theorem even_nearestEven_of_tie (hb : 0 < b) (hk : k ≠ nearestEven a b)
    (htie : distance a b k = distance a b (nearestEven a b)) : nearestEven a b % 2 = 0 := by
  have hmod : a % b < b := Nat.mod_lt a hb
  rw [distance_nearestEven hb] at htie
  -- on the nearest multiple's own side of the quotient, `k` is a whole divisor further away
  rcases Nat.lt_or_ge (a / b) k with hlt | hle
  · rw [distance_of_lt hb hlt] at htie
    rcases nearestEven_cases a b with ⟨hnear, hhalf, heven⟩ | ⟨hnear, hhalf, hodd⟩
    · omega
    · have hstep : b ≤ (k - (a / b + 1)) * b := Nat.le_mul_of_pos_left b (by omega)
      omega
  · rw [distance_of_le hle] at htie
    rcases nearestEven_cases a b with ⟨hnear, hhalf, heven⟩ | ⟨hnear, hhalf, hodd⟩
    · have hstep : b ≤ (a / b - k) * b := Nat.le_mul_of_pos_left b (by omega)
      omega
    · omega

/-! ## Magnitudes around a quotient -/

/-- A rounded quotient has the nearest multiple of the spacing for its significand, unless that has
reached the next binade. -/
theorem exists_hasSignificand_roundUnits (a b : Nat) :
    ∃ significand exponent, HasSignificand (roundUnits a b) significand exponent ∧
      (nearestEven a (b * spacing (a / b)) % 2 = 0 → significand % 2 = 0) := by
  obtain ⟨k, hk⟩ : ∃ k, nearestEven a (b * spacing (a / b)) = k := ⟨_, rfl⟩
  have hlow : a / b / spacing (a / b) ≤ k := by
    rw [← hk, ← div_spacing]
    exact div_le_nearestEven _ _
  have hhigh : k ≤ a / b / spacing (a / b) + 1 := by
    rw [← hk, ← div_spacing]
    exact nearestEven_le _ _
  have hbits : a / b / spacing (a / b) < 2 ^ 53 := Nat.div_lt_of_lt_mul (lt_spacing_mul (a / b))
  rw [roundUnits_eq, hk]
  rcases Nat.lt_or_ge k (2 ^ 53) with hlt | hge
  · refine ⟨k, (a / b).log2 - 52, ⟨rfl, hlt, ?_⟩, id⟩
    rcases spacing_eq_one_or (a / b) with hone | hbinade
    · right
      exact (Nat.pow_eq_one.1 hone).resolve_left (by decide)
    · left
      refine le_trans ?_ hlow
      rw [Nat.le_div_iff_mul_le (spacing_pos _), Nat.mul_comm]
      exact hbinade
  · -- the end of the binade is the first number of the next one
    have htop : k = 2 ^ 53 := by omega
    refine ⟨2 ^ 52, (a / b).log2 - 52 + 1, ⟨?_, by decide, .inl le_rfl⟩, fun _ => by decide⟩
    rw [htop, spacing, ← Nat.pow_add, ← Nat.pow_add]
    congr 1
    omega

/-- A magnitude is a multiple of the spacing at the quotient, or it is below the quotient's binade. -/
theorem HasSignificand.dvd_or_lt {significand exponent : Nat}
    (h : HasSignificand u significand exponent) (q : Nat) :
    spacing q ∣ u ∨ u < 2 ^ 52 * spacing q ∧ 2 ^ 52 * spacing q ≤ q := by
  rcases Nat.lt_or_ge exponent (q.log2 - 52) with hlt | hge
  · right
    constructor
    · calc
        u = significand * 2 ^ exponent := h.value
        _ < 2 ^ 53 * 2 ^ exponent := Nat.mul_lt_mul_of_pos_right h.bits (Nat.two_pow_pos _)
        _ = 2 ^ 52 * 2 ^ (exponent + 1) := by ring
        _ ≤ 2 ^ 52 * spacing q := Nat.mul_le_mul_left _ (Nat.pow_le_pow_right (by decide) hlt)
    · rcases spacing_eq_one_or q with hone | hbinade
      · have hzero : q.log2 - 52 = 0 := (Nat.pow_eq_one.1 hone).resolve_left (by decide)
        omega
      · rw [Nat.mul_comm]
        exact hbinade
  · left
    rw [h.value]
    exact (Nat.pow_dvd_pow 2 hge).mul_left significand

/-- Of two magnitudes not above the quotient the greater one is nearer. -/
theorem distance_lt_of_lt (hb : 0 < b) (huv : u < v) (hv : v ≤ a / b) :
    distance a b v < distance a b u := by
  have hproduct : u * b < v * b := Nat.mul_lt_mul_of_pos_right huv hb
  have hquotient : v * b ≤ a := (Nat.mul_le_mul_right b hv).trans (Nat.div_mul_le_self a b)
  rw [distance, distance]
  omega

/-- A magnitude that is no multiple of the spacing is further away than the rounded quotient. -/
theorem distance_roundUnits_lt (hb : 0 < b) {significand exponent : Nat}
    (h : HasSignificand u significand exponent) (hdvd : ¬ spacing (a / b) ∣ u) :
    distance a b (roundUnits a b) < distance a b u := by
  obtain ⟨hbelow, hbinade⟩ := (h.dvd_or_lt (a / b)).resolve_left hdvd
  calc
    distance a b (roundUnits a b) ≤ distance a b (2 ^ 52 * spacing (a / b)) := by
      rw [roundUnits_eq, distance_mul, distance_mul]
      exact distance_nearestEven_le (Nat.mul_pos hb (spacing_pos _)) _
    _ < distance a b u := distance_lt_of_lt hb hbelow hbinade

/-- **A rounded quotient is correctly rounded.** -/
theorem nearest_roundUnits (hb : 0 < b) : Nearest a b (roundUnits a b) := by
  have hdivisor : 0 < b * spacing (a / b) := Nat.mul_pos hb (spacing_pos _)
  obtain ⟨significand, exponent, hround, heven⟩ := exists_hasSignificand_roundUnits a b
  refine ⟨⟨significand, exponent, hround⟩, ?_, ?_⟩
  -- among the multiples of the spacing the least distance is known; the other magnitudes are further
  · intro u _ _ hu
    by_cases hdvd : spacing (a / b) ∣ u
    · obtain ⟨k, rfl⟩ := exists_eq_mul_left_of_dvd hdvd
      rw [roundUnits_eq, distance_mul, distance_mul]
      exact distance_nearestEven_le hdivisor k
    · exact (distance_roundUnits_lt hb hu hdvd).le
  · intro u _ _ hu hne htie
    by_cases hdvd : spacing (a / b) ∣ u
    · obtain ⟨k, rfl⟩ := exists_eq_mul_left_of_dvd hdvd
      rw [roundUnits_eq, distance_mul, distance_mul] at htie
      rw [roundUnits_eq] at hne
      have hk : k ≠ nearestEven a (b * spacing (a / b)) := fun heq => hne (heq ▸ rfl)
      exact ⟨significand, exponent, hround, heven (even_nearestEven_of_tie hdivisor hk htie)⟩
    · exact absurd htie (distance_roundUnits_lt hb hu hdvd).ne'

/-! ## Quotients of integers -/

/-- **Correct rounding.** A quotient of naturals within the range is a finite number, the correctly
rounded one. -/
theorem exists_nearest_ofRatio {x y : Nat} (hx : x < y * overflow) :
    ∃ units, ofRatio x y = .finite false units ∧ Nearest (x * unitsPerOne) y units := by
  have hy : 0 < y := Nat.pos_of_mul_pos_right (Nat.zero_lt_of_lt hx)
  have hsign : (decide ((x : Int) < 0) != decide ((y : Int) < 0)) = false := by
    simp only [Int.not_ofNat_neg, decide_false, bne_self_eq_false]
  have hbelow : ¬ limit ≤ roundUnits (x * unitsPerOne) y := by
    rw [limit_le_roundUnits_iff hy]
    exact Nat.not_le.2 hx
  refine ⟨roundUnits (x * unitsPerOne) y, ?_, nearest_roundUnits hy⟩
  rw [ofRatio, hsign, Int.natAbs_natCast, Int.natAbs_natCast, ofQuotient]
  exact if_neg hbelow

end Binary64
end SearchClient
