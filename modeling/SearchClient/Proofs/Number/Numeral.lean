import Mathlib.Algebra.Order.Ring.Nat
import SearchClient.Charset.Basic
import SearchClient.Proofs.Number.Spelling

/-!
# Numerals are read back

An integer that is short enough to be written is read back from what is written for it.
`Numeral.mem_write` says which characters that can be, so that a numeral can stand in a line
between marks.
-/

namespace SearchClient
namespace Numeral

/-! ## Decimal digits -/

theorem value?_of_isDigit {c : Char} (h : c.isDigit = true) :
    Digit.value? c = some (c.toNat - 48) := by
  have hlow : 48 ≤ c.toNat := (Char.isDigit_iff_toNat.1 h).1
  have hhigh : c.toNat ≤ 57 := (Char.isDigit_iff_toNat.1 h).2
  have hfirst : (decide (48 ≤ c.toNat) && decide (c.toNat < 48 + 10)) = true := by
    simp only [Bool.and_eq_true, decide_eq_true_eq]
    omega
  rw [Digit.value?, Digit.zeros, List.find?_cons, hfirst]
  rfl

theorem isBlank_of_isDigit {c : Char} (h : c.isDigit = true) : Text.isBlank c = false :=
  Digit.isBlank_of_value? (value?_of_isDigit h)

theorem digitRun_of_isDigit {s : Text} (hne : s ≠ []) (h : ∀ c ∈ s, c.isDigit = true) :
    DigitRun s (s.map fun c => c.toNat - 48) := by
  induction s with
  | nil => exact absurd rfl hne
  | cons c s ih =>
    have hc := value?_of_isDigit (h c List.mem_cons_self)
    by_cases hs : s = []
    · subst hs
      exact .last hc
    · exact .next hc (ih hs fun d hd => h d (List.mem_cons_of_mem c hd))

/-! ## Writing and reading -/

theorem isDigit_of_mem_writeNat {n : Nat} {c : Char} (h : c ∈ writeNat n) : c.isDigit = true :=
  Nat.isDigit_of_mem_toDigits (by decide) (by decide) h

theorem write_ne_nil (n : Int) : write n ≠ [] := by
  rw [write]
  split
  · exact nofun
  · exact Nat.toDigits_ne_nil

/-- A numeral consists of digits and a minus. -/
theorem mem_write {n : Int} {c : Char} (h : c ∈ write n) : c = '-' ∨ c.isDigit = true := by
  rw [write] at h
  split at h
  · rcases List.mem_cons.1 h with rfl | hmem
    · exact .inl rfl
    · exact .inr (isDigit_of_mem_writeNat hmem)
  · exact .inr (isDigit_of_mem_writeNat h)

theorem not_mem_write {n : Int} {c : Char} (hminus : c ≠ '-') (hdigit : c.isDigit = false) :
    c ∉ write n := by
  intro h
  rcases mem_write h with heq | hmem
  · exact hminus heq
  · rw [hdigit] at hmem
    cases hmem

theorem toNat_lt_of_mem_write {n : Int} {c : Char} (h : c ∈ write n) : c.toNat < 0x80 := by
  rcases mem_write h with rfl | hdigit
  · decide
  · have hhigh : c.toNat ≤ 57 := (Char.isDigit_iff_toNat.1 hdigit).2
    omega

theorem isWritable_iff (n : Int) : isWritable n = true ↔ n.natAbs < 10 ^ maxDigits := by
  rw [isWritable, decide_eq_true_eq]
  exact Nat.length_toDigits_le_iff (by decide) (by decide)

theorem isWritable_eq_false {n : Nat} (h : 10 ^ maxDigits ≤ n) : isWritable n = false := by
  rw [← Bool.not_eq_true, isWritable_iff, Int.natAbs_natCast, Nat.not_lt]
  exact h

theorem ofDigits_writeNat (n : Nat) : ofDigits ((writeNat n).map fun c => c.toNat - 48) = n := by
  rw [ofDigits, List.foldl_map]
  exact Nat.ofDigitChars_ten_toDigits

theorem exists_sign_write (n : Int) :
    ∃ sign, write n = sign ++ writeNat n.natAbs ∧ Signed n.natAbs sign n := by
  by_cases hneg : n < 0
  · obtain ⟨m, rfl⟩ : ∃ m : Nat, n = -(m : Int) := ⟨n.natAbs, by omega⟩
    refine ⟨['-'], if_pos hneg, ?_⟩
    rw [Int.natAbs_neg, Int.natAbs_natCast]
    exact .minus
  · obtain ⟨m, rfl⟩ : ∃ m : Nat, n = m := ⟨n.natAbs, by omega⟩
    exact ⟨[], if_neg hneg, .bare⟩

/-- What is written for an integer spells it. -/
theorem spells_write {n : Int} (h : isWritable n = true) : Spells (write n) n := by
  obtain ⟨sign, hwrite, hsigned⟩ := exists_sign_write n
  have hdigits : DigitRun (writeNat n.natAbs) ((writeNat n.natAbs).map fun c => c.toNat - 48) :=
    digitRun_of_isDigit Nat.toDigits_ne_nil fun _ hc => isDigit_of_mem_writeNat hc
  have hshort : ((writeNat n.natAbs).map fun c => c.toNat - 48).length ≤ maxDigits := by
    simpa [isWritable] using h
  have hspelled : Spells ([] ++ (sign ++ writeNat n.natAbs) ++ []) n :=
    .intro nofun (by rwa [ofDigits_writeNat]) hdigits hshort nofun
  rwa [List.nil_append, List.append_nil, ← hwrite] at hspelled

/-- **A numeral that can be written is read back.** -/
theorem read?_write {n : Int} (h : isWritable n = true) : read? (write n) = some n :=
  read?_of_spells (spells_write h)

end Numeral
end SearchClient
