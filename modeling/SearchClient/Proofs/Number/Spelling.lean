import SearchClient.Number.Numeral
import SearchClient.Proofs.Text.Pieces

/-!
# What is read as an integer

An integer is spelled by digits of any script, each behind the one before it or behind one
underscore, with a sign or none before them and padding around the whole. `Numeral.Spells` says so
without a reader, and `Numeral.read?_eq_some_iff` says that `Numeral.read?` takes these texts and no
others.
-/

namespace SearchClient

/-- A digit of any script is not white space. -/
theorem Digit.isBlank_of_value? {c : Char} {d : Nat} (h : value? c = some d) :
    Text.isBlank c = false := by
  -- no set of ten digits reaches into the white space
  have hzeros : ∀ z ∈ zeros, (0x20 < z ∧ z + 9 < 0x85) ∨ (0xA0 < z ∧ z + 9 < 0x1680) ∨
      (0x1680 < z ∧ z + 9 < 0x2000) ∨ 0x3000 < z := by decide
  simp only [value?, Option.map_eq_some_iff] at h
  obtain ⟨z, hfind, -⟩ := h
  have hz := hzeros z (List.mem_of_find?_eq_some hfind)
  have hrange := List.find?_some hfind
  simp only [Bool.and_eq_true, decide_eq_true_eq] at hrange
  simp only [Text.isBlank, Bool.or_eq_false_iff, Bool.and_eq_false_iff, decide_eq_false_iff_not,
    beq_eq_false_iff_ne]
  omega

namespace Numeral

/-! ## Spelling -/

/-- Digits with these values, each behind the one before it or behind one underscore. -/
inductive DigitRun : Text → List Nat → Prop where
  | last {c : Char} {d : Nat} (digit : Digit.value? c = some d) : DigitRun [c] [d]
  | next {c : Char} {d : Nat} {s : Text} {ds : List Nat} (digit : Digit.value? c = some d)
      (behind : DigitRun s ds) : DigitRun (c :: s) (d :: ds)
  | spaced {c : Char} {d : Nat} {s : Text} {ds : List Nat} (digit : Digit.value? c = some d)
      (behind : DigitRun s ds) : DigitRun (c :: '_' :: s) (d :: ds)

/-- The integer that a number of digits stands for behind a sign. -/
inductive Signed (value : Nat) : Text → Int → Prop where
  | bare : Signed value [] value
  | plus : Signed value ['+'] value
  | minus : Signed value ['-'] (-value)

/-- The text spells the integer. -/
inductive Spells : Text → Int → Prop where
  | intro {left sign run right : Text} {ds : List Nat} {n : Int}
      (left_padding : ∀ c ∈ left, isPadding c = true) (signed : Signed (ofDigits ds) sign n)
      (digits : DigitRun run ds) (short : ds.length ≤ maxDigits)
      (right_padding : ∀ c ∈ right, isPadding c = true) :
      Spells (left ++ (sign ++ run) ++ right) n

variable {c : Char} {d : Nat} {ds : List Nat} {s t sign run : Text} {n : Int}

theorem isPadding_of_value? (h : Digit.value? c = some d) : isPadding c = false := by
  rw [isPadding, Digit.isBlank_of_value? h, Bool.false_and]

/-! ## Runs of digits -/

namespace DigitRun

theorem ne_nil (h : DigitRun s ds) : s ≠ [] := by
  cases h <;> nofun

theorem digits_ne_nil (h : DigitRun s ds) : ds ≠ [] := by
  cases h <;> nofun

theorem head (h : DigitRun s ds) (hc : s.head? = some c) : ∃ d, Digit.value? c = some d := by
  cases h with
  | last digit => cases hc; exact ⟨_, digit⟩
  | next digit => cases hc; exact ⟨_, digit⟩
  | spaced digit => cases hc; exact ⟨_, digit⟩

theorem last_value (h : DigitRun s ds) (hc : s.getLast? = some c) :
    ∃ d, Digit.value? c = some d := by
  induction h with
  | last digit => cases hc; exact ⟨_, digit⟩
  | next _ behind ih =>
    rw [List.getLast?_cons_of_ne_nil behind.ne_nil] at hc
    exact ih hc
  | spaced _ behind ih =>
    rw [List.getLast?_cons_of_ne_nil (List.cons_ne_nil _ _),
      List.getLast?_cons_of_ne_nil behind.ne_nil] at hc
    exact ih hc

theorem ne_cons (h : DigitRun s ds) (hc : Digit.value? c = none) (t : Text) : s ≠ c :: t := by
  rintro rfl
  obtain ⟨d, hd⟩ := h.head rfl
  rw [hc] at hd
  cases hd

theorem takeDigits_eq (h : DigitRun s ds) : takeDigits s = (ds, []) := by
  induction h with
  | last digit =>
    rw [takeDigits]
    · rw [digit]
      rfl
    · nofun
  | next digit behind ih =>
    rw [takeDigits]
    · rw [digit, ih]
    · intro t heq
      exact behind.ne_cons (by decide) t heq
  | spaced digit behind ih =>
    rw [takeDigits, digit, ih]
    have hne := behind.digits_ne_nil
    split <;> simp_all

end DigitRun

/-- Where no digit is taken, nothing is. -/
theorem rest_of_takeDigits_nil (h : takeDigits s = ([], t)) : t = s := by
  fun_induction takeDigits s with
  | case1 => cases h; rfl
  | case2 => cases h; rfl
  | case3 => cases h
  | case4 => cases h
  | case5 => cases h; rfl
  | case6 => cases h

theorem digitRun_of_takeDigits (h : takeDigits s = (ds, [])) (hne : ds ≠ []) : DigitRun s ds := by
  fun_induction takeDigits s generalizing ds with
  | case1 => cases h; exact absurd rfl hne
  | case2 => cases h
  | case3 => cases h
  | case4 c s d digit ds' rest hds' htake ih =>
    cases h
    exact .spaced digit (ih htake hds')
  | case5 => cases h
  | case6 c s _ d digit ds' rest htake ih =>
    cases h
    -- the run ends here if no digit is behind, and then nothing else is either
    by_cases hds' : ds' = []
    · subst hds'
      rw [← rest_of_takeDigits_nil htake]
      exact .last digit
    · exact .next digit (ih htake hds')

/-! ## Signs -/

theorem takeSign_of_digitRun (hsign : Signed (ofDigits ds) sign n) (hrun : DigitRun run ds) :
    takeSign (sign ++ run) = (decide (sign = ['-']), run) := by
  cases hsign with
  | plus => rfl
  | minus => rfl
  | bare =>
    rw [List.nil_append, takeSign]
    · rfl
    · exact fun t heq => hrun.ne_cons (by decide) t heq
    · exact fun t heq => hrun.ne_cons (by decide) t heq

theorem exists_sign (s : Text) (value : Nat) : ∃ sign, s = sign ++ (takeSign s).2 ∧
    Signed value sign (if (takeSign s).1 then -(value : Int) else value) := by
  fun_cases takeSign s with
  | case1 s => exact ⟨['-'], rfl, .minus⟩
  | case2 s => exact ⟨['+'], rfl, .plus⟩
  | case3 s => exact ⟨[], rfl, .bare⟩

/-! ## Reading -/

theorem isPadding_of_head? (hsign : Signed (ofDigits ds) sign n) (hrun : DigitRun run ds)
    (hc : (sign ++ run).head? = some c) : isPadding c = false := by
  cases hsign with
  | bare =>
    obtain ⟨d, hd⟩ := hrun.head hc
    exact isPadding_of_value? hd
  | plus => cases hc; decide
  | minus => cases hc; decide

theorem isPadding_of_getLast? (hrun : DigitRun run ds) (hc : (sign ++ run).getLast? = some c) :
    isPadding c = false := by
  have hlast : run.getLast? = some c := by
    have hsome := List.getLast?_eq_some_getLast hrun.ne_nil
    rwa [List.getLast?_append, hsome, Option.some_or, ← hsome] at hc
  obtain ⟨d, hd⟩ := hrun.last_value hlast
  exact isPadding_of_value? hd

theorem read?_of_spells (h : Spells s n) : read? s = some n := by
  cases h with
  | @intro left sign run right ds n hleft hsign hrun hshort hright =>
    -- neither a sign nor a digit is padding, so trimming stops at both ends of the numeral
    have htrim : trimPadding (left ++ (sign ++ run) ++ right) = sign ++ run :=
      Text.stripBy_append hleft hright (List.append_ne_nil_of_right_ne_nil sign hrun.ne_nil)
        (fun _ => isPadding_of_head? hsign hrun) fun _ => isPadding_of_getLast? hrun
    rw [read?, htrim, takeSign_of_digitRun hsign hrun]
    simp only [hrun.takeDigits_eq]
    cases ds with
    | nil => exact absurd rfl hrun.digits_ne_nil
    | cons d ds =>
      simp only [if_pos hshort]
      cases hsign <;> rfl

theorem spells_of_read? (h : read? s = some n) : Spells s n := by
  obtain ⟨left, right, hleft, hright, hs⟩ := Text.exists_stripBy isPadding s
  rcases hsign : takeSign (trimPadding s) with ⟨negative, t⟩
  rw [read?, hsign] at h
  simp only at h
  split at h
  · cases h
  · rename_i ds hne htake
    split at h
    · rename_i hshort
      obtain ⟨sign, htext, hsigned⟩ := exists_sign (trimPadding s) (ofDigits ds)
      rw [hsign] at htext hsigned
      rw [hs, ← trimPadding, htext]
      cases h
      exact .intro hleft hsigned (digitRun_of_takeDigits htake hne) hshort hright
    · cases h
  · cases h

/-- **A text is read as an integer exactly if it spells it.** -/
theorem read?_eq_some_iff : read? s = some n ↔ Spells s n := ⟨spells_of_read?, read?_of_spells⟩

end Numeral
end SearchClient
