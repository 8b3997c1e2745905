import Mathlib.Data.List.Infix
import SearchClient.Text.Basic

/-!
# Where a mark does not begin

A search for a mark goes through a text from its start. It goes on behind a stretch in which no
occurrence of the mark begins, also none that ends behind the stretch (`Text.cut?_append`). A mark
whose first character comes only once in it cannot begin within a stretch and end behind it, if that
character comes next (`Text.passes_of_not_mem_tail`).
-/

namespace SearchClient

namespace Text

variable {mark s s' t : Text} {c : Char}

/-- No occurrence of `mark` in `s ++ t` begins within `s`. -/
def Passes (mark s t : Text) : Prop := ∀ n < s.length, ¬ mark <+: (s ++ t).drop n

theorem Passes.append (h : Passes mark s (s' ++ t)) (h' : Passes mark s' t) :
    Passes mark (s ++ s') t := by
  intro n hn
  rw [List.append_assoc]
  by_cases hs : n < s.length
  · exact h n hs
  · rw [List.drop_append, List.drop_eq_nil_of_le (Nat.not_lt.1 hs), List.nil_append]
    rw [List.length_append] at hn
    exact h' (n - s.length) (by omega)

theorem after?_eq_none (h : ¬ mark <+: s) : after? mark s = none := by
  cases hafter : after? mark s with
  | none => rfl
  | some rest => exact absurd ⟨rest, (eq_append_of_after? hafter).symm⟩ h

/-- **A search goes on behind a stretch in which no occurrence begins.** -/
theorem cut?_append (h : Passes mark s t) :
    cut? mark (s ++ t) = (cut? mark t).map fun (before, after) => (s ++ before, after) := by
  induction s with
  | nil =>
    cases hcut : cut? mark t <;> rw [List.nil_append, hcut] <;> rfl
  | cons c s ih =>
    have hhere : ¬ mark <+: c :: (s ++ t) := h 0 (Nat.zero_lt_succ _)
    have hlater : Passes mark s t := fun n hn => h (n + 1) (Nat.succ_lt_succ hn)
    rw [List.cons_append, cut?, after?_eq_none hhere, ih hlater]
    cases hcut : cut? mark t <;> rfl

theorem cut?_self (hmark : mark ≠ []) (rest : Text) :
    cut? mark (mark ++ rest) = some ([], rest) := by
  cases mark with
  | nil => exact absurd rfl hmark
  | cons c mark =>
    have hafter : after? (c :: mark) (c :: (mark ++ rest)) = some rest :=
      after?_append (c :: mark) rest
    rw [List.cons_append, cut?, hafter]

theorem passes_of_not_mem (h : c ∉ s) : Passes (c :: mark) s t := by
  intro n hn hbegin
  obtain ⟨rest, hrest⟩ := hbegin
  rw [List.drop_append_of_le_length hn.le, List.drop_eq_getElem_cons hn] at hrest
  exact h ((List.cons.inj hrest).1 ▸ List.getElem_mem hn)

/-- **A mark that does not stand in a text does not begin in it either**, if its first character comes
only once in it and is what follows the text. -/
theorem passes_of_not_mem_tail (hmark : c ∉ mark) (hs : ¬ c :: mark <:+: s)
    (ht : ∀ d, t.head? = some d → d = c) : Passes (c :: mark) s t := by
  intro n hn hbegin
  rw [List.drop_append_of_le_length hn.le] at hbegin
  have hwithin : ¬ c :: mark <+: s.drop n := by
    intro hstands
    exact hs (hstands.isInfix.trans (List.drop_suffix n s).isInfix)
  rcases List.prefix_or_prefix_of_prefix hbegin (List.prefix_append _ _) with hstands | hover
  · exact hwithin hstands
  · -- the mark begins with what is left of the text, and goes on with what follows it
    obtain ⟨more, hmore⟩ := hover
    cases more with
    | nil =>
      rw [List.append_nil] at hmore
      exact hwithin (hmore ▸ List.prefix_rfl)
    | cons d more =>
      rw [← hmore, List.prefix_append_right_inj] at hbegin
      obtain ⟨rest, rfl⟩ := hbegin
      have hd : d = c := ht d rfl
      subst hd
      rw [List.drop_eq_getElem_cons hn, List.cons_append] at hmore
      have hmem : d ∈ s.drop (n + 1) ++ d :: more := by simp
      exact hmark ((List.cons.inj hmore).2 ▸ hmem)

end Text
end SearchClient
