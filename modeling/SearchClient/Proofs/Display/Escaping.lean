import SearchClient.Display.Markup

/-!
# What escaping adds

Escaping for the console adds backslashes and nothing else, and escaping for the web replaces angle
brackets by entities. So neither adds a NUL to a text, and the latter leaves no angle bracket in it.
-/

namespace SearchClient

/-! ## Console markup -/

namespace Console

theorem append_of_closeBracket? {s body rest : Text} (h : closeBracket? s = some (body, rest)) :
    s = body ++ ']' :: rest := by
  induction s generalizing body with
  | nil => cases h
  | cons c s ih =>
    unfold closeBracket? at h
    split at h
    · rename_i hc
      cases h
      rw [hc]
      rfl
    · split at h
      · cases h
      · rcases Option.map_eq_some_iff.1 h with ⟨⟨b, r⟩, hb, heq⟩
        cases heq
        rw [ih hb]
        rfl

theorem append_of_tagBody? {s body rest : Text} (h : tagBody? s = some (body, rest)) :
    s = body ++ ']' :: rest := by
  cases s with
  | nil => cases h
  | cons c s =>
    simp only [tagBody?] at h
    split at h
    · rcases Option.map_eq_some_iff.1 h with ⟨⟨b, r⟩, hb, heq⟩
      cases heq
      rw [append_of_closeBracket? hb]
      rfl
    · cases h

/-- A token as it stands in the text, without the backslashes before it. -/
def Token.bare : Token → Text
  | char _ c => [c]
  | tag _ body => '[' :: body ++ [']']
  | finish _ => []

theorem Token.mem_bare_of_mem_escaped {token : Token} {c : Char} (hc : c ≠ '\\')
    (h : c ∈ token.escaped) : c ∈ token.bare := by
  have hslashes : ∀ n, c ∉ backslashes n := by
    intro n hn
    exact hc (List.eq_of_mem_replicate hn)
  cases token with
  | char n d => exact (List.mem_append.1 h).resolve_left (hslashes n)
  | finish n => exact absurd h (hslashes _)
  | tag n body =>
    rw [Token.escaped, List.append_assoc] at h
    exact (List.mem_append.1 h).resolve_left (hslashes _)

/-- Escaping adds backslashes and nothing else. -/
theorem mem_of_mem_escaped {n : Nat} {s : Text} {c : Char} (hc : c ≠ '\\')
    (h : c ∈ (Token.scanAfter n s).flatMap Token.escaped) : c ∈ s := by
  -- by induction along the scan: a token's own text stands before what is scanned after it
  fun_induction Token.scanAfter n s with
  | case1 n =>
    rw [List.flatMap_cons, List.mem_append] at h
    rcases h with htoken | hrest
    · cases Token.mem_bare_of_mem_escaped hc htoken
    · cases hrest
  | case2 n rest ih => exact List.mem_cons_of_mem _ (ih h)
  | case3 n rest body more htag hshorter hslash ih =>
    rw [List.flatMap_cons, List.mem_append] at h
    have htext : '[' :: rest = ('[' :: body ++ [']']) ++ more := by
      rw [append_of_tagBody? htag]
      simp
    rw [htext, List.mem_append]
    exact h.imp (Token.mem_bare_of_mem_escaped hc) ih
  | case4 n rest hnone hslash ih =>
    rw [List.flatMap_cons, List.mem_append] at h
    exact List.mem_append.2 (h.imp (Token.mem_bare_of_mem_escaped hc) ih)
  | case5 n d rest hslash hopen ih =>
    rw [List.flatMap_cons, List.mem_append] at h
    exact List.mem_append.2 (h.imp (Token.mem_bare_of_mem_escaped hc) ih)

end Console

/-! ## Escaping -/

/-- An angle bracket. -/
def IsAngle (c : Char) : Prop := c = '<' ∨ c = '>'

namespace IsAngle

variable {c : Char}

theorem toNat_lt (hc : IsAngle c) : c.toNat < 0x80 := by
  rcases hc with rfl | rfl <;> decide

theorem ne_mark (hc : IsAngle c) : c ≠ '?' := by
  rcases hc with rfl | rfl <;> decide

theorem isBlank_eq_false (hc : IsAngle c) : Text.isBlank c = false := by
  rcases hc with rfl | rfl <;> decide

end IsAngle

namespace Escaping

@[simp] theorem apply_nil (escaping : Escaping) : escaping.apply [] = [] := by
  cases escaping with
  | entities => rfl
  | none => rfl
  | console => simp [Escaping.apply, Console.escape, Console.Token.scan, Console.Token.scanAfter,
      Console.Token.escaped, Console.backslashes]

/-- No escaping adds a NUL. -/
theorem nul_of_mem_apply {escaping : Escaping} {s : Text} (h : '\x00' ∈ escaping.apply s) :
    '\x00' ∈ s := by
  cases escaping with
  | none => exact h
  | console => exact Console.mem_of_mem_escaped (by decide) h
  | entities =>
    rcases List.mem_flatMap.1 h with ⟨c, hc, hmem⟩
    unfold entity at hmem
    split at hmem
    · simp at hmem
    · split at hmem
      · simp at hmem
      · rw [List.mem_singleton] at hmem
        rw [hmem]
        exact hc

/-- **Escaping for the web leaves no angle bracket.** -/
theorem not_mem_entities {c : Char} (hc : IsAngle c) (s : Text) :
    c ∉ entities.apply s := by
  intro h
  rcases List.mem_flatMap.1 h with ⟨d, -, hd⟩
  unfold entity at hd
  split at hd
  · rcases hc with rfl | rfl <;> simp at hd
  · split at hd
    · rcases hc with rfl | rfl <;> simp at hd
    · rename_i hopens hcloses
      rw [List.mem_singleton] at hd
      subst hd
      exact hc.elim hopens hcloses

end Escaping

end SearchClient
