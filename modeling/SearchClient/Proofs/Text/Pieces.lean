import SearchClient.Text.Blank

/-!
# What stripping and splitting leave

Stripping takes a run of characters of the class off each end of a text and leaves what stands
between them. `Text.exists_stripBy` says so of every text, `Text.stripBy_append` that nothing else
can be left. Splitting at a character leaves all others, in order, in one piece more than there were
separators (`Text.flatten_splitOn`, `Text.length_splitOn`).
-/

namespace SearchClient
namespace Text

variable {p : Char → Bool} {c x : Char} {s left right body piece : Text}

/-! ## Stripping -/

/-- A text is what is left of it by stripping, between two runs of the class. -/
theorem exists_stripBy (p : Char → Bool) (s : Text) :
    ∃ left right, (∀ c ∈ left, p c = true) ∧ (∀ c ∈ right, p c = true) ∧
      s = left ++ stripBy p s ++ right := by
  let t := s.dropWhile p
  refine ⟨s.takeWhile p, (t.reverse.takeWhile p).reverse, ?_, ?_, ?_⟩
  · intro c hc
    exact List.all_eq_true.1 List.all_takeWhile c hc
  · intro c hc
    exact List.all_eq_true.1 List.all_takeWhile c (List.mem_reverse.1 hc)
  · -- the end is stripped of what the start has left
    have hend : stripBy p s ++ (t.reverse.takeWhile p).reverse = t := by
      rw [stripBy, stripEndBy, ← List.reverse_append, List.takeWhile_append_dropWhile,
        List.reverse_reverse]
    rw [List.append_assoc, hend]
    exact List.takeWhile_append_dropWhile.symm

/-- What stands between two runs of the class, and neither begins nor ends in it, is left. -/
theorem stripBy_append (hleft : ∀ c ∈ left, p c = true) (hright : ∀ c ∈ right, p c = true)
    (hne : body ≠ []) (hhead : ∀ c, body.head? = some c → p c = false)
    (hlast : ∀ c, body.getLast? = some c → p c = false) :
    stripBy p (left ++ body ++ right) = body := by
  have hstart : (left ++ body ++ right).dropWhile p = body ++ right := by
    rw [List.append_assoc, List.dropWhile_append_of_pos hleft]
    cases body with
    | nil => exact absurd rfl hne
    | cons c body =>
      rw [List.cons_append, List.dropWhile_cons, hhead c rfl, if_neg Bool.false_ne_true]
  have hend : (body ++ right).reverse.dropWhile p = body.reverse.dropWhile p := by
    rw [List.reverse_append]
    exact List.dropWhile_append_of_pos fun c hc => hright c (List.mem_reverse.1 hc)
  rw [stripBy, hstart, stripEndBy, hend]
  exact stripEndBy_eq_self hlast

/-- Nothing is left exactly of the texts of the class. -/
theorem stripBy_eq_nil_iff : stripBy p s = [] ↔ ∀ c ∈ s, p c = true := by
  constructor
  · intro h
    obtain ⟨left, right, hleft, hright, hs⟩ := exists_stripBy p s
    rw [h, List.append_nil] at hs
    rw [hs, List.forall_mem_append]
    exact ⟨hleft, hright⟩
  · intro h
    rcases hstrip : stripBy p s with _ | ⟨c, t⟩
    · rfl
    · -- a first character that is left would not be of the class
      have hhead : p c = false := head?_stripBy (s := s) (by rw [hstrip]; rfl)
      have hmem : c ∈ s := mem_of_mem_stripBy (p := p) (by rw [hstrip]; exact List.mem_cons_self)
      rw [h c hmem] at hhead
      cases hhead

/-- Stripping drops only characters of the class. -/
theorem filter_stripBy (p : Char → Bool) (s : Text) :
    ((stripBy p s).filter fun c => !p c) = s.filter fun c => !p c := by
  obtain ⟨left, right, hleft, hright, hs⟩ := exists_stripBy p s
  have hnone : ∀ {t : Text}, (∀ c ∈ t, p c = true) → (t.filter fun c => !p c) = [] := by
    intro t ht
    rw [List.filter_eq_nil_iff]
    intro c hc
    rw [ht c hc]
    exact Bool.false_ne_true
  calc
    ((stripBy p s).filter fun c => !p c)
        = ((left ++ stripBy p s ++ right).filter fun c => !p c) := by
          rw [List.filter_append, List.filter_append, hnone hleft, hnone hright, List.nil_append,
            List.append_nil]
    _ = s.filter fun c => !p c := by rw [← hs]

theorem mem_stripBy_iff (hc : p c = false) : c ∈ stripBy p s ↔ c ∈ s := by
  have hkept : c ∈ (stripBy p s).filter (fun c => !p c) ↔ c ∈ s.filter fun c => !p c := by
    rw [filter_stripBy]
  simpa [List.mem_filter, hc] using hkept

/-! ## Splitting at a character -/

theorem flatten_modifyHead {pieces : List Text} (h : pieces ≠ []) (c : Char) :
    (pieces.modifyHead (c :: ·)).flatten = c :: pieces.flatten := by
  cases pieces with
  | nil => exact absurd rfl h
  | cons piece pieces => rfl

theorem length_splitOn (x : Char) (s : Text) : (s.splitOn x).length = s.count x + 1 := by
  induction s with
  | nil => rfl
  | cons c s ih =>
    rw [List.splitOn_cons_eq_if_modifyHead, List.count_cons]
    split
    · rw [List.length_cons, ih]
    · rw [List.length_modifyHead, ih, Nat.add_zero]

/-- The pieces of a split have every character but the separator, in order. -/
theorem flatten_splitOn (x : Char) (s : Text) : (s.splitOn x).flatten = without [x] s := by
  induction s with
  | nil => rfl
  | cons c s ih =>
    rw [List.splitOn_cons_eq_if_modifyHead, without, List.filter_cons]
    by_cases hc : c = x
    · rw [if_pos (by simpa using hc), if_neg (by simpa using hc), List.flatten_cons,
        List.nil_append, ih]
      rfl
    · rw [if_neg (by simpa using hc), if_pos (by simpa using hc),
        flatten_modifyHead (List.splitOn_ne_nil x s), ih]
      rfl

/-- The pieces of a split lack the separator, and have no other characters than the whole. -/
theorem mem_of_mem_splitOn (hpiece : piece ∈ s.splitOn x) (hc : c ∈ piece) : c ∈ s ∧ c ≠ x := by
  have hmem : c ∈ (s.splitOn x).flatten := List.mem_flatten.2 ⟨piece, hpiece, hc⟩
  rw [flatten_splitOn, without, List.mem_filter] at hmem
  simpa using hmem

end Text
end SearchClient
