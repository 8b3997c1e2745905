/-!
# Text

Text is a list of characters and a message on the wire a list of octets, so lengths, cuts and
searches count characters and every function below recurses on the data.

1. `Text.cut?` finds the first occurrence of a mark and gives what stands before and after it;
2. `Text.without` drops characters, `Text.afterLast` keeps what follows the last separator;
3. `Text.stripBy` and `Text.stripEndBy` drop characters of a class at the ends.
-/

namespace SearchClient

/-- Text as a list of characters. -/
abbrev Text := List Char

/-- Octets as they travel to and from the daemon. -/
abbrev Bytes := List UInt8

namespace Text

/-! ## Searching -/

/-- What follows `mark` in a text that starts with it. -/
def after? : Text → Text → Option Text
  | [], s => some s
  | _ :: _, [] => none
  | m :: mark, c :: s => if m = c then after? mark s else none

/-- The text before the first occurrence of `mark` and the text after it. -/
def cut? (mark : Text) : Text → Option (Text × Text)
  | [] => if mark.isEmpty then some ([], []) else none
  | c :: s =>
    match after? mark (c :: s) with
    | some rest => some ([], rest)
    | none => (cut? mark s).map fun (before, after) => (c :: before, after)

def has (mark s : Text) : Bool := (cut? mark s).isSome

/-- A text that starts with `mark` is the mark and what follows it. -/
theorem eq_append_of_after? {mark s rest : Text} (h : after? mark s = some rest) :
    s = mark ++ rest := by
  induction mark generalizing s with
  | nil =>
    simp only [after?, Option.some.injEq] at h
    exact h
  | cons m mark ih =>
    cases s with
    | nil => simp [after?] at h
    | cons c s =>
      simp only [after?] at h
      split at h
      · rename_i hc
        rw [ih h, hc]
        rfl
      · simp at h

/-- What a cut gives adds up to the text that was cut. -/
theorem append_of_cut? {mark s before after : Text} (h : cut? mark s = some (before, after)) :
    s = before ++ mark ++ after := by
  induction s generalizing before after with
  | nil =>
    unfold cut? at h
    split at h
    · rename_i he
      simp only [Option.some.injEq, Prod.mk.injEq] at h
      rcases h with ⟨rfl, rfl⟩
      simpa using he
    · simp at h
  | cons c s ih =>
    unfold cut? at h
    split at h
    · rename_i rest hrest
      simp only [Option.some.injEq, Prod.mk.injEq] at h
      rcases h with ⟨rfl, rfl⟩
      simpa using eq_append_of_after? hrest
    · simp only [Option.map_eq_some_iff] at h
      rcases h with ⟨⟨b, a⟩, hb, heq⟩
      simp only [Prod.mk.injEq] at heq
      rcases heq with ⟨rfl, rfl⟩
      simp [ih hb]

/-- What follows the first occurrence of `mark` is shorter by the mark and what stands before. -/
theorem length_of_cut? {mark s before after : Text} (h : cut? mark s = some (before, after)) :
    s.length = before.length + mark.length + after.length := by
  have hs := append_of_cut? h
  subst hs
  simp [Nat.add_assoc]

@[simp] theorem after?_append (mark rest : Text) : after? mark (mark ++ rest) = some rest := by
  induction mark with
  | nil => rfl
  | cons m mark ih => simpa [after?] using ih

/-- A cut at a character that comes just after a text without it. -/
theorem cut?_of_not_mem {c : Char} {s : Text} (h : c ∉ s) (rest : Text) :
    cut? [c] (s ++ c :: rest) = some (s, rest) := by
  induction s with
  | nil => simp [cut?, after?]
  | cons d s ih =>
    simp only [List.mem_cons, not_or] at h
    rw [List.cons_append, cut?, after?, if_neg h.1, ih h.2]
    rfl

/-- The text after the last `separator`, or all of it if there is none. -/
def afterLast (separator : Char) (s : Text) : Text :=
  (s.reverse.takeWhile (· != separator)).reverse

/-! ## Dropping characters -/

/-- The text less every character of `unwanted`. -/
def without (unwanted s : Text) : Text := s.filter fun c => !unwanted.contains c

/-- The text less the characters of a class at its end. -/
def stripEndBy (p : Char → Bool) (s : Text) : Text := (s.reverse.dropWhile p).reverse

/-- The text less the characters of a class at both ends. -/
def stripBy (p : Char → Bool) (s : Text) : Text := stripEndBy p (s.dropWhile p)

theorem stripEndBy_concat (p : Char → Bool) (s : Text) (c : Char) :
    stripEndBy p (s ++ [c]) = if p c then stripEndBy p s else s ++ [c] := by
  cases h : p c <;> simp [stripEndBy, h]

theorem stripEndBy_isPrefix (p : Char → Bool) (s : Text) : stripEndBy p s <+: s := by
  have hsuffix : s.reverse.dropWhile p <:+ s.reverse := List.dropWhile_suffix p
  rw [← List.reverse_prefix, List.reverse_reverse] at hsuffix
  exact hsuffix

/-- Stripping at the end does not reach a first character that is not of the class. -/
theorem stripEndBy_cons {p : Char → Bool} {c : Char} (h : p c = false) (s : Text) :
    stripEndBy p (c :: s) = c :: stripEndBy p s := by
  rw [stripEndBy, stripEndBy, List.reverse_cons, List.dropWhile_append]
  split
  · rename_i hempty
    rw [List.isEmpty_iff.1 hempty]
    simp [h]
  · rw [List.reverse_append]
    rfl

theorem stripEndBy_eq_self {p : Char → Bool} {s : Text} (h : ∀ c, s.getLast? = some c → p c = false) :
    stripEndBy p s = s := by
  rcases List.eq_nil_or_concat s with rfl | ⟨t, c, rfl⟩
  · rfl
  · have hc : p c = false := h c (by simp)
    rw [List.concat_eq_append, stripEndBy_concat, hc]
    rfl

/-- A text that neither begins nor ends in the class is not changed by stripping. -/
theorem stripBy_of_ends {p : Char → Bool} {s : Text} (hhead : ∀ c, s.head? = some c → p c = false)
    (hlast : ∀ c, s.getLast? = some c → p c = false) : stripBy p s = s := by
  have hdrop : s.dropWhile p = s := by
    cases s with
    | nil => rfl
    | cons c s => rw [List.dropWhile_cons, hhead c rfl, if_neg Bool.false_ne_true]
  rw [stripBy, hdrop]
  exact stripEndBy_eq_self hlast

/-- What is left by stripping does not begin in the class. -/
theorem head?_stripBy {p : Char → Bool} {s : Text} {c : Char} (h : (stripBy p s).head? = some c) :
    p c = false := by
  obtain ⟨rest, hrest⟩ := stripEndBy_isPrefix p (s.dropWhile p)
  have hhead : (s.dropWhile p).head? = some c := by
    rw [← hrest, List.head?_append, ← stripBy, h]
    rfl
  have hnot := List.head?_dropWhile_not p s
  rw [hhead] at hnot
  exact hnot

/-- What is left by stripping does not end in the class. -/
theorem getLast?_stripBy {p : Char → Bool} {s : Text} {c : Char}
    (h : (stripBy p s).getLast? = some c) : p c = false := by
  rw [stripBy, stripEndBy, List.getLast?_reverse] at h
  have hnot := List.head?_dropWhile_not p (s.dropWhile p).reverse
  rw [h] at hnot
  exact hnot

/-- Stripping leaves only characters that were there. -/
theorem mem_of_mem_stripBy {p : Char → Bool} {s : Text} {c : Char} (h : c ∈ stripBy p s) :
    c ∈ s := by
  rw [stripBy, stripEndBy, List.mem_reverse] at h
  have hc := (List.dropWhile_sublist p).subset h
  exact (List.dropWhile_sublist p).subset (List.mem_reverse.1 hc)

/-! ## Classes of characters -/

/-- Whether a character's code point lies in one of the ranges, given by first and last. -/
def inRanges (ranges : List (Nat × Nat)) (c : Char) : Bool :=
  ranges.any fun (first, last) => first ≤ c.toNat && c.toNat ≤ last

/-! ## Order and layout -/

/-- Whether the first text comes before the second, or is the same, in the order of characters. -/
def inOrder : Text → Text → Bool
  | [], _ => true
  | _ :: _, [] => false
  | c :: s, d :: t => if c = d then inOrder s t else c.toNat < d.toNat

/-- The text, followed by blanks up to `width` characters. -/
def padRight (width : Nat) (s : Text) : Text := s ++ List.replicate (width - s.length) ' '

end Text
end SearchClient
