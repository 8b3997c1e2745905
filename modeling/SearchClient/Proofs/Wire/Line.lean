import SearchClient.Proofs.Number.Numeral

/-!
# Lines on the wire

A line is text without a line break. It travels as its octets in Latin-1 with a line feed behind
them, and these octets are one line again: a character that Latin-1 lacks is masked by a question
mark, and no other character is taken for another one.
-/

namespace SearchClient

/-! ## Lines -/

/-- Text that is one line: it has no line break of either kind. -/
def Unbroken (line : Text) : Prop := '\n' ∉ line ∧ '\r' ∉ line

instance (line : Text) : Decidable (Unbroken line) :=
  inferInstanceAs (Decidable (_ ∧ _))

/-- The octets of a line as it is sent, with its line feed. -/
def wire (line : Text) : Bytes := Latin1.encode (line ++ ['\n'])

theorem unbroken_iff_contains (line : Text) :
    Unbroken line ↔ (line.contains '\n' || line.contains '\r') = false := by
  simp [Unbroken]

@[simp] theorem unbroken_append (s t : Text) : Unbroken (s ++ t) ↔ Unbroken s ∧ Unbroken t := by
  simp only [Unbroken, List.mem_append, not_or]
  exact and_and_and_comm

theorem unbroken_numeral (n : Int) : Unbroken (Numeral.write n) :=
  ⟨Numeral.not_mem_write (by decide) (by decide), Numeral.not_mem_write (by decide) (by decide)⟩

theorem wire_eq (line : Text) : wire line = Latin1.encode line ++ [10] := by
  simp only [wire, Latin1.encode, List.map_append]
  rfl

/-! ## Masked characters -/

namespace Latin1

variable {c : Char} {s : Text}

theorem masked_of_lt (h : c.toNat < 0x100) : masked c = c := if_pos h

theorem masked_of_not_lt (h : ¬ c.toNat < 0x100) : masked c = '?' := if_neg h

theorem map_masked_of_lt (h : ∀ c ∈ s, c.toNat < 0x100) : s.map masked = s := by
  have hid : s.map masked = s.map id := List.map_congr_left fun c hc => masked_of_lt (h c hc)
  rw [hid, List.map_id]

theorem mem_of_mem_map_masked (h : c ∈ s.map masked) (hmark : c ≠ '?') : c ∈ s := by
  rcases List.mem_map.1 h with ⟨d, hd, heq⟩
  by_cases hlt : d.toNat < 0x100
  · rw [masked_of_lt hlt] at heq
    exact heq ▸ hd
  · rw [masked_of_not_lt hlt] at heq
    exact absurd heq.symm hmark

/-- Of the octets of a text only the question mark may stand for another character. -/
theorem mem_of_mem_encode (h : octet c ∈ encode s) (hlow : c.toNat < 0x100) (hmark : c ≠ '?') :
    c ∈ s := by
  have hmem : Charset.latin1.char (octet c) ∈ decode (encode s) := List.mem_map_of_mem h
  rw [decode_encode, char_octet, masked_of_lt hlow] at hmem
  exact mem_of_mem_map_masked hmem hmark

end Latin1

theorem not_mem_encode {line : Text} (h : Unbroken line) :
    10 ∉ Latin1.encode line ∧ 13 ∉ Latin1.encode line := by
  constructor
  · intro hmem
    exact h.1 (Latin1.mem_of_mem_encode (c := '\n') hmem (by decide) (by decide))
  · intro hmem
    exact h.2 (Latin1.mem_of_mem_encode (c := '\r') hmem (by decide) (by decide))

end SearchClient
