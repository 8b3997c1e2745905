import SearchClient.Proofs.Text.Pieces
import SearchClient.Proofs.Wire.Line
import SearchClient.Request.Terms

/-!
# What terms consist of

The terms of a query are taken from between its double quotes, with its line breaks read as
spaces. So no term has a double quote or a line break, and a term can be quoted in a line.
-/

namespace SearchClient
namespace Terms

variable {c : Char} {stretch term : Text}

theorem mem_phrase_iff : term ∈ phrase stretch ↔ term = Text.trim stretch ∧ term ≠ [] := by
  rw [phrase]
  split
  · rename_i hempty
    rw [List.isEmpty_iff.1 hempty]
    simp
  · rename_i hne
    rw [List.isEmpty_iff] at hne
    rw [List.mem_singleton]
    constructor
    · rintro rfl
      exact ⟨rfl, hne⟩
    · exact And.left

theorem mem_of_mem_phrase (hterm : term ∈ phrase stretch) (hc : c ∈ term) : c ∈ stretch := by
  rw [(mem_phrase_iff.1 hterm).1] at hc
  exact Text.mem_of_mem_stripBy hc

theorem mem_of_mem_words (hterm : term ∈ words stretch) (hc : c ∈ term) : c ∈ stretch := by
  rcases List.mem_flatMap.1 hterm with ⟨piece, hpiece, hphrase⟩
  exact (Text.mem_of_mem_splitOn hpiece (mem_of_mem_phrase hphrase hc)).1

theorem mem_of_mem_ofStretches {quoted : Bool} {stretches : List Text}
    (hterm : term ∈ ofStretches quoted stretches) :
    ∃ stretch ∈ stretches, ∀ c ∈ term, c ∈ stretch := by
  induction stretches generalizing quoted with
  | nil => simp [ofStretches] at hterm
  | cons stretch stretches ih =>
    rw [ofStretches, List.mem_append] at hterm
    rcases hterm with hfirst | hrest
    · refine ⟨stretch, by simp, ?_⟩
      intro c hc
      cases quoted with
      | true => exact mem_of_mem_phrase hfirst hc
      | false => exact mem_of_mem_words hfirst hc
    · rcases ih hrest with ⟨other, hother, hmem⟩
      exact ⟨other, List.mem_cons_of_mem stretch hother, hmem⟩

theorem unbroken_unbroken (query : Text) : Unbroken (unbroken query) := by
  constructor
  all_goals
    intro h
    rcases List.mem_map.1 h with ⟨c, -, hc⟩
    split at hc
    · exact absurd hc (by decide)
    · simp_all

/-- **A term has no double quote and no line break.** -/
theorem quotable_of_mem_ofQuery {query : Text} (h : term ∈ ofQuery query) :
    '"' ∉ term ∧ Unbroken term := by
  rcases mem_of_mem_ofStretches h with ⟨stretch, hstretch, hmem⟩
  have hchar : ∀ c ∈ term, c ∈ unbroken query ∧ c ≠ '"' := fun c hc =>
    Text.mem_of_mem_splitOn hstretch (hmem c hc)
  have hline := unbroken_unbroken query
  exact ⟨fun hc => (hchar _ hc).2 rfl, fun hc => hline.1 (hchar _ hc).1,
    fun hc => hline.2 (hchar _ hc).1⟩

/-- Every term is the phrase of some text. -/
theorem exists_phrase_of_mem_ofStretches {quoted : Bool} {stretches : List Text}
    (h : term ∈ ofStretches quoted stretches) : ∃ s, term ∈ phrase s := by
  induction stretches generalizing quoted with
  | nil => cases h
  | cons stretch stretches ih =>
    rw [ofStretches, List.mem_append] at h
    rcases h with hfirst | hrest
    · cases quoted with
      | true => exact ⟨stretch, hfirst⟩
      | false =>
        obtain ⟨piece, -, hphrase⟩ := List.mem_flatMap.1 hfirst
        exact ⟨piece, hphrase⟩
    · exact ih hrest

/-- **A term does not end in a space.** -/
theorem getLast?_of_mem_ofQuery {query : Text} (h : term ∈ ofQuery query) :
    term.getLast? ≠ some ' ' := by
  intro hlast
  obtain ⟨s, hs⟩ := exists_phrase_of_mem_ofStretches h
  rw [(mem_phrase_iff.1 hs).1] at hlast
  have hblank : Text.isBlank ' ' = false := Text.getLast?_stripBy hlast
  exact absurd hblank (by decide)

end Terms
end SearchClient
