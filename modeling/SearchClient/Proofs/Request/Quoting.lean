import SearchClient.Proofs.Request.Stretches
import SearchClient.Request.Line

/-!
# Asking for terms again

A list of terms can be asked for again: each in double quotes, with a space between. That query has
exactly these terms, whatever words, spaces and marks they hold. So the lists of terms that queries
have are all the lists of texts that can be terms (`Terms.ofQuery_image`), and `Terms.IsTerm` says
which texts these are.
-/

namespace SearchClient
namespace Terms

variable {term rest : Text} {terms : List Text}

/-- A text that can be a term. -/
structure IsTerm (term : Text) : Prop where
  ne_nil : term ≠ []
  head : ∀ c, term.head? = some c → Text.isBlank c = false
  last : ∀ c, term.getLast? = some c → Text.isBlank c = false
  unquoted : '"' ∉ term
  unbroken : Unbroken term

theorem isTerm_iff : IsTerm term ↔ term ≠ [] ∧ (term.head?.all fun c => !Text.isBlank c) = true ∧
    (term.getLast?.all fun c => !Text.isBlank c) = true ∧ '"' ∉ term ∧ Unbroken term := by
  simp only [Option.all_eq_true, Bool.not_eq_true']
  constructor
  · rintro ⟨hne, hhead, hlast, hquote, hline⟩
    exact ⟨hne, hhead, hlast, hquote, hline⟩
  · rintro ⟨hne, hhead, hlast, hquote, hline⟩
    exact ⟨hne, hhead, hlast, hquote, hline⟩

instance (term : Text) : Decidable (IsTerm term) := decidable_of_iff' _ isTerm_iff

theorem isTerm_of_mem_ofQuery {query : Text} (h : term ∈ ofQuery query) : IsTerm term := by
  obtain ⟨s, hs⟩ := exists_phrase_of_mem_ofStretches h
  obtain ⟨hquote, hline⟩ := quotable_of_mem_ofQuery h
  obtain ⟨rfl, hne⟩ := mem_phrase_iff.1 hs
  exact ⟨hne, fun _ => Text.head?_stripBy, fun _ => Text.getLast?_stripBy, hquote, hline⟩

/-! ## Quoted terms -/

/-- The query that asks for these terms. -/
def quoted (terms : List Text) : Text := [' '].intercalate (terms.map Request.quoteTerm)

theorem quoted_cons (term : Text) (terms : List Text) :
    quoted (term :: terms) =
      Request.quoteTerm term ++ terms.flatMap fun t => ' ' :: Request.quoteTerm t := by
  induction terms generalizing term with
  | nil => simp [quoted]
  | cons term' terms ih =>
    have hcons : quoted (term :: term' :: terms) =
        Request.quoteTerm term ++ ' ' :: quoted (term' :: terms) := by simp [quoted]
    rw [hcons, ih term', List.flatMap_cons]
    rfl

theorem unbroken_of_isTerm (h : IsTerm term) : Terms.unbroken term = term := by
  have hid : Terms.unbroken term = term.map id := List.map_congr_left fun c hc => by
    have hreturn : c ≠ '\r' := fun heq => h.unbroken.2 (heq ▸ hc)
    have hfeed : c ≠ '\n' := fun heq => h.unbroken.1 (heq ▸ hc)
    simp [hreturn, hfeed]
  rw [hid, List.map_id]

/-- A term in quotes is one stretch, and that stretch is the term. -/
theorem ofStretch_of_isTerm (h : IsTerm term) : ofStretch true term = [term] := by
  have htrim : Text.trim term = term := Text.stripBy_of_ends h.head h.last
  rw [ofStretch, if_pos rfl, unbroken_of_isTerm h, phrase, htrim, if_neg]
  exact fun hempty => h.ne_nil (List.isEmpty_iff.1 hempty)

/-- A quoted term is read at its place, behind nothing or behind a space. -/
theorem ofQuery_quoteTerm (gap : Text) (hgap : '"' ∉ gap) (hnone : ofQuery gap = [])
    (h : IsTerm term) (rest : Text) :
    ofQuery (gap ++ (Request.quoteTerm term ++ rest)) = term :: ofQuery rest := by
  -- the opening quote ends the gap and the closing one ends the term
  have hform : Request.quoteTerm term ++ rest = '"' :: (term ++ '"' :: rest) := by
    simp [Request.quoteTerm]
  have hstretch : ofStretch false gap = [] := by rw [← ofPart_of_unquoted hgap, ← hnone]; rfl
  rw [hform, ofQuery_eq_ofPart, ofPart_closed hgap (.inr rfl), hstretch, List.tail_cons,
    ofPart_closed h.unquoted (.inr rfl), Bool.not_false, ofStretch_of_isTerm h]
  rfl

/-- **Terms that are asked for in quotes are the terms of the query.** -/
theorem ofQuery_quoted (h : ∀ term ∈ terms, IsTerm term) : ofQuery (quoted terms) = terms := by
  -- all terms but the first stand behind a space
  have hspaced : ∀ ts : List Text, (∀ t ∈ ts, IsTerm t) →
      ofQuery (ts.flatMap fun t => ' ' :: Request.quoteTerm t) = ts := by
    intro ts hts
    induction ts with
    | nil => rfl
    | cons t ts ih =>
      have ht := ofQuery_quoteTerm [' '] (by decide) rfl (hts t List.mem_cons_self)
        (ts.flatMap fun t => ' ' :: Request.quoteTerm t)
      rw [ih fun t' ht' => hts t' (List.mem_cons_of_mem t ht')] at ht
      exact ht
  cases terms with
  | nil => rfl
  | cons term terms =>
    have hterm := ofQuery_quoteTerm [] List.not_mem_nil rfl (h term List.mem_cons_self)
      (terms.flatMap fun t => ' ' :: Request.quoteTerm t)
    rw [hspaced terms fun t ht => h t (List.mem_cons_of_mem term ht)] at hterm
    rw [quoted_cons]
    exact hterm

/-- **The lists of terms of queries are the lists of texts that can be terms.** -/
theorem ofQuery_image (terms : List Text) :
    ((∃ query, ofQuery query = terms) ↔ ∀ term ∈ terms, IsTerm term) ∧
      ((∀ term ∈ terms, IsTerm term) → ofQuery (quoted terms) = terms) ∧
      ∀ query, ofQuery (quoted (ofQuery query)) = ofQuery query := by
  refine ⟨⟨?_, fun h => ⟨quoted terms, ofQuery_quoted h⟩⟩, ofQuery_quoted, ?_⟩
  · rintro ⟨query, rfl⟩ term hterm
    exact isTerm_of_mem_ofQuery hterm
  · intro query
    exact ofQuery_quoted fun _ => isTerm_of_mem_ofQuery

/-- White space and a comma within terms, a bracket, and a backslash at an end. -/
theorem ofQuery_image_sample :
    let terms := ["a \t b,".toList, "[c".toList, "d\\".toList]
    (∀ term ∈ terms, IsTerm term) ∧
      ofQuery "\"a \t b,\" \"[c\" \"d\\\"".toList = terms := by
  intro terms
  have hterms : ∀ term ∈ terms, IsTerm term := by decide
  exact ⟨hterms, (ofQuery_image terms).2.1 hterms⟩

end Terms
end SearchClient
