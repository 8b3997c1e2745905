import SearchClient.Proofs.Request.Inquiry
import SearchClient.Proofs.Session.Effects

/-!
# Search lines are unambiguous

The search line of a request is that of an inquiry, and the reader of `Inquiry.read?` finds the
inquiry again: from the line itself, and from the octets that are sent of it, up to characters that
Latin-1 lacks. `Request.inquiry` is what a request comes to without what its line leaves out.
-/

namespace SearchClient

open Request (Filter parameter quoteTerm sanitize)

/-! ## Characters that the wire lacks -/

namespace Inquiry

open Latin1 (masked)

variable {value name : Text} {q : Inquiry}

/-- The filter with the characters that the wire lacks masked. -/
def maskFilter : Filter → Filter
  | .types tokens => .types (tokens.map fun token => token.map masked)
  | filter => filter

/-- The inquiry with the characters that the wire lacks masked. -/
def mask (q : Inquiry) : Inquiry :=
  { q with
    filename := q.filename.map fun value => value.map masked
    filter := maskFilter q.filter
    terms := q.terms.map fun term => term.map masked }

theorem sanitize_map_masked (value : Text) :
    sanitize (value.map masked) = (sanitize value).map masked := by
  have hclass : ∀ c, ['[', ']', '&', '\r', '\n'].contains (masked c) =
      ['[', ']', '&', '\r', '\n'].contains c := by
    intro c
    by_cases hlt : c.toNat < 0x100
    · rw [Latin1.masked_of_lt hlt]
    · -- none of the characters dropped is beyond the wire
      rw [Latin1.masked_of_not_lt hlt, Bool.eq_iff_iff]
      simp only [List.contains_iff_mem, List.mem_cons, List.not_mem_nil, or_false]
      constructor
      · intro h
        exact absurd h (by decide)
      · rintro (rfl | rfl | rfl | rfl | rfl) <;> exact absurd (by decide) hlt
  rw [sanitize, Text.without, List.filter_map]
  congr 1
  apply List.filter_congr
  intro c hc
  rw [Function.comp_apply, hclass]

theorem contained_map_masked (h : Contained value) : Contained (value.map masked) := by
  have hsame : sanitize (value.map masked) = value.map masked := by
    rw [sanitize_map_masked, sanitize_of_contained h]
  exact hsame ▸ contained_sanitize _

theorem map_masked_write (n : Int) : (Numeral.write n).map masked = Numeral.write n := by
  apply Latin1.map_masked_of_lt
  intro c hc
  exact (Numeral.toNat_lt_of_mem_write hc).trans (by decide)

theorem map_masked_parameter (hname : name.map masked = name) (value : Text) :
    (parameter name value).map masked = parameter name (value.map masked) := by
  simp only [parameter, List.cons_append, List.map_cons, List.map_append, hname, List.map_nil]
  rfl

theorem map_masked_filenameClause (filename : Option Text) :
    (filenameClause filename).map masked =
      filenameClause (filename.map fun value => value.map masked) := by
  cases filename with
  | none => rfl
  | some value => exact map_masked_parameter rfl value

theorem map_masked_clause (filter : Filter) :
    filter.clause.map masked = (maskFilter filter).clause := by
  rcases filter with _ | _ | tokens
  · rfl
  · rfl
  · induction tokens with
    | nil => rfl
    | cons token tokens ih =>
      have hrest : (maskFilter (.types (token :: tokens))).clause =
          parameter "filetype".toList (sanitize (token.map masked)) ++
            (maskFilter (.types tokens)).clause := rfl
      rw [hrest, ← ih, sanitize_map_masked, clause_cons, List.map_append,
        map_masked_parameter rfl]

theorem map_masked_termsClause (terms : List Text) :
    (termsClause terms).map masked = termsClause (terms.map fun term => term.map masked) := by
  have hquote : ∀ term, (quoteTerm term).map masked = quoteTerm (term.map masked) := by
    intro term
    simp only [quoteTerm, List.cons_append, List.map_cons, List.map_append, List.map_nil]
    rfl
  -- by induction on the terms; behind the last one there is no comma
  induction terms with
  | nil => rfl
  | cons term terms ih =>
    cases terms with
    | nil =>
      simp only [termsClause_singleton, List.map_cons, List.map_nil, List.append_nil, hquote]
    | cons term' terms =>
      rw [termsClause_cons_cons, List.map_append, hquote, List.map_cons, List.map_cons, ih]
      exact (termsClause_cons_cons _ _ _).symm

theorem map_masked_numeral (hname : name.map masked = name) (n : Int) :
    (parameter name (Numeral.write n)).map masked = parameter name (Numeral.write n) := by
  rw [map_masked_parameter hname, map_masked_write]

theorem write_mask (q : Inquiry) : q.mask.write = q.write.map masked := by
  have hword : "@desktop".toList.map masked = "@desktop".toList := rfl
  have hstart : (parameter "start".toList (Numeral.write q.start)).map masked =
      parameter "start".toList (Numeral.write q.start) := map_masked_numeral rfl q.start
  have hstop : (parameter "end".toList (Numeral.write q.stop)).map masked =
      parameter "end".toList (Numeral.write q.stop) := map_masked_numeral rfl q.stop
  have hterms : (' ' :: termsClause q.terms).map masked = ' ' :: termsClause q.mask.terms := by
    rw [List.map_cons, map_masked_termsClause]
    rfl
  unfold write
  rw [List.map_append, List.map_append, List.map_append, List.map_append, List.map_append, hword,
    hstart, hstop, hterms, map_masked_filenameClause, map_masked_clause]
  rfl

/-- No character that stands for another one can end a parameter, a term or the line. -/
theorem sound_mask (h : Sound q) : Sound q.mask where
  start := h.start
  stop := h.stop
  filename := by
    intro value hvalue
    rcases Option.map_eq_some_iff.1 hvalue with ⟨name, hname, rfl⟩
    exact contained_map_masked (h.filename name hname)
  filter := by
    intro tokens htokens
    cases hfilter : q.filter with
    | unrestricted => simp [mask, maskFilter, hfilter] at htokens
    | plainFiles => simp [mask, maskFilter, hfilter] at htokens
    | types given =>
      rcases h.filter given hfilter with ⟨hne, hcontained⟩
      simp only [mask, maskFilter, hfilter, Filter.types.injEq] at htokens
      subst htokens
      refine ⟨by simpa using hne, ?_⟩
      intro token htoken
      rcases List.mem_map.1 htoken with ⟨token', htoken', rfl⟩
      exact contained_map_masked (hcontained token' htoken')
  terms_ne_nil := by simpa [mask] using h.terms_ne_nil
  quotable := by
    intro term hterm
    rcases List.mem_map.1 hterm with ⟨term', hterm', rfl⟩
    rcases h.quotable term' hterm' with ⟨hquote, hfeed, hreturn⟩
    exact ⟨fun hc => hquote (Latin1.mem_of_mem_map_masked hc (by decide)),
      fun hc => hfeed (Latin1.mem_of_mem_map_masked hc (by decide)),
      fun hc => hreturn (Latin1.mem_of_mem_map_masked hc (by decide))⟩

/-- **The octets of a sound inquiry's line read back as the masked inquiry.** -/
theorem read?_decode_encode (h : Sound q) :
    read? (Latin1.decode (Latin1.encode q.write)) = some q.mask := by
  -- what comes back of the octets is the masked line, and that is the line of the masked inquiry
  rw [Latin1.decode_encode, ← write_mask]
  exact read?_write (sound_mask h)

/-! ## One line -/

theorem unbroken_of_contained (h : Contained value) : Unbroken value :=
  ⟨fun hc => h _ hc (by simp), fun hc => h _ hc (by simp)⟩

theorem unbroken_parameter (hname : Unbroken name) (hvalue : Unbroken value) :
    Unbroken (parameter name value) := by
  have hform : parameter name value = (['['] ++ name) ++ (['='] ++ (value ++ [']'])) := by
    simp [parameter]
  rw [hform]
  simp only [unbroken_append]
  exact ⟨⟨by decide, hname⟩, by decide, hvalue, by decide⟩

theorem unbroken_clause (filter : Filter) : Unbroken filter.clause := by
  rcases filter with _ | _ | tokens
  · decide
  · decide
  · induction tokens with
    | nil => decide
    | cons token tokens ih =>
      rw [clause_cons, unbroken_append]
      exact ⟨unbroken_parameter (by decide) (unbroken_of_contained (contained_sanitize token)), ih⟩

theorem unbroken_termsClause {terms : List Text} (h : ∀ term ∈ terms, Unbroken term) :
    Unbroken (termsClause terms) := by
  have hquote : ∀ term ∈ terms, Unbroken (quoteTerm term) := by
    intro term hterm
    have hform : quoteTerm term = ['"'] ++ (term ++ ['"']) := rfl
    rw [hform, unbroken_append, unbroken_append]
    exact ⟨by decide, h term hterm, by decide⟩
  induction terms with
  | nil => decide
  | cons term terms ih =>
    have hterm := hquote term (by simp)
    cases terms with
    | nil =>
      rw [termsClause_singleton, List.append_nil]
      exact hterm
    | cons term' terms =>
      have hrest := ih (fun t ht => h t (by simp [ht])) (fun t ht => hquote t (by simp [ht]))
      have hform : termsClause (term :: term' :: terms) =
          quoteTerm term ++ ([',', ' '] ++ termsClause (term' :: terms)) :=
        termsClause_cons_cons term term' terms
      rw [hform, unbroken_append, unbroken_append]
      exact ⟨hterm, by decide, hrest⟩

theorem unbroken_write (h : Sound q) : Unbroken q.write := by
  have hterms := unbroken_termsClause fun term ht => (h.quotable term ht).2
  have hblank : Unbroken (' ' :: termsClause q.terms) :=
    (unbroken_append [' '] _).2 ⟨by decide, hterms⟩
  have hname : Unbroken (filenameClause q.filename) := by
    cases hfilename : q.filename with
    | none => decide
    | some value =>
      exact unbroken_parameter (by decide) (unbroken_of_contained (h.filename value hfilename))
  unfold write
  simp only [unbroken_append]
  exact ⟨by decide, unbroken_parameter (by decide) (unbroken_numeral q.start),
    unbroken_parameter (by decide) (unbroken_numeral q.stop), hname, unbroken_clause q.filter,
    hblank⟩

end Inquiry

/-! ## Requests -/

namespace Request

variable {request : Request}

/-- What a filter comes to in a line: its types without the characters dropped, if there are
any. -/
def Filter.stated : Filter → Filter
  | types [] => unrestricted
  | types tokens => types (tokens.map sanitize)
  | filter => filter

/-- What a request asks of the daemon. -/
def inquiry (request : Request) : Inquiry where
  start := request.start
  stop := request.stop
  filename := request.filename.map sanitize
  filter := (Filter.ofSelection request.fileTypes).stated
  terms := Terms.ofQuery request.query

theorem clause_stated (filter : Filter) : filter.stated.clause = filter.clause := by
  rcases filter with _ | _ | (_ | ⟨token, tokens⟩)
  · rfl
  · rfl
  · rfl
  · unfold Filter.stated Filter.clause
    simp only [List.flatMap_map, Inquiry.sanitize_sanitize]

theorem soundFilter_stated (filter : Filter) : Inquiry.SoundFilter filter.stated := by
  rintro tokens htokens
  rcases filter with _ | _ | (_ | ⟨token, given⟩)
  · simp [Filter.stated] at htokens
  · simp [Filter.stated] at htokens
  · simp [Filter.stated] at htokens
  · unfold Filter.stated at htokens
    rw [Filter.types.injEq] at htokens
    subst htokens
    refine ⟨by simp, ?_⟩
    intro t ht
    rcases List.mem_map.1 ht with ⟨t', -, rfl⟩
    exact Inquiry.contained_sanitize t'

theorem sound_inquiry (hrows : request.hasWritableRows = true)
    (hterms : Terms.ofQuery request.query ≠ []) : request.inquiry.Sound where
  start := (Bool.and_eq_true_iff.1 hrows).1
  stop := (Bool.and_eq_true_iff.1 hrows).2
  filename := by
    intro value hvalue
    rcases Option.map_eq_some_iff.1 hvalue with ⟨name, -, rfl⟩
    exact Inquiry.contained_sanitize name
  filter := soundFilter_stated _
  terms_ne_nil := hterms
  quotable := fun _ hterm => Terms.quotable_of_mem_ofQuery hterm

theorem lineFor_eq_write (request : Request) :
    request.lineFor (Terms.ofQuery request.query) = request.inquiry.write := by
  have hfilter : request.inquiry.filter.clause = (Filter.ofSelection request.fileTypes).clause :=
    clause_stated _
  have hfilename : request.inquiry.filename = request.filename.map sanitize := rfl
  unfold lineFor Inquiry.write
  rw [hfilter, hfilename]
  cases request.filename with
  | none =>
    simp only [List.append_assoc]
    rfl
  | some name =>
    simp only [List.append_assoc]
    rfl

theorem ownLine_of_terms (hterms : Terms.ofQuery request.query ≠ []) :
    request.ownLine =
      if request.hasWritableRows then .ok request.inquiry.write else .error .numeralTooLong := by
  have hsome : (Terms.ofQuery request.query).isEmpty = false := by
    simpa using hterms
  rw [ownLine, searchLine, hsome, lineFor_eq_write]
  rfl

/-- **A search line is unambiguous.** There is one reader that finds in the line of every request
its rows, its file name, its filter and its terms, and in what is sent of the line the same with a
question mark for each character that the wire lacks. The line is one line, so that a ready session
sends it. Only a row that is too long to be written leaves a request with terms without a line. -/
theorem readable_ownLine (request : Request) (hterms : Terms.ofQuery request.query ≠ []) :
    (request.hasWritableRows = false ∧ request.ownLine = .error .numeralTooLong) ∨
      request.hasWritableRows = true ∧ ∃ line, request.ownLine = .ok line ∧
        Inquiry.read? line = some request.inquiry ∧
        Inquiry.read? (Latin1.decode (Latin1.encode line)) = some request.inquiry.mask ∧
        ∀ c : Client, c.ready = true → c.network.nextTurn.fault ≠ some .write →
          (c.execute line).2.sent = c.sent ++ [Latin1.encode line ++ [10]] := by
  have hline := ownLine_of_terms hterms
  cases hrows : request.hasWritableRows with
  | false =>
    rw [hrows] at hline
    exact .inl ⟨rfl, hline⟩
  | true =>
    rw [hrows] at hline
    have hsound := sound_inquiry hrows hterms
    refine .inr ⟨rfl, request.inquiry.write, hline, Inquiry.read?_write hsound,
      Inquiry.read?_decode_encode hsound, ?_⟩
    intro c hready hfault
    rw [Client.sent_execute hready (Inquiry.unbroken_write hsound) hfault, wire_eq]

/-- Brackets, quotes and a comma in what is searched for, and a character without an octet. -/
theorem readable_ownLine_sample :
    let request : Request :=
      { query := "a \"b, [c\" λ".toList, filename := some "x][start=5".toList
        fileTypes := ["text/html".toList, "p&\n".toList] }
    ∃ line, request.ownLine = .ok line ∧
      Inquiry.read? line = some
        { start := 0, stop := 10, filename := some "xstart=5".toList
          filter := .types ["text/html".toList, "p".toList]
          terms := ["a".toList, "b, [c".toList, "λ".toList] } ∧
      Inquiry.read? (Latin1.decode (Latin1.encode line)) = some
        { start := 0, stop := 10, filename := some "xstart=5".toList
          filter := .types ["text/html".toList, "p".toList]
          terms := ["a".toList, "b, [c".toList, "?".toList] } := by
  intro request
  rcases readable_ownLine request (by decide +kernel) with
    ⟨hrows, -⟩ | ⟨-, line, hline, hread, hmasked, -⟩
  · exact absurd hrows (by decide)
  · exact ⟨line, hline, hread.trans (by decide +kernel), hmasked.trans (by decide +kernel)⟩

/-- A row with too many digits leaves a request with a term without a line, and no types at all are
not told from all of them. -/
theorem ownLine_of_long_row :
    let request : Request :=
      { start := (10 ^ Numeral.maxDigits - 1 : Nat), stop := (10 ^ Numeral.maxDigits + 9 : Nat)
        query := ['x'] }
    Terms.ofQuery request.query = [['x']] ∧ (∀ line, request.ownLine ≠ .ok line) ∧
      ownLine { query := ['x'], fileTypes := [] } =
        ownLine { query := ['x'], fileTypes := [FileKind.everything] } ∧
      Filter.ofSelection [] ≠ Filter.ofSelection [FileKind.everything] := by
  intro request
  have hterms : Terms.ofQuery ['x'] = [['x']] := by decide +kernel
  have hne : Terms.ofQuery ['x'] ≠ [] := by simp [hterms]
  refine ⟨hterms, ?_, ?_, by decide⟩
  · intro line
    have hstop : Numeral.isWritable request.stop = false := by
      rw [← Bool.not_eq_true, Numeral.isWritable_iff, Nat.not_lt]
      exact Nat.le_add_right _ 9
    have hrows : request.hasWritableRows = false := by
      rw [hasWritableRows, hstop, Bool.and_false]
    rw [ownLine_of_terms hne, hrows]
    nofun
  · rw [ownLine_of_terms hne, ownLine_of_terms hne]
    rfl

end Request
end SearchClient
