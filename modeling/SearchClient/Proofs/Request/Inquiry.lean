import SearchClient.Proofs.Number.Numeral
import SearchClient.Proofs.Request.Terms
import SearchClient.Request.Line

/-!
# Reading search lines

A search line says which rows are wanted, for which file names and file kinds, and for which
terms. `Inquiry` is what it says, `Inquiry.write` the line for it, and `Inquiry.read?` a reader that
knows nothing of how the line came about. A parameter's value ends at its bracket and a term at its
quote, so text from outside cannot end one early once it has no such character: that is
`Inquiry.Sound`, and `Inquiry.read?_write` says that the line of a sound inquiry reads back as it.

What is read at the front of a line is given back with the rest, and every lemma about a reader
is about what was written followed by any rest.
-/

namespace SearchClient

open Request (Filter parameter quoteTerm sanitize)

/-- What a search line says. -/
structure Inquiry where
  start : Int
  stop : Int
  filename : Option Text
  filter : Filter
  terms : List Text
  deriving DecidableEq

namespace Inquiry

variable {name value rest term : Text} {terms : List Text} {q : Inquiry}

/-! ## The line -/

/-- The parameter for a file name, if there is one. -/
def filenameClause : Option Text → Text
  | some value => parameter "filename".toList value
  | none => []

/-- Terms as they stand at the end of a search line. -/
def termsClause (terms : List Text) : Text := [',', ' '].intercalate (terms.map quoteTerm)

/-- The line that says what an inquiry says. -/
def write (q : Inquiry) : Text :=
  "@desktop".toList ++ (parameter "start".toList (Numeral.write q.start) ++
    (parameter "end".toList (Numeral.write q.stop) ++ (filenameClause q.filename ++
      (q.filter.clause ++ ' ' :: termsClause q.terms))))

/-! ## Readers -/

/-- What stands between an opening mark at the front of a line and the next closing one. -/
def takeBetween? (opening : Text) (closing : Char) (s : Text) : Option (Text × Text) :=
  (Text.after? opening s).bind (Text.cut? [closing])

theorem length_of_takeBetween? {opening : Text} {closing : Char} {s : Text}
    (h : takeBetween? opening closing s = some (value, rest)) : rest.length < s.length := by
  rcases Option.bind_eq_some_iff.1 h with ⟨t, hmark, hcut⟩
  have hlength := Text.length_of_cut? hcut
  rw [Text.eq_append_of_after? hmark, List.length_append, hlength, List.length_singleton]
  omega

/-- The value of a parameter of this name at the front of a line. -/
def takeParameter? (name s : Text) : Option (Text × Text) :=
  takeBetween? ('[' :: name ++ ['=']) ']' s

/-- A quoted term at the front of a line. -/
def takeTerm? (s : Text) : Option (Text × Text) := takeBetween? ['"'] '"' s

theorem length_of_takeTerm? {s : Text} (h : takeTerm? s = some (term, ',' :: ' ' :: rest)) :
    rest.length < s.length := by
  have hlength := length_of_takeBetween? h
  simp only [List.length_cons] at hlength
  omega

/-- A file name, if the line goes on with one. -/
def takeFilename (s : Text) : Option Text × Text :=
  match takeParameter? "filename".toList s with
  | some (value, rest) => (some value, rest)
  | none => (none, s)

/-- The file types that the line goes on with. -/
def takeTypes (s : Text) : List Text × Text :=
  match h : takeParameter? "filetype".toList s with
  | some (value, rest) =>
    have : rest.length < s.length := length_of_takeBetween? h
    let (values, rest) := takeTypes rest
    (value :: values, rest)
  | none => ([], s)
termination_by s.length

/-- The filter that the line goes on with. -/
def takeFilter (s : Text) : Filter × Text :=
  match takeTypes s with
  | ([], _) =>
    match Text.after? Filter.plainFiles.clause s with
    | some rest => (.plainFiles, rest)
    | none => (.unrestricted, s)
  | (value :: values, rest) => (.types (value :: values), rest)

/-- Quoted terms up to the end of the line, with a comma and a space between them. -/
def readTerms? (s : Text) : Option (List Text) :=
  match h : takeTerm? s with
  | none => none
  | some (term, []) => some [term]
  | some (term, ',' :: ' ' :: rest) =>
    have : rest.length < s.length := length_of_takeTerm? h
    (readTerms? rest).map (term :: ·)
  | some (_, _) => none
termination_by s.length

/-- Reads a search line. -/
def read? (line : Text) : Option Inquiry := do
  let s ← Text.after? "@desktop".toList line
  let (start, s) ← takeParameter? "start".toList s
  let (stop, s) ← takeParameter? "end".toList s
  let (filename, s) := takeFilename s
  let (filter, s) := takeFilter s
  let s ← Text.after? [' '] s
  return {
    start := ← Numeral.read? start
    stop := ← Numeral.read? stop
    filename, filter
    terms := ← readTerms? s }

/-! ## Parameters -/

/-- The characters that a parameter's value must not have. -/
def Contained (value : Text) : Prop := ∀ c ∈ value, c ∉ ['[', ']', '&', '\r', '\n']

instance (value : Text) : Decidable (Contained value) :=
  inferInstanceAs (Decidable (∀ c ∈ value, _))

theorem contained_sanitize (value : Text) : Contained (sanitize value) := by
  intro c hc
  simpa [sanitize, Text.without] using (List.mem_filter.1 hc).2

theorem sanitize_of_contained (h : Contained value) : sanitize value = value := by
  apply List.filter_eq_self.2
  intro c hc
  simpa using h c hc

@[simp] theorem sanitize_sanitize (value : Text) : sanitize (sanitize value) = sanitize value :=
  sanitize_of_contained (contained_sanitize value)

theorem takeBetween?_append {closing : Char} (h : closing ∉ value) (opening rest : Text) :
    takeBetween? opening closing (opening ++ (value ++ closing :: rest)) = some (value, rest) := by
  rw [takeBetween?, Text.after?_append]
  exact Text.cut?_of_not_mem h rest

theorem takeParameter?_parameter (h : ']' ∉ value) (name rest : Text) :
    takeParameter? name (parameter name value ++ rest) = some (value, rest) := by
  have hform : parameter name value ++ rest = ('[' :: name ++ ['=']) ++ (value ++ ']' :: rest) := by
    simp [parameter]
  rw [hform]
  exact takeBetween?_append h _ rest

theorem takeParameter?_of_ne {c : Char} (h : c ≠ '[') (name s : Text) :
    takeParameter? name (c :: s) = none := by
  rw [takeParameter?, takeBetween?, List.cons_append, Text.after?, if_neg (Ne.symm h)]
  rfl

/-! ## Terms -/

theorem termsClause_singleton (term : Text) : termsClause [term] = quoteTerm term ++ [] := by
  simp [termsClause]

theorem termsClause_cons_cons (term term' : Text) (terms : List Text) :
    termsClause (term :: term' :: terms) =
      quoteTerm term ++ ',' :: ' ' :: termsClause (term' :: terms) := by
  simp [termsClause]

theorem takeTerm?_quoteTerm (h : '"' ∉ term) (rest : Text) :
    takeTerm? (quoteTerm term ++ rest) = some (term, rest) := by
  have hform : quoteTerm term ++ rest = ['"'] ++ (term ++ '"' :: rest) := by
    simp [quoteTerm]
  rw [hform]
  exact takeBetween?_append h _ rest

theorem readTerms?_of_last {s : Text} (h : takeTerm? s = some (term, [])) :
    readTerms? s = some [term] := by
  rw [readTerms?]
  split <;> simp_all

theorem readTerms?_of_comma {s : Text} (h : takeTerm? s = some (term, ',' :: ' ' :: rest)) :
    readTerms? s = (readTerms? rest).map (term :: ·) := by
  rw [readTerms?]
  split <;> simp_all

theorem readTerms?_termsClause (hterms : ∀ term ∈ terms, '"' ∉ term) (hne : terms ≠ []) :
    readTerms? (termsClause terms) = some terms := by
  induction terms with
  | nil => exact absurd rfl hne
  | cons term terms ih =>
    have hterm : '"' ∉ term := hterms term (by simp)
    -- the last term ends the line, and every other has a comma behind it
    cases terms with
    | nil =>
      rw [termsClause_singleton]
      exact readTerms?_of_last (takeTerm?_quoteTerm hterm [])
    | cons term' terms =>
      have hrest := ih (fun t ht => hterms t (by simp [ht])) (by simp)
      rw [termsClause_cons_cons, readTerms?_of_comma (takeTerm?_quoteTerm hterm _), hrest]
      rfl

theorem takeTerm?_termsClause (hterms : ∀ term ∈ terms, '"' ∉ term) (hne : terms ≠ []) :
    ∃ term rest, takeTerm? (termsClause terms) = some (term, rest) ∧ rest.head? ≠ some '.' := by
  rcases terms with _ | ⟨term, _ | ⟨term', terms⟩⟩
  · exact absurd rfl hne
  · rw [termsClause_singleton]
    exact ⟨term, [], takeTerm?_quoteTerm (hterms term (by simp)) [], by simp⟩
  · rw [termsClause_cons_cons]
    exact ⟨term, _, takeTerm?_quoteTerm (hterms term (by simp)) _, by simp⟩

/-! ## Filters -/

/-- Terms are not taken for the clause for plain files, whatever the first of them is: it has a
period behind a quoted text, and they have a comma there. -/
theorem after?_clause_termsClause (hterms : ∀ term ∈ terms, '"' ∉ term) (hne : terms ≠ []) :
    Text.after? Filter.plainFiles.clause (' ' :: termsClause terms) = none := by
  rcases takeTerm?_termsClause hterms hne with ⟨term, rest, hread, hhead⟩
  cases hclause : Text.after? Filter.plainFiles.clause (' ' :: termsClause terms) with
  | none => rfl
  | some behind =>
    exfalso
    -- both are read up to their second quote, and the texts behind it differ
    have hline := Text.eq_append_of_after? hclause
    have hform : Filter.plainFiles.clause ++ behind =
        ' ' :: (quoteTerm "<file!>".toList ++ ("..\"</file!>\" by".toList ++ behind)) := rfl
    rw [hform, List.cons.injEq] at hline
    have hopen : '"' ∉ "<file!>".toList := by decide
    have hmark := takeTerm?_quoteTerm hopen ("..\"</file!>\" by".toList ++ behind)
    rw [hline.2, hmark, Option.some.injEq, Prod.mk.injEq] at hread
    rw [← hread.2] at hhead
    exact hhead rfl

theorem clause_cons (token : Text) (tokens : List Text) :
    (Filter.types (token :: tokens)).clause =
      parameter "filetype".toList (sanitize token) ++ (Filter.types tokens).clause :=
  List.flatMap_cons

theorem takeParameter?_clause (filter : Filter) (s : Text) :
    takeParameter? "filename".toList (filter.clause ++ ' ' :: s) = none := by
  rcases filter with _ | _ | (_ | ⟨token, tokens⟩)
  · exact takeParameter?_of_ne (by decide) _ s
  · exact takeParameter?_of_ne (by decide) _ _
  · exact takeParameter?_of_ne (by decide) _ s
  · rfl

theorem takeFilename_clause {filename : Option Text} (h : ∀ value ∈ filename, ']' ∉ value)
    (filter : Filter) (s : Text) :
    takeFilename (filenameClause filename ++ (filter.clause ++ ' ' :: s)) =
      (filename, filter.clause ++ ' ' :: s) := by
  cases filename with
  | none => rw [filenameClause, List.nil_append, takeFilename, takeParameter?_clause]
  | some value =>
    rw [filenameClause, takeFilename, takeParameter?_parameter (h value rfl)]

theorem takeTypes_of_some {s : Text} (h : takeParameter? "filetype".toList s = some (value, rest)) :
    takeTypes s = (value :: (takeTypes rest).1, (takeTypes rest).2) := by
  rw [takeTypes]
  split
  · rename_i value' rest' hread
    rw [h, Option.some.injEq, Prod.mk.injEq] at hread
    rcases hread with ⟨rfl, rfl⟩
    rfl
  · rename_i hread
    rw [h] at hread
    cases hread

theorem takeTypes_of_none {s : Text} (h : takeParameter? "filetype".toList s = none) :
    takeTypes s = ([], s) := by
  rw [takeTypes]
  split
  · rename_i hread
    rw [h] at hread
    cases hread
  · rfl

theorem takeTypes_clause {tokens : List Text} (h : ∀ token ∈ tokens, Contained token) (s : Text) :
    takeTypes ((Filter.types tokens).clause ++ ' ' :: s) = (tokens, ' ' :: s) := by
  induction tokens with
  | nil =>
    -- the blank before the terms opens no parameter
    exact takeTypes_of_none (takeParameter?_of_ne (by decide) _ s)
  | cons token tokens ih =>
    have htoken : Contained token := h token (by simp)
    have hopen : ']' ∉ token := fun hc => htoken ']' hc (by simp)
    have hrest := ih fun t ht => h t (by simp [ht])
    rw [clause_cons, sanitize_of_contained htoken, List.append_assoc,
      takeTypes_of_some (takeParameter?_parameter hopen _ _), hrest]

/-- A filter of types has some, and none of them can end its parameter. -/
def SoundFilter (filter : Filter) : Prop :=
  ∀ tokens, filter = .types tokens → tokens ≠ [] ∧ ∀ token ∈ tokens, Contained token

theorem takeFilter_clause {filter : Filter} (hfilter : SoundFilter filter)
    (hterms : ∀ term ∈ terms, '"' ∉ term) (hne : terms ≠ []) :
    takeFilter (filter.clause ++ ' ' :: termsClause terms) = (filter, ' ' :: termsClause terms) := by
  cases filter with
  | unrestricted =>
    have htypes : takeTypes (' ' :: termsClause terms) = ([], ' ' :: termsClause terms) :=
      takeTypes_of_none (takeParameter?_of_ne (by decide) _ _)
    show takeFilter (' ' :: termsClause terms) = _
    rw [takeFilter, htypes, after?_clause_termsClause hterms hne]
  | plainFiles =>
    have htypes : takeTypes (Filter.plainFiles.clause ++ ' ' :: termsClause terms) =
        ([], Filter.plainFiles.clause ++ ' ' :: termsClause terms) :=
      takeTypes_of_none (takeParameter?_of_ne (by decide) _ _)
    rw [takeFilter, htypes, Text.after?_append]
  | types tokens =>
    rcases hfilter tokens rfl with ⟨htokens, hcontained⟩
    rw [takeFilter, takeTypes_clause hcontained]
    cases tokens with
    | nil => exact absurd rfl htokens
    | cons token tokens => rfl

/-! ## Lines -/

/-- An inquiry whose line can be written, and in which no text ends a parameter, a term or the
line. -/
structure Sound (q : Inquiry) : Prop where
  start : Numeral.isWritable q.start = true
  stop : Numeral.isWritable q.stop = true
  filename : ∀ value ∈ q.filename, Contained value
  filter : SoundFilter q.filter
  terms_ne_nil : q.terms ≠ []
  quotable : ∀ term ∈ q.terms, '"' ∉ term ∧ Unbroken term

/-- **The line of a sound inquiry is read back.** -/
theorem read?_write (h : Sound q) : read? q.write = some q := by
  have hterms : ∀ term ∈ q.terms, '"' ∉ term := fun term ht => (h.quotable term ht).1
  have hname : ∀ value ∈ q.filename, ']' ∉ value := fun value hv hc =>
    h.filename value hv ']' hc (by simp)
  have hrow : ∀ n, ']' ∉ Numeral.write n := fun n => Numeral.not_mem_write (by decide) (by decide)
  have hstart := takeParameter?_parameter (hrow q.start) "start".toList
  have hstop := takeParameter?_parameter (hrow q.stop) "end".toList
  have hfilename := takeFilename_clause hname q.filter (termsClause q.terms)
  have hfilter := takeFilter_clause h.filter hterms h.terms_ne_nil
  have hblank : Text.after? [' '] (' ' :: termsClause q.terms) = some (termsClause q.terms) :=
    Text.after?_append [' '] _
  unfold read? write
  simp only [Text.after?_append, Option.bind_eq_bind, Option.bind_some, hstart, hstop, hfilename,
    hfilter, hblank, Numeral.read?_write h.start, Numeral.read?_write h.stop,
    readTerms?_termsClause hterms h.terms_ne_nil]
  rfl

end Inquiry
end SearchClient
