import SearchClient.Proofs.Number.Rounding
import SearchClient.Proofs.Number.Spelling
import SearchClient.Proofs.Outcome
import SearchClient.Request.Basic

/-!
# Requests in normal form

Whatever a caller hands over becomes a request in normal form: it asks for ten to twenty rows, its
query has no backslash, and what is given of a file name and of file kinds is not empty. The rows are
those that the caller's offsets name, as near as the form allows.

1. `Offset.Names` says which integer an offset names, without reading it, `Offset.row_of_names` that
   this integer is the row, and `Offset.row_of_nameless` that without one the default is;
2. `Request.again_eq_ok_iff` says that the requests in normal form are those that are not changed by
   being built again;
3. `Request.create_normal` says what request is built.
-/

namespace SearchClient

/-! ## The rows that offsets name -/

namespace Offset

/-- The integer is what is left of a real number of this sign and magnitude without its fraction. -/
structure WholePart (negative : Bool) (units : Nat) (n : Int) : Prop where
  reached : n.natAbs * Binary64.unitsPerOne ≤ units
  not_exceeded : units < (n.natAbs + 1) * Binary64.unitsPerOne
  sign : if negative then n ≤ 0 else 0 ≤ n

/-- The offset names the integer. -/
inductive Names : Offset → Int → Prop where
  | flag (value : Bool) : Names (.flag value) (if value then 1 else 0)
  | whole (n : Int) : Names (.whole n) n
  | real {negative : Bool} {units : Nat} {n : Int} (h : WholePart negative units n) :
      Names (.real (.finite negative units)) n
  | text {s : Text} {n : Int} (h : Numeral.Spells s n) : Names (.text s) n

/-- The offset is not an infinite number. -/
def Bounded (offset : Offset) : Prop := ∀ negative, offset ≠ .real (.infinity negative)

variable {offset : Offset} {negative : Bool} {units : Nat} {n : Int}

theorem bounded_finite : (Offset.real (.finite negative units)).Bounded := fun _ => nofun

theorem eq_signedUnits_iff {q : Nat} : n = Binary64.signedUnits negative q ↔
    n.natAbs = q ∧ if negative then n ≤ 0 else 0 ≤ n := by
  cases negative
  · rw [Binary64.signedUnits, if_neg Bool.false_ne_true, if_neg Bool.false_ne_true]
    omega
  · rw [Binary64.signedUnits, if_pos rfl, if_pos rfl]
    omega

theorem wholePart_iff : WholePart negative units n ↔
    n = Binary64.signedUnits negative (units / Binary64.unitsPerOne) := by
  have hquotient : n.natAbs = units / Binary64.unitsPerOne ↔
      n.natAbs * Binary64.unitsPerOne ≤ units ∧
        units < (n.natAbs + 1) * Binary64.unitsPerOne := by
    rw [← Nat.le_div_iff_mul_le Binary64.unitsPerOne_pos,
      ← Nat.div_lt_iff_lt_mul Binary64.unitsPerOne_pos]
    omega
  rw [eq_signedUnits_iff, hquotient]
  constructor
  · rintro ⟨hreached, hexceeded, hsign⟩
    exact ⟨⟨hreached, hexceeded⟩, hsign⟩
  · rintro ⟨⟨hreached, hexceeded⟩, hsign⟩
    exact ⟨hreached, hexceeded, hsign⟩

theorem row_of_names (h : offset.Names n) (default : Int) : offset.row default = .ok n := by
  cases h with
  | flag value => rfl
  | whole n => rfl
  | real h =>
    rw [wholePart_iff.1 h]
    rfl
  | text h => rw [row, Numeral.read?_eq_some_iff.2 h]; rfl

/-- An offset that names no integer leaves the row to the default. -/
theorem row_of_nameless (hbounded : offset.Bounded) (h : ∀ n, ¬ offset.Names n) (default : Int) :
    offset.row default = .ok default := by
  cases offset with
  | absent => rfl
  | flag value => exact absurd (.flag value) (h _)
  | whole n => exact absurd (.whole n) (h _)
  | real x =>
    cases x with
    | nan => rfl
    | infinity negative => exact absurd rfl (hbounded negative)
    | finite negative units => exact absurd (.real (wholePart_iff.2 rfl)) (h _)
  | text s =>
    have hnone : Numeral.read? s = none := by
      rw [Option.eq_none_iff_forall_ne_some]
      intro n hread
      exact h n (.text (Numeral.read?_eq_some_iff.1 hread))
    rw [row, hnone]
    rfl
  | malformed => rfl

theorem exists_row (hbounded : offset.Bounded) (default : Int) :
    ∃ n, offset.row default = .ok n := by
  by_cases h : ∃ n, offset.Names n
  · obtain ⟨n, hn⟩ := h
    exact ⟨n, row_of_names hn default⟩
  · exact ⟨default, row_of_nameless hbounded (not_exists.1 h) default⟩

end Offset

/-! ## Requests -/

namespace Request

variable {query : Text} {start stop : Offset} {filename : Option Text}
  {tokens : List (Option Text)} {request : Request}

/-- A request asks for ten to twenty rows, and for nothing empty. -/
structure IsNormal (request : Request) : Prop where
  start_nonneg : 0 ≤ request.start
  ten_rows : request.start + 10 ≤ request.stop
  twenty_rows : request.stop ≤ request.start + 20
  query : '\\' ∉ request.query
  filename : request.filename ≠ some []
  kinds_ne_nil : request.fileTypes ≠ []
  token_ne_nil : [] ∉ request.fileTypes

/-- The rows of a request are those that two offsets name, as near as there may be ten to twenty of
them from a row on that is there. -/
structure Follows (request : Request) (start stop : Offset) : Prop where
  start_named : ∀ n, start.Names n → request.start = max 0 n
  start_unnamed : (∀ n, ¬ start.Names n) → request.start = 0
  stop_named : ∀ n, stop.Names n → request.start + 10 ≤ n → n ≤ request.start + 20 →
    request.stop = n
  stop_near : ∀ n, stop.Names n → n < request.start + 10 → request.stop = request.start + 10
  stop_far : ∀ n, stop.Names n → request.start + 20 < n → request.stop = request.start + 20
  stop_unnamed : (∀ n, ¬ stop.Names n) → request.stop = request.start + 10

/-- The request built from the parts of a request. -/
def again (request : Request) : Except Failure Request :=
  create request.query (.whole request.start) (.whole request.stop) request.filename
    (FileKind.Choice.several (request.fileTypes.map some)).tokens

/-! ### Parts -/

theorem clampStop_bounds (first last : Int) :
    first + 10 ≤ clampStop first last ∧ clampStop first last ≤ first + 20 := by
  simp only [clampStop, pageSize, maxRows]
  omega

theorem clampStop_of_mem {first last : Int} (hten : first + 10 ≤ last)
    (htwenty : last ≤ first + 20) : clampStop first last = last := by
  simp only [clampStop, pageSize, maxRows]
  omega

theorem selection_ne_nil (tokens : List (Option Text)) : selection tokens ≠ [] := by
  rw [selection]
  split
  · nofun
  · rename_i hgiven
    exact fun hnil => hgiven (List.isEmpty_iff.2 hnil)

theorem token_ne_nil_of_mem_selection {token : Text} (h : token ∈ selection tokens) :
    token ≠ [] := by
  rw [selection] at h
  split at h
  · rw [List.mem_singleton.1 h]
    decide
  · obtain ⟨given, -, hgiven⟩ := List.mem_filterMap.1 h
    obtain ⟨-, hne⟩ := Option.filter_eq_some_iff.1 hgiven
    simpa using hne

theorem selection_map_some {kinds : List Text} (hne : kinds ≠ []) (h : [] ∉ kinds) :
    selection (kinds.map some) = kinds := by
  have hkept : ((kinds.map some).filterMap fun token => token.filter fun t => !t.isEmpty) =
      kinds := by
    rw [List.filterMap_map]
    refine (List.filterMap_congr fun token htoken => ?_).trans List.filterMap_some
    have hne : token ≠ [] := fun hnil => h (hnil ▸ htoken)
    simp [hne]
  rw [selection, hkept, if_neg]
  exact fun hempty => hne (List.isEmpty_iff.1 hempty)

/-! ### Requests that are built -/

theorem create_eq_ok_iff : create query start stop filename tokens = .ok request ↔
    ∃ first last, start.row 0 = .ok first ∧ stop.row (max 0 first + pageSize) = .ok last ∧
      request = {
        start := max 0 first
        stop := clampStop (max 0 first) last
        query := Text.without ['\\'] query
        filename := filename.filter fun name => !name.isEmpty
        fileTypes := selection tokens } := by
  simp only [create, Outcome.bind_eq_ok_iff, exists_and_left]
  refine exists_congr fun first => and_congr_right fun _ => exists_congr fun last =>
    and_congr_right fun _ => ?_
  constructor
  · intro h
    cases h
    rfl
  · rintro rfl
    rfl

theorem isNormal_of_create (h : create query start stop filename tokens = .ok request) :
    request.IsNormal := by
  obtain ⟨first, last, -, -, rfl⟩ := create_eq_ok_iff.1 h
  exact {
    start_nonneg := Int.le_max_left 0 first
    ten_rows := (clampStop_bounds _ last).1
    twenty_rows := (clampStop_bounds _ last).2
    query := by simp [Text.without]
    filename := by simp [Option.filter_eq_some_iff]
    kinds_ne_nil := selection_ne_nil tokens
    token_ne_nil := fun hmem => token_ne_nil_of_mem_selection hmem rfl }

/-- **A request is in normal form exactly if it is built again from its parts.** -/
theorem again_eq_ok_iff : request.again = .ok request ↔ request.IsNormal := by
  constructor
  · exact isNormal_of_create
  · intro h
    -- both offsets are integers now, so each is its own row, and no part has anything left to change
    refine create_eq_ok_iff.2 ⟨request.start, request.stop, rfl, rfl, ?_⟩
    have hstart : max 0 request.start = request.start := Int.max_eq_right h.start_nonneg
    have hquery : Text.without ['\\'] request.query = request.query := by
      rw [Text.without, List.filter_eq_self]
      intro c hc
      have hne : c ≠ '\\' := fun heq => h.query (heq ▸ hc)
      simpa using hne
    have hfilename : (request.filename.filter fun name => !name.isEmpty) = request.filename := by
      cases hname : request.filename with
      | none => rfl
      | some name =>
        have hne : name ≠ [] := fun hnil => h.filename (hname.trans (congrArg some hnil))
        simp [Option.filter, hne]
    rw [hstart, hquery, hfilename, clampStop_of_mem h.ten_rows h.twenty_rows,
      FileKind.Choice.tokens, selection_map_some h.kinds_ne_nil h.token_ne_nil]

theorem exists_create (query : Text) (filename : Option Text) (tokens : List (Option Text))
    (hstart : start.Bounded) (hstop : stop.Bounded) :
    ∃ request, create query start stop filename tokens = .ok request := by
  obtain ⟨first, hfirst⟩ := Offset.exists_row hstart 0
  obtain ⟨last, hlast⟩ := Offset.exists_row hstop (max 0 first + pageSize)
  exact ⟨_, create_eq_ok_iff.2 ⟨first, last, hfirst, hlast, rfl⟩⟩

theorem follows_of_create (hstart : start.Bounded) (hstop : stop.Bounded)
    (h : create query start stop filename tokens = .ok request) : request.Follows start stop := by
  obtain ⟨first, last, hfirst, hlast, rfl⟩ := create_eq_ok_iff.1 h
  -- the default of the stop depends on the start, but a stop that names a row needs none
  have hnamed : ∀ n, stop.Names n → last = n := by
    intro n hn
    rw [Offset.row_of_names hn] at hlast
    exact (Except.ok.inj hlast).symm
  constructor
  case start_named =>
    intro n hn
    rw [Offset.row_of_names hn] at hfirst
    rw [Except.ok.inj hfirst]
  case start_unnamed =>
    intro hnone
    rw [Offset.row_of_nameless hstart hnone] at hfirst
    rw [← Except.ok.inj hfirst]
    rfl
  case stop_named =>
    intro n hn hten htwenty
    rw [hnamed n hn]
    exact clampStop_of_mem hten htwenty
  case stop_near =>
    intro n hn hnear
    rw [hnamed n hn]
    simp only [clampStop, pageSize, maxRows] at hnear ⊢
    omega
  case stop_far =>
    intro n hn hfar
    rw [hnamed n hn]
    simp only [clampStop, pageSize, maxRows] at hfar ⊢
    omega
  case stop_unnamed =>
    intro hnone
    rw [Offset.row_of_nameless hstop hnone] at hlast
    rw [← Except.ok.inj hlast]
    exact clampStop_of_mem (Int.le_refl _) (by simp only [pageSize]; omega)

/-- **Whatever is handed over becomes a request in normal form,** for the rows that it names, and is
not changed by being built again. -/
theorem create_normal (query : Text) (filename : Option Text) (choice : FileKind.Choice)
    (hstart : start.Bounded) (hstop : stop.Bounded) :
    ∃ request, create query start stop filename choice.tokens = .ok request ∧
      request.IsNormal ∧ request.Follows start stop ∧ request.again = .ok request := by
  obtain ⟨request, hcreate⟩ := exists_create query filename choice.tokens hstart hstop
  have hnormal := isNormal_of_create hcreate
  exact ⟨request, hcreate, hnormal, follows_of_create hstart hstop hcreate,
    again_eq_ok_iff.2 hnormal⟩

/-- A start with a sign, an underscore and padding, a stop of twenty-six and a half, an empty file
name, and an empty token among the kinds. -/
theorem create_normal_sample :
    let start := Offset.text " +1_5\u00a0".toList
    let stop := Offset.real (.finite false (53 * Nat.pow 2 1073))
    let choice := FileKind.Choice.several [none, some [], some FileKind.files]
    start.Bounded ∧ stop.Bounded ∧
      ∃ request, create "a\\b".toList start stop (some []) choice.tokens = .ok request ∧
        request.start = 15 ∧ request.stop = 26 ∧ request.again = .ok request := by
  intro start stop choice
  have hstart : start.Bounded := fun _ => nofun
  have hstop : stop.Bounded := Offset.bounded_finite
  obtain ⟨request, hcreate, -, hfollows, hagain⟩ :=
    create_normal "a\\b".toList (some []) choice hstart hstop
  have hfirst : start.Names 15 := .text (Numeral.read?_eq_some_iff.1 (by decide +kernel))
  have hlast : stop.Names 26 := .real (Offset.wholePart_iff.2 (by decide +kernel))
  have hfifteen : request.start = 15 := hfollows.start_named 15 hfirst
  refine ⟨hstart, hstop, request, hcreate, hfifteen, ?_, hagain⟩
  apply hfollows.stop_named 26 hlast <;> rw [hfifteen] <;> decide

end Request
end SearchClient
