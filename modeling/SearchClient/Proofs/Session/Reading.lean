import Mathlib.Data.List.DropRight
import SearchClient.Proofs.Session.Framing

/-!
# What is read of any stream

The octets of a stream are cut here after each line feed, all at once, and what a frame holds is said
by the lines that come of it. Reading does not look that far ahead: it asks for one line after the
other and stops.

1. `Stream.cutLines` cuts octets, and `Stream.lines` are the lines that a stream gives;
2. `Stream.readLine_of_lines` is one read by these lines;
3. `Frame.read_of_status_line` and `Frame.read_of_body_line` are the steps of reading a frame;
4. `Frame.reference` is the frame of all lines through the first that starts with an at sign, and
   `Frame.read_exact` says that reading without a deadline gives just that, and takes no octet more.
-/

namespace SearchClient

/-! ## Lines of a stream -/

namespace Stream

/-- Octets cut after each line feed: the lines, each with its line feed, and what is behind the last. -/
def cutLines : Bytes → List Bytes × Bytes
  | [] => ([], [])
  | b :: s =>
    let (lines, rest) := cutLines s
    if b = 10 then ([b] :: lines, rest)
    else
      match lines with
      | [] => ([], b :: rest)
      | line :: later => ((b :: line) :: later, rest)

/-- The lines that a stream gives: all that end in a line feed, and at the end of the stream also the
octets behind the last of them. -/
def lines (s : Stream) : List Bytes :=
  let cut := cutLines s.unread
  cut.1 ++ if s.ending = .closed ∧ cut.2 ≠ [] then [cut.2] else []

/-- The octets of a stream that belong to no line. -/
def leftover (s : Stream) : Bytes := if s.ending = .closed then [] else (cutLines s.unread).2

variable {s : Stream} {line : Bytes} {later : List Bytes} {octets rest : Bytes}

/-- A line that is cut has one line feed, at its end. -/
theorem exists_of_mem_cutLines (h : line ∈ (cutLines octets).1) :
    ∃ front, line = front ++ [10] ∧ 10 ∉ front := by
  induction octets generalizing line with
  | nil => cases h
  | cons b octets ih =>
    simp only [cutLines] at h
    split at h
    · rename_i hb
      rcases List.mem_cons.1 h with rfl | hlater
      · exact ⟨[], by rw [hb]; rfl, List.not_mem_nil⟩
      · exact ih hlater
    · rename_i hb
      split at h
      · cases h
      · rename_i first later hlines
        rw [hlines] at ih
        rcases List.mem_cons.1 h with rfl | hlater
        · obtain ⟨front, rfl, hfront⟩ := ih List.mem_cons_self
          exact ⟨b :: front, rfl, List.not_mem_cons_of_ne_of_not_mem (Ne.symm hb) hfront⟩
        · exact ih (List.mem_cons_of_mem first hlater)

theorem not_mem_cutLines (octets : Bytes) : 10 ∉ (cutLines octets).2 := by
  induction octets with
  | nil => exact List.not_mem_nil
  | cons b octets ih =>
    simp only [cutLines]
    split
    · exact ih
    · rename_i hb
      split
      · exact List.not_mem_cons_of_ne_of_not_mem (Ne.symm hb) ih
      · exact ih

theorem cutLines_of_cutLine? (h : cutLine? octets = some (line, rest)) :
    cutLines octets = (line :: (cutLines rest).1, (cutLines rest).2) := by
  induction octets generalizing line with
  | nil => cases h
  | cons b octets ih =>
    simp only [cutLine?] at h
    split at h
    · rename_i hb
      cases h
      simp [cutLines, hb]
    · rename_i hb
      obtain ⟨⟨front, _⟩, hcut, heq⟩ := Option.map_eq_some_iff.1 h
      cases heq
      simp [cutLines, hb, ih hcut]

theorem cutLines_of_cutLine?_eq_none (h : cutLine? octets = none) : cutLines octets = ([], octets) := by
  induction octets with
  | nil => rfl
  | cons b octets ih =>
    simp only [cutLine?] at h
    split at h
    · cases h
    · rename_i hb
      simp [cutLines, hb, ih (Option.map_eq_none_iff.1 h)]

/-- The stream after a line of it is read. -/
def behind (s : Stream) (line : Bytes) : Stream :=
  s.withClock (s.unread.drop line.length) s.clock.tick

/-- **A read gives the first line**, and leaves the others. -/
theorem readLine_of_lines (h : s.lines = line :: later) :
    s.readLine = (.line line, s.behind line) ∧ (s.behind line).lines = later ∧
      (s.behind line).leftover = s.leftover := by
  cases hcut : cutLine? s.unread with
  | some cut =>
    obtain ⟨first, rest⟩ := cut
    have hlines := cutLines_of_cutLine? hcut
    have hrest : s.unread.drop first.length = rest := by
      rw [append_of_cutLine? hcut, List.drop_left]
    rw [lines, hlines, List.cons_append, List.cons.injEq] at h
    obtain ⟨rfl, hlater⟩ := h
    refine ⟨?_, ?_, ?_⟩
    · rw [readLine, unread_tick, hcut, tick_eq, behind, hrest]
      rfl
    · rw [behind, hrest]
      exact hlater
    · rw [behind, hrest, leftover, leftover, hlines]
      rfl
  | none =>
    have hlines := cutLines_of_cutLine?_eq_none hcut
    rw [lines, hlines, List.nil_append] at h
    split at h
    · rename_i hend
      obtain ⟨hclosed, hunread⟩ := hend
      cases h
      have hnone : s.unread.isEmpty = false := by simpa using hunread
      simp [readLine, hcut, tick_eq, behind, hclosed, hnone, lines, leftover, withClock,
        cutLines]
    · cases h

/-- **Without a line a read gives nothing**, and takes nothing. -/
theorem readLine_of_no_lines (h : s.lines = []) :
    (s.readLine = (.finished, s.withClock s.unread s.clock.tick) ∨
      s.readLine = (.interrupted, s.withClock s.unread s.clock.tick)) ∧ s.unread = s.leftover := by
  have hcut : cutLine? s.unread = none := by
    cases hcut : cutLine? s.unread with
    | none => rfl
    | some cut =>
      rw [lines, cutLines_of_cutLine? hcut, List.cons_append] at h
      cases h
  have hlines := cutLines_of_cutLine?_eq_none hcut
  rw [lines, hlines, List.nil_append] at h
  cases hending : s.ending with
  | closed =>
    have hunread : s.unread = [] := by simpa [hending] using h
    simp [readLine, tick_eq, hending, leftover, withClock, hunread, cutLine?]
  | silent => simp [readLine, tick_eq, hending, leftover, withClock, hlines, hcut]
  | reset => simp [readLine, tick_eq, hending, leftover, withClock, hlines, hcut]

/-- A line has no line feed, or one at its end. -/
theorem exists_front (h : line ∈ s.lines) :
    ∃ front, 10 ∉ front ∧ (line = front ∨ line = front ++ [10]) := by
  rw [lines, List.mem_append] at h
  rcases h with hcut | hrest
  · obtain ⟨front, hline, hfront⟩ := exists_of_mem_cutLines hcut
    exact ⟨front, hfront, .inr hline⟩
  · split at hrest
    · exact ⟨_, not_mem_cutLines s.unread, .inl (List.mem_singleton.1 hrest)⟩
    · cases hrest

/-- The first line that starts with an at sign. -/
def statusLine? (s : Stream) : Option Bytes := s.lines.find? fun line => line.head? == some atSign

/-- The lines before the first that starts with an at sign. -/
def bodyLines (s : Stream) : List Bytes := s.lines.takeWhile fun line => line.head? != some atSign

theorem bodyLines_of_statusLine?_eq_none (h : s.statusLine? = none) : s.bodyLines = s.lines := by
  rw [statusLine?, List.find?_eq_none] at h
  refine List.takeWhile_eq_self_iff.2 ?_
  intro line hline
  simpa using h line hline

theorem bodyLines_of_body_line (h : s.lines = line :: later) (hmark : line.head? ≠ some atSign) :
    s.bodyLines = line :: (s.behind line).bodyLines := by
  simp [bodyLines, h, (readLine_of_lines h).2.1, hmark]

theorem statusLine?_of_body_line (h : s.lines = line :: later) (hmark : line.head? ≠ some atSign) :
    s.statusLine? = (s.behind line).statusLine? := by
  simp [statusLine?, h, (readLine_of_lines h).2.1, hmark]

/-- The octets of a stream are those of its first line and those behind it. -/
theorem unread_of_lines (h : s.lines = line :: later) : s.unread = line ++ (s.behind line).unread :=
  (unread_of_readLine (readLine_of_lines h).1).1

theorem mem_bodyLines (h : line ∈ s.bodyLines) : line ∈ s.lines ∧ line.head? ≠ some atSign := by
  refine ⟨(List.takeWhile_sublist _).subset h, ?_⟩
  have hopen := List.all_eq_true.1 List.all_takeWhile line h
  simpa using hopen

end Stream

/-! ## Frames -/

namespace Frame

variable {deadline : Option Binary64} {s : Stream} {line : Bytes} {later : List Bytes}

/-- An octet of a line end. -/
def isLineEnd (b : UInt8) : Bool := b == 13 || b == 10

/-- A line as text: a character for each octet, but for the line ends behind the last other one. -/
def characters (line : Bytes) : Text := (line.rdropWhile isLineEnd).map fun b => Char.ofNat b.toNat

theorem lineText_eq_characters (line : Bytes) : lineText line = characters line := by
  have hend : ∀ b, (Charset.latin1.char b == '\r' || Charset.latin1.char b == '\n') = isLineEnd b := by
    intro b
    have hreturn := Latin1.char_eq_iff b '\r'
    have hfeed := Latin1.char_eq_iff b '\n'
    rw [Bool.eq_iff_iff]
    simp [isLineEnd, hreturn, hfeed, ← UInt8.toNat_inj]
  rw [lineText, Text.stripEndBy, Latin1.decode, Charset.decode, ← List.map_reverse,
    List.dropWhile_map]
  simp only [Function.comp_def, hend, ← List.map_reverse]
  rfl

/-- The frame that a stream gives if all of its lines are looked at, and the octets behind it. -/
def reference (s : Stream) : Frame × Bytes :=
  match s.statusLine? with
  | some status =>
    ({ body := s.bodyLines.map characters, status := characters status },
      s.unread.drop (s.bodyLines ++ [status]).flatten.length)
  | none => ({ body := s.lines.map characters }, s.leftover)

/-! ### Reading line by line -/

theorem read_of_no_lines (h : s.lines = []) :
    read deadline s = ({}, s.withClock s.unread s.clock.tick) := by
  rcases (Stream.readLine_of_no_lines h).1 with hread | hread <;> rw [read_eq, hread]

theorem read_of_status_line (h : s.lines = line :: later) (hmark : line.head? = some atSign) :
    read deadline s = ({ status := characters line }, s.behind line) := by
  rw [read_of_status (Stream.readLine_of_lines h).1 ((isPrefixOf_lineText_iff line).2 hmark),
    lineText_eq_characters]

theorem isPrefixOf_lineText_of_ne (hmark : line.head? ≠ some atSign) :
    ['@'].isPrefixOf (lineText line) = false := by
  rw [← Bool.not_eq_true, isPrefixOf_lineText_iff]
  exact hmark

theorem read_of_body_line (h : s.lines = line :: later) (hmark : line.head? ≠ some atSign)
    (htime : overdue deadline (s.behind line).now = false) :
    read deadline s =
      ({ (read deadline (s.behind line)).1 with
          body := characters line :: (read deadline (s.behind line)).1.body },
        (read deadline (s.behind line)).2) := by
  have hopen := isPrefixOf_lineText_of_ne hmark
  rw [read_of_body (Stream.readLine_of_lines h).1 hopen htime, lineText_eq_characters]

/-- A line before the status line is put before the body of the others. -/
theorem reference_of_body_line (h : s.lines = line :: later) (hmark : line.head? ≠ some atSign) :
    reference s =
      ({ (reference (s.behind line)).1 with
          body := characters line :: (reference (s.behind line)).1.body },
        (reference (s.behind line)).2) := by
  obtain ⟨-, hlater, hleftover⟩ := Stream.readLine_of_lines h
  have hbody := Stream.bodyLines_of_body_line h hmark
  have hstatus := Stream.statusLine?_of_body_line h hmark
  have hunread : (s.behind line).unread = s.unread.drop line.length := rfl
  simp only [reference, hstatus, hbody, hunread, hleftover, h, hlater]
  cases (s.behind line).statusLine? with
  | none => rfl
  | some status => simp [List.drop_drop]

/-- **Reading gives what all the lines of the stream tell.** -/
theorem read_eq_reference (s : Stream) :
    ((read none s).1, (read none s).2.unread) = reference s := by
  -- by induction on the lines: each read takes the first of them
  generalize hlines : s.lines = lines
  induction lines generalizing s with
  | nil =>
    rw [read_of_no_lines hlines, reference, Stream.statusLine?, hlines,
      ← (Stream.readLine_of_no_lines hlines).2]
    rfl
  | cons line later ih =>
    by_cases hmark : line.head? = some atSign
    · rw [read_of_status_line hlines hmark]
      simp [reference, Stream.statusLine?, Stream.bodyLines, hlines, hmark, Stream.behind,
        Stream.withClock]
    · have hrest := ih (s.behind line) (Stream.readLine_of_lines hlines).2.1
      rw [read_of_body_line hlines hmark rfl, reference_of_body_line hlines hmark, ← hrest]

/-- Reading takes the octets of the body lines and of the status line, in that order, and no other. -/
theorem unread_eq (s : Stream) :
    s.unread = (s.bodyLines ++ s.statusLine?.toList).flatten ++ (read none s).2.unread := by
  -- by induction on the lines: each read takes the first of them
  generalize hlines : s.lines = lines
  induction lines generalizing s with
  | nil =>
    rw [read_of_no_lines hlines, Stream.bodyLines, Stream.statusLine?, hlines]
    rfl
  | cons line later ih =>
    have hunread := Stream.unread_of_lines hlines
    by_cases hmark : line.head? = some atSign
    · rw [read_of_status_line hlines hmark]
      simpa [Stream.bodyLines, Stream.statusLine?, hlines, hmark] using hunread
    · have hrest := ih (s.behind line) (Stream.readLine_of_lines hlines).2.1
      rw [read_of_body_line hlines hmark rfl, Stream.bodyLines_of_body_line hlines hmark,
        Stream.statusLine?_of_body_line hlines hmark]
      calc
        s.unread = line ++ (s.behind line).unread := hunread
        _ = line ++ (((s.behind line).bodyLines ++ (s.behind line).statusLine?.toList).flatten ++
              (read none (s.behind line)).2.unread) := by rw [← hrest]
        _ = _ := by simp

/-! ### Lines of a frame -/

theorem complete_iff (s : Stream) :
    (read none s).1.complete = true ↔ ∃ line ∈ s.lines, line.head? = some atSign := by
  have hframe : (read none s).1 = (reference s).1 := congrArg Prod.fst (read_eq_reference s)
  rw [hframe, reference]
  cases hstatus : s.statusLine? with
  | none =>
    rw [Stream.statusLine?, List.find?_eq_none] at hstatus
    have hnone : ¬ ∃ line ∈ s.lines, line.head? = some atSign := by
      rintro ⟨line, hline, hmark⟩
      exact hstatus line hline (beq_iff_eq.2 hmark)
    exact iff_of_false (by simp [complete]) hnone
  | some status =>
    have hmem : status ∈ s.lines := List.mem_of_find?_eq_some hstatus
    have hmark : status.head? = some atSign := by simpa using List.find?_some hstatus
    refine iff_of_true ?_ ⟨status, hmem, hmark⟩
    simp only [complete, ← lineText_eq_characters]
    exact (isPrefixOf_lineText_iff status).2 hmark

theorem body_eq (s : Stream) : (read none s).1.body = s.bodyLines.map characters := by
  have hframe : (read none s).1 = (reference s).1 := congrArg Prod.fst (read_eq_reference s)
  rw [hframe, reference]
  cases hstatus : s.statusLine? with
  | none => rw [Stream.bodyLines_of_statusLine?_eq_none hstatus]
  | some status => rfl

theorem head?_characters (line : Bytes) :
    (characters line).head? = some '@' ↔ line.head? = some atSign := by
  rw [← isPrefixOf_lineText_iff, lineText_eq_characters, List.isPrefixOf_iff_prefix]
  cases characters line <;> simp [eq_comm]

/-- The only line feed of a line is at its end, where it is dropped. -/
theorem not_mem_characters (h : line ∈ s.lines) : '\n' ∉ characters line := by
  obtain ⟨front, hfront, hline⟩ := Stream.exists_front h
  have hkept : line.rdropWhile isLineEnd <+: front := by
    rcases hline with rfl | rfl
    · exact List.rdropWhile_prefix isLineEnd line
    · rw [List.rdropWhile_concat_pos isLineEnd front 10 rfl]
      exact List.rdropWhile_prefix isLineEnd front
  intro hfeed
  obtain ⟨b, hb, hchar⟩ := List.mem_map.1 hfeed
  have hb10 : b = 10 := UInt8.toNat_inj.1 ((Latin1.char_eq_iff b '\n').1 hchar)
  exact hfront (hkept.subset (hb10 ▸ hb))

/-- A line is blank if it has octets of line ends only. -/
theorem characters_eq_nil_iff (line : Bytes) : characters line = [] ↔ line.all isLineEnd = true := by
  rw [characters, List.map_eq_nil_iff, List.rdropWhile_eq_nil_iff, List.all_eq_true]

/-- **A frame holds exactly the lines of the stream through its status line.** Reading without a
deadline gives the frame of all lines that the stream gives, cut at each line feed and looked at
together: the lines before the first that starts with an at sign, and that line, each without the line
ends at its end. What is behind the status line is left unread, to the octet. Blank lines are lines of
the body; no line of it starts with an at sign or has a line feed. -/
theorem read_exact (s : Stream) :
    ((read none s).1, (read none s).2.unread) = reference s ∧
      ((read none s).1.complete = true ↔ ∃ line ∈ s.lines, line.head? = some atSign) ∧
      (∀ text ∈ (read none s).1.body, text.head? ≠ some '@' ∧ '\n' ∉ text) ∧
      (read none s).1.body.count [] = s.bodyLines.countP fun line => line.all isLineEnd := by
  refine ⟨read_eq_reference s, complete_iff s, ?_, ?_⟩
  · intro text htext
    rw [body_eq] at htext
    obtain ⟨line, hline, rfl⟩ := List.mem_map.1 htext
    obtain ⟨hmem, hopen⟩ := Stream.mem_bodyLines hline
    exact ⟨fun hmark => hopen ((head?_characters line).1 hmark), not_mem_characters hmem⟩
  · rw [body_eq, List.count, List.countP_map]
    refine List.countP_congr ?_
    intro line _
    rw [Function.comp_apply, beq_iff_eq, characters_eq_nil_iff]

/-- An at sign behind a carriage return starts no status line, and a blank line ends nothing. -/
example :
    reference { unread := Latin1.encode "\r@1\n\n@0-Ok\r\nx".toList } =
      ({ body := ["\r@1".toList, []], status := "@0-Ok".toList }, Latin1.encode ['x']) := by
  decide

end Frame
end SearchClient
