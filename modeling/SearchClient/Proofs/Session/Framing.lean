import SearchClient.Session.Frame

/-!
# Framing of replies

A reply in its written form is body lines and a status line, each with its line feed. This module
says what reading makes of it: `Frame.read` gives back the lines of the reply, leaves exactly the
octets behind it unread, and has taken one read for each line. The clock goes its own way, so it
is set apart first: `Clock` is what a read changes of a stream whatever its octets are.

1. `Stream.readLine_of_line` is one read of a whole line;
2. `Frame.read_lines` is the reading of lines that come in time, whatever octets end them, and
   `Frame.lines_of_reply` says that those of a reply are read as they stand;
3. `Frame.complete_of_status_ne_nil` says that a status is empty or starts with an at sign.
-/

namespace SearchClient

/-! ## The clock -/

/-- The clock of a stream and how it goes on. -/
structure Clock where
  now : Binary64
  pace : Pace

namespace Clock

/-- The clock after one read. -/
def tick (k : Clock) : Clock :=
  match k.pace with
  | .steady delay => { k with now := k.now.add delay }
  | .scheduled [] => k
  | .scheduled (instant :: later) => { now := instant, pace := .scheduled later }

/-- The clock after `n` reads. -/
def ticks : Nat → Clock → Clock
  | 0, k => k
  | n + 1, k => ticks n k.tick

end Clock

namespace Stream

def clock (s : Stream) : Clock := { now := s.now, pace := s.pace }

/-- The stream with other octets unread and another clock. -/
def withClock (unread : Bytes) (k : Clock) (s : Stream) : Stream :=
  { s with unread := unread, now := k.now, pace := k.pace }

theorem tick_eq (s : Stream) : s.tick = s.withClock s.unread s.clock.tick := by
  rcases s with ⟨unread, ending, now, pace⟩
  unfold tick Clock.tick withClock clock
  rcases pace with delay | (_ | ⟨instant, later⟩) <;> rfl

theorem cutLine?_of_line {line : Bytes} (h : 10 ∉ line) (rest : Bytes) :
    cutLine? (line ++ 10 :: rest) = some (line ++ [10], rest) := by
  induction line with
  | nil => simp [cutLine?]
  | cons b line ih =>
    simp only [List.mem_cons, not_or] at h
    rw [List.cons_append, cutLine?, if_neg (Ne.symm h.1), ih h.2]
    rfl

/-- A whole line is given with its line feed, and what stands behind it is left. -/
theorem readLine_of_line {s : Stream} {line rest : Bytes} (h : 10 ∉ line)
    (hs : s.unread = line ++ 10 :: rest) :
    s.readLine = (.line (line ++ [10]), s.withClock rest s.clock.tick) := by
  have hcut : cutLine? s.tick.unread = some (line ++ [10], rest) := by
    rw [unread_tick, hs, cutLine?_of_line h]
  rw [readLine, hcut, tick_eq]
  rfl

end Stream

/-! ## Lines of a reply -/

/-- The octet of an at sign. -/
def atSign : UInt8 := 64

/-- Octets that are one line, and are not changed when their line end is dropped. -/
def PlainLine (line : Bytes) : Prop := 10 ∉ line ∧ line.getLast? ≠ some 13

instance (line : Bytes) : Decidable (PlainLine line) :=
  inferInstanceAs (Decidable (_ ∧ _))

/-- A reply of the daemon and how it comes: body lines and the status line that ends them. -/
structure Reply where
  body : List Bytes
  status : Bytes
  ending : Ending := .silent
  pace : Pace := .steady .zero
  plain_body : ∀ line ∈ body, PlainLine line := by decide
  open_body : ∀ line ∈ body, line.head? ≠ some atSign := by decide
  plain_status : PlainLine status := by decide
  marked_status : status.head? = some atSign := by decide

namespace Reply

/-- Lines as they are written, each with its line feed. -/
def written (lines : List Bytes) : Bytes := lines.flatMap fun line => line ++ [10]

/-- The octets of a reply. -/
def octets (r : Reply) : Bytes := written r.body ++ (r.status ++ [10])

/-- The lines of a reply as text. -/
def frame (r : Reply) : Frame := { body := r.body.map Latin1.decode, status := Latin1.decode r.status }

/-- No body line of the reply is read after the deadline. -/
def InTime (deadline : Option Binary64) (k : Clock) (r : Reply) : Prop :=
  ∀ n < r.body.length, Frame.overdue deadline (k.ticks (n + 1)).now = false

instance (deadline : Option Binary64) (k : Clock) (r : Reply) : Decidable (r.InTime deadline k) :=
  inferInstanceAs (Decidable (∀ n < r.body.length, _))

end Reply

namespace Frame

theorem lineText_eq (line : Bytes) :
    lineText (line ++ [10]) =
      Text.stripEndBy (fun c => c == '\r' || c == '\n') (Latin1.decode line) := by
  have hdecode : Latin1.decode (line ++ [10]) = Latin1.decode line ++ ['\n'] := by
    simp only [Latin1.decode, Charset.decode, List.map_append]
    rfl
  rw [lineText, hdecode, Text.stripEndBy_concat, if_pos (by decide)]

theorem lineText_of_plain {line : Bytes} (h : PlainLine line) :
    lineText (line ++ [10]) = Latin1.decode line := by
  rw [lineText_eq]
  apply Text.stripEndBy_eq_self
  intro c hc
  simp only [Latin1.decode, Charset.decode, List.getLast?_map, Option.map_eq_some_iff] at hc
  rcases hc with ⟨b, hb, rfl⟩
  -- the last octet is neither of the two that are dropped
  have h10 : b ≠ 10 := fun heq => h.1 (heq ▸ List.mem_of_getLast? hb)
  have h13 : b ≠ 13 := fun heq => h.2 (heq ▸ hb)
  simp only [Bool.or_eq_false_iff, beq_eq_false_iff_ne, ne_eq, Latin1.char_eq_iff]
  exact ⟨fun heq => h13 (UInt8.toNat_inj.1 heq), fun heq => h10 (UInt8.toNat_inj.1 heq)⟩

theorem isPrefixOf_decode (line : Bytes) :
    ['@'].isPrefixOf (Latin1.decode line) = true ↔ line.head? = some atSign := by
  cases line with
  | nil => simp [Latin1.decode, Charset.decode]
  | cons b line =>
    have hb : '@' = Charset.latin1.char b ↔ b = atSign := by
      rw [eq_comm, Latin1.char_eq_iff, ← UInt8.toNat_inj]
      rfl
    simp [Latin1.decode, Charset.decode, List.isPrefixOf, hb]

/-- The line end that is dropped does not reach an at sign at the start. -/
theorem isPrefixOf_lineText_iff (octets : Bytes) :
    ['@'].isPrefixOf (lineText octets) = true ↔ octets.head? = some atSign := by
  rw [lineText, ← isPrefixOf_decode, List.isPrefixOf_iff_prefix, List.isPrefixOf_iff_prefix]
  constructor
  · exact fun h => h.trans (Text.stripEndBy_isPrefix _ _)
  · rintro ⟨rest, hrest⟩
    rw [← hrest, List.singleton_append, Text.stripEndBy_cons (by decide)]
    exact List.prefix_append ['@'] _

theorem isPrefixOf_lineText (line : Bytes) :
    ['@'].isPrefixOf (lineText (line ++ [10])) = true ↔ line.head? = some atSign := by
  rw [isPrefixOf_lineText_iff]
  cases line with
  | nil => decide
  | cons b line => rfl

/-! ## Reading -/

theorem read_eq (deadline : Option Binary64) (s : Stream) :
    read deadline s =
      match s.readLine with
      | (.line octets, s') =>
        if ['@'].isPrefixOf (lineText octets) then ({ status := lineText octets }, s')
        else if overdue deadline s'.now then ({ body := [lineText octets] }, s')
        else
          ({ (read deadline s').1 with body := lineText octets :: (read deadline s').1.body },
            (read deadline s').2)
      | (.finished, s') => ({}, s')
      | (.interrupted, s') => ({}, s') := by
  rw [read]
  split <;> rename_i hread <;> simp only [hread]

theorem read_of_status {deadline : Option Binary64} {s s' : Stream} {octets : Bytes}
    (hread : s.readLine = (.line octets, s')) (hmark : ['@'].isPrefixOf (lineText octets) = true) :
    read deadline s = ({ status := lineText octets }, s') := by
  rw [read_eq, hread]
  exact if_pos hmark

theorem read_of_body {deadline : Option Binary64} {s s' : Stream} {octets : Bytes}
    (hread : s.readLine = (.line octets, s')) (hmark : ['@'].isPrefixOf (lineText octets) = false)
    (htime : overdue deadline s'.now = false) :
    read deadline s =
      ({ (read deadline s').1 with body := lineText octets :: (read deadline s').1.body },
        (read deadline s').2) := by
  rw [read_eq, hread]
  simp [hmark, htime]

/-- Reading body lines and a status line: the reading stops behind the status line, whatever
follows it. -/
theorem read_lines {deadline : Option Binary64} {status rest : Bytes} (hstatus : 10 ∉ status)
    (hmark : status.head? = some atSign) (body : List Bytes) (hbody : ∀ line ∈ body, 10 ∉ line)
    (hopen : ∀ line ∈ body, line.head? ≠ some atSign) (s : Stream)
    (hs : s.unread = Reply.written body ++ (status ++ 10 :: rest))
    (htime : ∀ n < body.length, overdue deadline (s.clock.ticks (n + 1)).now = false) :
    read deadline s =
      ({ body := body.map fun line => lineText (line ++ [10]), status := lineText (status ++ [10]) },
        s.withClock rest (s.clock.ticks (body.length + 1))) := by
  induction body generalizing s with
  | nil =>
    have hread : s.readLine = (.line (status ++ [10]), s.withClock rest s.clock.tick) :=
      Stream.readLine_of_line hstatus hs
    rw [read_of_status hread ((isPrefixOf_lineText status).2 hmark)]
    rfl
  | cons line body ih =>
    have hline : ['@'].isPrefixOf (lineText (line ++ [10])) = false := by
      rw [← Bool.not_eq_true, isPrefixOf_lineText]
      exact hopen line (by simp)
    -- the hypothesis is about the stream behind the first line, with its clock one read on
    let s' := s.withClock (Reply.written body ++ (status ++ 10 :: rest)) s.clock.tick
    have hread : s.readLine = (.line (line ++ [10]), s') := by
      apply Stream.readLine_of_line (hbody line (by simp))
      rw [hs, Reply.written, List.flatMap_cons]
      simp [Reply.written]
    have hrest := ih (fun l hl => hbody l (by simp [hl])) (fun l hl => hopen l (by simp [hl])) s' rfl
      (fun n hn => htime (n + 1) (by simpa using hn))
    rw [read_of_body hread hline (htime 0 (by simp)), hrest]
    rfl

/-- The lines of a reply are not changed by dropping their line ends. -/
theorem lines_of_reply (r : Reply) :
    (r.body.map fun line => lineText (line ++ [10])) = r.frame.body ∧
      lineText (r.status ++ [10]) = r.frame.status :=
  ⟨List.map_congr_left fun line hline => lineText_of_plain (r.plain_body line hline),
    lineText_of_plain r.plain_status⟩

/-- The status of a frame is empty unless the status line came. -/
theorem complete_of_status_ne_nil (deadline : Option Binary64) (s : Stream)
    (h : (read deadline s).1.status ≠ []) : (read deadline s).1.complete = true := by
  -- every line that is read shortens what is unread
  induction hn : s.unread.length using Nat.strongRecOn generalizing s with
  | ind n ih =>
    rw [read_eq] at h ⊢
    rcases hread : s.readLine with ⟨octets | - | -, s'⟩
    · simp only [hread] at h ⊢
      split at h
      · rename_i hmark
        simp [hmark, complete]
      · split at h
        · exact absurd rfl h
        · have hlt := Stream.length_unread_of_readLine hread
          have := ih s'.unread.length (by omega) s' h rfl
          simp_all [complete]
    · exact absurd (by simp [hread]) h
    · exact absurd (by simp [hread]) h

end Frame
end SearchClient
