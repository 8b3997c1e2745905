import SearchClient.Proofs.Session.Effects
import SearchClient.Proofs.Session.Reading

/-!
# Replies and the deadline

The clock is looked at after each body line, and nowhere else. So a body line that is late ends the
reading, while a status line is taken whenever it comes.

1. `Frame.BodyInTime` says that no body line of a stream is read after the deadline;
2. `Frame.read_cases` says what reading by a deadline comes to: what it is without one, or the body
   through the first late line;
3. `Frame.read_cut_short` compares the two readings octet by octet: a deadline changes nothing or cuts
   the reply behind that line;
4. `Frame.complete_in_time` says what a complete frame tells about the clock, and what becomes of the
   session.
-/

namespace SearchClient

namespace Stream

/-- The stream after some lines of it are read. -/
def behindLines (s : Stream) (lines : List Bytes) : Stream :=
  s.withClock (s.unread.drop lines.flatten.length) (s.clock.ticks lines.length)

theorem behindLines_cons (s : Stream) (line : Bytes) (lines : List Bytes) :
    s.behindLines (line :: lines) = (s.behind line).behindLines lines := by
  simp [behindLines, behind, withClock, clock, Clock.ticks, List.drop_drop]

end Stream

namespace Frame

variable {deadline : Option Binary64} {s : Stream} {line : Bytes} {later : List Bytes}

/-- No body line of a stream is read after the deadline. -/
def BodyInTime (deadline : Option Binary64) (s : Stream) : Prop :=
  ∀ n < s.bodyLines.length, overdue deadline (s.clock.ticks (n + 1)).now = false

instance (deadline : Option Binary64) (s : Stream) : Decidable (BodyInTime deadline s) :=
  inferInstanceAs (Decidable (∀ n < s.bodyLines.length, _))

/-- A body line is the first that is read after the deadline. -/
structure FirstLate (deadline : Option Binary64) (s : Stream) (n : Nat) : Prop where
  lt_length : n < s.bodyLines.length
  in_time : ∀ m < n, overdue deadline (s.clock.ticks (m + 1)).now = false
  late : overdue deadline (s.clock.ticks (n + 1)).now = true

theorem FirstLate.not_bodyInTime {n : Nat} (h : FirstLate deadline s n) : ¬ BodyInTime deadline s := by
  intro hbody
  have htime := hbody n h.lt_length
  rw [h.late] at htime
  cases htime

theorem read_of_late_line (h : s.lines = line :: later) (hmark : line.head? ≠ some atSign)
    (hlate : overdue deadline (s.behind line).now = true) :
    read deadline s = ({ body := [characters line] }, s.behind line) := by
  have hopen := isPrefixOf_lineText_of_ne hmark
  rw [read_eq, (Stream.readLine_of_lines h).1, ← lineText_eq_characters]
  simp [hopen, hlate]

theorem bodyInTime_of_no_body (h : s.bodyLines = []) : BodyInTime deadline s := by
  intro n hn
  rw [h] at hn
  exact absurd hn (Nat.not_lt_zero n)

theorem BodyInTime.cons (h : BodyInTime deadline (s.behind line))
    (hbody : s.bodyLines = line :: (s.behind line).bodyLines)
    (htime : overdue deadline (s.behind line).now = false) : BodyInTime deadline s := by
  intro n hn
  rw [hbody] at hn
  cases n with
  | zero => exact htime
  | succ n => exact h n (Nat.lt_of_succ_lt_succ hn)

theorem FirstLate.cons {n : Nat} (h : FirstLate deadline (s.behind line) n)
    (hbody : s.bodyLines = line :: (s.behind line).bodyLines)
    (htime : overdue deadline (s.behind line).now = false) : FirstLate deadline s (n + 1) where
  lt_length := hbody ▸ Nat.succ_lt_succ h.lt_length
  in_time := by
    intro m hm
    cases m with
    | zero => exact htime
    | succ m => exact h.in_time m (Nat.lt_of_succ_lt_succ hm)
  late := h.late

/-- **Reading by a deadline** gives what reading without one does if no body line is late, and
otherwise the body through the first late line. -/
theorem read_cases (deadline : Option Binary64) (s : Stream) :
    BodyInTime deadline s ∧ read deadline s = read none s ∨
      ∃ n, FirstLate deadline s n ∧
        read deadline s =
          ({ body := (s.bodyLines.take (n + 1)).map characters },
            s.behindLines (s.bodyLines.take (n + 1))) := by
  -- by induction on the lines, with the clock one read on behind each of them
  generalize hlines : s.lines = lines
  induction lines generalizing s with
  | nil =>
    have hbody : s.bodyLines = [] := by simp [Stream.bodyLines, hlines]
    exact .inl ⟨bodyInTime_of_no_body hbody, by rw [read_of_no_lines hlines, read_of_no_lines hlines]⟩
  | cons line later ih =>
    by_cases hmark : line.head? = some atSign
    · -- the clock is not looked at
      have hbody : s.bodyLines = [] := by simp [Stream.bodyLines, hlines, hmark]
      refine .inl ⟨bodyInTime_of_no_body hbody, ?_⟩
      rw [read_of_status_line hlines hmark, read_of_status_line hlines hmark]
    · have hbody := Stream.bodyLines_of_body_line hlines hmark
      cases htime : overdue deadline (s.behind line).now with
      | true =>
        refine .inr ⟨0, ⟨by simp [hbody], fun m hm => absurd hm (Nat.not_lt_zero m), htime⟩, ?_⟩
        rw [read_of_late_line hlines hmark htime, hbody]
        simp [Stream.behindLines, Stream.behind, Clock.ticks]
      | false =>
        rw [read_of_body_line hlines hmark htime, read_of_body_line hlines hmark rfl]
        rcases ih (s.behind line) (Stream.readLine_of_lines hlines).2.1 with
          ⟨hrest, hread⟩ | ⟨n, hfirst, hread⟩
        · exact .inl ⟨hrest.cons hbody htime, by rw [hread]⟩
        · refine .inr ⟨n + 1, hfirst.cons hbody htime, ?_⟩
          rw [hread, hbody, List.take_succ_cons, Stream.behindLines_cons]
          rfl

/-! ### What a deadline leaves unread -/

theorem length_body (s : Stream) : (read none s).1.body.length = s.bodyLines.length := by
  rw [body_eq, List.length_map]

/-- The octets of a stream, with its body lines in two parts. -/
theorem unread_eq_take (s : Stream) (n : Nat) :
    s.unread = (s.bodyLines.take n).flatten ++
      ((s.bodyLines.drop n ++ s.statusLine?.toList).flatten ++ (read none s).2.unread) := by
  rw [← List.append_assoc, ← List.flatten_append, ← List.append_assoc, List.take_append_drop]
  exact unread_eq s

/-- What is unread behind some of the body lines: the others, the status line, and what is behind. -/
theorem unread_behindLines (s : Stream) (n : Nat) :
    (s.behindLines (s.bodyLines.take n)).unread =
      (s.bodyLines.drop n ++ s.statusLine?.toList).flatten ++ (read none s).2.unread := by
  have hbehind : (s.behindLines (s.bodyLines.take n)).unread =
      s.unread.drop (s.bodyLines.take n).flatten.length := rfl
  rw [hbehind, unread_eq_take s n, List.drop_left]

/-- **A deadline only cuts a reply short.** Compared with the reading of the same stream without a
deadline: either no body line of that reading is late, and then the frame and what is left of the
stream are the same; or the frame has no status, its body ends in the first late line, and all octets
behind that line are left unread, those of the other body lines and of the status line first. So no
line of the body but its last can be late. How the clock goes does not matter. -/
theorem read_cut_short (deadline : Option Binary64) (s : Stream) :
    let whole := read none s
    let cut := read deadline s
    let late (n : Nat) : Bool := overdue deadline (s.clock.ticks (n + 1)).now
    ((∀ n < whole.1.body.length, late n = false) ∧ cut = whole ∨
      ∃ n < whole.1.body.length, (∀ m < n, late m = false) ∧ late n = true ∧
        cut.1.complete = false ∧ cut.1.status = [] ∧ cut.1.body = whole.1.body.take (n + 1) ∧
        cut.2.clock = s.clock.ticks (n + 1) ∧
        s.unread = (s.bodyLines.take (n + 1)).flatten ++ cut.2.unread ∧
        cut.2.unread =
          (s.bodyLines.drop (n + 1) ++ s.statusLine?.toList).flatten ++ whole.2.unread) ∧
      ∀ m, m + 1 < cut.1.body.length → late m = false := by
  intro whole cut late
  have hlength : whole.1.body.length = s.bodyLines.length := length_body s
  rcases read_cases deadline s with ⟨hbody, hread⟩ | ⟨n, hfirst, hread⟩
  · have hcut : cut = whole := hread
    refine ⟨.inl ⟨?_, hcut⟩, ?_⟩
    · intro n hn
      exact hbody n (hlength ▸ hn)
    · intro m hm
      rw [hcut, hlength] at hm
      exact hbody m (by omega)
  · have hcut : cut = ({ body := (s.bodyLines.take (n + 1)).map characters },
        s.behindLines (s.bodyLines.take (n + 1))) := hread
    have htaken : (s.bodyLines.take (n + 1)).length = n + 1 :=
      List.length_take_of_le hfirst.lt_length
    refine ⟨.inr ⟨n, hlength ▸ hfirst.lt_length, hfirst.in_time, hfirst.late, ?_⟩, ?_⟩
    · rw [hcut]
      refine ⟨rfl, rfl, ?_, ?_, ?_, unread_behindLines s (n + 1)⟩
      · rw [body_eq, List.map_take]
      · show s.clock.ticks (s.bodyLines.take (n + 1)).length = _
        rw [htaken]
      · rw [unread_behindLines]
        exact unread_eq_take s (n + 1)
    · intro m hm
      have hbody : cut.1.body.length = n + 1 := by rw [hcut, List.length_map, htaken]
      exact hfirst.in_time m (by omega)

theorem complete_by_iff (deadline : Option Binary64) (s : Stream) :
    (read deadline s).1.complete = true ↔
      BodyInTime deadline s ∧ ∃ line ∈ s.lines, line.head? = some atSign := by
  rcases read_cases deadline s with ⟨hbody, hread⟩ | ⟨n, hfirst, hread⟩
  · rw [hread, complete_iff, and_iff_right hbody]
  · refine iff_of_false ?_ fun h => hfirst.not_bodyInTime h.1
    rw [hread]
    simp [complete]

end Frame

/-! ## Requests -/

namespace Client

variable {c d : Client} {line : Text}

/-- **A request whose line gets through is answered by what is read by its deadline**, and the session
stays ready exactly if that is a complete frame. -/
theorem execute_of_through (hready : c.ready = true) (hsend : c.send line = (true, d)) :
    (c.execute line).1 = (Frame.read d.deadline d.network.stream).1 ∧
      (c.execute line).2.phase =
        if (Frame.read d.deadline d.network.stream).1.complete then .ready else .closed := by
  have hask : c.ask line = (some d.readFrame.1, d.readFrame.2) := by
    rw [ask, hsend]
    rfl
  have hphase : d.readFrame.2.phase = .ready := by
    have hkept := (kept_ask line c).phase
    rw [hask] at hkept
    exact hkept.trans (beq_iff_eq.1 hready)
  have hframe : d.readFrame.1 = (Frame.read d.deadline d.network.stream).1 := rfl
  rw [execute_of_ready hready, hask, ← hframe]
  refine ⟨rfl, ?_⟩
  cases hcomplete : d.readFrame.1.complete with
  | true => simp [settle, hcomplete, hphase]
  | false => simp [settle, hcomplete]

end Client

namespace Frame

/-- **A complete frame has a body in time.** A reading by a deadline gives a complete frame exactly if a
status line comes and no body line before it is read after the deadline, and then the frame is what is
read without a deadline; otherwise its status is empty. When the status line itself is read does not
matter. A request is answered by such a frame, and the session closes if it is not complete. -/
theorem complete_in_time (deadline : Option Binary64) (s : Stream) :
    ((read deadline s).1.complete = true ↔
        BodyInTime deadline s ∧ ∃ line ∈ s.lines, line.head? = some atSign) ∧
      ((read deadline s).1.complete = true ∧ read deadline s = read none s ∨
        (read deadline s).1.complete = false ∧ (read deadline s).1.status = []) ∧
      ∀ (c d : Client) (line : Text), c.ready = true → c.send line = (true, d) →
        d.deadline = deadline → d.network.stream = s →
        (c.execute line).1 = (read deadline s).1 ∧
          (c.execute line).2.phase = if (read deadline s).1.complete then .ready else .closed := by
  refine ⟨complete_by_iff deadline s, ?_, ?_⟩
  · cases hcomplete : (read deadline s).1.complete with
    | true =>
      have hbody := ((complete_by_iff deadline s).1 hcomplete).1
      rcases read_cases deadline s with ⟨-, hread⟩ | ⟨n, hfirst, -⟩
      · exact .inl ⟨rfl, hread⟩
      · exact absurd hbody hfirst.not_bodyInTime
    | false =>
      refine .inr ⟨rfl, ?_⟩
      by_contra hstatus
      rw [complete_of_status_ne_nil deadline s hstatus] at hcomplete
      cases hcomplete
  · rintro c d line hready hsend rfl rfl
    exact Client.execute_of_through hready hsend

/-- A ready session that waits 30 seconds for a reply, with a daemon that takes 20 for each line of one. -/
def slow (octets : Bytes) : Client where
  account :=
    { host := "localhost".toList
      port := 1234
      username := "alice".toList
      password := "secret".toList
      connectTimeout := none
      readTimeout := some (.ofInt 30) }
  network := { daemon := { turns := [{ octets, pace := .steady (.ofInt 20) }] } }
  phase := .ready
  held := [.stream, .socket]

/-- The second body line is late, so the status line is not read any more. -/
theorem complete_in_time_sample :
    ∃ c d : Client, c.ready = true ∧ c.send "@summary".toList = (true, d) ∧
      d.network.stream.unread = Latin1.encode "a\nb\n@0-Ok\n".toList ∧
      (c.execute "@summary".toList).1.status = [] ∧
      (c.execute "@summary".toList).2.phase = .closed := by
  let c := slow (Latin1.encode "a\nb\n@0-Ok\n".toList)
  let d := (c.send "@summary".toList).2
  obtain ⟨-, hstatus, hrequest⟩ := complete_in_time d.deadline d.network.stream
  obtain ⟨hframe, hphase⟩ := hrequest c d "@summary".toList rfl rfl rfl rfl
  have hlate : (read d.deadline d.network.stream).1.complete = false := by decide +kernel
  rw [hlate] at hphase hstatus
  refine ⟨c, d, rfl, rfl, by decide +kernel, ?_, hphase⟩
  rw [hframe]
  exact (hstatus.resolve_left fun h => Bool.false_ne_true h.1).2

/-- A stream that takes 20 seconds for each line. -/
def trickling (octets : Bytes) : Stream := { unread := octets, pace := .steady (.ofInt 20) }

def lateStatus : Bytes := Latin1.encode "a\n@0-Ok\n".toList

/-- A status line that is read after 40 of 30 seconds is taken all the same, and the session goes on. -/
theorem late_status_line_completes :
    (read (some (.ofInt 30)) (trickling lateStatus)).1 =
        { body := ["a".toList], status := "@0-Ok".toList } ∧
      overdue (some (.ofInt 30)) ((trickling lateStatus).clock.ticks 2).now = true ∧
      ((slow lateStatus).execute "@summary".toList).1.complete = true ∧
      ((slow lateStatus).execute "@summary".toList).2.phase = .ready := by
  decide +kernel

end Frame
end SearchClient
