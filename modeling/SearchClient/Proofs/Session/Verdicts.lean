import SearchClient.Proofs.Session.Timely
import SearchClient.Proofs.Session.Transcript

/-!
# How exchanges end

A line handed to a session that is ready ends in one of three ways. A whole frame answers it, and the
session goes on; or the answer breaks off, and the session closes without a status; or the line does
not get through, and the session closes with the status of one without a connection. Frame, phase,
status, what is sent and what is read then all tell the same: `Verdict.Fits` says what they tell, and
`Client.exchange_ends` that they always fit one verdict and no other.

1. `Frame.Interrupted` are the lines that are read when a reply breaks off, and `Frame.read_ends` says
   that a reading gives a whole frame or these;
2. `Verdict.eq_of_fits` says that phase and frame tell the verdict;
3. `Client.fits_answered`, `Client.fits_brokenOff` and `Client.fits_unsent` are the three ways.
-/

namespace SearchClient

/-! ## Interrupted replies -/

namespace Frame

variable {deadline : Option Binary64} {s : Stream} {f : Frame}

/-- The lines that are read of a reply that breaks off: all that the stream gives, if none of them is a
status line and none is late, and otherwise the body lines through the first late one. -/
def Interrupted (deadline : Option Binary64) (s : Stream) (lines : List Bytes) : Prop :=
  s.statusLine? = none ∧ BodyInTime deadline s ∧ lines = s.lines ∨
    ∃ n, FirstLate deadline s n ∧ lines = s.bodyLines.take (n + 1)

theorem complete_iff_head? : f.complete = true ↔ f.status.head? = some '@' := by
  rw [complete, List.isPrefixOf_iff_prefix]
  cases f.status <;> simp [eq_comm]

theorem head?_status_of_statusLine? {line : Bytes} (h : s.statusLine? = some line) :
    (characters line).head? = some '@' := by
  rw [head?_characters]
  simpa using List.find?_some h

/-- **A reading gives a whole frame, or the lines that come before an interruption.** -/
theorem read_ends (deadline : Option Binary64) (s : Stream) :
    (read deadline s).1.complete = true ∧
        ((read deadline s).1, (read deadline s).2.unread) = reference s ∨
      (read deadline s).1.status = [] ∧ ∃ lines, Interrupted deadline s lines ∧
        (read deadline s).1.body = lines.map characters ∧
        s.unread = lines.flatten ++ (read deadline s).2.unread := by
  rcases read_cases deadline s with ⟨hbody, hread⟩ | ⟨n, hfirst, hread⟩
  · -- nothing is late, so the reading is that of the octets alone
    have hreference := read_eq_reference s
    rw [hread]
    cases hstatus : s.statusLine? with
    | some line =>
      have hframe : (read none s).1.status = characters line := by
        rw [congrArg Prod.fst hreference, reference, hstatus]
      refine .inl ⟨?_, hreference⟩
      rw [complete_iff_head?, hframe]
      exact head?_status_of_statusLine? hstatus
    | none =>
      have hframe : (read none s).1 = { body := s.lines.map characters } := by
        rw [congrArg Prod.fst hreference, reference, hstatus]
      have hunread := unread_eq s
      rw [hstatus, Stream.bodyLines_of_statusLine?_eq_none hstatus, Option.toList_none,
        List.append_nil] at hunread
      refine .inr ⟨by rw [hframe], s.lines, .inl ⟨hstatus, hbody, rfl⟩, by rw [hframe], hunread⟩
  · rw [hread]
    refine .inr ⟨rfl, _, .inr ⟨n, hfirst, rfl⟩, rfl, ?_⟩
    rw [unread_behindLines]
    exact unread_eq_take s (n + 1)

end Frame

/-! ## Verdicts -/

/-- How an exchange ends. -/
inductive Verdict where
  /-- A whole frame answers the line. -/
  | answered
  /-- The answer breaks off. -/
  | brokenOff
  /-- The line does not get through. -/
  | unsent
  deriving DecidableEq

/-- The line was sent, and the session goes on with the status of the frame that answers it. -/
structure Answered (line : Text) (frame : Frame) (c d : Client) : Prop where
  complete : frame.complete = true
  phase : d.phase = .ready
  status : d.status = frame.status
  marked : d.status.head? = some '@'
  sent : d.sent = c.sent ++ [wire line]

/-- The line was sent, and the session ends without a status: the frame has the lines that came before
the interruption, and no more than these were read. -/
structure BrokenOff (line : Text) (frame : Frame) (c d : Client) : Prop where
  incomplete : frame.complete = false
  frame_status : frame.status = []
  phase : d.phase = .closed
  status : d.status = []
  sent : d.sent = c.sent ++ [wire line]
  read : ∃ lines, Frame.Interrupted c.deadline c.answering lines ∧
    frame.body = lines.map Frame.characters ∧
    c.answering.unread = lines.flatten ++ d.network.stream.unread

/-- The line has a line break, or the daemon breaks it. The session ends as one without a connection,
and nothing was read. -/
structure Unsent (line : Text) (frame : Frame) (c d : Client) : Prop where
  cause : '\n' ∈ line ∨ '\r' ∈ line ∨ c.network.nextTurn.fault ≠ none
  frame_eq : frame = { body := [], status := "@1-Not connected.".toList }
  phase : d.phase = .closed
  status : d.status = "@1-Not connected.".toList
  stream : d.network.stream = c.network.stream

namespace Verdict

variable {v : Verdict} {line : Text} {frame : Frame} {c d : Client}

/-- What the frame given for a line and the client after it tell of the exchange, if it ended so. -/
def Fits (line : Text) (frame : Frame) (c d : Client) : Verdict → Prop
  | answered => Answered line frame c d
  | brokenOff => BrokenOff line frame c d
  | unsent => Unsent line frame c d

/-- The verdict that the frame and the phase tell. -/
def tell (frame : Frame) (d : Client) : Verdict :=
  if d.phase = .ready then answered else if frame.complete then unsent else brokenOff

theorem eq_of_fits (h : v.Fits line frame c d) : v = tell frame d := by
  cases v with
  | answered =>
    have hanswered : Answered line frame c d := h
    rw [tell, if_pos hanswered.phase]
  | brokenOff =>
    have hbroken : BrokenOff line frame c d := h
    rw [tell, hbroken.phase, if_neg (by decide), if_neg (by simp [hbroken.incomplete])]
  | unsent =>
    have hunsent : Unsent line frame c d := h
    rw [tell, hunsent.phase, hunsent.frame_eq, if_neg (by decide), if_pos (by decide)]

end Verdict

namespace Client

variable {c : Client} {line : Text}

/-! ## The three ways -/

theorem fits_answered (hready : c.ready = true) (h : c.GetsThrough line)
    (hcomplete : (Frame.read c.deadline c.answering).1.complete = true) :
    Answered line (c.execute line).1 c (c.execute line).2 := by
  obtain ⟨-, -, hsent⟩ := ask_of_getsThrough h
  have hphase : (c.ask line).2.phase = .ready := (kept_ask line c).phase.trans ((ready_iff c).1 hready)
  rw [execute_of_getsThrough hready h, settle, if_pos hcomplete]
  exact ⟨hcomplete, hphase, rfl, Frame.complete_iff_head?.1 hcomplete, hsent⟩

theorem fits_brokenOff (hready : c.ready = true) (h : c.GetsThrough line) {lines : List Bytes}
    (hstatus : (Frame.read c.deadline c.answering).1.status = [])
    (hlines : Frame.Interrupted c.deadline c.answering lines)
    (hbody : (Frame.read c.deadline c.answering).1.body = lines.map Frame.characters)
    (hunread : c.answering.unread =
      lines.flatten ++ (Frame.read c.deadline c.answering).2.unread) :
    BrokenOff line (c.execute line).1 c (c.execute line).2 := by
  obtain ⟨-, hstream, hsent⟩ := ask_of_getsThrough h
  have hopen : (Frame.read c.deadline c.answering).1.complete = false := by
    rw [Frame.complete, hstatus]
    rfl
  rw [execute_of_getsThrough hready h, settle, if_neg (by simp [hopen]), close_with_status, hstatus]
  refine ⟨hopen, hstatus, phase_fail _ _, rfl, ?_, lines, hlines, hbody, ?_⟩
  · rw [sent_fail, hsent]
  · rw [stream_fail, hstream]
    exact hunread

theorem fits_unsent (hready : c.ready = true) (h : ¬ c.GetsThrough line) :
    Unsent line (c.execute line).1 c (c.execute line).2 := by
  obtain ⟨-, hstream⟩ := ask_of_not_getsThrough h
  rw [execute_of_not_getsThrough hready h]
  refine ⟨?_, rfl, phase_fail _ _, rfl, ?_⟩
  · -- a line without any of the three causes gets through
    by_contra hcause
    simp only [not_or, not_not] at hcause
    exact h ⟨⟨hcause.1, hcause.2.1⟩, hcause.2.2⟩
  · rw [stream_fail, hstream]

/-- An exchange of a session that is ready fits a verdict, and if a whole frame answers it, exactly the
octets of that frame were read. -/
theorem exists_fits (hready : c.ready = true) (line : Text) :
    ∃ v : Verdict, v.Fits line (c.execute line).1 c (c.execute line).2 ∧
      (v = .answered → ((c.execute line).1, (c.execute line).2.network.stream.unread) =
        Frame.reference c.answering) := by
  by_cases h : c.GetsThrough line
  · rcases Frame.read_ends c.deadline c.answering with
      ⟨hcomplete, hreference⟩ | ⟨hstatus, lines, hlines, hbody, hunread⟩
    · obtain ⟨-, hstream, -⟩ := ask_of_getsThrough h
      refine ⟨.answered, fits_answered hready h hcomplete, fun _ => ?_⟩
      rw [execute_of_getsThrough hready h, settle, if_pos hcomplete, ← hreference, ← hstream]
    · refine ⟨.brokenOff, fits_brokenOff hready h hstatus hlines hbody hunread, ?_⟩
      exact fun heq => absurd heq (by decide)
  · exact ⟨.unsent, fits_unsent hready h, fun heq => absurd heq (by decide)⟩

/-! ## Runs -/

theorem marked_enter (line : Text) (c : Client)
    (h : (enter (c.ask line)).2.phase = .ready) :
    (enter (c.ask line)).2.status.head? = some '@' := by
  rcases enter_cases (c.ask line) with ⟨frame, hreply, hstatus, henter⟩ | ⟨status, henter⟩
  · rw [henter]
    exact Frame.complete_iff_head?.1 (complete_of_reply hreply (ne_nil_of_not_failure hstatus))
  · rw [henter, phase_fail] at h
    cases h

theorem marked_authenticate (c : Client) (h : c.authenticate.2.phase = .ready) :
    c.authenticate.2.status.head? = some '@' := by
  rw [authenticate_eq] at h ⊢
  split at h
  · rename_i hwelcomes
    rw [if_pos hwelcomes]
    exact marked_enter _ _ h
  · rw [phase_fail] at h
    cases h

theorem marked_connect (hphase : c.phase = .disconnected) (h : c.connect.2.phase = .ready) :
    c.connect.2.status.head? = some '@' := by
  cases hfailure : c.connectFailure? with
  | some failure =>
    -- a client that is stranded is not ready
    rw [connect_of_fails hphase hfailure, (stranded_stranded c).phase, hphase] at h
    cases h
  | none =>
    rw [connect_of_disconnected hphase hfailure] at h ⊢
    split at h
    · rw [phase_fail] at h
      cases h
    · rename_i hrefuses
      rw [if_neg hrefuses]
      exact marked_authenticate c.dialed h

/-- A step that leaves the session ready leaves it with a status that starts with an at sign, if it
finds it so. -/
theorem marked_act (step : Step) (hc : c.phase = .ready → c.status.head? = some '@')
    (h : (c.act step).phase = .ready) : (c.act step).status.head? = some '@' := by
  cases step with
  | connect =>
    by_cases hphase : c.phase = .disconnected
    · exact marked_connect hphase h
    · rw [act, connect_of_not_disconnected hphase] at h ⊢
      exact hc h
  | execute line =>
    cases hready : c.ready with
    | true =>
      -- of the three ways only one leaves the session ready
      obtain ⟨v, hfits, -⟩ := exists_fits hready line
      cases v with
      | answered => exact Answered.marked hfits
      | brokenOff => exact absurd (h.symm.trans (BrokenOff.phase hfits)) (by decide)
      | unsent => exact absurd (h.symm.trans (Unsent.phase hfits)) (by decide)
    | false =>
      rw [act, execute_of_not_ready hready] at h
      rw [ready_iff c |>.2 h] at hready
      cases hready
  | close =>
    rw [act, phase_close] at h
    cases h

theorem marked_after (account : Account) (daemon : Daemon) (now : Binary64) (sockets : Sockets)
    (run : List Operation) :
    ((fresh account daemon now sockets).after run).phase = .ready →
      ((fresh account daemon now sockets).after run).status.head? = some '@' := by
  refine after_of_act (P := fun c => c.phase = .ready → c.status.head? = some '@') ?_ ?_ run
  · intro c step hc
    exact marked_act step hc
  · -- a session that was never opened is not ready
    intro h
    cases h

/-- **Every exchange ends in exactly one way.** A line that is handed to a session that is ready is
answered by a whole frame, or the answer breaks off, or the line does not get through: what the frame,
the phase, the status, the lines sent and the octets read tell fits one of the three and no other. A
session that is still ready has read the octets of one frame and no more. And whatever was done with a
session before, its status starts with an at sign as long as it is ready. -/
theorem exchange_ends :
    (∀ (c : Client) (line : Text), c.ready = true →
      (∃! v : Verdict, v.Fits line (c.execute line).1 c (c.execute line).2) ∧
        ((c.execute line).2.ready = true →
          ((c.execute line).1, (c.execute line).2.network.stream.unread) =
            Frame.reference c.answering)) ∧
      ∀ (account : Account) (daemon : Daemon) (now : Binary64) (sockets : Sockets)
        (run : List Operation),
        ((fresh account daemon now sockets).after run).ready = true →
          ((fresh account daemon now sockets).after run).status.head? = some '@' := by
  constructor
  · intro c line hready
    obtain ⟨v, hfits, hreference⟩ := exists_fits hready line
    refine ⟨⟨v, hfits, ?_⟩, ?_⟩
    · intro w hw
      rw [Verdict.eq_of_fits hw, ← Verdict.eq_of_fits hfits]
    · intro hstill
      apply hreference
      rw [Verdict.eq_of_fits hfits, Verdict.tell, if_pos ((ready_iff _).1 hstill)]
  · intro account daemon now sockets run hready
    exact marked_after account daemon now sockets run ((ready_iff _).1 hready)

/-- A session that is let in, answered once, and then hears a line without a status before the end of
the stream. -/
theorem exchange_ends_sample :
    let account : Account :=
      { host := "localhost".toList, port := 1234, username := "anna".toList, password := []
        connectTimeout := none, readTimeout := some (.ofInt 30) }
    let turns : List Turn :=
      [{ octets := Latin1.encode "@0-Hello\n".toList }, { octets := Latin1.encode "@0-Ok\n".toList },
        { octets := Latin1.encode "a\n@0-Done\nb\n".toList },
        { octets := Latin1.encode "c".toList, ending := .closed }]
    let c := (fresh account { turns } .zero).after [.connect, .execute "@summary".toList]
    c.ready = true ∧ c.status = "@0-Done".toList ∧ c.status.head? = some '@' ∧
      (∃! v : Verdict, v.Fits "@page".toList (c.execute "@page".toList).1 c
        (c.execute "@page".toList).2) ∧
      (c.execute "@page".toList).1 = { body := ["b".toList, "c".toList], status := [] } ∧
      (c.execute "@page".toList).2.phase = .closed := by
  intro account turns c
  have hready : c.ready = true := by decide +kernel
  obtain ⟨hends, hmarked⟩ := exchange_ends
  refine ⟨hready, by decide +kernel, hmarked account { turns } .zero .system _ hready,
    (hends c "@page".toList hready).1, ?_, ?_⟩
  all_goals decide +kernel

end Client
end SearchClient
