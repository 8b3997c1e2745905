import SearchClient.Proofs.Number.Numeral
import SearchClient.Proofs.Session.Runs

/-!
# Sessions that are not ready

A session that was never opened, or that has ended, does not reach the network. Whatever is asked of
it, the client stays as it is except that its status may come to say that there is no connection,
and every answer is that of an empty reply.

1. `Operation.steps_of_isRequest` says that a request takes no step but to hand lines over;
2. `Client.acts_of_not_ready` is what lines handed to such a session change, and
   `Client.after_of_not_ready` what a run of requests does;
3. `Client.inert_of_not_ready` puts the answers beside that.
-/

namespace SearchClient

/-! ## Requests -/

/-- Whether an operation asks something of the daemon; the others open and end the session. -/
def Operation.isRequest : Operation → Bool
  | .connect => false
  | .execute _ => true
  | .query _ => true
  | .close => false
  | .search _ _ => true
  | .indexSummary => true
  | .getText _ _ => true

theorem Request.steps_eq (request : Request) :
    ∃ lines : List Text, request.steps = lines.map .execute := by
  cases hline : request.ownLine with
  | ok line => exact ⟨[line], by rw [Request.steps, hline]; rfl⟩
  | error failure =>
    cases failure with
    | noSearchTerms query =>
      exact ⟨[summaryLine, statisticsLine], by rw [Request.steps, hline]; rfl⟩
    | _ => exact ⟨[], by rw [Request.steps, hline]; rfl⟩

/-- **A request does nothing but hand lines over.** -/
theorem Operation.steps_of_isRequest {operation : Operation} (h : operation.isRequest = true)
    (c : Client) : ∃ lines : List Text, operation.steps c = lines.map .execute := by
  cases operation with
  | connect => cases h
  | close => cases h
  | execute line => exact ⟨[line], rfl⟩
  | query line => exact ⟨[line], rfl⟩
  | indexSummary => exact ⟨[summaryLine, statisticsLine], rfl⟩
  | search markup request =>
    cases hready : c.ready with
    | false => exact ⟨[], by rw [Operation.steps, hready]; rfl⟩
    | true =>
      rw [Operation.steps, hready]
      exact request.steps_eq
  | getText first last =>
    rw [Operation.steps]
    split
    · exact ⟨[getLine first last], rfl⟩
    · exact ⟨[], rfl⟩

namespace Client

variable {c : Client} {run : List Operation}

/-! ## What changes -/

/-- Lines handed to a session that is not ready change its status and nothing else. -/
theorem acts_of_not_ready (h : c.ready = false) (lines : List Text) :
    c.acts (lines.map .execute) =
      { c with status := if lines.isEmpty then c.status else notConnected } := by
  induction lines generalizing c with
  | nil => rfl
  | cons line lines ih =>
    have hline : c.act (.execute line) = { c with status := notConnected } := by
      rw [act, execute_of_not_ready h]
    rw [List.map_cons, acts_cons, hline, ih (c := { c with status := notConnected }) h]
    cases lines <;> rfl

theorem perform_of_not_ready (h : c.ready = false) {operation : Operation}
    (hrequest : operation.isRequest = true) :
    (c.perform operation).2 = c ∨ (c.perform operation).2 = { c with status := notConnected } := by
  obtain ⟨lines, hlines⟩ := Operation.steps_of_isRequest hrequest c
  rw [perform_snd, hlines, acts_of_not_ready h]
  cases lines with
  | nil => exact .inl rfl
  | cons line lines => exact .inr rfl

/-- **A run of requests leaves a session that is not ready as it is**, its status apart. -/
theorem after_of_not_ready (h : c.ready = false)
    (hrun : ∀ operation ∈ run, operation.isRequest = true) :
    c.after run = c ∨ c.after run = { c with status := notConnected } := by
  -- by induction on the run: the first request leaves one of the two clients
  induction run generalizing c with
  | nil => exact .inl rfl
  | cons operation run ih =>
    have hrest : ∀ operation ∈ run, operation.isRequest = true :=
      fun o ho => hrun o (List.mem_cons_of_mem operation ho)
    rw [after_cons]
    rcases perform_of_not_ready h (hrun operation List.mem_cons_self) with hfirst | hfirst
    · rw [hfirst]
      exact ih h hrest
    · rw [hfirst]
      exact .inr ((ih (c := { c with status := notConnected }) h hrest).elim id id)

/-! ## What is answered -/

theorem indexSummary_of_not_ready (h : c.ready = false) : c.indexSummary.1 = {} := by
  rw [indexSummary, execute_of_not_ready h]
  dsimp only
  rw [execute_of_not_ready (c := { c with status := notConnected }) h]
  rfl

theorem fetchText_of_not_ready (h : c.ready = false) {first : Int} {last : Option Int}
    (hwritable : [first, lastOffset first last].all Numeral.isWritable = true) :
    (c.fetchText first last).1 =
      .ok { first, last := lastOffset first last, lines := [], status := notConnected } := by
  rw [fetchText, if_pos hwritable, execute_of_not_ready h]
  rfl

theorem fetchText_of_long {first : Int} {last : Option Int}
    (hlong : ¬ [first, lastOffset first last].all Numeral.isWritable = true) (c : Client) :
    c.fetchText first last = (.error .numeralTooLong, c) := by
  rw [fetchText, if_neg hlong]

theorem not_ready_of_phase (h : c.phase = .disconnected ∨ c.phase = .closed) : c.ready = false := by
  rcases h with h | h <;> rw [ready, h] <;> rfl

/-- **A session that is not ready is inert.** After any requests of a session that is disconnected
or closed, the client is what it was: its network with everything sent, read, connected and closed
and with the clock, its phase and what it holds. Only the status may have changed, to that of a
session without a connection. A line handed over is then answered by an empty frame with this
status, a query by the status as text, a search by a page without hits, and what is indexed is
nothing. Document text has this status and no lines if its offsets can be written; otherwise it is
not fetched at all, and not even the status changes. -/
theorem inert_of_not_ready (hphase : c.phase = .disconnected ∨ c.phase = .closed)
    (hrun : ∀ operation ∈ run, operation.isRequest = true) :
    let d := c.after run
    let status := "@1-Not connected.".toList
    (d = c ∨ d = { c with status := status }) ∧
      (∀ line, (d.execute line).1 = { body := [], status := status }) ∧
      (∀ line, (d.query line).1 = status) ∧
      (∀ markup request, ∃ page, (d.search markup request).1 = .ok page ∧ page.status = status ∧
        page.records = [] ∧ page.totalHits = 0 ∧ page.window = none ∧ page.summary = none) ∧
      d.indexSummary.1 = { master := {}, roots := [], fileTypes := [] } ∧
      ∀ first last,
        if [first, max first (last.getD first)].all Numeral.isWritable then
          (d.fetchText first last).1 =
            .ok { first, last := max first (last.getD first), lines := [], status := status }
        else d.fetchText first last = (.error .numeralTooLong, d) := by
  intro d status
  have hready : c.ready = false := not_ready_of_phase hphase
  have hafter : d = c ∨ d = { c with status := status } := after_of_not_ready hready hrun
  have hstill : d.ready = false := by
    rcases hafter with h | h <;> rw [h] <;> exact hready
  refine ⟨hafter, ?_, ?_, ?_, indexSummary_of_not_ready hstill, ?_⟩
  · intro line
    rw [execute_of_not_ready hstill]
    rfl
  · intro line
    rw [query, hstill]
    rfl
  · intro markup request
    refine ⟨{ ResultPage.blank request (Terms.ofQuery request.query) with status := status }, ?_,
      rfl, rfl, rfl, rfl, rfl⟩
    rw [search, hstill]
    rfl
  · intro first last
    split
    · rename_i hwritable
      exact fetchText_of_not_ready hstill hwritable
    · rename_i hlong
      exact fetchText_of_long hlong d

/-- A session that was turned away, and one of each request. -/
theorem inert_of_not_ready_sample :
    let account : Account :=
      { host := "localhost".toList, port := 1234, username := "anna".toList, password := []
        connectTimeout := none, readTimeout := some (.ofInt 30) }
    let daemon : Daemon :=
      { turns := ["@0-Hello\n", "@1-Wrong password.\n", "late\n@0-Ok\n"].map fun octets =>
          { octets := Latin1.encode octets.toList, pace := .steady (.ofInt 1) } }
    let c := (fresh account daemon .zero).after [.connect]
    let run : List Operation :=
      [.search .html { query := ['x'] }, .execute "@page".toList, .query "@page".toList,
        .indexSummary, .getText 7 none]
    c.phase = .closed ∧ c.status = "@1-Wrong password.".toList ∧
      (∀ operation ∈ run, operation.isRequest = true) ∧ (c.after run).network = c.network ∧
      (c.after run).status = "@1-Not connected.".toList ∧
      ((c.after run).fetchText 7 (some 3)).1 =
        .ok { first := 7, last := 7, lines := [], status := "@1-Not connected.".toList } := by
  intro account daemon c run
  have hphase : c.phase = .closed := by decide +kernel
  have hstatus : c.status = "@1-Wrong password.".toList := by decide +kernel
  have hrun : ∀ operation ∈ run, operation.isRequest = true := by
    simp [run, Operation.isRequest]
  obtain ⟨hafter, -, -, -, -, htext⟩ := inert_of_not_ready (.inr hphase) hrun
  refine ⟨hphase, hstatus, hrun, ?_, by decide +kernel, htext 7 (some 3)⟩
  rcases hafter with h | h <;> rw [h]

/-- An offset that is too long to be written is refused by a session that was never opened, and its
status does not come to say that there is no connection. -/
theorem fetchText_of_long_offset_fails :
    let account : Account :=
      { host := "localhost".toList, port := 1234, username := "anna".toList, password := []
        connectTimeout := none, readTimeout := none }
    let c := fresh account {} .zero
    c.phase = .disconnected ∧
      (c.fetchText (10 ^ Numeral.maxDigits : Nat) none).1 = .error .numeralTooLong ∧
      (c.fetchText (10 ^ Numeral.maxDigits : Nat) none).2.status = [] := by
  intro account c
  have hlong : ¬ [((10 ^ Numeral.maxDigits : Nat) : Int), lastOffset (10 ^ Numeral.maxDigits : Nat) none].all
      Numeral.isWritable = true := by
    rw [List.all_cons, Numeral.isWritable_eq_false (Nat.le_refl _), Bool.false_and]
    exact Bool.false_ne_true
  rw [fetchText_of_long hlong]
  exact ⟨rfl, rfl, rfl⟩

end Client
end SearchClient
