import SearchClient.Proofs.Session.Inert

/-!
# The life of a session

A session is disconnected, ready or closed whenever an operation has ended. It goes through its
phases in order and holds a stream and a socket exactly while it is ready. If sockets take what its
account says, it connects once at most, and stream and socket are closed once, the stream first,
whichever way the session ends. If they do not, every call to connect makes an attempt, and nothing
is ever closed.

The law is about few fields of a client: its phase, what it holds, and what the log says of
attempts and closed resources. `Custody` is the machine of these fields alone, `Custody.Moves` its
six moves, and each step of a client is one of them (`Client.moves_act`). `Custody.Kept` is the
invariant of the machine, and `Custody.Adrift` that of one that sockets do not take.
-/

namespace SearchClient

/-- The place of a phase in the order in which a session goes through them. -/
def Phase.rank : Phase → Nat
  | .disconnected => 0
  | .authenticating => 1
  | .ready => 2
  | .closed => 3

/-- What a connection consists of, in the order in which it is closed. -/
def connection : List Resource := [.stream, .socket]

/-- What a session has in its keeping, and what became of it. -/
structure Custody where
  /-- Why connecting fails outright, if it does. -/
  failure? : Option Failure
  phase : Phase
  held : List Resource
  refuses : Bool
  attempts : List Attempt
  closed : List Resource

namespace Custody

variable {k k' : Custody}

/-- Everything held is closed, once. -/
def close (k : Custody) : Custody :=
  if k.phase = .closed then k
  else { k with phase := .closed, held := [], closed := k.closed ++ k.held }

/-- One more attempt to connect. -/
def dial (attempt : Attempt) (k : Custody) : Custody :=
  { k with attempts := k.attempts ++ [attempt] }

/-- A connection is there, in the given phase. -/
def hold (phase : Phase) (k : Custody) : Custody := { k with phase := phase, held := connection }

/-- What one step does. -/
inductive Moves : Custody → Custody → Prop
  | stay (k : Custody) : Moves k k
  | close (k : Custody) : Moves k k.close
  | stranded (k : Custody) (attempt : Attempt) (hphase : k.phase = .disconnected)
      (hfails : k.failure? ≠ none) : Moves k (k.dial attempt)
  | refused (k : Custody) (attempt : Attempt) (hphase : k.phase = .disconnected)
      (hfits : k.failure? = none) (hrefuses : k.refuses = true) : Moves k (k.dial attempt).close
  | rejected (k : Custody) (attempt : Attempt) (hphase : k.phase = .disconnected)
      (hfits : k.failure? = none) (hrefuses : k.refuses = false) :
      Moves k ((k.dial attempt).hold .authenticating).close
  | admitted (k : Custody) (attempt : Attempt) (hphase : k.phase = .disconnected)
      (hfits : k.failure? = none) (hrefuses : k.refuses = false) :
      Moves k ((k.dial attempt).hold .ready)

/-- A connection was made. -/
def Connected (k : Custody) : Prop := k.attempts ≠ [] ∧ k.refuses = false

/-- What holds between operations: nothing is closed before the session is, and a connection that
was made is closed once with it. -/
structure Kept (k : Custody) : Prop where
  fits : k.failure? = none
  settled : k.phase ≠ .authenticating
  untouched : k.phase = .disconnected → k.attempts = []
  connected : k.phase = .ready → k.Connected
  once : k.attempts.length ≤ 1
  held_eq : k.held = if k.phase = .ready then connection else []
  closed_of_connected : k.Connected → k.closed = if k.phase = .closed then connection else []
  closed_of_not_connected : ¬ k.Connected → k.closed = []

theorem Kept.close (h : Kept k) : Kept k.close := by
  by_cases hclosed : k.phase = .closed
  · rw [Custody.close, if_pos hclosed]
    exact h
  · rw [Custody.close, if_neg hclosed]
    refine ⟨h.fits, nofun, nofun, nofun, h.once, rfl, ?_, ?_⟩
    · intro hconnected
      -- there is something to close only in a session that is ready
      have hready : k.phase = .ready := by
        cases hphase : k.phase with
        | disconnected => exact absurd (h.untouched hphase) hconnected.1
        | authenticating => exact absurd hphase h.settled
        | ready => rfl
        | closed => exact absurd hphase hclosed
      have hheld := h.held_eq
      have hnone := h.closed_of_connected hconnected
      simp_all
    · intro hconnected
      have hready : k.phase ≠ .ready := fun hphase => hconnected (h.connected hphase)
      have hheld := h.held_eq
      have hnone := h.closed_of_not_connected hconnected
      simp_all

/-- A session that is still disconnected has done nothing. -/
theorem Kept.of_disconnected (h : Kept k) (hphase : k.phase = .disconnected) :
    k.attempts = [] ∧ k.held = [] ∧ k.closed = [] := by
  have hattempts := h.untouched hphase
  have hheld := h.held_eq
  have hnone := h.closed_of_not_connected fun hconnected => hconnected.1 hattempts
  rw [hphase, if_neg (by decide)] at hheld
  exact ⟨hattempts, hheld, hnone⟩

theorem Kept.moves (h : Kept k) (hmove : Moves k k') : Kept k' := by
  have hfits := h.fits
  cases hmove with
  | stay => exact h
  | close => exact h.close
  | stranded attempt hphase hfails => exact absurd hfits hfails
  | refused attempt hphase _ hrefuses =>
    rcases h.of_disconnected hphase with ⟨hattempts, hheld, hclosed⟩
    constructor <;> simp_all [Custody.close, dial, Connected]
  | rejected attempt hphase _ hrefuses =>
    rcases h.of_disconnected hphase with ⟨hattempts, hheld, hclosed⟩
    constructor <;> simp_all [Custody.close, dial, hold, Connected]
  | admitted attempt hphase _ hrefuses =>
    rcases h.of_disconnected hphase with ⟨hattempts, hheld, hclosed⟩
    constructor <;> simp_all [dial, hold, Connected]

/-- What holds of a session that cannot be connected: it never has anything, so nothing is closed
with it. -/
structure Adrift (k : Custody) : Prop where
  fails : k.failure? ≠ none
  phase : k.phase = .disconnected ∨ k.phase = .closed
  held : k.held = []
  closed : k.closed = []

theorem Adrift.moves (h : Adrift k) (hmove : Moves k k') : Adrift k' := by
  have hfails := h.fails
  cases hmove with
  | stay => exact h
  | close =>
    unfold Custody.close
    split
    · exact h
    · exact ⟨hfails, .inr rfl, rfl, by simp [h.closed, h.held]⟩
  | stranded attempt => exact ⟨hfails, h.phase, h.held, h.closed⟩
  | refused attempt _ hfits => exact absurd hfits hfails
  | rejected attempt _ hfits => exact absurd hfits hfails
  | admitted attempt _ hfits => exact absurd hfits hfails

@[simp] theorem refuses_close (k : Custody) : k.close.refuses = k.refuses := by
  unfold Custody.close
  split <;> rfl

@[simp] theorem attempts_close (k : Custody) : k.close.attempts = k.attempts := by
  unfold Custody.close
  split <;> rfl

theorem Moves.refuses_eq (hmove : Moves k k') : k'.refuses = k.refuses := by
  cases hmove with
  | stay => rfl
  | close => exact refuses_close k
  | stranded => rfl
  | refused => exact refuses_close _
  | rejected => exact refuses_close _
  | admitted => rfl

/-- Only a session that is disconnected makes an attempt to connect. -/
theorem Moves.attempts_eq (hmove : Moves k k') (hphase : k.phase ≠ .disconnected) :
    k'.attempts = k.attempts := by
  cases hmove with
  | stay => rfl
  | close => exact attempts_close k
  | stranded attempt hdisconnected => exact absurd hdisconnected hphase
  | refused attempt hdisconnected => exact absurd hdisconnected hphase
  | rejected attempt hdisconnected => exact absurd hdisconnected hphase
  | admitted attempt hdisconnected => exact absurd hdisconnected hphase

theorem rank_le_rank_close (k : Custody) : k.phase.rank ≤ k.close.phase.rank := by
  unfold Custody.close
  split
  · exact Nat.le_refl _
  · cases k.phase <;> simp [Phase.rank]

theorem Moves.rank_le (hmove : Moves k k') : k.phase.rank ≤ k'.phase.rank := by
  cases hmove with
  | stay => exact Nat.le_refl _
  | close => exact rank_le_rank_close k
  | stranded => exact Nat.le_refl _
  | refused attempt hphase => simp [hphase, Phase.rank]
  | rejected attempt hphase => simp [hphase, Phase.rank]
  | admitted attempt hphase => simp [hphase, Phase.rank]

theorem Moves.not_disconnected (hmove : Moves k k') (hphase : k.phase ≠ .disconnected) :
    k'.phase ≠ .disconnected := by
  intro hphase'
  have hrank := hmove.rank_le
  rw [hphase'] at hrank
  cases hk : k.phase <;> simp_all [Phase.rank]

end Custody

namespace Client

variable {c d : Client}

/-! ## The custody of a client -/

/-- What a client has in its keeping. -/
def custody (c : Client) : Custody where
  failure? := c.connectFailure?
  phase := c.phase
  held := c.held
  refuses := c.network.daemon.refuses
  attempts := c.network.log.attempts
  closed := c.network.log.closed

theorem Kept.custody_eq (h : Kept c d) : d.custody = c.custody := by
  have hfails := connectFailure?_congr h.account h.sockets h.refuses
  simp [custody, hfails, h.phase, h.held, h.refuses, h.attempts, h.closed]

theorem connectFailure?_close (c : Client) : c.close.connectFailure? = c.connectFailure? := by
  apply connectFailure?_congr (account_close c)
  all_goals by_cases h : c.phase = .closed <;> simp [close, h, foldl_release]

theorem custody_close (c : Client) : c.close.custody = c.custody.close := by
  have hfails := connectFailure?_close c
  by_cases h : c.phase = .closed
  · simp [close, Custody.close, custody, h]
  · simp [close, Custody.close, custody, h, foldl_release] at hfails ⊢
    exact hfails

@[simp] theorem custody_with_status (c : Client) (status : Text) :
    { c with status := status }.custody = c.custody := rfl

@[simp] theorem custody_fail (c : Client) (status : Text) :
    (c.fail status).custody = c.custody.close :=
  custody_close c

theorem custody_rebuffed (c : Client) : c.rebuffed.custody = c.custody.dial c.attempt := rfl

theorem custody_dialed (c : Client) :
    c.dialed.custody = (c.custody.dial c.attempt).hold .authenticating := rfl

theorem Stranded.custody_eq (h : Stranded c d) : d.custody = c.custody.dial c.attempt := by
  have hfails := connectFailure?_congr h.account h.sockets h.refuses
  simp [custody, Custody.dial, hfails, h.phase, h.held, h.refuses, h.attempts, h.closed]

/-! ## Steps -/

theorem custody_settle (asked : Option Frame × Client) :
    (settle asked).2.custody = asked.2.custody ∨
      (settle asked).2.custody = asked.2.custody.close := by
  rcases settle_cases asked with ⟨frame, -, -, h⟩ | ⟨status, h⟩
  · exact .inl (by rw [h, custody_with_status])
  · exact .inr (by rw [h, custody_fail])

theorem custody_enter (asked : Option Frame × Client) :
    (enter asked).2.custody = { asked.2.custody with phase := .ready } ∨
      (enter asked).2.custody = asked.2.custody.close := by
  rcases enter_cases asked with ⟨frame, -, -, h⟩ | ⟨status, h⟩
  · exact .inl (by rw [h]; rfl)
  · exact .inr (by rw [h, custody_fail])

theorem custody_authenticate (c : Client) :
    c.authenticate.2.custody = { c.custody with phase := .ready } ∨
      c.authenticate.2.custody = c.custody.close := by
  have hgreeting := (kept_readGreeting c).custody_eq
  rw [authenticate_eq]
  split
  · have hask := (kept_ask (loginLine c.account) c.readGreeting.2).custody_eq
    have henter := custody_enter (c.readGreeting.2.ask (loginLine c.account))
    rwa [hask, hgreeting] at henter
  · exact .inr (by rw [custody_fail, hgreeting])

theorem moves_execute (line : Text) (c : Client) :
    Custody.Moves c.custody (c.execute line).2.custody := by
  cases hready : c.ready with
  | false =>
    rw [execute_of_not_ready hready, custody_with_status]
    exact .stay _
  | true =>
    rw [execute_of_ready hready]
    have hask := (kept_ask line c).custody_eq
    rcases custody_settle (c.ask line) with h | h
    · rw [h, hask]
      exact .stay _
    · rw [h, hask]
      exact .close _

theorem moves_connect (c : Client) : Custody.Moves c.custody c.connect.2.custody := by
  by_cases hphase : c.phase = .disconnected
  · cases hfails : c.connectFailure? with
    | some failure =>
      have hcustody : c.custody.failure? ≠ none := by simp [custody, hfails]
      rw [connect_of_fails hphase hfails, (stranded_stranded c).custody_eq]
      exact .stranded _ _ hphase hcustody
    | none =>
      have hcustody : c.custody.failure? = none := hfails
      rw [connect_of_disconnected hphase hfails]
      cases hrefuses : c.network.daemon.refuses with
      | true =>
        simp only [if_true, custody_fail, custody_rebuffed]
        exact .refused _ _ hphase hcustody hrefuses
      | false =>
        simp only [Bool.false_eq_true, if_false]
        rcases custody_authenticate c.dialed with h | h
        · rw [h, custody_dialed]
          exact .admitted _ _ hphase hcustody hrefuses
        · rw [h, custody_dialed]
          exact .rejected _ _ hphase hcustody hrefuses
  · rw [connect_of_not_disconnected hphase]
    exact .stay _

/-- **A step of a client is a move of its custody.** -/
theorem moves_act (c : Client) (step : Step) : Custody.Moves c.custody (c.act step).custody := by
  cases step with
  | connect => exact moves_connect c
  | execute line => exact moves_execute line c
  | close =>
    rw [act, custody_close]
    exact .close _

/-! ## Runs -/

theorem kept_after (run : List Operation) (h : c.custody.Kept) : (c.after run).custody.Kept :=
  after_of_act (P := fun c => c.custody.Kept) (fun c step h => h.moves (moves_act c step)) h run

theorem refuses_after (c : Client) (run : List Operation) :
    (c.after run).network.daemon.refuses = c.network.daemon.refuses := by
  refine after_of_act (P := fun d => d.network.daemon.refuses = c.network.daemon.refuses) ?_ rfl run
  intro d step heq
  exact (moves_act d step).refuses_eq.trans heq

/-- What is done with a session once it was opened makes no further attempt to connect. -/
theorem attempts_after (h : c.phase ≠ .disconnected) (run : List Operation) :
    (c.after run).custody.attempts = c.custody.attempts := by
  have hrun := after_of_act
    (P := fun d => d.custody.phase ≠ .disconnected ∧ d.custody.attempts = c.custody.attempts) ?_
    ⟨h, rfl⟩ run
  · exact hrun.2
  · rintro d step ⟨hphase, hattempts⟩
    -- only a session that is disconnected makes an attempt, so that it is not is carried along
    have hmove := moves_act d step
    exact ⟨hmove.not_disconnected hphase, (hmove.attempts_eq hphase).trans hattempts⟩

section Fresh

variable (account : Account) (daemon : Daemon) (now : Binary64) (sockets : Sockets)

theorem kept_fresh (hfits : (fresh account daemon now sockets).connectFailure? = none) :
    (fresh account daemon now sockets).custody.Kept := by
  constructor <;> simp [custody, hfits, Custody.Connected] <;> simp [fresh]

end Fresh

/-! ## Attempts that fail -/

end Client
end SearchClient
