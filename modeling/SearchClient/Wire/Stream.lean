import SearchClient.Charset.Basic
import SearchClient.Number.Binary64

/-!
# Streams

The reading end of a connection: the octets that have arrived and are unread, what comes after
them, and the clock. The clock stands still but for reads, so its pace is part of the stream.

1. `Stream.cutLine?` splits off a line with its line feed;
2. `Stream.readLine` is one read: the clock advances, then a line is given, or the end, or an
   interruption.
-/

namespace SearchClient

/-- How long reads take. -/
inductive Pace where
  /-- Every read takes the same time. -/
  | steady (delay : Binary64)
  /-- Reads end at the given instants; after the last one the clock stands still. -/
  | scheduled (instants : List Binary64)
  deriving DecidableEq

/-- What follows the octets that have arrived. -/
inductive Ending where
  /-- The end of the stream. -/
  | closed
  /-- Nothing, so that a read times out. -/
  | silent
  /-- A reset of the connection. -/
  | reset
  deriving DecidableEq

/-- The reading end of a connection. -/
structure Stream where
  unread : Bytes := []
  ending : Ending := .silent
  now : Binary64 := .zero
  pace : Pace := .steady .zero
  deriving DecidableEq

/-- What one read gives. -/
inductive LineRead where
  /-- A line with its line feed, or the octets before the end of the stream. -/
  | line (octets : Bytes)
  /-- Nothing, as the stream has ended. -/
  | finished
  /-- A failure. -/
  | interrupted
  deriving DecidableEq

namespace Stream

def tick (s : Stream) : Stream :=
  match s.pace with
  | .steady delay => { s with now := s.now.add delay }
  | .scheduled [] => s
  | .scheduled (instant :: later) => { s with now := instant, pace := .scheduled later }

/-- The first line, through its line feed, and the rest. -/
def cutLine? : Bytes → Option (Bytes × Bytes)
  | [] => none
  | b :: s =>
    if b = 10 then some ([b], s)
    else (cutLine? s).map fun (line, rest) => (b :: line, rest)

def readLine (s : Stream) : LineRead × Stream :=
  let s := s.tick
  match cutLine? s.unread with
  | some (line, rest) => (.line line, { s with unread := rest })
  | none =>
    match s.ending with
    | .closed =>
      if s.unread.isEmpty then (.finished, s) else (.line s.unread, { s with unread := [] })
    | .silent => (.interrupted, s)
    | .reset => (.interrupted, s)

theorem unread_tick (s : Stream) : s.tick.unread = s.unread := by
  unfold tick
  split <;> rfl

theorem append_of_cutLine? {s line rest : Bytes} (h : cutLine? s = some (line, rest)) :
    s = line ++ rest := by
  induction s generalizing line with
  | nil => simp [cutLine?] at h
  | cons b s ih =>
    simp only [cutLine?] at h
    split at h
    · simp only [Option.some.injEq, Prod.mk.injEq] at h
      rcases h with ⟨rfl, rfl⟩
      rfl
    · simp only [Option.map_eq_some_iff] at h
      rcases h with ⟨⟨l, r⟩, hl, heq⟩
      simp only [Prod.mk.injEq] at heq
      rcases heq with ⟨rfl, rfl⟩
      simp [ih hl]

theorem ne_nil_of_cutLine? {s line rest : Bytes} (h : cutLine? s = some (line, rest)) :
    line ≠ [] := by
  cases s with
  | nil => simp [cutLine?] at h
  | cons b s =>
    simp only [cutLine?] at h
    split at h
    · simp only [Option.some.injEq, Prod.mk.injEq] at h
      rcases h with ⟨rfl, -⟩
      simp
    · simp only [Option.map_eq_some_iff] at h
      rcases h with ⟨⟨l, r⟩, -, heq⟩
      simp only [Prod.mk.injEq] at heq
      rcases heq with ⟨rfl, -⟩
      simp

/-- A read that gives a line consumes it. -/
theorem unread_of_readLine {s s' : Stream} {line : Bytes} (h : s.readLine = (.line line, s')) :
    s.unread = line ++ s'.unread ∧ line ≠ [] := by
  rw [← unread_tick s]
  simp only [readLine] at h
  split at h
  · rename_i l rest hcut
    simp only [Prod.mk.injEq, LineRead.line.injEq] at h
    rcases h with ⟨rfl, rfl⟩
    exact ⟨append_of_cutLine? hcut, ne_nil_of_cutLine? hcut⟩
  · split at h
    · split at h
      · simp at h
      · rename_i hne
        simp only [Prod.mk.injEq, LineRead.line.injEq] at h
        rcases h with ⟨rfl, rfl⟩
        refine ⟨by simp, ?_⟩
        intro hnil
        simp [hnil] at hne
    · simp at h
    · simp at h

theorem length_unread_of_readLine {s s' : Stream} {line : Bytes}
    (h : s.readLine = (.line line, s')) : s'.unread.length < s.unread.length := by
  rcases unread_of_readLine h with ⟨happ, hne⟩
  have := List.length_pos_iff.mpr hne
  rw [happ, List.length_append]
  omega

end Stream
end SearchClient
