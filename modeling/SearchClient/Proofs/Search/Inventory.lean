import Mathlib.Data.List.Basic
import Mathlib.Data.List.TakeWhile
import SearchClient.Proofs.Number.Numeral
import SearchClient.Proofs.Session.InStep
import SearchClient.Search

/-!
# What the daemon has indexed

A daemon tells what it has indexed in two replies: a line of three fields for the whole index and
for each file system in it, and a line for each type of file and its number of files. This module
writes such lines and shows that the client reads them back.

1. `Coverage.ofLine_line` and `TypeCount.ofLine?_line` read one line back;
2. `Inventory` is what a daemon may have to tell, and `Inventory.ToldBy` says which two responses
   tell it: those with its lines, and with any blank lines between the counts;
3. `Client.indexSummary_of_told` puts the two exchanges together.
-/

namespace SearchClient

/-! ## Text in a line -/

/-- Text that travels as one line and is not masked: each character has an octet, and none breaks
the line. -/
structure Sendable (s : Text) : Prop where
  latin1 : ∀ c ∈ s, c.toNat < 0x100
  unbroken : Unbroken s

-- the quantifier is decided along the text, not over all characters
instance (s : Text) : Decidable (Sendable s) :=
  decidable_of_iff ((s.all fun c => c.toNat < 0x100) = true ∧ Unbroken s)
    ⟨fun h => ⟨by simpa using h.1, h.2⟩, fun h => ⟨by simpa using h.latin1, h.unbroken⟩⟩

theorem Sendable.append {s t : Text} (hs : Sendable s) (ht : Sendable t) : Sendable (s ++ t) where
  latin1 := fun c hc => (List.mem_append.1 hc).elim (hs.latin1 c) (ht.latin1 c)
  unbroken := (unbroken_append s t).2 ⟨hs.unbroken, ht.unbroken⟩

theorem Sendable.numeral (n : Int) : Sendable (Numeral.write n) where
  latin1 := fun _ hc => (Numeral.toNat_lt_of_mem_write hc).trans (by decide)
  unbroken := unbroken_numeral n

theorem Sendable.lineText {s : Text} (h : Sendable s) :
    Frame.lineText (Latin1.encode s ++ [10]) = s := by
  have hplain : PlainLine (Latin1.encode s) :=
    ⟨(not_mem_encode h.unbroken).1, fun hlast =>
      (not_mem_encode h.unbroken).2 (List.mem_of_getLast? hlast)⟩
  rw [Frame.lineText_of_plain hplain, Latin1.decode_encode, Latin1.map_masked_of_lt h.latin1]

theorem Sendable.head?_encode {s : Text} (h : Sendable s) :
    (Latin1.encode s).head? = some atSign ↔ s.head? = some '@' := by
  rw [← Frame.isPrefixOf_decode, Latin1.decode_encode, Latin1.map_masked_of_lt h.latin1]
  cases s with
  | nil => exact ⟨nofun, nofun⟩
  | cons c s =>
    have hbegin : ['@'].isPrefixOf (c :: s) = ('@' == c) := by simp [List.isPrefixOf]
    rw [hbegin, beq_iff_eq, List.head?_cons, Option.some_inj, eq_comm]

/-- A text that can be a field of a line: it is sendable and has no tab. -/
structure IsField (s : Text) : Prop extends Sendable s where
  no_tab : '\t' ∉ s

instance (s : Text) : Decidable (IsField s) :=
  decidable_of_iff (Sendable s ∧ '\t' ∉ s) ⟨fun h => ⟨h.1, h.2⟩, fun h => ⟨h.1, h.no_tab⟩⟩

/-! ## Coverage -/

namespace Coverage

/-- The line that tells what is covered. -/
def line (k : Coverage) : Text := k.filesystem ++ ('\t' :: k.files) ++ ('\t' :: k.directories)

/-- What is covered can be told by a line, and this line is not taken for a status. -/
structure Tellable (k : Coverage) : Prop where
  filesystem : IsField k.filesystem
  files : IsField k.files
  directories : IsField k.directories
  opening : k.filesystem.head? ≠ some '@'

instance (k : Coverage) : Decidable k.Tellable :=
  decidable_of_iff
    (IsField k.filesystem ∧ IsField k.files ∧ IsField k.directories ∧ k.filesystem.head? ≠ some '@')
    ⟨fun ⟨h₁, h₂, h₃, h₄⟩ => ⟨h₁, h₂, h₃, h₄⟩,
      fun h => ⟨h.filesystem, h.files, h.directories, h.opening⟩⟩

variable {k : Coverage}

/-- **A line of three fields is read back.** -/
theorem ofLine_line (h : k.Tellable) : ofLine k.line = k := by
  have hfields : ∀ field ∈ [k.filesystem, k.files, k.directories], '\t' ∉ field := by
    simpa using ⟨h.filesystem.no_tab, h.files.no_tab, h.directories.no_tab⟩
  have hline : k.line = ['\t'].intercalate [k.filesystem, k.files, k.directories] := by
    simp [line, List.intercalate, List.intersperse]
  have hsplit : k.line.splitOn '\t' = [k.filesystem, k.files, k.directories] := by
    rw [hline, List.splitOn_intercalate '\t' hfields (by simp)]
  rw [ofLine, hsplit]

theorem Tellable.sendable_line (h : k.Tellable) : Sendable k.line := by
  have htab : Sendable ['\t'] := by decide
  exact (h.filesystem.toSendable.append (htab.append h.files.toSendable)).append
    (htab.append h.directories.toSendable)

theorem Tellable.head?_line (h : k.Tellable) : k.line.head? ≠ some '@' := by
  have hopening := h.opening
  rw [line]
  cases hname : k.filesystem with
  | nil => exact nofun
  | cons c s =>
    rw [hname] at hopening
    exact hopening

end Coverage

/-! ## Counts -/

namespace TypeCount

/-- The line that tells how many files of a type there are. -/
def line (mimeType : Text) (count : Int) : Text :=
  mimeType ++ ([':'] ++ ' ' :: Numeral.write count)

/-- The count of a type as it is read. -/
def of (mimeType : Text) (count : Int) : TypeCount :=
  { mimeType, count, description := describe mimeType count }

/-- A count can be told by a line, and this line is not taken for a status. -/
structure Tellable (mimeType : Text) (count : Int) : Prop where
  name : IsField mimeType
  no_space : ' ' ∉ mimeType
  opening : ∃ c ∈ mimeType.head?, c ≠ '@' ∧ Text.isBlank c = false
  writable : Numeral.isWritable count = true

instance (mimeType : Text) (count : Int) : Decidable (Tellable mimeType count) :=
  decidable_of_iff
    (IsField mimeType ∧ ' ' ∉ mimeType ∧
      (mimeType.head?.any fun c => c ≠ '@' ∧ Text.isBlank c = false) = true ∧
        Numeral.isWritable count = true)
    ⟨fun ⟨h₁, h₂, h₃, h₄⟩ => ⟨h₁, h₂, by simpa [Option.any_eq_true] using h₃, h₄⟩,
      fun h => ⟨h.name, h.no_space, by simpa [Option.any_eq_true] using h.opening, h.writable⟩⟩

variable {mimeType : Text} {count : Int}

theorem Tellable.head?_line (h : Tellable mimeType count) :
    ∃ c ∈ (line mimeType count).head?, c ≠ '@' ∧ Text.isBlank c = false := by
  obtain ⟨c, hhead, hc⟩ := h.opening
  refine ⟨c, ?_, hc⟩
  rw [line, List.head?_append, Option.mem_def.1 hhead]
  rfl

theorem Tellable.sendable_line (h : Tellable mimeType count) : Sendable (line mimeType count) := by
  have hcolon : Sendable [':'] := by decide
  have hspace : Sendable [' '] := by decide
  exact h.name.toSendable.append (hcolon.append (hspace.append (.numeral count)))

theorem trim_line (h : Tellable mimeType count) :
    Text.trim (line mimeType count) = line mimeType count := by
  apply Text.stripBy_of_ends
  · intro c hc
    obtain ⟨d, hhead, -, hd⟩ := h.head?_line
    rw [Option.mem_def.1 hhead] at hc
    cases hc
    exact hd
  · intro c hc
    have hlast : c ∈ Numeral.write count := by
      obtain ⟨t, d, hd⟩ := (List.eq_nil_or_concat (Numeral.write count)).resolve_left
        (Numeral.write_ne_nil count)
      have hline : line mimeType count = mimeType ++ ([':'] ++ ' ' :: t) ++ [d] := by
        simp [line, hd]
      rw [hline, List.getLast?_concat] at hc
      cases hc
      simp [hd]
    rcases Numeral.mem_write hlast with rfl | hdigit
    · decide
    · exact Numeral.isBlank_of_isDigit hdigit

/-- **A count is read back**, whatever colons its type has. -/
theorem ofLine?_line (h : Tellable mimeType count) :
    ofLine? (line mimeType count) = some (of mimeType count) := by
  have hname : ' ' ∉ mimeType ++ [':'] := by
    simpa using h.no_space
  have hfigure : ' ' ∉ Numeral.write count := Numeral.not_mem_write (by decide) (by decide)
  have hline : line mimeType count =
      [' '].intercalate [mimeType ++ [':'], Numeral.write count] := by
    simp [line, List.intercalate, List.intersperse]
  have hsplit : (line mimeType count).splitOn ' ' = [mimeType ++ [':'], Numeral.write count] := by
    rw [hline]
    exact List.splitOn_intercalate ' ' (by simpa using ⟨h.no_space, hfigure⟩) (by simp)
  rw [ofLine?, trim_line h, hsplit]
  simp [Numeral.read?_write h.writable, of]

theorem ofLine?_of_blank {s : Text} (h : ∀ c ∈ s, Text.isBlank c = true) : ofLine? s = none := by
  rw [ofLine?, Text.trim, Text.stripBy_eq_nil_iff.2 h]
  rfl

/-- Whether a line holds nothing but white space. -/
def isBlankLine (line : Bytes) : Bool := (Latin1.decode line).all Text.isBlank

theorem ofLine?_of_isBlankLine {octets : Bytes} (h : isBlankLine octets = true) :
    ofLine? (Frame.lineText (octets ++ [10])) = none := by
  have hall : ∀ c ∈ Latin1.decode octets, Text.isBlank c = true := List.all_eq_true.1 h
  apply ofLine?_of_blank
  intro c hc
  rw [Frame.lineText_eq] at hc
  exact hall c ((Text.stripEndBy_isPrefix _ _).subset hc)

/-- **Blank lines between counts are passed over.** -/
theorem ofLines_of_filter (lines : List Bytes) :
    ofLines (lines.map fun octets => Frame.lineText (octets ++ [10])) =
      ofLines ((lines.filter fun octets => !isBlankLine octets).map fun octets =>
        Frame.lineText (octets ++ [10])) := by
  -- by induction on the lines; a blank one has no count
  induction lines with
  | nil => rfl
  | cons octets lines ih =>
    rw [ofLines, ofLines] at ih ⊢
    cases hblank : isBlankLine octets with
    | true =>
      rw [List.filter_cons_of_neg (by simp [hblank]), List.map_cons, List.filterMap_cons,
        ofLine?_of_isBlankLine hblank, ← ih]
    | false =>
      rw [List.filter_cons_of_pos (by simp [hblank]), List.map_cons, List.map_cons,
        List.filterMap_cons, List.filterMap_cons, ih]

end TypeCount

/-! ## Inventories -/

/-- What a daemon has indexed: the coverage of the whole index and of each root, and the numbers of
files of each type. All of it can be told. -/
structure Inventory where
  master : Coverage
  roots : List Coverage
  counts : List (Text × Int)
  tellable_coverage : ∀ k ∈ master :: roots, k.Tellable := by decide
  tellable_counts : ∀ entry ∈ counts, TypeCount.Tellable entry.1 entry.2 := by decide

namespace Inventory

variable (i : Inventory)

/-- The lines of the first reply, the master's before those of the roots. -/
def coverageLines : List Bytes := (i.master :: i.roots).map fun k => Latin1.encode k.line

/-- The lines of the second reply that are not blank. -/
def countLines : List Bytes := i.counts.map fun entry => Latin1.encode (TypeCount.line entry.1 entry.2)

/-- The inventory as the client is to show it. -/
def summary : Summary where
  master := i.master
  roots := i.roots
  fileTypes := i.counts.map fun entry => .of entry.1 entry.2

/-- Two responses tell an inventory: the first by its coverage lines alone, the second by its count
lines with any blank lines among them. -/
structure ToldBy (first second : Response) : Prop where
  coverage : first.lines = i.coverageLines
  counts : (second.lines.filter fun octets => !TypeCount.isBlankLine octets) = i.countLines

theorem map_lineText_coverageLines :
    (i.coverageLines.map fun octets => Frame.lineText (octets ++ [10])) =
      (i.master :: i.roots).map Coverage.line := by
  rw [coverageLines, List.map_map]
  exact List.map_congr_left fun k hk => (i.tellable_coverage k hk).sendable_line.lineText

theorem map_ofLine_line :
    ((i.master :: i.roots).map Coverage.line).map Coverage.ofLine = i.master :: i.roots := by
  have hback : ∀ k ∈ i.master :: i.roots, Coverage.ofLine k.line = id k := fun k hk =>
    Coverage.ofLine_line (i.tellable_coverage k hk)
  rw [List.map_map]
  exact (List.map_congr_left hback).trans (List.map_id _)

theorem ofLines_countLines :
    TypeCount.ofLines (i.countLines.map fun octets => Frame.lineText (octets ++ [10])) =
      i.summary.fileTypes := by
  have hback : ∀ entry ∈ i.counts,
      TypeCount.ofLine? (Frame.lineText
        (Latin1.encode (TypeCount.line entry.1 entry.2) ++ [10])) =
        some (TypeCount.of entry.1 entry.2) := by
    intro entry hentry
    have h := i.tellable_counts entry hentry
    rw [h.sendable_line.lineText, TypeCount.ofLine?_line h]
  rw [countLines, List.map_map, TypeCount.ofLines, List.filterMap_map]
  exact (List.filterMap_congr hback).trans (congrFun List.filterMap_eq_map' i.counts)

/-- **An inventory is read back** from the lines of the responses that tell it. -/
theorem ofLines_of_told {first second : Response} (h : i.ToldBy first second) :
    Summary.ofLines first.frame.body second.frame.body = i.summary := by
  have hcoverage : first.frame.body = (i.master :: i.roots).map Coverage.line := by
    rw [← i.map_lineText_coverageLines, ← h.coverage]
    rfl
  have hread : Coverage.ofLine i.master.line :: (i.roots.map Coverage.line).map Coverage.ofLine =
      i.master :: i.roots := i.map_ofLine_line
  have hcounts : TypeCount.ofLines second.frame.body = i.summary.fileTypes := by
    rw [← i.ofLines_countLines, ← h.counts]
    exact TypeCount.ofLines_of_filter second.lines
  rw [Summary.ofLines, hcoverage, hcounts, List.map_cons, List.head?_cons, List.drop_one,
    List.tail_cons, Option.map_some, Option.getD_some, (List.cons.inj hread).1,
    (List.cons.inj hread).2]
  rfl

theorem coverageLines_wellFormed {octets : Bytes} (h : octets ∈ i.coverageLines) :
    10 ∉ octets ∧ octets.head? ≠ some atSign := by
  obtain ⟨k, hk, rfl⟩ := List.mem_map.1 h
  have htellable := i.tellable_coverage k hk
  have hsendable := htellable.sendable_line
  exact ⟨(not_mem_encode hsendable.unbroken).1, fun hmark =>
    htellable.head?_line (hsendable.head?_encode.1 hmark)⟩

theorem countLines_wellFormed {octets : Bytes} (h : octets ∈ i.countLines) :
    10 ∉ octets ∧ octets.head? ≠ some atSign ∧ TypeCount.isBlankLine octets = false := by
  obtain ⟨entry, hentry, rfl⟩ := List.mem_map.1 h
  have htellable := i.tellable_counts entry hentry
  have hsendable := htellable.sendable_line
  obtain ⟨c, hhead, hmark, hblank⟩ := htellable.head?_line
  refine ⟨(not_mem_encode hsendable.unbroken).1, fun hstatus => ?_, ?_⟩
  · rw [hsendable.head?_encode, Option.mem_def.1 hhead] at hstatus
    exact hmark (Option.some.inj hstatus)
  · rw [TypeCount.isBlankLine, Latin1.decode_encode, Latin1.map_masked_of_lt hsendable.latin1]
    exact List.all_eq_false.2 ⟨c, List.mem_of_mem_head? hhead, by simp [hblank]⟩

/-- **Every inventory can be told**, with any statuses and at any pace. -/
theorem exists_toldBy (r r' : Response) :
    ∃ first second : Response, i.ToldBy first second ∧
      first.status = r.status ∧ first.ending = r.ending ∧ first.pace = r.pace ∧
      second.status = r'.status ∧ second.ending = r'.ending ∧ second.pace = r'.pace := by
  refine ⟨{ r with
      lines := i.coverageLines
      unbroken_lines := fun _ h => (i.coverageLines_wellFormed h).1
      open_lines := fun _ h => (i.coverageLines_wellFormed h).2 }, { r' with
      lines := i.countLines
      unbroken_lines := fun _ h => (i.countLines_wellFormed h).1
      open_lines := fun _ h => (i.countLines_wellFormed h).2.1 },
    ⟨rfl, ?_⟩, rfl, rfl, rfl, rfl, rfl, rfl⟩
  exact List.filter_eq_self.2 fun octets h => by simp [(i.countLines_wellFormed h).2.2]

end Inventory

namespace Client

variable {c : Client} {i : Inventory} {first second : Response} {later : List Turn}

/-- **What the daemon has indexed is shown as it tells it.** -/
theorem indexSummary_of_told (hready : c.phase = .ready) (htold : i.ToldBy first second)
    (hfirst : c.Expects first (second.turn :: later))
    (hsecond :
      let k := c.network.stream.clock.afterResponse first
      second.InTime (k.deadline c.account.readTimeout) (k.paced second.pace)) :
    c.indexSummary.1 = i.summary ∧ c.indexSummary.2.phase = .ready ∧
      c.indexSummary.2.network.stream.unread = [] ∧
      c.indexSummary.2.sent = c.sent ++ [wire summaryLine, wire statisticsLine] := by
  obtain ⟨hbody, -, hphase, hheard⟩ :=
    execute_of_expects hfirst hready (by decide : Unbroken summaryLine)
  -- the first request leaves the client where the second response is expected
  have hexpects : (c.execute summaryLine).2.Expects second later := by
    refine ⟨hheard.unread, hheard.turns, ?_⟩
    rw [hheard.clock, hheard.account]
    exact hsecond
  obtain ⟨hcounts, -, hphase', hheard'⟩ :=
    execute_of_expects hexpects hphase (by decide : Unbroken statisticsLine)
  have hsent : c.indexSummary.2.sent = c.sent ++ [wire summaryLine] ++ [wire statisticsLine] := by
    rw [← hheard.sent]
    exact hheard'.sent
  refine ⟨?_, hphase', hheard'.unread, ?_⟩
  · rw [← i.ofLines_of_told htold, ← hbody, ← hcounts]
    rfl
  · rw [hsent, List.append_assoc]
    rfl

/-- An index of two roots: fields are empty, a type ends in a colon, a count is negative, and there
are blank lines around the counts. -/
theorem indexSummary_of_told_sample :
    let i : Inventory :=
      { master := ⟨"all".toList, "12".toList, []⟩
        roots := [⟨[], [], []⟩, ⟨"/home/é".toList, "7".toList, "3".toList⟩]
        counts := [("text/x:".toList, -3), ("text/html".toList, 1)] }
    let first : Response :=
      { lines := i.coverageLines, status := [64, 48, 13], pace := .steady (.ofInt 1) }
    let second : Response :=
      { lines := [13] :: i.countLines ++ [[], [32, 13]], status := [64, 48], ending := .closed }
    let account : Account :=
      { host := "localhost".toList, port := 1234, username := "anna".toList, password := []
        connectTimeout := none, readTimeout := some (.ofInt 30) }
    let c : Client :=
      { account, network := { daemon := { turns := [first.turn, second.turn] } }, phase := .ready }
    c.indexSummary.1 = i.summary ∧ c.indexSummary.2.phase = .ready ∧
      i.summary.fileTypes.map TypeCount.description =
        ["Unknown files".toList, "HTML document".toList] := by
  intro i first second account c
  have htold : i.ToldBy first second := ⟨rfl, by decide +kernel⟩
  have hfirst : c.Expects first [second.turn] := ⟨rfl, rfl, by decide +kernel⟩
  obtain ⟨hsummary, hphase, -⟩ := indexSummary_of_told rfl htold hfirst (by decide +kernel)
  exact ⟨hsummary, hphase, by decide +kernel⟩

end Client
end SearchClient
