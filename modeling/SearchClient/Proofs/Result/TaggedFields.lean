import SearchClient.Proofs.Result.Legible
import SearchClient.Proofs.Text.Marks

/-!
# Tagged fields

A result line is a run of pairs `<tag>value</tag>` in no particular order, and a field is looked for
in the whole line. A value may hold angle brackets and slashes of its own. As long as it holds no
known tag, no tag is found where none was written: a mark in angle brackets has no `<` behind its
first character, so it cannot begin within a value and end in the mark behind it.

1. `Text.passes_angled` and `Text.passes_of_not_infix` say where a mark in angle brackets does not
   begin;
2. `Record.field_pair_self` and `Record.field_pair_other` look for a field in a line that begins
   with a pair of the same tag and with a pair of another;
3. `Record.field_tagged` looks for it in a whole line, and `Record.ofLine_tagged` says what record
   the line has.
-/

namespace SearchClient

/-! ## Marks in angle brackets -/

namespace Text

variable {t body value : Text}

def angled (body : Text) : Text := '<' :: body ++ ['>']

theorem angled_ne_nil (body : Text) : angled body ≠ [] := nofun

/-- There is no angle bracket in the text. -/
structure Unangled (body : Text) : Prop where
  no_opening : '<' ∉ body
  no_closing : '>' ∉ body

theorem Unangled.not_mem (h : Unangled body) : '<' ∉ body ++ ['>'] := by
  intro hmem
  rcases List.mem_append.1 hmem with hbody | hlast
  · exact h.no_opening hbody
  · cases List.mem_singleton.1 hlast

theorem eq_of_angled_begins {other : Text} (h : Unangled body) (h' : Unangled other)
    (hbegin : angled body <+: angled other ++ t) : body = other := by
  obtain ⟨rest, hrest⟩ := hbegin
  simp only [angled, List.cons_append, List.append_assoc, List.cons.injEq, true_and,
    List.nil_append] at hrest
  have hcut := cut?_of_not_mem h.no_closing rest
  rw [hrest, cut?_of_not_mem h'.no_closing t] at hcut
  cases hcut
  rfl

/-- A mark in angle brackets does not begin within another one. -/
theorem passes_angled {other : Text} (h : Unangled body) (h' : Unangled other) (hne : body ≠ other)
    (t : Text) : Passes (angled body) (angled other) t := by
  intro n hn hbegin
  cases n with
  | zero => exact hne (eq_of_angled_begins h h' hbegin)
  | succ n =>
    -- behind the first character there is no `<`
    have hlength : n < (other ++ ['>']).length := Nat.lt_of_succ_lt_succ hn
    have hdrop : (angled other ++ t).drop (n + 1) = (other ++ ['>']).drop n ++ t :=
      List.drop_append_of_le_length (i := n) hlength.le
    rw [hdrop, List.drop_eq_getElem_cons hlength] at hbegin
    obtain ⟨rest, hrest⟩ := hbegin
    have hhead : '<' = (other ++ ['>'])[n] := (List.cons.inj hrest).1
    exact h'.not_mem (hhead ▸ List.getElem_mem hlength)

/-- A mark in angle brackets that does not stand in a text does not begin in it either, if a `<`
comes just after the text. -/
theorem passes_of_not_infix (h : Unangled body) (hvalue : ¬ angled body <:+: value) (t : Text) :
    Passes (angled body) value ('<' :: t) := by
  refine passes_of_not_mem_tail h.not_mem hvalue ?_
  rintro d ⟨⟩
  rfl

end Text

/-! ## Pairs -/

namespace Record

/-- The tags of the fields of a result line. -/
inductive Tag where
  | filename
  | author
  | score
  | title
  | dstart
  | dend
  | type
  | page
  | date
  | filesize
  | snippet
  deriving DecidableEq

namespace Tag

def name : Tag → Text
  | filename => "filename".toList
  | author => "author".toList
  | score => "score".toList
  | title => "title".toList
  | dstart => "dstart".toList
  | dend => "dend".toList
  | type => "type".toList
  | page => "page".toList
  | date => "date".toList
  | filesize => "filesize".toList
  | snippet => "snippet".toList

def all : List Tag :=
  [filename, author, score, title, dstart, dend, type, page, date, filesize, snippet]

theorem mem_all (tag : Tag) : tag ∈ all := by
  cases tag <;> decide

def opening (tag : Tag) : Text := Text.angled tag.name

def closing (tag : Tag) : Text := Text.angled ('/' :: tag.name)

/-- A value as it stands in a line. -/
def pair (tag : Tag) (value : Text) : Text := tag.opening ++ value ++ tag.closing

/-- There is no known tag in a value, neither in its opening nor in its closing form. -/
structure Free (value : Text) : Prop where
  no_opening : ∀ tag : Tag, ¬ tag.opening <:+: value
  no_closing : ∀ tag : Tag, ¬ tag.closing <:+: value

theorem free_iff {value : Text} :
    Free value ↔ ∀ tag ∈ all, ¬ tag.opening <:+: value ∧ ¬ tag.closing <:+: value := by
  constructor
  · intro h tag _
    exact ⟨h.no_opening tag, h.no_closing tag⟩
  · intro h
    exact ⟨fun tag => (h tag tag.mem_all).1, fun tag => (h tag tag.mem_all).2⟩

instance (value : Text) : Decidable (Free value) := decidable_of_iff _ free_iff.symm

theorem name_injective {tag other : Tag} (h : tag.name = other.name) : tag = other := by
  cases tag <;> cases other <;> first | rfl | exact absurd h (by decide)

theorem unangled_name (tag : Tag) : Text.Unangled tag.name := by
  cases tag <;> exact ⟨by decide, by decide⟩

theorem unangled_slash_name (tag : Tag) : Text.Unangled ('/' :: tag.name) := by
  cases tag <;> exact ⟨by decide, by decide⟩

theorem name_ne_slash_name (tag other : Tag) : tag.name ≠ '/' :: other.name := by
  cases tag <;> exact fun h => absurd (List.cons.inj h).1 (by decide)

end Tag

variable {tag other : Tag} {value : Text}

/-- No opening tag begins within a pair of another tag. -/
theorem passes_pair (hne : tag ≠ other) (hfree : Tag.Free value) (rest : Text) :
    Text.Passes tag.opening (other.pair value) rest := by
  have hname : tag.name ≠ other.name := fun h => hne (Tag.name_injective h)
  have hopening : Text.Passes tag.opening other.opening (value ++ other.closing ++ rest) :=
    Text.passes_angled tag.unangled_name other.unangled_name hname _
  have hvalue : Text.Passes tag.opening value (other.closing ++ rest) :=
    Text.passes_of_not_infix tag.unangled_name (hfree.no_opening tag) _
  have hclosing : Text.Passes tag.opening other.closing rest :=
    Text.passes_angled tag.unangled_name other.unangled_slash_name (tag.name_ne_slash_name other) _
  rw [Tag.pair, List.append_assoc]
  exact hopening.append (hvalue.append hclosing)

/-- **A pair of another tag is passed over.** -/
theorem field_pair_other (hne : tag ≠ other) (hfree : Tag.Free value) (rest : Text) :
    field tag.name (other.pair value ++ rest) = field tag.name rest := by
  have hcut := Text.cut?_append (passes_pair hne hfree rest)
  rw [Tag.opening, Text.angled] at hcut
  rw [field, field, hcut]
  cases Text.cut? ('<' :: tag.name ++ ['>']) rest <;> rfl

/-- **A pair of the tag itself gives its value**, whatever comes after it. -/
theorem field_pair_self (hfree : Tag.Free value) (rest : Text) :
    field tag.name (tag.pair value ++ rest) = Text.trim value := by
  have hopening : Text.cut? ('<' :: tag.name ++ ['>']) (tag.pair value ++ rest) =
      some ([], value ++ (tag.closing ++ rest)) := by
    rw [Tag.pair, List.append_assoc, List.append_assoc]
    exact Text.cut?_self (Text.angled_ne_nil tag.name) _
  have hpasses : Text.Passes tag.closing value (tag.closing ++ rest) :=
    Text.passes_of_not_infix tag.unangled_slash_name (hfree.no_closing tag) _
  have hclosing : Text.cut? ('<' :: '/' :: tag.name ++ ['>']) (value ++ (tag.closing ++ rest)) =
      some (value ++ [], rest) := by
    have hself : Text.cut? tag.closing (tag.closing ++ rest) = some ([], rest) :=
      Text.cut?_self (Text.angled_ne_nil _) rest
    have hcut := Text.cut?_append hpasses
    rw [hself] at hcut
    exact hcut
  rw [field, hopening]
  dsimp only
  rw [hclosing, List.append_nil]

/-! ## Lines -/

/-- The line of the pairs of some tags in an order. -/
def tagged (value : Tag → Text) (order : List Tag) : Text :=
  order.flatMap fun tag => tag.pair (value tag)

/-- What a line of pairs tells about a tag. -/
def told (value : Tag → Text) (order : List Tag) (tag : Tag) : Text :=
  if tag ∈ order then Text.trim (value tag) else []

variable {markup : Markup} {terms : List Text} {line line' : Text} {value : Tag → Text}
  {order order' : List Tag}

/-- **Every field of a line of pairs is found**, and none that is not there. -/
theorem field_tagged (hfree : ∀ tag ∈ order, Tag.Free (value tag)) (tag : Tag) :
    field tag.name (tagged value order) = told value order tag := by
  induction order with
  | nil => rfl
  | cons first order ih =>
    have hfirst : Tag.Free (value first) := hfree first List.mem_cons_self
    have hrest : ∀ tag ∈ order, Tag.Free (value tag) := fun t ht =>
      hfree t (List.mem_cons_of_mem first ht)
    rw [tagged, List.flatMap_cons]
    by_cases hne : tag = first
    · subst hne
      rw [field_pair_self hfirst, told, if_pos List.mem_cons_self]
    · have hmem : tag ∈ first :: order ↔ tag ∈ order := by simp [hne]
      rw [field_pair_other hne hfirst]
      simp only [told, hmem]
      exact ih hrest

/-- The record of a line depends on its fields only. -/
theorem ofLine_congr (h : ∀ tag : Tag, field tag.name line = field tag.name line')
    (markup : Markup) (terms : List Text) :
    ofLine markup terms line = ofLine markup terms line' := by
  have hfilename : field "filename".toList line = field "filename".toList line' := h .filename
  have hauthor : field "author".toList line = field "author".toList line' := h .author
  have hscore : field "score".toList line = field "score".toList line' := h .score
  have htitle : field "title".toList line = field "title".toList line' := h .title
  have hdstart : field "dstart".toList line = field "dstart".toList line' := h .dstart
  have hdend : field "dend".toList line = field "dend".toList line' := h .dend
  have htype : field "type".toList line = field "type".toList line' := h .type
  have hpage : field "page".toList line = field "page".toList line' := h .page
  have hdate : field "date".toList line = field "date".toList line' := h .date
  have hfilesize : field "filesize".toList line = field "filesize".toList line' := h .filesize
  have hsnippet : field "snippet".toList line = field "snippet".toList line' := h .snippet
  rw [ofLine, ofLine, hfilename, hauthor, hscore, htitle, hdstart, hdend, htype, hpage, hdate,
    hfilesize, hsnippet]

/-- What a record says if `told` gives the trimmed value of each tag of its line, empty for a tag
that is not there. -/
structure Says (markup : Markup) (terms : List Text) (told : Tag → Text) (r : Record) : Prop where
  filename : r.filename = told .filename
  score : r.score = scoreOf (told .score)
  dstart : r.dstart = told .dstart
  dend : r.dend = told .dend
  mimeType : r.mimeType = told .type
  page : r.page = told .page
  date : r.date = told .date
  filesize : r.filesize = told .filesize
  author : authorOf markup (told .author) = .ok r.author
  /-- A document with a title is shown by its title alone. -/
  title : told .title ≠ [] → ∃ title, clean markup (told .title) = .ok title ∧
    r.title = highlight markup terms (truncateTitle title)
  /-- A document without a title is shown by the last part of its name. -/
  titleOfName : told .title = [] → r.title = highlight markup terms
    (truncateTitle (markup.escaping.apply (Text.afterLast '/' (told .filename))))
  snippet : ∃ snippet, clean markup (told .snippet) = .ok snippet ∧
    r.snippet = highlight markup terms snippet

theorem says_of_ofLine {r : Record} (h : ofLine markup terms line = .ok r) :
    Says markup terms (fun tag => field tag.name line) r := by
  obtain ⟨author, title, snippet, hauthor, htitle, hsnippet, rfl⟩ := ofLine_eq_ok_iff.1 h
  refine ⟨rfl, rfl, rfl, rfl, rfl, rfl, rfl, rfl, hauthor, ?_, ?_, snippet, hsnippet, rfl⟩
  · intro hsome
    have hempty : ¬ (field "title".toList line).isEmpty = true := fun h =>
      hsome (List.isEmpty_iff.1 h)
    rw [titleOf, if_neg hempty] at htitle
    exact ⟨title, htitle, rfl⟩
  · intro hnone
    have hempty : (field "title".toList line).isEmpty = true := List.isEmpty_iff.2 hnone
    rw [titleOf, if_pos hempty] at htitle
    cases htitle
    rfl

/-- The tags of the fields that are decoded. -/
def Tag.decoded : List Tag := [.author, .title, .snippet]

/-- **A line of pairs is read whatever their order.** No value holds a known tag, but each may hold
angle brackets and slashes of its own. Then the field of every tag is its trimmed value, and empty
for a tag that is not there; the outcome is the same for every order; there is a record exactly if
no encoded word of author, title and snippet has a label with a NUL; and the record says what the
pairs tell. -/
theorem ofLine_tagged (markup : Markup) (terms : List Text)
    (hfree : ∀ tag ∈ order, Tag.Free (value tag)) :
    (∀ tag : Tag, field tag.name (tagged value order) = told value order tag) ∧
      (∀ order', order.Perm order' → ofLine markup terms (tagged value order') =
        ofLine markup terms (tagged value order)) ∧
      ((∃ r, ofLine markup terms (tagged value order) = .ok r) ↔
        ∀ tag ∈ Tag.decoded,
          EncodedWord.Legible (markup.escaping.apply (told value order tag))) ∧
      ∀ r, ofLine markup terms (tagged value order) = .ok r →
        Says markup terms (told value order) r := by
  have hfield : ∀ tag : Tag, field tag.name (tagged value order) = told value order tag :=
    field_tagged hfree
  refine ⟨hfield, ?_, ?_, ?_⟩
  · intro order' hperm
    have hfree' : ∀ tag ∈ order', Tag.Free (value tag) := fun tag htag =>
      hfree tag (hperm.mem_iff.2 htag)
    refine ofLine_congr (fun tag => ?_) markup terms
    rw [field_tagged hfree', hfield, told, told]
    simp only [hperm.mem_iff]
  · rw [exists_ofLine_iff]
    have hdecoded : decodedTags = Tag.decoded.map Tag.name := rfl
    simp only [Legible, hdecoded, List.forall_mem_map, hfield]
  · intro r hr
    have hsays := says_of_ofLine hr
    simp only [hfield] at hsays
    exact hsays

/-- A title and a file name with brackets and slashes, in both orders. -/
theorem ofLine_tagged_sample :
    let value (tag : Tag) : Text :=
      match tag with
      | .title => " a <b> </c \t".toList
      | _ => "/home/<x>/y<".toList
    let order : List Tag := [.title, .filename]
    (∀ tag ∈ order, Tag.Free (value tag)) ∧ order.Perm [.filename, .title] ∧
      ∃ r, ofLine .html [['b']] (tagged value order) = .ok r ∧
        ofLine .html [['b']] (tagged value [.filename, .title]) = .ok r ∧
        r.filename = "/home/<x>/y<".toList ∧ r.mimeType = [] := by
  intro value order
  have hfree : ∀ tag ∈ order, Tag.Free (value tag) := by decide +kernel
  have hperm : order.Perm [.filename, .title] := .swap _ _ _
  obtain ⟨-, horder, -, hsays⟩ := ofLine_tagged .html [['b']] hfree
  refine ⟨hfree, hperm, ?_⟩
  obtain ⟨r, hline, -⟩ := Outcome.exists_of_toOption_map
    (show (ofLine .html [['b']] (tagged value order)).toOption.map filename =
      some "/home/<x>/y<".toList by decide +kernel)
  have hr := hsays r hline
  exact ⟨r, hline, (horder _ hperm).trans hline, hr.filename, hr.mimeType⟩

/-- A value without a tag that takes the record from its line. -/
theorem ofLine_tagged_of_nul :
    let value (tag : Tag) : Text :=
      match tag with
      | .filename => ['a']
      | _ => "=?ISO-\x00?Q?x?=".toList
    let order : List Tag := [.filename, .title]
    (∀ tag ∈ order, Tag.Free (value tag)) ∧ order.Nodup ∧
      ofLine .html [] (tagged value order) = .error .nulInLabel := by
  intro value order
  exact ⟨by decide +kernel, by decide, by decide +kernel⟩

end Record

end SearchClient
