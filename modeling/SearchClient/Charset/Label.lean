import SearchClient.Charset.Basic
import SearchClient.Failure

/-!
# Labels of character sets

A label names a character set loosely: letter case and the characters between letters and digits
do not count. `Charset.ofLabel?` finds a single-octet set by the label's key. The sets with several
octets to a character are large tables of others' and not part of this library: how one of them reads
octets is given by `Charset.Wide`. A label that names neither is read in Latin-1, and only a label
with a NUL is refused.
-/

namespace SearchClient
namespace Charset

/-! ## Keys -/

/-- Whether a character of a label counts as it is. -/
def isKeyChar (c : Char) : Bool := c.isAlphanum || c == '.'

/-- The key of a label: in lower case, with one underscore for each run of other characters
between those that count. `gap` tells that such a run stands before the rest. -/
def keyAfter (gap : Bool) : Text → Text
  | [] => []
  | c :: s =>
    if isKeyChar c then
      if gap then '_' :: c.toLower :: keyAfter false s else c.toLower :: keyAfter false s
    else keyAfter true s

/-- The key of a label, without a gap at its start. -/
def key (label : Text) : Text := keyAfter false (label.dropWhile fun c => !isKeyChar c)

/-! ## Names -/

/-- The sets under the names that registries give them; a point in a key may stand for the
underscore of one of these. -/
def registered : List (String × Charset) :=
  [ ("iso_8859_1", latin1), ("iso_8859_1_1987", latin1), ("iso_ir_100", latin1),
    ("iso8859", latin1), ("iso8859_1", latin1), ("8859", latin1), ("cp819", latin1),
    ("csisolatin1", latin1), ("ibm819", latin1), ("l1", latin1), ("latin", latin1),
    ("latin1", latin1),
    ("iso_8859_2", latin2), ("iso_8859_2_1987", latin2), ("iso_ir_101", latin2),
    ("csisolatin2", latin2), ("l2", latin2), ("latin2", latin2),
    ("iso_8859_3", latin3), ("iso_8859_3_1988", latin3), ("iso_ir_109", latin3),
    ("csisolatin3", latin3), ("l3", latin3), ("latin3", latin3),
    ("iso_8859_4", latin4), ("iso_8859_4_1988", latin4), ("iso_ir_110", latin4),
    ("csisolatin4", latin4), ("l4", latin4), ("latin4", latin4),
    ("iso_8859_5", cyrillic), ("iso_8859_5_1988", cyrillic), ("iso_ir_144", cyrillic),
    ("csisolatincyrillic", cyrillic), ("cyrillic", cyrillic),
    ("iso_8859_6", arabic), ("iso_8859_6_1987", arabic), ("iso_ir_127", arabic),
    ("arabic", arabic), ("asmo_708", arabic), ("csisolatinarabic", arabic), ("ecma_114", arabic),
    ("iso_8859_7", greek), ("iso_8859_7_1987", greek), ("iso_ir_126", greek),
    ("csisolatingreek", greek), ("ecma_118", greek), ("elot_928", greek), ("greek", greek),
    ("greek8", greek),
    ("iso_8859_8", hebrew), ("iso_8859_8_1988", hebrew), ("iso_ir_138", hebrew),
    ("csisolatinhebrew", hebrew), ("hebrew", hebrew),
    ("iso_8859_9", latin5), ("iso_8859_9_1989", latin5), ("iso_ir_148", latin5),
    ("csisolatin5", latin5), ("l5", latin5), ("latin5", latin5),
    ("iso_8859_10", latin6), ("iso_8859_10_1992", latin6), ("iso_ir_157", latin6),
    ("csisolatin6", latin6), ("l6", latin6), ("latin6", latin6),
    ("iso_8859_11", thai), ("iso_8859_11_2001", thai), ("thai", thai),
    ("iso_8859_13", latin7), ("l7", latin7), ("latin7", latin7),
    ("iso_8859_14", latin8), ("iso_8859_14_1998", latin8), ("iso_ir_199", latin8),
    ("iso_celtic", latin8), ("l8", latin8), ("latin8", latin8),
    ("iso_8859_15", latin9), ("l9", latin9), ("latin9", latin9),
    ("iso_8859_16", latin10), ("iso_8859_16_2001", latin10), ("iso_ir_226", latin10),
    ("l10", latin10), ("latin10", latin10),
    ("iso_ir_6", ascii), ("iso_646.irv_1991", ascii), ("iso646_us", ascii), ("646", ascii),
    ("ansi_x3.4_1968", ascii), ("ansi_x3_4_1968", ascii), ("ansi_x3.4_1986", ascii),
    ("cp367", ascii), ("csascii", ascii), ("ibm367", ascii), ("us", ascii), ("us_ascii", ascii),
    ("iso_ir_166", tis620), ("tis620", tis620), ("tis_620_0", tis620),
    ("tis_620_2529_0", tis620), ("tis_620_2529_1", tis620) ]

/-- The sets under their own names, which a key has to match as it stands. -/
def own : List (String × Charset) :=
  [ ("ascii", ascii), ("latin_1", latin1), ("iso8859_1", latin1), ("iso8859_2", latin2),
    ("iso8859_3", latin3), ("iso8859_4", latin4), ("iso8859_5", cyrillic),
    ("iso8859_6", arabic), ("iso8859_7", greek), ("iso8859_8", hebrew), ("iso8859_9", latin5),
    ("iso8859_10", latin6), ("iso8859_11", thai), ("iso8859_13", latin7),
    ("iso8859_14", latin8), ("iso8859_15", latin9), ("iso8859_16", latin10),
    ("tis_620", tis620) ]

def lookup (names : List (String × Charset)) (name : Text) : Option Charset :=
  (names.find? fun (known, _) => known.toList == name).map Prod.snd

/-- The set that a label names, if it is a known one. -/
def ofLabel? (label : Text) : Option Charset :=
  let k := key label
  -- a set's own name is tried last, and a point in it is no underscore
  lookup registered k
    <|> lookup registered (k.map fun c => if c = '.' then '_' else c)
    <|> lookup own k

/-! ## Reading under a label -/

/-- The sets with several octets to a character that are at hand: how octets are read under a label
that names one of them. -/
abbrev Wide := Text → Option (Bytes → Text)

/-- The reading under a label that names a wide set and no single-octet one. -/
def wideReading? (wide : Wide) (label : Text) : Option (Bytes → Text) :=
  match ofLabel? label with
  | some _ => none
  | none => wide label

/-- The text of octets under a label: in Latin-1 if the label is unknown. -/
def read (wide : Wide) (label : Text) (octets : Bytes) : Text :=
  match wideReading? wide label with
  | some reading => reading octets
  | none => ((ofLabel? label).getD latin1).decode octets

def decodeNamed (wide : Wide) (label : Text) (octets : Bytes) : Except Failure Text :=
  if label.contains '\x00' then .error .nulInLabel else .ok (read wide label octets)

end Charset
end SearchClient
