import SearchClient.Console.ColumnTables

/-!
# Columns

How wide text is in the console, and where tabs lead: to the next multiple of eight columns, and
at least one column on.

1. `columns` is the width of a character on its own;
2. `width` is the width of a text: a joiner makes the character after it part of the one before,
   and a picture selector widens the emoji before it;
3. `expandTabs` fills up with blanks to each tab stop;
4. `unfolded` is a printed text in a console that is wide enough for every line of it.
-/

namespace SearchClient
namespace Console

/-! ## Widths -/

/-- Joins the characters on both sides of it into one. -/
def joiner : Char := '\u200D'

/-- Asks for the emoji before it as a picture. -/
def pictureSelector : Char := '\uFE0F'

def columns (c : Char) : Nat :=
  if 0x20 ≤ c.toNat && c.toNat ≤ 0x7E then 1
  else if Text.inRanges zeroWidth c then 0
  else if Text.inRanges doubleWidth c then 2
  else 1

/-- The columns that the picture of a character takes more than its text. -/
def widening (c : Char) : Nat := if Text.inRanges textEmoji c then 1 else 0

/-- The columns of a text after `last`, the last character with a column of its own; none once a
selector has been applied to it. -/
def widthAfter (last : Option Char) : Text → Nat
  | [] => 0
  | c :: s =>
    if c = joiner then
      match s with
      | [] => 0
      -- whatever is joined takes no column, be it a letter or a blank
      | _ :: rest => widthAfter last rest
    else if c = pictureSelector then
      match last with
      | some emoji => widening emoji + widthAfter none s
      | none => widthAfter none s
    else columns c + widthAfter (if columns c = 0 then last else some c) s

def width (s : Text) : Nat := widthAfter none s

/-! ## Tabs -/

def tabWidth : Nat := 8

/-- The columns from a position to the next tab stop, none at a stop. -/
def toTabStop (column : Nat) : Nat := (tabWidth - column % tabWidth) % tabWidth

/-- The stretches between the tabs of a line, from `column` on, with the tabs expanded. A tab is
a blank, and blanks up to the next stop; the blank is measured with the stretch before it. -/
def expandStretches (column : Nat) : List Text → Text
  | [] => []
  | [last] => last
  | stretch :: rest =>
    let reached := column + width (stretch ++ [' '])
    let gap := toTabStop reached
    stretch ++ ' ' :: List.replicate gap ' ' ++ expandStretches (reached + gap) rest

def expandLine (line : Text) : Text := expandStretches 0 (line.splitOn '\t')

def expandTabs (s : Text) : Text := ['\n'].intercalate ((s.splitOn '\n').map expandLine)

/-! ## Printing -/

/-- How a text is printed where no line is too long: its tabs expanded, and a line feed after it. -/
def unfolded (shown : Text) : Text := expandTabs shown ++ ['\n']

end Console
end SearchClient
