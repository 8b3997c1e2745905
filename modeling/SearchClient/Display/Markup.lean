import SearchClient.Charset.Label
import SearchClient.Console.Tag

/-!
# Markup for display

How raw text is brought to a display: how it is made safe, which character sets its encoded words
may be in, and how a highlighted term is wrapped.
-/

namespace SearchClient

/-- How raw text is made safe. -/
inductive Escaping where
  /-- Angle brackets become character entities. -/
  | entities
  /-- Tags of console markup are guarded. -/
  | console
  /-- Text stays as it is. -/
  | none
  deriving DecidableEq

namespace Escaping

/-- The entity of an angle bracket; another character stays. -/
def entity (c : Char) : Text :=
  if c = '<' then ['&', 'l', 't', ';'] else if c = '>' then ['&', 'g', 't', ';'] else [c]

def apply : Escaping → Text → Text
  | entities, s => s.flatMap entity
  | console, s => Console.escape s
  | none, s => s

end Escaping

/-- The markers around a highlighted term, the escaping that goes with them, and the wide character
sets that are at hand: none, if nothing else is said. -/
structure Markup where
  opening : Text
  closing : Text
  escaping : Escaping
  wide : Charset.Wide := fun _ => none

namespace Markup

def html : Markup where
  opening := "<span style=\"background-color:#FFFF00;font-weight:bold\">".toList
  closing := "</span>".toList
  escaping := .entities

def console : Markup where
  opening := "[bold black on yellow]".toList
  closing := "[/]".toList
  escaping := .console

end Markup
end SearchClient
