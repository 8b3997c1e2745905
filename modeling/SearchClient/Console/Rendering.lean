import SearchClient.Console.Tag
import SearchClient.Failure

/-!
# Console markup: plain text

What console markup shows, without the styles. A tag shows nothing; it opens a style, or closes
the last one that is open under its name. Of the backslashes before a tag half are shown, and an
odd one guards the tag, which is then shown as it is written.

1. `render` gives the text, or the first closing tag that nothing matches;
2. `renderOrRaw` shows markup with such a tag as it is written;
3. control characters that move the print position are never shown.
-/

namespace SearchClient
namespace Console

/-! ## Control characters -/

/-- Whether a character rings, or moves the print position other than to the next line or tab. -/
def isControl (c : Char) : Bool := ['\x07', '\x08', '\x0B', '\x0C', '\r'].contains c

/-- A text without such characters. -/
def printable (s : Text) : Text := s.filter fun c => !isControl c

/-! ## Tags -/

inductive Action where
  | opens (name : Text)
  | closes (name : Text)
  | closesLast
  deriving DecidableEq

/-- The form of each name in which names are compared. Styles may have several names, such as `b` for
`bold`, and which ones they are is the console's affair. -/
abbrev Naming := Text → Text

/-- Each style has one name, written in any case and with blanks around it. -/
def Naming.plain : Naming := fun name => Text.lower (Text.trim name)

/-- What the tag with a given inside does; parameters after an equals sign do not matter. -/
def Action.ofBody (naming : Naming) (body : Text) : Action :=
  match body.takeWhile (· != '=') with
  | '/' :: name =>
    if (Text.trim name).isEmpty then closesLast else closes (naming (Text.trim name))
  | name => opens (naming name)

/-- The names that are open after a tag at `position`, the last opened first. -/
def Action.apply (body : Text) (position : Nat) (stack : List Text) :
    Action → Except Failure (List Text)
  | opens name => .ok (name :: stack)
  | closes name =>
    if stack.contains name then .ok (stack.erase name)
    else .error (.unmatchedTag ('[' :: body ++ [']']) position)
  | closesLast =>
    match stack with
    | [] => .error (.nothingOpen position)
    | _ :: rest => .ok rest

/-! ## Rendering -/

def Token.width : Token → Nat
  | char slashes _ => slashes + 1
  | tag slashes body => slashes + body.length + 2
  | finish slashes => slashes

/-- The text of tokens that stand at `position`, while the names on `stack` are open. -/
def renderTokens (naming : Naming) (position : Nat) (stack : List Text) :
    List Token → Except Failure Text
  | [] => .ok []
  | token :: rest => do
    let after := position + token.width
    match token with
    | .char slashes c =>
      -- a left bracket that opens no tag uses up one backslash
      let kept := if c = '[' then slashes - 1 else slashes
      return backslashes kept ++ c :: (← renderTokens naming after stack rest)
    | .finish slashes => return backslashes slashes ++ (← renderTokens naming after stack rest)
    | .tag slashes body =>
      if slashes % 2 = 1 then
        return backslashes (slashes / 2) ++ '[' :: body ++
          ']' :: (← renderTokens naming after stack rest)
      else
        let opened ← (Action.ofBody naming body).apply body (position + slashes) stack
        return backslashes (slashes / 2) ++ (← renderTokens naming after opened rest)

def render (naming : Naming) (markup : Text) : Except Failure Text :=
  (renderTokens naming 0 [] (Token.scan markup)).map printable

/-- The plain text of markup, or the markup itself if a closing tag in it matches nothing. -/
def renderOrRaw (naming : Naming) (markup : Text) : Text :=
  match render naming markup with
  | .ok text => text
  | .error _ => printable markup

end Console
end SearchClient
