import GrammarBrew.Regex.CharSet

/-!
Regular expressions as trees. Alternatives and repetitions have an order of preference: the first
alternative before the second, and one more round before none where a repetition is greedy.
-/

set_option autoImplicit false
set_option relaxedAutoImplicit false

namespace GrammarBrew

/-- A condition on a place between two characters. -/
inductive Look where
  | textStart
  | textEnd
  /-- The start of a line; a carriage return ends lines too if asked. -/
  | lineStart (crlf : Bool)
  /-- The end of a line; a carriage return ends lines too if asked. -/
  | lineEnd (crlf : Bool)
  | wordEdge (unicode : Bool)
  | noWordEdge (unicode : Bool)
  | wordStart (unicode : Bool)
  | wordEnd (unicode : Bool)
  | noWordBefore (unicode : Bool)
  | noWordAfter (unicode : Bool)
  deriving DecidableEq, Repr

namespace Look

def isWord (unicode : Bool) (c? : Option Char) : Bool :=
  c?.any fun c => if unicode then Text.isWord c else c.isAlphanum || c == '_'

/-- Whether the condition holds between two neighbours; at an end of the text there is none. -/
def holds (before after : Option Char) : Look → Bool
  | textStart => before.isNone
  | textEnd => after.isNone
  | lineStart false => before.isNone || before == some '\n'
  | lineStart true =>
    before.isNone || before == some '\n' || (before == some '\r' && after != some '\n')
  | lineEnd false => after.isNone || after == some '\n'
  | lineEnd true =>
    after.isNone || after == some '\r' || (after == some '\n' && before != some '\r')
  | wordEdge u => isWord u before != isWord u after
  | noWordEdge u => isWord u before == isWord u after
  | wordStart u => !isWord u before && isWord u after
  | wordEnd u => isWord u before && !isWord u after
  | noWordBefore u => !isWord u before
  | noWordAfter u => !isWord u after

/-- Whether the condition asks for word characters beyond ASCII. -/
def readsWords : Look → Bool
  | wordEdge u | noWordEdge u | wordStart u | wordEnd u | noWordBefore u | noWordAfter u => u
  | _ => false

end Look

inductive Regex where
  | empty
  | set (chars : CharSet)
  | look (condition : Look)
  | seq (first second : Regex)
  | alt (first second : Regex)
  /-- Matches at least so many times in a row and, if there is a bound, at most so many. -/
  | rep (body : Regex) (least : Nat) (most : Option Nat) (greedy : Bool)
  /-- A group, whose match is kept under its number if it has one. -/
  | group (number : Option Nat) (body : Regex)
  deriving DecidableEq, Repr

namespace Regex

def char (c : Char) : Regex := set (.single c)

def groups : Regex → Nat
  | seq a b => max a.groups b.groups
  | alt a b => max a.groups b.groups
  | rep body _ _ _ => body.groups
  | group number body => max (number.getD 0) body.groups
  | _ => 0

/-- Whether a condition that an expression sets is one of some. -/
def anyLook (holds : Look → Bool) : Regex → Bool
  | look condition => holds condition
  | seq a b => a.anyLook holds || b.anyLook holds
  | alt a b => a.anyLook holds || b.anyLook holds
  | rep body _ _ _ => body.anyLook holds
  | group _ body => body.anyLook holds
  | _ => false

end Regex

end GrammarBrew
