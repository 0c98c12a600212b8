import GrammarBrew.Console
import GrammarBrew.Pattern.Parser

/-!
Which events are shown. A filter is a list of directives such as `debug` or `part=warn`; of those
that speak of an event the most specific one decides, then the one whose detail has the later name,
and of two alike the later one. A directive that names a span speaks of no event, for there are no
spans, and neither does one that asks for a value of a detail. An empty filter shows errors.
-/

set_option autoImplicit false
set_option relaxedAutoImplicit false

namespace GrammarBrew

structure Directive where
  target? : Option Text := none
  detail? : Option Text := none
  /-- Whether it speaks of spans, or of the value of a detail, alone. -/
  forSpans : Bool := false
  /-- The least important level to show; nothing is shown without one. -/
  level? : Option Level := some .trace
  deriving DecidableEq, Repr

namespace Level

def all : List Level := [error, warn, info, debug, trace]

/-- The limit that a word or a number stands for: a level, or nothing at all. -/
def limit? (text : Text) : Option (Option Level) :=
  let digits := if text.head? = some '+' then text.tail else text
  if !digits.isEmpty && digits.all Text.isAsciiDigit then
    match digits.dropWhile (fun c => c == '0') with
    | [] => some none
    | significant => (all.find? fun level => Text.ofNat level.rank == significant).map some
  else
    let word := text.map Char.toUpper
    if word = "OFF".toList then some none
    else (all.find? fun level => level.label == word).map some

end Level

namespace Event

def details : Event → List Text
  | scanned _ _ => ["dir".toList, "candidates".toList, "message".toList]
  | selected _ _ => ["source".toList, "output".toList, "message".toList]
  | substituted _ _ => ["pass".toList, "name".toList, "matches".toList, "message".toList]
  | brewed _ _ => ["macros".toList, "passes".toList, "message".toList]
  | _ => ["message".toList]

end Event

namespace Directive

/-- Where reading stands in a directive; numbers are where a part began. -/
inductive State where
  | start
  | word (start : Nat)
  | span (start : Nat)
  | detail (start : Nat)
  | details
  | target
  | level (start : Nat)
  deriving DecidableEq, Repr

def part (text : Text) (start stop : Nat) : Text := (text.take stop).drop start

/-- Whether a text is a number without its sign: digits that may have a point and a power of ten, or
a word for what is no finite number. -/
def isUnsigned (text : Text) : Bool :=
  let whole := text.takeWhile Text.isAsciiDigit
  let afterWhole := text.drop whole.length
  let tail := if afterWhole.head? = some '.' then afterWhole.tail else []
  let fraction := tail.takeWhile Text.isAsciiDigit
  let power := if afterWhole.head? = some '.' then tail.drop fraction.length else afterWhole
  let digits := match power with
    | _ :: sign :: rest => if sign = '+' ∨ sign = '-' then rest else sign :: rest
    | _ => []
  ["inf".toList, "infinity".toList, "nan".toList].contains (text.map Char.toLower) ||
    (!(whole ++ fraction).isEmpty && (power.isEmpty ||
      ((power.head? == some 'e' || power.head? == some 'E') && !digits.isEmpty &&
        digits.all Text.isAsciiDigit)))

/-- Whether a text is a value that a detail may be asked for: a number, or a pattern that does not
look for word edges beyond ASCII. -/
def isValue (text : Text) : Bool :=
  (text.head? == some '+' && isUnsigned text.tail) ||
    match Pattern.read text with
    | .ok regex => !regex.anyLook Look.readsWords
    | .error _ => false

/-- Ask for the detail that a text names; one with a value speaks of spans alone. -/
def withDetail (directive : Directive) (text : Text) : Option Directive :=
  match Text.splitOn '=' text with
  | [[]] => none
  | [name] => some { directive with detail? := some name }
  | name :: value :: _ =>
    if isValue value then some { directive with detail? := some name, forSpans := true } else none
  | [] => none

def step (text : Text) (place : Nat) (c : Char) : State → Directive → Option (State × Directive)
  | .start, directive =>
    if c = '[' then some (.span (place + 1), directive)
    else if c = '-' ∨ c = ':' ∨ Text.isNameChar c then some (.word place, directive)
    else none
  | .word start, directive =>
    if c = '=' then some
      (.level (place + 1), { directive with target? := some (part text start place) })
    else if c = '[' then
      some (.span (place + 1), { directive with target? := some (part text start place) })
    else some (.word start, directive)
  | .span start, directive =>
    if c = ']' then some (.target, { directive with forSpans := true })
    else if c = '\x7b' then
      some (.detail (place + 1), { directive with forSpans := decide (start < place) })
    else some (.span start, directive)
  | .detail start, directive =>
    if c = '\x7d' then (directive.withDetail (part text start place)).map fun d => (.details, d)
    else some (.detail start, directive)
  | .details, directive => if c = ']' then some (.target, directive) else none
  | .target, directive => if c = '=' then some (.level (place + 1), directive) else none
  | .level start, directive => some (.level start, directive)

def finish (text : Text) : State → Directive → Option Directive
  | .word start, directive =>
    match Level.limit? (text.drop start) with
    | some level? => some { directive with level? := level? }
    | none => some { directive with target? := some (text.drop start) }
  | .level start, directive =>
    if (text.drop start).isEmpty then some directive
    else (Level.limit? (text.drop start)).map fun level? => { directive with level? := level? }
  | .target, directive => some directive
  | _, _ => none

def parseFrom (text : Text) : Text → Nat → State → Directive → Option Directive
  | [], _, state, directive => finish text state directive
  | c :: rest, place, state, directive =>
    match step text place c state directive with
    | some (state, directive) => parseFrom text rest (place + 1) state directive
    | none => none

/-- Read a directive. Blanks around it are left out of the count of places, yet the parts are cut
out of the text with the blanks. -/
def parse? (text : Text) : Option Directive := parseFrom text (Text.trim text) 0 .start {}

def applies (directive : Directive) (event : Event) : Bool :=
  !directive.forSpans && (directive.target?.all fun target => target.isPrefixOf event.origin) &&
    directive.detail?.all fun name => event.details.contains name

/-- Whether what one directive asks for outweighs what another does: something outweighs nothing,
and of two texts the one that `isLess` puts last. -/
def outweighsBy (isLess : Text → Text → Bool) : Option Text → Option Text → Bool
  | some a, some b => isLess b a
  | some _, none => true
  | none, _ => false

/-- Whether a directive is more specific than another: by the length of its target first, then by
its detail. -/
def outweighs (a b : Directive) : Bool :=
  let longer := outweighsBy fun x y => decide ((Text.encode x).length < (Text.encode y).length)
  longer a.target? b.target? || (!longer b.target? a.target? &&
    outweighsBy (fun x y => decide (x < y)) a.detail? b.detail?)

end Directive

abbrev Filter := List Directive

namespace Filter

def upTo (level? : Option Level) : Filter := [⟨none, none, false, level?⟩]

def parse? (text : Text) : Option Filter :=
  match ((Text.splitOn ',' text).filter fun part => !part.isEmpty).mapM Directive.parse? with
  | some [] => some (upTo (some .error))
  | directives? => directives?

def deciding? (filter : Filter) (event : Event) : Option Directive :=
  (filter.filter fun directive => directive.applies event).foldl (fun best directive =>
    match best with
    | none => some directive
    | some other => if other.outweighs directive then best else some directive) none

def admits (filter : Filter) (event : Event) : Bool :=
  match (filter.deciding? event).bind Directive.level? with
  | some level => decide (event.level.rank ≤ level.rank)
  | none => false

def usualPlace : Nat := 3

def greatestTimes : Nat := 255

/-- The filter for a command line on which more and less were asked for so many times. -/
def ofVerbosity (verbose quiet : Nat) : Filter :=
  let place := min (usualPlace + min verbose greatestTimes - min quiet greatestTimes)
    Level.all.length
  upTo (Level.all.find? fun level => level.rank == place)

/-- The filter of a run: the given text if it is one, or else what the command line asks for. -/
def choose (text? : Option Text) (verbose quiet : Nat) : Filter :=
  (text?.bind parse?).getD (ofVerbosity verbose quiet)

example : parse? "info,chef=DEBUG".toList =
    some [⟨none, none, false, some .info⟩, ⟨some "chef".toList, none, false, some .debug⟩] := by
  decide +kernel
example : parse? "info, chef=debug".toList = none := by decide +kernel
example : ofVerbosity 0 9 = upTo none := by decide +kernel

end Filter

end GrammarBrew
