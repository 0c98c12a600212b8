import GrammarBrew.Regex.Normal
import GrammarBrew.Text.Utf8Range

/-!
The memory that the machine of an expression takes where it reads bytes: 32 for a state, 8 more for
each byte range that leads on from it and 4 more for each way that a fork has. There is one machine
for each direction of reading; the one that reads backwards keeps no groups.
-/

set_option autoImplicit false
set_option relaxedAutoImplicit false

namespace GrammarBrew

open Text (ByteRanges sequencesOfRun)

/-- What the states of an expression take, and whether the last of them is a fork, which grows by
each way that is added to it. -/
structure Extent where
  bytes : Nat
  forked : Bool := false
  deriving DecidableEq, Repr

namespace Extent

def state : Nat := 32

def range : Nat := 8

def way : Nat := 4

def link (extent : Extent) : Nat := if extent.forked then way else 0

def andThen (first second : Extent) : Extent :=
  ⟨first.bytes + first.link + second.bytes, second.forked⟩

/-- So many copies one after the other; no copy is a state that does nothing. -/
def copies (count : Nat) (extent : Extent) : Extent :=
  if count = 0 then ⟨state, false⟩
  else ⟨count * extent.bytes + (count - 1) * extent.link, extent.forked⟩

/-- At least so many times; `isBlank` tells whether there may be rounds without a character. -/
def atLeast (isBlank : Bool) (least : Nat) (body : Extent) : Extent :=
  if least = 0 ∧ isBlank then ⟨body.bytes + body.link + 3 * state + 4 * way, false⟩
  else
    let rounds := body.copies (max least 1)
    ⟨rounds.bytes + rounds.link + state + way, true⟩

def between (least most : Nat) (body : Extent) : Extent :=
  if least = most then body.copies least
  else if least = 0 ∧ most = 1 then ⟨body.bytes + body.link + 2 * state + 2 * way, false⟩
  else
    let start := body.copies least
    ⟨start.bytes + start.link + state
      + (most - least) * (state + 2 * way + body.bytes + body.link), false⟩

def either (branches : List Extent) : Extent :=
  ⟨branches.foldl (fun bytes branch => bytes + way + branch.bytes + branch.link) (2 * state), false⟩

def kept (body : Extent) : Extent := ⟨2 * state + body.bytes + body.link, false⟩

end Extent

open Extent (state range way)

/-- What follows each first element of some lists, lists with one first element together; the empty
list has none. -/
def tailsByHead {α : Type} [BEq α] (lists : List (List α)) : List (List (List α)) :=
  (lists.filterMap List.head?).eraseDups.map fun head =>
    lists.filterMap fun list => if list.head? == some head then some list.tail else none

/-- The nodes of a tree of sequences, each given by the sequences that lead on from it; the bound is
the length of the sequences. -/
def nodesOf : Nat → List ByteRanges → List (List ByteRanges)
  | 0, _ => []
  | bound + 1, sequences =>
    if sequences.all List.isEmpty then []
    else sequences :: (tailsByHead sequences).flatMap (nodesOf bound)

/-- What a set takes that is read forwards: a state for each different node of its tree of
sequences. -/
def forwardExtent (sequences : List ByteRanges) : Nat :=
  (nodesOf 4 sequences).eraseDups.foldl
    (fun bytes node => bytes + state + range * (tailsByHead node).length) state

def sharedLength : ByteRanges → ByteRanges → Nat
  | a :: as, b :: bs => if a = b then sharedLength as bs + 1 else 0
  | _, _ => 0

/-- The number of different beginnings of sequences, where those with one beginning stand
together. -/
def beginnings : ByteRanges → List ByteRanges → Nat
  | _, [] => 0
  | last, sequence :: rest =>
    sequence.length - sharedLength last sequence + beginnings sequence rest

/-- What a set takes that is read backwards: a state for each beginning, and a way for each
sequence. -/
def backwardExtent (sequences : List ByteRanges) : Nat :=
  2 * state + way * sequences.length + state * beginnings [] sequences

def setExtent (backwards : Bool) (runs : List (Nat × Nat)) : Nat :=
  if runs.all fun run => decide (run.2 ≤ 0x7f) then 2 * state + range * runs.length
  else
    let sequences := runs.flatMap sequencesOfRun
    if backwards then backwardExtent sequences else forwardExtent sequences

/-- Literals in groups between which a literal ends. Ends before the first other literal count
once. -/
def groupsBetweenEnds (literals : List Bytes) : List (List Bytes) :=
  let rest := literals.dropWhile List.isEmpty
  let groups := rest.foldr (fun literal groups =>
    if literal.isEmpty then [] :: groups
    else match groups with
      | [] => [[literal]]
      | group :: others => (literal :: group) :: others) [[]]
  if rest.length < literals.length then [] :: groups else groups

/-- What a tree of literals takes: at each place a fork to the groups that lead on and to the ends
between them. The bound is the length of the literals. -/
def treeExtent : Nat → List Bytes → Nat
  | 0, _ => 0
  | bound + 1, literals =>
    if literals.all List.isEmpty then 0
    else
      let groups := groupsBetweenEnds literals
      let full := groups.filter fun group => !group.isEmpty
      state + way * (full.length + groups.length - 1) + (full.map fun group =>
        let tails := tailsByHead group
        state + (if tails.length = 1 then 0 else range * tails.length) +
          (tails.map (treeExtent bound)).sum).sum

namespace Normal

def literal? : Normal → Option Text
  | literal text => some text
  | _ => none

/-- What a choice takes, given what its branches take. Where all branches are literals they make up
a tree. -/
def choiceExtent (backwards : Bool) (choice : Normal) (extents : List Extent) : Extent :=
  match extents with
  | [extent] => extent
  | _ =>
    match choice.branches.mapM literal? with
    | some texts =>
      let literals := texts.map fun text =>
        if backwards then (Text.encode text).reverse else Text.encode text
      ⟨state + treeExtent (((literals.map List.length).max?).getD 0) literals, false⟩
    | none => .either extents

def branchExtents (backwards : Bool) : Normal → List Extent
  | empty => [⟨state, false⟩]
  | literal text => [⟨state * (Text.encode text).length, false⟩]
  | set runs => [⟨setExtent backwards runs, false⟩]
  | look _ => [⟨state, false⟩]
  | rep body least most _ =>
    let inner := choiceExtent backwards body (branchExtents backwards body)
    match most with
    | some most => [inner.between least most]
    | none => [inner.atLeast (body.minLength.getD 0 == 0) least]
  | kept _ body =>
    let inner := choiceExtent backwards body (branchExtents backwards body)
    [if backwards then inner else inner.kept]
  | seq first second =>
    let one := choiceExtent backwards first (branchExtents backwards first)
    let other := choiceExtent backwards second (branchExtents backwards second)
    [if backwards then other.andThen one else one.andThen other]
  | alt first second =>
    choiceExtent backwards first (branchExtents backwards first) :: branchExtents backwards second

def extent (backwards : Bool) (normal : Normal) : Extent :=
  choiceExtent backwards normal (branchExtents backwards normal)

/-- Whether a match always begins at the start of the text, as its first parts say. -/
def isAtStart : Normal → Bool
  | look condition => condition == .textStart
  | seq first second => first.isAtStart || (first.maxLength == some 0 && second.isAtStart)
  | alt first second => first.isAtStart && second.isAtStart
  | rep body least _ _ => decide (0 < least) && body.isAtStart
  | kept _ body => body.isAtStart
  | _ => false

/-- Whether a match always ends at the end of the text, as its last parts say. -/
def isAtEnd : Normal → Bool
  | look condition => condition == .textEnd
  | seq first second => second.isAtEnd || (second.maxLength == some 0 && first.isAtEnd)
  | alt first second => first.isAtEnd && second.isAtEnd
  | rep body least _ _ => decide (0 < least) && body.isAtEnd
  | kept _ body => body.isAtEnd
  | _ => false

/-- What the machine takes that reads forwards: it keeps the whole match, and skips bytes before it
unless the match is at the start. -/
def forwardBytes (normal : Normal) : Nat :=
  let whole := (normal.extent false).kept
  (if normal.isAtStart then state else 3 * state + 2 * way + range) + whole.bytes + state

def backwardBytes (normal : Normal) : Nat :=
  let whole := normal.extent true
  (if normal.isAtEnd then state else 3 * state + 2 * way + range) + whole.bytes + whole.link + state

def size (normal : Normal) : Nat := max normal.forwardBytes normal.backwardBytes

end Normal

namespace Regex

def sizeLimit : Nat := 10485760

def size (regex : Regex) : Nat := regex.normal.size

end Regex

example : setExtent false [(0x4b, 0x4b), (0x6b, 0x6b), (0x212a, 0x212a)] = 168 := by decide +kernel
example : setExtent true [(0x4b, 0x4b), (0x6b, 0x6b), (0x212a, 0x212a)] = 236 := by decide +kernel
example : treeExtent 2 [[0x61, 0x62], [0x63, 0x64]] = 220 := by decide +kernel

end GrammarBrew
