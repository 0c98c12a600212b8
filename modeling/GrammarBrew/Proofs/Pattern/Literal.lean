import GrammarBrew.Proofs.Pattern.Progress
import GrammarBrew.Proofs.Regex.Literal

/-!
Patterns for literal texts. A text is quoted by a backslash before each character that would mean
something else, and the pattern of a name has a word edge where an occurrence asks for one. Such a
pattern is read back as its characters and edges one after the other.
-/

set_option autoImplicit false
set_option relaxedAutoImplicit false

namespace GrammarBrew

namespace Pattern

open Read

/-- The characters that mean something else in a pattern than themselves. -/
def metacharacters : List Char :=
  ['\\', '.', '+', '*', '?', '(', ')', '|', '[', ']', '\x7b', '\x7d', '^', '$', '#', '&', '-', '~']

/-- A character or a word edge of a pattern: as it is spelled, as it is read, and in normal form. -/
structure Token where
  spelling : Text
  regex : Regex
  normal : Normal

namespace Token

/-- A character, with a backslash where it would mean something else. -/
def char (c : Char) : Token :=
  ⟨if metacharacters.contains c then ['\\', c] else [c], .char c, .literal [c]⟩

def wordEdge : Token := ⟨['\\', 'b'], .look (.wordEdge true), .look (.wordEdge true)⟩

def Known (token : Token) : Prop := token = wordEdge ∨ ∃ c, token = char c

def part (token : Token) : Part := ⟨some token.regex, 0⟩

end Token

def quote (text : Text) : Text := text.flatMap fun c => (Token.char c).spelling

example : quote ['a', '.', 'b'] = ['a', '\\', '.', 'b'] := by decide

/-! ### Reading one token -/

section

variable {fuel groups : Nat} {seen : List Part} {names : List Text} {c : Char} {rest : Text}

private theorem parts_nil :
    parts (fuel + 1) seen ⟨[], {}, groups, names⟩
      = .ok (sequence seen, ⟨[], {}, groups, names⟩) := by
  rw [parts]
  rfl

private theorem parts_plain (h : c ∉ metacharacters) :
    parts (fuel + 1) seen ⟨c :: rest, {}, groups, names⟩
      = parts fuel (⟨some (.char c), 0⟩ :: seen) ⟨rest, {}, groups, names⟩ := by
  have hspace : skipSpace ⟨c :: rest, {}, groups, names⟩
      = .ok ((), ⟨c :: rest, {}, groups, names⟩) := rfl
  have hpeek : peek ⟨c :: rest, {}, groups, names⟩ = .ok (some c, ⟨c :: rest, {}, groups, names⟩) :=
    rfl
  simp only [metacharacters, List.mem_cons, List.not_mem_nil, or_false, not_or] at h
  rw [parts, bind_of_ok hspace, bind_of_ok hpeek]
  simp only [h, imp_self]
  rfl

private theorem parts_escaped (h : c ∈ metacharacters) :
    parts (fuel + 1) seen ⟨'\\' :: c :: rest, {}, groups, names⟩
      = parts fuel (⟨some (.char c), 0⟩ :: seen) ⟨rest, {}, groups, names⟩ := by
  simp only [metacharacters, List.mem_cons, List.not_mem_nil, or_false] at h
  rw [parts]
  rcases h with rfl | rfl | rfl | rfl | rfl | rfl | rfl | rfl | rfl |
    rfl | rfl | rfl | rfl | rfl | rfl | rfl | rfl | rfl
  all_goals rfl

private theorem parts_wordEdge (h : rest.head? ≠ some '\x7b') :
    parts (fuel + 1) seen ⟨'\\' :: 'b' :: rest, {}, groups, names⟩
      = parts fuel (⟨some (.look (.wordEdge true)), 0⟩ :: seen) ⟨rest, {}, groups, names⟩ := by
  have hspace : skipSpace ⟨'\\' :: 'b' :: rest, {}, groups, names⟩
      = .ok ((), ⟨'\\' :: 'b' :: rest, {}, groups, names⟩) := rfl
  have hpeek : peek ⟨'\\' :: 'b' :: rest, {}, groups, names⟩
      = .ok (some '\\', ⟨'\\' :: 'b' :: rest, {}, groups, names⟩) := rfl
  have hescape : escape ⟨'\\' :: 'b' :: rest, {}, groups, names⟩
      = (wordEdge >>= fun found => pure (.condition found)) ⟨rest, {}, groups, names⟩ := rfl
  have hedge : wordEdge ⟨rest, {}, groups, names⟩
      = .ok (.wordEdge true, ⟨rest, {}, groups, names⟩) :=
    wordEdge_of_head?_ne h
  rw [bind_of_ok hedge] at hescape
  rw [parts, bind_of_ok hspace, bind_of_ok hpeek]
  exact bind_of_ok hescape

private theorem parts_token {token : Token} (known : token.Known) (h : rest.head? ≠ some '\x7b') :
    parts (fuel + 1) seen ⟨token.spelling ++ rest, {}, groups, names⟩
      = parts fuel (token.part :: seen) ⟨rest, {}, groups, names⟩ := by
  rcases known with rfl | ⟨c, rfl⟩
  · exact parts_wordEdge h
  · by_cases hc : c ∈ metacharacters
    · have hspelling : (Token.char c).spelling = ['\\', c] := if_pos (by simpa using hc)
      rw [hspelling]
      exact parts_escaped hc
    · have hspelling : (Token.char c).spelling = [c] := if_neg (by simpa using hc)
      rw [hspelling]
      exact parts_plain hc

end

/-! ### Reading a whole pattern -/

variable {tokens : List Token}

private theorem length_le_length_flatMap (known : ∀ token ∈ tokens, token.Known) :
    tokens.length ≤ (tokens.flatMap Token.spelling).length := by
  induction tokens with
  | nil => exact Nat.zero_le _
  | cons token tokens ih =>
    obtain ⟨hfirst, hrest⟩ := List.forall_mem_cons.1 known
    have hspelled : 0 < token.spelling.length := by
      rcases hfirst with rfl | ⟨c, rfl⟩
      · exact Nat.succ_pos _
      · unfold Token.char
        split <;> exact Nat.succ_pos _
    have hmore := ih hrest
    rw [List.flatMap_cons, List.length_append, List.length_cons]
    omega

private theorem head?_spelling_ne (known : ∀ token ∈ tokens, token.Known) :
    (tokens.flatMap Token.spelling).head? ≠ some '\x7b' := by
  cases tokens with
  | nil => simp
  | cons token tokens =>
    rcases known token List.mem_cons_self with rfl | ⟨c, rfl⟩
    · simp [Token.wordEdge]
    · by_cases hc : c ∈ metacharacters
      · simp [Token.char, hc]
      · have hbrace : c ≠ '\x7b' := by
          rintro rfl
          exact hc (by decide)
        simp [Token.char, hc, hbrace]

private theorem parts_tokens {fuel : Nat} (seen : List Part) (known : ∀ token ∈ tokens, token.Known)
    (enough : tokens.length < fuel) :
    parts fuel seen ⟨tokens.flatMap Token.spelling, {}, 0, []⟩
      = .ok (sequence ((tokens.map Token.part).reverse ++ seen), ⟨[], {}, 0, []⟩) := by
  induction tokens generalizing fuel seen with
  | nil =>
    obtain ⟨fuel, rfl⟩ := Nat.exists_eq_add_of_lt enough
    exact parts_nil
  | cons token tokens ih =>
    obtain ⟨hfirst, hrest⟩ := List.forall_mem_cons.1 known
    obtain ⟨fuel, rfl⟩ : ∃ less, fuel = less + 1 := ⟨fuel - 1, by omega⟩
    rw [List.flatMap_cons, parts_token hfirst (head?_spelling_ne hrest),
      ih _ hrest (by simpa using enough), List.map_cons, List.reverse_cons, List.append_assoc,
      List.singleton_append]

private theorem foldl_seq_ofParts (before : List Regex) {rest : List Regex} (hrest : rest ≠ []) :
    before.foldl (fun after part => Regex.seq part after) (Regex.ofParts rest)
      = Regex.ofParts (before.reverse ++ rest) := by
  induction before generalizing rest with
  | nil => rfl
  | cons part before ih =>
    rw [List.foldl_cons, ← Regex.ofParts_cons part hrest, ih (by simp), List.reverse_cons,
      List.append_assoc]
    rfl

private theorem foldl_depth_eq_zero {parts : List Part} (h : ∀ part ∈ parts, part.depth = 0) :
    parts.foldl (fun depth part => max depth part.depth) 0 = 0 := by
  induction parts with
  | nil => rfl
  | cons part parts ih =>
    obtain ⟨hpart, hrest⟩ := List.forall_mem_cons.1 h
    rw [List.foldl_cons, hpart]
    exact ih hrest

private theorem sequence_tokens (tokens : List Token) :
    (sequence (tokens.map Token.part).reverse).1 = Regex.ofParts (tokens.map Token.regex) ∧
      (sequence (tokens.map Token.part).reverse).2 ≤ 1 := by
  have hregexes : (tokens.map Token.part).reverse.filterMap Part.regex?
      = (tokens.map Token.regex).reverse := by
    rw [List.filterMap_reverse, List.filterMap_map]
    exact congrArg List.reverse (congrFun List.filterMap_eq_map tokens)
  unfold sequence
  dsimp only
  rw [hregexes, foldl_depth_eq_zero (by simp [Token.part])]
  refine ⟨?_, by split <;> simp⟩
  cases htokens : (tokens.map Token.regex).reverse with
  | nil =>
    rw [List.reverse_eq_nil_iff.1 htokens]
    rfl
  | cons last before =>
    rw [List.reverse_eq_cons_iff.1 htokens]
    exact foldl_seq_ofParts before (List.cons_ne_nil last [])

theorem read_tokens (known : ∀ token ∈ tokens, token.Known) :
    read (tokens.flatMap Token.spelling) = .ok (Regex.ofParts (tokens.map Token.regex)) := by
  obtain ⟨hsequence, hdepth⟩ := sequence_tokens tokens
  have hlength : tokens.length ≤ (tokens.flatMap Token.spelling).length :=
    length_le_length_flatMap known
  have hbranches : branches (2 * (tokens.flatMap Token.spelling).length + 4) []
      ⟨tokens.flatMap Token.spelling, {}, 0, []⟩
        = .ok (sequence (tokens.map Token.part).reverse, ⟨[], {}, 0, []⟩) := by
    have hparts := parts_tokens [] known
      (show tokens.length < 2 * (tokens.flatMap Token.spelling).length + 3 by omega)
    rw [List.append_nil] at hparts
    rw [branches, bind_of_ok hparts]
    rfl
  have hshallow : ¬ depthLimit < (sequence (tokens.map Token.part).reverse).2 :=
    Nat.not_lt.2 (Nat.le_trans hdepth (by decide))
  rw [← hsequence]
  exact (read_of_ok hbranches).trans (if_neg hshallow)

end Pattern

end GrammarBrew
