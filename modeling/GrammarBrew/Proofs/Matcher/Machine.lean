import GrammarBrew.Proofs.Pattern.Literal

/-!
A matcher as a regular expression. The pattern of a matcher is its name, quoted, with a word edge
where it asks for one; the machine of that pattern finds the name at the places at which the matcher
rewrites it.
-/

set_option autoImplicit false
set_option relaxedAutoImplicit false

namespace GrammarBrew.Matcher

open Pattern GrammarBrew.Normal

variable {matcher : Matcher} {text name : Text} {place last : Nat}

def pattern (matcher : Matcher) : Text :=
  (if matcher.guardsStart then ['\\', 'b'] else []) ++ quote matcher.name ++
    if matcher.guardsEnd then ['\\', 'b'] else []

example : (ofName .wordBoundary ['a', '.', 'b']).pattern
    = ['\\', 'b', 'a', '\\', '.', 'b', '\\', 'b'] := by
  decide +kernel

/-! ### The expression of the pattern -/

def edge (guards : Bool) : List Token := if guards then [.wordEdge] else []

def tokens (matcher : Matcher) : List Token :=
  edge matcher.guardsStart ++ matcher.name.map Token.char ++ edge matcher.guardsEnd

private theorem known_tokens : ∀ token ∈ matcher.tokens, token.Known := by
  have hedge : ∀ guards, ∀ token ∈ edge guards, token.Known := by
    intro guards token htoken
    cases guards with
    | false => cases htoken
    | true => exact Or.inl (List.mem_singleton.1 htoken)
  refine List.forall_mem_append.2 ⟨List.forall_mem_append.2 ⟨hedge _, ?_⟩, hedge _⟩
  intro token htoken
  obtain ⟨c, -, rfl⟩ := List.mem_map.1 htoken
  exact Or.inr ⟨c, rfl⟩

private theorem spelling_tokens : matcher.tokens.flatMap Token.spelling = matcher.pattern := by
  have hedge : ∀ guards,
      (edge guards).flatMap Token.spelling = if guards then ['\\', 'b'] else [] := by
    intro guards
    cases guards <;> rfl
  rw [tokens, List.flatMap_append, List.flatMap_append, hedge, hedge, List.flatMap_map]
  rfl

def regex (matcher : Matcher) : Regex := Regex.ofParts (matcher.tokens.map Token.regex)

theorem read_pattern (matcher : Matcher) : Pattern.read matcher.pattern = .ok matcher.regex := by
  rw [← spelling_tokens]
  exact read_tokens known_tokens

/-! ### The normal form of the expression -/

private theorem foldr_before_chars (named : name ≠ []) (guards : Bool) :
    (name.map Token.char ++ edge guards).foldr (fun token => before token.normal) []
      = .literal name :: guard guards := by
  induction name with
  | nil => exact absurd rfl named
  | cons c name ih =>
    rw [List.map_cons, List.cons_append, List.foldr_cons]
    cases name with
    | nil => cases guards <;> rfl
    | cons d name =>
      rw [ih (by simp)]
      rfl

private theorem normal_regex (named : matcher.name ≠ []) :
    matcher.regex.normal = matcher.normal := by
  have hbranches : ∀ token ∈ matcher.tokens,
      token.regex.normalBranches = [[token.normal]] ∧ Plain token.normal := by
    intro token htoken
    rcases known_tokens token htoken with rfl | ⟨c, rfl⟩
    · exact ⟨rfl, trivial⟩
    · refine ⟨?_, trivial⟩
      change [(ofRuns (CharSet.single c).runs).parts] = [[literal [c]]]
      rw [CharSet.runs_single, ofRuns, if_pos rfl, Char.ofNat_toNat]
      rfl
  have hparts : (matcher.tokens.map fun token => (token.regex, token.normal)) ≠ [] := by
    simp [tokens, named]
  have hnormal := (chooseAll_ofParts hparts
    (List.forall_mem_map.2 fun token htoken => (hbranches token htoken).1)
    (List.forall_mem_map.2 fun token htoken => (hbranches token htoken).2)).1
  rw [List.map_map, List.map_map, List.foldr_map] at hnormal
  have hfold : matcher.tokens.foldr (fun token => before token.normal) []
      = guard matcher.guardsStart ++ .literal matcher.name :: guard matcher.guardsEnd := by
    rw [tokens, List.append_assoc, List.foldr_append, foldr_before_chars named]
    cases matcher.guardsStart <;> rfl
  rw [Regex.normal, regex, normal, ← hfold]
  exact congrArg ofParts hnormal

theorem exists_parse_pattern_iff (named : matcher.name ≠ []) :
    (∃ regex, Pattern.parse matcher.pattern = .ok regex)
      ↔ matcher.normal.size ≤ Regex.sizeLimit := by
  simp only [parse_eq_ok_iff, read_pattern, Except.ok.injEq, exists_eq_left', Regex.size,
    normal_regex named]

/-! ### Where it matches -/

def EdgeAt (text : Text) (place : Nat) : Prop :=
  isBoundary (if place = 0 then none else text.toArray[place - 1]?) text.toArray[place]? = true

private theorem advances_edge (text : Text) :
    Advances text.toArray Token.wordEdge.normal fun place last =>
      EdgeAt text place ∧ last = place :=
  advances_look (.wordEdge true)

private theorem advances_named (text : Text) (guards : Bool) :
    Advances text.toArray (ofParts (.literal name :: guard guards)) fun place last =>
      (name <+: text.drop place ∧ (guards = true → EdgeAt text last)) ∧
        last = place + name.length := by
  cases guards with
  | false => exact (advances_literal text name).congr fun place last => by simp
  | true =>
    refine ((advances_literal text name).seq (advances_edge text)).congr fun place last => ?_
    constructor
    · rintro ⟨_, ⟨hbegins, rfl⟩, hend, rfl⟩
      exact ⟨⟨hbegins, fun _ => hend⟩, rfl⟩
    · rintro ⟨⟨hbegins, hend⟩, rfl⟩
      exact ⟨_, ⟨hbegins, rfl⟩, hend rfl, rfl⟩

private theorem advances_guarded {text : Text} {part : Normal} {parts : List Normal}
    {goes : Nat → Nat → Prop}
    (guards : Bool) (h : Advances text.toArray (ofParts (part :: parts)) goes) :
    Advances text.toArray (ofParts (guard guards ++ part :: parts)) fun place last =>
      (guards = true → EdgeAt text place) ∧ goes place last := by
  cases guards with
  | false => exact h.congr fun place last => by simp
  | true =>
    refine ((advances_edge text).seq h).congr fun place last => ?_
    constructor
    · rintro ⟨_, ⟨hstart, rfl⟩, hgoes⟩
      exact ⟨fun _ => hstart, hgoes⟩
    · rintro ⟨hstart, hgoes⟩
      exact ⟨place, ⟨hstart rfl, rfl⟩, hgoes⟩

private theorem advances_regex (named : matcher.name ≠ []) (text : Text) :
    Advances text.toArray matcher.regex.normal fun place last =>
      ((matcher.guardsStart = true → EdgeAt text place) ∧ matcher.name <+: text.drop place ∧
        (matcher.guardsEnd = true → EdgeAt text (place + matcher.name.length))) ∧
      last = place + matcher.name.length := by
  rw [normal_regex named, normal]
  refine (advances_guarded matcher.guardsStart (advances_named text matcher.guardsEnd)).congr
    fun place last => ?_
  constructor
  · rintro ⟨hstart, ⟨hbegins, hend⟩, rfl⟩
    exact ⟨⟨hstart, hbegins, hend⟩, rfl⟩
  · rintro ⟨⟨hstart, hbegins, hend⟩, rfl⟩
    exact ⟨hstart, ⟨hbegins, hend⟩, rfl⟩

private theorem edgeAt_length_iff (front rest : Text) :
    EdgeAt (front ++ rest) front.length ↔ isBoundary front.getLast? rest.head? = true := by
  have hbefore : (if front.length = 0 then none else (front ++ rest).toArray[front.length - 1]?)
      = front.getLast? := by
    rcases List.eq_nil_or_concat' front with rfl | ⟨body, c, rfl⟩
    · rfl
    · simp
  have hafter : (front ++ rest).toArray[front.length]? = rest.head? := by
    cases rest <;> simp
  rw [EdgeAt, hbefore, hafter]

private theorem standsAt_iff_edges (named : matcher.name ≠ []) : matcher.StandsAt text place ↔
    (matcher.guardsStart = true → EdgeAt text place) ∧ matcher.name <+: text.drop place ∧
      (matcher.guardsEnd = true → EdgeAt text (place + matcher.name.length)) := by
  have hedges : ∀ front rest,
      (EdgeAt (front ++ matcher.name ++ rest) front.length ↔
        isBoundary front.getLast? matcher.name.head? = true) ∧
      (EdgeAt (front ++ matcher.name ++ rest) (front.length + matcher.name.length) ↔
        isBoundary matcher.name.getLast? rest.head? = true) := by
    intro front rest
    have hstart := edgeAt_length_iff front (matcher.name ++ rest)
    have hend := edgeAt_length_iff (front ++ matcher.name) rest
    rw [List.head?_append_of_ne_nil _ named, ← List.append_assoc] at hstart
    rw [List.getLast?_append_of_ne_nil _ named, List.length_append] at hend
    exact ⟨hstart, hend⟩
  constructor
  · rintro ⟨front, rest, rfl, rfl, hstart, hend⟩
    obtain ⟨hfirst, hlast⟩ := hedges front rest
    refine ⟨fun hguards => hfirst.2 (hstart hguards), ?_, fun hguards => hlast.2 (hend hguards)⟩
    rw [List.append_assoc, List.drop_left]
    exact List.prefix_append _ _
  · rintro ⟨hstart, ⟨rest, hrest⟩, hend⟩
    have hplace : (text.take place).length = place := by
      have hlength := congrArg List.length hrest
      have hpos := List.length_pos_iff.2 named
      rw [List.length_append, List.length_drop] at hlength
      exact List.length_take_of_le (by omega)
    have htext : text = text.take place ++ matcher.name ++ rest := by
      rw [List.append_assoc, hrest, List.take_append_drop]
    obtain ⟨hfirst, hlast⟩ := hedges (text.take place) rest
    rw [← htext, hplace] at hfirst hlast
    exact ⟨_, rest, htext, hplace, fun hguards => hfirst.1 (hstart hguards),
      fun hguards => hlast.1 (hend hguards)⟩

theorem finds_places (named : matcher.name ≠ []) (text : Text) :
    (Machine.ofRegex matcher.regex).Finds text 0
      ((matcher.places text).map fun first => (first, first + matcher.name.length)) := by
  have hadvances : Advances text.toArray matcher.regex.normal fun place last =>
      matcher.StandsAt text place ∧ last = place + matcher.name.length :=
    (advances_regex named text).congr fun place last => and_congr_left fun _ =>
      (standsAt_iff_edges named).symm
  refine Machine.finds_of_leftmost hadvances (List.length_pos_iff.2 named) ?_ ?_
  · rintro place ⟨front, rest, rfl, rfl, -⟩
    simp only [List.length_append]
    omega
  · exact (leftmost_places named text).congr fun place => by simp

end GrammarBrew.Matcher
