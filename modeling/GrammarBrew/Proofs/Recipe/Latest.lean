import GrammarBrew.Proofs.Pattern.Orderly
import GrammarBrew.Proofs.Recipe.Number
import GrammarBrew.Proofs.Recipe.Source
import GrammarBrew.Proofs.Regex.WholeText

/-!
The newest version in a directory, told by the numbers that versions denote. It is the one candidate
that all others count below, in whatever order the directory lists them. Candidates are matched as a
whole where the pattern is read as the expression between the two ends of the name.
-/

set_option autoImplicit false
set_option relaxedAutoImplicit false

namespace GrammarBrew

namespace Candidate

open FileTree

variable {machine : Machine} {a b newest : Candidate} {name : Text} {candidates : List Candidate}

/-! ### Versions as numbers -/

/-- The number that the first group of a match denotes; a name without one has the least version. -/
def versionIn (machine : Machine) (name : Text) : Option Nat :=
  ((machine.find? name).bind fun captures => captures.group? 1).bind numberIn?

/-- A name counts below another: its version is less, or it comes first among names of one
version. -/
def CountsBelow (machine : Machine) (a b : Text) : Prop :=
  versionIn machine a < versionIn machine b ∨ versionIn machine a = versionIn machine b ∧ a < b

private theorem ofName?_eq_some_iff :
    ofName? machine name = some a ↔ a.name = name ∧ ∃ captures, machine.find? name = some captures ∧
      a.version? = (captures.group? 1).bind digits? := by
  unfold ofName?
  rw [Option.map_eq_some_iff]
  constructor
  · rintro ⟨captures, hfind, rfl⟩
    exact ⟨rfl, captures, hfind, rfl⟩
  · rintro ⟨rfl, captures, hfind, hversion⟩
    exact ⟨captures, hfind, by rw [← hversion]⟩

private theorem versionIn_eq (h : ofName? machine name = some a) :
    versionIn machine a.name = a.version?.map decimal := by
  obtain ⟨rfl, captures, hfind, hversion⟩ := ofName?_eq_some_iff.1 h
  rw [versionIn, hfind, hversion, Option.bind_some]
  cases captures.group? 1 with
  | none => rfl
  | some text => exact (map_decimal_digits? text).symm

private theorem isNumeral_of_ofName? (h : ofName? machine name = some a) {digits : Text}
    (hdigits : a.version? = some digits) : IsNumeral digits := by
  obtain ⟨-, captures, -, hversion⟩ := ofName?_eq_some_iff.1 h
  obtain ⟨text, -, htext⟩ := Option.bind_eq_some_iff.1 (hversion.symm.trans hdigits)
  exact isNumeral_of_digits? htext

private theorem olderVersion_iff_lt {x y : Option Text}
    (hx : ∀ digits, x = some digits → IsNumeral digits)
    (hy : ∀ digits, y = some digits → IsNumeral digits) :
    olderVersion x y = true ↔ x.map decimal < y.map decimal := by
  cases y with
  | none => simp [olderVersion]
  | some y =>
    cases x with
    | none => simp [olderVersion]
    | some x =>
      rw [(hx x rfl).olderVersion_iff (hy y rfl), Option.map_some, Option.map_some,
        Option.some_lt_some]

private theorem eq_iff_decimal_eq {x y : Option Text}
    (hx : ∀ digits, x = some digits → IsNumeral digits)
    (hy : ∀ digits, y = some digits → IsNumeral digits) : x = y
      ↔ x.map decimal = y.map decimal := by
  constructor
  · rintro rfl
    rfl
  · intro h
    cases x with
    | none => exact (Option.map_eq_none_iff.1 h.symm).symm
    | some x =>
      obtain ⟨y, rfl, hdecimal⟩ := Option.map_eq_some_iff.1 h.symm
      rw [(hx x rfl).eq_of_decimal_eq (hy y rfl) hdecimal.symm]

private theorem isOlder_iff_countsBelow {other : Text} (ha : ofName? machine name = some a)
    (hb : ofName? machine other = some b) : a.isOlder b = true
      ↔ CountsBelow machine a.name b.name := by
  have hx : ∀ digits, a.version? = some digits → IsNumeral digits :=
    fun _ => isNumeral_of_ofName? ha
  have hy : ∀ digits, b.version? = some digits → IsNumeral digits :=
    fun _ => isNumeral_of_ofName? hb
  rw [isOlder_iff, CountsBelow, versionIn_eq ha, versionIn_eq hb, olderVersion_iff_lt hx hy,
    eq_iff_decimal_eq hx hy]

private theorem newest?_eq_none_iff : newest? candidates = none ↔ candidates = [] := by
  cases candidates <;> simp [newest?]

/-! ### Candidates in a directory -/

/-- A regular file right below a location has a Unicode name that the machine matches. -/
structure IsListed (tree : FileTree) (spot : Location) (machine : Machine)
    (name : Text) : Prop where
  file : ∃ file content modified, tree.get? (spot ++ [file]) = some (.file content modified) ∧
    Text.decode? file = some name
  matched : (machine.find? name).isSome

/-- The candidate that all others in a directory count below. -/
structure IsNewest (tree : FileTree) (spot : Location) (machine : Machine)
    (name : Text) : Prop where
  listed : IsListed tree spot machine name
  greatest : ∀ other, IsListed tree spot machine other → other ≠ name →
    CountsBelow machine other name

variable {tree : FileTree} {spot : Location} {listing : List Bytes} {other : Text}

private theorem IsListed.exists_candidate (h : IsListed tree spot machine name) :
    ∃ c, ofName? machine name = some c ∧ c.name = name := by
  obtain ⟨captures, hfind⟩ := Option.isSome_iff_exists.1 h.matched
  exact ⟨⟨(captures.group? 1).bind digits?, name⟩, by simp [ofName?, hfind], rfl⟩

private theorem IsNewest.unique (h : IsNewest tree spot machine name)
    (hother : IsNewest tree spot machine other) :
    name = other := by
  by_contra hne
  obtain ⟨a, ha, rfl⟩ := h.listed.exists_candidate
  obtain ⟨b, hb, rfl⟩ := hother.listed.exists_candidate
  have hab := (isOlder_iff_countsBelow ha hb).2 (hother.greatest _ h.listed hne)
  have hba := (isOlder_iff_countsBelow hb ha).2 (h.greatest _ hother.listed (Ne.symm hne))
  simpa [isOlder_irrefl] using isOlder_trans hab hba

section

variable (hlisting : ∀ file, file ∈ listing ↔ file ∈ tree.regularFiles spot)
include hlisting

private theorem mem_candidates_iff :
    a ∈ (listing.filterMap Text.decode?).filterMap (ofName? machine)
      ↔ IsListed tree spot machine a.name ∧ ofName? machine a.name = some a := by
  constructor
  · intro ha
    obtain ⟨name, hname, hmatch⟩ := List.mem_filterMap.1 ha
    obtain ⟨file, hfile, hdecode⟩ := List.mem_filterMap.1 hname
    obtain ⟨content, modified, hget⟩ := mem_regularFiles_iff.1 ((hlisting file).1 hfile)
    obtain ⟨rfl, captures, hfind, -⟩ := ofName?_eq_some_iff.1 hmatch
    exact ⟨⟨⟨file, content, modified, hget, hdecode⟩, Option.isSome_of_eq_some hfind⟩, hmatch⟩
  · rintro ⟨⟨⟨file, content, modified, hget, hdecode⟩, -⟩, hmatch⟩
    have hfile := (hlisting file).2 (mem_regularFiles_iff.2 ⟨content, modified, hget⟩)
    exact List.mem_filterMap.2 ⟨a.name, List.mem_filterMap.2 ⟨file, hfile, hdecode⟩, hmatch⟩

private theorem newestName?_eq_none_iff :
    newestName? machine (listing.filterMap Text.decode?) = none
    ↔ ∀ name, ¬ IsListed tree spot machine name := by
  rw [newestName?, newest?_eq_none_iff]
  constructor
  · intro hnil name hlisted
    obtain ⟨c, hc, rfl⟩ := hlisted.exists_candidate
    have hmem := (mem_candidates_iff hlisting).2 ⟨hlisted, hc⟩
    rw [hnil] at hmem
    cases hmem
  · intro hnone
    refine List.eq_nil_iff_forall_not_mem.2 fun c hc => ?_
    exact hnone c.name ((mem_candidates_iff hlisting).1 hc).1

private theorem newestName?_eq_some_iff :
    newestName? machine (listing.filterMap Text.decode?) = some newest
    ↔ IsNewest tree spot machine newest.name ∧ ofName? machine newest.name = some newest := by
  have hchosen : ∀ a, newestName? machine (listing.filterMap Text.decode?) = some a →
      IsNewest tree spot machine a.name ∧ ofName? machine a.name = some a := by
    intro a h
    obtain ⟨hmem, hnone⟩ := newest?_spec h
    obtain ⟨hlisted, hmatch⟩ := (mem_candidates_iff hlisting).1 hmem
    refine ⟨⟨hlisted, fun other hother hne => ?_⟩, hmatch⟩
    obtain ⟨c, hc, rfl⟩ := hother.exists_candidate
    have hnot := hnone c ((mem_candidates_iff hlisting).2 ⟨hother, hc⟩)
    rw [← isOlder_iff_countsBelow hc hmatch]
    by_contra hyounger
    exact hne (congrArg name (eq_of_not_isOlder hnot (by simpa using hyounger))).symm
  refine ⟨hchosen newest, ?_⟩
  rintro ⟨hnewest, hmatch⟩
  cases h : newestName? machine (listing.filterMap Text.decode?) with
  | none => exact absurd hnewest.listed ((newestName?_eq_none_iff hlisting).1 h newest.name)
  | some a =>
    obtain ⟨ha, hmatch'⟩ := hchosen a h
    rw [ha.unique hnewest, hmatch] at hmatch'
    exact hmatch'.symm

private theorem existsUnique_isNewest (h : IsListed tree spot machine name) :
    ∃! name, IsNewest tree spot machine name := by
  cases hnewest : newestName? machine (listing.filterMap Text.decode?) with
  | none => exact absurd h ((newestName?_eq_none_iff hlisting).1 hnewest name)
  | some newest =>
    obtain ⟨hname, -⟩ := (newestName?_eq_some_iff hlisting).1 hnewest
    exact ⟨newest.name, hname, fun other hother => hother.unique hname⟩

private theorem newestName?_congr {listing' : List Bytes}
    (hlisting' : ∀ file, file ∈ listing' ↔ file ∈ tree.regularFiles spot) :
    newestName? machine (listing.filterMap Text.decode?)
      = newestName? machine (listing'.filterMap Text.decode?) := by
  cases hnewest : newestName? machine (listing'.filterMap Text.decode?) with
  | none =>
    exact (newestName?_eq_none_iff hlisting).2 ((newestName?_eq_none_iff hlisting').1 hnewest)
  | some newest =>
    exact (newestName?_eq_some_iff hlisting).2 ((newestName?_eq_some_iff hlisting').1 hnewest)

end

end Candidate

namespace Session

variable {session after : Session} {result : Except RecipeError Path} {directory : Path}
  {pattern : Text}
  {regex : Regex} {files : List Bytes} {spot : Location}

theorem findLatest_eq (anchored : Pattern.parse (Candidate.wholeName pattern) = .ok regex)
    (hfiles : session.workspace.regularFiles directory = .ok files) :
    (findLatest (m := StateM Session) directory pattern session).1
      = (newestName? (Machine.ofRegex regex) (files.filterMap Text.decode?)).elim
        (.error (.noSource directory pattern)) fun newest =>
          .ok (directory.join (Text.encode newest.name)) := by
  have hrun : FileAccess.regularFiles (m := StateM Session) directory session
      = (session.workspace.regularFiles directory, session) := rfl
  obtain ⟨noted, hnote, -⟩ := exists_run_note (ε := RecipeError)
    (.scanned directory (files.filterMap Text.decode?).length) session
  unfold findLatest
  rw [anchored]
  simp only [run_bind_ok (run_onFile_ok (hfiles ▸ hrun)), run_bind_ok hnote]
  cases newestName? (Machine.ofRegex regex) (files.filterMap Text.decode?) with
  | none => rfl
  | some newest => rfl

/-- What is found in a directory is the newest candidate, and nothing is found exactly if there is
none. -/
theorem findLatest_result (anchored : Pattern.parse (Candidate.wholeName pattern) = .ok regex)
    (located : session.workspace.locate .entry directory = .ok (.found spot))
    (isDirectory : session.workspace.tree.kind? spot = some .directory)
    (run : findLatest (m := StateM Session) directory pattern session = (result, after)) :
    (∀ source, result = .ok source ↔ ∃ name,
      Candidate.IsNewest session.workspace.tree spot (Machine.ofRegex regex) name ∧
        source = directory.join (Text.encode name)) ∧
    (result = .error (.noSource directory pattern)
      ↔ ∀ name, ¬ Candidate.IsListed session.workspace.tree spot (Machine.ofRegex regex) name) := by
  have hfiles := Workspace.regularFiles_eq_ok_iff.2 ⟨spot, located, isDirectory, rfl⟩
  have hlisted : ∀ file, file ∈ session.workspace.tree.regularFiles spot
      ↔ file ∈ session.workspace.tree.regularFiles spot := fun _ => Iff.rfl
  have hresult := findLatest_eq anchored hfiles
  rw [run] at hresult
  obtain rfl : result = _ := hresult
  cases hnewest : newestName? (Machine.ofRegex regex)
      ((session.workspace.tree.regularFiles spot).filterMap Text.decode?) with
  | none =>
    have hnone := (Candidate.newestName?_eq_none_iff hlisted).1 hnewest
    refine ⟨fun source => iff_of_false (by simp) ?_, iff_of_true rfl hnone⟩
    rintro ⟨name, hname, -⟩
    exact hnone name hname.listed
  | some newest =>
    obtain ⟨hname, -⟩ := (Candidate.newestName?_eq_some_iff hlisted).1 hnewest
    refine ⟨fun source => ⟨fun hsource => ?_, ?_⟩, iff_of_false (by simp) fun hnone =>
      hnone _ hname.listed⟩
    · exact ⟨newest.name, hname, (Except.ok.inj hsource).symm⟩
    · rintro ⟨name, hother, rfl⟩
      rw [hother.unique hname]
      rfl

private theorem group?_of_isListed {tree : FileTree} {body : Regex} {name : Text}
    (anchored : Pattern.parse (Candidate.wholeName pattern) = .ok body.wholeText)
    (listed : Candidate.IsListed tree spot (Machine.ofRegex body.wholeText) name) :
    ((Machine.ofRegex body.wholeText).find? name).bind (·.group? 0) = some name := by
  have positive : ∀ number ∈ body.numbers, 0 < number := fun number hnumber =>
    Pattern.counted_of_parse anchored number
      (by simpa [Regex.wholeText, Regex.numbers] using hnumber)
  obtain ⟨captures, hfind⟩ := Option.isSome_iff_exists.1 listed.matched
  rw [hfind, Option.bind_some, Machine.group?_of_find?_wholeText positive hfind]

open Candidate in
/-- The source that is found in a directory is the candidate that all others count below, of which
there is one if there is any candidate; the directory may list its files in any order. Where the
pattern is read as an expression between the two ends of the name, candidates are matched as a
whole. -/
theorem findLatest_newest (anchored : Pattern.parse (wholeName pattern) = .ok regex)
    (located : session.workspace.locate .entry directory = .ok (.found spot))
    (isDirectory : session.workspace.tree.kind? spot = some .directory)
    (run : findLatest (m := StateM Session) directory pattern session = (result, after)) :
    (∀ body : Regex, regex = body.wholeText →
      ∀ name, IsListed session.workspace.tree spot (Machine.ofRegex regex) name →
        ((Machine.ofRegex regex).find? name).bind (·.group? 0) = some name) ∧
    (∀ source, result = .ok source ↔ ∃ name,
      IsNewest session.workspace.tree spot (Machine.ofRegex regex) name ∧
        source = directory.join (Text.encode name)) ∧
    (result = .error (.noSource directory pattern)
      ↔ ∀ name, ¬ IsListed session.workspace.tree spot (Machine.ofRegex regex) name) ∧
    ((∃ name, IsListed session.workspace.tree spot (Machine.ofRegex regex) name)
      → ∃! name, IsNewest session.workspace.tree spot (Machine.ofRegex regex) name) ∧
    ∀ listing : List Bytes,
      (∀ file, file ∈ listing ↔ file ∈ session.workspace.tree.regularFiles spot) →
      newestName? (Machine.ofRegex regex) (listing.filterMap Text.decode?)
        = newestName? (Machine.ofRegex regex)
          ((session.workspace.tree.regularFiles spot).filterMap Text.decode?) := by
  obtain ⟨hok, hnone⟩ := findLatest_result anchored located isDirectory run
  have hlisted : ∀ file, file ∈ session.workspace.tree.regularFiles spot
      ↔ file ∈ session.workspace.tree.regularFiles spot := fun _ => Iff.rfl
  refine ⟨fun body hbody name listed => ?_, hok, hnone, fun ⟨name, hname⟩ =>
    existsUnique_isNewest hlisted hname, ?_⟩
  · subst hbody
    exact group?_of_isListed anchored listed
  · exact fun listing hlisting => newestName?_congr hlisting hlisted

def emptyFiles (names : List Text) : Session :=
  { workspace := names.foldl (fun workspace name => (workspace.write (Path.ofText name) []).2)
      (Workspace.start [0x77] 0) }

def versionFiles : Session := emptyFiles [['v', '9'], "v010".toList, ['w', '1', '1']]

theorem locate_versionFiles :
    versionFiles.workspace.locate .entry (Path.ofText ['.']) = .ok (.found [[0x77]]) := by
  decide +kernel

theorem kind?_versionFiles : versionFiles.workspace.tree.kind? [[0x77]] = some .directory :=
  FileTree.isDirectory_iff.1 (by decide +kernel)

theorem versionFiles_newest :
    let pattern := "v([0-9]+)".toList
    ∃ body after, Pattern.parse pattern = .ok body ∧
      Pattern.parse (Candidate.wholeName pattern) = .ok body.wholeText ∧
      findLatest (m := StateM Session) (Path.ofText ['.']) pattern versionFiles
        = (.ok (Path.ofText "./v010".toList), after) ∧
      ∃ name, Candidate.IsNewest versionFiles.workspace.tree [[0x77]]
        (Machine.ofRegex body.wholeText) name ∧
        ((Machine.ofRegex body.wholeText).find? name).bind (·.group? 0) = some name ∧
        Path.ofText "./v010".toList = (Path.ofText ['.']).join (Text.encode name) := by
  intro pattern
  let digits : CharSet := .union .nothing (.range '0' '9')
  let body : Regex := .seq (.char 'v') (.group (some 1) (.rep (.set digits) 1 none true))
  have alone : Pattern.parse pattern = .ok body := by decide +kernel
  have anchored : Pattern.parse (Candidate.wholeName pattern) = .ok body.wholeText := by
    decide +kernel
  have hfound : (findLatest (m := StateM Session) (Path.ofText ['.']) pattern versionFiles).1
      = .ok (Path.ofText "./v010".toList) := by decide +kernel
  cases run : findLatest (m := StateM Session) (Path.ofText ['.']) pattern versionFiles with
  | mk result after =>
    rw [run] at hfound
    obtain ⟨hwhole, hnewest, -⟩ := findLatest_newest anchored locate_versionFiles
      kind?_versionFiles run
    obtain ⟨name, hname, hpath⟩ := (hnewest _).1 hfound
    exact ⟨body, after, alone, anchored, Prod.ext hfound rfl, name, hname,
      hwhole body rfl name hname.listed, hpath⟩

/-- A pattern that ends in a comment has no form for whole names, though it matches the name of a
file; the two halves of a pattern that closes a group it did not open match names in part. -/
theorem tornPatterns_whole :
    let comment := "(?x)v([0-9]+)#".toList
    let torn := "a)|(?:b".toList
    ((Pattern.parse comment).toOption.bind fun regex =>
        ((Machine.ofRegex regex).find? ['v', '1']).bind (·.group? 0)) = some ['v', '1'] ∧
      (findLatest (m := StateM Session) (Path.ofText ['.']) comment (emptyFiles [['v', '1']])).1
        = .error (.invalidPattern .unfinished) ∧
      (findLatest (m := StateM Session) (Path.ofText ['.']) torn (emptyFiles [['a', 'x', 'x']])).1
        = .ok (Path.ofText "./axx".toList) ∧
      ((Pattern.parse (Candidate.wholeName torn)).toOption.bind fun regex =>
        ((Machine.ofRegex regex).find? ['a', 'x', 'x']).bind (·.group? 0)) = some ['a'] := by
  decide +kernel

end Session

end GrammarBrew
