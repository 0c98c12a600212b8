import GrammarBrew.Proofs.Pattern.Anchored
import GrammarBrew.Proofs.Pattern.Orderly
import GrammarBrew.Proofs.Recipe.Latest
import GrammarBrew.Proofs.Regex.Paths

/-!
The source pattern as a pattern for whole names. A pattern that closes no group it did not open is
refused unless it is read alone, ends before what is put behind it, and leaves room for the group
around it. Then the candidates are the files whose whole names the pattern matches, taken alone.
-/

set_option autoImplicit false
set_option relaxedAutoImplicit false

namespace GrammarBrew

namespace Candidate

/-- A regular file right below a location has a Unicode name that an expression matches from its
start to its end. -/
structure IsMatched (tree : FileTree) (spot : Location) (body : Regex) (name : Text) : Prop where
  file : ∃ file content modified, tree.get? (spot ++ [file]) = some (.file content modified) ∧
    Text.decode? file = some name
  whole : body.Matches name.toArray 0 name.length

variable {tree : FileTree} {spot : Location} {body : Regex} {name : Text}

private theorem isListed_iff_isMatched (orderly : body.Orderly) :
    IsListed tree spot (Machine.ofRegex body.wholeText) name ↔ IsMatched tree spot body name := by
  constructor
  · rintro ⟨hfile, hmatched⟩
    exact ⟨hfile, (Machine.isSome_find?_wholeText_iff orderly).1 hmatched⟩
  · rintro ⟨hfile, hwhole⟩
    exact ⟨hfile, (Machine.isSome_find?_wholeText_iff orderly).2 hwhole⟩

end Candidate

namespace Session

open Candidate

variable {session after : Session} {result : Except RecipeError Path} {directory : Path}
  {pattern : Text}

private theorem invalidPattern_iff
    (run : findLatest (m := StateM Session) directory pattern session = (result, after)) :
    (∃ fault, result = .error (.invalidPattern fault)) ↔
      ∀ regex, Pattern.parse (Candidate.wholeName pattern) ≠ .ok regex := by
  cases hparse : Pattern.parse (Candidate.wholeName pattern) with
  | error fault =>
    unfold findLatest at run
    rw [hparse] at run
    obtain ⟨rfl, rfl⟩ := Prod.mk.inj run
    exact iff_of_true ⟨fault, rfl⟩ fun regex h => nomatch h
  | ok regex =>
    refine iff_of_false ?_ fun h => h regex rfl
    rintro ⟨fault, rfl⟩
    cases hfiles : session.workspace.regularFiles directory with
    | error fault =>
      have hrun : FileAccess.regularFiles (m := StateM Session) directory session
          = (.error fault, session) :=
        congrArg (·, session) hfiles
      unfold findLatest at run
      rw [hparse] at run
      simp only [run_bind_error (run_onFile_error hrun)] at run
      cases run
    | ok files =>
      have hresult := findLatest_eq hparse hfiles
      rw [run] at hresult
      cases hnewest : newestName? (Machine.ofRegex regex) (files.filterMap Text.decode?) with
      | none =>
        rw [hnewest] at hresult
        cases hresult
      | some newest =>
        rw [hnewest] at hresult
        cases hresult

/-- A pattern that closes no group it did not open is taken for whole names. It is refused if it
cannot be read alone, and otherwise exactly if a comment of it takes in what is put behind it or the
group around it leaves no room. If it is not refused, the candidates are the files whose whole names
it matches, taken alone. -/
theorem findLatest_wholeNames (balanced : Pattern.read pattern ≠ .error .unopenedGroup)
    (run : findLatest (m := StateM Session) directory pattern session = (result, after)) :
    (∀ fault, Pattern.read pattern = .error fault →
      ∃ fault, result = .error (.invalidPattern fault)) ∧
    ((∃ fault, result = .error (.invalidPattern fault)) ↔ ∀ body, ¬ Pattern.FitsName pattern body) ∧
    ∀ body, Pattern.FitsName pattern body → Pattern.read pattern = .ok body ∧
      Pattern.parse (wholeName pattern) = .ok body.wholeText ∧
      (∀ tree spot name, IsListed tree spot (Machine.ofRegex body.wholeText) name
        ↔ IsMatched tree spot body name) ∧
      ∀ spot, session.workspace.locate .entry directory = .ok (.found spot) →
        session.workspace.tree.kind? spot = some .directory →
        (result = .error (.noSource directory pattern)
          ↔ ∀ name, ¬ IsMatched session.workspace.tree spot body name) ∧
        ∀ source, result = .ok source ↔ ∃ name,
          IsNewest session.workspace.tree spot (Machine.ofRegex body.wholeText) name ∧
            source = directory.join (Text.encode name) := by
  have hinvalid : (∃ fault, result = .error (.invalidPattern fault))
      ↔ ∀ body, ¬ Pattern.FitsName pattern body := by
    rw [invalidPattern_iff run]
    constructor
    · exact fun hnone body hfits =>
        hnone _ ((Pattern.parse_wholeName_eq_ok_iff balanced).2 ⟨body, hfits, rfl⟩)
    · intro hnone regex hparse
      obtain ⟨body, hfits, -⟩ := (Pattern.parse_wholeName_eq_ok_iff balanced).1 hparse
      exact hnone body hfits
  refine ⟨fun fault hread => hinvalid.2 fun body hfits => ?_, hinvalid, fun body hfits => ?_⟩
  · have hbody := hfits.read
    rw [hread] at hbody
    cases hbody
  · have hparse := (Pattern.parse_wholeName_eq_ok_iff balanced).2 ⟨body, hfits, rfl⟩
    have hlisted : ∀ tree spot name, IsListed tree spot (Machine.ofRegex body.wholeText) name
        ↔ IsMatched tree spot body name :=
      fun _ _ _ => isListed_iff_isMatched (Pattern.orderly_of_read hfits.read)
    refine ⟨hfits.read, hparse, hlisted, fun spot located isDirectory => ?_⟩
    obtain ⟨hok, hnone⟩ := findLatest_result hparse located isDirectory run
    exact ⟨hnone.trans (forall_congr' fun name => not_congr (hlisted _ _ _)), hok⟩

/-- A comment that ends with its line takes in nothing of what is put behind the pattern. -/
theorem versionFiles_wholeNames :
    let pattern := "(?x)v ([0-9]+) # digits\n".toList
    ∃ body after, Pattern.FitsName pattern body ∧
      findLatest (m := StateM Session) (Path.ofText ['.']) pattern versionFiles
        = (.ok (Path.ofText "./v010".toList), after) ∧
      (IsListed versionFiles.workspace.tree [[0x77]] (Machine.ofRegex body.wholeText)
        ['w', '1', '1'] ↔ IsMatched versionFiles.workspace.tree [[0x77]] body ['w', '1', '1']) ∧
      ∃ name, IsNewest versionFiles.workspace.tree [[0x77]] (Machine.ofRegex body.wholeText) name ∧
        Path.ofText "./v010".toList = (Path.ofText ['.']).join (Text.encode name) := by
  intro pattern
  let digits : CharSet := .union .nothing (.range '0' '9')
  let body : Regex := .seq (.char 'v') (.group (some 1) (.rep (.set digits) 1 none true))
  have balanced : Pattern.read pattern ≠ .error .unopenedGroup := by decide +kernel
  have hreads : Pattern.branches (2 * pattern.length + 4) [] ⟨pattern, {}, 0, []⟩
      = .ok ((body, 4), ⟨[], { verbose := true }, 1, []⟩) := by decide +kernel
  have hends : Pattern.Ends pattern := by
    unfold Pattern.Ends
    decide +kernel
  have fits : Pattern.FitsName pattern body :=
    ⟨⟨4, ⟨_, hreads, rfl⟩, by decide⟩, hends, by decide +kernel⟩
  have hfound : (findLatest (m := StateM Session) (Path.ofText ['.']) pattern versionFiles).1
      = .ok (Path.ofText "./v010".toList) := by decide +kernel
  cases run : findLatest (m := StateM Session) (Path.ofText ['.']) pattern versionFiles with
  | mk result after =>
    rw [run] at hfound
    obtain ⟨-, -, hfits⟩ := findLatest_wholeNames balanced run
    obtain ⟨-, -, hlisted, hresult⟩ := hfits body fits
    obtain ⟨-, hsource⟩ := hresult _ locate_versionFiles kind?_versionFiles
    obtain ⟨name, hnewest, hpath⟩ := (hsource _).1 hfound
    exact ⟨body, after, fits, Prod.ext hfound rfl, hlisted _ _ _, name, hnewest, hpath⟩

/-- A pattern that ends in a comment is an expression alone and has no form for whole names, though
it matches the whole name of a file; the two halves of one that is no expression alone are read as
one for whole names. -/
theorem tornPatterns_alone :
    let comment := "(?x)v([0-9]+)#".toList
    let torn := "a)|(?:b".toList
    ((Pattern.parse comment).toOption.bind fun regex =>
        ((Machine.ofRegex regex).find? ['v', '1']).bind (·.group? 0)) = some ['v', '1'] ∧
      (findLatest (m := StateM Session) (Path.ofText ['.']) comment (emptyFiles [['v', '1']])).1
        = .error (.invalidPattern .unfinished) ∧
      Pattern.parse torn = .error .unopenedGroup ∧
      (findLatest (m := StateM Session) (Path.ofText ['.']) torn (emptyFiles [['a', 'x', 'x']])).1
        = .ok (Path.ofText "./axx".toList) := by
  decide +kernel

end Session

end GrammarBrew
