import GrammarBrew.Proofs.MacroTable.Fragments
import GrammarBrew.Proofs.MacroTable.Strip

/-!
What is read of a macro section: of each fragment the text that is left when its layout is taken
away, and nothing of a blank one. The last fragment may close with a semicolon, which is not read;
nor are blanks outside quotes.
-/

set_option autoImplicit false
set_option relaxedAutoImplicit false

namespace GrammarBrew.MacroTable

open Text Declaration

variable {front rest fragment : Text} {last : Bool}

/-- The declaration that a fragment holds; the last one may close with a semicolon. -/
def declared (last : Bool) (fragment : Text) : Text :=
  if last then dropClosing (trim fragment) else trim fragment

def reading (last : Bool) (fragment : Text) : Text := strip (declared last fragment)

def readings : List Text → List Text
  | [] => []
  | fragment :: rest => reading rest.isEmpty fragment :: readings rest

def declarations (text : Text) : List Text :=
  (readings (fragments text)).filter fun read => read ≠ []

theorem dropClosing_closed : dropClosing (front ++ [';']) = trimEnd front := by simp [dropClosing]

theorem dropClosing_open (h : ∀ opening, fragment ≠ opening ++ [';']) :
    dropClosing fragment = trimEnd fragment := by
  unfold dropClosing
  split
  next rest hrest => exact absurd (List.reverse_eq_cons_iff.1 hrest) (h rest.reverse)
  · rfl

theorem reading_of_not_last : reading false fragment = strip fragment := strip_trim

theorem not_isBlank_semicolon : isBlank ';' = false := by decide

theorem isBlank_lineBreak : isBlank '\r' = true ∧ isBlank '\n' = true := by decide

theorem declared_closed (h : trimEnd fragment = front ++ [';']) :
    declared true fragment = trim front := by
  have htrim : trim fragment = trimStart front ++ [';'] := by
    rw [trim_eq_trimStart_trimEnd, h, trimStart_append_singleton not_isBlank_semicolon]
  change dropClosing (trim fragment) = _
  rw [htrim, dropClosing_closed, ← trim]

private theorem reading_closed (h : trimEnd fragment = front ++ [';']) :
    reading true fragment = strip front := by
  rw [reading, declared_closed h, strip_trim]

private theorem reading_open (h : ∀ opening, trimEnd fragment ≠ opening ++ [';']) :
    reading true fragment = strip fragment := by
  have htrim : ∀ opening, trim fragment ≠ opening ++ [';'] := by
    intro opening heq
    obtain ⟨blanks, -, htext⟩ := exists_allBlank_append_trimStart (trimEnd fragment)
    rw [← trim_eq_trimStart_trimEnd, heq, ← List.append_assoc] at htext
    exact h _ htext
  change strip (dropClosing (trim fragment)) = _
  rw [dropClosing_open htrim, trimEnd_trim, strip_trim]

private theorem reading_trimEnd : reading last (trimEnd fragment) = reading last fragment := by
  rw [reading, declared, trim_trimEnd, reading, declared]

/-- Blanks outside quotes are not read. -/
theorem reading_insert {blanks : Text} (hfront : Balanced front) (hblanks : AllBlank blanks) :
    reading last (front ++ blanks ++ rest) = reading last (front ++ rest) := by
  by_cases hrest : AllBlank rest
  · have hshort : ∀ start, reading last (start ++ rest) = reading last (trimEnd start) := by
      intro start
      rw [← reading_trimEnd, trimEnd_append_of_allBlank hrest]
    rw [hshort, hshort, trimEnd_append_of_allBlank hblanks]
  cases last with
  | false => rw [reading_of_not_last, reading_of_not_last, strip_insert hfront hblanks]
  | true =>
    obtain ⟨body, c, hbody⟩ : ∃ body c, trimEnd rest = body ++ [c] :=
      (List.eq_nil_or_concat' _).resolve_left (mt trimEnd_eq_nil_iff.1 hrest)
    -- Both fragments end in the last character of the rest, so they close alike.
    have hends : ∀ start, trimEnd (start ++ rest) = start ++ body ++ [c] := by
      intro start
      rw [trimEnd_append hrest, hbody, List.append_assoc]
    by_cases hc : c = ';'
    · subst hc
      rw [reading_closed (hends (front ++ blanks)), reading_closed (hends front),
        strip_insert hfront hblanks]
    · have hopen : ∀ start opening, trimEnd (start ++ rest) ≠ opening ++ [';'] := by
        intro start opening heq
        rw [hends] at heq
        exact hc (List.singleton_inj.1 (List.append_inj' heq rfl).2)
      rw [reading_open (hopen (front ++ blanks)), reading_open (hopen front),
        strip_insert hfront hblanks]

end GrammarBrew.MacroTable
