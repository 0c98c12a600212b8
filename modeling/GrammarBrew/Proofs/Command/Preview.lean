import GrammarBrew.Proofs.Command.Brewing
import GrammarBrew.Proofs.Command.Printing
import GrammarBrew.Proofs.Recipe.FixedSource

/-!
The preview of a brewing agrees with the brewing itself. Rendering a recipe foretells what a forced
run of it does; and a command line with `--stdout` prints what the same line with `--force` leaves
in the output.
-/

set_option autoImplicit false
set_option relaxedAutoImplicit false

namespace GrammarBrew

def Invocation.PrintsFor (printing writing : Invocation) (task : BrewTask) : Prop :=
  writing.task = .brew task ∧
    ∃ force,
      printing = { writing with task := .brew { task with toStdout := true, force := force } }

namespace Invocation

variable {printing writing : Invocation} {task : BrewTask}

private theorem PrintsFor.configured_eq (h : printing.PrintsFor writing task) :
    printing.configured = writing.configured := by
  obtain ⟨htask, force, rfl⟩ := h
  have hlayers : Invocation.layers
      { writing with task := .brew { task with toStdout := true, force := force } }
      = writing.layers := by
    simp only [layers, htask]
  unfold configured configure
  rw [hlayers]

private theorem PrintsFor.previewed_eq (h : printing.PrintsFor writing task) :
    printing.previewed = writing.previewed := by
  have hrecipe : printing.recipe = writing.recipe := by
    obtain ⟨-, force, rfl⟩ := h
    rfl
  funext workspace
  rw [previewed, previewed, h.configured_eq, hrecipe]

end Invocation

namespace Arguments

variable {printing writing outer : Given} {invocation : Invocation} {task : BrewTask}

private theorem task_of_together {scope : Scope}
    (h : together scope outer writing = .ok invocation) :
    invocation.task = taskOf scope writing := by
  unfold together at h
  split at h
  · exact nomatch h
  · rw [← Except.ok.inj h]

private theorem exists_together (hprints : printing.PrintsFor writing)
    (h : together .brew outer writing = .ok invocation) (htask : invocation.task = .brew task) :
    ∃ shown, together .brew outer printing = .ok shown ∧ shown.PrintsFor invocation task := by
  obtain ⟨force, rfl, -⟩ := hprints
  unfold together at h
  split at h
  · exact nomatch h
  next hconsistent =>
    obtain rfl := Except.ok.inj h
    obtain rfl := Task.brew.inj htask
    exact ⟨_, if_neg hconsistent, rfl, force, rfl⟩

end Arguments

namespace Request

open Arguments

variable {front rest same : List Text} {writing : Invocation} {task : BrewTask}

private theorem ofArguments_eq_run_iff {arguments : List Text} {invocation : Invocation} :
    ofArguments arguments = .run invocation ↔ readAll arguments = .ok invocation := by
  unfold ofArguments
  cases readAll arguments with
  | ok other => simp
  | error interruption => cases interruption <;> simp [Interruption.request]

/-- Command lines that ask for force instead of printing. -/
inductive ForcesInstead (front rest : List Text) : List Text → Prop
  | replaced : ForcesInstead front rest (front ++ "--force".toList :: rest)
  | remaining {printing writing : Invocation} {task : BrewTask}
      (prints : ofArguments (front ++ "--stdout".toList :: rest) = .run printing)
      (writes : ofArguments (front ++ rest) = .run writing) (brews : writing.task = .brew task)
      (forces : task.force = true) : ForcesInstead front rest (front ++ rest)

private theorem only_brew {flag : Flag} (h : flag = .force ∨ flag = .stdout) (scope : Scope)
    (hknown : flag.knownIn scope = true) : scope = .brew := by
  rcases h with rfl | rfl <;> cases scope <;> first | rfl | exact nomatch hknown

private theorem spelled_force : "--force".toList = Flag.force.spelled := by decide +kernel

private theorem spelled_stdout : "--stdout".toList = Flag.stdout.spelled := by decide +kernel

private theorem exists_reading {outer printer writer : Given} (hprints : printer.PrintsFor writer)
    (h : gather .brew rest none writer >>= together .brew outer = .ok writing)
    (htask : writing.task = .brew task) (hwrites : task.toStdout = false) :
    (writer.force = true → task.force = true) ∧ writer.stdout = false ∧
      ∃ printing, gather .brew rest none printer >>= together .brew outer = .ok printing ∧
        printing.PrintsFor writing task := by
  obtain ⟨last, hgather, htogether⟩ := bind_eq_ok_iff.1 h
  obtain rfl := Task.brew.inj (htask.symm.trans (task_of_together htogether))
  have hreading := alike_gather .brew rest none
  obtain ⟨shown, hshown, hprints⟩ := hreading.prints hgather hwrites hprints
  obtain ⟨printing, hprinting, hsame⟩ := exists_together hprints htogether htask
  refine ⟨hreading.force hgather, ?_, printing, ?_, hsame⟩
  · rw [← Bool.not_eq_true] at hwrites ⊢
    exact fun hprint => hwrites (hreading.stdout hgather hprint)
  · exact bind_eq_ok_iff.2 ⟨shown, hshown, hprinting⟩

private theorem readAll_stdout {outer given : Given}
    (hplace : ∀ tail, readAll (front ++ tail) = gather .brew tail none given >>=
      together .brew outer)
    (hstdout : given.stdout = false) :
    readAll (front ++ Flag.stdout.spelled :: rest)
      = gather .brew rest none (given.asking true given.force) >>= together .brew outer := by
  rw [hplace, gather_spelled rfl rfl, set_stdout_eq_ok_iff.2 ⟨hstdout, rfl⟩]
  rfl

private theorem exists_printing (hfront : "--".toList ∉ front)
    (hsame : ForcesInstead front rest same)
    (hrun : ofArguments same = .run writing) (htask : writing.task = .brew task)
    (hwrites : task.toStdout = false) :
    task.force = true ∧ ∃ printing, ofArguments (front ++ "--stdout".toList :: rest)
      = .run printing ∧ printing.PrintsFor writing task := by
  rw [ofArguments_eq_run_iff] at hrun
  simp only [ofArguments_eq_run_iff, spelled_stdout]
  cases hsame with
  | replaced =>
    rw [spelled_force] at hrun
    obtain ⟨outer, given, hplace⟩ := exists_place rfl (only_brew (Or.inl rfl)) hfront hrun
    rw [hplace, gather_spelled rfl rfl, bind_assoc] at hrun
    obtain ⟨writer, hforce, hrest⟩ := bind_eq_ok_iff.1 hrun
    obtain ⟨-, rfl⟩ := set_force_eq_ok_iff.1 hforce
    have hprints : (given.asking true given.force).PrintsFor (given.asking given.stdout true) :=
      ⟨given.force, rfl, fun _ => rfl⟩
    obtain ⟨hforced, hstdout, printing, hprinting, hsame⟩ :=
      exists_reading hprints hrest htask hwrites
    exact ⟨hforced rfl, printing, (readAll_stdout hplace hstdout).trans hprinting, hsame⟩
  | remaining prints writes brews forces =>
    rw [ofArguments_eq_run_iff] at prints writes
    obtain rfl := Except.ok.inj (writes.symm.trans hrun)
    obtain rfl := Task.brew.inj (brews.symm.trans htask)
    rw [spelled_stdout] at prints
    obtain ⟨outer, given, hplace⟩ := exists_place rfl (only_brew (Or.inr rfl)) hfront prints
    rw [hplace] at hrun
    have hprints : (given.asking true given.force).PrintsFor given := ⟨given.force, rfl, id⟩
    obtain ⟨-, hstdout, printing, hprinting, hsame⟩ := exists_reading hprints hrun htask hwrites
    exact ⟨forces, printing, (readAll_stdout hplace hstdout).trans hprinting, hsame⟩

private theorem toStdout_of_ofArguments {invocation : Invocation} (hfront : "--".toList ∉ front)
    (hrun : ofArguments (front ++ "--stdout".toList :: rest) = .run invocation) :
    ∃ task, invocation.task = .brew task ∧ task.toStdout = true := by
  rw [ofArguments_eq_run_iff, spelled_stdout] at hrun
  obtain ⟨outer, given, hplace⟩ := exists_place rfl (only_brew (Or.inr rfl)) hfront hrun
  rw [hplace, gather_spelled rfl rfl, bind_assoc] at hrun
  obtain ⟨printer, hstdout, hrest⟩ := bind_eq_ok_iff.1 hrun
  obtain ⟨-, rfl⟩ := set_stdout_eq_ok_iff.1 hstdout
  obtain ⟨last, hgather, htogether⟩ := bind_eq_ok_iff.1 hrest
  exact ⟨_, task_of_together htogether, (alike_gather .brew rest none).stdout hgather rfl⟩

variable {session after shown : Session} {status : Nat}

private theorem follow_run {done : Bool} {invocation : Invocation}
    (h : invocation.run (m := StateM Session) session = (done, after)) :
    (run invocation).follow
    (m := StateM Session) session = (if done then 0 else failureStatus, after) := by
  refine (Session.run_bind h).trans ?_
  cases done <;> rfl

private theorem follow_stdout (hfront : "--".toList ∉ front)
    (h : (ofArguments (front ++ "--stdout".toList :: rest)).follow (m := StateM Session) session
      = (status, shown)) :
    shown.workspace = session.workspace ∧ (status ≠ 0 → shown.output = session.output) := by
  cases hrequest : ofArguments (front ++ "--stdout".toList :: rest) with
  | run invocation =>
    obtain ⟨task, htask, hprint⟩ := toStdout_of_ofArguments hfront hrequest
    obtain ⟨later, hrun, hsame, houtput⟩ := invocation.exists_run_printing htask hprint session
    rw [hrequest, follow_run hrun] at h
    obtain ⟨rfl, rfl⟩ := Prod.mk.inj h
    refine ⟨hsame, fun hfails => ?_⟩
    cases hpreviewed : invocation.previewed session.workspace with
    | ok text =>
      rw [hpreviewed] at hfails
      exact absurd rfl hfails
    | error message =>
      rw [hpreviewed] at houtput
      exact houtput.trans (List.append_nil _)
  | help | version =>
    rw [hrequest] at h
    obtain ⟨rfl, rfl⟩ := Prod.mk.inj h
    exact ⟨rfl, fun hfails => absurd rfl hfails⟩
  | misuse =>
    rw [hrequest] at h
    obtain ⟨rfl, rfl⟩ := Prod.mk.inj h
    exact ⟨rfl, fun _ => rfl⟩

private theorem exists_follow_stdout (wf : session.workspace.WellFormed)
    (hfront : "--".toList ∉ front)
    (hsame : ForcesInstead front rest same) (hrun : ofArguments same = .run writing)
    (htask : writing.task = .brew task) (hwrites : task.toStdout = false)
    (h : (ofArguments same).follow (m := StateM Session) session = (0, after)) :
    ∃ shown config text,
      (ofArguments (front ++ "--stdout".toList :: rest)).follow (m := StateM Session) session
        = (0, shown) ∧
      shown.output = session.output ++ text ∧ writing.configured session.workspace = .ok config ∧
      after.workspace.read config.output = .ok (Text.encode text) := by
  obtain ⟨hforce, printing, hprinting, hprints⟩ := exists_printing hfront hsame hrun htask hwrites
  obtain ⟨force, hprintingTask⟩ :
      ∃ force, printing.task = .brew { task with toStdout := true, force := force } := by
    obtain ⟨-, force, rfl⟩ := hprints
    exact ⟨force, rfl⟩
  obtain ⟨shown, hshown, -, houtput⟩ := printing.exists_run_printing hprintingTask rfl session
  cases hwritten : writing.run (m := StateM Session) session with
  | mk done later =>
    rw [hrun, follow_run hwritten] at h
    obtain ⟨hdone, rfl⟩ := Prod.mk.inj h
    cases done with
    | false => exact nomatch hdone
    | true =>
      obtain ⟨config, text, hconfigured, hpreviewed, hread⟩ :=
        writing.read_of_run_writing wf htask hwrites hforce hwritten
      rw [hprints.previewed_eq, hpreviewed] at hshown houtput
      refine ⟨shown, config, text, ?_, houtput, hconfigured, hread⟩
      rw [hprinting, follow_run hshown]
      rfl

end Request

open Request in
/-- Rendering a recipe changes nothing and foretells a forced run of it on the same files. A command
line with `--stdout` among its options changes nothing, and prints nothing where it fails; where the
same line with `--force` writes the grammar, it prints what then stands in the output. -/
theorem preview_agrees {session : Session} (wf : session.workspace.WellFormed) :
    (∀ (recipe : Recipe) rendered result shown after,
      recipe.render (m := StateM Session) session = (rendered, shown) →
      recipe.cook (m := StateM Session) true session = (result, after) →
      shown.workspace = session.workspace ∧
        recipe.Foretells rendered session.workspace result after.workspace) ∧
    (∀ front rest, "--".toList ∉ front →
      (∀ status shown,
        (ofArguments (front ++ "--stdout".toList :: rest)).follow (m := StateM Session) session
          = (status, shown) →
        shown.workspace = session.workspace ∧ (status ≠ 0 → shown.output = session.output)) ∧
      ∀ same writing task after, ForcesInstead front rest same → ofArguments same = .run writing →
        writing.task = .brew task → task.toStdout = false →
        (ofArguments same).follow (m := StateM Session) session = (0, after) →
        ∃ shown config text,
          (ofArguments (front ++ "--stdout".toList :: rest)).follow (m := StateM Session) session
            = (0, shown) ∧
          shown.output = session.output ++ text ∧
          writing.configured session.workspace = .ok config ∧
          after.workspace.read config.output = .ok (Text.encode text)) := by
  refine ⟨fun recipe rendered result shown after hrender hcook => ?_,
    fun front rest hfront => ⟨?_, ?_⟩⟩
  · obtain ⟨seen, hseen, hsame, -⟩ := recipe.sees_render session
    obtain ⟨rfl, rfl⟩ := Prod.mk.inj (hseen.symm.trans hrender)
    exact ⟨hsame, (Session.cook_spec wf hcook).foretells⟩
  · intro status shown h
    exact follow_stdout hfront h
  · intro same writing task after hsame hrun htask hwrites h
    exact exists_follow_stdout wf hfront hsame hrun htask hwrites h

namespace Request

def macroGrammar : Text := "+A\n// InjectedTokens\nA: b;\n".toList

def macroGrammarBrewed : Text := "// AUTO-GENERATED FILE - DO NOT EDIT\n+b\n".toList

def macroWritten : Session :=
  { workspace := ((Workspace.start [0x77] 0).write Recipe.grammar (Text.encode macroGrammar)).2 }

def brewBeside : List Text := ["brew".toList, ['s'], ['-', 'o'], ['o']]

def forcedBeside : Invocation :=
  { task := .brew { output? := some (Path.ofText ['o']), force := true }
    source? := some Recipe.grammar }

def macroBrewed : Session :=
  ((ofArguments (brewBeside ++ ["--force".toList])).follow (m := StateM Session) macroWritten).2

private theorem eq_of_fst {α σ : Type} {x : α × σ} {a : α} (h : x.1 = a) : x = (a, x.2) := by
  rw [← h]

theorem macroWritten_preview :
    macroWritten.workspace.WellFormed ∧ "--".toList ∉ brewBeside ∧
      (ofArguments (brewBeside ++ ["--force".toList])).follow (m := StateM Session) macroWritten
        = (0, macroBrewed) ∧
      (∃ shown, (ofArguments (brewBeside ++ ["--stdout".toList])).follow
        (m := StateM Session) macroWritten
          = (0, shown) ∧
        shown.workspace = macroWritten.workspace ∧
          shown.output = macroWritten.output ++ macroGrammarBrewed ∧
        macroBrewed.workspace.read (Path.ofText ['o']) = .ok (Text.encode macroGrammarBrewed)) ∧
      ∃ shown after,
        (Recipe.single ['o']).render (m := StateM Session) macroWritten
          = (.ok macroGrammarBrewed, shown) ∧
        (Recipe.single ['o']).cook (m := StateM Session) true macroWritten
          = (.ok (.brewed Recipe.grammar (Path.ofText ['o']) 1 2), after) ∧
        (Recipe.single ['o']).Foretells (.ok macroGrammarBrewed) macroWritten.workspace
          (.ok (.brewed Recipe.grammar (Path.ofText ['o']) 1 2)) after.workspace := by
  have hwrite := Recipe.eq_of_toOption (a := ())
    (x := (Workspace.start [0x77] 0).write Recipe.grammar (Text.encode macroGrammar))
    (by decide +kernel)
  obtain ⟨spot, written⟩ := Workspace.exists_written Recipe.wellFormed_working hwrite
  have wf : macroWritten.workspace.WellFormed := written.wellFormed
  have hfront : "--".toList ∉ brewBeside := by decide +kernel
  have hforced : (ofArguments (brewBeside ++ ["--force".toList])).follow
      (m := StateM Session) macroWritten
      = (0, macroBrewed) := eq_of_fst (by decide +kernel)
  have hrun : ofArguments (brewBeside ++ ["--force".toList]) = .run forcedBeside := by
    decide +kernel
  have hrender := Recipe.eq_of_toOption
    (x := (Recipe.single ['o']).render (m := StateM Session) macroWritten)
    (a := macroGrammarBrewed) (by decide +kernel)
  have hcook := Recipe.eq_of_toOption
    (x := (Recipe.single ['o']).cook (m := StateM Session) true macroWritten)
    (a := .brewed Recipe.grammar (Path.ofText ['o']) 1 2) (by decide +kernel)
  have hprinted : ((ofArguments (brewBeside ++ ["--stdout".toList])).follow (m := StateM Session)
      macroWritten).2.output
      = macroWritten.output ++ macroGrammarBrewed := by decide +kernel
  have hplace : (forcedBeside.configured macroWritten.workspace).toOption.map Config.output
      = some (Path.ofText ['o']) := by decide +kernel
  obtain ⟨hrecipe, hlines⟩ := preview_agrees wf
  obtain ⟨hstdout, hforces⟩ := hlines brewBeside [] hfront
  obtain ⟨shown, config, text, hshown, houtput, hconfigured, hread⟩ :=
    hforces _ _ _ _ .replaced hrun rfl rfl hforced
  rw [hshown] at hprinted
  obtain rfl : text = macroGrammarBrewed := List.append_cancel_left (houtput.symm.trans hprinted)
  rw [hconfigured] at hplace
  have hplace : config.output = Path.ofText ['o'] := Option.some.inj hplace
  refine ⟨wf, hfront, hforced, ⟨shown, hshown, (hstdout _ _ hshown).1, houtput, hplace ▸ hread⟩, ?_⟩
  exact ⟨_, _, hrender, hcook, (hrecipe _ _ _ _ _ hrender hcook).2⟩

end Request

end GrammarBrew
