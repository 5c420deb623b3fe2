import MajiroScript.Proofs.Command.Output

/-! What commands do to files.  A command writes at most once, to the output that
it was given, as its last step and only where it may. -/
namespace MajiroScript.Command

def Action.output? : Action → Option String
  | disasm _ output | rebuild _ output | unpack _ output => output
  | check _ | header _ | config => none

/-- All that a command can do to a directory. -/
inductive Effect (invocation : Invocation) (directory : Directory) (outcome : Outcome) : Prop where
  | kept (same : outcome.directory = directory)
  | wrote {output : String} {bytes : Bytes}
      (named : invocation.action.output? = some output)
      (succeeded : outcome.status = 0)
      (allowed : directory.contains output = true → invocation.force = true)
      (written : directory.write output bytes = .ok outcome.directory)

variable {invocation : Invocation} {directory : Directory}

theorem effect_withInput {path : String} {command : List Note → Input → Outcome}
    (h : ∀ notes input, Effect invocation directory (command notes input)) :
    Effect invocation directory (withInput invocation directory path command) := by
  rcases hopen : openInput invocation directory path with ⟨notes, message | input⟩
  · rw [withInput_of_error hopen]
    exact .kept rfl
  · rw [withInput_of_ok hopen]
    exact h notes input

theorem effect_exporter {exporter : Exporter} {path : String} {output : Option String}
    (houtput : invocation.action.output? = output)
    (hsave : ∀ input path, ∃ content,
      exporter.save input directory path = directory.save path content) :
    Effect invocation directory (exporter.run invocation directory path output) := by
  refine effect_withInput fun notes input => ?_
  cases output with
  | none =>
      simp only [Exporter.toTerminal]
      cases exporter.product input with
      | error error => exact .kept rfl
      | ok bytes => exact .kept rfl
  | some path =>
      dsimp only
      obtain ⟨message, hfile⟩ | ⟨stats, after, hsaved, hallowed, hfile⟩ := Exporter.toFile_cases
      · rw [hfile]
        exact .kept rfl
      · obtain ⟨content, hcontent⟩ := hsave input path
        rw [hcontent] at hsaved
        obtain ⟨bytes, -, hwrite, -⟩ := Directory.save_eq_ok_iff.mp hsaved
        rw [hfile]
        exact .wrote houtput rfl hallowed hwrite

theorem checkRebuilt_directory (path : String) (notes : List Note) (input : Input) :
    (checkRebuilt invocation directory path notes input).directory = directory := by
  fun_cases checkRebuilt invocation directory path notes input
  all_goals rfl

theorem showHeader_directory (notes : List Note) (input : Input) :
    (showHeader invocation directory notes input).directory = directory := by
  fun_cases showHeader invocation directory notes input
  all_goals rfl

theorem effect_run (invocation : Invocation) (directory : Directory) :
    Effect invocation directory (run invocation directory) := by
  obtain ⟨action, keystream, codec, force, quiet, verbosity, json⟩ := invocation
  cases action with
  | disasm path output =>
      exact effect_exporter rfl fun _ _ => ⟨_, Directory.savePieces_eq_save _⟩
  | rebuild path output => exact effect_exporter rfl fun _ _ => ⟨_, rfl⟩
  | check path =>
      exact effect_withInput fun notes input => .kept (checkRebuilt_directory path notes input)
  | unpack path output => exact effect_exporter rfl fun _ _ => ⟨_, rfl⟩
  | header path =>
      exact effect_withInput fun notes input => .kept (showHeader_directory notes input)
  | config => exact .kept rfl

/-- Commands damage no files.  One that fails leaves the directory as it was.
Otherwise no place is changed but the one that the output of the command leads
to, so a path shows something else only if it leads there too.  Without force,
every path at which something stood shows it still. -/
theorem run_spares_files (invocation : Invocation) (directory : Directory) :
    let outcome := run invocation directory
    (outcome.status ≠ 0 → outcome.directory = directory) ∧
    (outcome.directory ≠ directory →
      ∃ output place, invocation.action.output? = some output ∧
        directory.locate output = .ok place ∧
        (∀ way, way ≠ place → outcome.directory.node? way = directory.node? way) ∧
        ∀ path, directory.locate path ≠ .ok place →
          outcome.directory.find? path = directory.find? path) ∧
    (invocation.force = false → ∀ path, directory.contains path = true →
      outcome.directory.find? path = directory.find? path) := by
  intro outcome
  have heffect : Effect invocation directory outcome := effect_run invocation directory
  cases heffect with
  | kept same =>
      rw [same]
      exact ⟨fun _ => rfl, fun h => absurd rfl h, fun _ _ _ => rfl⟩
  | @wrote output bytes named succeeded allowed written =>
      refine ⟨fun h => absurd succeeded h, fun _ => ?_, fun hforce path hpath => ?_⟩
      · obtain ⟨place, hplace, hlocate, hnode⟩ := Directory.exists_of_write written
        refine ⟨output, place, named, hplace, fun way hway => ?_, fun path hpath => ?_⟩
        · rw [hnode, if_neg hway]
        · rw [Directory.find?_of_write written, if_neg]
          rw [(hlocate output place).mpr hplace, hlocate]
          exact hpath
      · refine Directory.find?_of_write_of_absent written ?_ hpath
        rw [Bool.eq_false_iff]
        intro hpresent
        rw [hforce] at allowed
        exact Bool.false_ne_true (allowed hpresent)

theorem run_spares_files_in_way :
    let directory : Directory :=
      ⟨[(["script.mjo"], .file (Header.signature ++ List.replicate 16 0)),
        (["plain.mjo"], .file [1, 2, 3])]⟩
    let invocation : Invocation := { action := .unpack "script.mjo" (some "plain.mjo") }
    (run invocation directory).directory = directory ∧
    (run { invocation with force := true } directory).directory.find? "script.mjo" =
      directory.find? "script.mjo" ∧
    (run { invocation with force := true } directory).directory ≠ directory := by
  intro directory invocation
  obtain ⟨hkept, -, -⟩ := run_spares_files invocation directory
  obtain ⟨-, hother, -⟩ := run_spares_files { invocation with force := true } directory
  have hchanged : (run { invocation with force := true } directory).directory ≠ directory := by
    decide +kernel
  obtain ⟨output, place, houtput, hplace, -, hpaths⟩ := hother hchanged
  obtain rfl : "plain.mjo" = output := Option.some.inj houtput
  have hscript : directory.locate "script.mjo" ≠ .ok place := by
    rw [← hplace]
    decide +kernel
  exact ⟨hkept (by decide +kernel), hpaths "script.mjo" hscript, hchanged⟩

end MajiroScript.Command
