import JvmSchema.CommandLine.Arguments

/-!
# The command line

What the program does for given arguments, as its exit code and what it writes.
-/

set_option autoImplicit false
set_option relaxedAutoImplicit false

namespace JvmSchema.CommandLine

/-- What a process leaves behind. -/
structure Outcome where
  code : Nat
  output : String
  errors : String
  deriving DecidableEq, Repr

namespace Outcome

/-- A process that writes its answer. -/
def success (output : String) : Outcome := ⟨0, output, ""⟩

/-- The outcome of a run. -/
def ofRun : Except Failure String → Outcome
  | .ok output => success output
  | .error failure => ⟨1, "", "error: " ++ ": ".intercalate failure.chain ++ "\n"⟩

/-- The outcome of arguments that lead to no run. -/
def ofStop : Stop → Outcome
  | .fault error => ⟨2, "", error.message⟩
  | .help topic => success topic.text
  | .version => success versionText

end Outcome

/-- Runs the program on arguments in a working directory. -/
def execute (files : FileSystem) (directory : String) (arguments : List String) : Outcome :=
  match parse arguments with
  | .error stop => .ofStop stop
  | .ok options => .ofRun (options.run files directory).result

end JvmSchema.CommandLine
