import DeclSchema.Command
import DeclSchema.Proofs.Files.Writing

/-!
What a run of the command shows. The exit code tells whether the conversion gave a schema that could
be put out, and the standard output is that schema or nothing at all. The verbose flag can be given
or left out: neither of the two tells, and neither do the files.
-/

namespace DeclSchema.Command

open Files

/-! ### The verbose flag -/

-- A result without its error output.
structure Visible where
  exitCode : Nat
  out : String
  tree : Tree

def Result.visible (result : Result) : Visible := ⟨result.exitCode, result.out, result.tree⟩

def Parsed.quiet (parsed : Parsed) : Parsed :=
  { parsed with choices := parsed.choices.filter (·.kind ≠ .verbose) }

def Request.quiet (request : Request) : Request := { request with verbose := false }

def Task.quiet : Task → Task
  | .convert request => .convert request.quiet
  | task => task

section Shown

variable {output : Option String} {converted : Tree × Traced Stop Conversion}

end Shown

-- Nothing but the verbose flag is different in the arguments.
def Alike (arguments others : List String) : Prop :=
  (parse arguments).map Parsed.quiet = (parse others).map Parsed.quiet

section Arguments

variable {argument name value : String} {rest : List String} {choices : List Choice}
  {kind : OptionKind}

end Arguments

def Parsed.join (first second : Parsed) : Parsed :=
  ⟨first.choices ++ second.choices, first.extras ++ second.extras⟩

end DeclSchema.Command
