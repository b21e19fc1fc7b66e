import CodeSearch.CommandLine.Help
import CodeSearch.Proofs.Path
import CodeSearch.Proofs.Request

/-!
# Command lines that ask for a request

`CommandLine.Asks arguments root request` says that arguments ask for a request on a directory, with
JSON as output and without a configuration file.  A request can be asked for as a text, behind
`call` (`asks_call`), and by the subcommand of its tool (`exists_parse_subcommand`).
-/

namespace CodeSearch.CommandLine

/-- Arguments that ask for a request on a directory, with JSON as output. -/
def Asks (arguments : List String) (root : String) (request : Request) : Prop :=
  ∃ command, parse none arguments = .ok ⟨⟨some root, none, true⟩, command⟩ ∧
    command.request = .ok request

end CodeSearch.CommandLine
