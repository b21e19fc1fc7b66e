import CodeSearch.Query.Imports
import CodeSearch.Query.Packages
import CodeSearch.Query.Tests
import CodeSearch.Request.Basic

/-!
# Running requests
-/

namespace CodeSearch

/-- Runs the query that a request asks for on the tree below `root`. -/
def Request.run (searcher : Searcher) (root : OsText) : Request → Logged Outcome
  | ⟨.findFilesByName, pattern⟩ => findByName searcher root pattern
  | ⟨.findFilesByContent, pattern⟩ => findByContent searcher root pattern
  | ⟨.findFilesByRegex, pattern⟩ => findByRegex searcher root pattern
  | ⟨.findImportedFiles, file⟩ => findImported searcher root file
  | ⟨.findDependencies, file⟩ => findDependencies searcher root file
  | ⟨.findRelatedClasses, file⟩ => findRelatedClasses searcher root file
  | ⟨.findStyleDependencies, component⟩ => findStyles searcher root component
  | ⟨.findRelatedTests, target⟩ => findRelatedTests searcher root target
  | ⟨.findComponentUsage, component⟩ => findComponentUsage searcher root component
  | ⟨.findApiUsage, endpoint⟩ => findApiUsage searcher root endpoint
  | ⟨.findFunctionDefinition, name⟩ => findFunctionDefinition searcher root name
  | ⟨.findRecentlyModifiedFiles, days⟩ => findRecent searcher root days
  | ⟨.findExternalDependency, module⟩ => findExternal searcher root module

end CodeSearch
