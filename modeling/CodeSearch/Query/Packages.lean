import CodeSearch.Query.Basic

/-!
# Finding installed packages
-/

namespace CodeSearch

/-- Whether a text is a package name: a single name, or a scope and a name. -/
def isModuleName (name : String) : Bool :=
  let isPlain (s : String) : Bool := s != "" && s != "." && s != ".."
  !name.toList.contains '\\' &&
    match Text.segments name with
    | [single] => isPlain single
    | [scope, single] => scope.toList.head? == some '@' && 1 < scope.length && isPlain single
    | _ => false

/-- The name under which the types of a package are kept: a scope is joined to the name. -/
def typesName (name : String) : String :=
  match name.toList with
  | '@' :: rest =>
    match rest.span (· ≠ '/') with
    | (scope, _ :: single) => String.ofList scope ++ "__" ++ String.ofList single
    | (all, []) => String.ofList all
  | _ => name

/-- The three files by which a package can be found, in the order in which they are reported. -/
def packageCandidates (dependencyDir name : String) : List String :=
  [dependencyDir ++ "/@types/" ++ typesName name ++ "/index.d.ts",
    dependencyDir ++ "/" ++ name ++ "/index.d.ts",
    dependencyDir ++ "/" ++ name ++ "/index.js"]

/-- The files by which an installed package can be found. -/
def findExternal (searcher : Searcher) (root : OsText) (name : String) : Logged Outcome :=
  let operation := "find_external_dependency"
  if isModuleName name then do
    let (found, skipped) ← selectFiles (searcher.probe root)
      (fun e => operation ++ ": " ++ e.message)
      (packageCandidates searcher.config.scan.dependencyDir name)
    let outcome := Outcome.withSkipped found skipped
    reportCount operation name outcome
    pure outcome
  else do
    Logged.problem (operation ++ ": invalid module name '" ++ name ++ "'")
    pure .failed

end CodeSearch
