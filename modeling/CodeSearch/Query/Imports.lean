import CodeSearch.Import
import CodeSearch.Query.Files

/-!
# Queries that follow imports

These queries start from a file that the caller names, or from the files of a component, and follow
what those import.
-/

namespace CodeSearch

/-- The name below the root and the text of a file that the caller names. -/
def readImporter (searcher : Searcher) (root : OsText) (file : String) : Except SearchError (String × String) :=
  let path := targetPath root file
  match Path.relativePath root path with
  | none => .error (.outside file)
  | some relative => (searcher.readText path).map fun text => (relative, text)

/-- Runs a query on the text of a file that the caller names; `operation` reports a file that cannot
be read. -/
def withImporter (searcher : Searcher) (root : OsText) (file operation : String)
    (query : (relative text : String) → Logged Outcome) : Logged Outcome :=
  match readImporter searcher root file with
  | .error e => do
    Logged.problem (operation ++ ": " ++ e.message)
    pure .failed
  | .ok (relative, text) => query relative text

/-! ## Files imported by a file -/

/-- The files that an import resolved to `resolved` can mean, in the order in which they are tried. -/
def importCandidates (config : Config) (resolved : String) : List String :=
  resolved ::
    (config.queries.sourceExtensions.map fun extension => resolved ++ "." ++ extension) ++
    config.queries.sourceExtensions.map fun extension => resolved ++ "/index." ++ extension

/-- The first of some candidates that is a file; trying stops at the first one that cannot be
examined. -/
def firstFile? (searcher : Searcher) (root : OsText) :
    List String → Except SearchError (Option String)
  | [] => .ok none
  | candidate :: rest =>
    match searcher.isResultFile root candidate with
    | .ok true => .ok (some candidate)
    | .ok false => firstFile? searcher root rest
    | .error e => .error e

/-- The files that some imports of `importer` mean, and the number of imports for which this could not
be found out. -/
def importedFiles (searcher : Searcher) (root : OsText) (importer : String) :
    List ImportReference → Logged (List String × Nat)
  | [] => pure ([], 0)
  | reference :: rest =>
    match reference.resolve? importer with
    | none => importedFiles searcher root importer rest
    | some resolved =>
      match firstFile? searcher root (importCandidates searcher.config resolved) with
      | .ok (some file) => do
        let (files, skipped) ← importedFiles searcher root importer rest
        pure (file :: files, skipped)
      | .ok none => do
        Logged.progress ("find_imported_files: '" ++ reference.specifier ++ "' in " ++ importer ++
          " does not resolve to a file")
        importedFiles searcher root importer rest
      | .error e => do
        Logged.problem ("find_imported_files: " ++ e.message)
        let (files, skipped) ← importedFiles searcher root importer rest
        pure (files, skipped + 1)

/-- The files of this tree that a file imports. -/
def findImported (searcher : Searcher) (root : OsText) (file : String) : Logged Outcome :=
  withImporter searcher root file "find_imported_files" fun importer text => do
    let (found, skipped) ← importedFiles searcher root importer (extractImports text)
    Logged.progress ("find_imported_files: " ++ toString found.length ++ " import(s) resolved in " ++
      importer)
    pure (.withSkipped found skipped)

/-! ## Dependencies of a file -/

/-- What an import of `importer` depends on: the path that a relative one means, or the specifier as it
stands.  What lies in the dependency directory is left out. -/
def dependency? (searcher : Searcher) (importer : String) (reference : ImportReference) :
    Option String :=
  if searcher.excludesName reference.specifier then none
  else
    (if reference.isRelative then reference.resolve? importer else some reference.specifier).filter
      fun path => !searcher.excludesName path

/-- Everything that a file imports, packages included. -/
def findDependencies (searcher : Searcher) (root : OsText) (file : String) : Logged Outcome :=
  withImporter searcher root file "find_dependencies" fun importer text => do
    let found := (extractImports text).filterMap (dependency? searcher importer)
    Logged.progress ("find_dependencies: " ++ toString found.length ++ " dependency(ies) in " ++
      importer)
    pure (.complete found)

/-! ## Classes related to a file -/

/-- The path that an import of a class means: `.ts` is appended to a name without extension. -/
def classFile? (importer : String) (reference : ImportReference) : Option String :=
  (reference.resolve? importer).map fun path : String =>
    if Path.hasExtension path then path else path ++ ".ts"

/-- Scans for the bases of some classes, one after the other, and collects what the scans found. -/
def baseFiles (searcher : Searcher) (root : OsText) :
    List (String × String) → Logged (List String × List ScanStatus)
  | [] => pure ([], [])
  | (_, base) :: rest => do
    let outcome ← scanTexts searcher root (containsText ("class " ++ base))
    let (files, statuses) ← baseFiles searcher root rest
    pure (outcome.value ++ files, outcome.status :: statuses)

/-- The files related to a file: those that it imports, and those that mention the base of one of its
classes.  Each file is listed once, where it was found first. -/
def findRelatedClasses (searcher : Searcher) (root : OsText) (file : String) : Logged Outcome :=
  let operation := "find_related_classes"
  withImporter searcher root file operation fun importer text => do
    let (imported, skipped) ← selectFiles (searcher.isResultFile root)
      (fun e => operation ++ ": " ++ e.message)
      ((extractImports text).filterMap (classFile? importer))
    let (mentioning, statuses) ← baseFiles searcher root (extractClasses text)
    let found := (imported ++ mentioning).eraseDups
    Logged.progress (operation ++ ": " ++ toString found.length ++ " related file(s) for " ++ importer)
    pure ⟨found, statuses.foldl ScanStatus.absorb (.ofSkipped skipped)⟩

/-! ## Styles of a component -/

/-- Whether a specifier ends like a style file. -/
def isStyleSpecifier (config : Config) (specifier : String) : Bool :=
  config.queries.styleExtensions.any fun extension =>
    ("." ++ extension).toList.isSuffixOf specifier.toList

/-- The paths that the style imports of a text mean. -/
def styleTargets (config : Config) (source text : String) : List String :=
  ((extractAllImports text).filter fun reference =>
    isStyleSpecifier config reference.specifier).filterMap fun reference => reference.resolve? source

/-- The style files that some sources import, and the number of sources and imports that could not be
examined. -/
def styleFiles (searcher : Searcher) (root : OsText) (operation : String) :
    List String → Logged (List String × Nat)
  | [] => pure ([], 0)
  | source :: rest =>
    match searcher.readText (Path.join root source) with
    | .error e => do
      Logged.problem (operation ++ ": " ++ e.message)
      let (files, skipped) ← styleFiles searcher root operation rest
      pure (files, skipped + 1)
    | .ok text => do
      let (found, missed) ← selectFiles (searcher.isResultFile root)
        (fun e => operation ++ ": " ++ e.message) (styleTargets searcher.config source text)
      let (files, skipped) ← styleFiles searcher root operation rest
      pure (found ++ files, missed + skipped)

/-- The style files that the sources of a component import. -/
def findStyles (searcher : Searcher) (root : OsText) (component : String) : Logged Outcome := do
  let operation := "find_style_dependencies"
  let sources ← findByName searcher root
    ("**/" ++ Glob.escape component ++ "." ++ searcher.config.sourceExtensionSet)
  if sources.status = .failed then
    pure .failed
  else
    let (found, skipped) ← styleFiles searcher root operation sources.value
    Logged.progress (operation ++ ": " ++ toString found.length ++ " style file(s) for " ++ component)
    pure (.withSkipped found (sources.status.skipped + skipped))

end CodeSearch
