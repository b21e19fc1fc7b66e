import CodeSearch.Proofs.Query.Imports

/-!
# Imports that are looked up under one path

Where the queries on classes and on styles look up an import, they examine a single path.  The paths are
put together first and examined afterwards, and it comes to the same as examining each import on its
own: what an import contributes (`examined?`) and whether it could not be examined (`isUnexamined`)
depends on that import alone.
-/

namespace CodeSearch

variable (searcher : Searcher) (root : OsText) (target? : ImportReference → Option String)

/-- The entry that an import contributes, if the path under which it is looked up is that of a file. -/
def examined? (reference : ImportReference) : Option String :=
  (target? reference).filter fun path => isAccepted (searcher.isResultFile root path)

/-- Whether the path under which an import is looked up could not be examined. -/
def isUnexamined (reference : ImportReference) : Bool :=
  (target? reference).any fun path => (fault? (searcher.isResultFile root path)).isSome

variable {searcher root target?}

theorem examined?_eq_some_iff {reference : ImportReference} {path : String} :
    examined? searcher root target? reference = some path ↔
      target? reference = some path ∧ IsFound searcher root path := by
  rw [examined?, Option.filter_eq_some_iff, isAccepted_isResultFile_iff]

theorem isUnexamined_iff {reference : ImportReference} :
    isUnexamined searcher root target? reference = true ↔
      ∃ path, target? reference = some path ∧ IsRefused searcher root path := by
  simp only [isUnexamined, Option.any_eq_true, isSome_fault?_isResultFile_iff]

/-- An import that could not be examined contributes nothing. -/
theorem examined?_of_isUnexamined {reference : ImportReference}
    (h : isUnexamined searcher root target? reference = true) :
    examined? searcher root target? reference = none := by
  obtain ⟨path, htarget, hrefused⟩ := isUnexamined_iff.1 h
  rw [Option.eq_none_iff_forall_ne_some]
  intro other hother
  obtain ⟨hsame, hfound⟩ := examined?_eq_some_iff.1 hother
  obtain rfl : path = other := Option.some.inj (htarget.symm.trans hsame)
  exact hrefused.not_isFound hfound

/-- The accepted ones of the paths of some imports are what each import contributes. -/
theorem filter_filterMap_target (references : List ImportReference) :
    ((references.filterMap target?).filter fun path =>
        isAccepted (searcher.isResultFile root path)) =
      references.filterMap (examined? searcher root target?) :=
  List.filter_filterMap ..

/-- The faults of the paths of some imports are as many as the imports that could not be examined. -/
theorem length_faults_filterMap_target (references : List ImportReference) :
    (faults (searcher.isResultFile root) (references.filterMap target?)).length =
      references.countP (isUnexamined searcher root target?) := by
  rw [faults, List.filterMap_filterMap, List.length_filterMap_eq_countP]
  refine List.countP_congr fun reference _ => ?_
  cases htarget : target? reference with
  | none => simp [isUnexamined, htarget]
  | some path => simp [isUnexamined, htarget]

end CodeSearch
