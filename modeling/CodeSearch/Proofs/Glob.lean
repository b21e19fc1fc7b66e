import CodeSearch.Proofs.Pattern
import CodeSearch.Query.Basic

/-!
# What globs accept

`**/*` accepts every path: what stands before the last slash is taken by `**/`, and the name after
it by `*` (`accepts_allFiles`).
-/

namespace CodeSearch

namespace Glob

/-- What `**/*` consists of. -/
theorem compileGlob_allFiles :
    compileGlob allFiles = .ok ⟨[.recursivePrefix, .zeroOrMore]⟩ := by
  rfl

/-- A path without slashes, or one divided after its last slash. -/
theorem exists_last_slash (bytes : List UInt8) :
    (∀ x ∈ bytes, x ≠ slash) ∨
      ∃ start name, bytes = (start ++ [slash]) ++ name ∧ ∀ x ∈ name, x ≠ slash := by
  induction bytes with
  | nil => exact .inl (by simp)
  | cons x bytes ih =>
    rcases ih with hfree | ⟨start, name, rfl, hname⟩
    · by_cases hx : x = slash
      · exact .inr ⟨[], bytes, by simp [hx], hfree⟩
      · exact .inl (by simpa [hx] using hfree)
    · exact .inr ⟨x :: start, name, rfl, hname⟩

/-- `**/*` accepts every path. -/
theorem accepts_allFiles (path : OsText) :
    Glob.accepts ⟨[.recursivePrefix, .zeroOrMore]⟩ path = true := by
  have hname {b a : Option UInt8} {name : List UInt8} (h : ∀ x ∈ name, x ≠ slash) :
      (sequencePattern [.zeroOrMore]).Matches b name a := by
    refine Pattern.matches_seq_iff.2 ⟨name, [], by simp, ?_, .empty⟩
    exact Pattern.matches_star_one_iff.2 fun x hx => by simpa using h x hx
  refine Pattern.describes_iff.2 (Pattern.matches_seq_iff.2 ?_)
  -- `**/` takes nothing, or everything up to the last slash
  rcases exists_last_slash path.bytes with hfree | ⟨start, name, heq, hfree⟩
  · exact ⟨[], _, rfl, .left (.right .empty), hname hfree⟩
  · refine ⟨start ++ [slash], name, heq, .right (.seq ?_ (.one rfl)), hname hfree⟩
    exact Pattern.matches_star_one_iff.2 fun _ _ => rfl

end Glob

end CodeSearch
