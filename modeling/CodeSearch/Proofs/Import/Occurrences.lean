import CodeSearch.Import

/-!
# Occurrences that do not overlap

`occurrences` goes through a text once and passes over what it has found.  `IsScan` says without that
loop which occurrences those are: the leftmost one, then the leftmost one behind it, and so on.  It
follows that they come one after the other (`IsScan.pairwise`) and that nothing is missed outside them
(`IsScan.exists_covering`).
-/

namespace CodeSearch.Import

/-- What was found in a stretch of a text, from `start` up to `stop`. -/
structure Span (α : Type) where
  /-- The number of characters before the stretch. -/
  start : Nat
  /-- The number of characters up to its end. -/
  stop : Nat
  /-- What was found. -/
  found : α

variable {α : Type}

/-- Some spans are what a search finds from the place `first` on: the leftmost occurrence, and from its
end on the next ones. -/
inductive IsScan (occurs : Span α → Prop) : (first : Nat) → List (Span α) → Prop where
  | finish {first : Nat} (all_before : ∀ span, occurs span → span.start < first) :
      IsScan occurs first []
  | find {first : Nat} {span : Span α} {rest : List (Span α)} (isOccurrence : occurs span)
      (le_start : first ≤ span.start)
      (leftmost : ∀ other, occurs other → first ≤ other.start → span.start ≤ other.start)
      (next : IsScan occurs span.stop rest) : IsScan occurs first (span :: rest)

namespace IsScan

variable {occurs : Span α → Prop} {first : Nat} {spans : List (Span α)}

/-- A place where nothing occurs can be passed over. -/
theorem of_succ (h : IsScan occurs (first + 1) spans)
    (hnone : ∀ span, occurs span → span.start ≠ first) : IsScan occurs first spans := by
  cases h with
  | finish all_before =>
    apply IsScan.finish
    intro span hspan
    have hbefore := all_before span hspan
    have hne := hnone span hspan
    omega
  | find hspan le_start leftmost next =>
    apply IsScan.find hspan (by omega) _ next
    intro other hother hfirst
    have hne := hnone other hother
    exact leftmost other hother (by omega)

variable (hsize : ∀ span, occurs span → span.start < span.stop)
include hsize

theorem of_mem (h : IsScan occurs first spans) {span : Span α} (hmem : span ∈ spans) :
    occurs span ∧ first ≤ span.start := by
  induction h with
  | finish => cases hmem
  | @find first head rest hhead le_start _ _ ih =>
    rcases List.mem_cons.1 hmem with rfl | hmem
    · exact ⟨hhead, le_start⟩
    · obtain ⟨hspan, hafter⟩ := ih hmem
      have hlt := hsize head hhead
      exact ⟨hspan, by omega⟩

/-- Each span ends before the next ones begin. -/
theorem pairwise (h : IsScan occurs first spans) :
    spans.Pairwise fun span next => span.stop ≤ next.start := by
  induction h with
  | finish => exact .nil
  | find _ _ _ next ih =>
    apply List.Pairwise.cons _ ih
    intro other hother
    exact (of_mem hsize next hother).2

omit hsize in
/-- Whatever occurs begins within some span. -/
theorem exists_covering (h : IsScan occurs first spans) {span : Span α} (hspan : occurs span)
    (hfirst : first ≤ span.start) :
    ∃ other ∈ spans, other.start ≤ span.start ∧ span.start < other.stop := by
  induction h with
  | finish all_before =>
    have hbefore := all_before span hspan
    omega
  | @find first head rest _ _ leftmost _ ih =>
    by_cases hwithin : span.start < head.stop
    · exact ⟨head, by simp, leftmost span hspan hfirst, hwithin⟩
    · obtain ⟨other, hother, hcovers⟩ := ih (by omega)
      exact ⟨other, by simp [hother], hcovers⟩

end IsScan

section Occurrences

variable (recognise? : Option Char → List Char → Option (α × Nat))

/-- A recogniser accepts a stretch of a text. -/
def IsRecognised (text : List Char) (span : Span α) : Prop :=
  ∃ before rest length, text = before ++ rest ∧
    recognise? before.getLast? rest = some (span.found, length) ∧
    span.start = before.length ∧ span.stop = before.length + length

variable {recognise?}

/-- At most one stretch is accepted from a place on. -/
theorem IsRecognised.eq_of_start_eq {text : List Char} {span other : Span α}
    (h : IsRecognised recognise? text span) (hother : IsRecognised recognise? text other)
    (hstart : span.start = other.start) : span = other := by
  obtain ⟨before, rest, length, rfl, hfound, hbegin, hend⟩ := h
  obtain ⟨before', rest', length', htext, hfound', hbegin', hend'⟩ := hother
  obtain ⟨rfl, rfl⟩ := List.append_inj htext (by omega)
  rw [hfound] at hfound'
  obtain ⟨hsame, hlength⟩ := Prod.mk.inj (Option.some.inj hfound')
  cases span
  cases other
  simp_all

variable (hsize : ∀ before rest found length,
  recognise? before rest = some (found, length) → 0 < length ∧ length ≤ rest.length)
include hsize

theorem IsRecognised.start_lt_stop {text : List Char} {span : Span α}
    (h : IsRecognised recognise? text span) : span.start < span.stop := by
  obtain ⟨before, rest, length, -, hfound, hstart, hstop⟩ := h
  have hpos := (hsize _ _ _ _ hfound).1
  omega

/-- Going through the rest of a text is a search from the place where `skip` characters are passed. -/
theorem exists_isScan_occurrences (before rest : List Char) (skip : Nat) :
    ∃ spans, IsScan (IsRecognised recognise? (before ++ rest)) (before.length + skip) spans ∧
      occurrences recognise? skip before.getLast? rest = spans.map (·.found) := by
  induction rest generalizing before skip with
  | nil =>
    refine ⟨[], .finish ?_, by cases skip <;> rfl⟩
    rintro span ⟨start, rest, length, htext, hfound, hstart, -⟩
    have hlengths := congrArg List.length htext
    have hfits := hsize _ _ _ _ hfound
    simp only [List.append_nil, List.length_append] at hlengths
    omega
  | cons c rest ih =>
    have htext : before ++ c :: rest = before ++ [c] ++ rest := by simp
    have hlast : (before ++ [c]).getLast? = some c := List.getLast?_concat
    have hlength : (before ++ [c]).length = before.length + 1 := by simp
    rw [htext]
    cases skip with
    | succ skip =>
      -- the character belongs to the occurrence before
      obtain ⟨spans, hscan, hspans⟩ := ih (before ++ [c]) skip
      rw [hlast] at hspans
      rw [hlength, Nat.add_right_comm] at hscan
      exact ⟨spans, hscan, hspans⟩
    | zero =>
      rw [Nat.add_zero, occurrences]
      cases hhere : recognise? before.getLast? (c :: rest) with
      | none =>
        obtain ⟨spans, hscan, hspans⟩ := ih (before ++ [c]) 0
        rw [hlast] at hspans
        rw [hlength, Nat.add_zero] at hscan
        refine ⟨spans, hscan.of_succ ?_, hspans⟩
        rintro span ⟨start, rest', length, hsplit, hfound, hstart, -⟩ hfirst
        rw [← htext] at hsplit
        obtain ⟨rfl, rfl⟩ := List.append_inj hsplit (by omega)
        rw [hhere] at hfound
        cases hfound
      | some result =>
        obtain ⟨found, length⟩ := result
        obtain ⟨spans, hscan, hspans⟩ := ih (before ++ [c]) (length - 1)
        have hpos := (hsize _ _ _ _ hhere).1
        have hstop : before.length + 1 + (length - 1) = before.length + length := by omega
        rw [hlast] at hspans
        rw [hlength, hstop] at hscan
        refine ⟨⟨before.length, before.length + length, found⟩ :: spans, .find ?_ ?_ ?_ hscan, ?_⟩
        · exact ⟨before, c :: rest, length, htext.symm, hhere, rfl, rfl⟩
        · exact Nat.le_refl _
        · exact fun other _ hfirst => hfirst
        · simp only [List.map_cons, hspans]

end Occurrences

end CodeSearch.Import
