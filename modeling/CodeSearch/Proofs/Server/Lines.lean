import CodeSearch.Proofs.Json.OneLine
import CodeSearch.Proofs.OsText
import CodeSearch.Server.Answer

/-!
# The lines of a session

The server keeps nothing from one line to the next: what it writes for an input is what it writes for
the lines one by one (`session_append`, `session_closedLines`), until it comes to a line that is not
UTF-8.  There it stops (`session_append_of_broken`).
-/

namespace CodeSearch.Server

/-- The lines that the server writes for a line, one at most. -/
def written (world : World) (line : String) : Option String :=
  (answer world line).value.map fun reply => reply.toJson.compact

theorem session_eq (world : World) (input : OsText) :
    session world input = (decodedLines (inputLines input)).filterMap (written world) := rfl

/-! ## Lines that are decoded -/

section Decoded

variable {first last : List OsText}

theorem decodedLines_ofText (lines : List String) :
    decodedLines (lines.map OsText.ofText) = lines := by
  induction lines with
  | nil => rfl
  | cons line lines ih =>
    rw [List.map_cons, decodedLines, OsText.toText?_ofText, ih]

/-- Behind lines that are UTF-8 decoding goes on. -/
theorem decodedLines_append (h : ∀ line ∈ first, line.IsUtf8) :
    decodedLines (first ++ last) = decodedLines first ++ decodedLines last := by
  induction first with
  | nil => rfl
  | cons line first ih =>
    obtain ⟨text, rfl⟩ := OsText.isUtf8_iff.mp (h line (by simp))
    rw [List.cons_append, decodedLines, decodedLines, OsText.toText?_ofText,
      ih fun other hother => h other (by simp [hother])]
    rfl

/-- Behind a line that is not UTF-8 nothing is decoded. -/
theorem decodedLines_append_of_broken (h : ∃ line ∈ first, ¬ line.IsUtf8) :
    decodedLines (first ++ last) = decodedLines first := by
  induction first with
  | nil => simp at h
  | cons line first ih =>
    rw [List.cons_append, decodedLines, decodedLines]
    cases hline : line.toText? with
    | none => rfl
    | some text =>
      obtain ⟨broken, hmem, hbroken⟩ := h
      have hrest : ∃ line ∈ first, ¬ line.IsUtf8 := by
        rcases List.mem_cons.mp hmem with rfl | hmem
        · exact absurd (OsText.isUtf8_iff.mpr ⟨text, OsText.toText?_eq_some_iff.mp hline⟩) hbroken
        · exact ⟨broken, hmem, hbroken⟩
      exact congrArg (text :: ·) (ih hrest)

end Decoded

/-! ## Lines of an input -/

/-- A line without the carriage return at its end. -/
def closedLine (line : List UInt8) : OsText :=
  ⟨if line.getLast? = some carriageReturn then line.dropLast else line⟩

/-- The lines of an input that ends with `last`, the lines before being closed. -/
theorem inputLines_eq {input : OsText} {closed : List (List UInt8)} {last : List UInt8}
    (h : Text.splitWhere (· == lineFeed) input.bytes = closed ++ [last]) :
    inputLines input = closed.map closedLine ++ if last.isEmpty then [] else [⟨last⟩] := by
  rw [inputLines, h]
  simp only [List.reverse_append, List.reverse_singleton, List.singleton_append, List.reverse_reverse]
  split
  case isTrue => exact (List.append_nil _).symm
  case isFalse => rfl

/-- The lines behind a line feed are those of the text behind it. -/
theorem inputLines_append (first last : OsText) :
    inputLines (first ++ "\n" ++ last) = inputLines (first ++ "\n") ++ inputLines last := by
  have hcut (behind : OsText) :
      Text.splitWhere (· == lineFeed) (first ++ "\n" ++ behind).bytes =
        Text.splitWhere (· == lineFeed) first.bytes ++
          Text.splitWhere (· == lineFeed) behind.bytes := by
    rw [OsText.bytes_append, OsText.bytes_append, List.append_assoc]
    exact Text.splitWhere_append_cons rfl _ _
  have hfirst : Text.splitWhere (· == lineFeed) (first ++ "\n" : OsText).bytes =
      Text.splitWhere (· == lineFeed) first.bytes ++ [[]] := by
    have hnone := hcut ⟨[]⟩
    rwa [OsText.bytes_append, List.append_nil] at hnone
  have hlast := (List.dropLast_concat_getLast
    (Text.splitWhere_ne_nil (· == lineFeed) last.bytes)).symm
  have hboth := hcut last
  rw [hlast, ← List.append_assoc] at hboth
  rw [inputLines_eq hboth, inputLines_eq hfirst, inputLines_eq hlast]
  simp

theorem splitWhere_closed {line : OsText} (h : lineFeed ∉ line.bytes) :
    Text.splitWhere (· == lineFeed) (line ++ "\n" : OsText).bytes = [line.bytes] ++ [[]] := by
  have hfree : ∀ b ∈ line.bytes, (b == lineFeed) = false := by
    intro b hb
    rw [beq_eq_false_iff_ne]
    rintro rfl
    exact h hb
  exact Text.splitWhere_append hfree rfl []

/-- A line that is closed by a line feed is the only one. -/
theorem inputLines_closed {line : OsText} (hfeed : lineFeed ∉ line.bytes)
    (hreturn : line.bytes.getLast? ≠ some carriageReturn) : inputLines (line ++ "\n") = [line] := by
  rw [inputLines_eq (splitWhere_closed hfeed), List.map_singleton, closedLine, if_neg hreturn]
  rfl

theorem lineFeed_mem_iff {line : String} : lineFeed ∈ (line : OsText).bytes ↔ '\n' ∈ line.toList :=
  mem_utf8Bytes_iff (c := '\n') (by decide)

/-- A value is written on one line. -/
theorem inputLines_compact (value : Json) :
    inputLines (value.compact ++ "\n" : OsText) = [↑value.compact] := by
  refine inputLines_closed (mt lineFeed_mem_iff.mp (Json.no_lineFeed_compact value)) fun hreturn => ?_
  have hmem : '\r' ∈ value.compact.toList :=
    (mem_utf8Bytes_iff (c := '\r') (by decide)).mp (List.mem_of_getLast? hreturn)
  exact absurd (Json.noControl_compact value _ hmem) (by decide)

/-! ## Texts -/

theorem isUtf8_closedLine (line : List Char) :
    (closedLine (line.flatMap String.utf8EncodeChar)).IsUtf8 := by
  unfold closedLine
  split
  · rename_i hreturn
    rcases List.eq_nil_or_concat line with rfl | ⟨init, c, rfl⟩
    · exact OsText.isUtf8_flatMap []
    · rw [List.concat_eq_append, List.flatMap_append, List.flatMap_singleton] at hreturn ⊢
      -- the last byte is a character of its own
      have hlast : (String.utf8EncodeChar c).getLast? = some carriageReturn := by
        have hcode : String.utf8EncodeChar c ≠ [] := by simp
        rwa [List.getLast?_append_of_ne_nil _ hcode] at hreturn
      have hc := eq_of_mem_utf8EncodeChar (c := '\r') (by decide) (List.mem_of_getLast? hlast)
      have hinit : (init.flatMap String.utf8EncodeChar ++ String.utf8EncodeChar c).dropLast =
          init.flatMap String.utf8EncodeChar := by
        rw [hc]
        exact List.dropLast_concat
      rw [hinit]
      exact OsText.isUtf8_flatMap init
  · exact OsText.isUtf8_flatMap line

/-- The lines of a text are texts. -/
theorem isUtf8_of_mem_inputLines {input : String} {line : OsText} (h : line ∈ inputLines input) :
    line.IsUtf8 := by
  have hcut : Text.splitWhere (· == lineFeed) (input : OsText).bytes =
      (Text.splitWhere (· == '\n') input.toList).map (List.flatMap String.utf8EncodeChar) :=
    OsText.splitWhere_utf8Bytes (c := '\n') (by decide) input.toList
  have hlast := (List.dropLast_concat_getLast
    (Text.splitWhere_ne_nil (· == '\n') input.toList)).symm
  rw [hlast, List.map_append, List.map_singleton] at hcut
  rw [inputLines_eq hcut, List.map_map] at h
  rcases List.mem_append.mp h with h | h
  · obtain ⟨chars, -, rfl⟩ := List.mem_map.mp h
    exact isUtf8_closedLine chars
  · split at h
    · cases h
    · rw [List.mem_singleton.mp h]
      exact OsText.isUtf8_flatMap _

/-! ## Line by line -/

theorem session_append {first : OsText} (h : ∀ line ∈ inputLines (first ++ "\n"), line.IsUtf8)
    (world : World) (last : OsText) :
    session world (first ++ "\n" ++ last) =
      session world (first ++ "\n") ++ session world last := by
  rw [session_eq, session_eq, session_eq, inputLines_append, decodedLines_append h,
    List.filterMap_append]

/-- Behind a line that is not UTF-8 nothing is answered. -/
theorem session_append_of_broken {first : OsText}
    (h : ∃ line ∈ inputLines (first ++ "\n"), ¬ line.IsUtf8) (world : World) (last : OsText) :
    session world (first ++ "\n" ++ last) = session world (first ++ "\n") := by
  rw [session_eq, session_eq, inputLines_append, decodedLines_append_of_broken h]

/-- A line stays broken without the carriage return at its end. -/
theorem not_isUtf8_closedLine {line : OsText} (h : ¬ line.IsUtf8) :
    ¬ (closedLine line.bytes).IsUtf8 := by
  unfold closedLine
  split
  · rename_i hreturn
    intro hutf8
    have hline : line = ⟨line.bytes.dropLast⟩ ++ "\r" :=
      congrArg OsText.mk (List.dropLast_append_getLast? _ hreturn).symm
    exact h (hline ▸ hutf8.append (OsText.isUtf8_ofText "\r"))
  · exact h

/-- A line that is not UTF-8 ends a session. -/
theorem session_of_broken {broken : OsText} (hfeed : lineFeed ∉ broken.bytes)
    (h : ¬ broken.IsUtf8) (world : World) (rest : OsText) :
    session world (broken ++ "\n" ++ rest) = [] ∧ session world broken = [] := by
  have hnone {line : OsText} (hline : ¬ line.IsUtf8) : decodedLines [line] = [] := by
    rw [decodedLines, OsText.toText?_eq_none_iff.mpr hline]
  constructor
  · have hlines : inputLines (broken ++ "\n") = [closedLine broken.bytes] :=
      inputLines_eq (splitWhere_closed hfeed)
    have hclosed := not_isUtf8_closedLine h
    rw [session_append_of_broken ⟨_, hlines ▸ List.mem_singleton_self _, hclosed⟩, session_eq, hlines,
      hnone hclosed]
    rfl
  · have hfree : ∀ b ∈ broken.bytes, (b == lineFeed) = false := by
      intro b hb
      rw [beq_eq_false_iff_ne]
      rintro rfl
      exact hfeed hb
    have hcut : Text.splitWhere (· == lineFeed) broken.bytes = [] ++ [broken.bytes] :=
      Text.splitWhere_eq_singleton hfree
    have hlines : inputLines broken = if broken.bytes.isEmpty then [] else [broken] :=
      inputLines_eq hcut
    rw [session_eq, hlines]
    split
    · rfl
    · rw [hnone h]
      rfl

/-- Lines, each closed by a line feed. -/
def closedLines (lines : List String) : String := String.join (lines.map (· ++ "\n"))

theorem closedLines_cons (line : String) (lines : List String) :
    closedLines (line :: lines) = line ++ "\n" ++ closedLines lines := by
  rw [closedLines, List.map_cons, String.join_cons]
  rfl

/-- Values on lines of their own are read as these lines. -/
theorem inputLines_closedLines (values : List Json) :
    inputLines (closedLines (values.map Json.compact)) =
      values.map fun value => (value.compact : OsText) := by
  induction values with
  | nil => rfl
  | cons value values ih =>
    rw [List.map_cons, closedLines_cons, OsText.ofText_append, OsText.ofText_append,
      inputLines_append, inputLines_compact, ih]
    rfl

/-- The server answers lines one by one. -/
theorem session_closedLines (world : World) (lines : List String) (last : OsText) :
    session world (closedLines lines ++ last) =
      (lines.flatMap fun line : String => session world (line ++ "\n" : OsText)) ++
        session world last := by
  induction lines with
  | nil => rfl
  | cons line lines ih =>
    have hline : ∀ other ∈ inputLines (line ++ "\n" : OsText), other.IsUtf8 := by
      rw [← OsText.ofText_append]
      exact fun _ => isUtf8_of_mem_inputLines
    rw [closedLines_cons, OsText.ofText_append, OsText.ofText_append, OsText.append_assoc,
      session_append hline, ih, List.flatMap_cons, List.append_assoc]

end CodeSearch.Server
