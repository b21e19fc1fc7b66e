import CodeSearch.Proofs.Json.Steps

/-!
# Passing over values

`Json.skipValue` keeps the open brackets in a list where `Json.readValue` calls itself.  What can be read
is passed over up to the same place (`skipValue_of_readValue`): reading a value takes the skipping from
the place before it to the place behind it, whatever brackets are open around it (`Passes`).
-/

namespace CodeSearch.Json

/-! ## Strings -/

/-- A string that can be read is passed over. -/
theorem skipString_of_readString {read text : List Char} {r : String × List Char}
    (h : readString read text = .ok r) : skipString text = .ok r.2 ∧ r.2.length < text.length := by
  fun_induction readString read text generalizing r with
  | case2 =>
    obtain rfl := Except.ok.inj h
    exact ⟨rfl, Nat.lt_succ_self _⟩
  | case6 read a b c d unit hunit _ _ e f g h' rest low hlow _ ih =>
    obtain ⟨hskip, hlength⟩ := ih h
    simp only [List.length_cons]
    exact ⟨by simp [skipString, hunit, hlow, hskip], by omega⟩
  | case9 read a b c d rest unit hunit _ _ ih =>
    obtain ⟨hskip, hlength⟩ := ih h
    simp only [List.length_cons]
    exact ⟨by simp [skipString, hunit, hskip], by omega⟩
  | case12 read c rest hescape hc d hd ih =>
    obtain ⟨hskip, hlength⟩ := ih h
    simp only [List.length_cons]
    refine ⟨?_, by omega⟩
    rw [skipString, if_neg hc, hd]
    · exact hskip
    · exact hescape
  | case15 read c rest hquote hunit hend hescape hc ih =>
    obtain ⟨hskip, hlength⟩ := ih h
    simp only [List.length_cons]
    refine ⟨?_, by omega⟩
    rw [skipString, if_neg hc]
    · exact hskip
    · exact hquote
    · exact hunit
    · exact hend
    · exact hescape
  | _ => simp at h

/-! ## Numbers -/

theorem length_lt_of_span {text digits rest : List Char}
    (h : text.span Char.isDigit = (digits, rest)) (hne : digits ≠ []) :
    rest.length < text.length := by
  rw [List.span_eq_takeWhile_dropWhile] at h
  obtain ⟨rfl, rfl⟩ := Prod.mk.inj h
  have htext := congrArg List.length (List.takeWhile_append_dropWhile (p := Char.isDigit) (l := text))
  rw [List.length_append] at htext
  have := List.length_pos_iff.mpr hne
  omega

section Numbers

variable {negative : Bool} {significand : ℕ} {exponent : ℤ} {text rest : List Char} {n : Number}

/-- The digits of an exponent are passed over. -/
theorem skipShift_of_readShift {down : Bool}
    (h : readShift negative significand exponent down text = .ok (n, rest)) :
    skipShift text = .ok rest ∧ rest.length < text.length := by
  rw [readShift] at h
  split at h
  case h_1 => simp at h
  case h_2 => simp at h
  case h_3 digits behind _ hne hspan =>
    have hrest : behind = rest := by
      dsimp only at h
      split at h
      case isTrue =>
        split at h
        case isTrue => simp at h
        case isFalse => exact (Prod.mk.inj (Except.ok.inj h)).2
      case isFalse =>
        obtain ⟨_, -, h⟩ := exists_of_bind_eq_ok h
        exact (Prod.mk.inj (Except.ok.inj h)).2
    subst hrest
    refine ⟨?_, length_lt_of_span hspan hne⟩
    rw [skipShift, hspan]
    cases digits with
    | nil => exact absurd rfl hne
    | cons c digits => rfl

/-- An exponent that can be read is passed over. -/
theorem skipExponent_of_readExponent
    (h : readExponent negative significand exponent text = .ok (n, rest)) :
    skipExponent text = .ok rest ∧ rest.length < text.length := by
  unfold readExponent at h
  split at h
  case h_1 =>
    obtain ⟨hskip, hlength⟩ := skipShift_of_readShift h
    exact ⟨hskip, hlength.trans (Nat.lt_succ_self _)⟩
  case h_2 =>
    obtain ⟨hskip, hlength⟩ := skipShift_of_readShift h
    exact ⟨hskip, hlength.trans (Nat.lt_succ_self _)⟩
  case h_3 hplus hminus =>
    obtain ⟨hskip, hlength⟩ := skipShift_of_readShift h
    refine ⟨?_, hlength⟩
    rw [skipExponent]
    · exact hskip
    · exact hplus
    · exact hminus

/-- A fraction that can be read is passed over. -/
theorem skipFraction_of_readFraction
    (h : readFraction negative significand exponent text = .ok (n, rest)) :
    skipFraction text = .ok rest ∧ rest.length < text.length := by
  rw [readFraction] at h
  split at h
  case h_1 => simp at h
  case h_2 => simp at h
  case h_3 digits behind _ hne hspan =>
    have hlength := length_lt_of_span hspan hne
    obtain ⟨c, digits, rfl⟩ := List.exists_cons_of_ne_nil hne
    rw [skipFraction, hspan]
    dsimp only at h
    split at h
    case h_1 =>
      obtain ⟨hskip, hshorter⟩ := skipExponent_of_readExponent h
      exact ⟨hskip, hshorter.trans (Nat.lt_of_succ_lt hlength)⟩
    case h_2 =>
      obtain ⟨hskip, hshorter⟩ := skipExponent_of_readExponent h
      exact ⟨hskip, hshorter.trans (Nat.lt_of_succ_lt hlength)⟩
    case h_3 he hE =>
      obtain ⟨_, -, h⟩ := exists_of_bind_eq_ok h
      obtain rfl := (Prod.mk.inj (Except.ok.inj h)).2
      refine ⟨?_, hlength⟩
      split
      case h_1 heq => simp at heq
      case h_2 heq => exact absurd (Prod.mk.inj heq).2 (he _)
      case h_3 heq => exact absurd (Prod.mk.inj heq).2 (hE _)
      case h_4 heq => rw [(Prod.mk.inj heq).2]

/-- Behind digits without a superfluous zero, a point or an exponent is passed over. -/
theorem skipUnsigned_cases {digits behind : List Char} (hne : digits ≠ [])
    (hzero : ∀ c rest, digits ≠ '0' :: c :: rest)
    (hspan : text.span Char.isDigit = (digits, behind)) :
    (∀ more, behind = '.' :: more → skipUnsigned text = skipFraction more) ∧
    (∀ more, behind = 'e' :: more ∨ behind = 'E' :: more → skipUnsigned text = skipExponent more) ∧
    ((∀ more, behind ≠ '.' :: more) → (∀ more, behind ≠ 'e' :: more) →
      (∀ more, behind ≠ 'E' :: more) → skipUnsigned text = .ok behind) := by
  rw [skipUnsigned, hspan]
  split
  case h_1 heq => exact absurd (Prod.mk.inj heq).1 hne
  case h_2 heq => exact absurd (Prod.mk.inj heq).1 (hzero _ _)
  case h_3 heq =>
    obtain ⟨-, rfl⟩ := Prod.mk.inj heq
    simp
  case h_4 heq =>
    obtain ⟨-, rfl⟩ := Prod.mk.inj heq
    simp
  case h_5 heq =>
    obtain ⟨-, rfl⟩ := Prod.mk.inj heq
    simp
  case h_6 _ _ hpoint he hE heq =>
    obtain ⟨rfl, rfl⟩ := Prod.mk.inj heq
    exact ⟨fun more h => absurd h (hpoint more), fun more h => absurd h (not_or.mpr ⟨he more, hE more⟩),
      fun _ _ _ => rfl⟩

/-- A number that can be read is passed over. -/
theorem skipUnsigned_of_readUnsigned (h : readUnsigned negative text = .ok (n, rest)) :
    skipUnsigned text = .ok rest ∧ rest.length < text.length := by
  rw [readUnsigned] at h
  split at h
  case h_1 => simp at h
  case h_2 => simp at h
  case h_3 => simp at h
  case h_4 digits behind _ hne hzero hspan =>
    have hlength := length_lt_of_span hspan hne
    obtain ⟨hpoint, hexponent, hend⟩ := skipUnsigned_cases hne hzero hspan
    dsimp only at h
    split at h
    case h_1 =>
      obtain ⟨hskip, hshorter⟩ := skipFraction_of_readFraction h
      exact ⟨(hpoint _ rfl).trans hskip, hshorter.trans (Nat.lt_of_succ_lt hlength)⟩
    case h_2 =>
      obtain ⟨hskip, hshorter⟩ := skipExponent_of_readExponent h
      exact ⟨(hexponent _ (.inl rfl)).trans hskip, hshorter.trans (Nat.lt_of_succ_lt hlength)⟩
    case h_3 =>
      obtain ⟨hskip, hshorter⟩ := skipExponent_of_readExponent h
      exact ⟨(hexponent _ (.inr rfl)).trans hskip, hshorter.trans (Nat.lt_of_succ_lt hlength)⟩
    case h_4 hnoPoint he hE =>
      have hrest : behind = rest := by
        split at h
        all_goals
          obtain ⟨_, -, h⟩ := exists_of_bind_eq_ok h
          exact (Prod.mk.inj (Except.ok.inj h)).2
      subst hrest
      exact ⟨hend hnoPoint he hE, hlength⟩

/-- A number that can be read is passed over. -/
theorem skipNumber_of_readNumber (h : readNumber text = .ok (n, rest)) :
    skipNumber text = .ok rest ∧ rest.length < text.length := by
  unfold readNumber at h
  split at h
  case h_1 =>
    obtain ⟨hskip, hlength⟩ := skipUnsigned_of_readUnsigned h
    exact ⟨hskip, hlength.trans (Nat.lt_succ_self _)⟩
  case h_2 hminus =>
    obtain ⟨hskip, hlength⟩ := skipUnsigned_of_readUnsigned h
    refine ⟨?_, hlength⟩
    rw [skipNumber]
    · exact hskip
    · exact hminus

end Numbers

/-! ## Words and blanks -/

theorem length_le_of_readWord {word text rest : List Char} (h : readWord word text = .ok rest) :
    rest.length ≤ text.length := by
  induction word generalizing text with
  | nil =>
    obtain rfl := Except.ok.inj h
    exact le_rfl
  | cons w word ih =>
    cases text with
    | nil => simp [readWord] at h
    | cons c text =>
      rw [readWord] at h
      split at h
      case isTrue => exact (ih h).trans (Nat.le_succ _)
      case isFalse => simp at h

theorem length_skipBlanks_le (text : List Char) : (skipBlanks text).length ≤ text.length :=
  (List.dropWhile_suffix _).length_le

theorem length_lt_of_skipBlanks {text behind : List Char} {c : Char}
    (h : skipBlanks text = c :: behind) : behind.length < text.length := by
  have := length_skipBlanks_le text
  rw [h, List.length_cons] at this
  exact this

theorem length_lt_of_readColon {text rest : List Char} (h : readColon text = .ok rest) :
    rest.length < text.length := by
  rw [readColon] at h
  split at h
  case h_1 => simp at h
  case h_2 htext =>
    obtain rfl := Except.ok.inj h
    exact length_lt_of_skipBlanks htext
  case h_3 => simp at h

/-! ## Values -/

/-- Skipping leads behind the innermost brackets, in fewer steps than twice the characters up to there,
whatever brackets are open around them. -/
def Passes (before : SkipState) (inner text rest : List Char) : Prop :=
  ∃ k, k + 1 + 2 * rest.length ≤ 2 * text.length ∧ ∀ steps opened,
    skipWith (steps + k) before (inner ++ opened) text = skipWith steps (.behind true) opened rest

/-- Skipping passes over a value without parts at once. -/
theorem passes_of_scalar {text rest : List Char} {passing : Except JsonError (List Char)}
    (hpassing : passing = .ok rest) (hlength : rest.length < text.length)
    (hskip : ∀ steps opened, skipWith (steps + 1) .beforeValue opened text =
      passing >>= skipWith steps (.behind true) opened) : Passes .beforeValue [] text rest := by
  refine ⟨1, by omega, fun steps opened => ?_⟩
  rw [List.nil_append, hskip, hpassing]
  rfl

/-- Skipping goes on inside a bracket. -/
theorem passes_of_bracket {text behind rest : List Char} {c : Char} (hc : c = '[' ∨ c = '\x7b')
    (htext : skipBlanks text = c :: behind) (hparts : Passes (.behind false) [c] behind rest) :
    Passes .beforeValue [] text rest := by
  obtain ⟨k, hk, hskip⟩ := hparts
  have hlength := length_lt_of_skipBlanks htext
  refine ⟨k + 1, by omega, fun steps opened => ?_⟩
  rw [← Nat.add_assoc, skipWith, htext]
  have hturn := hskip steps opened
  rcases hc with rfl | rfl
  · exact hturn
  · exact hturn

/-- A closing bracket ends the parts. -/
theorem passes_of_close {text rest : List Char} {bracket close : Char} (anItem : Bool)
    (hclose : (close = ']' ∧ bracket = '[') ∨ (close = '\x7d' ∧ bracket = '\x7b'))
    (htext : skipBlanks text = close :: rest) : Passes (.behind anItem) [bracket] text rest := by
  have hlength := length_lt_of_skipBlanks htext
  refine ⟨1, by omega, fun steps opened => ?_⟩
  rw [List.singleton_append, skipWith, htext]
  rcases hclose with ⟨rfl, rfl⟩ | ⟨rfl, rfl⟩
  · simp
  · simp

/-- A list goes on with an item and what follows it. -/
theorem passes_of_item {text next behind rest : List Char} {anItem : Bool}
    (hnext : nextItem (!anItem) text = .ok (some next))
    (hvalue : ∀ place, skipBlanks place = skipBlanks next → Passes .beforeValue [] place behind)
    (htail : Passes (.behind true) ['['] behind rest) : Passes (.behind anItem) ['['] text rest := by
  -- the place before the item, behind a comma if there is one
  obtain ⟨place, hplace, hlength, hturn⟩ : ∃ place, skipBlanks place = skipBlanks next ∧
      place.length ≤ text.length ∧ ∀ steps opened,
        skipWith (steps + 1) (.behind anItem) ('[' :: opened) text =
          skipWith steps .beforeValue ('[' :: opened) place := by
    rcases nextItem_some_cases hnext with
      ⟨hfirst, c, more, hclose, htext, rfl⟩ | ⟨hfirst, more, htext, rfl⟩
    · obtain rfl : anItem = false := by simpa using hfirst
      refine ⟨c :: more, rfl, htext ▸ length_skipBlanks_le text, fun steps opened => ?_⟩
      rw [skipWith, htext]
      simp [hclose]
    · obtain rfl : anItem = true := by simpa using hfirst
      refine ⟨more, (skipBlanks_skipBlanks more).symm, (length_lt_of_skipBlanks htext).le,
        fun steps opened => ?_⟩
      rw [skipWith, htext]
      simp
  obtain ⟨k, hk, hskip⟩ := hvalue place hplace
  obtain ⟨tail, htail, hskipTail⟩ := htail
  refine ⟨tail + k + 1, by omega, fun steps opened => ?_⟩
  have hitem := hskip (steps + tail) ('[' :: opened)
  have hrest := hskipTail steps opened
  rw [List.nil_append] at hitem
  rw [List.singleton_append] at hrest ⊢
  rw [← Nat.add_assoc, ← Nat.add_assoc, hturn, hitem, hrest]

/-- An object goes on with a member and what follows it. -/
theorem passes_of_member {text next more colon value behind rest : List Char} {key : String}
    {anItem : Bool} (hnext : nextKey (!anItem) text = .ok (some next, more))
    (hkey : readString [] next = .ok (key, colon)) (hcolon : readColon colon = .ok value)
    (hvalue : Passes .beforeValue [] value behind)
    (htail : Passes (.behind true) ['\x7b'] behind rest) :
    Passes (.behind anItem) ['\x7b'] text rest := by
  obtain ⟨hskipKey, hlengthKey⟩ := skipString_of_readString hkey
  have hlengthColon := length_lt_of_readColon hcolon
  dsimp only at hskipKey hlengthKey
  obtain ⟨hlength, hturn⟩ : next.length ≤ text.length ∧ ∀ steps opened,
      skipWith (steps + 1) (.behind anItem) ('\x7b' :: opened) text =
        skipWith steps .beforeValue ('\x7b' :: opened) value := by
    rcases nextKey_some_cases hnext with ⟨hfirst, htext⟩ | ⟨hfirst, place, htext, hplace⟩
    · obtain rfl : anItem = false := by simpa using hfirst
      refine ⟨(length_lt_of_skipBlanks htext).le, fun steps opened => ?_⟩
      rw [skipWith, htext]
      simp [skipBlanks_cons, isBlank, hskipKey, hcolon, bind, Except.bind]
    · obtain rfl : anItem = true := by simpa using hfirst
      refine ⟨((length_lt_of_skipBlanks hplace).trans (length_lt_of_skipBlanks htext)).le,
        fun steps opened => ?_⟩
      rw [skipWith, htext]
      simp [hplace, hskipKey, hcolon, bind, Except.bind]
  obtain ⟨k, hk, hskip⟩ := hvalue
  obtain ⟨tail, htail, hskipTail⟩ := htail
  refine ⟨tail + k + 1, by omega, fun steps opened => ?_⟩
  have hmember := hskip (steps + tail) ('\x7b' :: opened)
  have hrest := hskipTail steps opened
  rw [List.nil_append] at hmember
  rw [List.singleton_append] at hrest ⊢
  rw [← Nat.add_assoc, ← Nat.add_assoc, hturn, hmember, hrest]

/-- A list whose items are passed over is passed over. -/
theorem passes_of_readItems {item : List Char → Except JsonError (Json × List Char)}
    (hitem : ∀ text place r, item text = .ok r → skipBlanks place = skipBlanks text →
      Passes .beforeValue [] place r.2) {steps : ℕ} {items : List Json} {text : List Char}
    {r : Json × List Char} (h : readItems item steps items text = .ok r) :
    Passes (.behind (!items.isEmpty)) ['['] text r.2 := by
  induction steps generalizing items text with
  | zero => simp [readItems] at h
  | succ steps ih =>
    rcases readItems_cases h with ⟨hnone, rest, hend, rfl⟩ | ⟨next, value, rest, hnext, hread, h⟩
    · obtain ⟨behind, htext⟩ := exists_of_nextItem_none hnone
      rw [endList, htext] at hend
      obtain rfl := Except.ok.inj hend
      exact passes_of_close _ (.inl ⟨rfl, rfl⟩) htext
    · exact passes_of_item (by rw [Bool.not_not]; exact hnext)
        (fun place hplace => hitem next place _ hread hplace) (ih h)

/-- An object whose values are passed over is passed over. -/
theorem passes_of_foldMembers {depth : ℕ}
    (hvalue : ∀ text r, readValue depth text = .ok r → Passes .beforeValue [] text r.2) {steps : ℕ}
    {first : Bool} {members : List (String × Json)} {text : List Char}
    {r : List (String × Json) × List Char}
    (h : foldMembers (readField depth) steps first members text = .ok r) :
    Passes (.behind (!first)) ['\x7b'] text r.2 := by
  induction steps generalizing first members text with
  | zero => simp [foldMembers] at h
  | succ steps ih =>
    rcases foldMembers_cases h with
      ⟨rest, hnone, rfl⟩ | ⟨next, more, key, colon, kept, rest, hnext, hkey, hread, h⟩
    · exact passes_of_close _ (.inr ⟨rfl, rfl⟩) (skipBlanks_of_nextKey_none hnone)
    · obtain ⟨place, hcolon, hread⟩ := exists_of_bind_eq_ok hread
      obtain ⟨⟨value, behind⟩, hplace, heq⟩ := exists_of_bind_eq_ok hread
      obtain ⟨-, rfl⟩ := Prod.mk.inj (Except.ok.inj heq)
      exact passes_of_member (by rw [Bool.not_not]; exact hnext) hkey hcolon
        (hvalue place _ hplace) (ih h)

/-- A value that can be read is passed over. -/
theorem passes_of_readValue {depth : ℕ} {text : List Char} {r : Json × List Char}
    (h : readValue depth text = .ok r) : Passes .beforeValue [] text r.2 := by
  induction depth using Nat.strongRecOn generalizing text r with
  | ind depth ih =>
    -- a value may be read from its first token on
    have hplace (inner : ℕ) (hinner : inner < depth) (text place : List Char)
        (r : Json × List Char) (hread : readValue inner text = .ok r)
        (hblanks : skipBlanks place = skipBlanks text) : Passes .beforeValue [] place r.2 := by
      rw [← readValue_skipBlanks, ← hblanks, readValue_skipBlanks] at hread
      exact ih inner hinner hread
    cases readsValue_of_readValue h with
    | null htext hword =>
      refine passes_of_scalar hword ((length_le_of_readWord hword).trans_lt
        (length_lt_of_skipBlanks htext)) fun steps opened => ?_
      rw [skipWith, htext]
      rfl
    | yes htext hword =>
      refine passes_of_scalar hword ((length_le_of_readWord hword).trans_lt
        (length_lt_of_skipBlanks htext)) fun steps opened => ?_
      rw [skipWith, htext]
      rfl
    | no htext hword =>
      refine passes_of_scalar hword ((length_le_of_readWord hword).trans_lt
        (length_lt_of_skipBlanks htext)) fun steps opened => ?_
      rw [skipWith, htext]
      rfl
    | number htext hc hnumber =>
      obtain ⟨hskip, hlength⟩ := skipNumber_of_readNumber hnumber
      refine passes_of_scalar hskip (hlength.trans_le (htext ▸ length_skipBlanks_le text))
        fun steps opened => ?_
      have hword : ∀ d, (d = 'n' ∨ d = 't' ∨ d = 'f') → ¬(d = '-' ∨ d.isDigit = true) := by
        rintro d (rfl | rfl | rfl) <;> decide
      rw [skipWith, htext]
      dsimp only
      rw [if_neg fun h => hword _ (.inl h) hc, if_neg fun h => hword _ (.inr (.inl h)) hc,
        if_neg fun h => hword _ (.inr (.inr h)) hc, if_pos hc]
    | string htext hstring =>
      obtain ⟨hskip, hlength⟩ := skipString_of_readString hstring
      refine passes_of_scalar hskip (hlength.trans (length_lt_of_skipBlanks htext))
        fun steps opened => ?_
      rw [skipWith, htext]
      rfl
    | @array depth _ _ _ htext hitems =>
      exact passes_of_bracket (.inl rfl) htext
        (passes_of_readItems (hplace (depth + 1) (Nat.lt_succ_self _)) hitems)
    | @object depth _ _ _ _ htext hmembers =>
      exact passes_of_bracket (.inr rfl) htext (passes_of_foldMembers
        (fun text r hread => hplace (depth + 1) (Nat.lt_succ_self _) text text r hread rfl) hmembers)

/-- What can be read is passed over up to the same place. -/
theorem skipValue_of_readValue {depth : ℕ} {text : List Char} {r : Json × List Char}
    (h : readValue depth text = .ok r) : skipValue text = .ok r.2 := by
  obtain ⟨k, hk, hskip⟩ := passes_of_readValue h
  obtain ⟨steps, hsteps⟩ : ∃ steps, 2 * text.length + 2 = steps + 1 + k :=
    ⟨2 * text.length + 1 - k, by omega⟩
  have hpassed := hskip (steps + 1) []
  rw [List.append_nil] at hpassed
  rw [skipValue, hsteps, hpassed, skipWith]
  exact Nat.succ_ne_zero steps

end CodeSearch.Json
