import CodeSearch.Proofs.Json.RoundTrip

/-!
# The steps of reading

What a reader can have done when it read a value, an item or a member.  `ReadsValue` lists the forms
that a value has at its front, `readItems_cases` and `foldMembers_cases` what one turn of reading a list
or an object is.  What every turn preserves, the whole reading preserves (`forall_of_readItems`,
`invariant_of_foldMembers`).
-/

namespace CodeSearch.Json

/-- A reader that goes on behind another one has read what both read. -/
theorem exists_of_bind_eq_ok {ε α β : Type} {reading : Except ε α} {next : α → Except ε β} {b : β}
    (h : reading >>= next = .ok b) : ∃ a, reading = .ok a ∧ next a = .ok b := by
  cases reading with
  | error e => simp [bind, Except.bind] at h
  | ok a => exact ⟨a, rfl, h⟩

/-! ## Values -/

/-- The forms of a value at the front of a text, with the rest behind it. -/
inductive ReadsValue : (depth : Nat) → (text : List Char) → Json × List Char → Prop
  | null {depth : Nat} {text behind rest : List Char} (htext : skipBlanks text = 'n' :: behind)
    (hword : readWord "ull".toList behind = .ok rest) : ReadsValue depth text (.null, rest)
  | yes {depth : Nat} {text behind rest : List Char} (htext : skipBlanks text = 't' :: behind)
    (hword : readWord "rue".toList behind = .ok rest) : ReadsValue depth text (.bool true, rest)
  | no {depth : Nat} {text behind rest : List Char} (htext : skipBlanks text = 'f' :: behind)
    (hword : readWord "alse".toList behind = .ok rest) : ReadsValue depth text (.bool false, rest)
  | number {depth : Nat} {text behind rest : List Char} {c : Char} {n : Number}
    (htext : skipBlanks text = c :: behind) (hc : c = '-' ∨ c.isDigit = true)
    (hnumber : readNumber (c :: behind) = .ok (n, rest)) : ReadsValue depth text (.number n, rest)
  | string {depth : Nat} {text behind rest : List Char} {value : String}
    (htext : skipBlanks text = '"' :: behind) (hstring : readString [] behind = .ok (value, rest)) :
    ReadsValue depth text (.string value, rest)
  | array {depth : Nat} {text behind : List Char} {r : Json × List Char}
    (htext : skipBlanks text = '[' :: behind)
    (hitems : readItems (readValue (depth + 1)) (behind.length + 1) [] behind = .ok r) :
    ReadsValue (depth + 2) text r
  | object {depth : Nat} {text behind rest : List Char} {members : List (String × Json)}
    (htext : skipBlanks text = '\x7b' :: behind)
    (hmembers : foldMembers (readField (depth + 1)) (behind.length + 1) true [] behind =
      .ok (members, rest)) :
    ReadsValue (depth + 2) text (.object members.reverse, rest)

/-- What is read as a value has one of its forms. -/
theorem readsValue_of_readValue {depth : Nat} {text : List Char} {r : Json × List Char}
    (h : readValue depth text = .ok r) : ReadsValue depth text r := by
  rw [← readValue_skipBlanks] at h
  cases htext : skipBlanks text with
  | nil =>
    rw [htext] at h
    simp [readValue, skipBlanks] at h
  | cons c behind =>
    have hskip : skipBlanks (c :: behind) = c :: behind := by rw [← htext, skipBlanks_skipBlanks]
    rw [htext, readValue, hskip] at h
    dsimp only at h
    split at h
    case isTrue hc =>
      obtain ⟨rest, hword, heq⟩ := exists_of_bind_eq_ok h
      obtain rfl := Except.ok.inj heq
      exact .null (hc ▸ htext) hword
    split at h
    case isTrue hc =>
      obtain ⟨rest, hword, heq⟩ := exists_of_bind_eq_ok h
      obtain rfl := Except.ok.inj heq
      exact .yes (hc ▸ htext) hword
    split at h
    case isTrue hc =>
      obtain ⟨rest, hword, heq⟩ := exists_of_bind_eq_ok h
      obtain rfl := Except.ok.inj heq
      exact .no (hc ▸ htext) hword
    split at h
    case isTrue hc =>
      obtain ⟨⟨n, rest⟩, hnumber, heq⟩ := exists_of_bind_eq_ok h
      obtain rfl := Except.ok.inj heq
      exact .number htext hc hnumber
    split at h
    case isTrue hc =>
      obtain ⟨⟨value, rest⟩, hstring, heq⟩ := exists_of_bind_eq_ok h
      obtain rfl := Except.ok.inj heq
      exact .string (hc ▸ htext) hstring
    split at h
    case isTrue hc =>
      split at h
      case h_1 => simp at h
      case h_2 => simp at h
      case h_3 => exact .array (hc ▸ htext) h
    split at h
    case isTrue hc =>
      split at h
      case h_1 => simp at h
      case h_2 => simp at h
      case h_3 =>
        obtain ⟨⟨members, rest⟩, hmembers, heq⟩ := exists_of_bind_eq_ok h
        obtain rfl := Except.ok.inj heq
        exact .object (hc ▸ htext) hmembers
    case isFalse => simp at h

/-! ## Lists -/

/-- An item stands at the front, or behind a comma. -/
theorem nextItem_some_cases {first : Bool} {text next : List Char}
    (h : nextItem first text = .ok (some next)) :
    (first = true ∧ ∃ c behind, c ≠ ']' ∧ skipBlanks text = c :: behind ∧ next = c :: behind) ∨
    (first = false ∧ ∃ behind, skipBlanks text = ',' :: behind ∧ next = skipBlanks behind) := by
  rw [nextItem] at h
  split at h
  case h_1 => simp at h
  case h_2 => simp at h
  case h_3 c behind hclose htext =>
    split at h
    case isTrue hfirst => exact .inl ⟨hfirst, c, behind, hclose, htext, by simpa using h.symm⟩
    case isFalse hfirst =>
      split at h
      case isTrue hcomma =>
        refine .inr ⟨by simpa using hfirst, behind, hcomma ▸ htext, ?_⟩
        split at h
        case h_1 => simp at h
        case h_2 => simp at h
        case h_3 => simpa using h.symm
      case isFalse => simp at h

/-- A list ends with its bracket. -/
theorem exists_of_nextItem_none {first : Bool} {text : List Char}
    (h : nextItem first text = .ok none) : ∃ rest, skipBlanks text = ']' :: rest := by
  rw [nextItem] at h
  split at h
  case h_1 => simp at h
  case h_2 rest htext => exact ⟨rest, htext⟩
  case h_3 =>
    split at h
    case isTrue => simp at h
    case isFalse =>
      split at h
      case isTrue => split at h <;> simp at h
      case isFalse => simp at h

/-- One turn of reading a list: its end, or one more item. -/
theorem readItems_cases {item : List Char → Except JsonError (Json × List Char)} {steps : Nat}
    {items : List Json} {text : List Char} {r : Json × List Char}
    (h : readItems item (steps + 1) items text = .ok r) :
    (nextItem items.isEmpty text = .ok none ∧ ∃ rest, endList text = .ok rest ∧
      r = (.array items.reverse, rest)) ∨
    ∃ next value rest, nextItem items.isEmpty text = .ok (some next) ∧
      item next = .ok (value, rest) ∧ readItems item steps (value :: items) rest = .ok r := by
  rw [readItems] at h
  obtain ⟨found, hnext, h⟩ := exists_of_bind_eq_ok h
  cases found with
  | none =>
    obtain ⟨rest, hend, heq⟩ := exists_of_bind_eq_ok h
    exact .inl ⟨hnext, rest, hend, (Except.ok.inj heq).symm⟩
  | some next =>
    obtain ⟨⟨value, rest⟩, hitem, h⟩ := exists_of_bind_eq_ok h
    exact .inr ⟨next, value, rest, hnext, hitem, h⟩

/-- What a reader of items only reads, a list has in all its items. -/
theorem forall_of_readItems {item : List Char → Except JsonError (Json × List Char)}
    {P : Json → Prop} (hitem : ∀ text r, item text = .ok r → P r.1) {steps : Nat}
    {items : List Json} (hitems : ∀ value ∈ items, P value) {text : List Char}
    {r : Json × List Char} (h : readItems item steps items text = .ok r) :
    ∃ found, r.1 = .array found ∧ ∀ value ∈ found, P value := by
  induction steps generalizing items text with
  | zero => simp [readItems] at h
  | succ steps ih =>
    rcases readItems_cases h with ⟨-, rest, -, rfl⟩ | ⟨next, value, rest, -, hread, h⟩
    · exact ⟨items.reverse, rfl, fun value hvalue => hitems value (List.mem_reverse.mp hvalue)⟩
    · exact ih (List.forall_mem_cons.mpr ⟨hitem next _ hread, hitems⟩) h

/-- The items that were read before stay in front. -/
theorem exists_append_of_readItems {item : List Char → Except JsonError (Json × List Char)}
    {steps : Nat} {items : List Json} {text : List Char} {r : Json × List Char}
    (h : readItems item steps items text = .ok r) :
    ∃ more, r.1 = .array (items.reverse ++ more) := by
  induction steps generalizing items text with
  | zero => simp [readItems] at h
  | succ steps ih =>
    rcases readItems_cases h with ⟨-, rest, -, rfl⟩ | ⟨_, value, rest, -, -, h⟩
    · exact ⟨[], by rw [List.append_nil]⟩
    · obtain ⟨more, hmore⟩ := ih h
      exact ⟨value :: more, by rw [hmore, List.reverse_cons, List.append_assoc]; rfl⟩

/-- A reader of a list that finds an item goes on behind it. -/
theorem readItems_of_nextItem {item : List Char → Except JsonError (Json × List Char)}
    {steps : Nat} {items : List Json} {text next : List Char} {r : Json × List Char}
    (h : readItems item steps items text = .ok r)
    (hnext : nextItem items.isEmpty text = .ok (some next)) :
    ∃ value rest steps, item next = .ok (value, rest) ∧
      readItems item steps (value :: items) rest = .ok r := by
  cases steps with
  | zero => simp [readItems] at h
  | succ steps =>
    rcases readItems_cases h with ⟨hnone, -⟩ | ⟨found, value, rest, hfound, hread, h⟩
    · rw [hnext] at hnone
      simp at hnone
    · rw [hnext] at hfound
      obtain rfl := Option.some.inj (Except.ok.inj hfound)
      exact ⟨value, rest, steps, hread, h⟩

/-! ## Objects -/

/-- A key stands at the front, or behind a comma. -/
theorem nextKey_some_cases {first : Bool} {text behind more : List Char}
    (h : nextKey first text = .ok (some behind, more)) :
    (first = true ∧ skipBlanks text = '"' :: behind) ∨
    (first = false ∧ ∃ next, skipBlanks text = ',' :: next ∧ skipBlanks next = '"' :: behind) := by
  rw [nextKey] at h
  split at h
  case h_1 => simp at h
  case h_2 => simp at h
  case h_3 c next _ htext =>
    split at h
    case isTrue hfirst =>
      split at h
      case isTrue hquote =>
        simp only [Except.ok.injEq, Prod.mk.injEq, Option.some.injEq] at h
        exact .inl ⟨hfirst, by rw [htext, hquote, h.1]⟩
      case isFalse => simp at h
    case isFalse hfirst =>
      split at h
      case isTrue hcomma =>
        refine .inr ⟨by simpa using hfirst, next, hcomma ▸ htext, ?_⟩
        split at h
        case h_1 => simp at h
        case h_2 hkey =>
          simp only [Except.ok.injEq, Prod.mk.injEq, Option.some.injEq] at h
          rw [hkey, h.1]
        case h_3 => simp at h
        case h_4 => simp at h
      case isFalse => simp at h

/-- An object ends with its brace. -/
theorem skipBlanks_of_nextKey_none {first : Bool} {text rest : List Char}
    (h : nextKey first text = .ok (none, rest)) : skipBlanks text = '\x7d' :: rest := by
  rw [nextKey] at h
  split at h
  case h_1 => simp at h
  case h_2 htext =>
    simp only [Except.ok.injEq, Prod.mk.injEq, true_and] at h
    rw [htext, h]
  case h_3 =>
    split at h
    case isTrue => split at h <;> simp at h
    case isFalse =>
      split at h
      case isTrue => split at h <;> simp at h
      case isFalse => simp at h

section Members

variable {σ : Type} {member : σ → String → List Char → Except JsonError (σ × List Char)}
  {steps : Nat} {first : Bool} {state : σ} {text : List Char} {r : σ × List Char}

/-- One turn of going through an object: its end, or one more member. -/
theorem foldMembers_cases (h : foldMembers member (steps + 1) first state text = .ok r) :
    (∃ rest, nextKey first text = .ok (none, rest) ∧ r = (state, rest)) ∨
    ∃ behind more key value next rest, nextKey first text = .ok (some behind, more) ∧
      readString [] behind = .ok (key, value) ∧ member state key value = .ok (next, rest) ∧
      foldMembers member steps false next rest = .ok r := by
  rw [foldMembers] at h
  obtain ⟨⟨found, more⟩, hnext, h⟩ := exists_of_bind_eq_ok h
  cases found with
  | none => exact .inl ⟨more, hnext, (Except.ok.inj h).symm⟩
  | some behind =>
    obtain ⟨⟨key, value⟩, hkey, h⟩ := exists_of_bind_eq_ok h
    obtain ⟨⟨next, rest⟩, hmember, h⟩ := exists_of_bind_eq_ok h
    exact .inr ⟨behind, more, key, value, next, rest, hnext, hkey, hmember, h⟩

/-- What every member preserves, an object preserves. -/
theorem invariant_of_foldMembers {P : σ → Prop}
    (hmember : ∀ state key text r, P state → member state key text = .ok r → P r.1)
    (hstate : P state) (h : foldMembers member steps first state text = .ok r) : P r.1 := by
  induction steps generalizing first state text with
  | zero => simp [foldMembers] at h
  | succ steps ih =>
    rcases foldMembers_cases h with ⟨rest, -, rfl⟩ | ⟨_, _, key, value, next, rest, -, -, hread, h⟩
    · exact hstate
    · exact ih (hmember state key value _ hstate hread) h

/-- Two readers of the members of one object that keep in step with each other stay so to its end. -/
theorem related_of_foldMembers {τ : Type} {R : σ → τ → Prop}
    {other : τ → String → List Char → Except JsonError (τ × List Char)}
    (hstep : ∀ state place key text r q, R state place → member state key text = .ok r →
      other place key text = .ok q → r.2 = q.2 ∧ R r.1 q.1)
    {place : τ} (hrelated : R state place) {q : τ × List Char}
    (h : foldMembers member steps first state text = .ok r)
    (hother : foldMembers other steps first place text = .ok q) : R r.1 q.1 := by
  induction steps generalizing first state place text with
  | zero => simp [foldMembers] at h
  | succ steps ih =>
    rcases foldMembers_cases h with ⟨_, hnext, rfl⟩ | ⟨_, _, _, _, _, _, hnext, hkey, hread, h⟩
    · rcases foldMembers_cases hother with
        ⟨_, -, rfl⟩ | ⟨_, _, _, _, _, _, hnextOther, -⟩
      · exact hrelated
      · rw [hnext] at hnextOther
        simp at hnextOther
    · rcases foldMembers_cases hother with
        ⟨_, hnextOther, -⟩ | ⟨_, _, _, _, _, _, hnextOther, hkeyOther, hreadOther, hother⟩
      · rw [hnext] at hnextOther
        simp at hnextOther
      · rw [hnext] at hnextOther
        obtain ⟨hbehind, -⟩ := Prod.mk.inj (Except.ok.inj hnextOther)
        obtain rfl := Option.some.inj hbehind
        rw [hkey] at hkeyOther
        obtain ⟨rfl, rfl⟩ := Prod.mk.inj (Except.ok.inj hkeyOther)
        obtain ⟨hrest, hnextRelated⟩ := hstep _ _ _ _ _ _ hrelated hread hreadOther
        dsimp only at hrest
        subst hrest
        exact ih hnextRelated h hother

end Members

end CodeSearch.Json
