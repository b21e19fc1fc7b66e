import CodeSearch.Proofs.Json.Doubles

/-!
# Numbers that are read

Every number that is read is an integer of 64 bits or a finite double (`isKept_of_readNumber`), and
such a number is read again from what is written for it (`Number.IsKept.exists_readNumber`).
-/

namespace CodeSearch.Json

/-- The numbers that values hold. -/
def Number.IsKept : Number → Prop
  | int n => IsWord64 n
  | float x => x.InRange

section Reading

variable {negative : Bool} {significand : ℕ} {exponent : ℤ} {text rest : List Char} {n : Number}

theorem isKept_of_floatOf (h : floatOf negative significand exponent = .ok n) : n.IsKept := by
  rw [floatOf] at h
  split at h
  case h_1 x hx =>
    obtain rfl := Except.ok.inj h
    exact Decimal.Binary64.inRange_of_ofDecimal? hx
  case h_2 => simp at h

/-- A double that comes with a rest is kept. -/
theorem isKept_of_bind_floatOf
    (h : (floatOf negative significand exponent >>= fun value => .ok (value, rest)) =
      (.ok (n, text) : Except JsonError (Number × List Char))) : n.IsKept := by
  cases hfloat : floatOf negative significand exponent with
  | error e => simp [hfloat, bind, Except.bind] at h
  | ok value =>
    simp only [hfloat, bind, Except.bind, Except.ok.injEq, Prod.mk.injEq] at h
    exact h.1 ▸ isKept_of_floatOf hfloat

theorem isKept_of_readShift {down : Bool}
    (h : readShift negative significand exponent down text = .ok (n, rest)) : n.IsKept := by
  rw [readShift] at h
  split at h
  case h_1 => simp at h
  case h_2 => simp at h
  case h_3 =>
    dsimp only at h
    split at h
    case isTrue =>
      split at h
      case isTrue => simp at h
      case isFalse =>
        obtain ⟨rfl, -⟩ := Prod.mk.inj (Except.ok.inj h)
        exact ⟨by norm_num, by norm_num⟩
    case isFalse => exact isKept_of_bind_floatOf h

theorem isKept_of_readExponent
    (h : readExponent negative significand exponent text = .ok (n, rest)) : n.IsKept := by
  unfold readExponent at h
  split at h
  all_goals exact isKept_of_readShift h

theorem isKept_of_readFraction
    (h : readFraction negative significand exponent text = .ok (n, rest)) : n.IsKept := by
  rw [readFraction] at h
  split at h
  case h_1 => simp at h
  case h_2 => simp at h
  case h_3 =>
    dsimp only at h
    split at h
    case h_1 => exact isKept_of_readExponent h
    case h_2 => exact isKept_of_readExponent h
    case h_3 => exact isKept_of_bind_floatOf h

theorem isKept_of_integerOf (hmax : significand ≤ maxInteger)
    (h : integerOf negative significand = .ok n) : n.IsKept := by
  have hmax : significand ≤ 2 ^ 64 - 1 := hmax
  rw [integerOf] at h
  split at h
  case isTrue =>
    obtain rfl := Except.ok.inj h
    exact ⟨by omega, by omega⟩
  case isFalse =>
    split at h
    case isTrue => exact isKept_of_floatOf h
    case isFalse hsmall =>
      have hsmall : ¬(significand = 0 ∨ 2 ^ 63 < significand) := hsmall
      obtain rfl := Except.ok.inj h
      exact ⟨by omega, by omega⟩

theorem isKept_of_readUnsigned (h : readUnsigned negative text = .ok (n, rest)) : n.IsKept := by
  rw [readUnsigned] at h
  split at h
  case h_1 => simp at h
  case h_2 => simp at h
  case h_3 => simp at h
  case h_4 digits _ _ _ _ _ =>
    have hmax := (takeDigits_bounds digits (Nat.zero_le maxInteger)).1
    dsimp only at h
    split at h
    case h_1 => exact isKept_of_readFraction h
    case h_2 => exact isKept_of_readExponent h
    case h_3 => exact isKept_of_readExponent h
    case h_4 =>
      split at h
      case isTrue =>
        cases hinteger : integerOf negative (takeDigits 0 digits).1 with
        | error e => simp [hinteger, bind, Except.bind] at h
        | ok value =>
          simp only [hinteger, bind, Except.bind, Except.ok.injEq, Prod.mk.injEq] at h
          exact h.1 ▸ isKept_of_integerOf hmax hinteger
      case isFalse => exact isKept_of_bind_floatOf h

/-- A number that is read is kept. -/
theorem isKept_of_readNumber (h : readNumber text = .ok (n, rest)) : n.IsKept := by
  unfold readNumber at h
  split at h
  all_goals exact isKept_of_readUnsigned h

/-- A number starts with a digit or with its sign. -/
theorem exists_eq_cons_of_readNumber {r : Number × List Char} (h : readNumber text = .ok r) :
    ∃ c rest, text = c :: rest ∧ (c = '-' ∨ c.isDigit = true) := by
  unfold readNumber at h
  split at h
  case h_1 rest => exact ⟨'-', rest, rfl, .inl rfl⟩
  case h_2 =>
    cases text with
    | nil => simp [readUnsigned] at h
    | cons c rest =>
      refine ⟨c, rest, rfl, .inr ?_⟩
      by_contra hc
      simp [readUnsigned, List.span_eq_takeWhile_dropWhile, hc] at h

end Reading

/-- What a number is read as when it was written. -/
theorem Number.IsKept.exists_readNumber {n : Number} (hn : n.IsKept) :
    ∃ m, (∀ k, n = .int k → m = n) ∧ ∀ rest, EndsNumber rest →
      readNumber (n.text.toList ++ rest) = .ok (m, rest) := by
  cases n with
  | int k => exact ⟨.int k, fun _ _ => rfl, fun rest hrest => readNumber_text hn hrest⟩
  | float x =>
    obtain ⟨y, hy⟩ := exists_readNumber_float hn
    exact ⟨.float y, nofun, hy⟩

end CodeSearch.Json
