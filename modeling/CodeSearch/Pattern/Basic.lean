/-!
# Patterns over an arbitrary alphabet

`Pattern` is the type of regular expressions over symbols of any type, with conditions on the two
symbols around a position.  Globs are patterns over bytes and regular expressions are patterns over
characters; both share this type and its matcher.

`Pattern.Matches` is the meaning of a pattern.  A word is matched between the symbol before it and
the symbol after it, since conditions see both.
-/

namespace CodeSearch

/-- A regular expression over symbols `α`. -/
inductive Pattern (α : Type) where
  /-- The empty word. -/
  | empty
  /-- One symbol of a class. -/
  | one (accepts : α → Bool)
  /-- The empty word where the symbols before and after satisfy a condition. -/
  | look (holds : Option α → Option α → Bool)
  /-- One pattern after the other. -/
  | seq (first second : Pattern α)
  /-- One pattern or the other. -/
  | alt (left right : Pattern α)
  /-- A pattern any number of times. -/
  | star (body : Pattern α)

namespace Pattern

variable {α : Type}

/-- `Matches p before word after`: the pattern `p` describes `word`, standing between the symbols
`before` and `after`. -/
inductive Matches : Pattern α → Option α → List α → Option α → Prop where
  | empty {b a} : Matches .empty b [] a
  | one {accepts : α → Bool} {x b a} (h : accepts x = true) : Matches (.one accepts) b [x] a
  | look {holds : Option α → Option α → Bool} {b a} (h : holds b a = true) :
      Matches (.look holds) b [] a
  | seq {first second : Pattern α} {b u v a} (hu : Matches first b u (v.head?.or a))
      (hv : Matches second (u.getLast?.or b) v a) : Matches (.seq first second) b (u ++ v) a
  | left {left right : Pattern α} {b w a} (h : Matches left b w a) :
      Matches (.alt left right) b w a
  | right {left right : Pattern α} {b w a} (h : Matches right b w a) :
      Matches (.alt left right) b w a
  | stop {body : Pattern α} {b a} : Matches (.star body) b [] a
  | again {body : Pattern α} {b u v a} (hu : Matches body b u (v.head?.or a))
      (hv : Matches (.star body) (u.getLast?.or b) v a) : Matches (.star body) b (u ++ v) a

/-- No word at all. -/
def never : Pattern α := .one fun _ => false

/-- Exactly the given word. -/
def literal [BEq α] : List α → Pattern α
  | [] => .empty
  | [x] => .one (· == x)
  | x :: rest => .seq (.one (· == x)) (literal rest)

/-- All patterns of a list, one after the other. -/
def sequence : List (Pattern α) → Pattern α
  | [] => .empty
  | [p] => p
  | p :: rest => .seq p (sequence rest)

/-- Any pattern of a list. -/
def anyOf : List (Pattern α) → Pattern α
  | [] => never
  | [p] => p
  | p :: rest => .alt p (anyOf rest)

/-- A pattern or nothing. -/
def optional (p : Pattern α) : Pattern α := .alt p .empty

/-- A pattern exactly `n` times; the two halves of the repetition are built alike. -/
def power (p : Pattern α) (n : Nat) : Pattern α :=
  if n = 0 then .empty
  else if n = 1 then p
  else .seq (power p (n / 2)) (power p (n - n / 2))

/-- A pattern from `least` up to `most` times, or without upper bound. -/
def repeated (p : Pattern α) (least : Nat) : Option Nat → Pattern α
  | none => .seq (power p least) (.star p)
  | some most => .seq (power p least) (power (optional p) (most - least))

end Pattern

end CodeSearch
