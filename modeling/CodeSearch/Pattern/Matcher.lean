import CodeSearch.Pattern.Basic

/-!
# Matching by marks

A pattern is matched without backtracking by moving marks through it.  A mark on a symbol class says
that some way of matching has just consumed a symbol there; `advance` consumes one symbol and moves
all marks at once, and `finishes` tells whether some mark stands where the whole pattern can end.  The
time is the length of the text times the size of the pattern.

`occursIn` searches a text for the pattern and `describes` matches the whole text.
-/

namespace CodeSearch

/-- A pattern with a mark on some of its symbol classes. -/
inductive Marked (α : Type) where
  | empty
  | one (mark : Bool) (accepts : α → Bool)
  | look (holds : Option α → Option α → Bool)
  | seq (first second : Marked α)
  | alt (left right : Marked α)
  | star (body : Marked α)

namespace Marked

variable {α : Type}

/-- The pattern under the marks. -/
def pattern : Marked α → Pattern α
  | empty => .empty
  | one _ accepts => .one accepts
  | look holds => .look holds
  | seq first second => .seq first.pattern second.pattern
  | alt left right => .alt left.pattern right.pattern
  | star body => .star body.pattern

/-- Whether the pattern matches the empty word between two symbols. -/
def skips (before after : Option α) : Marked α → Bool
  | empty => true
  | one _ _ => false
  | look holds => holds before after
  | seq first second => first.skips before after && second.skips before after
  | alt left right => left.skips before after || right.skips before after
  | star _ => true

/-- Whether some mark stands where the pattern can end, between two symbols. -/
def finishes (before after : Option α) : Marked α → Bool
  | empty => false
  | one mark _ => mark
  | look _ => false
  | seq first second =>
    second.finishes before after || (first.finishes before after && second.skips before after)
  | alt left right => left.finishes before after || right.finishes before after
  | star body => body.finishes before after

/-- Consumes `x`, which stands after `before`; with `start`, a new way of matching begins here. -/
def advance (before : Option α) (x : α) (start : Bool) : Marked α → Marked α
  | empty => .empty
  | one _ accepts => .one (start && accepts x) accepts
  | look holds => .look holds
  | seq first second =>
    .seq (first.advance before x start)
      (second.advance before x
        (first.finishes before (some x) || (start && first.skips before (some x))))
  | alt left right => .alt (left.advance before x start) (right.advance before x start)
  | star body => .star (body.advance before x (start || body.finishes before (some x)))

/-- Whether a match that may begin anywhere ends somewhere in the rest of a text. -/
def searches (before : Option α) (m : Marked α) : List α → Bool
  | [] => m.finishes before none || m.skips before none
  | x :: rest =>
    m.finishes before (some x) || m.skips before (some x) ||
      searches (some x) (m.advance before x true) rest

/-- Whether a match ends at the end of a text; with `start`, it may also begin here. -/
def completes (before : Option α) (start : Bool) (m : Marked α) : List α → Bool
  | [] => m.finishes before none || (start && m.skips before none)
  | x :: rest => completes (some x) false (m.advance before x start) rest

end Marked

namespace Pattern

variable {α : Type}

/-- The pattern without any mark. -/
def unmarked : Pattern α → Marked α
  | empty => .empty
  | one accepts => .one false accepts
  | look holds => .look holds
  | seq first second => .seq first.unmarked second.unmarked
  | alt left right => .alt left.unmarked right.unmarked
  | star body => .star body.unmarked

/-- Whether some part of `text` matches. -/
def occursIn (p : Pattern α) (text : List α) : Bool := p.unmarked.searches none text

/-- Whether the whole of `text` matches. -/
def describes (p : Pattern α) (text : List α) : Bool := p.unmarked.completes none true text

end Pattern

end CodeSearch
