/-!
# The log of a query

A query reports on two channels: its progress, and the problems that it absorbed.  `Logged α` is a
value together with the entries that were written while it was found; queries are composed in this
monad, so a log lists its entries in the order in which they were written.
-/

namespace CodeSearch

/-- The two channels of a log. -/
inductive Channel where
  /-- Progress and numbers of matches. -/
  | progress
  /-- Failures that a query absorbed. -/
  | problem
  deriving DecidableEq, Repr

/-- One entry of a log. -/
structure LogEntry where
  /-- The channel it was written to. -/
  channel : Channel
  /-- What it says. -/
  text : String
  deriving DecidableEq, Repr

/-- The entries of a log, oldest first. -/
abbrev Log := List LogEntry

namespace Log

/-- The texts of one channel. -/
def texts (log : Log) (channel : Channel) : List String :=
  (log.filter (·.channel == channel)).map (·.text)

/-- The problems that were reported. -/
def problems (log : Log) : List String := log.texts .problem

/-- The progress that was reported. -/
def progress (log : Log) : List String := log.texts .progress

end Log

/-- A value and the entries that were written while it was found. -/
structure Logged (α : Type) where
  /-- The value. -/
  value : α
  /-- The entries, oldest first. -/
  log : Log

namespace Logged

instance : Monad Logged where
  pure value := ⟨value, []⟩
  bind x f := ⟨(f x.value).value, x.log ++ (f x.value).log⟩

instance : LawfulMonad Logged := LawfulMonad.mk' Logged
  (fun x => by cases x; simp [Functor.map, List.append_nil])
  (fun _ _ => by simp [pure, bind])
  (fun _ _ _ => by simp [bind, List.append_assoc])

/-- Reports progress. -/
def progress (text : String) : Logged Unit := ⟨(), [⟨.progress, text⟩]⟩

/-- Reports a problem. -/
def problem (text : String) : Logged Unit := ⟨(), [⟨.problem, text⟩]⟩

@[simp] theorem value_pure {α : Type} (a : α) : (pure a : Logged α).value = a := rfl

@[simp] theorem log_pure {α : Type} (a : α) : (pure a : Logged α).log = [] := rfl

@[simp] theorem value_bind {α β : Type} (x : Logged α) (f : α → Logged β) :
    (x >>= f).value = (f x.value).value := rfl

@[simp] theorem log_bind {α β : Type} (x : Logged α) (f : α → Logged β) :
    (x >>= f).log = x.log ++ (f x.value).log := rfl

end Logged

end CodeSearch
