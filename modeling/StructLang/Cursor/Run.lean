import StructLang.Cursor.Plans

/-!
# Running plans over tokens

A plan is run from a place in tokens. What it asks for is done from where the cursor stands then,
and the plan goes on from where the cursor stands after that. Tasks are inside of one another to a
certain depth at most: a task that goes deeper has no outcome. How deep a program goes is bounded by
the number of its tokens.

- `Plan.run` : the outcome of a plan, given those of the tasks.
- `Task.run` : the outcome of a task, unless it goes too deep.
- `parse` : a program from the first token on.
-/

namespace StructLang.Cursor

/-- A value and where the cursor stands then, or a failure. -/
abbrev Outcome (value : Type) : Type :=
  Except ReadFailure (value × Nat)

/-- The token at an index, or behind the last token that one again. -/
def tokenAt? (tokens : List Token) (index : Nat) : Option Token :=
  tokens[index]? <|> tokens.getLast?

/-- Where the cursor stands after it moved over a token. -/
def behind (token : Token) (place : Nat) : Nat :=
  if token.kind = .finish then place else place + 1

/-- Runs a plan from a place in tokens. A run that looks where no token is fails for that. -/
def Plan.run {value : Type} (tokens : List Token)
    (perform : (task : Task) → Nat → Option (Outcome task.Result)) :
    Plan value → Nat → Option (Outcome value)
  | give found, place => some (.ok (found, place))
  | fail failure, _ => some (.error failure)
  | peek offset next, place =>
      match tokenAt? tokens (place + offset) with
      | none => some (.error .noTokens)
      | some token => (next token).run tokens perform place
  | advance next, place =>
      match tokens[place]? with
      | none => some (.error .noTokens)
      | some token => (next token).run tokens perform (behind token place)
  | call task next, place =>
      match perform task place with
      | none => none
      | some (.error failure) => some (.error failure)
      | some (.ok (found, after)) => (next found).run tokens perform after

namespace Task

/-- Does a task from a place in tokens, with no more tasks inside of one another than a depth
allows. -/
def run (tokens : List Token) :
    (depth : Nat) → (task : Task) → Nat → Option (Outcome task.Result)
  | 0, _, _ => none
  | depth + 1, task, place => task.plan.run tokens (run tokens depth) place

/-- A depth that is enough for a task where some tokens are left: there is one task inside of
another for each rank and each of these tokens. -/
def height (task : Task) (left : Nat) : Nat :=
  16 * left + task.rank + 1

end Task

/-- Reads a program from the first token on. -/
def parse (tokens : List Token) : Option (Except ReadFailure Program) :=
  (Task.program.run tokens (Task.program.height tokens.length) 0).map (·.map Prod.fst)

end StructLang.Cursor
