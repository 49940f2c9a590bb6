/-!
# Readers

A reader takes a value off the front of a text or fails. Alternatives start again at the same
place. A loop goes round at most once for every character of the whole text and once more to end,
which is enough for every loop that takes something each time.
-/

namespace RuntimeMonitor.Text

/-- Readers know a bound for the rounds of their loops, and pass on what is left of the text. -/
abbrev Reader := ReaderT Nat (StateT (List Char) Option)

namespace Reader

def ofOption {α : Type} (a : Option α) : Reader α := fun _ s => a.map (fun a => (a, s))

def peek : Reader (Option Char) := fun _ s => some (s.head?, s)

def next : Reader Char := fun _ s =>
  match s with
  | [] => none
  | c :: rest => some (c, rest)

def satisfy (p : Char → Bool) : Reader Char := do
  let c ← next
  guard (p c)
  return c

def char (c : Char) : Reader Unit := do
  let _ ← satisfy (· = c)

def word : List Char → Reader Unit
  | [] => return ()
  | c :: rest => do char c; word rest

/-- Takes characters for as long as they satisfy `p`. -/
def takeWhile (p : Char → Bool) : Reader (List Char) := fun _ s => some (s.span p)

def skipWhile (p : Char → Bool) : Reader Unit := fun _ s => some ((), s.dropWhile p)

/-- Exactly `n` characters that satisfy `p`. -/
def times (p : Char → Bool) : Nat → Reader (List Char)
  | 0 => return []
  | n + 1 => do
    let c ← satisfy p
    return c :: (← times p n)

def rounds {σ α : Type} (step : σ → Reader (σ ⊕ α)) : (bound : Nat) → σ → Reader α
  | 0, _ => failure
  | bound + 1, s => do
    match ← step s with
    | .inl s => rounds step bound s
    | .inr a => return a

/-- Repeats a step that either goes on with a new state or ends. -/
def iterate {σ α : Type} (step : σ → Reader (σ ⊕ α)) (s : σ) : Reader α := do
  rounds step (← read) s

def readAll {α : Type} (r : Reader α) (s : List Char) : Option α :=
  match r (s.length + 1) s with
  | some (a, []) => some a
  | _ => none

end Reader
end RuntimeMonitor.Text
