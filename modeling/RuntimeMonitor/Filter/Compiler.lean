import RuntimeMonitor.Filter.Basic
import RuntimeMonitor.Text.Blank

/-!
# Compiling filters

A raw filter is a list of tokens with commas between them, each naming a rule or a topic. A blank
filter accepts everything; tokens that name nothing are ignored, so a filter of such tokens
accepts nothing.
-/

namespace RuntimeMonitor.Filter

open Text

/-- The known ids and topics, in lower case. -/
structure Compiler where
  ids : List String := []
  topics : List String := []
  deriving DecidableEq, Repr

/-- The pieces of a text between its commas. -/
def pieces : List Char → List (List Char)
  | [] => [[]]
  | c :: rest =>
    if c = ',' then [] :: pieces rest
    else match pieces rest with
      | [] => [[c]]
      | piece :: more => (c :: piece) :: more

theorem pieces_ne_nil (s : List Char) : pieces s ≠ [] := by
  fun_induction pieces s <;> simp

/-- The tokens of a raw filter: what stands between commas, without blanks around it. -/
def tokens (raw : String) : List String :=
  ((pieces raw.toList).map trimChars |>.filter (· ≠ [])).map String.ofList

namespace Compiler

def ofNames (ids topics : List String) : Compiler := ⟨ids.map lowercase, topics.map lowercase⟩

/-- Knows the rules that the catalog holds now. -/
def ofCatalog (c : Catalog) : Compiler := ofNames (c.rules.map (·.id)) (c.rules.map (·.topic))

def KnowsId (c : Compiler) (id : String) : Prop := lowercase id ∈ c.ids

def KnowsTopic (c : Compiler) (topic : String) : Prop := lowercase topic ∈ c.topics

instance (c : Compiler) (id : String) : Decidable (c.KnowsId id) :=
  inferInstanceAs (Decidable (_ ∈ _))

instance (c : Compiler) (topic : String) : Decidable (c.KnowsTopic topic) :=
  inferInstanceAs (Decidable (_ ∈ _))

/-- What a token names; an id comes before a topic of the same name. -/
def field? (c : Compiler) (token : String) : Option Field :=
  if c.KnowsId token then some .id
  else if c.KnowsTopic token then some .topic
  else none

/-- Goes on by one token, which is accepted for what it names or else ignored. -/
def step (c : Compiler) (p : Filter) (token : String) : Filter :=
  match c.field? token with
  | some field => { p with accepted := p.accepted.insert (field, lowercase token) }
  | none => { p with ignored := p.ignored ++ [token] }

def compile (c : Compiler) (raw : String) : Filter :=
  if trimChars raw.toList = [] then acceptAll else (tokens raw).foldl c.step rejectAll

end Compiler
end RuntimeMonitor.Filter
