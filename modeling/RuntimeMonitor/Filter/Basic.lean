import RuntimeMonitor.Filter.Catalog
import RuntimeMonitor.Text.Lowercase

/-!
# Rule filters

A filter accepts rules by their ids and topics, without regard to case. Two filters are the same
if they accept the same names and have ignored the same tokens.
-/

namespace RuntimeMonitor

inductive Filter.Field where
  | id
  | topic
  deriving DecidableEq, Repr

structure Filter where
  acceptsAll : Bool
  /-- The accepted names in lower case; neither order nor repetition matters. -/
  accepted : List (Filter.Field × String)
  /-- The tokens that name nothing, in order. -/
  ignored : List String
  deriving Repr

namespace Filter

open Text

def acceptAll : Filter := ⟨true, [], []⟩

def rejectAll : Filter := ⟨false, [], []⟩

/-- Whether the filters accept the same names and ignored the same tokens. -/
def Same (p q : Filter) : Prop :=
  p.acceptsAll = q.acceptsAll ∧ p.accepted ⊆ q.accepted ∧ q.accepted ⊆ p.accepted ∧
    p.ignored = q.ignored

instance (p q : Filter) : Decidable (p.Same q) :=
  inferInstanceAs (Decidable (_ ∧ (∀ _, _ → _) ∧ (∀ _, _ → _) ∧ _))

def Accepts (p : Filter) (r : Rule) : Prop :=
  p.acceptsAll = true ∨ (.id, lowercase r.id) ∈ p.accepted ∨
    (.topic, lowercase r.topic) ∈ p.accepted

instance (p : Filter) (r : Rule) : Decidable (p.Accepts r) :=
  inferInstanceAs (Decidable (_ ∨ _ ∨ _))

def select (p : Filter) (c : Catalog) : List Rule := c.rules.filter (p.Accepts ·)

end Filter
end RuntimeMonitor
