import Latchkey.Pattern
import Latchkey.Signature

/-!
The templates known for each function, and the way back from a key to the function and the template
that it comes from.

Templates are kept in one group per function. A look-up goes through the groups in the order in
which the functions came first, and through each group in the order of its templates.
-/

namespace Latchkey

/-- The templates of one function, in the order in which they were registered. -/
structure Group where
  function : FuncId
  templates : List Template

/-- The templates of all functions. -/
structure Registry where
  groups : List Group

/-- Where a key comes from. -/
structure Origin where
  function : FuncId
  template : Template
deriving DecidableEq

/-- The whole family of keys that a key belongs to. -/
def Origin.glob (o : Origin) : String := o.template.glob

/-- Where a key comes from, and the texts of its fields. -/
structure KeyFields where
  function : FuncId
  template : Template
  fields : Named String

namespace Registry

/-- No templates. -/
def empty : Registry := ⟨[]⟩

/-- The templates of a function, in the order in which they were registered. -/
def templatesFor (r : Registry) (f : FuncId) : List Template :=
  match r.groups.find? (·.function = f) with
  | some g => g.templates
  | none => []

/-- The groups with a template added for a function. -/
def addTo (f : FuncId) (t : Template) : List Group → List Group
  | [] => [⟨f, [t]⟩]
  | g :: groups =>
    if g.function = f then { g with templates := g.templates ++ [t] } :: groups
    else g :: addTo f t groups

/-- The registry with a template for a function, and whether it is new there. -/
def register (r : Registry) (f : FuncId) (t : Template) : Bool × Registry :=
  if t ∈ r.templatesFor f then (false, r) else (true, ⟨addTo f t r.groups⟩)

/-- All templates with their functions, in the order in which a look-up goes through them. -/
def pairs (r : Registry) : List Origin :=
  r.groups.flatMap fun g => g.templates.map fun t => ⟨g.function, t⟩

/-- How many pairs of a function and a template there are. -/
def size (r : Registry) : Nat := r.pairs.length

/-- Whether nothing was registered. -/
def isEmpty (r : Registry) : Bool := r.size == 0

/-- The first pair whose template can have made a key. -/
def originOf? (r : Registry) (key : String) : Option Origin :=
  r.pairs.find? fun o => (Pattern.ofTemplate o.template).accepts key

/-- The first pair whose template can have made a key, with the texts of the fields. -/
def fieldsOf? (r : Registry) (key : String) : Option KeyFields :=
  r.pairs.findSome? fun o =>
    ((Pattern.ofTemplate o.template).captures key).map fun fields =>
      ⟨o.function, o.template, fields⟩

end Registry
end Latchkey
