import Parley.Value.Object

/-!
# Contexts

The names that an expression may use come from several layers: fixed ones, the value that
comes with an invocation, and ones that are computed from it. A context is what is left when
they are merged, one after another, each over the ones before. A later layer wins key by
key; objects are merged inside, and anything else is replaced as a whole.
-/

namespace Parley

/-- A contributor to a context. -/
inductive Layer where
  /-- Entries that are always the same. -/
  | fixed (entries : Object)
  /-- The entries of the invocation itself; one that is no object has none. -/
  | invocation
  /-- Entries computed from the invocation. -/
  | resolver (resolve : Value → Object)

namespace Layer

/-- The entries that a layer contributes for an invocation. -/
def entries (invocation : Value) : Layer → Object
  | fixed entries => entries
  | .invocation =>
    match invocation with
    | .object entries => entries
    | _ => []
  | resolver resolve => resolve invocation

/-- A word or two about a layer. -/
def describe : Layer → String
  | fixed entries => "Static(" ++ toString entries.length ++ ")"
  | invocation => "Invocation"
  | resolver _ => "Resolver"

end Layer

/-- **The context** that layers make up for an invocation. -/
def assemble (layers : List Layer) (invocation : Value) : Object :=
  layers.foldl (fun context layer => Object.merge context (layer.entries invocation)) []

end Parley
