import Nomenclator.Interop.Exposure
import Nomenclator.Interop.Selector
import Nomenclator.Interop.TypeName

/-!
# Foreign names of methods

A method has a foreign name of its own and a label for each parameter. Both come from the attached
selector where there is one, and from the types of the parameters otherwise.

A constructor without a selector has the labels `P1`, `withP2`, `withP3`, … after the types of its
parameters. A selector that begins with `initWith` gives no method name, and labels only:
`initWithName:` is the label `Name`. Any other selector of a constructor begins with the method
name, and the first label comes from the first parameter.

An ordinary method without a selector, without parameters, or with a selector without colons is
named by the selector as it is and has the labels `withP1`, `withP2`, …. Otherwise the first part of
the selector is cut in two, as `Selector.cutWord?` says.
-/

namespace Nomenclator.Interop

/-- The foreign names of a method. -/
structure MethodNames where
  /-- The name of the method, if it gets one of its own. -/
  methodName? : Option String
  /-- The labels of its parameters. -/
  labels : List String
deriving DecidableEq, Repr

/-- The beginning of the selector of an initializer. -/
def initializerStart : String :=
  "initWith"

/-- A label after a parameter's type. -/
def typeLabel (parameterName : String) : String :=
  "with" ++ parameterName

/-- The names of a constructor. -/
def constructorNames (selector? : Option String) (parameterNames : List String) : MethodNames :=
  match selector? with
  | none =>
    match parameterNames with
    | [] => ⟨none, []⟩
    | first :: rest => ⟨none, first :: rest.map typeLabel⟩
  | some selector =>
    let (first, rest) := Selector.parts selector
    match initializerStart.toList.isPrefixOf? first.toList with
    | some label => ⟨none, String.ofList label :: rest⟩
    | none => ⟨some first, parameterNames.take 1 ++ rest⟩

/-- The names that a selector with colons gives. A first part of one character, or of none, is a
label. -/
def selectorNames (selector : String) : MethodNames :=
  let (first, rest) := Selector.parts selector
  match Selector.cutWord? first with
  | some (name, label) => ⟨some name, label :: rest⟩
  | none => ⟨none, first :: rest⟩

/-- The names of an ordinary method. -/
def ordinaryNames (selector? : Option String) (parameterNames : List String) : MethodNames :=
  match selector? with
  | some selector =>
    if !parameterNames.isEmpty && selector.toList.contains ':' then selectorNames selector
    else ⟨some selector, parameterNames.map typeLabel⟩
  | none => ⟨none, parameterNames.map typeLabel⟩

/-- The foreign names of a method, if it gets any. The types of all parameters are named first, and
the first one that cannot be named is reported, whether or not its name would be used. -/
def methodNames (settings : Settings) (method : MethodDescriptor) :
    Except NamingError (Option MethodNames) := do
  if method.isAnnotated then
    let location := (Location.unknown.inType method.enclosing.qualifiedName.spelling).inMember
      method.name
    let parameterNames ← method.parameters.mapM (parameterName settings location)
    if method.isConstructor then
      return some (constructorNames method.interopSelector? parameterNames)
    else
      return some (ordinaryNames method.interopSelector? parameterNames)
  else
    return none

end Nomenclator.Interop
