import Nomenclator.Declaration

/-!
# Which declarations get foreign names

Foreign consumers see what is public or protected. Of that, local types, methods that override a
name which is already there, and fields that every instance has get no annotation.
-/

namespace Nomenclator

/-- Types that can be seen and are not local. -/
def TypeDeclaration.isAnnotated (declaration : TypeDeclaration) : Bool :=
  declaration.traits.visibility.isExternallyVisible && !declaration.traits.isLocal

/-- Methods that can be seen and override nothing that has a foreign name. -/
def MethodDescriptor.isAnnotated (method : MethodDescriptor) : Bool :=
  method.visibility.isExternallyVisible && !method.isInteropOverride

/-- Static fields that can be seen, of types that get an annotation. -/
def FieldDescriptor.isAnnotated (field : FieldDescriptor) : Bool :=
  field.enclosing.isAnnotated && field.visibility.isExternallyVisible && field.isStatic

end Nomenclator
