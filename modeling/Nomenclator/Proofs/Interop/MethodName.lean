import Mathlib.Tactic
import Nomenclator.Interop.MethodName
import Nomenclator.Proofs.Failure
import Nomenclator.Proofs.Interop.ValueType

/-!
# When a method gets names

The parameters of a method are named first, one after the other, and only then its selector is
looked at. So the selector has no say in whether naming fails: the first parameter without a name is
reported, though its name might not be needed (`methodNames_eq_error_iff`). When all parameters have
names the method gets its own (`methodNames_eq_some_iff`), and methods without annotations are not
looked at at all (`naming_fails_at_first_null`).
-/

namespace Nomenclator

/-- The place of a method in the declarations. -/
def MethodDescriptor.location (method : MethodDescriptor) : Interop.Location where
  type? := some method.enclosing.qualifiedName.spelling
  member? := some method.name
  parameter? := none

namespace Interop

variable {settings : Settings} {location : Location} {parameter : Variable}
  {method : MethodDescriptor} {names : MethodNames} {error : NamingError}

/-! ### Parameters -/

/-- A parameter has a name unless its type comes down to `null`. -/
theorem exists_parameterName_iff :
    (∃ name, parameterName settings location parameter = .ok name) ↔
      ¬parameter.type.EndsInNull := by
  constructor
  · rintro ⟨name, hname⟩ hnull
    rw [parameterName, descriptorName_of_endsInNull hnull] at hname
    cases hname
  · intro hnull
    obtain ⟨name, hname⟩ := exists_descriptorName hnull
    exact ⟨Text.titleCase name, by rw [parameterName, hname]; rfl⟩

/-- A parameter without a name is reported. -/
theorem parameterName_eq_error_iff :
    parameterName settings location parameter = .error error ↔
      parameter.type.EndsInNull ∧
        error = .unexpectedDescriptor (location.inParameter parameter.name) "null primitive" := by
  by_cases hnull : parameter.type.EndsInNull
  · have hfails : parameterName settings location parameter =
        .error (.unexpectedDescriptor (location.inParameter parameter.name) "null primitive") := by
      rw [parameterName, descriptorName_of_endsInNull hnull]
      rfl
    rw [hfails, Except.error.injEq, eq_comm]
    exact (and_iff_right hnull).symm
  · obtain ⟨name, hname⟩ : ∃ name, parameterName settings location parameter = .ok name :=
      exists_parameterName_iff.mpr hnull
    simp [hname, hnull]

/-! ### Methods -/

/-- The parameters of a method have the given names, in order. -/
def ParametersNamed (settings : Settings) (method : MethodDescriptor)
    (parameterNames : List String) : Prop :=
  List.Forall₂ (fun parameter name => parameterName settings method.location parameter = .ok name)
    method.parameters parameterNames

/-- The names of a method when its parameters have the given ones. -/
def namesFrom (method : MethodDescriptor) (parameterNames : List String) : MethodNames :=
  if method.isConstructor then constructorNames method.interopSelector? parameterNames
  else ordinaryNames method.interopSelector? parameterNames

/-- The parameters of an annotated method are named before anything else. -/
theorem methodNames_of_isAnnotated (h : method.isAnnotated = true) :
    methodNames settings method = do
      let parameterNames ← method.parameters.mapM (parameterName settings method.location)
      return some (namesFrom method parameterNames) := by
  rw [methodNames, if_pos h]
  unfold namesFrom
  cases method.isConstructor <;> rfl

theorem methodNames_eq_none_iff :
    methodNames settings method = .ok none ↔ method.isAnnotated = false := by
  by_cases h : method.isAnnotated = true
  · rw [methodNames_of_isAnnotated h, h, bind_eq_ok_iff]
    simp [pure, Except.pure]
  · rw [methodNames, if_neg h]
    simpa [pure, Except.pure] using h

/-- **A method gets names when it is annotated and its parameters have names.** -/
theorem methodNames_eq_some_iff :
    methodNames settings method = .ok (some names) ↔
      method.isAnnotated = true ∧ ∃ parameterNames,
        ParametersNamed settings method parameterNames ∧
          namesFrom method parameterNames = names := by
  by_cases h : method.isAnnotated = true
  · rw [methodNames_of_isAnnotated h, bind_eq_ok_iff, and_iff_right h]
    simp only [mapM_eq_ok_iff, pure, Except.pure, Except.ok.injEq, Option.some.injEq,
      ParametersNamed]
  · rw [methodNames, if_neg h]
    simp [h, pure, Except.pure]

/-- **Naming a method fails at the first parameter that comes down to `null`.** -/
theorem methodNames_eq_error_iff :
    methodNames settings method = .error error ↔
      method.isAnnotated = true ∧ ∃ earlier parameter later,
        method.parameters = earlier ++ parameter :: later ∧
        (∀ other ∈ earlier, ¬other.type.EndsInNull) ∧ parameter.type.EndsInNull ∧
        error = .unexpectedDescriptor (method.location.inParameter parameter.name)
          "null primitive" := by
  by_cases h : method.isAnnotated = true
  · rw [methodNames_of_isAnnotated h, bind_eq_error_iff, and_iff_right h]
    simp only [mapM_eq_error_iff, pure, Except.pure, reduceCtorEq, and_false, exists_false,
      or_false, exists_parameterName_iff, parameterName_eq_error_iff]
  · rw [methodNames, if_neg h]
    simp [h, pure, Except.pure]

/-- A parameter that comes down to `null` makes naming an annotated method fail. -/
theorem exists_methodNames_eq_error_iff :
    (∃ error, methodNames settings method = .error error) ↔
      method.isAnnotated = true ∧ ∃ parameter ∈ method.parameters, parameter.type.EndsInNull := by
  constructor
  · rintro ⟨error, herror⟩
    obtain ⟨hannotated, earlier, parameter, later, hsplit, -, hnull, -⟩ :=
      methodNames_eq_error_iff.mp herror
    exact ⟨hannotated, parameter, by simp [hsplit], hnull⟩
  · rintro ⟨hannotated, parameter, hmem, hnull⟩
    -- the first such parameter is the one that is reported
    obtain ⟨first, hfirst⟩ : ∃ first,
        method.parameters.find? (·.type.EndsInNull) = some first := by
      rw [← Option.isSome_iff_exists, List.find?_isSome]
      exact ⟨parameter, hmem, decide_eq_true hnull⟩
    obtain ⟨hnull, earlier, later, hsplit, hearlier⟩ := List.find?_eq_some_iff_append.mp hfirst
    refine ⟨_, methodNames_eq_error_iff.mpr
      ⟨hannotated, earlier, first, later, hsplit, ?_, of_decide_eq_true hnull, rfl⟩⟩
    intro other hother
    simpa using hearlier other hother

/-- An annotated method gets names when no parameter comes down to `null`. -/
theorem exists_methodNames_eq_some_iff :
    (∃ names, methodNames settings method = .ok (some names)) ↔
      method.isAnnotated = true ∧
        ∀ parameter ∈ method.parameters, ¬parameter.type.EndsInNull := by
  constructor
  · rintro ⟨names, hnames⟩
    refine ⟨(methodNames_eq_some_iff.mp hnames).1, fun parameter hmem hnull => ?_⟩
    obtain ⟨error, herror⟩ := exists_methodNames_eq_error_iff.mpr
      ⟨(methodNames_eq_some_iff.mp hnames).1, parameter, hmem, hnull⟩
    rw [hnames] at herror
    cases herror
  · rintro ⟨hannotated, hnameable⟩
    cases hresult : methodNames settings method with
    | error error =>
      obtain ⟨-, parameter, hmem, hnull⟩ :=
        exists_methodNames_eq_error_iff.mp ⟨error, hresult⟩
      exact absurd hnull (hnameable parameter hmem)
    | ok names? =>
      cases names? with
      | none =>
        rw [methodNames_eq_none_iff, hannotated] at hresult
        cases hresult
      | some names => exact ⟨names, rfl⟩

theorem isAnnotated_eq_true_iff :
    method.isAnnotated = true ↔
      method.visibility.isExternallyVisible = true ∧ method.isInteropOverride = false := by
  simp [MethodDescriptor.isAnnotated]

theorem isAnnotated_eq_false_iff :
    method.isAnnotated = false ↔
      method.visibility.isExternallyVisible = false ∨ method.isInteropOverride = true := by
  cases h : method.visibility.isExternallyVisible <;> simp [MethodDescriptor.isAnnotated, h]

/-- **When naming a method fails, and with what.** A method that cannot be seen from outside or that
overrides a foreign name gets no names, whatever its parameters are. Naming any other method fails
if the type of a parameter comes down to `null`, whatever its selector is, and what is reported is
the first such parameter with its method and type. If there is none the method gets names. -/
theorem naming_fails_at_first_null (settings : Settings) (method : MethodDescriptor) :
    (methodNames settings method = .ok none ↔
      method.visibility.isExternallyVisible = false ∨ method.isInteropOverride = true) ∧
    ((∃ error, methodNames settings method = .error error) ↔
      (method.visibility.isExternallyVisible = true ∧ method.isInteropOverride = false) ∧
        ∃ parameter ∈ method.parameters, parameter.type.EndsInNull) ∧
    (∀ error, methodNames settings method = .error error ↔
      (method.visibility.isExternallyVisible = true ∧ method.isInteropOverride = false) ∧
        ∃ earlier parameter later, method.parameters = earlier ++ parameter :: later ∧
          (∀ other ∈ earlier, ¬other.type.EndsInNull) ∧ parameter.type.EndsInNull ∧
          error = .unexpectedDescriptor
            { type? := some method.enclosing.qualifiedName.spelling
              member? := some method.name
              parameter? := some parameter.name }
            "null primitive") ∧
    ((∃ names, methodNames settings method = .ok (some names)) ↔
      (method.visibility.isExternallyVisible = true ∧ method.isInteropOverride = false) ∧
        ∀ parameter ∈ method.parameters, ¬parameter.type.EndsInNull) := by
  rw [← isAnnotated_eq_true_iff, ← isAnnotated_eq_false_iff]
  exact ⟨methodNames_eq_none_iff, exists_methodNames_eq_error_iff,
    fun error => methodNames_eq_error_iff, exists_methodNames_eq_some_iff⟩

/-- The first of two such parameters is reported, though the selector needs no names of parameters,
and nothing is reported where the method cannot be seen. -/
theorem naming_fails_at_first_null_resize :
    ∃ panel, TypeDeclaration.ofQualifiedName "ui.Panel" = .ok panel ∧
      let resize := { MethodDescriptor.ofName panel "resize" with
        interopSelector? := some "setWidth:mode:unit:"
        parameters := [⟨"width", .primitive .int⟩,
          ⟨"mode", .array (.typeVariable "T" (.primitive .null)) 2⟩, ⟨"unit", .primitive .null⟩] }
      methodNames .default resize = .error (.unexpectedDescriptor
        ⟨some "ui.Panel", some "resize", some "mode"⟩ "null primitive") ∧
      methodNames .default (resize.withVisibility .privateAccess) = .ok none := by
  refine ⟨_, rfl, ?_, ?_⟩
  · refine ((naming_fails_at_first_null _ _).2.2.1 _).mpr
      ⟨⟨rfl, rfl⟩, [_], _, [_], rfl, ?_, ?_, rfl⟩
    · decide
    · decide
  · exact (naming_fails_at_first_null _ _).1.mpr (Or.inl rfl)

end Interop

end Nomenclator
