import Nomenclator.Proofs.Interop.SelectorNames

/-!
# Labels and the parameters that they belong to

Labels come from two sides, from the types of the parameters and from the parts of the selector, and
a constructor may have both kinds. A label belongs to the parameter that stands where it stands, and
nothing but its index says so. So two things matter: how many labels there are, and that the label
at each index comes from the parameter or from the part at this index (`Origin`).

With at least one parameter, the second one always holds (`origin_of_selector`). The first one holds
when the selector has as many parts as the method has parameters, and when there is no selector
(`labels_counted`). A constructor without parameters whose selector has several parts gets a label
for each part but the first one, and there is nothing that these labels belong to.
-/

namespace Nomenclator.Interop

open Selector (HasParts)

variable {settings : Settings} {method : MethodDescriptor} {names : MethodNames}
  {selector first name label : String} {rest texts labels parameterNames : List String} {index : ℕ}

/-! ### Where a label comes from -/

/-- A label comes from the type of the parameter at its index, or from the part of the selector
there. The beginning of the first part may be missing from it. -/
inductive Origin (settings : Settings) (method : MethodDescriptor) (texts : List String)
    (index : ℕ) (label : String) : Prop
  | ofType {parameter : Variable} {name : String}
      (hparameter : method.parameters[index]? = some parameter)
      (hname : parameterName settings method.location parameter = .ok name)
      (hlabel : label = name ∨ label = "with" ++ name)
  | ofPart (hpart : texts[index]? = some label)
  | ofFirstPart {start : String} (hindex : index = 0) (hpart : texts[0]? = some (start ++ label))

/-- There is one label for each parameter, in order. -/
structure OneEach (settings : Settings) (method : MethodDescriptor) (texts labels : List String) :
    Prop where
  length_eq : labels.length = method.parameters.length
  origin : ∀ index label, labels[index]? = some label → Origin settings method texts index label

/-- A name of a parameter belongs to the parameter at its index. -/
theorem ParametersNamed.origin (h : ParametersNamed settings method parameterNames)
    (hname : parameterNames[index]? = some name) (hlabel : label = name ∨ label = typeLabel name) :
    Origin settings method texts index label := by
  obtain ⟨hlt, rfl⟩ := List.getElem?_eq_some_iff.mp hname
  have hlt' : index < method.parameters.length := h.length_eq ▸ hlt
  exact .ofType (List.getElem?_eq_getElem hlt') (List.Forall₂.get h hlt' hlt) hlabel

/-- Labels after the types of the parameters. -/
theorem ParametersNamed.origin_map (h : ParametersNamed settings method parameterNames)
    (hlabel : (parameterNames.map typeLabel)[index]? = some label) :
    Origin settings method texts index label := by
  rw [List.getElem?_map, Option.map_eq_some_iff] at hlabel
  obtain ⟨name, hname, rfl⟩ := hlabel
  exact h.origin hname (Or.inr rfl)

/-- Labels after the parts of the selector, the first of them with something missing in front. -/
theorem origin_of_append_cons {start : String}
    (hlabel : (first :: rest)[index]? = some label) :
    Origin settings method ((start ++ first) :: rest) index label := by
  cases index with
  | zero =>
    obtain rfl := Option.some.inj hlabel
    exact .ofFirstPart rfl rfl
  | succ index => exact .ofPart hlabel

/-- A first label after the first parameter, and the others after the parts of the selector. -/
theorem ParametersNamed.origin_take_append (h : ParametersNamed settings method parameterNames)
    (hne : parameterNames ≠ []) (hlabel : (parameterNames.take 1 ++ rest)[index]? = some label) :
    Origin settings method (first :: rest) index label := by
  obtain ⟨name, others, rfl⟩ := List.exists_cons_of_ne_nil hne
  cases index with
  | zero =>
    obtain rfl := Option.some.inj hlabel
    exact h.origin rfl (Or.inl rfl)
  | succ index => exact .ofPart hlabel

/-- Without a selector all labels come from the parameters, one from each. -/
theorem ParametersNamed.oneEach (h : ParametersNamed settings method parameterNames)
    (hselector : method.interopSelector? = none) :
    OneEach settings method texts (namesFrom method parameterNames).labels := by
  cases hkind : method.isConstructor with
  | false =>
    rw [namesFrom_of_not_isConstructor hkind, hselector, ordinaryNames]
    refine ⟨?_, fun index label hlabel => h.origin_map hlabel⟩
    rw [List.length_map, h.length_eq]
  | true =>
    rw [namesFrom_of_isConstructor hkind, hselector, constructorNames_none]
    refine ⟨?_, fun index label hlabel => ?_⟩
    · rw [← h.length_eq, List.length_append, List.length_take, List.length_map, List.length_drop]
      omega
    · cases parameterNames with
      | nil => cases hlabel
      | cons name others =>
        cases index with
        | zero =>
          obtain rfl := Option.some.inj hlabel
          exact h.origin rfl (Or.inl rfl)
        | succ index => exact h.origin_map hlabel

/-- **With parameters, each label comes from the parameter or the part at its index.** -/
theorem origin_of_selector (h : ParametersNamed settings method parameterNames)
    (hparameters : parameterNames ≠ []) (hselector : method.interopSelector? = some selector)
    (hparts : HasParts selector (first :: rest))
    (hlabel : (namesFrom method parameterNames).labels[index]? = some label) :
    Origin settings method (first :: rest) index label := by
  cases hkind : method.isConstructor with
  | false =>
    rw [namesFrom_of_not_isConstructor hkind, hselector] at hlabel
    by_cases hcolon : ':' ∈ selector.toList
    · obtain ⟨name?, tail, rfl, heq⟩ := exists_ordinaryNames_eq hparameters hcolon hparts
      rw [heq] at hlabel
      exact origin_of_append_cons hlabel
    · rw [ordinaryNames_whole (Or.inr hcolon)] at hlabel
      exact h.origin_map hlabel
  | true =>
    rw [namesFrom_of_isConstructor hkind, hselector] at hlabel
    by_cases hinitializer : ∃ label, first = initializerStart ++ label
    · obtain ⟨tail, rfl⟩ := hinitializer
      rw [constructorNames_initializer hparts] at hlabel
      exact origin_of_append_cons hlabel
    · rw [constructorNames_factory hparts (not_exists.mp hinitializer)] at hlabel
      exact h.origin_take_append hparameters hlabel

/-! ### How many labels there are -/

/-- A selector that is not cut up leaves one label for each parameter. -/
theorem ParametersNamed.length_labels_whole (h : ParametersNamed settings method parameterNames)
    (hselector : method.interopSelector? = some selector) (hkind : method.isConstructor = false)
    (hwhole : ':' ∉ selector.toList ∨ method.parameters = []) :
    (namesFrom method parameterNames).labels.length = method.parameters.length := by
  rw [namesFrom_of_not_isConstructor hkind, hselector,
    ordinaryNames_whole (hwhole.symm.imp_left h.eq_nil_iff.mpr), List.length_map, h.length_eq]

/-- One that is cut up gives as many labels as it has parts. -/
theorem ParametersNamed.length_labels_cut (h : ParametersNamed settings method parameterNames)
    (hselector : method.interopSelector? = some selector)
    (hparts : HasParts selector (first :: rest)) (hkind : method.isConstructor = false)
    (hparameters : method.parameters ≠ []) (hcolon : ':' ∈ selector.toList) :
    (namesFrom method parameterNames).labels.length = (first :: rest).length := by
  have hne : parameterNames ≠ [] := mt h.eq_nil_iff.mp hparameters
  obtain ⟨name?, tail, -, heq⟩ := exists_ordinaryNames_eq hne hcolon hparts
  rw [namesFrom_of_not_isConstructor hkind, hselector, heq]
  rfl

/-- So does the selector of an initializer. -/
theorem length_labels_initializer (hselector : method.interopSelector? = some selector)
    (hparts : HasParts selector (first :: rest)) (hkind : method.isConstructor = true)
    (hinitializer : ∃ label, first = initializerStart ++ label) :
    (namesFrom method parameterNames).labels.length = (first :: rest).length := by
  obtain ⟨label, rfl⟩ := hinitializer
  rw [namesFrom_of_isConstructor hkind, hselector, constructorNames_initializer hparts]
  rfl

/-- Any other constructor is named by the first part, and its first parameter has a label of its
own. -/
theorem ParametersNamed.length_labels_factory (h : ParametersNamed settings method parameterNames)
    (hselector : method.interopSelector? = some selector)
    (hparts : HasParts selector (first :: rest)) (hkind : method.isConstructor = true)
    (hfactory : ¬∃ label, first = initializerStart ++ label) :
    (namesFrom method parameterNames).labels.length =
      min method.parameters.length 1 + (first :: rest).length - 1 := by
  rw [namesFrom_of_isConstructor hkind, hselector,
    constructorNames_factory hparts (not_exists.mp hfactory), List.length_append,
    List.length_take, h.length_eq, min_comm]
  rfl

/-- With as many parts as parameters, there are as many labels. -/
theorem ParametersNamed.oneEach_of_length_eq (h : ParametersNamed settings method parameterNames)
    (hselector : method.interopSelector? = some selector)
    (hparts : HasParts selector (first :: rest)) (hparameters : method.parameters ≠ [])
    (hlength : (first :: rest).length = method.parameters.length) :
    OneEach settings method (first :: rest) (namesFrom method parameterNames).labels := by
  refine ⟨?_, fun index label hlabel => ?_⟩
  · cases hkind : method.isConstructor with
    | false =>
      by_cases hcolon : ':' ∈ selector.toList
      · rw [h.length_labels_cut hselector hparts hkind hparameters hcolon, hlength]
      · exact h.length_labels_whole hselector hkind (Or.inl hcolon)
    | true =>
      by_cases hinitializer : ∃ label, first = initializerStart ++ label
      · rw [length_labels_initializer hselector hparts hkind hinitializer, hlength]
      · have hpos : method.parameters.length ≠ 0 := mt List.length_eq_zero_iff.mp hparameters
        rw [h.length_labels_factory hselector hparts hkind hinitializer, hlength]
        omega
  · exact origin_of_selector h (mt h.eq_nil_iff.mp hparameters) hselector hparts hlabel

/-- **One label for each parameter.** Take a method that gets names. Without a selector it has one
label for each parameter. An ordinary method without parameters, or whose selector has no colons,
has as many labels as parameters. An ordinary method with parameters whose selector has colons, and
an initializer, has as many labels as the selector has parts. Any other constructor has one label
less, and one for its first parameter if it has parameters. So when there are parameters, and as
many as there are parts, each parameter has its label, in order. -/
theorem labels_counted (hnames : methodNames settings method = .ok (some names)) :
    (method.interopSelector? = none → OneEach settings method [] names.labels) ∧
    ∀ selector first rest, method.interopSelector? = some selector →
      HasParts selector (first :: rest) →
      (method.isConstructor = false → ':' ∉ selector.toList ∨ method.parameters = [] →
        names.labels.length = method.parameters.length) ∧
      (method.isConstructor = false → method.parameters ≠ [] → ':' ∈ selector.toList →
        names.labels.length = (first :: rest).length) ∧
      (method.isConstructor = true → (∃ label, first = "initWith" ++ label) →
        names.labels.length = (first :: rest).length) ∧
      (method.isConstructor = true → (¬∃ label, first = "initWith" ++ label) →
        names.labels.length = min method.parameters.length 1 + (first :: rest).length - 1) ∧
      (method.parameters ≠ [] → (first :: rest).length = method.parameters.length →
        OneEach settings method (first :: rest) names.labels) := by
  obtain ⟨-, parameterNames, hnamed, rfl⟩ := methodNames_eq_some_iff.mp hnames
  refine ⟨hnamed.oneEach, fun selector first rest hselector hparts => ?_⟩
  exact ⟨hnamed.length_labels_whole hselector, hnamed.length_labels_cut hselector hparts,
    length_labels_initializer hselector hparts, hnamed.length_labels_factory hselector hparts,
    hnamed.oneEach_of_length_eq hselector hparts⟩

/-- A constructor with two parameters whose selector has two parts, of which the second is empty. -/
theorem labels_counted_create :
    ∃ panel, TypeDeclaration.ofQualifiedName "ui.Panel" = .ok panel ∧
      let create := { MethodDescriptor.constructor panel with
        interopSelector? := some "create::"
        parameters := [⟨"width", .primitive .int⟩, ⟨"mode", .intersection []⟩] }
      methodNames .default create = .ok (some ⟨some "create", ["Int", ""]⟩) ∧
        HasParts "create::" ["create", ""] ∧
        OneEach .default create ["create", ""] ["Int", ""] := by
  refine ⟨_, rfl, ?_⟩
  intro create
  have hnames : methodNames .default create = .ok (some ⟨some "create", ["Int", ""]⟩) := rfl
  have hparts : HasParts "create::" ["create", ""] := ⟨by decide, by decide, Or.inl rfl⟩
  obtain ⟨-, -, -, -, hone⟩ := (labels_counted hnames).2 _ _ _ rfl hparts
  exact ⟨hnames, hparts, hone (List.cons_ne_nil _ _) rfl⟩

end Nomenclator.Interop
