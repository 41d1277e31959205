import Nomenclator.Proofs.Interop.MethodName
import Nomenclator.Proofs.Interop.Selector

/-!
# What becomes of a selector

There are six ways in which a method comes by its names, three for constructors and three for
ordinary methods. Each one has an equation here, in terms of the parts of the selector and of the
names of the parameters, and no proof has to look into the functions again.

Read from left to right, with colons in between, the names of a method give its selector back. This
holds for each of the ways with its own reading (`selector_text_kept`). Where the first part of a
selector is cut in two, the cut is the one that `Selector.Cut` describes (`first_part_cut`).
-/

namespace Nomenclator.Interop

open Selector (Cut HasParts HasStem append_joined_cons cutPlace cutWord? cutWord?_eq_none_iff
  cut_of_cutWord? exists_of_joined_eq_append hasParts_parts isValid_cutPlace joined joined_cons)
open Unicode (isUppercase)

variable {selector first label word stem : String} {rest parameterNames : List String}

/-! ### Names of constructors -/

theorem parts_eq_of_hasParts (h : HasParts selector (first :: rest)) :
    Selector.parts selector = (first, rest) := by
  obtain ⟨hfirst, hrest⟩ := List.cons.inj ((hasParts_parts selector).unique h)
  exact Prod.ext hfirst hrest

/-- Without a selector, a constructor has labels after the types of its parameters. -/
theorem constructorNames_none (parameterNames : List String) :
    constructorNames none parameterNames =
      ⟨none, parameterNames.take 1 ++ (parameterNames.drop 1).map typeLabel⟩ := by
  cases parameterNames <;> rfl

/-- An initializer has the labels that its selector gives. -/
theorem constructorNames_initializer (h : HasParts selector ((initializerStart ++ label) :: rest)) :
    constructorNames (some selector) parameterNames = ⟨none, label :: rest⟩ := by
  have hlabel : initializerStart.toList.isPrefixOf? (initializerStart ++ label).toList =
      some label.toList := by
    rw [List.isPrefixOf?_eq_some_iff_append_eq, String.toList_append]
  rw [constructorNames, parts_eq_of_hasParts h]
  simp only [hlabel, String.ofList_toList]

/-- The selector of any other constructor has its name and all labels but the first. -/
theorem constructorNames_factory (h : HasParts selector (first :: rest))
    (hstart : ∀ label, first ≠ initializerStart ++ label) :
    constructorNames (some selector) parameterNames =
      ⟨some first, parameterNames.take 1 ++ rest⟩ := by
  have hnone : initializerStart.toList.isPrefixOf? first.toList = none := by
    rw [Option.eq_none_iff_forall_ne_some]
    intro label hlabel
    rw [List.isPrefixOf?_eq_some_iff_append_eq] at hlabel
    refine hstart (String.ofList label) ?_
    rw [← String.toList_inj, String.toList_append, String.toList_ofList, hlabel]
  rw [constructorNames, parts_eq_of_hasParts h]
  simp only [hnone]

/-! ### Names of ordinary methods -/

/-- A selector without colons, or of a method without parameters, is the name as it is. -/
theorem ordinaryNames_whole (h : parameterNames = [] ∨ ':' ∉ selector.toList) :
    ordinaryNames (some selector) parameterNames =
      ⟨some selector, parameterNames.map typeLabel⟩ := by
  have hguard : ¬(!parameterNames.isEmpty && selector.toList.contains ':') = true := by
    simpa [or_iff_not_imp_left] using h
  rw [ordinaryNames, if_neg hguard]

/-- Any other selector is cut up. -/
theorem ordinaryNames_eq_selectorNames (hparameters : parameterNames ≠ [])
    (hcolon : ':' ∈ selector.toList) :
    ordinaryNames (some selector) parameterNames = selectorNames selector := by
  have hguard : (!parameterNames.isEmpty && selector.toList.contains ':') = true := by
    simpa using ⟨hparameters, hcolon⟩
  rw [ordinaryNames, if_pos hguard]

/-- A first part of one character or none is a label, and there is no name. -/
theorem ordinaryNames_uncut (hparameters : parameterNames ≠ []) (hcolon : ':' ∈ selector.toList)
    (h : HasParts selector (word :: rest)) (hlength : word.length ≤ 1) :
    ordinaryNames (some selector) parameterNames = ⟨none, word :: rest⟩ := by
  have hnone : cutWord? word = none := cutWord?_eq_none_iff.mpr hlength
  rw [ordinaryNames_eq_selectorNames hparameters hcolon, selectorNames, parts_eq_of_hasParts h]
  simp only [hnone]

/-- **A longer first part is cut into the name and the first label.** -/
theorem exists_ordinaryNames_cut (hparameters : parameterNames ≠ [])
    (hcolon : ':' ∈ selector.toList) (h : HasParts selector (word :: rest))
    (hlength : 2 ≤ word.length) :
    ∃ name label, Cut word.toList name.toList label.toList ∧
      name.utf8ByteSize = cutPlace word ∧
      ordinaryNames (some selector) parameterNames = ⟨some name, label :: rest⟩ := by
  obtain ⟨⟨name, label⟩, hcut⟩ : ∃ halves, cutWord? word = some halves := by
    rw [← Option.ne_none_iff_exists', ne_eq, cutWord?_eq_none_iff]
    omega
  obtain ⟨hrule, hplace⟩ := cut_of_cutWord? hcut
  refine ⟨name, label, hrule, hplace, ?_⟩
  rw [ordinaryNames_eq_selectorNames hparameters hcolon, selectorNames, parts_eq_of_hasParts h]
  simp only [hcut]

/-- In both cases the first part is the name, if there is one, followed by the first label. -/
theorem exists_ordinaryNames_eq (hparameters : parameterNames ≠ [])
    (hcolon : ':' ∈ selector.toList) (h : HasParts selector (word :: rest)) :
    ∃ name? label, name?.getD "" ++ label = word ∧
      ordinaryNames (some selector) parameterNames = ⟨name?, label :: rest⟩ := by
  rcases Nat.lt_or_ge 1 word.length with hlength | hlength
  · obtain ⟨name, label, hcut, -, heq⟩ := exists_ordinaryNames_cut hparameters hcolon h hlength
    exact ⟨some name, label, hcut.append_eq_word, heq⟩
  · exact ⟨none, word, String.empty_append, ordinaryNames_uncut hparameters hcolon h hlength⟩

/-! ### Methods with a selector -/

variable {settings : Settings} {method : MethodDescriptor} {names : MethodNames}

theorem namesFrom_of_isConstructor (h : method.isConstructor = true) :
    namesFrom method parameterNames = constructorNames method.interopSelector? parameterNames :=
  if_pos h

theorem namesFrom_of_not_isConstructor (h : method.isConstructor = false) :
    namesFrom method parameterNames = ordinaryNames method.interopSelector? parameterNames :=
  if_neg (Bool.eq_false_iff.mp h)

theorem ParametersNamed.length_eq (h : ParametersNamed settings method parameterNames) :
    parameterNames.length = method.parameters.length :=
  (List.Forall₂.length_eq h).symm

theorem ParametersNamed.eq_nil_iff (h : ParametersNamed settings method parameterNames) :
    parameterNames = [] ↔ method.parameters = [] := by
  rw [← List.length_eq_zero_iff, ← List.length_eq_zero_iff, h.length_eq]

/-- The first parameter has the first name. -/
theorem ParametersNamed.exists_eq_cons (h : ParametersNamed settings method parameterNames)
    {parameter : Variable} (hmem : parameter ∈ method.parameters.head?) :
    ∃ name others, parameterName settings method.location parameter = .ok name ∧
      parameterNames = name :: others := by
  obtain ⟨others, hparameters⟩ := List.head?_eq_some_iff.mp hmem
  rw [ParametersNamed, hparameters, List.forall₂_cons_left_iff] at h
  obtain ⟨name, others, hname, -, heq⟩ := h
  exact ⟨name, others, hname, heq⟩

/-- **No text of a selector is lost and none is added.** Take a method with a selector that gets
names. A selector that is cut up is, without a colon at its end, the name of the method, if there is
one, followed by the labels with colons between them. That of an initializer is so with `initWith`
in place of the name. For any other constructor the first label is named after the first parameter,
if there is one, and the name and the other labels make up the selector. A selector that is not cut
up is the name of the method, and then each label is named after its parameter. -/
theorem selector_text_kept (hnames : methodNames settings method = .ok (some names))
    (hselector : method.interopSelector? = some selector) (hstem : HasStem selector stem) :
    (method.isConstructor = false → method.parameters ≠ [] → ':' ∈ selector.toList →
      names.methodName?.getD "" ++ joined names.labels = stem) ∧
    (method.isConstructor = true → (∃ text, stem = "initWith" ++ text) →
      names.methodName? = none ∧ "initWith" ++ joined names.labels = stem) ∧
    (method.isConstructor = true → (¬∃ text, stem = "initWith" ++ text) →
      (∃ name, names.methodName? = some name ∧
        name ++ String.join ((names.labels.drop (min method.parameters.length 1)).map (":" ++ ·)) =
          stem) ∧
      ∀ parameter ∈ method.parameters.head?, ∃ name,
        parameterName settings method.location parameter = .ok name ∧
          names.labels.head? = some name) ∧
    (method.isConstructor = false → method.parameters = [] ∨ ':' ∉ selector.toList →
      names.methodName? = some selector ∧
        List.Forall₂ (fun parameter label => ∃ name,
            parameterName settings method.location parameter = .ok name ∧ label = "with" ++ name)
          method.parameters names.labels) := by
  obtain ⟨-, parameterNames, hnamed, rfl⟩ := methodNames_eq_some_iff.mp hnames
  obtain ⟨first, rest, hparts⟩ : ∃ first rest, HasParts selector (first :: rest) :=
    ⟨_, _, hasParts_parts selector⟩
  obtain rfl : joined (first :: rest) = stem := hparts.hasStem.unique hstem
  have hstart : ':' ∉ initializerStart.toList := by decide
  refine ⟨fun hkind hparameters hcolon => ?_, fun hkind hinitializer => ?_,
    fun hkind hfactory => ?_, fun hkind hwhole => ?_⟩
  · obtain ⟨name?, label, rfl, heq⟩ :=
      exists_ordinaryNames_eq (mt hnamed.eq_nil_iff.mp hparameters) hcolon hparts
    rw [namesFrom_of_not_isConstructor hkind, hselector, heq]
    exact append_joined_cons (name?.getD "") label rest
  · obtain ⟨text, htext⟩ := hinitializer
    obtain ⟨label, rfl⟩ := exists_of_joined_eq_append hstart htext
    rw [namesFrom_of_isConstructor hkind, hselector, constructorNames_initializer hparts]
    exact ⟨rfl, append_joined_cons initializerStart label rest⟩
  · have hother (label : String) : first ≠ initializerStart ++ label := by
      rintro rfl
      exact hfactory ⟨_, (append_joined_cons initializerStart label rest).symm⟩
    rw [namesFrom_of_isConstructor hkind, hselector, constructorNames_factory hparts hother]
    have hlength : (parameterNames.take 1).length = min method.parameters.length 1 := by
      rw [List.length_take, hnamed.length_eq, min_comm]
    refine ⟨⟨first, rfl, ?_⟩, ?_⟩
    · rw [List.drop_left' hlength, joined_cons]
    · intro parameter hmem
      obtain ⟨name, others, hname, rfl⟩ := hnamed.exists_eq_cons hmem
      exact ⟨name, hname, rfl⟩
  · rw [namesFrom_of_not_isConstructor hkind, hselector,
      ordinaryNames_whole (hwhole.imp_left hnamed.eq_nil_iff.mpr)]
    refine ⟨rfl, List.forall₂_map_right_iff.mpr (hnamed.imp fun parameter name hname => ?_)⟩
    exact ⟨name, hname, rfl⟩

/-- A colon at the very end is dropped, and the one before it is between two labels. -/
theorem selector_text_kept_colons :
    ∃ panel, TypeDeclaration.ofQualifiedName "ui.Panel" = .ok panel ∧
      let resize := { MethodDescriptor.ofName panel "resize" with
        interopSelector? := some "setWidth::"
        parameters := [⟨"width", .primitive .int⟩] }
      methodNames .default resize = .ok (some ⟨some "set", ["Width", ""]⟩) ∧
        HasStem "setWidth::" "setWidth:" ∧ "set" ++ joined ["Width", ""] = "setWidth:" := by
  refine ⟨_, rfl, ?_⟩
  intro resize
  have hnames : methodNames .default resize = .ok (some ⟨some "set", ["Width", ""]⟩) := rfl
  have hstem : HasStem "setWidth::" "setWidth:" := Or.inl rfl
  obtain ⟨hcut, -⟩ := selector_text_kept hnames rfl hstem
  exact ⟨hnames, hstem, hcut rfl (List.cons_ne_nil _ _) (by decide)⟩

/-- **Where the first part of a selector is cut.** Take an ordinary method with parameters and a
selector with colons that gets names. The labels after the first one are the later parts of the
selector. A first part of one character or none is the first label, and there is no name. A longer
one is cut at a number of bytes into the name and the first label, and neither is empty. The place
of the cut is between two characters: if there are capitals after the first character, before the
last one of them, and otherwise in the middle. -/
theorem first_part_cut (hnames : methodNames settings method = .ok (some names))
    (hordinary : method.isConstructor = false) (hparameters : method.parameters ≠ [])
    (hselector : method.interopSelector? = some selector) (hcolon : ':' ∈ selector.toList)
    (hparts : HasParts selector (word :: rest)) :
    (word.length ≤ 1 → names = ⟨none, word :: rest⟩) ∧
    (2 ≤ word.length → ∃ name label, names = ⟨some name, label :: rest⟩ ∧
      name ≠ "" ∧ label ≠ "" ∧ name ++ label = word ∧
      name.utf8ByteSize = cutPlace word ∧ String.Pos.Raw.IsValid word ⟨cutPlace word⟩ ∧
      ((∃ c ∈ word.toList.tail, isUppercase c = true) →
        ∃ capital after, label.toList = capital :: after ∧ isUppercase capital = true ∧
          ∀ c ∈ after, isUppercase c = false) ∧
      ((∀ c ∈ word.toList.tail, isUppercase c = false) →
        name.toList = word.toList.take (word.length / 2))) := by
  obtain ⟨-, parameterNames, hnamed, rfl⟩ := methodNames_eq_some_iff.mp hnames
  have hparameters : parameterNames ≠ [] := mt hnamed.eq_nil_iff.mp hparameters
  rw [namesFrom_of_not_isConstructor hordinary, hselector]
  refine ⟨ordinaryNames_uncut hparameters hcolon hparts, fun hlength => ?_⟩
  obtain ⟨name, label, hcut, hplace, heq⟩ :=
    exists_ordinaryNames_cut hparameters hcolon hparts hlength
  refine ⟨name, label, heq, ?_, ?_, hcut.append_eq_word, hplace, isValid_cutPlace word,
    hcut.exists_capital, ?_⟩
  · exact mt String.toList_eq_nil_iff.mpr hcut.name_ne_nil
  · exact mt String.toList_eq_nil_iff.mpr hcut.label_ne_nil
  · rw [← String.length_toList]
    exact hcut.name_eq_take

/-- A word whose only capital comes first is cut in the middle. The middle of five letters is after
the second one, and these two letters have three bytes. -/
theorem first_part_cut_middle :
    ∃ panel, TypeDeclaration.ofQualifiedName "ui.Panel" = .ok panel ∧
      let resize := { MethodDescriptor.ofName panel "resize" with
        interopSelector? := some "Übung:an:"
        parameters := [⟨"size", .primitive .int⟩] }
      ∃ name label, methodNames .default resize = .ok (some ⟨some name, [label, "an"]⟩) ∧
        name ++ label = "Übung" ∧ name.toList = ['Ü', 'b'] ∧ cutPlace "Übung" = 3 := by
  refine ⟨_, rfl, ?_⟩
  intro resize
  obtain ⟨names, hnames⟩ : ∃ names, methodNames .default resize = .ok (some names) := ⟨_, rfl⟩
  have hparts : HasParts "Übung:an:" ["Übung", "an"] := ⟨by decide, by decide, Or.inl rfl⟩
  obtain ⟨name, label, heq, -, -, hword, hplace, -, -, hmiddle⟩ :=
    (first_part_cut hnames rfl (List.cons_ne_nil _ _) rfl (by decide) hparts).2 (by decide)
  have hnone : "Übung".toList.tail.all (isUppercase · == false) = true := by decide
  have hname : name.toList = ['Ü', 'b'] :=
    hmiddle fun c hc => beq_iff_eq.mp (List.all_eq_true.mp hnone c hc)
  refine ⟨name, label, heq ▸ hnames, hword, hname, ?_⟩
  rw [← hplace, Text.utf8ByteSize_eq_sum, hname]
  decide

end Nomenclator.Interop
