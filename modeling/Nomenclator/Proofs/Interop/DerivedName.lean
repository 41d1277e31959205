import Nomenclator.Proofs.Interop.FieldClash
import Nomenclator.Proofs.Interop.TypeName
import Nomenclator.Proofs.Interop.ValueName
import Nomenclator.Proofs.Text.Casing

/-!
# Derived names in title case

The parts of a type's name are put into title case and then lose their dollar signs. A field loses
its dollar signs first. The order does not matter (`dollarFree_titleCase`), since a dollar sign has
no capital form and is in that of no other character, and an underscore has none either.

A part that is in title case stays as it is when the whole name is put into title case, because
title case is reached in one step. So a name is in title case when its beginning is. That beginning
may be a fixed name or an attached prefix, which can be anything; everything else is derived
(`titleCase_typeName_iff`). Title case of a parameter's name is therefore a matter of the core of
its type, and the suffixes of arrays have no part in it (`parameterName_of_hasCoreName`).
-/

namespace Nomenclator.Interop

open Text (titleCase titleCase_append titleCase_append_eq_self_iff titleCase_eq_self_iff
  titleCase_join titleCase_replaceChar titleCase_titleCase uppercase_of_latin)

variable {settings : Settings} {forMember : Bool} {location : Location} {parameter : Variable}
  {traits : TypeTraits} {declaration : TypeDeclaration} {base name : String}

/-! ### Parts of names -/

/-- An underscore and a part behind it are in title case. -/
theorem titleCase_underscore_append (part : String) : titleCase ("_" ++ part) = "_" ++ part := by
  have hunderscore : Unicode.uppercase '_' = ['_'] := uppercase_of_latin (by decide)
  rw [titleCase_eq_self_iff, String.toList_append]
  rintro c ⟨⟩
  exact hunderscore

/-- **Title case and the loss of dollar signs may change places.** -/
theorem dollarFree_titleCase (name : String) :
    dollarFree (titleCase name) = titleCase (dollarFree name) := by
  have hunderscore : titleCase "_" = "_" := titleCase_underscore_append ""
  exact (titleCase_replaceChar (by decide) (by decide) hunderscore name).symm

theorem nameSegment_eq (name : String) : nameSegment name = titleCase (dollarFree name) :=
  dollarFree_titleCase name

theorem titleCase_nameSegment (name : String) :
    titleCase (nameSegment name) = nameSegment name := by
  rw [nameSegment_eq, titleCase_titleCase]

theorem titleCase_packagePart (settings : Settings) (forMember : Bool) (package : String) :
    titleCase (packagePart settings forMember package) =
      packagePart settings forMember package := by
  refine titleCase_join fun part hpart => ?_
  obtain ⟨segment, -, rfl⟩ := List.mem_map.mp hpart
  exact titleCase_nameSegment segment

/-- The beginning of the name of a top-level type is in title case if an attached prefix is. -/
theorem titleCase_topLevelPart_iff :
    titleCase (topLevelPart settings forMember traits) = topLevelPart settings forMember traits ↔
      ∀ start ∈ traits.interopNamePrefix?, titleCase start = start := by
  rw [topLevelPart]
  cases traits.interopNamePrefix? with
  | some start => simp
  | none =>
    refine iff_of_true ?_ (by simp)
    cases traits.package? with
    | some package => exact titleCase_packagePart settings forMember package
    | none => rfl

/-! ### Names of types -/

/-- What begins the name of a type without being derived is in title case: the first fixed name on
the way out, or else a prefix that is attached to the outermost type. -/
inductive BeginsInTitleCase (settings : Settings) : TypeDeclaration → Prop
  | fixed {declaration : TypeDeclaration} {name : String}
      (hname : HasFixedName settings declaration.traits name) (htitle : titleCase name = name) :
      BeginsInTitleCase settings declaration
  | topLevel {traits : TypeTraits} (hunfixed : IsUnfixed settings traits)
      (hstart : ∀ start ∈ traits.interopNamePrefix?, titleCase start = start) :
      BeginsInTitleCase settings (.topLevel traits)
  | nested {traits : TypeTraits} {enclosing : TypeDeclaration}
      (hunfixed : IsUnfixed settings traits) (henclosing : BeginsInTitleCase settings enclosing) :
      BeginsInTitleCase settings (.nested traits enclosing)

theorem HasFixedName.not_isUnfixed (h : HasFixedName settings traits name) :
    ¬IsUnfixed settings traits := by
  intro hunfixed
  cases h.fixedName?_eq.symm.trans (fixedName?_eq_none_iff.mpr hunfixed)

theorem beginsInTitleCase_topLevel_iff (h : IsUnfixed settings traits) :
    BeginsInTitleCase settings (.topLevel traits) ↔
      ∀ start ∈ traits.interopNamePrefix?, titleCase start = start := by
  constructor
  · rintro (⟨hname, -⟩ | ⟨-, hstart⟩)
    · exact absurd h hname.not_isUnfixed
    · exact hstart
  · exact .topLevel h

theorem beginsInTitleCase_nested_iff (h : IsUnfixed settings traits) :
    BeginsInTitleCase settings (.nested traits declaration) ↔
      BeginsInTitleCase settings declaration := by
  constructor
  · rintro (⟨hname, -⟩ | - | ⟨-, henclosing⟩)
    · exact absurd h hname.not_isUnfixed
    · exact henclosing
  · exact .nested h

theorem titleCase_typeName_iff_of_hasFixedName
    (h : HasFixedName settings declaration.traits name) :
    titleCase (typeName settings forMember declaration) = typeName settings forMember declaration ↔
      BeginsInTitleCase settings declaration := by
  rw [typeName_of_hasFixedName h]
  constructor
  · exact .fixed h
  · rintro (⟨hname, htitle⟩ | ⟨hunfixed, -⟩ | ⟨hunfixed, -⟩)
    · obtain rfl := Option.some_inj.mp (hname.fixedName?_eq.symm.trans h.fixedName?_eq)
      exact htitle
    · exact absurd hunfixed h.not_isUnfixed
    · exact absurd hunfixed h.not_isUnfixed

/-- **The name of a type is in title case when its beginning is.** -/
theorem titleCase_typeName_iff :
    titleCase (typeName settings forMember declaration) = typeName settings forMember declaration ↔
      BeginsInTitleCase settings declaration := by
  induction declaration with
  | topLevel traits =>
    by_cases hunfixed : IsUnfixed settings traits
    · rw [typeName_topLevel hunfixed, titleCase_append_eq_self_iff (titleCase_nameSegment _),
        titleCase_topLevelPart_iff, beginsInTitleCase_topLevel_iff hunfixed]
    · obtain ⟨name, hname⟩ := exists_hasFixedName hunfixed
      exact titleCase_typeName_iff_of_hasFixedName hname
  | nested traits enclosing ih =>
    by_cases hunfixed : IsUnfixed settings traits
    · -- what the nested type adds is in title case, whatever its simple name is
      rw [typeName_nested hunfixed, String.append_assoc,
        titleCase_append_eq_self_iff (titleCase_underscore_append _), ih,
        beginsInTitleCase_nested_iff hunfixed]
    · obtain ⟨name, hname⟩ := exists_hasFixedName hunfixed
      exact titleCase_typeName_iff_of_hasFixedName hname

/-! ### Names of parameters -/

theorem titleCase_arraySuffix (dimensions : ℕ) :
    titleCase (arraySuffix dimensions) = arraySuffix dimensions := by
  have hcapital : Unicode.uppercase 'A' = ['A'] := uppercase_of_latin (by decide)
  rw [titleCase_eq_self_iff, arraySuffix, String.toList_append]
  rintro c ⟨⟩
  exact hcapital

theorem titleCase_arraySuffixes (type : TypeDescriptor) :
    titleCase (arraySuffixes type) = arraySuffixes type := by
  refine titleCase_join fun suffix hsuffix => ?_
  obtain ⟨dimensions, -, rfl⟩ := List.mem_map.mp hsuffix
  exact titleCase_arraySuffix dimensions.toNat

theorem parameterName_of_descriptorName
    (h : descriptorName settings true (location.inParameter parameter.name) true parameter.type =
      .ok name) :
    parameterName settings location parameter = .ok (titleCase name) := by
  rw [parameterName, h]
  rfl

/-- **The name of a parameter is that of its core in title case and then the suffixes.** -/
theorem parameterName_of_hasCoreName
    (h : HasCoreName settings true parameter.type.arrayDimensions.isEmpty
      parameter.type.core base) :
    parameterName settings location parameter =
      .ok (titleCase base ++ arraySuffixes parameter.type) := by
  rw [parameterName_of_descriptorName (descriptorName_of_hasCoreName h),
    titleCase_append (titleCase_arraySuffixes _)]

/-- A name that is in title case is also the name of the parameter, and no other name is. -/
theorem parameterName_eq_iff
    (h : descriptorName settings true (location.inParameter parameter.name) true parameter.type =
      .ok name) :
    parameterName settings location parameter = .ok name ↔ titleCase name = name := by
  rw [parameterName_of_descriptorName h, Except.ok.injEq]

/-- A parameter is named like its type if the core is a declared type that is not named `id` and
whose name begins in title case. -/
theorem exists_parameterName_eq (hcore : parameter.type.core = .declared declaration)
    (hroot : ¬(parameter.type.arrayDimensions = [] ∧
      declaration.qualifiedName.spelling = "java.lang.Object"))
    (hbegins : BeginsInTitleCase settings declaration) :
    ∃ name, descriptorName settings true (location.inParameter parameter.name) true
        parameter.type = .ok name ∧
      parameterName settings location parameter = .ok name := by
  have hname : HasCoreName settings true parameter.type.arrayDimensions.isEmpty
      parameter.type.core (typeName settings true declaration) := by
    rw [hcore]
    refine .declared fun h => hroot ⟨?_, h.2⟩
    exact List.isEmpty_iff.mp h.1
  refine ⟨_, descriptorName_of_hasCoreName hname, ?_⟩
  rw [parameterName_of_hasCoreName hname, titleCase_typeName_iff.mpr hbegins]

/-! ### All names -/

/-- **Title case is reached in one step, before or after dollar signs are replaced.** So a name is
the same as a part of a type's name and behind the filler of a field, although types and fields take
the two steps in opposite order. The name of a type is in title case already, unless it begins with
something attached or well known that is not. A parameter is named like its type where that name is
in title case. That is so for every declared type whose name begins in title case, and for arrays of
it, unless the type is named `id`. -/
theorem title_case_once_in_any_order :
    (∀ name, titleCase (titleCase name) = titleCase name) ∧
    (∀ name, dollarFree (titleCase name) = titleCase (dollarFree name)) ∧
    (∀ name, nameSegment name = titleCase (dollarFree name) ∧
      (hasOwnershipWord (dollarFree name) = true →
        fieldName name = fieldFiller ++ nameSegment name)) ∧
    (∀ settings forMember declaration,
      titleCase (typeName settings forMember declaration) =
        typeName settings forMember declaration ↔ BeginsInTitleCase settings declaration) ∧
    ∀ settings location parameter,
      (∀ name, descriptorName settings true (location.inParameter parameter.name) true
          parameter.type = .ok name →
        (parameterName settings location parameter = .ok name ↔ titleCase name = name)) ∧
      ∀ declaration, parameter.type.core = .declared declaration →
        ¬(parameter.type.arrayDimensions = [] ∧
          declaration.qualifiedName.spelling = "java.lang.Object") →
        BeginsInTitleCase settings declaration →
        ∃ name, descriptorName settings true (location.inParameter parameter.name) true
            parameter.type = .ok name ∧
          parameterName settings location parameter = .ok name := by
  refine ⟨titleCase_titleCase, dollarFree_titleCase, fun name => ⟨nameSegment_eq name, ?_⟩,
    fun settings forMember declaration => titleCase_typeName_iff, fun settings location parameter =>
      ⟨fun name => parameterName_eq_iff, fun declaration => exists_parameterName_eq⟩⟩
  intro hword
  rw [fieldName_of_hasOwnershipWord hword, nameSegment_eq]

/-- A field that gets the filler, a parameter of a primitive type, and one whose type is an array of
a nested type. -/
theorem title_case_once_in_any_order_entries :
    hasOwnershipWord (dollarFree "new$id") = true ∧
    fieldName "new$id" = "the" ++ nameSegment "new$id" ∧
    (parameterName .default .unknown ⟨"count", .primitive .int⟩ = .ok "int" ↔
      titleCase "int" = "int") ∧
    ∃ map entry, TypeDeclaration.ofQualifiedName "java.util.map" = .ok map ∧
      map.member "$entry" = .ok entry ∧ BeginsInTitleCase .default entry ∧
      ∃ name, descriptorName .default true (Location.unknown.inParameter "entries") true
          (.array (.declared entry) 1) = .ok name ∧
        parameterName .default .unknown ⟨"entries", .array (.declared entry) 1⟩ = .ok name := by
  have hword : hasOwnershipWord (dollarFree "new$id") = true := by decide
  obtain ⟨-, -, hfields, -, hparameters⟩ := title_case_once_in_any_order
  refine ⟨hword, (hfields "new$id").2 hword, (hparameters .default .unknown _).1 "int" rfl, ?_⟩
  have hstart : ∀ start ∈ (none : Option String), titleCase start = start := by simp
  refine ⟨_, _, rfl, rfl, (and_iff_left_of_imp fun hbegins => ?_).mpr ?_⟩
  · refine (hparameters .default .unknown ⟨"entries", .array (.declared _) 1⟩).2 _ rfl ?_ hbegins
    rintro ⟨harrays, -⟩
    cases harrays
  · exact .nested (by decide) (.topLevel (by decide) hstart)

end Nomenclator.Interop
