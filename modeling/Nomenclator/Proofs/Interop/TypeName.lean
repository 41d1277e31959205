import Mathlib.Tactic
import Nomenclator.Interop.TypeName
import Nomenclator.Proofs.Identifier.Path

/-!
# Names of types along the enclosing chain

A type has a fixed name when one is attached to it or its qualified name is well known. Read from
the inside out, the chain of a type either comes to such a type, or it does not. In the first case
the name begins with that fixed name, and nothing further out has a part in it
(`typeName_of_chain_eq`). In the second case it begins as the attached prefix or the package of the
outermost type says (`typeName_of_unfixed`). After that each type further in adds an underscore and
its own segment.

The result for both cases also says what a name does not depend on (`typeName_along_chain`).
-/

namespace Nomenclator

/-! ### Packages below a reserved root -/

namespace Settings

variable {settings : Settings} {package : String}

/-- A package lies below a reserved root when it is that root, a dot and more text. A root is one
segment. -/
def IsBelowReservedRoot (settings : Settings) (package : String) : Prop :=
  ∃ root ∈ settings.reservedPackageRoots, '.' ∉ root.toList ∧
    ∃ inner, package = root ++ "." ++ inner

/-- **The packages that get the namespace are those below a reserved root.** -/
theorem isReservedPackage_iff :
    settings.isReservedPackage package = true ↔ settings.IsBelowReservedRoot package := by
  constructor
  · intro h
    rw [isReservedPackage] at h
    split at h
    · rename_i root next others hsegments
      have hroot : root ∈ DottedName.segments package := hsegments ▸ List.mem_cons_self
      refine ⟨root, List.contains_iff_mem.mp h, ?_, DottedName.ofSegments (next :: others), ?_⟩
      · exact fun hdot => (DottedName.mem_and_ne_dot_of_mem_segments hroot hdot).2 rfl
      · rw [← DottedName.ofSegments_segments package, hsegments]
        exact String.intercalate_cons_of_ne_nil (List.cons_ne_nil _ _)
    · cases h
  · rintro ⟨root, hroot, hdot, inner, rfl⟩
    obtain ⟨next, others, hinner⟩ :=
      List.exists_cons_of_ne_nil (DottedName.segments_ne_nil inner)
    have hsegments : DottedName.segments (root ++ "." ++ inner) = root :: next :: others := by
      have hlist : (root ++ "." ++ inner).toList = root.toList ++ '.' :: inner.toList := by
        simp
      rw [← hinner, DottedName.segments, hlist, List.splitOn_append_cons_self,
        List.splitOn_eq_singleton hdot]
      simp [DottedName.segments]
    rw [isReservedPackage, hsegments]
    exact List.contains_iff_mem.mpr hroot

instance (settings : Settings) (package : String) :
    Decidable (settings.IsBelowReservedRoot package) :=
  decidable_of_iff _ isReservedPackage_iff

end Settings

namespace TypeDeclaration

theorem chain_ne_nil (declaration : TypeDeclaration) : declaration.chain ≠ [] := by
  cases declaration <;> exact List.cons_ne_nil _ _

/-- A chain ends with an outermost type. -/
theorem exists_chain_eq_append (declaration : TypeDeclaration) :
    ∃ inner outermost, declaration.chain = inner ++ [outermost] :=
  ⟨_, _, (List.dropLast_append_getLast declaration.chain_ne_nil).symm⟩

end TypeDeclaration

namespace Interop

variable {settings : Settings} {forMember : Bool} {traits base outermost : TypeTraits}
  {inner outer : List TypeTraits} {declaration enclosing other : TypeDeclaration} {name : String}

/-! ### Fixed names -/

/-- The name that a type has whatever surrounds it: the attached one, and otherwise the well-known
one. -/
inductive HasFixedName (settings : Settings) (traits : TypeTraits) : String → Prop
  | attached {name : String} (h : traits.interopName? = some name) :
      HasFixedName settings traits name
  | wellKnown {name : String} (hnone : traits.interopName? = none)
      (h : settings.wellKnownName? traits.qualifiedName.spelling = some name) :
      HasFixedName settings traits name

/-- A type has neither an attached name nor a well-known one. -/
structure IsUnfixed (settings : Settings) (traits : TypeTraits) : Prop where
  interopName?_eq_none : traits.interopName? = none
  wellKnownName?_eq_none : settings.wellKnownName? traits.qualifiedName.spelling = none

theorem HasFixedName.fixedName?_eq (h : HasFixedName settings traits name) :
    fixedName? settings traits = some name := by
  cases h with
  | attached h => rw [fixedName?, h]
  | wellKnown hnone h => rw [fixedName?, hnone, h]

theorem fixedName?_eq_none_iff : fixedName? settings traits = none ↔ IsUnfixed settings traits := by
  rw [fixedName?]
  constructor
  · intro h
    split at h
    · cases h
    · rename_i hnone
      exact ⟨hnone, h⟩
  · rintro ⟨hnone, h⟩
    rw [hnone, h]

instance (settings : Settings) (traits : TypeTraits) : Decidable (IsUnfixed settings traits) :=
  decidable_of_iff _ fixedName?_eq_none_iff

theorem exists_hasFixedName (h : ¬IsUnfixed settings traits) :
    ∃ name, HasFixedName settings traits name := by
  cases hattached : traits.interopName? with
  | some name => exact ⟨name, .attached hattached⟩
  | none =>
    obtain ⟨name, hname⟩ := Option.ne_none_iff_exists'.mp fun hnone => h ⟨hattached, hnone⟩
    exact ⟨name, .wellKnown hattached hname⟩

/-- Where not all types lack a fixed name, there is a first one that has one. -/
theorem exists_first_fixed {chain : List TypeTraits}
    (h : ¬∀ traits ∈ chain, IsUnfixed settings traits) :
    ∃ inner base outer name, chain = inner ++ base :: outer ∧
      (∀ traits ∈ inner, IsUnfixed settings traits) ∧ HasFixedName settings base name := by
  induction chain with
  | nil => exact absurd (List.forall_mem_nil _) h
  | cons first rest ih =>
    by_cases hfirst : IsUnfixed settings first
    · obtain ⟨inner, base, outer, name, rfl, hinner, hbase⟩ :=
        ih fun hrest => h (List.forall_mem_cons.mpr ⟨hfirst, hrest⟩)
      exact ⟨first :: inner, base, outer, name, rfl, List.forall_mem_cons.mpr ⟨hfirst, hinner⟩,
        hbase⟩
    · obtain ⟨name, hname⟩ := exists_hasFixedName hfirst
      exact ⟨[], first, rest, name, rfl, List.forall_mem_nil _, hname⟩

/-- A type with a fixed name has no other. -/
theorem typeName_of_hasFixedName (h : HasFixedName settings declaration.traits name) :
    typeName settings forMember declaration = name := by
  have hfixed := h.fixedName?_eq
  cases declaration with
  | topLevel traits =>
    rw [TypeDeclaration.traits] at hfixed
    rw [typeName, hfixed]
  | nested traits enclosing =>
    rw [TypeDeclaration.traits] at hfixed
    rw [typeName, hfixed]

theorem typeName_topLevel (h : IsUnfixed settings traits) :
    typeName settings forMember (.topLevel traits) =
      topLevelPart settings forMember traits ++ nameSegment traits.simpleSourceName := by
  rw [typeName, fixedName?_eq_none_iff.mpr h]

theorem typeName_nested (h : IsUnfixed settings traits) :
    typeName settings forMember (.nested traits enclosing) =
      typeName settings forMember enclosing ++ "_" ++ nameSegment traits.simpleSourceName := by
  rw [typeName, fixedName?_eq_none_iff.mpr h]

/-! ### Where a name begins -/

/-- How the name of a top-level type without a fixed name begins: with the attached prefix, or with
the segments of its package, if it has one. Outside members the reserved namespace comes in front of
a package below a reserved root. -/
inductive HasStart (settings : Settings) (forMember : Bool) (traits : TypeTraits) : String → Prop
  | attached {start : String} (h : traits.interopNamePrefix? = some start) :
      HasStart settings forMember traits start
  | reservedPackage {package : String} (hunmarked : traits.interopNamePrefix? = none)
      (hpackage : traits.package? = some package) (hmember : forMember = false)
      (hreserved : settings.IsBelowReservedRoot package) :
      HasStart settings forMember traits (String.join
        ((settings.reservedRootNamespace :: DottedName.segments package).map nameSegment))
  | plainPackage {package : String} (hunmarked : traits.interopNamePrefix? = none)
      (hpackage : traits.package? = some package)
      (hplain : forMember = true ∨ ¬settings.IsBelowReservedRoot package) :
      HasStart settings forMember traits
        (String.join ((DottedName.segments package).map nameSegment))
  | defaultPackage (hunmarked : traits.interopNamePrefix? = none) (hpackage : traits.package? = none) :
      HasStart settings forMember traits ""

theorem packageSegments_of_reserved {package : String}
    (hreserved : settings.IsBelowReservedRoot package) :
    packageSegments settings false package =
      settings.reservedRootNamespace :: DottedName.segments package := by
  rw [packageSegments, Settings.isReservedPackage_iff.mpr hreserved]
  rfl

theorem packageSegments_of_plain {package : String}
    (hplain : forMember = true ∨ ¬settings.IsBelowReservedRoot package) :
    packageSegments settings forMember package = DottedName.segments package := by
  refine if_neg fun h => ?_
  obtain ⟨hmember, hreserved⟩ := Bool.and_eq_true_iff.mp h
  rcases hplain with rfl | hplain
  · cases hmember
  · exact hplain (Settings.isReservedPackage_iff.mp hreserved)

/-- The name of a top-level type begins as it should. -/
theorem hasStart_topLevelPart (settings : Settings) (forMember : Bool) (traits : TypeTraits) :
    HasStart settings forMember traits (topLevelPart settings forMember traits) := by
  rw [topLevelPart]
  split
  · rename_i start hunmarked
    exact .attached hunmarked
  · rename_i hunmarked
    split
    · rename_i package hpackage
      rw [packagePart]
      by_cases hreserved : forMember = false ∧ settings.IsBelowReservedRoot package
      · obtain ⟨rfl, hreserved⟩ := hreserved
        rw [packageSegments_of_reserved hreserved]
        exact .reservedPackage hunmarked hpackage rfl hreserved
      · have hplain : forMember = true ∨ ¬settings.IsBelowReservedRoot package := by
          rwa [not_and_or, Bool.not_eq_false] at hreserved
        rw [packageSegments_of_plain hplain]
        exact .plainPackage hunmarked hpackage hplain
    · rename_i hpackage
      exact .defaultPackage hunmarked hpackage

/-! ### Names along the chain -/

/-- What the given types, from the inside out, add to the name of the type around them. -/
def nestedParts (inner : List TypeTraits) : String :=
  String.join (inner.reverse.map fun traits => "_" ++ nameSegment traits.simpleSourceName)

theorem nestedParts_cons (traits : TypeTraits) (inner : List TypeTraits) :
    nestedParts (traits :: inner) =
      nestedParts inner ++ "_" ++ nameSegment traits.simpleSourceName := by
  simp [nestedParts, String.append_assoc]

/-- As long as no type has a fixed name, a type adds its part to the name of the type around it. -/
theorem exists_typeName_eq_append (hchain : declaration.chain = inner ++ base :: outer)
    (hinner : ∀ traits ∈ inner, IsUnfixed settings traits) :
    ∃ enclosing : TypeDeclaration, enclosing.chain = base :: outer ∧
      typeName settings forMember declaration =
        typeName settings forMember enclosing ++ nestedParts inner := by
  induction inner generalizing declaration with
  | nil => exact ⟨declaration, hchain, String.append_empty.symm⟩
  | cons first inner ih =>
    obtain ⟨hfirst, hrest⟩ := List.forall_mem_cons.mp hinner
    cases declaration with
    | topLevel => cases inner <;> cases hchain
    | nested traits around =>
      obtain ⟨rfl, haround⟩ := List.cons.inj hchain
      obtain ⟨enclosing, henclosing, hname⟩ := ih haround hrest
      refine ⟨enclosing, henclosing, ?_⟩
      rw [typeName_nested hfirst, hname, nestedParts_cons]
      simp only [String.append_assoc]

/-- **The first fixed name on the way out is where the name begins.** -/
theorem typeName_of_chain_eq (hchain : declaration.chain = inner ++ base :: outer)
    (hinner : ∀ traits ∈ inner, IsUnfixed settings traits)
    (hbase : HasFixedName settings base name) :
    typeName settings forMember declaration = name ++ nestedParts inner := by
  obtain ⟨enclosing, henclosing, hname⟩ := exists_typeName_eq_append hchain hinner
  have htraits : enclosing.traits = base := by
    cases enclosing <;> exact (List.cons.inj henclosing).1
  rw [hname, typeName_of_hasFixedName (htraits ▸ hbase)]

/-- **Without a fixed name the outermost type is where the name begins.** -/
theorem typeName_of_unfixed (hchain : declaration.chain = inner ++ [outermost])
    (hunfixed : ∀ traits ∈ inner ++ [outermost], IsUnfixed settings traits) :
    typeName settings forMember declaration =
      topLevelPart settings forMember outermost ++ nameSegment outermost.simpleSourceName ++
        nestedParts inner := by
  obtain ⟨hinner, houtermost⟩ := List.forall_mem_append.mp hunfixed
  obtain ⟨enclosing, henclosing, hname⟩ := exists_typeName_eq_append hchain hinner
  rw [hname]
  cases enclosing with
  | topLevel traits =>
    obtain ⟨rfl, -⟩ := List.cons.inj henclosing
    rw [typeName_topLevel (houtermost _ List.mem_cons_self)]
  | nested traits around =>
    exact absurd (List.cons.inj henclosing).2 around.chain_ne_nil

/-! ### What names do not depend on -/

/-- Two declarations are alike up to what names do not depend on: whether types can be seen and
whether they are local, and for nested types also their packages and attached prefixes. -/
inductive AlikeForNames : TypeDeclaration → TypeDeclaration → Prop
  | topLevel (traits : TypeTraits) (visibility : Visibility) (isLocal : Bool) :
      AlikeForNames (.topLevel traits) (.topLevel { traits with visibility, isLocal })
  | nested {enclosing other : TypeDeclaration} (traits : TypeTraits) (visibility : Visibility)
      (isLocal : Bool) (package? interopNamePrefix? : Option String)
      (henclosing : AlikeForNames enclosing other) :
      AlikeForNames (.nested traits enclosing)
        (.nested { traits with visibility, isLocal, package?, interopNamePrefix? } other)

/-- **Declarations that are alike have the same name.** -/
theorem AlikeForNames.typeName_eq (h : AlikeForNames declaration other) :
    typeName settings forMember other = typeName settings forMember declaration := by
  induction h with
  | topLevel traits visibility isLocal => rfl
  | nested traits visibility isLocal package? interopNamePrefix? henclosing ih =>
    rw [typeName, typeName, ih]
    rfl

/-- **The name of a type, from the outside in.** If a type on the enclosing chain has a fixed name,
then the first one on the way out gives the beginning of the name, whatever is outside it.
Otherwise the beginning comes from the prefix or the package of the outermost type. After the
beginning each further type inwards adds an underscore and its simple name in title case. Nothing
else about the types on the chain has a part in the name. -/
theorem typeName_along_chain (settings : Settings) (forMember : Bool)
    (declaration : TypeDeclaration) :
    (∀ inner base outer name, declaration.chain = inner ++ base :: outer →
      (∀ traits ∈ inner, IsUnfixed settings traits) → HasFixedName settings base name →
      typeName settings forMember declaration = name ++ nestedParts inner) ∧
    (∀ inner outermost, declaration.chain = inner ++ [outermost] →
      (∀ traits ∈ inner ++ [outermost], IsUnfixed settings traits) →
      ∃ start, HasStart settings forMember outermost start ∧
        typeName settings forMember declaration =
          start ++ nameSegment outermost.simpleSourceName ++ nestedParts inner) ∧
    ∀ other, AlikeForNames declaration other →
      typeName settings forMember other = typeName settings forMember declaration := by
  refine ⟨fun inner base outer name => typeName_of_chain_eq, ?_,
    fun other => AlikeForNames.typeName_eq⟩
  intro inner outermost hchain hunfixed
  exact ⟨_, hasStart_topLevelPart settings forMember outermost,
    typeName_of_unfixed hchain hunfixed⟩

/-- A well-known type two levels out, and a chain of two types without fixed names. An attached
prefix in the middle of a chain is not seen. -/
theorem typeName_along_chain_entries :
    ∃ number cache entry map mapEntry,
      TypeDeclaration.ofQualifiedName "java.lang.Number" = .ok number ∧
      number.member "Cache" = .ok cache ∧
      (cache.withInteropNamePrefix "X").member "ent$ry" = .ok entry ∧
      typeName .default true entry = "NSNumber" ++ "_Cache_Ent_ry" ∧
      TypeDeclaration.ofQualifiedName "java.util.Map" = .ok map ∧
      map.member "Entry" = .ok mapEntry ∧
      (∃ start, HasStart .default false map.traits start ∧
        typeName .default false mapEntry =
          start ++ nameSegment map.traits.simpleSourceName ++ nestedParts [mapEntry.traits]) ∧
      typeName .default false (mapEntry.withInteropNamePrefix "X") =
        typeName .default false mapEntry := by
  refine ⟨_, _, _, _, _, rfl, rfl, rfl, ?_, rfl, rfl, ?_, ?_⟩
  · refine ((typeName_along_chain _ _ _).1 [_, _] _ [] "NSNumber" rfl ?_ ?_).trans ?_
    · decide
    · exact .wellKnown rfl rfl
    · decide
  · refine (typeName_along_chain _ _ _).2.1 [_] _ rfl ?_
    decide
  · exact (typeName_along_chain _ _ _).2.2 _ (.nested _ _ _ _ _ (.topLevel _ _ _))

end Interop

end Nomenclator
