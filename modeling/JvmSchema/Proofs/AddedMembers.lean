import JvmSchema.Proofs.MemberOrder

/-!
# Adding to the description of a type

A description grows by additions one after the other: that the type is an enumeration, a
constructor, a method. Members are added at the end, so the method that decides on a factory stays
the first of its kind (`declaresFactory_addMethod`), and no addition takes away a ground on which
the type can be made from a string (`madeFromString_add`).

Additions of different sorts do not disturb one another: what comes of them depends on the added
constructors in their order, the added methods in theirs, and on whether the type is made an
enumeration (`addAll_eq`). `kind_addAll_of_string` has both facts, for a description and for a table
in which the larger description takes the place of the smaller one.
-/

set_option autoImplicit false
set_option relaxedAutoImplicit false

namespace JvmSchema

/-- Something that is added to the description of a type. -/
inductive Addition
  | enumeration
  | constructor (constructor : Constructor)
  | method (method : Method)
  deriving DecidableEq, Repr

namespace Addition

/-- The constructor that is added, if it is one. -/
def constructor? : Addition → Option Constructor
  | .constructor added => some added
  | .enumeration => none
  | .method _ => none

/-- The method that is added, if it is one. -/
def method? : Addition → Option Method
  | .method added => some added
  | .enumeration => none
  | .constructor _ => none

end Addition

namespace TypeInfo

variable {info : TypeInfo} {known : Identities} {name : String} {string : Descriptor}

/-- The description after one addition. -/
def add (info : TypeInfo) : Addition → TypeInfo
  | .enumeration => info.asEnum
  | .constructor constructor => info.addConstructor constructor
  | .method method => info.addMethod method

/-- The description after additions one after the other. -/
def addAll (info : TypeInfo) (additions : List Addition) : TypeInfo :=
  additions.foldl add info

/-! ### What is described in the end -/

/-- Members are listed after those that were there before, in the order in which they are added. -/
theorem addAll_eq (info : TypeInfo) (additions : List Addition) :
    info.addAll additions =
      { descriptor := info.descriptor
        isEnum := info.isEnum || additions.contains .enumeration
        constructors := info.constructors ++ additions.filterMap Addition.constructor?
        methods := info.methods ++ additions.filterMap Addition.method? } := by
  induction additions generalizing info with
  | nil => simp [addAll]
  | cons addition rest ih =>
    change (info.add addition).addAll rest = _
    rw [ih, List.filterMap_cons, List.filterMap_cons]
    cases addition with
    | enumeration => simp [add, asEnum, Addition.constructor?, Addition.method?]
    | constructor constructor =>
      simp [add, addConstructor, Addition.constructor?, Addition.method?]
    | method method => simp [add, addMethod, Addition.constructor?, Addition.method?]

theorem isEnum_addAll_iff {additions : List Addition} :
    (info.addAll additions).isEnum ↔ info.isEnum ∨ .enumeration ∈ additions := by
  rw [addAll_eq, Bool.or_eq_true, List.contains_iff_mem]

/-- Additions that differ only in how those of different sorts alternate, or in how often the type
is made an enumeration, describe the same type. -/
theorem addAll_congr {additions additions' : List Addition}
    (hconstructors : additions'.filterMap Addition.constructor? =
      additions.filterMap Addition.constructor?)
    (hmethods : additions'.filterMap Addition.method? = additions.filterMap Addition.method?)
    (henum : .enumeration ∈ additions' ↔ .enumeration ∈ additions) :
    info.addAll additions' = info.addAll additions := by
  have hcontains : additions'.contains .enumeration = additions.contains .enumeration := by
    rw [Bool.eq_iff_iff, List.contains_iff_mem, List.contains_iff_mem, henum]
  rw [addAll_eq, addAll_eq, hconstructors, hmethods, hcontains]

/-! ### Grounds that stay -/

/-- The first of the methods `name(string)` is still the first one when a method is added. -/
theorem declaresFactory_addMethod (h : info.DeclaresFactory name string) (method : Method) :
    (info.addMethod method).DeclaresFactory name string := by
  obtain ⟨found, hfound, hstatic⟩ := find?_of_declaresFactory h
  refine declaresFactory_of_find? ?_ hstatic
  rw [addMethod, List.find?_append, hfound, Option.some_or]

/-- An addition leaves a type that can be made from a string one that can. -/
theorem madeFromString_add (h : info.MadeFromString string) (addition : Addition) :
    (info.add addition).MadeFromString string := by
  cases addition with
  | enumeration => exact .inl rfl
  | constructor constructor =>
    rcases h with henum | ⟨found, hmem, hfound⟩ | hfactory
    · exact .inl henum
    · exact .inr (.inl ⟨found, List.mem_append_left _ hmem, hfound⟩)
    · exact .inr (.inr hfactory)
  | method method =>
    rcases h with henum | hconstructor | ⟨name, hname, hfactory⟩
    · exact .inl henum
    · exact .inr (.inl hconstructor)
    · exact .inr (.inr ⟨name, hname, declaresFactory_addMethod hfactory method⟩)

theorem madeFromString_addAll (h : info.MadeFromString string) (additions : List Addition) :
    (info.addAll additions).MadeFromString string := by
  induction additions generalizing info with
  | nil => exact h
  | cons addition rest ih => exact ih (madeFromString_add h addition)

theorem resolvedKind_eq_string_iff :
    info.resolvedKind known = .string ↔ info.MadeFromString known.string := by
  rw [resolvedKind_eq, ← fromString_iff]
  cases info.fromString known.string <;> simp [Kind.ofFromString]

theorem resolvedKind_addAll_of_string (h : info.resolvedKind known = .string)
    (additions : List Addition) : (info.addAll additions).resolvedKind known = .string := by
  rw [resolvedKind_eq_string_iff] at h ⊢
  exact madeFromString_addAll h additions

end TypeInfo

/-! ### The larger description in a table -/

namespace TypeTable

theorem kind_of_get? {table : TypeTable} {known : Identities} {descriptor : Descriptor}
    {info : TypeInfo} (hknown : known.kind? descriptor = none)
    (h : table.get? descriptor = some info) :
    (Id.run (table.resolver.classify known descriptor)).kind = info.resolvedKind known := by
  rw [run_classify, hknown, h, TypeInfo.resolvedKind_eq]
  rfl

/-- A description takes the place of another one for the same type. It takes the string kind from no
descriptor if it takes it from the type. -/
theorem kind_insert_of_string {table : TypeTable} {known : Identities} {info larger : TypeInfo}
    (hget : table.get? info.descriptor = some info)
    (hdescriptor : larger.descriptor = info.descriptor)
    (hlarger : info.resolvedKind known = .string → larger.resolvedKind known = .string)
    {descriptor : Descriptor}
    (h : (Id.run (table.resolver.classify known descriptor)).kind = .string) :
    (Id.run ((table.insert larger).resolver.classify known descriptor)).kind = .string := by
  have hinsert := get?_insert table larger descriptor
  rw [hdescriptor] at hinsert
  by_cases heq : info.descriptor = descriptor
  · subst heq
    rw [if_pos rfl] at hinsert
    cases hknown : known.kind? info.descriptor with
    | some kind =>
      rw [run_classify, hknown] at h ⊢
      exact h
    | none =>
      rw [kind_of_get? hknown hget] at h
      rw [kind_of_get? hknown hinsert]
      exact hlarger h
  · rw [if_neg heq] at hinsert
    rw [run_classify, hinsert, ← run_classify]
    exact h

end TypeTable

namespace TypeInfo

/-- A type of string kind keeps it through all additions, and so does every descriptor of a table in
which the type is described anew with the additions. The additions of each sort are listed in their
order after what was there before, and nothing else of them matters. -/
theorem kind_addAll_of_string (known : Identities) (info : TypeInfo) (additions : List Addition) :
    (info.resolvedKind known = .string →
      ∀ steps, steps <+: additions → (info.addAll steps).resolvedKind known = .string) ∧
    ((info.addAll additions).descriptor = info.descriptor ∧
      ((info.addAll additions).isEnum ↔ info.isEnum ∨ .enumeration ∈ additions) ∧
      (info.addAll additions).constructors =
        info.constructors ++ additions.filterMap Addition.constructor? ∧
      (info.addAll additions).methods =
        info.methods ++ additions.filterMap Addition.method?) ∧
    (∀ additions' : List Addition,
      additions'.filterMap Addition.constructor? = additions.filterMap Addition.constructor? →
      additions'.filterMap Addition.method? = additions.filterMap Addition.method? →
      (.enumeration ∈ additions' ↔ .enumeration ∈ additions) →
      info.addAll additions' = info.addAll additions) ∧
    ∀ table : TypeTable, table.get? info.descriptor = some info →
      ∀ steps, steps <+: additions → ∀ descriptor,
        (Id.run (table.resolver.classify known descriptor)).kind = .string →
        (Id.run ((table.insert (info.addAll steps)).resolver.classify known descriptor)).kind =
          .string := by
  refine ⟨fun h steps _ ↦ resolvedKind_addAll_of_string h steps, ⟨?_, isEnum_addAll_iff, ?_, ?_⟩,
    fun additions' ↦ addAll_congr, fun table hget steps _ descriptor ↦ ?_⟩
  · rw [addAll_eq]
  · rw [addAll_eq]
  · rw [addAll_eq]
  · have hdescriptor : (info.addAll steps).descriptor = info.descriptor := by
      rw [addAll_eq]
    exact TypeTable.kind_insert_of_string hget hdescriptor
      fun h ↦ resolvedKind_addAll_of_string h steps

/-- A type with a static factory. -/
def withFactory : TypeInfo where
  descriptor := ⟨"LA;"⟩
  methods := [.static "valueOf" [⟨"Ljava/lang/String;"⟩]]

/-- A method that would be in the way of the factory if it were listed before it, and two
constructors. -/
def laterMembers : List Addition :=
  [.constructor { params := [⟨"I"⟩] },
    .method { name := "valueOf", params := [⟨"Ljava/lang/String;"⟩] },
    .constructor { visibility := .private }]

theorem kind_addAll_of_string_withFactory :
    withFactory.resolvedKind .jvm = .string ∧
    (withFactory.addAll (laterMembers.take 2)).resolvedKind .jvm = .string ∧
    withFactory.addAll (laterMembers.filter (·.method?.isSome) ++
      laterMembers.filter (·.constructor?.isSome)) = withFactory.addAll laterMembers ∧
    (Id.run (((TypeTable.empty.insert withFactory).insert
      (withFactory.addAll laterMembers)).resolver.classify .jvm ⟨"LA;"⟩)).kind = .string := by
  have hkind : withFactory.resolvedKind .jvm = .string := by decide
  obtain ⟨hsteps, -, hcongr, htable⟩ := kind_addAll_of_string .jvm withFactory laterMembers
  refine ⟨hkind, hsteps hkind _ (List.take_prefix 2 _), hcongr _ ?_ ?_ ?_, ?_⟩
  · decide
  · decide
  · decide
  · exact htable _ (by decide) _ (List.prefix_refl _) _ (by decide)

end TypeInfo

end JvmSchema
