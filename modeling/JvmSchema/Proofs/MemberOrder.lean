import JvmSchema.Proofs.ClassificationLaw
import Mathlib.Data.List.Basic

/-!
# The order in which members are listed

A factory is a static method, and whether a type declares one does not depend on the order in which
its members are listed. The search finds it as long as methods of one name and the same parameters
agree on being static (`declaresFactory_iff_of_agreesOnStatic`). It counts on that and stops at the
first of them, but no description is refused for listing two that disagree: one that lists
`valueOf(String)` twice, once static and once not, has one kind or the other by the order of the two
(`kind_of_listedTwice`).

The order matters in no other way. `DeclaresSome` is what holds of a factory in some order of the
methods and `DeclaresOnlyStatic` what holds of it in every order; `DeclaresFactory` lies between
them and reaches both (`declaresFactory_staticsFirst_iff`, `declaresFactory_staticsLast_iff`). From
this `kind_of_every_order_iff` says exactly which types have the same kind in every order.
-/

set_option autoImplicit false
set_option relaxedAutoImplicit false

namespace JvmSchema

theorem Kind.ofFromString_injective : Function.Injective Kind.ofFromString := by
  intro first second h
  cases first <;> cases second <;> simp_all [Kind.ofFromString]

namespace TypeInfo

variable {info other : TypeInfo} {known : Identities} {name : String} {string : Descriptor}

/-- The kind of the type once it is resolved. -/
def resolvedKind (info : TypeInfo) (known : Identities) : Kind :=
  Id.run (Shape.kind (some info.shape) known)

theorem resolvedKind_eq (info : TypeInfo) (known : Identities) :
    info.resolvedKind known = .ofFromString (info.fromString known.string) := by
  rw [← run_fromString_shape]
  rfl

theorem resolvedKind_eq_iff : other.resolvedKind known = info.resolvedKind known ↔
    (other.MadeFromString known.string ↔ info.MadeFromString known.string) := by
  rw [resolvedKind_eq, resolvedKind_eq, Kind.ofFromString_injective.eq_iff, Bool.eq_iff_iff,
    fromString_iff, fromString_iff]

/-! ### Types listed in another order -/

/-- The same type with its constructors and its methods listed in another order. -/
structure Reorders (info other : TypeInfo) : Prop where
  descriptor_eq : other.descriptor = info.descriptor
  isEnum_eq : other.isEnum = info.isEnum
  constructors_perm : other.constructors.Perm info.constructors
  methods_perm : other.methods.Perm info.methods

/-- The type with its static methods before the others. -/
def staticsFirst (info : TypeInfo) : TypeInfo :=
  { info with
    methods := info.methods.filter Method.isStatic ++ info.methods.filter (!Method.isStatic ·) }

/-- The type with its static methods after the others. -/
def staticsLast (info : TypeInfo) : TypeInfo :=
  { info with
    methods := info.methods.filter (!Method.isStatic ·) ++ info.methods.filter Method.isStatic }

theorem reorders_staticsFirst (info : TypeInfo) : Reorders info info.staticsFirst where
  descriptor_eq := rfl
  isEnum_eq := rfl
  constructors_perm := .refl _
  methods_perm := List.filter_append_perm Method.isStatic info.methods

theorem reorders_staticsLast (info : TypeInfo) : Reorders info info.staticsLast where
  descriptor_eq := rfl
  isEnum_eq := rfl
  constructors_perm := .refl _
  methods_perm :=
    List.perm_append_comm.trans (List.filter_append_perm Method.isStatic info.methods)

/-! ### Factories in some order and in every order -/

/-- Some method `name(string)` is static. -/
def DeclaresSome (info : TypeInfo) (name : String) (string : Descriptor) : Prop :=
  ∃ method ∈ info.methods, method.FromString name string ∧ method.isStatic

/-- There is a method `name(string)`, and every such method is static. -/
def DeclaresOnlyStatic (info : TypeInfo) (name : String) (string : Descriptor) : Prop :=
  (∃ method ∈ info.methods, method.FromString name string) ∧
    ∀ method ∈ info.methods, method.FromString name string → method.isStatic

theorem Reorders.declaresSome_iff (h : Reorders info other) :
    other.DeclaresSome name string ↔ info.DeclaresSome name string :=
  exists_congr fun _ ↦ and_congr_left' h.methods_perm.mem_iff

theorem Reorders.declaresOnlyStatic_iff (h : Reorders info other) :
    other.DeclaresOnlyStatic name string ↔ info.DeclaresOnlyStatic name string := by
  simp only [DeclaresOnlyStatic, h.methods_perm.mem_iff]

theorem declaresSome_of_declaresFactory (h : info.DeclaresFactory name string) :
    info.DeclaresSome name string := by
  obtain ⟨index, hindex, hstatic, hmethod, -⟩ := h
  exact ⟨_, List.getElem_mem hindex, hmethod, hstatic⟩

theorem declaresFactory_of_find? {method : Method}
    (hfind : (info.methods.find? fun method ↦ method.FromString name string) = some method)
    (hstatic : method.isStatic) : info.DeclaresFactory name string := by
  rw [← hasStringFactory_iff, hasStringFactory_eq, hfind]
  exact hstatic

theorem find?_of_declaresFactory (h : info.DeclaresFactory name string) :
    ∃ method, (info.methods.find? fun method ↦ method.FromString name string) = some method ∧
      method.isStatic := by
  rw [← hasStringFactory_iff, hasStringFactory_eq] at h
  split at h
  next method hfind => exact ⟨method, hfind, h⟩
  next => exact absurd h Bool.false_ne_true

/-- The search for a factory ends at one of the methods that it looks for, if there is any. -/
theorem exists_find?_fromString {methods : List Method}
    (h : ∃ method ∈ methods, method.FromString name string) :
    ∃ method, (methods.find? fun method ↦ method.FromString name string) = some method ∧
      method ∈ methods ∧ method.FromString name string := by
  have hsome : (methods.find? fun method ↦ method.FromString name string).isSome := by
    simpa using h
  obtain ⟨method, hfind⟩ := Option.isSome_iff_exists.1 hsome
  have hmethod : method.FromString name string := by
    simpa using List.find?_some hfind
  exact ⟨method, hfind, List.mem_of_find?_eq_some hfind, hmethod⟩

theorem declaresFactory_of_declaresOnlyStatic (h : info.DeclaresOnlyStatic name string) :
    info.DeclaresFactory name string := by
  obtain ⟨hexists, hstatic⟩ := h
  obtain ⟨method, hfind, hmem, hmethod⟩ := exists_find?_fromString hexists
  exact declaresFactory_of_find? hfind (hstatic method hmem hmethod)

/-- Where the static methods come first, one of them is enough. -/
theorem declaresFactory_staticsFirst_iff :
    info.staticsFirst.DeclaresFactory name string ↔ info.DeclaresSome name string := by
  constructor
  · intro h
    exact (reorders_staticsFirst info).declaresSome_iff.1 (declaresSome_of_declaresFactory h)
  · rintro ⟨method, hmem, hmethod, hstatic⟩
    have hexists : ∃ method ∈ info.methods.filter Method.isStatic,
        method.FromString name string :=
      ⟨method, List.mem_filter.2 ⟨hmem, hstatic⟩, hmethod⟩
    obtain ⟨found, hfind, hfound, -⟩ := exists_find?_fromString hexists
    refine declaresFactory_of_find? ?_ (List.mem_filter.1 hfound).2
    rw [staticsFirst, List.find?_append, hfind, Option.some_or]

/-- Where the static methods come last, any other one is in their way. -/
theorem declaresFactory_staticsLast_iff :
    info.staticsLast.DeclaresFactory name string ↔ info.DeclaresOnlyStatic name string := by
  constructor
  · intro h
    obtain ⟨method, hmem, hmethod, -⟩ :=
      (reorders_staticsLast info).declaresSome_iff.1 (declaresSome_of_declaresFactory h)
    refine ⟨⟨method, hmem, hmethod⟩, ?_⟩
    by_contra hother
    push Not at hother
    obtain ⟨other, hmem', hother, hinstance⟩ := hother
    have hexists : ∃ method ∈ info.methods.filter (!Method.isStatic ·),
        method.FromString name string :=
      ⟨other, List.mem_filter.2 ⟨hmem', by simpa using hinstance⟩, hother⟩
    obtain ⟨first, hfirst, hfirstMem, -⟩ := exists_find?_fromString hexists
    obtain ⟨found, hfound, hstatic⟩ := find?_of_declaresFactory h
    rw [staticsLast, List.find?_append, hfirst, Option.some_or] at hfound
    obtain rfl := Option.some.inj hfound
    simpa [hstatic] using (List.mem_filter.1 hfirstMem).2
  · intro h
    exact declaresFactory_of_declaresOnlyStatic
      ((reorders_staticsLast info).declaresOnlyStatic_iff.2 h)

/-! ### Types in some order and in every order -/

/-- The grounds on which a type counts as made from a string, `declares` saying which factories it
has. -/
def MadeBy (info : TypeInfo) (string : Descriptor) (declares : String → Prop) : Prop :=
  info.isEnum ∨
    (∃ constructor ∈ info.constructors,
      constructor.visibility = .public ∧ constructor.params = [string]) ∨
    ∃ name ∈ ["valueOf", "fromString"], declares name

/-- Some order of the methods makes the type one that is made from a string. -/
def MadeInSomeOrder (info : TypeInfo) (string : Descriptor) : Prop :=
  info.MadeBy string (info.DeclaresSome · string)

/-- Every order of the methods leaves the type one that is made from a string. -/
def MadeInEveryOrder (info : TypeInfo) (string : Descriptor) : Prop :=
  info.MadeBy string (info.DeclaresOnlyStatic · string)

theorem MadeBy.imp {declares declares' : String → Prop} (h : info.MadeBy string declares)
    (himp : ∀ name, declares name → declares' name) : info.MadeBy string declares' := by
  rcases h with henum | hconstructor | ⟨name, hname, hdeclares⟩
  · exact .inl henum
  · exact .inr (.inl hconstructor)
  · exact .inr (.inr ⟨name, hname, himp name hdeclares⟩)

theorem Reorders.madeBy_iff (h : Reorders info other) {declares declares' : String → Prop}
    (hnames : ∀ name, declares' name ↔ declares name) :
    other.MadeBy string declares' ↔ info.MadeBy string declares := by
  simp only [MadeBy, h.isEnum_eq, h.constructors_perm.mem_iff, hnames]

theorem madeInSomeOrder_of_madeFromString (h : info.MadeFromString string) :
    info.MadeInSomeOrder string :=
  MadeBy.imp h fun _ ↦ declaresSome_of_declaresFactory

theorem madeFromString_of_madeInEveryOrder (h : info.MadeInEveryOrder string) :
    info.MadeFromString string :=
  MadeBy.imp h fun _ ↦ declaresFactory_of_declaresOnlyStatic

theorem madeFromString_staticsFirst_iff :
    info.staticsFirst.MadeFromString string ↔ info.MadeInSomeOrder string :=
  (reorders_staticsFirst info).madeBy_iff fun _ ↦ declaresFactory_staticsFirst_iff

theorem madeFromString_staticsLast_iff :
    info.staticsLast.MadeFromString string ↔ info.MadeInEveryOrder string :=
  (reorders_staticsLast info).madeBy_iff fun _ ↦ declaresFactory_staticsLast_iff

/-- The order of the members is without effect: the type is an enumeration, or a constructor is
ground enough, or a factory is never declared otherwise than static, or none is ever static. -/
def OrderFree (info : TypeInfo) (string : Descriptor) : Prop :=
  info.isEnum ∨
    (∃ constructor ∈ info.constructors,
      constructor.visibility = .public ∧ constructor.params = [string]) ∨
    (∃ name ∈ ["valueOf", "fromString"], info.DeclaresOnlyStatic name string) ∨
    ∀ name ∈ ["valueOf", "fromString"], ¬ info.DeclaresSome name string

theorem orderFree_iff :
    info.OrderFree string ↔ (info.MadeInSomeOrder string → info.MadeInEveryOrder string) := by
  constructor
  · rintro (henum | hconstructor | honly | hnone) hsome
    · exact .inl henum
    · exact .inr (.inl hconstructor)
    · exact .inr (.inr honly)
    · rcases hsome with henum | hconstructor | ⟨name, hname, hdeclares⟩
      · exact .inl henum
      · exact .inr (.inl hconstructor)
      · exact absurd hdeclares (hnone name hname)
  · intro himp
    by_cases hsome : info.MadeInSomeOrder string
    · rcases himp hsome with henum | hconstructor | honly
      · exact .inl henum
      · exact .inr (.inl hconstructor)
      · exact .inr (.inr (.inl honly))
    · exact .inr (.inr (.inr fun name hname hdeclares ↦
        hsome (.inr (.inr ⟨name, hname, hdeclares⟩))))

/-- The order matters exactly when there is one that makes the type a string and one that does
not. -/
theorem forall_reorders_iff :
    (∀ other, Reorders info other → other.resolvedKind known = info.resolvedKind known) ↔
      info.OrderFree known.string := by
  simp only [resolvedKind_eq_iff, orderFree_iff]
  constructor
  · intro hkind hsome
    have hinfo : info.MadeFromString known.string :=
      (hkind _ (reorders_staticsFirst info)).1 (madeFromString_staticsFirst_iff.2 hsome)
    exact madeFromString_staticsLast_iff.1 ((hkind _ (reorders_staticsLast info)).2 hinfo)
  · intro himp other hother
    have hsome : other.MadeInSomeOrder known.string ↔ info.MadeInSomeOrder known.string :=
      hother.madeBy_iff fun _ ↦ hother.declaresSome_iff
    have hevery : other.MadeInEveryOrder known.string ↔ info.MadeInEveryOrder known.string :=
      hother.madeBy_iff fun _ ↦ hother.declaresOnlyStatic_iff
    constructor
    · intro hmade
      have hinfo := himp (hsome.1 (madeInSomeOrder_of_madeFromString hmade))
      exact madeFromString_of_madeInEveryOrder hinfo
    · intro hmade
      have hinfo := himp (madeInSomeOrder_of_madeFromString hmade)
      exact madeFromString_of_madeInEveryOrder (hevery.2 hinfo)

/-! ### Orders that agree on what is looked for -/

/-- Methods that are looked for in the same order are found alike. -/
theorem declaresFactory_iff_of_filter_eq
    (h : (other.methods.filter fun method ↦ method.FromString name string) =
      info.methods.filter fun method ↦ method.FromString name string) :
    other.DeclaresFactory name string ↔ info.DeclaresFactory name string := by
  rw [← hasStringFactory_iff, ← hasStringFactory_iff, hasStringFactory_eq, hasStringFactory_eq,
    ← List.head?_filter, ← List.head?_filter, h]

/-- No two methods have the same name and the same parameters, unless both are static or both are
not. -/
def AgreesOnStatic (info : TypeInfo) : Prop :=
  ∀ first ∈ info.methods, ∀ second ∈ info.methods,
    first.name = second.name → first.params = second.params → first.isStatic = second.isStatic

theorem declaresOnlyStatic_of_declaresSome (h : info.AgreesOnStatic)
    (hsome : info.DeclaresSome name string) : info.DeclaresOnlyStatic name string := by
  obtain ⟨method, hmem, hmethod, hstatic⟩ := hsome
  refine ⟨⟨method, hmem, hmethod⟩, fun other hother hfrom ↦ ?_⟩
  rw [← hstatic]
  exact h other hother method hmem (hfrom.1.trans hmethod.1.symm) (hfrom.2.trans hmethod.2.symm)

/-- Where methods agree, the search finds a factory exactly when the type declares one. -/
theorem declaresFactory_iff_of_agreesOnStatic (h : info.AgreesOnStatic) :
    info.DeclaresFactory name string ↔ info.DeclaresSome name string :=
  ⟨declaresSome_of_declaresFactory, fun hsome ↦
    declaresFactory_of_declaresOnlyStatic (declaresOnlyStatic_of_declaresSome h hsome)⟩

theorem orderFree_of_agreesOnStatic (h : info.AgreesOnStatic) : info.OrderFree string :=
  orderFree_iff.2 fun hsome ↦ MadeBy.imp hsome fun _ ↦ declaresOnlyStatic_of_declaresSome h

/-- Every order of the members gives the same kind exactly for the types that are `OrderFree`, and
so whenever methods of the same name and parameters agree on being static. For the others the order
of constructors does not matter either, nor that of methods, as long as the methods that are looked
for as one factory keep theirs. -/
theorem kind_of_every_order_iff (info : TypeInfo) (known : Identities) :
    (∀ other, Reorders info other →
      (∀ name ∈ ["valueOf", "fromString"],
        (other.methods.filter fun method ↦ method.FromString name known.string) =
          info.methods.filter fun method ↦ method.FromString name known.string) →
      other.resolvedKind known = info.resolvedKind known) ∧
    ((∀ other, Reorders info other → other.resolvedKind known = info.resolvedKind known) ↔
      info.OrderFree known.string) ∧
    (info.AgreesOnStatic → info.OrderFree known.string) := by
  refine ⟨fun other hother hfilter ↦ ?_, forall_reorders_iff, orderFree_of_agreesOnStatic⟩
  rw [resolvedKind_eq_iff, MadeFromString, MadeFromString, hother.isEnum_eq]
  simp only [hother.constructors_perm.mem_iff]
  refine or_congr_right (or_congr_right (exists_congr fun name ↦ and_congr_right fun hname ↦ ?_))
  exact declaresFactory_iff_of_filter_eq (hfilter name hname)

/-- A type that lists `valueOf(String)` twice, first as a static method and then as one that is
not. -/
def listedTwice : TypeInfo where
  descriptor := ⟨"LA;"⟩
  methods := [.static "valueOf" [⟨"Ljava/lang/String;"⟩],
    { name := "valueOf", params := [⟨"Ljava/lang/String;"⟩] }]

/-- A type that lists two methods of one name, of which only one has the parameters of a factory. -/
def listedOnce : TypeInfo where
  descriptor := ⟨"LA;"⟩
  methods := [{ name := "valueOf", params := [⟨"I"⟩] },
    .static "valueOf" [⟨"Ljava/lang/String;"⟩]]

theorem kind_of_every_order_listedOnce :
    (listedOnce.AgreesOnStatic ∧ ∀ other, Reorders listedOnce other →
      other.resolvedKind .jvm = listedOnce.resolvedKind .jvm) ∧
    resolvedKind { listedTwice with methods := .static "toString" [] :: listedTwice.methods } .jvm =
      resolvedKind { listedTwice with methods := listedTwice.methods ++ [.static "toString" []] }
        .jvm := by
  constructor
  · have hagrees : listedOnce.AgreesOnStatic := by
      unfold AgreesOnStatic
      decide
    obtain ⟨-, hiff, hfree⟩ := kind_of_every_order_iff listedOnce .jvm
    exact ⟨hagrees, hiff.2 (hfree hagrees)⟩
  · exact (kind_of_every_order_iff _ .jvm).1 _
      ⟨rfl, rfl, .refl _, (List.perm_append_singleton _ _).symm⟩ (by decide)

/-- The type declares a static factory in both orders, but in one of them it is not found. -/
theorem kind_of_listedTwice :
    let reversed := { listedTwice with methods := listedTwice.methods.reverse }
    Reorders listedTwice reversed ∧
      (listedTwice.DeclaresSome "valueOf" Identities.jvm.string ∧
        reversed.DeclaresSome "valueOf" Identities.jvm.string) ∧
      listedTwice.resolvedKind .jvm = .string ∧ reversed.resolvedKind .jvm = .object := by
  intro reversed
  have hreorders : Reorders listedTwice reversed := ⟨rfl, rfl, .refl _, List.reverse_perm _⟩
  have hdeclares : listedTwice.DeclaresSome "valueOf" Identities.jvm.string :=
    ⟨_, List.mem_cons_self, ⟨rfl, rfl⟩, rfl⟩
  exact ⟨hreorders, ⟨hdeclares, hreorders.declaresSome_iff.2 hdeclares⟩, by decide, by decide⟩

end TypeInfo

end JvmSchema
