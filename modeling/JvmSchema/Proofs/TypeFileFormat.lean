import JvmSchema.Proofs.RecordReading
import JvmSchema.Proofs.TableEntries
import JvmSchema.TypeTable.File

/-!
# The format of table files

What a table file may look like, and what it then says, as relations between values and types
(`FileForm`, `TypeInfoForm` and those below them). They say nothing of the order in which a decoder
goes about it, and a decoder reads each of them (`reads_typeInfo`, `reads_file`).

`ofToml_accepts_iff` is the main statement: a document makes a table exactly when it has the form
and lists no type twice, and the table then holds the types that it lists.
-/

set_option autoImplicit false
set_option relaxedAutoImplicit false

namespace JvmSchema

open Toml (Value Gives RequiredForm OptionalForm ListForm TextForm BooleanForm VariantForm
  reads_text reads_boolean reads_list reads_variant fieldForm_required_iff fieldForm_optional_iff)

/-! ### Forms of members and types -/

/-- The text of a descriptor. -/
def DescriptorForm (value : Value) (descriptor : Descriptor) : Prop :=
  TextForm value descriptor.text

/-- A constructor, none of whose fields must be given. -/
def ConstructorForm (value : Value) (constructor : Constructor) : Prop :=
  ∃ given, Gives ["params", "visibility"] value given ∧
    OptionalForm (ListForm DescriptorForm) [] (given "params") constructor.params ∧
    OptionalForm (VariantForm Visibility.name) .public (given "visibility") constructor.visibility

/-- A method, of which the name must be given. -/
def MethodForm (value : Value) (method : Method) : Prop :=
  ∃ given, Gives ["name", "params", "static", "visibility"] value given ∧
    RequiredForm TextForm (given "name") method.name ∧
    OptionalForm (ListForm DescriptorForm) [] (given "params") method.params ∧
    OptionalForm BooleanForm false (given "static") method.isStatic ∧
    OptionalForm (VariantForm Visibility.name) .public (given "visibility") method.visibility

/-- A type, of which the descriptor must be given. -/
def TypeInfoForm (value : Value) (info : TypeInfo) : Prop :=
  ∃ given, Gives ["descriptor", "enum", "constructors", "methods"] value given ∧
    RequiredForm DescriptorForm (given "descriptor") info.descriptor ∧
    OptionalForm BooleanForm false (given "enum") info.isEnum ∧
    OptionalForm (ListForm ConstructorForm) [] (given "constructors") info.constructors ∧
    OptionalForm (ListForm MethodForm) [] (given "methods") info.methods

/-- A file, which may list types and has nothing else in it. -/
def FileForm (value : Value) (infos : List TypeInfo) : Prop :=
  ∃ given, Gives ["types"] value given ∧
    OptionalForm (ListForm TypeInfoForm) [] (given "types") infos

/-! ### Reading members and types -/

theorem reads_descriptor : Toml.Decoder.Reads Descriptor.decoder DescriptorForm := by
  rintro value ⟨text⟩
  change Except.map Descriptor.mk (Toml.Decoder.text .text value) = .ok ⟨text⟩ ↔ _
  rw [DescriptorForm, ← reads_text .text value text]
  cases Toml.Decoder.text .text value <;> simp [Except.map]

theorem reads_visibility :
    Toml.Decoder.Reads Visibility.decoder (VariantForm Visibility.name) :=
  reads_variant (fun visibility ↦ by cases visibility <;> decide)
    fun first second ↦ by cases first <;> cases second <;> decide

theorem Constructor.forall_field_iff {p : Constructor.Field → Prop} :
    (∀ index, p index) ↔ p .params ∧ p .visibility :=
  ⟨fun h ↦ ⟨h _, h _⟩, fun ⟨hparams, hvisibility⟩ index ↦ by cases index <;> assumption⟩

theorem reads_constructor : Toml.Decoder.Reads Constructor.decoder ConstructorForm := by
  refine Toml.reads_record Constructor.components (by decide) fun given constructor ↦ ?_
  rw [Constructor.forall_field_iff]
  apply and_congr
  · exact fieldForm_optional_iff (reads_list reads_descriptor)
  · exact fieldForm_optional_iff reads_visibility

theorem Method.forall_field_iff {p : Method.Field → Prop} :
    (∀ index, p index) ↔ p .name ∧ p .params ∧ p .static ∧ p .visibility :=
  ⟨fun h ↦ ⟨h _, h _, h _, h _⟩,
    fun ⟨hname, hparams, hstatic, hvisibility⟩ index ↦ by cases index <;> assumption⟩

theorem reads_method : Toml.Decoder.Reads Method.decoder MethodForm := by
  refine Toml.reads_record Method.components (by decide) fun given method ↦ ?_
  rw [Method.forall_field_iff]
  refine and_congr ?_ (and_congr ?_ (and_congr ?_ ?_))
  · exact fieldForm_required_iff (reads_text .text)
  · exact fieldForm_optional_iff (reads_list reads_descriptor)
  · exact fieldForm_optional_iff reads_boolean
  · exact fieldForm_optional_iff reads_visibility

theorem TypeInfo.forall_field_iff {p : TypeInfo.Field → Prop} :
    (∀ index, p index) ↔ p .descriptor ∧ p .enum ∧ p .constructors ∧ p .methods :=
  ⟨fun h ↦ ⟨h _, h _, h _, h _⟩,
    fun ⟨hdescriptor, henum, hconstructors, hmethods⟩ index ↦ by cases index <;> assumption⟩

theorem reads_typeInfo : Toml.Decoder.Reads TypeInfo.decoder TypeInfoForm := by
  refine Toml.reads_record TypeInfo.components (by decide) fun given info ↦ ?_
  rw [TypeInfo.forall_field_iff]
  refine and_congr ?_ (and_congr ?_ (and_congr ?_ ?_))
  · exact fieldForm_required_iff reads_descriptor
  · exact fieldForm_optional_iff reads_boolean
  · exact fieldForm_optional_iff (reads_list reads_constructor)
  · exact fieldForm_optional_iff (reads_list reads_method)

namespace TypeTable

/-! ### Reading files -/

/-- A table file has one component, the list of its types. -/
def fileComponents : fileRecord.Components (D := Toml.Decoder)
    fun _ _ ↦ Format.list TypeInfo.decoder where
  type _ := List TypeInfo
  get _ infos := infos
  set _ _ part := part
  read _ := Format.list TypeInfo.decoder
  decode_eq _ _ := (id_map _).symm
  get_set _ _ _ := rfl
  get_set_of_ne h _ _ := absurd rfl h
  ext h := h .types
  mem_fields index := by cases index; decide
  nodup_fields := by decide
  label_injective _ _ _ := rfl

theorem reads_file : Toml.Decoder.Reads fileDecoder FileForm := by
  refine Toml.reads_record fileComponents (by decide) fun given infos ↦ ?_
  refine Iff.trans ⟨fun h ↦ h .types, fun h _ ↦ h⟩ ?_
  exact fieldForm_optional_iff (reads_list reads_typeInfo)

/-- A file cannot be understood in two ways. -/
theorem fileForm_unique {value : Value} {first second : List TypeInfo}
    (hfirst : FileForm value first) (hsecond : FileForm value second) : first = second := by
  have hread : fileDecoder value = .ok first := (reads_file value first).2 hfirst
  have hread' : fileDecoder value = .ok second := (reads_file value second).2 hsecond
  exact Except.ok.inj (hread.symm.trans hread')

/-! ### The table of a file -/

/-- The table holds these descriptions, of different types, and no others. -/
structure Holds (table : TypeTable) (infos : List TypeInfo) : Prop where
  distinct : (infos.map TypeInfo.descriptor).Nodup
  get?_eq_some_iff (descriptor : Descriptor) (info : TypeInfo) :
    table.get? descriptor = some info ↔ info ∈ infos ∧ info.descriptor = descriptor
  size_eq : table.size = infos.length

theorem holds_insertAll {infos : List TypeInfo} (h : (infos.map TypeInfo.descriptor).Nodup) :
    (empty.insertAll infos).Holds infos where
  distinct := h
  get?_eq_some_iff _ _ := get?_insertAll_eq_some_iff h
  size_eq := size_insertAll h

theorem Holds.eq {first second : TypeTable} {infos : List TypeInfo} (hfirst : first.Holds infos)
    (hsecond : second.Holds infos) : first = second :=
  ext_get? fun descriptor ↦ Option.ext fun info ↦ by
    rw [hfirst.get?_eq_some_iff, hsecond.get?_eq_some_iff]

theorem ofDistinct_eq_ok_iff_holds {infos : List TypeInfo} {table : TypeTable} :
    ofDistinct infos = .ok table ↔ table.Holds infos := by
  rw [ofDistinct_eq_ok_iff]
  constructor
  · rintro ⟨hnodup, rfl⟩
    exact holds_insertAll hnodup
  · intro h
    exact ⟨h.distinct, (holds_insertAll h.distinct).eq h⟩

theorem ofDocument_eq_ok_iff {document : Toml.Table} {table : TypeTable} :
    ofDocument document = .ok table ↔
      ∃ infos, FileForm (.table document) infos ∧ table.Holds infos := by
  rw [ofDocument, bind_eq_ok_iff]
  simp only [ofInfos, Toml.decode, ReaderT.run, mapError_eq_ok_iff, ofDistinct_eq_ok_iff_holds]
  exact exists_congr fun infos ↦ and_congr_left fun _ ↦ reads_file _ infos

theorem ofToml_eq_ok_iff {text : String} {table : TypeTable} :
    ofToml text = .ok table ↔
      ∃ document, Toml.parse text = .ok document ∧ ofDocument document = .ok table := by
  rw [ofToml, bind_eq_ok_iff]
  simp only [mapError_eq_ok_iff]

/-- A document makes a table exactly when it has the form of a table file and its types are all
different. What it lists determines the table, and a text makes the table of its document. -/
theorem ofToml_accepts_iff :
    (∀ document, (∃ table, ofDocument document = .ok table) ↔
      ∃ infos, FileForm (.table document) infos ∧ (infos.map TypeInfo.descriptor).Nodup) ∧
    (∀ document table, ofDocument document = .ok table ↔
      ∃ infos, FileForm (.table document) infos ∧ table.Holds infos) ∧
    ∀ text table, ofToml text = .ok table ↔
      ∃ document infos, Toml.parse text = .ok document ∧ FileForm (.table document) infos ∧
        table.Holds infos := by
  refine ⟨fun document ↦ ?_, fun _ _ ↦ ofDocument_eq_ok_iff, fun text table ↦ ?_⟩
  · simp only [ofDocument_eq_ok_iff]
    constructor
    · rintro ⟨table, infos, hform, hholds⟩
      exact ⟨infos, hform, hholds.distinct⟩
    · rintro ⟨infos, hform, hnodup⟩
      exact ⟨empty.insertAll infos, infos, hform, holds_insertAll hnodup⟩
  · simp only [ofToml_eq_ok_iff, ofDocument_eq_ok_iff, exists_and_left]

-- A type by position, with a constructor by name and an access level as a table.
example :
    let text := "types = [[\"LA;\", true, [\x7bvisibility = \x7bprivate = \x7b\x7d\x7d\x7d]]]"
    (ofToml text).toOption.map entries =
      some [{ descriptor := ⟨"LA;"⟩
              isEnum := true
              constructors := [{ visibility := .private }] }] := by
  decide +kernel

-- A misspelt key is refused, however little it changes.
example : (ofToml "[[types]]\ndescriptor = \"LA;\"\nmethod = []\n").toOption.isNone := by
  decide +kernel

end TypeTable

end JvmSchema
