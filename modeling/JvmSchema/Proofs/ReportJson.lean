import JvmSchema.Proofs.JsonDocuments
import JvmSchema.Report
import JvmSchema.TypeInfo.Format

/-!
# Reports as JSON

The JSON form of a report is one document and a line end, and reading the document gives the rows
again: an array with an object for each row in order, whose only members are the descriptor, as it
was, and the name of the kind in structured data. This is the keyword that the text form prints
(`Kind.toJson_eq`), and every way of reading a kind takes it for that of the row. So different
reports have different JSON forms (`Report.json_decodes`).
-/

set_option autoImplicit false
set_option relaxedAutoImplicit false

namespace JvmSchema

open Json (Value)

/-! ### Kinds -/

/-- The keyword names the kind in structured data too. -/
theorem Kind.find?_dataName_keyword (kind : Kind) :
    (Kind.all.find? fun other ↦ other.dataName = kind.keyword) = some kind := by
  simp only [dataName_eq_keyword]
  exact ofKeyword?_keyword kind

theorem Kind.decode_keyword (kind : Kind) :
    Json.decode Kind.decoder (Value.text kind.keyword).compact = .ok kind :=
  Json.decode_compact (Json.readable_text kind.keyword)
    (Json.Decoder.takes_variant kind.find?_dataName_keyword)

theorem Kind.toJson_eq (kind : Kind) : kind.toJson = .text kind.keyword :=
  congrArg Value.text kind.dataName_eq_keyword

namespace Report

/-! ### Rows -/

theorem readable_rowJson (row : Descriptor × Kind) : (rowJson row).Readable :=
  .object (List.forall_mem_cons.2 ⟨Json.readable_text row.1.text,
    List.forall_mem_singleton.2 (Json.readable_text row.2.dataName)⟩)

/-- A row shows its kind by the keyword. -/
theorem rowJson_eq (row : Descriptor × Kind) :
    rowJson row = .object [("descriptor", .text row.1.text), ("type", .text row.2.keyword)] := by
  rw [rowJson, Kind.toJson_eq, Descriptor.toJson]

theorem readable_toJson (report : Report) : report.toJson.Readable :=
  Json.readable_array readable_rowJson report

theorem rowJson_injective : Function.Injective rowJson := by
  rintro ⟨⟨first⟩, kind⟩ ⟨⟨second⟩, kind'⟩ h
  simp only [rowJson_eq, Value.text, Value.object.injEq, List.cons.injEq, Prod.mk.injEq,
    Value.scalar.injEq, Json.Scalar.text.injEq, true_and, and_true] at h
  obtain ⟨rfl, hkeyword⟩ := h
  rw [Kind.keyword_injective hkeyword]

theorem toJson_injective : Function.Injective toJson := by
  intro first second h
  exact List.map_injective_iff.2 rowJson_injective (Value.array.inj h)

/-! ### Documents -/

/-- The further items of an array end in its bracket. -/
theorem exists_prettyItems_eq (level : Nat) (items : List Value) :
    ∃ start, Json.prettyItems level items = start ++ [']'] := by
  induction items with
  | nil => exact ⟨_, by rw [Json.prettyItems]⟩
  | cons item rest ih =>
    obtain ⟨start, hstart⟩ := ih
    rw [Json.prettyItems, hstart, ← List.append_assoc]
    exact ⟨_, rfl⟩

theorem getLast?_pretty_toJson (report : Report) :
    report.toJson.pretty.toList.getLast? = some ']' := by
  rw [toJson, Value.pretty, String.toList_ofList]
  cases report with
  | nil => rfl
  | cons row rest =>
    obtain ⟨start, hstart⟩ := exists_prettyItems_eq 0 (rest.map rowJson)
    rw [List.map_cons, Value.prettyChars, hstart, ← List.append_assoc, List.getLast?_concat]

theorem read_render (report : Report) : Json.read (report.render .json) = .ok report.toJson := by
  have hblank : ∀ char ∈ "\n".toList, Json.isBlank char := by
    rw [show "\n".toList = ['\n'] from rfl]
    exact List.forall_mem_singleton.2 rfl
  exact Json.read_pretty_append report.readable_toJson hblank

/-- What stands in a row: the text of the descriptor and the keyword of the kind. -/
def cells (row : Descriptor × Kind) : String × String :=
  (row.1.text, row.2.keyword)

/-- The JSON form of a report is one document and a line end. It is read as an array of objects of
two members, in the order of the rows. These give the descriptor as it was and the keyword that is
printed in the text form too, and that is the keyword of the row's kind to every reader. -/
theorem json_decodes :
    (∀ report : Report, ∃ (document : String) (rows : List (String × String)),
      report.render .json = document ++ "\n" ∧ document.toList.getLast? = some ']' ∧
      Json.read document = .ok (.array (rows.map fun (descriptor, keyword) ↦
        .object [("descriptor", .text descriptor), ("type", .text keyword)])) ∧
      Json.read (report.render .json) = Json.read document ∧
      List.Forall₂ (fun (descriptor, keyword) row ↦ descriptor = row.1.text ∧
        Kind.parse keyword = .ok row.2 ∧
        Json.decode Kind.decoder (Value.text keyword).compact = .ok row.2) rows report ∧
      report.render .text = String.join (rows.map fun (descriptor, keyword) ↦
        descriptor ++ "\t" ++ keyword ++ "\n")) ∧
    Function.Injective fun report : Report ↦ report.render .json := by
  constructor
  · intro report
    have hdocument : Json.read report.toJson.pretty = .ok report.toJson :=
      Json.read_pretty report.readable_toJson
    refine ⟨report.toJson.pretty, report.map cells, rfl, getLast?_pretty_toJson report, ?_, ?_, ?_,
      ?_⟩
    · rw [hdocument, toJson, funext rowJson_eq, List.map_map]
      rfl
    · rw [hdocument, read_render]
    · refine List.forall₂_map_left_iff.2 (List.forall₂_same.2 fun row _ ↦ ⟨rfl, ?_, ?_⟩)
      · exact Kind.parse_keyword row.2
      · exact Kind.decode_keyword row.2
    · rw [List.map_map]
      rfl
  · intro first second h
    have hread : Json.read (first.render .json) = Json.read (second.render .json) :=
      congrArg Json.read h
    rw [read_render, read_render] at hread
    exact toJson_injective (Except.ok.inj hread)

end Report

end JvmSchema
