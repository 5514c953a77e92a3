import JvmSchema.Proofs.TableRuns
import JvmSchema.Proofs.TypeFileFormat
import Mathlib.Order.Bounds.Basic

/-!
# Types described more than once

The descriptions of a document are taken up one after the other, and the first of a type that has
been described before ends it (`ofDistinct_eq_error_iff`). The error names the type at the least
place where one comes back (`isLeast_repetitions`), even if the two descriptions are the same.

All of a document is decoded before that. `ofToml_repetitions` says what becomes of a document: a
fault in its data makes it invalid whatever it repeats, else a repetition is named, else its
descriptions make a table that holds exactly them.
-/

set_option autoImplicit false
set_option relaxedAutoImplicit false

namespace JvmSchema.TypeTable

open TableRuns (listedIn)

/-! ### The first failing step -/

/-- A fold that fails does so at one step, up to which it went well. -/
theorem foldlM_eq_error_iff {ε α β : Type} {step : β → α → Except ε β} {start : β}
    {items : List α} {error : ε} : items.foldlM step start = .error error ↔
      ∃ before item after reached, items = before ++ item :: after ∧
        before.foldlM step start = .ok reached ∧ step reached item = .error error := by
  induction items generalizing start with
  | nil => simp [pure, Except.pure]
  | cons first rest ih =>
    rw [List.foldlM_cons]
    constructor
    · intro h
      cases hfirst : step start first with
      | error cause =>
        rw [hfirst] at h
        exact ⟨[], first, rest, start, rfl, rfl, hfirst.trans h⟩
      | ok next =>
        rw [hfirst] at h
        obtain ⟨before, item, after, reached, rfl, hbefore, hitem⟩ := ih.1 h
        refine ⟨first :: before, item, after, reached, rfl, ?_, hitem⟩
        rw [List.foldlM_cons, hfirst]
        exact hbefore
    · rintro ⟨before, item, after, reached, hitems, hbefore, hitem⟩
      cases before with
      | nil =>
        obtain ⟨rfl, rfl⟩ := List.cons.inj hitems
        cases hbefore
        rw [hitem]
        rfl
      | cons other before =>
        obtain ⟨rfl, rfl⟩ := List.cons.inj hitems
        rw [List.foldlM_cons] at hbefore
        cases hfirst : step start first with
        | error cause =>
          rw [hfirst] at hbefore
          cases hbefore
        | ok next =>
          rw [hfirst] at hbefore
          exact ih.2 ⟨before, item, after, reached, rfl, hbefore, hitem⟩

theorem addNew_eq_error_iff {table : TypeTable} {info : TypeInfo} {descriptor : Descriptor} :
    table.addNew info = .error descriptor ↔
      (table.get? info.descriptor).isSome ∧ info.descriptor = descriptor := by
  cases hget : table.get? info.descriptor with
  | none => simp [addNew_of_none hget]
  | some previous => simp [addNew_of_some hget]

/-- Descriptions make no table when one of them is of a type described before; the first such one
is named. -/
theorem ofDistinct_eq_error_iff {infos : List TypeInfo} {descriptor : Descriptor} :
    ofDistinct infos = .error descriptor ↔
      ∃ before info after, infos = before ++ info :: after ∧
        (before.map TypeInfo.descriptor).Nodup ∧
        info.descriptor ∈ before.map TypeInfo.descriptor ∧ info.descriptor = descriptor := by
  rw [ofDistinct_eq_foldlM, foldlM_eq_error_iff]
  simp only [← ofDistinct_eq_foldlM, ofDistinct_eq_ok_iff, addNew_eq_error_iff]
  constructor
  · rintro ⟨before, info, after, reached, hinfos, ⟨hnodup, rfl⟩, hsome, hdescriptor⟩
    rw [← mem_descriptors, descriptors_insertAll hnodup, List.mem_toFinset] at hsome
    exact ⟨before, info, after, hinfos, hnodup, hsome, hdescriptor⟩
  · rintro ⟨before, info, after, hinfos, hnodup, hmem, hdescriptor⟩
    refine ⟨before, info, after, _, hinfos, ⟨hnodup, rfl⟩, ?_, hdescriptor⟩
    rw [← mem_descriptors, descriptors_insertAll hnodup, List.mem_toFinset]
    exact hmem

theorem exists_first_repetition {infos : List TypeInfo}
    (h : ¬ (infos.map TypeInfo.descriptor).Nodup) :
    ∃ before info after, infos = before ++ info :: after ∧
      (before.map TypeInfo.descriptor).Nodup ∧
      info.descriptor ∈ before.map TypeInfo.descriptor := by
  cases hdistinct : ofDistinct infos with
  | ok table => exact absurd (ofDistinct_eq_ok_iff.1 hdistinct).1 h
  | error descriptor =>
    obtain ⟨before, info, after, hinfos, hnodup, hmem, -⟩ := ofDistinct_eq_error_iff.1 hdistinct
    exact ⟨before, info, after, hinfos, hnodup, hmem⟩

/-! ### The least place of a repetition -/

/-- The places at which a type is described that is described at an earlier one as well. -/
def repetitions (infos : List TypeInfo) : Set Nat :=
  {later | ∃ earlier < later, ∃ first second, infos[earlier]? = some first ∧
    infos[later]? = some second ∧ first.descriptor = second.descriptor}

theorem isLeast_repetitions {before after : List TypeInfo} {info : TypeInfo}
    (hnodup : (before.map TypeInfo.descriptor).Nodup)
    (hmem : info.descriptor ∈ before.map TypeInfo.descriptor) :
    IsLeast (repetitions (before ++ info :: after)) before.length := by
  constructor
  · obtain ⟨first, hfirst, hdescriptor⟩ := List.mem_map.1 hmem
    obtain ⟨earlier, hearlier⟩ := List.mem_iff_getElem?.1 hfirst
    have hlt : earlier < before.length := (List.getElem?_eq_some_iff.1 hearlier).1
    refine ⟨earlier, hlt, first, info, ?_, by simp, hdescriptor⟩
    rw [List.getElem?_append_left hlt, hearlier]
  · rintro later ⟨earlier, hlt, first, second, hfirst, hsecond, hdescriptor⟩
    by_contra hlater
    have hlater : later < before.length := Nat.lt_of_not_le hlater
    rw [List.getElem?_append_left (hlt.trans hlater)] at hfirst
    rw [List.getElem?_append_left hlater] at hsecond
    -- Two places before the repetition would describe one type.
    refine List.nodup_iff_getElem?_ne_getElem?.1 hnodup earlier later hlt (by simpa using hlater) ?_
    rw [List.getElem?_map, List.getElem?_map, hfirst, hsecond]
    exact congrArg some hdescriptor

/-! ### Reading a document -/

theorem listedIn_eq_ok_iff {text : String} {infos : List TypeInfo} :
    listedIn text = .ok infos ↔
      ∃ document, Toml.parse text = .ok document ∧ FileForm (.table document) infos := by
  rw [listedIn, bind_eq_ok_iff]
  simp only [Toml.decode, ReaderT.run, mapError_eq_ok_iff, reads_file _ infos]

theorem ofToml_of_listedIn {text : String} {infos : List TypeInfo}
    (h : listedIn text = .ok infos) : ofToml text = ofInfos infos := by
  rw [TableRuns.ofToml_eq, h]
  rfl

theorem ofInfos_eq_ok_iff {infos : List TypeInfo} {table : TypeTable} :
    ofInfos infos = .ok table ↔ table.Holds infos := by
  rw [ofInfos, mapError_eq_ok_iff, ofDistinct_eq_ok_iff_holds]

theorem ofToml_eq_ok_iff_holds {text : String} {infos : List TypeInfo}
    (h : listedIn text = .ok infos) {table : TypeTable} :
    ofToml text = .ok table ↔ table.Holds infos := by
  rw [ofToml_of_listedIn h, ofInfos_eq_ok_iff]

theorem exists_ofToml_iff {text : String} {infos : List TypeInfo}
    (h : listedIn text = .ok infos) :
    (∃ table, ofToml text = .ok table) ↔ (infos.map TypeInfo.descriptor).Nodup := by
  simp only [ofToml_eq_ok_iff_holds h]
  exact ⟨fun ⟨_, hholds⟩ ↦ hholds.distinct, fun hnodup ↦ ⟨_, holds_insertAll hnodup⟩⟩

theorem ofInfos_eq_error_of_repetition {before after : List TypeInfo} {info : TypeInfo}
    (hnodup : (before.map TypeInfo.descriptor).Nodup)
    (hmem : info.descriptor ∈ before.map TypeInfo.descriptor) :
    ofInfos (before ++ info :: after) = .error (.repeated info.descriptor) := by
  have herror : ofDistinct (before ++ info :: after) = .error info.descriptor :=
    ofDistinct_eq_error_iff.2 ⟨before, info, after, rfl, hnodup, hmem, rfl⟩
  rw [ofInfos, herror]
  rfl

theorem Holds.get?_eq_none_iff {table : TypeTable} {infos : List TypeInfo} (h : table.Holds infos)
    {descriptor : Descriptor} :
    table.get? descriptor = none ↔ ∀ info ∈ infos, info.descriptor ≠ descriptor := by
  rw [Option.eq_none_iff_forall_ne_some]
  simp only [Ne, h.get?_eq_some_iff, not_and]

/-- A document that has been read but lacks the form of a table file is refused for its data. -/
theorem ofToml_of_not_fileForm {text : String} {document : Toml.Table}
    (hparse : Toml.parse text = .ok document)
    (h : ∀ infos, ¬ FileForm (.table document) infos) :
    ∃ cause, ofToml text = .error (.invalid (.data cause)) := by
  cases hdecode : fileDecoder (.table document) with
  | ok infos => exact absurd ((reads_file _ infos).1 hdecode) (h infos)
  | error cause =>
    refine ⟨cause, ?_⟩
    rw [ofToml, hparse]
    change ofDocument document = _
    rw [ofDocument, Toml.decode, ReaderT.run, hdecode]
    rfl

/-- In a table file every item listed is a type. -/
theorem typeInfoForm_of_fileForm {document : Toml.Table} {infos : List TypeInfo}
    (h : FileForm (.table document) infos) {value item : Toml.Value} {items : List Toml.Value}
    (hvalue : document.lookup "types" = some value) (hitems : value.items? = some items)
    (hitem : item ∈ items) : ∃ info, TypeInfoForm item info := by
  obtain ⟨given, hgives, hform⟩ := h
  obtain ⟨-, -, rfl⟩ := Toml.gives_table_iff.1 hgives
  simp only [hvalue, Toml.OptionalForm, Toml.ListForm, hitems, Option.some.injEq,
    exists_eq_left'] at hform
  obtain ⟨info, -, hinfo⟩ := exists_rel_of_mem_left hform hitem
  exact ⟨info, hinfo⟩

/-- Descriptions that a document lists make a table exactly when their types are all different; it
then holds them, each for its descriptor. Otherwise the error names the type at the least place
where one is described again. A document with a fault in its data, in whichever item, is invalid and
nothing else. -/
theorem ofToml_repetitions (text : String) :
    (∀ infos, listedIn text = .ok infos →
      ((∃ table, ofToml text = .ok table) ↔ (infos.map TypeInfo.descriptor).Nodup) ∧
      (∀ table, ofToml text = .ok table →
        table.size = infos.length ∧
        ∀ descriptor,
          (∀ info, table.get? descriptor = some info ↔
            info ∈ infos ∧ info.descriptor = descriptor) ∧
          (table.get? descriptor = none ↔ ∀ info ∈ infos, info.descriptor ≠ descriptor)) ∧
      (¬ (infos.map TypeInfo.descriptor).Nodup →
        ∃ later info, IsLeast (repetitions infos) later ∧ infos[later]? = some info ∧
          ofToml text = .error (.repeated info.descriptor))) ∧
    ∀ document, Toml.parse text = .ok document →
      ((∀ infos, ¬ FileForm (.table document) infos) →
        ∃ cause, ofToml text = .error (.invalid (.data cause))) ∧
      ∀ value items, document.lookup "types" = some value → value.items? = some items →
        (∃ item ∈ items, ∀ info, ¬ TypeInfoForm item info) →
          ∃ cause, ofToml text = .error (.invalid (.data cause)) := by
  constructor
  · intro infos hinfos
    refine ⟨exists_ofToml_iff hinfos, fun table htable ↦ ?_, fun hrepeated ↦ ?_⟩
    · have hholds : table.Holds infos := (ofToml_eq_ok_iff_holds hinfos).1 htable
      exact ⟨hholds.size_eq, fun descriptor ↦
        ⟨hholds.get?_eq_some_iff descriptor, hholds.get?_eq_none_iff⟩⟩
    · obtain ⟨before, info, after, rfl, hnodup, hmem⟩ := exists_first_repetition hrepeated
      rw [ofToml_of_listedIn hinfos]
      exact ⟨before.length, info, isLeast_repetitions hnodup hmem, by simp,
        ofInfos_eq_error_of_repetition hnodup hmem⟩
  · intro document hparse
    refine ⟨ofToml_of_not_fileForm hparse, fun value items hvalue hitems hfault ↦ ?_⟩
    obtain ⟨item, hitem, hform⟩ := hfault
    refine ofToml_of_not_fileForm hparse fun infos hfile ↦ ?_
    obtain ⟨info, hinfo⟩ := typeInfoForm_of_fileForm hfile hvalue hitems hitem
    exact hform info hinfo

/-- Three types, of which the second and then the first come back. -/
def repeatingText : String :=
  "types = [[\"A\"], [\"B\"], [\"C\"], [\"B\", true], [\"A\"]]"

/-- A type that comes back, and after it one whose descriptor is no text. -/
def faultyText : String :=
  "types = [[\"A\"], [\"A\"], [true]]"

theorem ofToml_repetitions_of_texts :
    (∃ infos, listedIn repeatingText = .ok infos ∧ ¬ (infos.map TypeInfo.descriptor).Nodup ∧
      ∃ later info, IsLeast (repetitions infos) later ∧ infos[later]? = some info ∧
        ofToml repeatingText = .error (.repeated info.descriptor)) ∧
    ∃ document value items, Toml.parse faultyText = .ok document ∧
      document.lookup "types" = some value ∧ value.items? = some items ∧
      (∃ item ∈ items, ∀ info, ¬ TypeInfoForm item info) ∧
      ∃ cause, ofToml faultyText = .error (.invalid (.data cause)) := by
  constructor
  · have hlisted : listedIn repeatingText = .ok [⟨⟨"A"⟩, false, [], []⟩, ⟨⟨"B"⟩, false, [], []⟩,
        ⟨⟨"C"⟩, false, [], []⟩, ⟨⟨"B"⟩, true, [], []⟩, ⟨⟨"A"⟩, false, [], []⟩] :=
      toOption_eq_some_iff.1 (by decide +kernel)
    exact ⟨_, hlisted, by decide,
      ((ofToml_repetitions repeatingText).1 _ hlisted).2.2 (by decide)⟩
  · have hread : ((Toml.parse faultyText).toOption.bind fun document ↦
          (document.lookup "types").bind Toml.Value.items?).map
        (List.map fun item ↦ (TypeInfo.decoder (D := Toml.Decoder) item).toOption) =
          some [some ⟨⟨"A"⟩, false, [], []⟩, some ⟨⟨"A"⟩, false, [], []⟩, none] := by
      decide +kernel
    obtain ⟨items, hfound, hdecoded⟩ := Option.map_eq_some_iff.1 hread
    obtain ⟨document, hdocument, hfound⟩ := Option.bind_eq_some_iff.1 hfound
    obtain ⟨value, hvalue, hitems⟩ := Option.bind_eq_some_iff.1 hfound
    have hparse : Toml.parse faultyText = .ok document := toOption_eq_some_iff.1 hdocument
    have hfault : ∃ item ∈ items, ∀ info, ¬ TypeInfoForm item info := by
      have hnone : none ∈ items.map fun item ↦
          (TypeInfo.decoder (D := Toml.Decoder) item).toOption := by
        rw [hdecoded]
        decide
      obtain ⟨item, hitem, hdecode⟩ := List.mem_map.1 hnone
      refine ⟨item, hitem, fun info hform ↦ ?_⟩
      rw [(reads_typeInfo item info).2 hform] at hdecode
      cases hdecode
    exact ⟨document, value, items, hparse, hvalue, hitems, hfault,
      ((ofToml_repetitions faultyText).2 _ hparse).2 _ _ hvalue hitems hfault⟩

end JvmSchema.TypeTable
