import JvmSchema.Proofs.KeyOrder

/-!
# One description in two formats

A type description is read from JSON exactly when the table file that lists it alone is accepted,
and both then say the same (`TypeInfo.readings_agree`). This holds of every tree that both formats
write, well formed as a description or not, as long as it fits (`TypeInfo.Fits`), and of every text
of it in either format. The order of keys does not matter in either.
-/

set_option autoImplicit false
set_option relaxedAutoImplicit false

namespace JvmSchema

open Toml (gives_table_iff OptionalForm ListForm)

/-! ### The two readings -/

variable {value other : Json.Value} {given : Toml.Value}

/-- Reading a text of a tree is decoding the tree, which may be done in the other format. -/
theorem decode_eq_ok_iff_of_shows {json : String} (hread : Json.read json = .ok value)
    (hfits : TypeInfo.Fits value) (hshows : Shows value given) {info : TypeInfo} :
    Json.decode TypeInfo.decoder json = .ok info ↔
      TypeInfo.decoder (D := Toml.Decoder) given = .ok info := by
  have hrun := agrees_typeInfo hshows hfits [] info []
  rw [List.append_nil] at hrun
  rw [Json.decode_eq_ok_iff, Json.tokens_of_read hread, hrun, and_iff_left rfl]

/-- Key order does not matter to what a tree is decoded to. -/
theorem toml_decoder_reordered (htree : value.IsTree) (hother : Reordered value other)
    (hshows : Shows value given) {given' : Toml.Value} (hshows' : Shows other given')
    {info : TypeInfo} : TypeInfo.decoder (D := Toml.Decoder) given' = .ok info ↔
      TypeInfo.decoder (D := Toml.Decoder) given = .ok info :=
  (blind_typeInfo (sameContent_of_reordered htree hother hshows hshows') info).symm

namespace TypeTable

/-- A file that lists one description is the table of that description alone. -/
theorem ofDocument_types_eq_ok_iff {listed : Toml.Value} (hlisted : listed.items? = some [given])
    {table : TypeTable} : ofDocument [("types", listed)] = .ok table ↔
      ∃ info, TypeInfo.decoder (D := Toml.Decoder) given = .ok info ∧
        table = empty.insertAll [info] := by
  have hform (infos : List TypeInfo) : FileForm (.table [("types", listed)]) infos ↔
      ∃ info, TypeInfoForm given info ∧ infos = [info] := by
    have hlist : FileForm (.table [("types", listed)]) infos ↔
        ListForm TypeInfoForm listed infos := by
      simp [FileForm, gives_table_iff, OptionalForm]
    rw [hlist, ListForm, hlisted]
    simp only [Option.some.injEq, exists_eq_left', List.forall₂_cons_left_iff,
      List.forall₂_nil_left_iff]
    constructor
    · rintro ⟨info, _, hinfo, rfl, h⟩
      exact ⟨info, hinfo, h⟩
    · rintro ⟨info, hinfo, h⟩
      exact ⟨info, [], hinfo, rfl, h⟩
  have hholds (info : TypeInfo) : table.Holds [info] ↔ table = empty.insertAll [info] := by
    have hempty : (empty.insertAll [info]).Holds [info] := holds_insertAll (List.nodup_singleton _)
    constructor
    · exact fun h ↦ h.eq hempty
    · rintro rfl
      exact hempty
  rw [ofDocument_eq_ok_iff]
  simp only [hform, reads_typeInfo given]
  constructor
  · rintro ⟨_, ⟨info, hinfo, rfl⟩, h⟩
    exact ⟨info, hinfo, (hholds info).1 h⟩
  · rintro ⟨info, hinfo, h⟩
    exact ⟨[info], ⟨info, hinfo, rfl⟩, (hholds info).2 h⟩

theorem ofToml_types_eq_ok_iff {toml : String} {listed : Toml.Value}
    (hparse : Toml.parse toml = .ok [("types", listed)]) (hlisted : listed.items? = some [given])
    {table : TypeTable} : ofToml toml = .ok table ↔
      ∃ info, TypeInfo.decoder (D := Toml.Decoder) given = .ok info ∧
        table = empty.insertAll [info] := by
  rw [ofToml_eq_ok_iff, ← ofDocument_types_eq_ok_iff hlisted]
  simp [hparse]

end TypeTable

/-- A description is read from a JSON text of a tree exactly when the TOML text whose only key
`types` lists the tree alone makes a table, and then the table has the same description for its only
entry. Both readings are the same for every order of the keys; which fault is named may differ. -/
theorem TypeInfo.readings_agree {value : Json.Value} (htree : value.IsTree)
    (hfits : TypeInfo.Fits value) {json toml : String} {listed : Toml.Value}
    (hjson : Json.read json = .ok value) (htoml : Toml.parse toml = .ok [("types", listed)])
    (hlisted : Shows (.array [value]) listed) :
    ((∃ info, Json.decode TypeInfo.decoder json = .ok info) ↔
      ∃ table, TypeTable.ofToml toml = .ok table) ∧
    (∀ table, TypeTable.ofToml toml = .ok table →
      ∃ info, table.entries = [info] ∧ Json.decode TypeInfo.decoder json = .ok info) ∧
    ∀ other, Reordered value other →
      (∀ json', Json.read json' = .ok other → ∀ info,
        Json.decode TypeInfo.decoder json' = .ok info ↔
          Json.decode TypeInfo.decoder json = .ok info) ∧
      ∀ toml' listed', Toml.parse toml' = .ok [("types", listed')] →
        Shows (.array [other]) listed' → ∀ table,
          TypeTable.ofToml toml' = .ok table ↔ TypeTable.ofToml toml = .ok table := by
  obtain ⟨given, hitem, hshows⟩ := hlisted.exists_item
  have hdecode (info : TypeInfo) : Json.decode TypeInfo.decoder json = .ok info ↔
      TypeInfo.decoder (D := Toml.Decoder) given = .ok info :=
    decode_eq_ok_iff_of_shows hjson hfits hshows
  have htable (table : TypeTable) : TypeTable.ofToml toml = .ok table ↔
      ∃ info, TypeInfo.decoder (D := Toml.Decoder) given = .ok info ∧
        table = TypeTable.empty.insertAll [info] :=
    TypeTable.ofToml_types_eq_ok_iff htoml hitem
  refine ⟨?_, fun table h ↦ ?_, fun other hother ↦ ⟨fun json' hjson' info ↦ ?_, ?_⟩⟩
  · simp only [hdecode, htable]
    constructor
    · rintro ⟨info, hinfo⟩
      exact ⟨_, info, hinfo, rfl⟩
    · rintro ⟨_, info, hinfo, _⟩
      exact ⟨info, hinfo⟩
  · obtain ⟨info, hinfo, rfl⟩ := (htable table).1 h
    exact ⟨info, rfl, (hdecode info).2 hinfo⟩
  · obtain ⟨given', hshows'⟩ := (htree.reordered hother).exists_shows
    rw [decode_eq_ok_iff_of_shows hjson' (keeps_typeInfo hother hfits) hshows', hdecode]
    exact toml_decoder_reordered htree hother hshows hshows'
  · intro toml' listed' htoml' hlisted' table
    obtain ⟨given', hitem', hshows'⟩ := hlisted'.exists_item
    rw [TypeTable.ofToml_types_eq_ok_iff htoml' hitem', htable]
    simp only [toml_decoder_reordered htree hother hshows hshows']

/-- A method by position, and the descriptor not in its place. -/
theorem TypeInfo.readings_agree_mixed :
    let method : Json.Value := .array [.text "of", .array [], .boolean true]
    let value : Json.Value := .object [("methods", .array [method]), ("descriptor", .text "I")]
    let json := "\x7b\"methods\":[[\"of\",[],true]],\"descriptor\":\"I\"\x7d"
    let toml := "types = [\x7bmethods=[[\"of\",[],true]],descriptor=\"I\"\x7d]"
    let listed : Toml.Value := .array [.table
      [("methods", .array [.array [.text "of", .array [], .boolean true]]),
        ("descriptor", .text "I")]]
    let info : TypeInfo := { descriptor := ⟨"I"⟩, methods := [.static "of" []] }
    value.IsTree ∧ TypeInfo.Fits value ∧ Json.read json = .ok value ∧
      Toml.parse toml = .ok [("types", listed)] ∧ Shows (.array [value]) listed ∧
      Json.decode TypeInfo.decoder json = .ok info ∧
      ∃ table, TypeTable.ofToml toml = .ok table ∧ table.entries = [info] := by
  intro method value json toml listed info
  have hmethod : method.IsTree := by
    refine .array (List.forall_mem_cons.2 ⟨.text _, List.forall_mem_cons.2 ⟨.array nofun, ?_⟩⟩)
    exact List.forall_mem_singleton.2 (.boolean true)
  have htree : value.IsTree := by
    refine .object (by decide) (List.forall_mem_cons.2 ⟨?_, ?_⟩)
    · exact .array (List.forall_mem_singleton.2 hmethod)
    · exact List.forall_mem_singleton.2 (.text "I")
  have hfits : TypeInfo.Fits value := by
    intro index part hpart
    cases index with
    | methods =>
      have hmethods : part = .array [method] := by
        simpa [value, TypeInfo.record, TypeInfo.Field.label] using hpart
      subst hmethods
      refine List.forall_mem_singleton.2 ⟨by decide, ?_⟩
      rintro ⟨index, item⟩ hplace
      cases index with
      | visibility => simp [Method.record] at hplace
      | _ => trivial
    | constructors => simp [TypeInfo.record, TypeInfo.Field.label] at hpart
    | _ => trivial
  have hitem : method.Readable := by
    refine .array (List.forall_mem_cons.2 ⟨Json.readable_text _, List.forall_mem_cons.2 ⟨?_, ?_⟩⟩)
    · exact .array (List.forall_mem_nil _)
    · exact List.forall_mem_singleton.2 (Json.readable_boolean true)
  have hreadable : value.Readable :=
    .object (List.forall_mem_cons.2 ⟨.array (List.forall_mem_singleton.2 hitem),
      List.forall_mem_singleton.2 (Json.readable_text "I")⟩)
  have hjson : Json.read json = .ok value := Json.read_of_tokens hreadable (by decide +kernel)
  have htoml : Toml.parse toml = .ok [("types", listed)] :=
    toOption_eq_some_iff.1 (by decide +kernel)
  have hlisted : Shows (.array [value]) listed := by
    have hitems : List.Forall₂ Shows [.text "of", .array [], .boolean true]
        [.text "of", .array [], .boolean true] :=
      .cons (.text _) (.cons (.array rfl .nil) (.cons (.boolean _) .nil))
    have hmethods : Shows (.array [method]) (.array [.array _]) :=
      .array rfl (.cons (.array rfl hitems) .nil)
    exact .array rfl (.cons (.object (.cons hmethods (.cons (.text "I") .nil))) .nil)
  have hinfo : Json.decode TypeInfo.decoder json = .ok info :=
    toOption_eq_some_iff.1 (by decide +kernel)
  obtain ⟨haccepts, hsame, -⟩ := readings_agree htree hfits hjson htoml hlisted
  obtain ⟨table, htable⟩ := haccepts.1 ⟨info, hinfo⟩
  obtain ⟨other, hentries, hother⟩ := hsame table htable
  obtain rfl : info = other := Except.ok.inj (hinfo.symm.trans hother)
  exact ⟨htree, hfits, hjson, htoml, hlisted, hinfo, table, htable, hentries⟩

-- Beyond the fields of a record the formats differ: TOML ignores what else is given by position.
example :
    (Json.decode TypeInfo.decoder "[\"I\",true,[],[],0]").toOption = none ∧
      (TypeTable.ofToml "types = [[\"I\", true, [], [], 0]]").toOption.isSome := by
  decide +kernel

end JvmSchema
