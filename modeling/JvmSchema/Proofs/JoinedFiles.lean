import JvmSchema.Proofs.RunEvents
import JvmSchema.Proofs.TableMerging
import JvmSchema.Proofs.TypeFileText

/-!
# One file or two layers

Types can be given in one file, which refuses a type that comes back, or in two files of which the
later overrides the earlier. As long as no type is in both parts this makes no difference, and the
order of the parts makes none either (`extend_comm`). If a type is in both parts the one file is
refused, for the first type of the second part that the first part lists, while the two files go on
to a table in which the second part wins.

The reason is that layering the tables of two lists is putting in the one list after the other
(`Holds.extend_eq`). `ofToml_of_split` says what follows for files and for a run that reads them.
-/

set_option autoImplicit false
set_option relaxedAutoImplicit false

namespace JvmSchema.TypeTable

open TableRuns (listedIn)

/-! ### Layers of lists -/

theorem extend_insertAll (table : TypeTable) (infos : List TypeInfo) :
    table.extend (empty.insertAll infos) = table.insertAll infos :=
  ext_get? fun descriptor ↦ by
    rw [get?_extend, get?_insertAll, get?_insertAll, get?_empty, Option.or_none]

theorem insertAll_append (table : TypeTable) (before after : List TypeInfo) :
    table.insertAll (before ++ after) = (table.insertAll before).insertAll after :=
  List.foldl_append

theorem Holds.eq_insertAll {table : TypeTable} {infos : List TypeInfo} (h : table.Holds infos) :
    table = empty.insertAll infos :=
  h.eq (holds_insertAll h.distinct)

theorem Holds.descriptors_eq {table : TypeTable} {infos : List TypeInfo} (h : table.Holds infos) :
    table.descriptors = (infos.map TypeInfo.descriptor).toFinset := by
  rw [h.eq_insertAll, descriptors_insertAll h.distinct]

/-- Layering the tables of two lists puts in the one list after the other. -/
theorem Holds.extend_eq {base added : TypeTable} {before after : List TypeInfo}
    (hbase : base.Holds before) (hadded : added.Holds after) :
    base.extend added = empty.insertAll (before ++ after) := by
  rw [insertAll_append, ← hbase.eq_insertAll, hadded.eq_insertAll, extend_insertAll]

/-- In two layers a description of the later one stays, and one of the earlier one if the later one
does not list its type. -/
theorem Holds.get?_extend_eq_some_iff {base added : TypeTable} {before after : List TypeInfo}
    (hbase : base.Holds before) (hadded : added.Holds after) {descriptor : Descriptor}
    {info : TypeInfo} : (base.extend added).get? descriptor = some info ↔
      info.descriptor = descriptor ∧
        (info ∈ after ∨ info ∈ before ∧ descriptor ∉ after.map TypeInfo.descriptor) := by
  have hnone : added.get? descriptor = none ↔ descriptor ∉ after.map TypeInfo.descriptor := by
    rw [hadded.get?_eq_none_iff, List.mem_map]
    push Not
    rfl
  rw [get?_extend, Option.or_eq_some_iff, hadded.get?_eq_some_iff, hbase.get?_eq_some_iff, hnone]
  tauto

/-! ### Types that come back in the second list -/

/-- The first type of a list that is among given ones. -/
theorem exists_first_shared {infos : List TypeInfo} {known : List Descriptor}
    (h : ¬ known.Disjoint (infos.map TypeInfo.descriptor)) :
    ∃ before info after, infos = before ++ info :: after ∧ info.descriptor ∈ known ∧
      ∀ other ∈ before, other.descriptor ∉ known := by
  have hfound : (infos.find? fun info ↦ info.descriptor ∈ known).isSome := by
    by_contra hnone
    refine h fun descriptor hknown hmem ↦ hnone ?_
    obtain ⟨info, hinfo, rfl⟩ := List.mem_map.1 hmem
    exact List.find?_isSome.2 ⟨info, hinfo, by simpa using hknown⟩
  obtain ⟨info, hinfo⟩ := Option.isSome_iff_exists.1 hfound
  obtain ⟨hknown, before, after, hinfos, hbefore⟩ := List.find?_eq_some_iff_append.1 hinfo
  exact ⟨before, info, after, hinfos, by simpa using hknown,
    fun other hother ↦ by simpa using hbefore other hother⟩

/-- A list is refused for the first type of its second part that is in its first part, if neither
part repeats a type. -/
theorem ofInfos_append_eq_error {first before after : List TypeInfo} {info : TypeInfo}
    (hfirst : (first.map TypeInfo.descriptor).Nodup)
    (hsecond : ((before ++ info :: after).map TypeInfo.descriptor).Nodup)
    (hmem : info.descriptor ∈ first.map TypeInfo.descriptor)
    (hnew : ∀ other ∈ before, other.descriptor ∉ first.map TypeInfo.descriptor) :
    ofInfos (first ++ (before ++ info :: after)) = .error (.repeated info.descriptor) := by
  -- Up to the shared type nothing comes back, neither within a part nor from one to the other.
  have hnodup : ((first ++ before).map TypeInfo.descriptor).Nodup := by
    rw [List.map_append] at hsecond ⊢
    refine hfirst.append hsecond.of_append_left fun descriptor hdescriptor hother ↦ ?_
    obtain ⟨other, hmem, rfl⟩ := List.mem_map.1 hother
    exact hnew other hmem hdescriptor
  have hcomes : info.descriptor ∈ (first ++ before).map TypeInfo.descriptor := by
    rw [List.map_append]
    exact List.mem_append_left _ hmem
  rw [← List.append_assoc]
  exact ofInfos_eq_error_of_repetition hnodup hcomes

/-! ### The files -/

/-- No type is in both lists. -/
def Apart (xs ys : List TypeInfo) : Prop :=
  (xs.map TypeInfo.descriptor).Disjoint (ys.map TypeInfo.descriptor)

/-- Two texts list the parts of what a third one lists. -/
structure Split (first second joined : String) (xs ys : List TypeInfo) : Prop where
  first : listedIn first = .ok xs
  second : listedIn second = .ok ys
  joined : listedIn joined = .ok (xs ++ ys)

theorem split_fileText (xs ys : List TypeInfo) :
    Split (fileText xs) (fileText ys) (fileText (xs ++ ys)) xs ys where
  first := listedIn_fileText xs
  second := listedIn_fileText ys
  joined := listedIn_fileText (xs ++ ys)

namespace Split

variable {first second joined : String} {xs ys : List TypeInfo} {base added : TypeTable}

theorem exists_joined_iff (h : Split first second joined xs ys) :
    (∃ table, ofToml joined = .ok table) ↔
      (∃ table, ofToml first = .ok table) ∧ (∃ table, ofToml second = .ok table) ∧ Apart xs ys := by
  rw [exists_ofToml_iff h.joined, exists_ofToml_iff h.first, exists_ofToml_iff h.second,
    List.map_append, List.nodup_append']
  rfl

theorem holds (h : Split first second joined xs ys) (hfirst : ofToml first = .ok base)
    (hsecond : ofToml second = .ok added) : base.Holds xs ∧ added.Holds ys :=
  ⟨(ofToml_eq_ok_iff_holds h.first).1 hfirst, (ofToml_eq_ok_iff_holds h.second).1 hsecond⟩

/-- Parts that share no type make the table of their layers. -/
theorem joined_of_apart (h : Split first second joined xs ys) (hfirst : ofToml first = .ok base)
    (hsecond : ofToml second = .ok added) (hapart : Apart xs ys) :
    ofToml joined = .ok (base.extend added) := by
  obtain ⟨hbase, hadded⟩ := h.holds hfirst hsecond
  have hnodup : ((xs ++ ys).map TypeInfo.descriptor).Nodup := by
    rw [List.map_append]
    exact hbase.distinct.append hadded.distinct hapart
  rw [ofToml_eq_ok_iff_holds h.joined, hbase.extend_eq hadded]
  exact holds_insertAll hnodup

/-- Parts that share a type are refused together, for the first type of the second part that the
first part lists. -/
theorem joined_of_not_apart (h : Split first second joined xs ys)
    (hfirst : ofToml first = .ok base) (hsecond : ofToml second = .ok added)
    (hshared : ¬ Apart xs ys) :
    ∃ before info after, ys = before ++ info :: after ∧
      info.descriptor ∈ xs.map TypeInfo.descriptor ∧
      (∀ other ∈ before, other.descriptor ∉ xs.map TypeInfo.descriptor) ∧
      ofToml joined = .error (.repeated info.descriptor) := by
  obtain ⟨hbase, hadded⟩ := h.holds hfirst hsecond
  obtain ⟨before, info, after, rfl, hmem, hnew⟩ := exists_first_shared hshared
  refine ⟨before, info, after, rfl, hmem, hnew, ?_⟩
  rw [ofToml_of_listedIn h.joined]
  exact ofInfos_append_eq_error hbase.distinct hadded.distinct hmem hnew

end Split

/-! ### Runs over the files -/

theorem result_load_of_readText {files : FileSystem} {path text : String}
    (h : files.readText path = .ok text) : (load files path).result = ofToml text := by
  have hread : (files.readText path).mapError (TableError.unreadable path) >>= ofToml =
      ofToml text := by
    rw [h]
    rfl
  rw [load_eq, hread]
  cases ofToml text <;> rfl

theorem loads_of_readText {files : FileSystem} {path text : String} {table : TypeTable}
    (hread : files.readText path = .ok text) (htable : ofToml text = .ok table) :
    Loads files path table :=
  (result_load_of_readText hread).trans htable

/-- A file can be replaced by others that load to its layers. -/
theorem result_extendByFiles_of_layers {files : FileSystem} {lower upper whole : String}
    {base added : TypeTable} (hlower : Loads files lower base) (hupper : Loads files upper added)
    (hwhole : Loads files whole (base.extend added)) (table : TypeTable) (rest : List String) :
    (table.extendByFiles files (whole :: rest)).result =
      (table.extendByFiles files (lower :: upper :: rest)).result := by
  rw [result_extendByFiles_cons hwhole, result_extendByFiles_cons hlower,
    result_extendByFiles_cons hupper, extend_assoc]

/-- One file with the types of two makes a table exactly when each of the two does and they share no
type; it is then the table of the two layers in either order, and a run may read the two files in
place of the one. If the two make tables and share a type, the one file is refused for the first
type of the second part that the first part lists. The layers make a table all the same, in which
the second part wins. -/
theorem ofToml_of_split (xs ys : List TypeInfo) :
    (∃ first second joined, Split first second joined xs ys) ∧
    ∀ first second joined, Split first second joined xs ys →
      ((∃ table, ofToml joined = .ok table) ↔
        (∃ table, ofToml first = .ok table) ∧ (∃ table, ofToml second = .ok table) ∧
          Apart xs ys) ∧
      ∀ base added, ofToml first = .ok base → ofToml second = .ok added →
        (Apart xs ys →
          ofToml joined = .ok (base.extend added) ∧ base.extend added = added.extend base) ∧
        (¬ Apart xs ys → ∃ before info after, ys = before ++ info :: after ∧
            info.descriptor ∈ xs.map TypeInfo.descriptor ∧
            (∀ other ∈ before, other.descriptor ∉ xs.map TypeInfo.descriptor) ∧
            ofToml joined = .error (.repeated info.descriptor)) ∧
        (∀ descriptor info, (base.extend added).get? descriptor = some info ↔
          info.descriptor = descriptor ∧
            (info ∈ ys ∨ info ∈ xs ∧ descriptor ∉ ys.map TypeInfo.descriptor)) ∧
        ∀ (files : FileSystem) (lower upper whole : String),
          files.readText lower = .ok first → files.readText upper = .ok second →
          files.readText whole = .ok joined → ∀ table : TypeTable,
            (table.extendByFiles files [lower, upper]).result =
              .ok (table.extend (base.extend added)) ∧
            (Apart xs ys → ∀ rest,
              (table.extendByFiles files (whole :: rest)).result =
                (table.extendByFiles files (lower :: upper :: rest)).result) := by
  refine ⟨⟨_, _, _, split_fileText xs ys⟩, fun first second joined hsplit ↦
    ⟨hsplit.exists_joined_iff, fun base added hfirst hsecond ↦ ?_⟩⟩
  obtain ⟨hbase, hadded⟩ := hsplit.holds hfirst hsecond
  refine ⟨fun hapart ↦ ⟨hsplit.joined_of_apart hfirst hsecond hapart, ?_⟩,
    hsplit.joined_of_not_apart hfirst hsecond,
    fun descriptor info ↦ hbase.get?_extend_eq_some_iff hadded,
    fun files lower upper whole hlower hupper hwhole table ↦ ?_⟩
  · refine extend_comm ?_
    rw [hbase.descriptors_eq, hadded.descriptors_eq]
    exact List.disjoint_toFinset_iff_disjoint.2 hapart
  · have hlower : Loads files lower base := loads_of_readText hlower hfirst
    have hupper : Loads files upper added := loads_of_readText hupper hsecond
    constructor
    · rw [result_extendByFiles_cons hlower, result_extendByFiles_cons hupper, extend_assoc]
      rfl
    · intro hapart rest
      have hwhole : Loads files whole (base.extend added) :=
        loads_of_readText hwhole (hsplit.joined_of_apart hfirst hsecond hapart)
      exact result_extendByFiles_of_layers hlower hupper hwhole table rest

/-- Two types. -/
def lowerText : String := "types = [[\"A\", true], [\"B\"]]"

/-- A further type, and one of the two again. -/
def upperText : String := "types = [[\"C\"], [\"B\", true]]"

/-- The types of both texts. -/
def sharedText : String := "types = [[\"A\", true], [\"B\"], [\"C\"], [\"B\", true]]"

/-- The two types and two others. -/
def apartText : String := "types = [[\"A\", true], [\"B\"], [\"C\"], [\"D\"]]"

/-- The two others. -/
def othersText : String := "types = [[\"C\"], [\"D\"]]"

/-- Files with some of the texts. -/
def partFiles : FileSystem where
  read path :=
    if path = "lower.toml" then .ok lowerText.toUTF8
    else if path = "others.toml" then .ok othersText.toUTF8
    else if path = "whole.toml" then .ok apartText.toUTF8
    else .error .missing
  isFile path := path ∈ ["lower.toml", "others.toml", "whole.toml"]

theorem ofToml_of_split_files :
    (∃ xs ys, Split lowerText upperText sharedText xs ys ∧
      ¬ Apart xs ys ∧
      ∃ before info after, ys = before ++ info :: after ∧
        info.descriptor ∈ xs.map TypeInfo.descriptor ∧
        (∀ other ∈ before, other.descriptor ∉ xs.map TypeInfo.descriptor) ∧
        ofToml sharedText = .error (.repeated info.descriptor)) ∧
    ∃ xs ys base added, Split lowerText othersText apartText xs ys ∧
      Apart xs ys ∧
      ofToml lowerText = .ok base ∧ ofToml othersText = .ok added ∧
      ofToml apartText = .ok (base.extend added) ∧
      (jdk.extendByFiles partFiles ["whole.toml"]).result =
        (jdk.extendByFiles partFiles ["lower.toml", "others.toml"]).result := by
  have hlower : listedIn lowerText = .ok [⟨⟨"A"⟩, true, [], []⟩, ⟨⟨"B"⟩, false, [], []⟩] :=
    toOption_eq_some_iff.1 (by decide +kernel)
  obtain ⟨base, hbase⟩ : ∃ base, ofToml lowerText = .ok base :=
    (exists_ofToml_iff hlower).2 (by decide)
  constructor
  · have hupper : listedIn upperText = .ok [⟨⟨"C"⟩, false, [], []⟩, ⟨⟨"B"⟩, true, [], []⟩] :=
      toOption_eq_some_iff.1 (by decide +kernel)
    obtain ⟨added, hadded⟩ : ∃ added, ofToml upperText = .ok added :=
      (exists_ofToml_iff hupper).2 (by decide)
    have hsplit : Split lowerText upperText sharedText _ _ :=
      ⟨hlower, hupper, toOption_eq_some_iff.1 (by decide +kernel)⟩
    have hshared : ¬ Apart [⟨⟨"A"⟩, true, [], []⟩, ⟨⟨"B"⟩, false, [], []⟩]
        [⟨⟨"C"⟩, false, [], []⟩, ⟨⟨"B"⟩, true, [], []⟩] := by
      simp [Apart]
    exact ⟨_, _, hsplit, hshared,
      (((ofToml_of_split _ _).2 _ _ _ hsplit).2 base added hbase hadded).2.1 hshared⟩
  · have hothers : listedIn othersText = .ok [⟨⟨"C"⟩, false, [], []⟩, ⟨⟨"D"⟩, false, [], []⟩] :=
      toOption_eq_some_iff.1 (by decide +kernel)
    obtain ⟨added, hadded⟩ : ∃ added, ofToml othersText = .ok added :=
      (exists_ofToml_iff hothers).2 (by decide)
    have hsplit : Split lowerText othersText apartText _ _ :=
      ⟨hlower, hothers, toOption_eq_some_iff.1 (by decide +kernel)⟩
    have hapart : Apart [⟨⟨"A"⟩, true, [], []⟩, ⟨⟨"B"⟩, false, [], []⟩]
        [⟨⟨"C"⟩, false, [], []⟩, ⟨⟨"D"⟩, false, [], []⟩] := by
      simp [Apart]
    obtain ⟨hjoined, -, -, hrun⟩ := ((ofToml_of_split _ _).2 _ _ _ hsplit).2 base added hbase hadded
    have hfiles := (hrun partFiles "lower.toml" "others.toml" "whole.toml"
      (toOption_eq_some_iff.1 (by decide +kernel)) (toOption_eq_some_iff.1 (by decide +kernel))
      (toOption_eq_some_iff.1 (by decide +kernel)) jdk).2 hapart []
    exact ⟨_, _, base, added, hsplit, hapart, hbase, hadded, (hjoined hapart).1, hfiles⟩

end JvmSchema.TypeTable
