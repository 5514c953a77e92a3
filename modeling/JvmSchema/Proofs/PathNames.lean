import JvmSchema.FilePath
import Mathlib.Data.List.Basic

/-!
# The names that a path goes through

Of the segments of a path only the proper ones lead anywhere. They are the `names` of the path, and
its components are the names with the root or a leading dot before them
(`components_of_isAbsolute`, `leadingNames_of_not_isAbsolute`).

Taking a path from a base directory puts its names after those of the base (`names_join`) and leaves
its end as it is (`endsInName_join`), for every way in which slashes can meet there. The parent of a
path has its names but the last one (`names_of_parent?`). So a file in the directory of a relative
path is found by the same components whether the path is taken from a directory before or after its
parent is (`components_join_parent?`).
-/

set_option autoImplicit false
set_option relaxedAutoImplicit false

namespace JvmSchema.FilePath

/-! ### Segments -/

theorem exists_segmentsOf_eq_cons (text : List Char) :
    ∃ segment more, segmentsOf text = segment :: more := by
  induction text with
  | nil => exact ⟨[], [], rfl⟩
  | cons char rest ih =>
    obtain ⟨segment, more, hrest⟩ := ih
    by_cases h : char = '/'
    · subst h
      exact ⟨[], segmentsOf rest, rfl⟩
    · exact ⟨char :: segment, more, by simp [segmentsOf, hrest]⟩

theorem segmentsOf_cons_of_ne {char : Char} (h : char ≠ '/') {rest segment : List Char}
    {more : List (List Char)} (hrest : segmentsOf rest = segment :: more) :
    segmentsOf (char :: rest) = (char :: segment) :: more := by
  simp [segmentsOf, hrest]

theorem segmentsOf_append (before after : List Char) :
    segmentsOf (before ++ '/' :: after) = segmentsOf before ++ segmentsOf after := by
  induction before with
  | nil => rfl
  | cons char before ih =>
    by_cases h : char = '/'
    · subst h
      exact congrArg ([] :: ·) ih
    · obtain ⟨segment, more, hbefore⟩ := exists_segmentsOf_eq_cons before
      rw [hbefore, List.cons_append] at ih
      rw [List.cons_append, segmentsOf_cons_of_ne h ih, segmentsOf_cons_of_ne h hbefore,
        List.cons_append]

theorem segmentsOf_of_notMem {text : List Char} (h : '/' ∉ text) : segmentsOf text = [text] := by
  induction text with
  | nil => rfl
  | cons char rest ih =>
    rw [List.mem_cons, not_or] at h
    exact segmentsOf_cons_of_ne (Ne.symm h.1) (ih h.2)

theorem slash_notMem_of_mem_segmentsOf {text segment : List Char} (h : segment ∈ segmentsOf text) :
    '/' ∉ segment := by
  induction text generalizing segment with
  | nil =>
    obtain rfl := List.mem_singleton.1 h
    exact List.not_mem_nil
  | cons char rest ih =>
    by_cases hchar : char = '/'
    · subst hchar
      rcases List.mem_cons.1 h with rfl | h
      · exact List.not_mem_nil
      · exact ih h
    · obtain ⟨first, more, hrest⟩ := exists_segmentsOf_eq_cons rest
      rw [segmentsOf_cons_of_ne hchar hrest] at h
      rw [hrest] at ih
      rcases List.mem_cons.1 h with rfl | h
      · rw [List.mem_cons, not_or]
        exact ⟨Ne.symm hchar, ih List.mem_cons_self⟩
      · exact ih (List.mem_cons_of_mem _ h)

/-- The segments hold every character of the text but the slashes. -/
theorem flatten_segmentsOf (text : List Char) :
    (segmentsOf text).flatten = text.filter (· ≠ '/') := by
  induction text with
  | nil => rfl
  | cons char rest ih =>
    by_cases h : char = '/'
    · subst h
      exact ih
    · obtain ⟨segment, more, hrest⟩ := exists_segmentsOf_eq_cons rest
      rw [segmentsOf_cons_of_ne h hrest, List.flatten_cons, List.cons_append, ← List.flatten_cons,
        ← hrest, ih, List.filter_cons_of_pos (by simpa using h)]

theorem segments_append (before after : String) :
    segments (before ++ "/" ++ after) = segments before ++ segments after := by
  have htext : (before ++ "/" ++ after).toList = before.toList ++ '/' :: after.toList := by simp
  rw [segments, htext, segmentsOf_append, List.map_append, segments, segments]

theorem segments_of_notMem {text : String} (h : '/' ∉ text.toList) : segments text = [text] := by
  rw [segments, segmentsOf_of_notMem h, List.map_singleton, String.ofList_toList]

theorem slash_notMem_of_mem_segments {path segment : String} (h : segment ∈ segments path) :
    '/' ∉ segment.toList := by
  obtain ⟨chars, hchars, rfl⟩ := List.mem_map.1 h
  rw [String.toList_ofList]
  exact slash_notMem_of_mem_segmentsOf hchars

theorem segments_empty : segments "" = [""] := by decide

theorem segments_ne_nil (path : String) : segments path ≠ [] := by
  obtain ⟨segment, more, h⟩ := exists_segmentsOf_eq_cons path.toList
  simp [segments, h]

/-- Segments put together with slashes come apart in the same places. -/
theorem segments_intercalate {kept : List String} (hne : kept ≠ [])
    (h : ∀ segment ∈ kept, '/' ∉ segment.toList) : segments ("/".intercalate kept) = kept := by
  induction kept with
  | nil => exact absurd rfl hne
  | cons first rest ih =>
    obtain ⟨hfirst, hrest⟩ := List.forall_mem_cons.1 h
    cases rest with
    | nil => exact segments_of_notMem hfirst
    | cons second more =>
      rw [String.intercalate_cons_cons, segments_append, segments_of_notMem hfirst,
        ih (List.cons_ne_nil _ _) hrest, List.singleton_append]

/-! ### Absolute paths -/

/-- The first segment of an absolute path is empty, and another one follows it. -/
theorem isAbsolute_iff {path : String} :
    isAbsolute path ↔ ∃ second more, segments path = "" :: second :: more := by
  rw [isAbsolute, decide_eq_true_eq, segments]
  cases path.toList with
  | nil => simp [segmentsOf]
  | cons char rest =>
    obtain ⟨segment, more, hrest⟩ := exists_segmentsOf_eq_cons rest
    by_cases h : char = '/'
    · subst h
      simp [segmentsOf, hrest]
    · simp [segmentsOf_cons_of_ne h hrest, h]

theorem isAbsolute_join {base : String} (h : isAbsolute base) (path : String) :
    isAbsolute (join base path) := by
  rw [join]
  split
  · assumption
  · rw [isAbsolute, decide_eq_true_eq] at h
    split <;> simp [isAbsolute, h]

theorem not_isAbsolute_join {base path : String} (h : ¬ isAbsolute base)
    (hpath : ¬ isAbsolute path) : ¬ isAbsolute (join base path) := by
  rw [join, if_neg hpath]
  by_cases hbase : base = ""
  · rw [if_pos (.inl hbase), hbase, String.empty_append]
    exact hpath
  · -- A base that is not empty brings its own first character along.
    obtain ⟨char, rest, hchars⟩ : ∃ char rest, base.toList = char :: rest :=
      List.exists_cons_of_ne_nil (by simpa using hbase)
    simp only [isAbsolute, hchars, List.head?_cons, decide_eq_true_eq] at h
    split <;> simpa [isAbsolute, hchars] using h

theorem join_of_isAbsolute {path : String} (h : isAbsolute path) (base : String) :
    join base path = path :=
  if_pos h

/-! ### Names -/

/-- The segments of a path that lead anywhere. -/
def names (path : String) : List String :=
  (segments path).filter isProper

/-- Whether a path ends in a name, and not in a slash or a dot. -/
def endsInName (path : String) : Bool :=
  (segments path).getLast?.all isProper

theorem names_append (before after : String) :
    names (before ++ "/" ++ after) = names before ++ names after := by
  rw [names, segments_append, List.filter_append, names, names]

theorem names_empty : names "" = [] := by decide

/-- Slashes and dots apart, a path has the characters of its names. -/
theorem mem_toList_iff_exists_mem_names {path : String} {char : Char} (hslash : char ≠ '/')
    (hdot : char ≠ '.') : char ∈ path.toList ↔ ∃ name ∈ names path, char ∈ name.toList := by
  have hmem : char ∈ path.toList ↔ ∃ segment ∈ segments path, char ∈ segment.toList := by
    have hfilter : char ∈ path.toList ↔ char ∈ path.toList.filter (· ≠ '/') := by
      simp [List.mem_filter, hslash]
    rw [hfilter, ← flatten_segmentsOf, List.mem_flatten]
    simp [segments]
  rw [hmem]
  constructor
  · rintro ⟨segment, hsegment, hchar⟩
    refine ⟨segment, List.mem_filter.2 ⟨hsegment, decide_eq_true ⟨?_, ?_⟩⟩, hchar⟩
    · rintro rfl
      exact absurd hchar (by simp)
    · rintro rfl
      exact absurd hchar (by simpa using hdot)
  · rintro ⟨name, hname, hchar⟩
    exact ⟨name, (List.mem_filter.1 hname).1, hchar⟩

theorem names_root_append (path : String) : names ("/" ++ path) = names path := by
  rw [← String.empty_append (s := "/"), names_append, names_empty, List.nil_append]

/-- Wherever slashes meet, a path keeps its segments when it is taken from a base, and the base
gives its names. -/
theorem exists_segments_join (base : String) {path : String} (h : ¬ isAbsolute path) :
    ∃ front, segments (join base path) = front ++ segments path ∧
      front.filter isProper = names base := by
  rw [join, if_neg h]
  by_cases hempty : base = ""
  · subst hempty
    exact ⟨[], by simp, names_empty.symm⟩
  by_cases hslash : base.toList.getLast? = some '/'
  · obtain ⟨init, hinit⟩ := List.getLast?_eq_some_iff.1 hslash
    have hbase : base = String.ofList init ++ "/" ++ "" := by
      rw [← String.toList_inj, hinit]
      simp
    refine ⟨segments (String.ofList init), ?_, ?_⟩
    · rw [if_pos (.inr hslash), hbase, String.append_empty, segments_append]
    · rw [hbase, names_append, names_empty, List.append_nil, names]
  · refine ⟨segments base, ?_, rfl⟩
    rw [if_neg (not_or.2 ⟨hempty, hslash⟩), segments_append]

theorem names_join (base : String) {path : String} (h : ¬ isAbsolute path) :
    names (join base path) = names base ++ names path := by
  obtain ⟨front, hsegments, hfront⟩ := exists_segments_join base h
  rw [names, hsegments, List.filter_append, hfront]
  rfl

theorem endsInName_join (base : String) {path : String} (h : ¬ isAbsolute path) :
    endsInName (join base path) = endsInName path := by
  obtain ⟨front, hsegments, -⟩ := exists_segments_join base h
  rw [endsInName, hsegments, List.getLast?_append_of_ne_nil _ (segments_ne_nil path), endsInName]

/-! ### Components -/

/-- The components of a path after the root, if there is one. -/
def leadingNames (path : String) : List String :=
  ((markedSegments path).filter Prod.snd).map Prod.fst

theorem filter_map_marked (rest : List String) :
    ((rest.map fun segment ↦ (segment, isProper segment)).filter Prod.snd).map Prod.fst =
      rest.filter isProper := by
  rw [List.filter_map, List.map_map]
  exact List.map_id _

theorem markedSegments_of_isAbsolute {path : String} (h : isAbsolute path) :
    ∃ rest, segments path = "" :: rest ∧
      markedSegments path = rest.map fun segment ↦ (segment, isProper segment) := by
  obtain ⟨second, more, hsegments⟩ := isAbsolute_iff.1 h
  exact ⟨second :: more, hsegments, by rw [markedSegments, hsegments]; exact if_pos h⟩

theorem markedSegments_of_not_isAbsolute {path : String} (h : ¬ isAbsolute path) :
    ∃ first rest, segments path = first :: rest ∧ markedSegments path =
      (first, decide (first ≠ "")) :: rest.map fun segment ↦ (segment, isProper segment) := by
  obtain ⟨first, rest, hsegments⟩ := List.exists_cons_of_ne_nil (segments_ne_nil path)
  exact ⟨first, rest, hsegments, by rw [markedSegments, hsegments]; exact if_neg h⟩

theorem leadingNames_of_isAbsolute {path : String} (h : isAbsolute path) :
    leadingNames path = names path := by
  obtain ⟨rest, hsegments, hmarked⟩ := markedSegments_of_isAbsolute h
  rw [leadingNames, hmarked, filter_map_marked, names, hsegments]
  rfl

/-- A relative path can start with a dot, which is a component and leads nowhere. -/
theorem leadingNames_of_not_isAbsolute {path : String} (h : ¬ isAbsolute path) :
    leadingNames path = names path ∨ leadingNames path = "." :: names path := by
  obtain ⟨first, rest, hsegments, hmarked⟩ := markedSegments_of_not_isAbsolute h
  rw [leadingNames, hmarked, names, hsegments]
  by_cases hempty : first = ""
  · subst hempty
    exact .inl (filter_map_marked rest)
  by_cases hdot : first = "."
  · subst hdot
    exact .inr (congrArg ("." :: ·) (filter_map_marked rest))
  · have hproper : isProper first := decide_eq_true ⟨hempty, hdot⟩
    rw [List.filter_cons_of_pos (by simpa using hempty), List.map_cons, filter_map_marked,
      List.filter_cons_of_pos hproper]
    exact .inl rfl

theorem leadingNames_eq_or (path : String) :
    leadingNames path = names path ∨ leadingNames path = "." :: names path := by
  by_cases h : isAbsolute path
  · exact .inl (leadingNames_of_isAbsolute h)
  · exact leadingNames_of_not_isAbsolute h

theorem components_of_isAbsolute {path : String} (h : isAbsolute path) :
    components path = "/" :: names path := by
  rw [← leadingNames_of_isAbsolute h]
  exact if_pos h

theorem names_eq_of_components {path path' : String} (h : isAbsolute path) (h' : isAbsolute path')
    (hcomponents : components path = components path') : names path = names path' := by
  rw [components_of_isAbsolute h, components_of_isAbsolute h', List.cons.injEq] at hcomponents
  exact hcomponents.2

/-! ### Parents -/

theorem filter_dropWhile_not {α : Type} (keep : α → Bool) (items : List α) :
    (items.dropWhile fun item ↦ !keep item).filter keep = items.filter keep := by
  induction items with
  | nil => rfl
  | cons item rest ih => by_cases h : keep item <;> simp [h, ih]

theorem keep_of_dropWhile_not {α : Type} {keep : α → Bool} {items rest : List α} {item : α}
    (h : (items.dropWhile fun item ↦ !keep item) = item :: rest) : keep item := by
  have hhead := List.head?_dropWhile_not (fun item ↦ !keep item) items
  simpa [h] using hhead

theorem parent?_eq_none_iff {path : String} : parent? path = none ↔ leadingNames path = [] := by
  have hfilter := filter_dropWhile_not Prod.snd (markedSegments path).reverse
  rw [List.filter_reverse] at hfilter
  rw [parent?, leadingNames, List.map_eq_nil_iff, ← List.reverse_eq_nil_iff, ← hfilter]
  split
  next hdrop => simp [hdrop]
  next last earlier hdrop =>
    have hlast : last.2 := keep_of_dropWhile_not hdrop
    simp [hdrop, hlast]

/-- The parent is put together from marked segments at the start of the path, and the components
among them are all but the last one. -/
theorem exists_kept_of_parent? {path base : String} (h : parent? path = some base) :
    ∃ kept, kept <+: markedSegments path ∧
      (kept.filter Prod.snd).map Prod.fst = (leadingNames path).dropLast ∧
      base = (if isAbsolute path then "/" else "") ++ "/".intercalate (kept.map Prod.fst) := by
  rw [parent?] at h
  split at h
  next => cases h
  next last earlier hdrop =>
    have hlast : last.2 := keep_of_dropWhile_not hdrop
    refine ⟨(earlier.dropWhile fun segment ↦ !segment.2).reverse, ?_, ?_, (Option.some.inj h).symm⟩
    · rw [← List.reverse_suffix, List.reverse_reverse]
      have hearlier : last :: earlier <:+ (markedSegments path).reverse :=
        hdrop ▸ List.dropWhile_suffix _
      exact ((List.dropWhile_suffix _).trans (List.suffix_cons _ _)).trans hearlier
    · have hfilter := filter_dropWhile_not Prod.snd (markedSegments path).reverse
      rw [hdrop, List.filter_cons_of_pos hlast, List.filter_reverse] at hfilter
      have hmarked : (markedSegments path).filter Prod.snd =
          (earlier.filter Prod.snd).reverse ++ [last] := by
        rw [← List.reverse_cons, hfilter, List.reverse_reverse]
      rw [List.filter_reverse, filter_dropWhile_not, leadingNames, hmarked, List.map_append,
        List.map_singleton, List.dropLast_concat]

theorem mem_segments_of_mem_markedSegments {path : String} {segment : String × Bool}
    (h : segment ∈ markedSegments path) :
    segment.1 ∈ segments path ∧ (isProper segment.1 → segment.2) := by
  by_cases habsolute : isAbsolute path
  · obtain ⟨rest, hsegments, hmarked⟩ := markedSegments_of_isAbsolute habsolute
    rw [hmarked, List.mem_map] at h
    obtain ⟨name, hname, rfl⟩ := h
    exact ⟨hsegments ▸ List.mem_cons_of_mem _ hname, id⟩
  · obtain ⟨first, rest, hsegments, hmarked⟩ := markedSegments_of_not_isAbsolute habsolute
    rw [hmarked, List.mem_cons, List.mem_map] at h
    rcases h with rfl | ⟨name, hname, rfl⟩
    · refine ⟨hsegments ▸ List.mem_cons_self, fun hproper ↦ ?_⟩
      exact decide_eq_true (of_decide_eq_true hproper).1
    · exact ⟨hsegments ▸ List.mem_cons_of_mem _ hname, id⟩

theorem slash_notMem_of_kept {path : String} {kept : List (String × Bool)}
    (h : kept <+: markedSegments path) : ∀ segment ∈ kept.map Prod.fst, '/' ∉ segment.toList := by
  intro segment hsegment
  obtain ⟨marked, hmarked, rfl⟩ := List.mem_map.1 hsegment
  exact slash_notMem_of_mem_segments
    (mem_segments_of_mem_markedSegments (h.subset hmarked)).1

theorem names_intercalate {kept : List String} (h : ∀ segment ∈ kept, '/' ∉ segment.toList) :
    names ("/".intercalate kept) = kept.filter isProper := by
  by_cases hne : kept = []
  · subst hne
    exact names_empty
  · rw [names, segments_intercalate hne h]

theorem isAbsolute_iff_of_parent? {path base : String} (h : parent? path = some base) :
    isAbsolute base ↔ isAbsolute path := by
  obtain ⟨kept, hinitial, -, rfl⟩ := exists_kept_of_parent? h
  by_cases habsolute : isAbsolute path
  · rw [if_pos habsolute, iff_true_right habsolute]
    simp [isAbsolute]
  · rw [if_neg habsolute, String.empty_append, iff_false_right habsolute, isAbsolute_iff]
    rintro ⟨second, more, hsegments⟩
    have hne : kept.map Prod.fst ≠ [] := by
      intro hnil
      simp [hnil, segments_empty] at hsegments
    rw [segments_intercalate hne (slash_notMem_of_kept hinitial)] at hsegments
    -- The kept segments start as the relative path does, so the path would start with a slash.
    obtain ⟨first, rest, hpath, hmarked⟩ := markedSegments_of_not_isAbsolute habsolute
    have hstart : "" :: second :: more <+: segments path := by
      have hmap := hinitial.map Prod.fst
      rw [hsegments, hmarked, List.map_cons, List.map_map] at hmap
      rw [hpath]
      simpa [Function.comp_def] using hmap
    obtain ⟨rest', hrest'⟩ := hstart
    exact habsolute (isAbsolute_iff.2 ⟨second, more ++ rest', hrest'.symm⟩)

/-- The parent of a path with a name has the names of the path but the last one. -/
theorem names_of_parent? {path base : String} (h : parent? path = some base)
    (hne : names path ≠ []) : names base = (names path).dropLast := by
  obtain ⟨kept, hinitial, hkept, hbase⟩ := exists_kept_of_parent? h
  have hproper : ∀ name ∈ (names path).dropLast, isProper name := fun name hname ↦
    (List.mem_filter.1 ((List.dropLast_prefix _).subset hname)).2
  have hmark : kept.filter (isProper ∘ Prod.fst) =
      (kept.filter Prod.snd).filter (isProper ∘ Prod.fst) := by
    rw [List.filter_filter]
    refine List.filter_congr fun segment hsegment ↦ ?_
    have hsegment := (mem_segments_of_mem_markedSegments (hinitial.subset hsegment)).2
    cases hname : isProper segment.1 <;> simp_all
  calc names base
      = names ("/".intercalate (kept.map Prod.fst)) := by
        rw [hbase]
        split
        · exact names_root_append _
        · rw [String.empty_append]
    _ = (leadingNames path).dropLast.filter isProper := by
        rw [names_intercalate (slash_notMem_of_kept hinitial), ← hkept, List.filter_map, hmark,
          List.filter_map]
    _ = (names path).dropLast := by
        rcases leadingNames_eq_or path with heq | heq
        · rw [heq, List.filter_eq_self.2 hproper]
        · rw [heq, List.dropLast_cons_of_ne_nil hne, List.filter_cons_of_neg (by decide),
            List.filter_eq_self.2 hproper]

theorem exists_parent? {path : String} (h : names path ≠ []) :
    ∃ base, parent? path = some base := by
  rw [← Option.ne_none_iff_exists', Ne, parent?_eq_none_iff]
  intro hleading
  rcases leadingNames_eq_or path with heq | heq
  · exact h (heq ▸ hleading)
  · exact absurd (heq ▸ hleading) (List.cons_ne_nil _ _)

/-- A path that is taken from the parent of a file goes through the same names whether the relative
path of the file is taken from a directory, or what comes of it. -/
theorem components_join_parent? {directory path base base' entry : String}
    (hdirectory : isAbsolute directory) (hpath : ¬ isAbsolute path) (hne : names path ≠ [])
    (hbase : parent? path = some base) (hbase' : parent? (join directory path) = some base')
    (hentry : ¬ isAbsolute entry) :
    components (join base' entry) = components (join directory (join base entry)) ∧
      endsInName (join base' entry) = endsInName (join directory (join base entry)) := by
  have hrelative : ¬ isAbsolute (join base entry) :=
    not_isAbsolute_join (mt (isAbsolute_iff_of_parent? hbase).1 hpath) hentry
  have habsolute : isAbsolute base' :=
    (isAbsolute_iff_of_parent? hbase').2 (isAbsolute_join hdirectory path)
  have hnames : names (join directory path) = names directory ++ names path := names_join _ hpath
  have hne' : names (join directory path) ≠ [] := by simp [hnames, hne]
  have heq : names (join base' entry) = names (join directory (join base entry)) :=
    calc names (join base' entry)
        = (names (join directory path)).dropLast ++ names entry := by
          rw [names_join _ hentry, names_of_parent? hbase' hne']
      _ = names directory ++ ((names path).dropLast ++ names entry) := by
          rw [hnames, List.dropLast_append_of_ne_nil hne, List.append_assoc]
      _ = names (join directory (join base entry)) := by
          rw [names_join _ hrelative, names_join _ hentry, names_of_parent? hbase hne]
  constructor
  · rw [components_of_isAbsolute (isAbsolute_join habsolute entry), heq,
      components_of_isAbsolute (isAbsolute_join hdirectory _)]
  · rw [endsInName_join _ hentry, endsInName_join _ hrelative, endsInName_join _ hentry]

end JvmSchema.FilePath
