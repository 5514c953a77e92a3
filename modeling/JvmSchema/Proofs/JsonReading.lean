import JvmSchema.Proofs.JsonTokens
import JvmSchema.Proofs.RecordComponents
import Mathlib.Data.List.Forall2

/-!
# Reading what was written

Decoders of JSON text, run on the tokens of a value. A decoder `Takes` tokens when it makes its
result of them and leaves alone whatever follows.
-/

set_option autoImplicit false
set_option relaxedAutoImplicit false

namespace JvmSchema.Json

namespace Decoder

variable {α β : Type}

/-- The decoder makes the result of the tokens, whatever follows them. -/
def Takes (decoder : Decoder α) (found : List Token) (result : α) : Prop :=
  ∀ rest, decoder.run (found ++ rest) = .ok (result, rest)

theorem run_bind_of_ok {first : Decoder α} {value : α} {before after : List Token}
    (h : first.run before = .ok (value, after)) (next : α → Decoder β) :
    (first >>= next).run before = (next value).run after := by
  rw [StateT.run_bind, h]
  rfl

theorem run_bind_eq_ok_iff {first : Decoder α} {next : α → Decoder β} {before : List Token}
    {result : β × List Token} : (first >>= next).run before = .ok result ↔
      ∃ value after, first.run before = .ok (value, after) ∧
        (next value).run after = .ok result := by
  rw [StateT.run_bind]
  cases hfirst : first.run before with
  | error error => simp [bind, Except.bind]
  | ok made =>
    obtain ⟨value, after⟩ := made
    simp [bind, Except.bind]

theorem run_pure_eq_ok_iff {value : α} {before : List Token} {result : α × List Token} :
    (pure value : Decoder α).run before = .ok result ↔ (value, before) = result := by
  change Except.ok (value, before) = Except.ok result ↔ _
  simp

theorem run_throw_ne_ok {error : Error} {before : List Token} {result : α × List Token} :
    (throw error : Decoder α).run before ≠ .ok result := by
  intro h
  cases h

theorem run_mismatch_ne_ok {token : Token} {expected : Expected} {before : List Token}
    {result : α × List Token} : (mismatch token expected : Decoder α).run before ≠ .ok result := by
  unfold mismatch
  split <;> exact run_throw_ne_ok

theorem run_next_bind_eq_ok_iff {more : Token → Decoder α} {before : List Token}
    {result : α × List Token} : (next >>= more).run before = .ok result ↔
      ∃ token after, before = token :: after ∧ (more token).run after = .ok result := by
  cases before with
  | nil => exact ⟨fun h ↦ (by cases h), fun ⟨_, _, h, _⟩ ↦ (by cases h)⟩
  | cons token after =>
    change (more token).run after = .ok result ↔ _
    simp

theorem run_peek_bind_eq_ok_iff {more : Token → Decoder α} {before : List Token}
    {result : α × List Token} : (peek >>= more).run before = .ok result ↔
      ∃ token after, before = token :: after ∧ (more token).run before = .ok result := by
  cases before with
  | nil => exact ⟨fun h ↦ (by cases h), fun ⟨_, _, h, _⟩ ↦ (by cases h)⟩
  | cons token after =>
    change (more token).run (token :: after) = .ok result ↔ _
    simp

theorem run_key_eq_ok_iff {before after : List Token} {name : String} :
    key.run before = .ok (name, after) ↔ before = .scalar (.text name) :: after := by
  rw [key, run_next_bind_eq_ok_iff]
  constructor
  · rintro ⟨token, rest, rfl, h⟩
    split at h
    · cases h
      rfl
    · exact absurd h run_throw_ne_ok
  · rintro rfl
    exact ⟨_, _, rfl, rfl⟩

theorem run_expect_eq_ok_iff {token : Token} {before after : List Token} {done : Unit} :
    (expect token).run before = .ok (done, after) ↔ before = token :: after := by
  rw [expect, run_next_bind_eq_ok_iff]
  constructor
  · rintro ⟨found, rest, rfl, h⟩
    split at h
    · subst found
      cases h
      rfl
    · exact absurd h run_throw_ne_ok
  · rintro rfl
    exact ⟨_, _, rfl, by rw [if_pos rfl]; rfl⟩

theorem Takes.map {decoder : Decoder α} {found : List Token} {result : α}
    (h : decoder.Takes found result) (change : α → β) :
    (change <$> decoder).Takes found (change result) := by
  intro rest
  rw [StateT.run_map, h rest]
  rfl

theorem takes_text (expected : Expected) (value : String) :
    (text expected).Takes [.scalar (.text value)] value := fun _ ↦ rfl

theorem takes_boolean (value : Bool) : boolean.Takes [.scalar (.boolean value)] value :=
  fun _ ↦ rfl

theorem takes_variant {all : List α} {name : α → String} {text : String} {choice : α}
    (h : (all.find? fun value ↦ name value = text) = some choice) :
    (variant all name).Takes [.scalar (.text text)] choice := by
  intro rest
  change (named all name text).run rest = .ok (choice, rest)
  rw [named, chosen, h]
  rfl

/-! ### Lists -/

theorem length_lt_furtherItemTokens (items : List Value) :
    items.length < (furtherItemTokens items).length := by
  induction items with
  | nil => rw [furtherItemTokens]; decide
  | cons item rest ih =>
    rw [furtherItemTokens]
    simp only [List.length_cons, List.length_append]
    omega

theorem takes_items {item : Decoder α} {value : Value} {result : α} {values : List Value}
    {results : List α} (hfirst : item.Takes value.tokens result)
    (h : List.Forall₂ (fun value result ↦ item.Takes value.tokens result) values results)
    {fuel : Nat} (hfuel : values.length < fuel) :
    (items item fuel).Takes (value.tokens ++ furtherItemTokens values) (result :: results) := by
  intro rest
  induction h generalizing value result fuel with
  | nil =>
    obtain ⟨fuel, rfl⟩ := Nat.exists_eq_succ_of_ne_zero (Nat.ne_zero_of_lt hfuel)
    rw [items, List.append_assoc, run_bind_of_ok (hfirst _), furtherItemTokens]
    rfl
  | @cons next result' values results hnext _ ih =>
    obtain ⟨fuel, rfl⟩ := Nat.exists_eq_succ_of_ne_zero (Nat.ne_zero_of_lt hfuel)
    have hitems := ih hnext (Nat.lt_of_succ_lt_succ hfuel)
    rw [items, List.append_assoc, run_bind_of_ok (hfirst _), furtherItemTokens]
    change (items item fuel >>= fun more ↦ pure (result :: more)).run
      (next.tokens ++ furtherItemTokens values ++ rest) = _
    rw [run_bind_of_ok hitems]
    rfl

theorem takes_list {item : Decoder α} {values : List Value} {results : List α}
    (h : List.Forall₂ (fun value result ↦ item.Takes value.tokens result) values results) :
    (list item).Takes (Value.array values).tokens results := by
  intro rest
  cases h with
  | nil => rw [Value.tokens]; rfl
  | @cons value result values results hfirst hmore =>
    have hstart :
        (list item).run (.beginArray :: (value.tokens ++ furtherItemTokens values ++ rest)) =
          (items item (value.tokens ++ furtherItemTokens values ++ rest).length).run
            (value.tokens ++ furtherItemTokens values ++ rest) := by
      cases value with
      | scalar value => rw [Value.tokens]; rfl
      | array items => cases items <;> rw [Value.tokens] <;> rfl
      | object members =>
        rcases members with _ | ⟨⟨key, value⟩, members⟩ <;> rw [Value.tokens] <;> rfl
    have hfuel : values.length <
        (value.tokens ++ furtherItemTokens values ++ rest).length := by
      have hlength := length_lt_furtherItemTokens values
      simp only [List.length_append]
      omega
    rw [Value.tokens, List.cons_append, hstart]
    exact takes_items hfirst hmore hfuel rest

/-- The array of written values is read as the list of these values. -/
theorem takes_array {item : Decoder α} {toJson : α → Value}
    (h : ∀ value, item.Takes (toJson value).tokens value) (values : List α) :
    (list item).Takes (Value.array (values.map toJson)).tokens values :=
  takes_list (List.forall₂_map_left_iff.2 (List.forall₂_same.2 fun value _ ↦ h value))

/-! ### Records -/

section Records

variable {field : Type} {record : Record field α} {decode : field → α → Decoder α}

/-- The member of a written object that holds a field. -/
def memberOf (record : Record field α) (written : field → Value) (index : field) :
    String × Value :=
  (record.label index, written index)

theorem length_lt_furtherMemberTokens (members : List (String × Value)) :
    members.length < (furtherMemberTokens members).length := by
  induction members with
  | nil => rw [furtherMemberTokens]; decide
  | cons member rest ih =>
    rw [furtherMemberTokens]
    simp only [List.length_cons, List.length_append]
    omega

theorem field?_label (parts : record.Components decode) (index : field) :
    record.field? (record.label index) = some index := by
  cases hfind : record.field? (record.label index) with
  | none =>
    exact absurd (List.mem_map_of_mem (parts.mem_fields index)) (Record.field?_eq_none_iff.1 hfind)
  | some other =>
    exact congrArg some (parts.label_injective (Record.label_of_field? hfind))

/-- Some fields have been read and the others come later, each once. What has been read is as in the
result. -/
structure Reached (parts : record.Components decode) (seen later : List field)
    (value result : α) : Prop where
  seen_or_later (index : field) : index ∈ seen ∨ index ∈ later
  nodup : later.Nodup
  notSeen : ∀ index ∈ later, index ∉ seen
  get_eq : ∀ index ∈ seen, parts.get index value = parts.get index result

theorem reached_start (parts : record.Components decode) (value result : α) :
    Reached parts [] record.fields value result where
  seen_or_later index := .inr (parts.mem_fields index)
  nodup := parts.nodup_fields
  notSeen _ _ := List.not_mem_nil
  get_eq _ h := absurd h List.not_mem_nil

theorem Reached.step {parts : record.Components decode} {seen later : List field} {index : field}
    {value result : α} (h : Reached parts seen (index :: later) value result) :
    Reached parts (index :: seen) later (parts.set index value (parts.get index result))
      result where
  seen_or_later other := by
    rcases h.seen_or_later other with hseen | hlater
    · exact .inl (List.mem_cons_of_mem _ hseen)
    · rcases List.mem_cons.1 hlater with rfl | hlater
      · exact .inl List.mem_cons_self
      · exact .inr hlater
  nodup := (List.nodup_cons.1 h.nodup).2
  notSeen other hother hmem := by
    rcases List.mem_cons.1 hmem with rfl | hmem
    · exact (List.nodup_cons.1 h.nodup).1 hother
    · exact h.notSeen other (List.mem_cons_of_mem _ hother) hmem
  get_eq other hother := by
    by_cases heq : other = index
    · subst heq
      exact parts.get_set other value _
    · rw [parts.get_set_of_ne heq]
      exact h.get_eq other ((List.mem_cons.1 hother).resolve_left heq)

theorem Reached.eq {parts : record.Components decode} {seen : List field} {value result : α}
    (h : Reached parts seen [] value result) : value = result := by
  refine parts.ext fun index ↦ h.get_eq index ?_
  exact (h.seen_or_later index).resolve_right List.not_mem_nil

variable [DecidableEq field]

/-- Reading a member sets its field; what comes next decides how to go on. -/
theorem run_members_succ (parts : record.Components decode) {written : field → Value}
    {seen : List field} {index : field} {result : α} (hindex : index ∉ seen)
    (h : (parts.read index).Takes (written index).tokens (parts.get index result))
    (value : α) (fuel : Nat) (rest : List Token) :
    (members record decode seen value (fuel + 1)).run
        (.scalar (.text (record.label index)) :: .colon :: ((written index).tokens ++ rest)) =
      (next >>= fun token ↦
        match token with
        | .comma =>
          members record decode (index :: seen)
            (parts.set index value (parts.get index result)) fuel
        | .endObject =>
          match record.complete (index :: seen) with
          | .error cause => fail cause
          | .ok () => return parts.set index value (parts.get index result)
        | _ => throw .malformed).run rest := by
  have henter : record.enter seen (record.label index) = .ok index :=
    Record.enter_eq_ok_iff.2 ⟨field?_label parts index, hindex⟩
  have hkey : key.run (.scalar (.text (record.label index)) :: .colon ::
      ((written index).tokens ++ rest)) =
      .ok (record.label index, .colon :: ((written index).tokens ++ rest)) := rfl
  have hcolon : colon.run (.colon :: ((written index).tokens ++ rest)) =
      .ok ((), (written index).tokens ++ rest) := rfl
  have hdecode : (decode index value).run ((written index).tokens ++ rest) =
      .ok (parts.set index value (parts.get index result), rest) := by
    rw [parts.decode_eq]
    exact h.map _ rest
  rw [members, run_bind_of_ok hkey, henter]
  exact (run_bind_of_ok hcolon _).trans (run_bind_of_ok hdecode _)

/-- The members of an object that gives every field once, from any of them on. -/
theorem takes_members (parts : record.Components decode) {written : field → Value} {result : α}
    (h : ∀ index, (parts.read index).Takes (written index).tokens (parts.get index result))
    {seen : List field} {index : field} {later : List field} {value : α}
    (hreached : Reached parts seen (index :: later) value result)
    {fuel : Nat} (hfuel : later.length < fuel) :
    (members record decode seen value fuel).Takes
      (.scalar (.text (record.label index)) :: .colon :: ((written index).tokens ++
        furtherMemberTokens (later.map (memberOf record written)))) result := by
  intro rest
  obtain ⟨fuel, rfl⟩ := Nat.exists_eq_succ_of_ne_zero (Nat.ne_zero_of_lt hfuel)
  induction later generalizing seen index value fuel with
  | nil =>
    have hcomplete : record.complete (index :: seen) = .ok () :=
      Record.complete_eq_ok_iff.2 fun other _ _ ↦
        (hreached.step.seen_or_later other).resolve_right List.not_mem_nil
    have hvalue : parts.set index value (parts.get index result) = result := hreached.step.eq
    rw [List.cons_append, List.cons_append, List.append_assoc,
      run_members_succ parts (hreached.notSeen index List.mem_cons_self) (h index), hcomplete,
      hvalue, List.map_nil, furtherMemberTokens]
    rfl
  | cons next later ih =>
    rw [List.cons_append, List.cons_append, List.append_assoc,
      run_members_succ parts (hreached.notSeen index List.mem_cons_self) (h index),
      List.map_cons, memberOf, furtherMemberTokens]
    obtain ⟨fuel, rfl⟩ := Nat.exists_eq_succ_of_ne_zero
      (Nat.ne_zero_of_lt (Nat.lt_of_succ_lt_succ hfuel))
    exact ih hreached.step fuel (Nat.lt_of_succ_lt_succ hfuel)

/-- A record decoder reads an object that gives every field in order. -/
theorem takes_record (parts : record.Components decode) {written : field → Value} {result : α}
    (hfields : record.fields ≠ [])
    (h : ∀ index, (parts.read index).Takes (written index).tokens (parts.get index result)) :
    (Decoder.record record decode).Takes
      (Value.object (record.fields.map (memberOf record written))).tokens result := by
  intro rest
  have hreached := reached_start parts record.blank result
  obtain ⟨index, later, hlist⟩ := List.exists_cons_of_ne_nil hfields
  rw [hlist] at hreached ⊢
  have hfuel : later.length < (.scalar (.text (record.label index)) :: .colon ::
      ((written index).tokens ++ furtherMemberTokens (later.map (memberOf record written))) ++
        rest : List Token).length := by
    have hlength := length_lt_furtherMemberTokens (later.map (memberOf record written))
    simp only [List.length_append, List.length_cons, List.length_map] at hlength ⊢
    omega
  rw [List.map_cons, memberOf, Value.tokens]
  exact takes_members parts h hreached hfuel rest

end Records

end Decoder

/-! ### Whole texts -/

theorem decode_of_takes {α : Type} {decoder : Decoder α} {text : String} {result : α}
    (h : decoder.Takes (tokens text) result) : decode decoder text = .ok result := by
  have hrun := h []
  rw [List.append_nil] at hrun
  rw [decode, hrun]

theorem decode_eq_ok_iff {α : Type} {decoder : Decoder α} {text : String} {result : α} :
    decode decoder text = .ok result ↔ decoder.run (tokens text) = .ok (result, []) := by
  rw [decode]
  split <;> simp_all

theorem decode_compact {α : Type} {decoder : Decoder α} {value : Value} {result : α}
    (hvalue : value.Readable) (h : decoder.Takes value.tokens result) :
    decode decoder value.compact = .ok result := by
  apply decode_of_takes
  rw [tokens_compact hvalue]
  exact h

end JvmSchema.Json
