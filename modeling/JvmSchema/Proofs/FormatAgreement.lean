import JvmSchema.Proofs.JsonDocuments
import JvmSchema.Proofs.ValueTrees
import JvmSchema.TypeInfo.Format

/-!
# Decoders of both formats agree

A decoder is written once for every format, but the formats go about it differently: a JSON decoder
takes tokens and stops at the first fault, a TOML decoder walks over a value that is already there.
They take the same trees and make the same of them (`Agrees`), with two exceptions: TOML ignores
further items where a record is given by position, and the object that may stand for a choice is not
the same in both. A tree `Fits` a decoder when neither is met in it.
-/

set_option autoImplicit false
set_option relaxedAutoImplicit false

namespace JvmSchema

/-! ### The first token of a value -/

namespace Json

variable {value : Value} {rest after left : List Token}

namespace Value

def firstToken : Value → Token
  | .scalar value => .scalar value
  | .array _ => .beginArray
  | .object _ => .beginObject

theorem exists_tokens_eq_cons (value : Value) :
    ∃ more, value.tokens = value.firstToken :: more := by
  cases value with
  | scalar scalar => exact ⟨[], by rw [tokens, firstToken]⟩
  | array items => exact exists_tokens_array items
  | object members => exact exists_tokens_object members

theorem firstToken_eq {token : Token} (h : value.tokens ++ rest = token :: after) :
    value.firstToken = token := by
  obtain ⟨more, htokens⟩ := value.exists_tokens_eq_cons
  rw [htokens, List.cons_append] at h
  exact (List.cons.inj h).1

theorem eq_scalar_of_tokens {scalar : Scalar} (h : value.tokens ++ rest = .scalar scalar :: after) :
    value = .scalar scalar ∧ after = rest := by
  have hfirst := firstToken_eq h
  cases value <;> simp_all [firstToken, tokens]

theorem eq_array_of_tokens (h : value.tokens ++ rest = .beginArray :: after) :
    ∃ items, value = .array items := by
  have hfirst := firstToken_eq h
  cases value <;> simp_all [firstToken]

theorem eq_object_of_tokens (h : value.tokens ++ rest = .beginObject :: after) :
    ∃ members, value = .object members := by
  have hfirst := firstToken_eq h
  cases value <;> simp_all [firstToken]

end Value

namespace Decoder

theorem run_text_eq_ok_iff {expected : Expected} {result : String} :
    (text expected).run (value.tokens ++ rest) = .ok (result, left) ↔
      value = .text result ∧ left = rest := by
  rw [text, run_next_bind_eq_ok_iff]
  constructor
  · rintro ⟨token, after, htokens, h⟩
    split at h
    · cases run_pure_eq_ok_iff.1 h
      exact Value.eq_scalar_of_tokens htokens
    · exact absurd h run_mismatch_ne_ok
  · rintro ⟨rfl, rfl⟩
    exact ⟨_, _, by rw [Value.text, Value.tokens]; rfl, rfl⟩

theorem run_boolean_eq_ok_iff {result : Bool} :
    boolean.run (value.tokens ++ rest) = .ok (result, left) ↔
      value = .boolean result ∧ left = rest := by
  rw [boolean, run_next_bind_eq_ok_iff]
  constructor
  · rintro ⟨token, after, htokens, h⟩
    split at h
    · cases run_pure_eq_ok_iff.1 h
      exact Value.eq_scalar_of_tokens htokens
    · exact absurd h run_mismatch_ne_ok
  · rintro ⟨rfl, rfl⟩
    exact ⟨_, _, by rw [Value.boolean, Value.tokens]; rfl, rfl⟩

end Decoder

end Json

open Json.Decoder (run_bind_eq_ok_iff run_pure_eq_ok_iff run_throw_ne_ok run_mismatch_ne_ok
  run_next_bind_eq_ok_iff run_text_eq_ok_iff run_boolean_eq_ok_iff)

variable {α β : Type}

/-! ### One run and one computation -/

/-- The run on the tokens ends well exactly when the computation does, with the same result, and
then leaves the rest. -/
def Matches (json : Json.Decoder α) (before rest : List Json.Token)
    (computed : Except DecodingError α) : Prop :=
  ∀ result left, json.run before = .ok (result, left) ↔ computed = .ok result ∧ left = rest

section Matches

variable {before middle rest : List Json.Token}

theorem matches_pure (value : α) : Matches (pure value) rest rest (.ok value) := by
  intro result left
  rw [run_pure_eq_ok_iff]
  simp [eq_comm]

theorem matches_of_ne_ok {json : Json.Decoder α} {computed : Except DecodingError α}
    (hjson : ∀ made, json.run before ≠ .ok made) (hcomputed : ∀ result, computed ≠ .ok result) :
    Matches json before rest computed :=
  fun _ _ ↦ iff_of_false (hjson _) fun h ↦ hcomputed _ h.1

theorem matches_fail (cause cause' : DecodingError) :
    Matches (Json.Decoder.fail cause : Json.Decoder α) before rest (.error cause') :=
  matches_of_ne_ok (fun _ ↦ run_throw_ne_ok) nofun

/-- What runs well first can be left out. -/
theorem matches_bind_of_run {first : Json.Decoder α} {value : α} {next : α → Json.Decoder β}
    {computed : Except DecodingError β} (hrun : first.run before = .ok (value, middle))
    (h : Matches (next value) middle rest computed) :
    Matches (first >>= next) before rest computed := by
  intro result left
  rw [Json.Decoder.run_bind_of_ok hrun]
  exact h result left

theorem Matches.bind {first : Json.Decoder α} {computed : Except DecodingError α}
    {next : α → Json.Decoder β} {next' : α → Except DecodingError β}
    (h : Matches first before middle computed)
    (hnext : ∀ part, Matches (next part) middle rest (next' part)) :
    Matches (first >>= next) before rest (computed >>= next') := by
  intro result left
  rw [run_bind_eq_ok_iff, bind_eq_ok_iff]
  constructor
  · rintro ⟨part, after, hfirst, hresult⟩
    obtain ⟨hpart, rfl⟩ := (h part after).1 hfirst
    obtain ⟨hresult, hleft⟩ := (hnext part result left).1 hresult
    exact ⟨⟨part, hpart, hresult⟩, hleft⟩
  · rintro ⟨⟨part, hpart, hresult⟩, hleft⟩
    exact ⟨part, middle, (h part middle).2 ⟨hpart, rfl⟩,
      (hnext part result left).2 ⟨hresult, hleft⟩⟩

end Matches

/-- The JSON decoder takes the tokens of a tree that fits exactly when the TOML decoder takes the
tree, and makes the same of them. What follows the tokens does not matter and is left. -/
def Agrees (json : Json.Decoder α) (toml : Toml.Decoder α) (fits : Json.Value → Prop) : Prop :=
  ∀ ⦃value given⦄, Shows value given → fits value →
    ∀ rest, Matches json (value.tokens ++ rest) rest (toml given)

theorem Agrees.map {json : Json.Decoder α} {toml : Toml.Decoder α} {fits : Json.Value → Prop}
    (h : Agrees json toml fits) (change : α → β) :
    Agrees (change <$> json) (change <$> toml) fits := by
  intro value given hshows hfits rest
  have hbind : (change <$> toml) given = toml given >>= fun part ↦ .ok (change part) := by
    change Except.map change (toml given) = _
    cases toml given <;> rfl
  rw [map_eq_pure_bind, hbind]
  exact (h hshows hfits rest).bind fun part ↦ matches_pure (change part)

/-! ### Texts, truth values and choices -/

theorem agrees_text (expected : Expected) (fits : Json.Value → Prop) :
    Agrees (Json.Decoder.text expected) (Toml.Decoder.text expected) fits := by
  intro value given hshows _ rest result left
  rw [run_text_eq_ok_iff, hshows.text_iff, Toml.reads_text, Toml.TextForm]

theorem agrees_boolean (fits : Json.Value → Prop) :
    Agrees Json.Decoder.boolean Toml.Decoder.boolean fits := by
  intro value given hshows _ rest result left
  rw [run_boolean_eq_ok_iff, hshows.boolean_iff, Toml.reads_boolean, Toml.BooleanForm]

/-- No object, which the formats would take in different ways where a choice is asked for. -/
def NotObject : Json.Value → Prop
  | .object _ => False
  | _ => True

theorem matches_named (all : List α) (name : α → String) (text : String)
    (rest : List Json.Token) :
    Matches (Json.Decoder.named all name text) rest rest (chosen all name text) := by
  rw [Json.Decoder.named]
  cases chosen all name text with
  | error cause => exact matches_fail _ _
  | ok value => exact matches_pure value

theorem toml_variant_ne_ok {all : List α} {name : α → String} {given : Toml.Value}
    (htext : ∀ text, given ≠ .text text) (htable : ∀ entries, given ≠ .table entries) (choice : α) :
    Toml.Decoder.variant all name given ≠ .ok choice := by
  intro h
  cases given with
  | text text => exact htext text rfl
  | table entries => exact htable entries rfl
  | _ => cases h

theorem agrees_variant (all : List α) (name : α → String) :
    Agrees (Json.Decoder.variant all name) (Toml.Decoder.variant all name) NotObject := by
  intro value given hshows hfits rest
  by_cases htext : ∃ text, value = .text text
  · obtain ⟨text, rfl⟩ := htext
    obtain rfl := hshows.text_iff.1 rfl
    exact matches_named all name text rest
  · refine matches_of_ne_ok (fun made h ↦ ?_) (toml_variant_ne_ok ?_ ?_)
    · rw [Json.Decoder.variant, run_next_bind_eq_ok_iff] at h
      obtain ⟨token, after, htokens, h⟩ := h
      split at h
      next text => exact htext ⟨text, (Json.Value.eq_scalar_of_tokens htokens).1⟩
      next =>
        obtain ⟨members, rfl⟩ := Json.Value.eq_object_of_tokens htokens
        exact hfits
      next => exact run_throw_ne_ok h
    · exact fun text h ↦ htext ⟨text, hshows.text_iff.2 h⟩
    · refine hshows.ne_table ?_
      rintro members rfl
      exact hfits

/-! ### Lists -/

/-- What is asked of every item of an array. -/
def ItemsFit (fits : Json.Value → Prop) : Json.Value → Prop
  | .array items => ∀ item ∈ items, fits item
  | _ => True

theorem matches_items {json : Json.Decoder α} {toml : Toml.Decoder α}
    {fits : Json.Value → Prop} (h : Agrees json toml fits) {first : Json.Value}
    {given : Toml.Value} {items : List Json.Value} {values : List Toml.Value}
    (hfirst : Shows first given) (hitems : List.Forall₂ Shows items values)
    (hfits : ∀ item ∈ first :: items, fits item) {fuel : Nat} (hfuel : items.length < fuel)
    (rest : List Json.Token) :
    Matches (Json.Decoder.items json fuel)
      (first.tokens ++ (Json.furtherItemTokens items ++ rest)) rest
      ((given :: values).mapM toml) := by
  induction hitems generalizing first given fuel with
  | nil =>
    obtain ⟨fuel, rfl⟩ := Nat.exists_eq_succ_of_ne_zero (Nat.ne_zero_of_lt hfuel)
    rw [Json.Decoder.items, List.mapM_cons, Json.furtherItemTokens]
    exact (h hfirst (hfits first List.mem_cons_self) _).bind fun part ↦ matches_pure [part]
  | @cons second given' items values hsecond hitems ih =>
    obtain ⟨fuel, rfl⟩ := Nat.exists_eq_succ_of_ne_zero (Nat.ne_zero_of_lt hfuel)
    obtain ⟨hfit, hfits⟩ := List.forall_mem_cons.1 hfits
    have hmore := ih hsecond hfits (Nat.lt_of_succ_lt_succ hfuel)
    rw [Json.Decoder.items, List.mapM_cons, Json.furtherItemTokens, List.cons_append,
      List.append_assoc]
    exact (h hfirst hfit _).bind fun part ↦ hmore.bind fun parts ↦ matches_pure (part :: parts)

theorem run_list_ne_ok {json : Json.Decoder α} {value : Json.Value}
    (h : ∀ items, value ≠ .array items) {rest : List Json.Token}
    (made : List α × List Json.Token) :
    (Json.Decoder.list json).run (value.tokens ++ rest) ≠ .ok made := by
  rw [Json.Decoder.list, Ne, run_next_bind_eq_ok_iff]
  rintro ⟨token, after, htokens, h'⟩
  split at h'
  · obtain ⟨items, rfl⟩ := Json.Value.eq_array_of_tokens htokens
    exact h items rfl
  · exact run_mismatch_ne_ok h'

theorem matches_list {json : Json.Decoder α} {toml : Toml.Decoder α} {fits : Json.Value → Prop}
    (h : Agrees json toml fits) {items : List Json.Value} {values : List Toml.Value}
    (hitems : List.Forall₂ Shows items values) (hfits : ∀ item ∈ items, fits item)
    (rest : List Json.Token) :
    Matches (Json.Decoder.list json) ((Json.Value.array items).tokens ++ rest) rest
      (values.mapM toml) := by
  cases hitems with
  | nil =>
    rw [Json.Value.tokens]
    exact matches_pure []
  | @cons first given items values hfirst hitems =>
    obtain ⟨more, htokens⟩ := first.exists_tokens_eq_cons
    have hstart : (Json.Decoder.list json).run
        (.beginArray :: (first.tokens ++ (Json.furtherItemTokens items ++ rest))) =
          (Json.Decoder.items json
            (first.tokens ++ (Json.furtherItemTokens items ++ rest)).length).run
            (first.tokens ++ (Json.furtherItemTokens items ++ rest)) := by
      rw [htokens]
      cases first <;> rfl
    have hfuel : items.length <
        (first.tokens ++ (Json.furtherItemTokens items ++ rest)).length := by
      have hlength := Json.Decoder.length_lt_furtherItemTokens items
      simp only [List.length_append]
      omega
    intro result left
    rw [Json.Value.tokens, List.cons_append, List.append_assoc, hstart]
    exact matches_items h hfirst hitems hfits hfuel rest result left

theorem agrees_list {json : Json.Decoder α} {toml : Toml.Decoder α} {fits : Json.Value → Prop}
    (h : Agrees json toml fits) :
    Agrees (Json.Decoder.list json) (Toml.Decoder.list toml) (ItemsFit fits) := by
  intro value given hshows hfits rest
  by_cases harray : ∀ items, value ≠ .array items
  · exact matches_of_ne_ok (run_list_ne_ok harray) (Toml.list_ne_ok (hshows.items?_eq_none harray))
  · obtain ⟨items, rfl⟩ := by simpa using harray
    obtain ⟨values, hgiven, hitems⟩ := hshows.exists_items
    rw [Toml.list_of_items? hgiven]
    exact matches_list h hitems hfits rest

/-! ### Records -/

/-- What is asked of the fields of a record, and that no more of them are given by position than it
has. -/
def Record.Fits {field : Type} (record : Record field α) (fits : field → Json.Value → Prop) :
    Json.Value → Prop
  | .array items => items.length ≤ record.fields.length ∧
      ∀ place ∈ record.fields.zip items, fits place.1 place.2
  | .object members => ∀ index value, (record.label index, value) ∈ members → fits index value
  | .scalar _ => True

section Records

variable {field : Type} {record : Record field α} {json : field → α → Json.Decoder α}
  {toml : field → α → Toml.Decoder α} {fits : field → Json.Value → Prop}

theorem matches_byPosition_endArray (first : Bool) (start : α) (fields : List field)
    (rest : List Json.Token) :
    Matches (Json.Decoder.byPosition record json first start fields) (.endArray :: rest) rest
      (Toml.Decoder.byPosition record toml start fields []) := by
  cases fields with
  | nil => exact matches_pure start
  | cons index fields =>
    have hposition : (Json.Decoder.position first).run (.endArray :: rest) =
        .ok (false, .endArray :: rest) := rfl
    rw [Json.Decoder.byPosition, Toml.Decoder.byPosition]
    refine matches_bind_of_run hposition ?_
    simp only [Bool.false_eq_true, if_false]
    cases record.completeFrom (index :: fields) with
    | error cause => exact matches_fail cause cause
    | ok done => exact matches_pure start

theorem run_record_ne_ok [DecidableEq field] {value : Json.Value}
    (harray : ∀ items, value ≠ .array items) (hobject : ∀ members, value ≠ .object members)
    {rest : List Json.Token} (made : α × List Json.Token) :
    (Json.Decoder.record record json).run (value.tokens ++ rest) ≠ .ok made := by
  rw [Json.Decoder.record, Ne, run_next_bind_eq_ok_iff]
  rintro ⟨token, after, htokens, h⟩
  split at h
  · obtain ⟨items, rfl⟩ := Json.Value.eq_array_of_tokens htokens
    exact harray items rfl
  · obtain ⟨members, rfl⟩ := Json.Value.eq_object_of_tokens htokens
    exact hobject members rfl
  · exact run_mismatch_ne_ok h

theorem toml_record_of_items? [DecidableEq field] {given : Toml.Value} {values : List Toml.Value}
    (h : given.items? = some values) : Toml.Decoder.record record toml given =
      Toml.Decoder.byPosition record toml record.blank record.fields values := by
  cases given with
  | array items =>
    cases h
    rfl
  | sections tables =>
    cases h
    rfl
  | _ => cases h

theorem toml_record_ne_ok [DecidableEq field] {value : Json.Value} {given : Toml.Value}
    (hshows : Shows value given) (harray : ∀ items, value ≠ .array items)
    (hobject : ∀ members, value ≠ .object members) (result : α) :
    Toml.Decoder.record record toml given ≠ .ok result := by
  cases hshows with
  | number _ hgiven => cases given <;> first | exact absurd hgiven id | exact nofun
  | @array items => exact absurd rfl (harray items)
  | @object members => exact absurd rfl (hobject members)
  | _ => exact nofun

variable (h : ∀ index start, Agrees (json index start) (toml index start) (fits index))

include h

theorem matches_byPosition {items : List Json.Value} {values : List Toml.Value}
    (hitems : List.Forall₂ Shows items values) {fields : List field}
    (hlength : items.length ≤ fields.length)
    (hfits : ∀ place ∈ fields.zip items, fits place.1 place.2) (start : α)
    (rest : List Json.Token) :
    Matches (Json.Decoder.byPosition record json false start fields)
      (Json.furtherItemTokens items ++ rest) rest
      (Toml.Decoder.byPosition record toml start fields values) := by
  induction hitems generalizing fields start with
  | nil =>
    rw [Json.furtherItemTokens]
    exact matches_byPosition_endArray false start fields rest
  | @cons first given items values hfirst hitems ih =>
    cases fields with
    | nil => exact absurd hlength (Nat.not_succ_le_zero _)
    | cons index fields =>
      obtain ⟨hfit, hfits⟩ := List.forall_mem_cons.1 hfits
      have hposition (more : List Json.Token) :
          (Json.Decoder.position false).run (.comma :: more) = .ok (true, more) := rfl
      rw [Json.Decoder.byPosition, Toml.Decoder.byPosition, Json.furtherItemTokens,
        List.cons_append, List.append_assoc]
      refine matches_bind_of_run (hposition _) ?_
      simp only [if_true]
      exact (h index start hfirst hfit _).bind fun part ↦
        ih (Nat.le_of_succ_le_succ hlength) hfits part

variable [DecidableEq field]

/-- One member: its name, then its value, then what decides how to go on. -/
theorem matches_member {name : String} {value : Json.Value} {given : Toml.Value}
    (hshows : Shows value given) (hfits : ∀ index, record.label index = name → fits index value)
    {fuel : Nat} {seen : List field} {more rest : List Json.Token} {entries : Toml.Table}
    (hmore : ∀ index part,
      Matches (Json.Decoder.next >>= fun token ↦
          match token with
          | .comma => Json.Decoder.members record json (index :: seen) part fuel
          | .endObject =>
            match record.complete (index :: seen) with
            | .error cause => Json.Decoder.fail cause
            | .ok () => return part
          | _ => throw .malformed) more rest
        (Toml.Decoder.byName record toml (index :: seen) part entries)) (start : α) :
    Matches (Json.Decoder.members record json seen start (fuel + 1))
      (.scalar (.text name) :: .colon :: (value.tokens ++ more)) rest
      (Toml.Decoder.byName record toml seen start ((name, given) :: entries)) := by
  have hkey : Json.Decoder.key.run (.scalar (.text name) :: .colon :: (value.tokens ++ more)) =
      .ok (name, .colon :: (value.tokens ++ more)) := rfl
  have hcolon : Json.Decoder.colon.run (.colon :: (value.tokens ++ more)) =
      .ok ((), value.tokens ++ more) := rfl
  rw [Json.Decoder.members, Toml.Decoder.byName]
  refine matches_bind_of_run hkey ?_
  cases henter : record.enter seen name with
  | error cause => exact matches_fail cause cause
  | ok index =>
    have hlabel : record.label index = name :=
      Record.label_of_field? (Record.enter_eq_ok_iff.1 henter).1
    refine matches_bind_of_run hcolon ?_
    exact (h index start hshows (hfits index hlabel) more).bind fun part ↦ hmore index part

theorem matches_members {name : String} {value : Json.Value} {given : Toml.Value}
    {members : List (String × Json.Value)} {entries : Toml.Table} (hfirst : Shows value given)
    (hmembers : Alongside Shows members entries)
    (hfits : ∀ index other, (record.label index, other) ∈ (name, value) :: members →
      fits index other)
    {fuel : Nat} (hfuel : members.length < fuel) (seen : List field) (start : α)
    (rest : List Json.Token) :
    Matches (Json.Decoder.members record json seen start fuel)
      (.scalar (.text name) :: .colon ::
        (value.tokens ++ (Json.furtherMemberTokens members ++ rest))) rest
      (Toml.Decoder.byName record toml seen start ((name, given) :: entries)) := by
  have hfit (index : field) (hname : record.label index = name) : fits index value :=
    hfits index value (hname ▸ List.mem_cons_self)
  induction hmembers generalizing name value given fuel seen start with
  | nil =>
    obtain ⟨fuel, rfl⟩ := Nat.exists_eq_succ_of_ne_zero (Nat.ne_zero_of_lt hfuel)
    refine matches_member h hfirst hfit (fun index part ↦ ?_) start
    rw [Json.furtherMemberTokens, Toml.Decoder.byName]
    refine matches_bind_of_run (rfl : Json.Decoder.next.run (.endObject :: rest) = _) ?_
    cases record.complete (index :: seen) with
    | error cause => exact matches_fail cause cause
    | ok done => exact matches_pure part
  | @cons name' value' given' members entries hsecond hmembers ih =>
    obtain ⟨fuel, rfl⟩ := Nat.exists_eq_succ_of_ne_zero (Nat.ne_zero_of_lt hfuel)
    have hlater : ∀ index other, (record.label index, other) ∈ (name', value') :: members →
        fits index other := fun index other hmem ↦
      hfits index other (List.mem_cons_of_mem _ hmem)
    refine matches_member h hfirst hfit (fun index part ↦ ?_) start
    rw [Json.furtherMemberTokens, List.cons_append, List.cons_append, List.cons_append,
      List.append_assoc]
    refine matches_bind_of_run (rfl : Json.Decoder.next.run (.comma :: _) = _) ?_
    exact ih hsecond hlater (Nat.lt_of_succ_lt_succ hfuel) (index :: seen) part
      fun index hname ↦ hlater index value' (hname ▸ List.mem_cons_self)

theorem matches_object {members : List (String × Json.Value)} {entries : Toml.Table}
    (hmembers : Alongside Shows members entries)
    (hfits : ∀ index value, (record.label index, value) ∈ members → fits index value)
    (rest : List Json.Token) :
    Matches (Json.Decoder.record record json) ((Json.Value.object members).tokens ++ rest) rest
      (Toml.Decoder.byName record toml [] record.blank entries) := by
  cases hmembers with
  | nil =>
    rw [Json.Value.tokens, Toml.Decoder.byName, Json.Decoder.record]
    refine matches_bind_of_run (rfl : Json.Decoder.next.run (.beginObject :: _) = _) ?_
    refine matches_bind_of_run (rfl : Json.Decoder.peek.run (.endObject :: _) = _) ?_
    cases record.complete [] with
    | error cause => exact matches_fail cause cause
    | ok done => exact matches_pure record.blank
  | @cons name value given members entries hfirst hmembers =>
    have hfuel : members.length < (.scalar (.text name) :: .colon ::
        (value.tokens ++ (Json.furtherMemberTokens members ++ rest)) :
          List Json.Token).length := by
      have hlength := Json.Decoder.length_lt_furtherMemberTokens members
      simp only [List.length_append, List.length_cons]
      omega
    rw [Json.Value.tokens, List.cons_append, List.cons_append, List.cons_append,
      List.append_assoc]
    exact matches_members h hfirst hmembers hfits hfuel [] record.blank rest

theorem matches_array {items : List Json.Value} {values : List Toml.Value}
    (hitems : List.Forall₂ Shows items values) (hlength : items.length ≤ record.fields.length)
    (hfits : ∀ place ∈ record.fields.zip items, fits place.1 place.2)
    (rest : List Json.Token) :
    Matches (Json.Decoder.record record json) ((Json.Value.array items).tokens ++ rest) rest
      (Toml.Decoder.byPosition record toml record.blank record.fields values) := by
  rw [Json.Decoder.record]
  cases hitems with
  | nil =>
    rw [Json.Value.tokens]
    refine matches_bind_of_run (rfl : Json.Decoder.next.run (.beginArray :: _) = _) ?_
    exact matches_byPosition_endArray true record.blank record.fields rest
  | @cons first given items values hfirst hitems =>
    rw [Json.Value.tokens, List.cons_append, List.append_assoc]
    refine matches_bind_of_run (rfl : Json.Decoder.next.run (.beginArray :: _) = _) ?_
    dsimp only
    generalize record.fields = fields at hlength hfits ⊢
    cases fields with
    | nil => exact absurd hlength (Nat.not_succ_le_zero _)
    | cons index fields =>
      obtain ⟨hfit, hfits⟩ := List.forall_mem_cons.1 hfits
      have hposition (more : List Json.Token) :
          (Json.Decoder.position true).run (first.tokens ++ more) =
            .ok (true, first.tokens ++ more) := by
        obtain ⟨after, htokens⟩ := first.exists_tokens_eq_cons
        rw [htokens]
        cases first <;> rfl
      rw [Json.Decoder.byPosition, Toml.Decoder.byPosition]
      refine matches_bind_of_run (hposition _) ?_
      simp only [if_true]
      exact (h index record.blank hfirst hfit _).bind fun part ↦
        matches_byPosition h hitems (Nat.le_of_succ_le_succ hlength) hfits part rest

theorem agrees_record :
    Agrees (Json.Decoder.record record json) (Toml.Decoder.record record toml)
      (record.Fits fits) := by
  intro value given hshows hfits rest
  cases value with
  | scalar scalar =>
    have harray : ∀ items, Json.Value.scalar scalar ≠ .array items := nofun
    have hobject : ∀ members, Json.Value.scalar scalar ≠ .object members := nofun
    exact matches_of_ne_ok (run_record_ne_ok harray hobject)
      (toml_record_ne_ok hshows harray hobject)
  | array items =>
    obtain ⟨values, hgiven, hitems⟩ := hshows.exists_items
    rw [toml_record_of_items? hgiven]
    exact matches_array h hitems hfits.1 hfits.2 rest
  | object members =>
    cases hshows with
    | object hmembers => exact matches_object h hmembers hfits rest

end Records

/-! ### Type descriptions -/

/-- No choice in a constructor is an object, and no more of its fields are given by position than
it has. -/
def Constructor.Fits : Json.Value → Prop :=
  Constructor.record.Fits fun
    | .params => fun _ ↦ True
    | .visibility => NotObject

def Method.Fits : Json.Value → Prop :=
  Method.record.Fits fun
    | .visibility => NotObject
    | _ => fun _ ↦ True

def TypeInfo.Fits : Json.Value → Prop :=
  TypeInfo.record.Fits fun
    | .constructors => ItemsFit Constructor.Fits
    | .methods => ItemsFit Method.Fits
    | _ => fun _ ↦ True

theorem agrees_descriptor (fits : Json.Value → Prop) :
    Agrees Descriptor.decoder Descriptor.decoder fits :=
  (agrees_text .text fits).map Descriptor.mk

theorem agrees_params : Agrees (Json.Decoder.list Descriptor.decoder)
    (Toml.Decoder.list Descriptor.decoder) fun _ ↦ True := by
  intro value given hshows _
  refine agrees_list (agrees_descriptor fun _ ↦ True) hshows ?_
  cases value with
  | array items => exact fun _ _ ↦ trivial
  | _ => trivial

theorem agrees_constructor :
    Agrees Constructor.decoder Constructor.decoder Constructor.Fits := by
  refine agrees_record fun index start ↦ ?_
  cases index with
  | params => exact agrees_params.map _
  | visibility => exact (agrees_variant Visibility.all Visibility.name).map _

theorem agrees_method : Agrees Method.decoder Method.decoder Method.Fits := by
  refine agrees_record fun index start ↦ ?_
  cases index with
  | name => exact (agrees_text .text _).map _
  | params => exact agrees_params.map _
  | static => exact (agrees_boolean _).map _
  | visibility => exact (agrees_variant Visibility.all Visibility.name).map _

theorem agrees_typeInfo : Agrees TypeInfo.decoder TypeInfo.decoder TypeInfo.Fits := by
  refine agrees_record fun index start ↦ ?_
  cases index with
  | descriptor => exact (agrees_descriptor _).map _
  | enum => exact (agrees_boolean _).map _
  | constructors => exact (agrees_list agrees_constructor).map _
  | methods => exact (agrees_list agrees_method).map _

end JvmSchema
