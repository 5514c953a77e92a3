import JvmSchema.Proofs.JsonReading

/-!
# Reading any document

`read` reads a JSON text as a tree of values, whatever it describes: the members of an object are
kept in their order, and nothing may follow the value but blanks. A document that was written over
several lines is read as the value that it was written for (`read_pretty_append`), and a document
that is read as a value is cut into the tokens of that value (`tokens_of_read`).
-/

set_option autoImplicit false
set_option relaxedAutoImplicit false

namespace JvmSchema.Json

/-! ### A reader of values -/

namespace Decoder

variable {α : Type}

/-- The members of an object from the next one on, whatever their names, `fuel` of them at most. -/
def entries (item : Decoder α) : Nat → Decoder (List (String × α))
  | 0 => throw .malformed
  | fuel + 1 => do
    let name ← key
    colon
    let value ← item
    match ← next with
    | .comma => return (name, value) :: (← entries item fuel)
    | .endObject => return [(name, value)]
    | _ => throw .malformed

/-- An object of items under any names. -/
def object (item : Decoder α) : Decoder (List (String × α)) := do
  match ← next with
  | .beginObject =>
    match ← peek with
    | .endObject =>
      let _ ← next
      return []
    | _ => entries item (← get).length
  | _ => throw .malformed

/-- A value of any kind, nested `fuel` deep at most. -/
def value : Nat → Decoder Value
  | 0 => throw .malformed
  | fuel + 1 => do
    match ← peek with
    | .beginArray => return .array (← list (value fuel))
    | .beginObject => return .object (← object (value fuel))
    | .scalar scalar =>
      let _ ← next
      return .scalar scalar
    | _ => throw .malformed

/-! ### Values are read from their tokens -/

theorem takes_entries {item : Decoder Value} {name : String} {value : Value}
    {members : List (String × Value)}
    (h : ∀ member ∈ (name, value) :: members, item.Takes member.2.tokens member.2)
    {fuel : Nat} (hfuel : members.length < fuel) :
    (entries item fuel).Takes
      (.scalar (.text name) :: .colon :: (value.tokens ++ furtherMemberTokens members))
      ((name, value) :: members) := by
  intro rest
  obtain ⟨fuel, rfl⟩ := Nat.exists_eq_succ_of_ne_zero (Nat.ne_zero_of_lt hfuel)
  have hkey (more : List Token) : key.run (.scalar (.text name) :: .colon :: more) =
      .ok (name, .colon :: more) := rfl
  have hcolon (more : List Token) : colon.run (.colon :: more) = .ok ((), more) := rfl
  induction members generalizing name value fuel with
  | nil =>
    have hvalue : item.Takes value.tokens value := h _ List.mem_cons_self
    rw [List.cons_append, List.cons_append, List.append_assoc, entries, run_bind_of_ok (hkey _),
      run_bind_of_ok (hcolon _), run_bind_of_ok (hvalue _), furtherMemberTokens]
    rfl
  | cons member members ih =>
    obtain ⟨hvalue, hmembers⟩ := List.forall_mem_cons.1 h
    obtain ⟨fuel, rfl⟩ := Nat.exists_eq_succ_of_ne_zero
      (Nat.ne_zero_of_lt (Nat.lt_of_succ_lt_succ hfuel))
    have hentries := ih hmembers fuel (Nat.lt_of_succ_lt_succ hfuel) fun _ ↦ rfl
    rw [List.cons_append, List.cons_append, List.append_assoc, entries, run_bind_of_ok (hkey _),
      run_bind_of_ok (hcolon _), run_bind_of_ok (hvalue _), furtherMemberTokens]
    change (entries item (fuel + 1) >>= fun more ↦ pure ((name, value) :: more)).run
      (.scalar (.text member.1) :: .colon :: (member.2.tokens ++ furtherMemberTokens members) ++
        rest) = _
    rw [run_bind_of_ok hentries]
    rfl

theorem takes_object {item : Decoder Value} {members : List (String × Value)}
    (h : ∀ member ∈ members, item.Takes member.2.tokens member.2) :
    (object item).Takes (Value.object members).tokens members := by
  intro rest
  match members with
  | [] => rw [Value.tokens]; rfl
  | (name, value) :: members =>
    have hfuel : members.length < (.scalar (.text name) :: .colon ::
        (value.tokens ++ furtherMemberTokens members) ++ rest : List Token).length := by
      have hlength := length_lt_furtherMemberTokens members
      simp only [List.length_append, List.length_cons]
      omega
    rw [Value.tokens]
    exact takes_entries h hfuel rest

end Decoder

theorem length_tokens_lt_furtherItemTokens {items : List Value} {item : Value}
    (h : item ∈ items) : item.tokens.length < (furtherItemTokens items).length := by
  induction items with
  | nil => exact absurd h List.not_mem_nil
  | cons first rest ih =>
    rw [furtherItemTokens, List.length_cons, List.length_append]
    rcases List.mem_cons.1 h with rfl | h
    · omega
    · have hrest := ih h
      omega

theorem length_tokens_lt_array {items : List Value} {item : Value} (h : item ∈ items) :
    item.tokens.length < (Value.array items).tokens.length := by
  have hlength := length_tokens_lt_furtherItemTokens h
  cases items with
  | nil => exact absurd h List.not_mem_nil
  | cons first rest =>
    -- An array starts as it goes on, with a bracket where there would be a comma.
    rw [furtherItemTokens, List.length_cons] at hlength
    rwa [Value.tokens, List.length_cons]

theorem length_tokens_lt_furtherMemberTokens {members : List (String × Value)}
    {member : String × Value} (h : member ∈ members) :
    member.2.tokens.length < (furtherMemberTokens members).length := by
  induction members with
  | nil => exact absurd h List.not_mem_nil
  | cons first rest ih =>
    rw [furtherMemberTokens, List.length_cons, List.length_cons, List.length_cons,
      List.length_append]
    rcases List.mem_cons.1 h with rfl | h
    · omega
    · have hrest := ih h
      omega

theorem length_tokens_lt_object {members : List (String × Value)} {member : String × Value}
    (h : member ∈ members) : member.2.tokens.length < (Value.object members).tokens.length := by
  have hlength := length_tokens_lt_furtherMemberTokens h
  match members with
  | [] => exact absurd h List.not_mem_nil
  | (_, _) :: _ =>
    rw [furtherMemberTokens, List.length_cons] at hlength
    rwa [Value.tokens, List.length_cons]

theorem exists_tokens_array (items : List Value) :
    ∃ more, (Value.array items).tokens = .beginArray :: more := by
  cases items with
  | nil => exact ⟨_, by rw [Value.tokens]⟩
  | cons item rest => exact ⟨_, by rw [Value.tokens]⟩

theorem exists_tokens_object (members : List (String × Value)) :
    ∃ more, (Value.object members).tokens = .beginObject :: more := by
  match members with
  | [] => exact ⟨_, by rw [Value.tokens]⟩
  | (_, _) :: _ => exact ⟨_, by rw [Value.tokens]⟩

/-- A value is read from its tokens; no value is nested deeper than it has tokens. -/
theorem Decoder.takes_value {value : Value} (h : value.Readable) {fuel : Nat}
    (hfuel : value.tokens.length ≤ fuel) : (Decoder.value fuel).Takes value.tokens value := by
  induction h generalizing fuel with
  | @scalar scalar _ =>
    rw [Value.tokens] at hfuel ⊢
    obtain ⟨fuel, rfl⟩ := Nat.exists_eq_succ_of_ne_zero (Nat.ne_zero_of_lt hfuel)
    exact fun _ ↦ rfl
  | @array items _ ih =>
    obtain ⟨more, htokens⟩ := exists_tokens_array items
    obtain ⟨fuel, rfl⟩ : ∃ smaller, fuel = smaller + 1 :=
      Nat.exists_eq_succ_of_ne_zero (by rintro rfl; simp [htokens] at hfuel)
    have hlist : (list (Decoder.value fuel)).Takes (Value.array items).tokens items :=
      takes_list (List.forall₂_same.2 fun item hitem ↦ ih item hitem
        (Nat.le_of_lt_succ (Nat.lt_of_lt_of_le (length_tokens_lt_array hitem) hfuel)))
    rw [htokens] at hlist ⊢
    exact hlist.map Value.array
  | @object members _ ih =>
    obtain ⟨more, htokens⟩ := exists_tokens_object members
    obtain ⟨fuel, rfl⟩ : ∃ smaller, fuel = smaller + 1 :=
      Nat.exists_eq_succ_of_ne_zero (by rintro rfl; simp [htokens] at hfuel)
    have hobject : (object (Decoder.value fuel)).Takes (Value.object members).tokens members :=
      takes_object fun member hmember ↦ ih member hmember
        (Nat.le_of_lt_succ (Nat.lt_of_lt_of_le (length_tokens_lt_object hmember) hfuel))
    rw [htokens] at hobject ⊢
    exact hobject.map Value.object

/-! ### Values are read from no other tokens -/

namespace Decoder

/-- The decoder takes the tokens of the value that it makes, and no others. -/
def OnlyTakes (item : Decoder Value) : Prop :=
  ∀ {before after value}, item.run before = .ok (value, after) → before = value.tokens ++ after

theorem eq_of_run_items {item : Decoder Value} (hitem : item.OnlyTakes) {fuel : Nat}
    {before after : List Token} {values : List Value}
    (h : (items item fuel).run before = .ok (values, after)) :
    ∃ first rest, values = first :: rest ∧
      before = first.tokens ++ (furtherItemTokens rest ++ after) := by
  induction fuel generalizing before after values with
  | zero => exact absurd h run_throw_ne_ok
  | succ fuel ih =>
    rw [items, run_bind_eq_ok_iff] at h
    obtain ⟨first, middle, hfirst, h⟩ := h
    obtain rfl := hitem hfirst
    rw [run_next_bind_eq_ok_iff] at h
    obtain ⟨token, behind, rfl, h⟩ := h
    split at h
    · rw [run_bind_eq_ok_iff] at h
      obtain ⟨more, last, hmore, h⟩ := h
      obtain ⟨second, rest, rfl, rfl⟩ := ih hmore
      cases run_pure_eq_ok_iff.1 h
      refine ⟨first, second :: rest, rfl, ?_⟩
      rw [furtherItemTokens, List.cons_append, List.append_assoc]
    · cases run_pure_eq_ok_iff.1 h
      exact ⟨first, [], rfl, by rw [furtherItemTokens]; rfl⟩
    · exact absurd h run_throw_ne_ok

theorem eq_of_run_list {item : Decoder Value} (hitem : item.OnlyTakes)
    {before after : List Token} {values : List Value}
    (h : (list item).run before = .ok (values, after)) :
    before = (Value.array values).tokens ++ after := by
  rw [list, run_next_bind_eq_ok_iff] at h
  obtain ⟨token, behind, rfl, h⟩ := h
  split at h
  · rw [run_peek_bind_eq_ok_iff] at h
    obtain ⟨token, rest, rfl, h⟩ := h
    split at h
    · rw [run_next_bind_eq_ok_iff] at h
      obtain ⟨_, _, hnext, h⟩ := h
      cases hnext
      cases run_pure_eq_ok_iff.1 h
      rw [Value.tokens]
      rfl
    · obtain ⟨first, rest, rfl, hitems⟩ := eq_of_run_items hitem h
      rw [hitems, Value.tokens, List.cons_append, List.append_assoc]
  · exact absurd h run_mismatch_ne_ok

theorem eq_of_run_entries {item : Decoder Value} (hitem : item.OnlyTakes) {fuel : Nat}
    {before after : List Token} {members : List (String × Value)}
    (h : (entries item fuel).run before = .ok (members, after)) :
    ∃ name value rest, members = (name, value) :: rest ∧ before =
      .scalar (.text name) :: .colon :: (value.tokens ++ (furtherMemberTokens rest ++ after)) := by
  induction fuel generalizing before after members with
  | zero => exact absurd h run_throw_ne_ok
  | succ fuel ih =>
    rw [entries, run_bind_eq_ok_iff] at h
    obtain ⟨name, middle, hkey, h⟩ := h
    obtain rfl := run_key_eq_ok_iff.1 hkey
    rw [run_bind_eq_ok_iff] at h
    obtain ⟨_, middle, hcolon, h⟩ := h
    obtain rfl := run_expect_eq_ok_iff.1 hcolon
    rw [run_bind_eq_ok_iff] at h
    obtain ⟨value, middle, hvalue, h⟩ := h
    obtain rfl := hitem hvalue
    rw [run_next_bind_eq_ok_iff] at h
    obtain ⟨token, behind, rfl, h⟩ := h
    refine ⟨name, value, ?_⟩
    split at h
    · rw [run_bind_eq_ok_iff] at h
      obtain ⟨more, last, hmore, h⟩ := h
      obtain ⟨other, content, rest, rfl, rfl⟩ := ih hmore
      cases run_pure_eq_ok_iff.1 h
      refine ⟨(other, content) :: rest, rfl, ?_⟩
      rw [furtherMemberTokens, List.cons_append, List.cons_append, List.cons_append,
        List.append_assoc]
    · cases run_pure_eq_ok_iff.1 h
      exact ⟨[], rfl, by rw [furtherMemberTokens]; rfl⟩
    · exact absurd h run_throw_ne_ok

theorem eq_of_run_object {item : Decoder Value} (hitem : item.OnlyTakes)
    {before after : List Token} {members : List (String × Value)}
    (h : (object item).run before = .ok (members, after)) :
    before = (Value.object members).tokens ++ after := by
  rw [object, run_next_bind_eq_ok_iff] at h
  obtain ⟨token, behind, rfl, h⟩ := h
  split at h
  · rw [run_peek_bind_eq_ok_iff] at h
    obtain ⟨token, rest, rfl, h⟩ := h
    split at h
    · rw [run_next_bind_eq_ok_iff] at h
      obtain ⟨_, _, hnext, h⟩ := h
      cases hnext
      cases run_pure_eq_ok_iff.1 h
      rw [Value.tokens]
      rfl
    · obtain ⟨name, value, rest, rfl, hentries⟩ := eq_of_run_entries hitem h
      rw [hentries, Value.tokens, List.cons_append, List.cons_append, List.cons_append,
        List.append_assoc]
  · exact absurd h run_throw_ne_ok

theorem onlyTakes_value (fuel : Nat) : (value fuel).OnlyTakes := by
  induction fuel with
  | zero => exact fun h ↦ absurd h run_throw_ne_ok
  | succ fuel ih =>
    intro before after found h
    rw [value, run_peek_bind_eq_ok_iff] at h
    obtain ⟨token, rest, rfl, h⟩ := h
    split at h
    · rw [run_bind_eq_ok_iff] at h
      obtain ⟨items, last, hitems, h⟩ := h
      cases run_pure_eq_ok_iff.1 h
      exact eq_of_run_list ih hitems
    · rw [run_bind_eq_ok_iff] at h
      obtain ⟨members, last, hmembers, h⟩ := h
      cases run_pure_eq_ok_iff.1 h
      exact eq_of_run_object ih hmembers
    · rw [run_next_bind_eq_ok_iff] at h
      obtain ⟨_, _, hnext, h⟩ := h
      cases hnext
      cases run_pure_eq_ok_iff.1 h
      rw [Value.tokens]
      rfl
    · exact absurd h run_throw_ne_ok

end Decoder

/-! ### Whole documents -/

/-- The value that a text describes. -/
def read (text : String) : Except Error Value :=
  decode (Decoder.value (tokens text).length) text

theorem read_of_tokens {value : Value} (h : value.Readable) {text : String}
    (htokens : tokens text = value.tokens) : read text = .ok value := by
  apply decode_of_takes
  rw [htokens]
  exact Decoder.takes_value h (Nat.le_refl _)

theorem tokens_of_read {value : Value} {text : String} (h : read text = .ok value) :
    tokens text = value.tokens := by
  have htokens := Decoder.onlyTakes_value _ (decode_eq_ok_iff.1 h)
  rwa [List.append_nil] at htokens

theorem read_pretty {value : Value} (h : value.Readable) : read value.pretty = .ok value :=
  read_of_tokens h (tokens_pretty h)

/-- Blanks after a document do not count. -/
theorem read_pretty_append {value : Value} (h : value.Readable) {blanks : String}
    (hblanks : ∀ char ∈ blanks.toList, isBlank char) :
    read (value.pretty ++ blanks) = .ok value := by
  apply read_of_tokens h
  have hspells := (spells_prettyChars h 0).append (spells_blanks hblanks)
  have htext : value.pretty ++ blanks = String.ofList (value.prettyChars 0 ++ blanks.toList) := by
    rw [Value.pretty, String.ofList_append, String.ofList_toList]
  rw [htext, tokens_ofList_of_spells hspells, List.append_nil]

end JvmSchema.Json
