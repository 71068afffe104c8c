import Semicolon.Settings.Reader

/-!
# Settings — one setting and one JSON value

* `Field.Reads` and `Field.Refuses`: a value has the type of a setting and says what to set it to,
  or it has another type and the fault is known.  One of the two holds of every value
  (`Field.reads_or_refuses`), and what is read is unique (`Field.Reads.eq`).
* `setJson_of_reads` and `setJson_of_refuses`: a setting is set as its value says and the others
  stay as they are, or the fault is the error.
* `ext_get`: settings are known by what each of them is set to.
-/

namespace Semicolon

open Json (Value Mismatch)

/-! ### What settings are set to -/

/-- What a setting is set to. -/
inductive Setting where
  | on (b : Bool)
  | identifiers (ids : List String)
  | milliseconds (n : Nat)
  deriving DecidableEq, Repr

namespace Settings

/-- What the setting `f` is set to. -/
def get (s : Settings) : Field → Setting
  | .switch .enabled      => .on s.enabled
  | .switch .skipComments => .on s.skipComments
  | .switch .skipStrings  => .on s.skipStrings
  | .switch (.language l) => .on (s.enableFor.get l)
  | .languages            => .identifiers s.languages
  | .debounceDelay        => .milliseconds s.debounceDelay

/-- Settings are known by what each of them is set to. -/
theorem ext_get {s s' : Settings} (h : ∀ f, s.get f = s'.get f) : s = s' := by
  obtain ⟨enabled, languages, skipComments, skipStrings, debounceDelay, enableFor⟩ := s
  obtain ⟨javaScript, typeScript, java, cSharp, cpp⟩ := enableFor
  have henabled := h (.switch .enabled)
  have hcomments := h (.switch .skipComments)
  have hstrings := h (.switch .skipStrings)
  have hlanguages := h .languages
  have hdelay := h .debounceDelay
  have hjavaScript := h (.switch (.language .javaScript))
  have htypeScript := h (.switch (.language .typeScript))
  have hjava := h (.switch (.language .java))
  have hcSharp := h (.switch (.language .cSharp))
  have hcpp := h (.switch (.language .cpp))
  simp_all [get, Switches.get]

/-- A switch is set to what it is switched to. -/
theorem get_setSwitch_self (s : Settings) (b : Bool) (x : Switch) :
    (s.setSwitch b x).get (.switch x) = .on b := by
  cases x with
  | language l => simp [get, setSwitch]
  | enabled | skipComments | skipStrings => rfl

/-- Every other setting stays. -/
theorem get_setSwitch_of_ne (s : Settings) (b : Bool) {x : Switch} {f : Field}
    (h : f ≠ .switch x) : (s.setSwitch b x).get f = s.get f := by
  cases f with
  | languages | debounceDelay => cases x <;> rfl
  | switch y =>
    have hne : y ≠ x := fun heq => h (heq ▸ rfl)
    cases x with
    | language l =>
      cases y with
      | language l' =>
        have hl : l' ≠ l := fun heq => hne (heq ▸ rfl)
        simp [get, setSwitch, Switches.get_set_of_ne _ _ hl]
      | enabled | skipComments | skipStrings => rfl
    | enabled | skipComments | skipStrings =>
      cases y <;> first | rfl | exact absurd rfl hne

end Settings

/-! ### Values and their types -/

/-- The value has the type of the setting and sets it so. -/
inductive Field.Reads : Field → Value → Setting → Prop where
  | switch (x : Switch) (b : Bool) : Reads (.switch x) (.boolean b) (.on b)
  | languages (ids : List String) :
      Reads .languages (.array (ids.map .string)) (.identifiers (identifiers ids))
  | debounceDelay (n : Nat) : Reads .debounceDelay (.number (.natural n)) (.milliseconds n)

/-- The value does not have the type of the setting; of a list the first item that is no string is
the fault. -/
inductive Field.Refuses : Field → Value → Mismatch → Prop where
  | switch {x : Switch} {v : Value} (h : ∀ b, v ≠ .boolean b) :
      Refuses (.switch x) v ⟨v.kind, .boolean⟩
  | languages {v : Value} (h : ∀ items, v ≠ .array items) : Refuses .languages v ⟨v.kind, .sequence⟩
  | identifier {ids : List String} {item : Value} {items : List Value}
      (h : ∀ id, item ≠ .string id) :
      Refuses .languages (.array (ids.map .string ++ item :: items)) ⟨item.kind, .string⟩
  | debounceDelay {v : Value} (h : ∀ n, v ≠ .number (.natural n)) :
      Refuses .debounceDelay v ⟨v.kind, .natural⟩

/-- Items are all strings, or there is a first one that is not. -/
theorem strings_or_other (items : List Value) :
    (∃ ids : List String, items = ids.map .string) ∨
    ∃ (ids : List String) (item : Value) (rest : List Value),
      items = ids.map .string ++ item :: rest ∧ ∀ id, item ≠ .string id := by
  induction items with
  | nil => exact .inl ⟨[], rfl⟩
  | cons item items ih =>
    cases item with
    | string id =>
      rcases ih with ⟨ids, rfl⟩ | ⟨ids, other, rest, rfl, hother⟩
      · exact .inl ⟨id :: ids, rfl⟩
      · exact .inr ⟨id :: ids, other, rest, rfl, hother⟩
    | null | boolean | number | array | object =>
      exact .inr ⟨[], _, items, rfl, fun _ h => Value.noConfusion h⟩

/-- A value has the type of a setting, or it is refused. -/
theorem Field.reads_or_refuses (f : Field) (v : Value) :
    (∃ x, f.Reads v x) ∨ ∃ m, f.Refuses v m := by
  cases f with
  | switch x =>
    by_cases h : ∃ b, v = .boolean b
    · obtain ⟨b, rfl⟩ := h
      exact .inl ⟨_, .switch x b⟩
    · exact .inr ⟨_, .switch fun b heq => h ⟨b, heq⟩⟩
  | debounceDelay =>
    by_cases h : ∃ n, v = .number (.natural n)
    · obtain ⟨n, rfl⟩ := h
      exact .inl ⟨_, .debounceDelay n⟩
    · exact .inr ⟨_, .debounceDelay fun n heq => h ⟨n, heq⟩⟩
  | languages =>
    by_cases h : ∃ items, v = .array items
    · obtain ⟨items, rfl⟩ := h
      rcases strings_or_other items with ⟨ids, rfl⟩ | ⟨ids, item, rest, rfl, hitem⟩
      · exact .inl ⟨_, .languages ids⟩
      · exact .inr ⟨_, .identifier hitem⟩
    · exact .inr ⟨_, .languages fun items heq => h ⟨items, heq⟩⟩

/-! ### Setting -/

/-- Strings in front of a list of items are read, and the rest decides. -/
theorem mapM_string_append (ids : List String) (items : List Value) :
    (ids.map Value.string ++ items).mapM Value.string? =
      (items.mapM Value.string?).map (ids ++ ·) := by
  induction ids with
  | nil =>
    rw [List.map_nil, List.nil_append]
    cases items.mapM Value.string? <;> rfl
  | cons id ids ih =>
    rw [List.map_cons, List.cons_append, List.mapM_cons, ih]
    cases items.mapM Value.string? <;> rfl

/-- Any other value is a fault of its own kind. -/
theorem string?_of_other {v : Value} (h : ∀ id, v ≠ .string id) :
    v.string? = .error ⟨v.kind, .string⟩ := by
  cases v with
  | string id => exact absurd rfl (h id)
  | null | boolean | number | array | object => rfl

namespace Settings

variable {f : Field} {v : Value}

/-- A value of the right type sets its setting and no other. -/
theorem setJson_of_reads {x : Setting} (h : f.Reads v x) (s : Settings) :
    ∃ s', s.setJson v f = .ok s' ∧ s'.get f = x ∧ ∀ g, g ≠ f → s'.get g = s.get g := by
  cases h with
  | switch x b =>
    exact ⟨s.setSwitch b x, rfl, get_setSwitch_self s b x, fun g hg => get_setSwitch_of_ne s b hg⟩
  | debounceDelay n =>
    refine ⟨{ s with debounceDelay := n }, rfl, rfl, fun g hg => ?_⟩
    cases g with
    | switch y => cases y <;> rfl
    | languages => rfl
    | debounceDelay => exact absurd rfl hg
  | languages ids =>
    have hids := mapM_string_append ids []
    rw [List.append_nil] at hids
    refine ⟨{ s with languages := identifiers ids }, ?_, rfl, fun g hg => ?_⟩
    · rw [setJson, Value.strings?, hids, List.mapM_nil]
      simp [Except.map, pure, Except.pure, bind, Except.bind]
    · cases g with
      | switch y => cases y <;> rfl
      | languages => exact absurd rfl hg
      | debounceDelay => rfl

/-- A value of another type sets nothing: its fault is the error. -/
theorem setJson_of_refuses {m : Mismatch} (h : f.Refuses v m) (s : Settings) :
    s.setJson v f = .error m := by
  cases h with
  | switch h =>
    cases v with
    | boolean b => exact absurd rfl (h b)
    | null | number | string | array | object => rfl
  | debounceDelay h =>
    cases v with
    | number n =>
      cases n with
      | natural n => exact absurd rfl (h n)
      | negative | float => rfl
    | null | boolean | string | array | object => rfl
  | languages h =>
    cases v with
    | array items => exact absurd rfl (h items)
    | null | boolean | number | string | object => rfl
  | identifier h =>
    -- the strings in front are read, and the item behind them stops the reading
    rw [setJson, Value.strings?, mapM_string_append, List.mapM_cons, string?_of_other h]
    rfl

end Settings

/-! ### What a value says is unique -/

namespace Field

variable {f : Field} {v : Value} {x y : Setting}

/-- A value sets a setting in one way only. -/
theorem Reads.eq (hx : f.Reads v x) (hy : f.Reads v y) : x = y := by
  obtain ⟨s, hs, hgetx, -⟩ := Settings.setJson_of_reads hx .default
  obtain ⟨s', hs', hgety, -⟩ := Settings.setJson_of_reads hy .default
  obtain rfl : s = s' := Except.ok.inj (hs.symm.trans hs')
  exact hgetx.symm.trans hgety

end Field

end Semicolon
