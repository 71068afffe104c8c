import Semicolon.Proofs.Json.Members
import Semicolon.Proofs.Settings.Fields
import Semicolon.Proofs.Text.Marks

/-!
# Settings — the values that count in a JSON text

A setting may stand in an object under its bare name, under its shared name, or under both
(`effective`).  Reading takes the members in the order of their names, and every shared name comes
before the bare one (`Field.sharedKey_lt_key`), so the bare one wins.

* `ownName?_eq_some_key_iff`: no other name stands for a setting.
* `get?_ownMembers`: what belongs to this program are the effective values, under bare names.
* `foldlM_of_reads` and `foldlM_of_refuses`: if all values have the right type, each is set;
  otherwise the first one that has not is the error.

**Main result** (`readJson_effective`).  The answer to a text that holds an object is a function of
the effective values (`Outcome`); no other member has a part in it.
-/

namespace Semicolon

open Json (Value Members Mismatch)

/-! ### Names -/

namespace Field

/-- The name of the setting in an object that several programs share. -/
def sharedKey (f : Field) : String := "autosemi." ++ f.key

/-- A shared name is the start that shared names have and the bare name. -/
theorem toList_sharedKey (f : Field) :
    f.sharedKey.toList = Settings.sharedStart ++ f.key.toList :=
  String.toList_append

/-- The shared name of a setting comes before its bare name. -/
theorem sharedKey_lt_key (f : Field) : f.sharedKey < f.key := by
  have hall : ∀ f ∈ all, sharedKey f < f.key := by decide +kernel
  exact hall f (mem_all f)

/-- A setting is found by its bare name only. -/
theorem ofKey?_eq_some_iff {name : String} {f : Field} : ofKey? name = some f ↔ name = f.key := by
  constructor
  · intro h
    have hkey := List.find?_some h
    exact (of_decide_eq_true hkey).symm
  · rintro rfl
    exact ofKey?_key f

/-- No two settings have the same name. -/
theorem key_inj {f g : Field} (h : f.key = g.key) : f = g :=
  Option.some.inj ((ofKey?_key f).symm.trans (ofKey?_eq_some_iff.mpr h))

/-- A bare name has no point, so it is not a shared one. -/
theorem point_notMem_key (f : Field) : '.' ∉ f.key.toList := by
  cases f with
  | switch s =>
    cases s with
    | language l => cases l <;> decide
    | enabled | skipComments | skipStrings => decide
  | languages | debounceDelay => decide

end Field

namespace Settings

/-- Two names stand for a setting. -/
theorem ownName?_eq_some_key_iff {name : String} {f : Field} :
    ownName? name = some f.key ↔ name = f.key ∨ name = f.sharedKey := by
  constructor
  · intro h
    rw [ownName?] at h
    split at h
    · next hstart =>
      right
      have hbare : name.toList.drop sharedStart.length = f.key.toList := by
        rw [← Option.some.inj h, String.toList_ofList]
      rw [← String.toList_inj, Field.toList_sharedKey, ← hbare]
      exact Text.eq_append_of_isPrefixOf hstart
    · split at h
      · cases h
      · exact .inl (Option.some.inj h)
  · rintro (rfl | rfl)
    · have hstart : ¬ Text.startsWith f.key.toList sharedStart = true := fun hstart =>
        f.point_notMem_key ((Text.startsWith_iff.mp hstart).subset (by decide))
      have hpoint : f.key.toList.contains '.' = false := by
        simpa using f.point_notMem_key
      rw [ownName?, if_neg hstart, hpoint]
      rfl
    · have hstart : Text.startsWith f.sharedKey.toList sharedStart = true := by
        rw [Text.startsWith_iff, Field.toList_sharedKey]
        exact List.prefix_append _ _
      rw [ownName?, if_pos hstart, Field.toList_sharedKey, List.drop_left, String.ofList_toList]

/-! ### What belongs to this program -/

/-- The value that counts for a setting: that of the bare name, or else that of the shared one. -/
def effective (ms : Members) (f : Field) : Option Value :=
  (ms.get? f.key).or (ms.get? f.sharedKey)

/-- Own members with one more, if it belongs to this program. -/
def addOwn (own : Members) (m : String × Value) : Members :=
  match ownName? m.1 with
  | some bare => own.insert bare m.2
  | none      => own

theorem ownMembers_eq_foldl (ms : Members) : ownMembers ms = ms.foldl addOwn [] := rfl

/-- Members stay sorted when one is added. -/
theorem addOwn_isSorted {own : Members} (h : own.IsSorted) (m : String × Value) :
    (addOwn own m).IsSorted := by
  rw [addOwn]
  split
  · exact h.insert _ _
  · exact h

/-- So they do when all members of an object are added. -/
theorem foldl_addOwn_isSorted {own : Members} (h : own.IsSorted) (ms : Members) :
    Members.IsSorted (ms.foldl addOwn own) := by
  induction ms generalizing own with
  | nil => exact h
  | cons m ms ih => exact ih (addOwn_isSorted h m)

/-- A member sets the value of a setting if it has one of the two names of it. -/
theorem get?_addOwn (own : Members) (m : String × Value) (f : Field) :
    (addOwn own m).get? f.key =
      if m.1 = f.key ∨ m.1 = f.sharedKey then some m.2 else own.get? f.key := by
  rw [addOwn]
  split
  · next bare hbare =>
    rw [Members.get?_insert]
    have hiff : bare = f.key ↔ m.1 = f.key ∨ m.1 = f.sharedKey := by
      rw [← ownName?_eq_some_key_iff, hbare, Option.some.injEq]
    simp only [hiff]
  · next hnone =>
    have hnot : ¬ (m.1 = f.key ∨ m.1 = f.sharedKey) := by
      rw [← ownName?_eq_some_key_iff, hnone]
      exact nofun
    rw [if_neg hnot]

/-- Sorted members that are added one after the other leave the effective values. -/
theorem get?_foldl_addOwn {ms : Members} (h : ms.IsSorted) (own : Members) (f : Field) :
    Members.get? (ms.foldl addOwn own) f.key = (effective ms f).or (own.get? f.key) := by
  induction ms generalizing own with
  | nil => rfl
  | cons m ms ih =>
    have hkeys := f.sharedKey_lt_key
    rw [List.foldl_cons, ih (List.pairwise_cons.mp h).2, get?_addOwn, effective, effective,
      Members.get?, Members.get?]
    by_cases hbare : m.1 = f.key
    · -- behind the bare name, the last of the two, neither name stands
      have hsame : Members.get? ms f.key = none := h.get?_tail_eq_none (hbare ▸ String.le_refl _)
      have hshared : Members.get? ms f.sharedKey = none :=
        h.get?_tail_eq_none (hbare ▸ Std.le_of_lt hkeys)
      simp [hbare, hsame, hshared]
    · by_cases hshared : m.1 = f.sharedKey
      · -- the bare name may follow, and then its value takes the place of this one
        have hne : f.sharedKey ≠ f.key := fun heq => String.lt_irrefl _ (heq ▸ hkeys)
        have hsame : Members.get? ms f.sharedKey = none :=
          h.get?_tail_eq_none (hshared ▸ String.le_refl _)
        simp [hshared, hne, hsame]
      · simp [hbare, hshared]

/-- What belongs to this program are the effective values. -/
theorem get?_ownMembers {ms : Members} (h : ms.IsSorted) (f : Field) :
    (ownMembers ms).get? f.key = effective ms f := by
  rw [ownMembers_eq_foldl, get?_foldl_addOwn h, Members.get?, Option.or_none]

theorem ownMembers_isSorted (ms : Members) : (ownMembers ms).IsSorted :=
  foldl_addOwn_isSorted List.Pairwise.nil ms

/-! ### Reading one member after the other -/

/-- The settings are set to the values that there are, and otherwise as in `base`. -/
structure Sets (values : Field → Option Value) (base s : Settings) : Prop where
  present : ∀ f v, values f = some v → f.Reads v (s.get f)
  absent : ∀ f, values f = none → s.get f = base.get f

/-- The values and the base determine the settings. -/
theorem Sets.eq {values : Field → Option Value} {base s s' : Settings} (h : Sets values base s)
    (h' : Sets values base s') : s = s' := by
  refine ext_get fun f => ?_
  cases hv : values f with
  | none => rw [h.absent f hv, h'.absent f hv]
  | some v => exact (h.present f v hv).eq (h'.present f v hv)

theorem readMember_key (s : Settings) (f : Field) (v : Value) :
    s.readMember (f.key, v) = s.setJson v f := by
  rw [readMember, Field.ofKey?_key]

/-- A member in front that stands for no setting changes nothing. -/
theorem Sets.cons_of_ofKey?_eq_none {own : Members} {name : String} {base s : Settings}
    (h : Sets (fun f => Members.get? own f.key) base s) (hname : Field.ofKey? name = none)
    (v : Value) : Sets (fun f => Members.get? ((name, v) :: own) f.key) base s := by
  have hne : ∀ f : Field, name ≠ f.key := by
    rintro f rfl
    cases hname.symm.trans (Field.ofKey?_key f)
  have hget : ∀ f : Field, Members.get? ((name, v) :: own) f.key = Members.get? own f.key :=
    fun f => if_neg (hne f)
  simpa only [hget] using h

/-- A member in front sets its setting, if no member behind it does. -/
theorem Sets.cons_of_reads {own : Members} {f : Field} {v : Value} {x : Setting}
    {base s₁ s : Settings} (h : Sets (fun f => Members.get? own f.key) s₁ s)
    (hx : f.Reads v x) (hself : s₁.get f = x) (hothers : ∀ g, g ≠ f → s₁.get g = base.get g)
    (hnone : Members.get? own f.key = none) :
    Sets (fun g => Members.get? ((f.key, v) :: own) g.key) base s := by
  have hlast : s.get f = x := (h.absent f hnone).trans hself
  constructor
  · intro g w hw
    rw [Members.get?] at hw
    split at hw
    · next heq =>
      obtain rfl := Field.key_inj heq
      obtain rfl := Option.some.inj hw
      rwa [hlast]
    · exact h.present g w hw
  · intro g hw
    rw [Members.get?] at hw
    split at hw
    · cases hw
    · next hne => rw [h.absent g hw, hothers g fun heq => hne (heq ▸ rfl)]

/-- If every value has the type of its setting, each setting is set as its value says. -/
theorem foldlM_of_reads {own : Members} (hsorted : own.IsSorted)
    (hreads : ∀ f v, (Field.key f, v) ∈ own → ∃ x, f.Reads v x) (s : Settings) :
    ∃ s', own.foldlM readMember s = .ok s' ∧ Sets (fun f => Members.get? own f.key) s s' := by
  induction own generalizing s with
  | nil => exact ⟨s, rfl, nofun, fun _ _ => rfl⟩
  | cons m own ih =>
    have ih := ih (List.pairwise_cons.mp hsorted).2
      fun f v hmem => hreads f v (List.mem_cons_of_mem m hmem)
    obtain ⟨name, v⟩ := m
    rw [List.foldlM_cons]
    cases hkey : Field.ofKey? name with
    | none =>
      obtain ⟨s', hs', hsets⟩ := ih s
      refine ⟨s', ?_, hsets.cons_of_ofKey?_eq_none hkey v⟩
      rw [readMember, hkey]
      exact hs'
    | some f =>
      obtain rfl := Field.ofKey?_eq_some_iff.mp hkey
      obtain ⟨x, hx⟩ := hreads f v List.mem_cons_self
      obtain ⟨s₁, hs₁, hself, hothers⟩ := setJson_of_reads hx s
      obtain ⟨s', hs', hsets⟩ := ih s₁
      -- no later member sets `f` again, for the names are sorted
      have hnone := hsorted.get?_tail_eq_none (String.le_refl f.key)
      refine ⟨s', ?_, hsets.cons_of_reads hx hself hothers hnone⟩
      rw [readMember_key, hs₁]
      exact hs'

/-- The first value that has another type is the error. -/
theorem foldlM_of_refuses {front behind : Members} {f : Field} {v : Value} {m : Mismatch}
    (hsorted : Members.IsSorted (front ++ (f.key, v) :: behind))
    (hreads : ∀ g w, (Field.key g, w) ∈ front → ∃ x, g.Reads w x) (hm : f.Refuses v m)
    (s : Settings) : (front ++ (f.key, v) :: behind).foldlM readMember s = .error m := by
  obtain ⟨s', hs', -⟩ := foldlM_of_reads (List.pairwise_append.mp hsorted).1 hreads s
  rw [List.foldlM_append, hs']
  change ((f.key, v) :: behind).foldlM readMember s' = .error m
  rw [List.foldlM_cons, readMember_key, setJson_of_refuses hm]
  rfl

/-- Either every value has the type of its setting, or there is a first one that has not. -/
theorem reads_or_first_refused (own : Members) :
    (∀ f v, (Field.key f, v) ∈ own → ∃ x, f.Reads v x) ∨
    ∃ (front : Members) (f : Field) (v : Value) (behind : Members) (m : Mismatch),
      own = front ++ (f.key, v) :: behind ∧
      (∀ g w, (Field.key g, w) ∈ front → ∃ x, g.Reads w x) ∧ f.Refuses v m := by
  induction own with
  | nil => exact .inl nofun
  | cons first own ih =>
    by_cases hfirst : ∀ f v, (Field.key f, v) = first → ∃ x, f.Reads v x
    · have hcons : ∀ {part : Members}, (∀ g w, (Field.key g, w) ∈ part → ∃ x, g.Reads w x) →
          ∀ g w, (Field.key g, w) ∈ first :: part → ∃ x, g.Reads w x :=
        fun hpart g w hmem => (List.mem_cons.mp hmem).elim (hfirst g w) (hpart g w)
      rcases ih with hall | ⟨front, f, v, behind, m, rfl, hfront, hm⟩
      · exact .inl (hcons hall)
      · exact .inr ⟨first :: front, f, v, behind, m, rfl, hcons hfront, hm⟩
    · right
      push Not at hfirst
      obtain ⟨f, v, rfl, hnone⟩ := hfirst
      rcases f.reads_or_refuses v with ⟨x, hx⟩ | ⟨m, hm⟩
      · exact absurd hx (hnone x)
      · exact ⟨[], f, v, own, m, rfl, nofun, hm⟩

/-! ### Answers -/

/-- What reading answers where these values count: settings with an allowed delay, or the fault of
the first setting whose value has another type, or else that the delay is too long. -/
inductive Outcome (values : Field → Option Value) : Except SettingsError Settings → Prop where
  | ok {s : Settings} (hsets : Sets values default s) (hdelay : s.debounceDelay ≤ maxDelay) :
      Outcome values (.ok s)
  | mismatch {f : Field} {v : Value} {m : Mismatch} (hvalue : values f = some v)
      (hfault : f.Refuses v m)
      (hfirst : ∀ g w, g.key < f.key → values g = some w → ∃ x, g.Reads w x) :
      Outcome values (.error (.mismatch m))
  | delayTooLong {s : Settings} (hsets : Sets values default s)
      (hdelay : maxDelay < s.debounceDelay) : Outcome values (.error (.delayTooLong s))

section

variable {ms : Members} (hsorted : ms.IsSorted)

include hsorted

/-- The own members are the effective values, each under its bare name. -/
theorem mem_ownMembers_iff {f : Field} {v : Value} :
    (f.key, v) ∈ ownMembers ms ↔ effective ms f = some v := by
  rw [← get?_ownMembers hsorted]
  exact ⟨(ownMembers_isSorted ms).get?_of_mem, Members.mem_of_get?⟩

/-- If every effective value has the right type, settings are read. -/
theorem exists_ofMembers (hreads : ∀ f v, effective ms f = some v → ∃ x, f.Reads v x) :
    ∃ s, ofMembers ms = .ok s ∧ Sets (effective ms) default s := by
  obtain ⟨s, hs, hsets⟩ := foldlM_of_reads (ownMembers_isSorted ms)
    (fun f v hmem => hreads f v ((mem_ownMembers_iff hsorted).mp hmem)) default
  refine ⟨s, hs, ?_⟩
  simpa only [get?_ownMembers hsorted] using hsets

/-- Settings that are set as the effective values say are the ones that are read. -/
theorem ofMembers_of_sets {s : Settings} (hsets : Sets (effective ms) default s) :
    ofMembers ms = .ok s := by
  obtain ⟨s', hs', hsets'⟩ := exists_ofMembers hsorted fun f v hv => ⟨_, hsets.present f v hv⟩
  rw [hs', hsets'.eq hsets]

/-- The own members are sorted, so in front of a member are those with smaller names. -/
theorem ofMembers_of_refuses {f : Field} {v : Value} {m : Mismatch}
    (hvalue : effective ms f = some v) (hfault : f.Refuses v m)
    (hfirst : ∀ g w, g.key < f.key → effective ms g = some w → ∃ x, g.Reads w x) :
    ofMembers ms = .error m := by
  obtain ⟨front, behind, hown⟩ :=
    List.append_of_mem ((mem_ownMembers_iff hsorted).mpr hvalue)
  have hsortedOwn : Members.IsSorted (front ++ (f.key, v) :: behind) :=
    hown ▸ ownMembers_isSorted ms
  have hfront : ∀ g w, (Field.key g, w) ∈ front → ∃ x, g.Reads w x := by
    intro g w hmem
    obtain ⟨hmem, hlt⟩ := hsortedOwn.mem_front_iff.mp hmem
    rw [← hown, mem_ownMembers_iff hsorted] at hmem
    exact hfirst g w hlt hmem
  rw [ofMembers, hown, foldlM_of_refuses hsortedOwn hfront hfault]

/-- An outcome of the effective values is the answer. -/
theorem ofJson_of_outcome {r : Except SettingsError Settings} (h : Outcome (effective ms) r) :
    ofJson (.object ms) = r := by
  cases h with
  | @ok s hsets hdelay =>
    have hvalid : s.isValid = true := decide_eq_true hdelay
    rw [ofJson, ofMembers_of_sets hsorted hsets]
    exact if_pos hvalid
  | mismatch hvalue hfault hfirst =>
    rw [ofJson, ofMembers_of_refuses hsorted hvalue hfault hfirst]
  | @delayTooLong s hsets hdelay =>
    have hvalid : ¬ s.isValid = true := fun hvalid =>
      Nat.not_le_of_lt hdelay (of_decide_eq_true hvalid)
    rw [ofJson, ofMembers_of_sets hsorted hsets]
    exact if_neg hvalid

/-- Of all values there is an answer. -/
theorem exists_outcome : ∃ r, Outcome (effective ms) r := by
  rcases reads_or_first_refused (ownMembers ms) with
    hall | ⟨front, f, v, behind, m, hown, hfront, hfault⟩
  · obtain ⟨s, -, hsets⟩ := exists_ofMembers hsorted
      fun f v hv => hall f v ((mem_ownMembers_iff hsorted).mpr hv)
    rcases Nat.lt_or_ge maxDelay s.debounceDelay with hlt | hle
    · exact ⟨_, .delayTooLong hsets hlt⟩
    · exact ⟨_, .ok hsets hle⟩
  · have hvalue : effective ms f = some v := by
      rw [← mem_ownMembers_iff hsorted, hown]
      exact List.mem_append_right _ List.mem_cons_self
    refine ⟨_, .mismatch hvalue hfault fun g w hlt hw => hfront g w ?_⟩
    have hsortedOwn := ownMembers_isSorted ms
    have hmem := (mem_ownMembers_iff hsorted).mpr hw
    rw [hown] at hsortedOwn hmem
    exact hsortedOwn.mem_front_iff.mpr ⟨hmem, hlt⟩

/-- The answer is the outcome of the effective values, and there is no other. -/
theorem ofJson_eq_iff {r : Except SettingsError Settings} :
    ofJson (.object ms) = r ↔ Outcome (effective ms) r := by
  constructor
  · rintro rfl
    obtain ⟨r, hr⟩ := exists_outcome hsorted
    rwa [ofJson_of_outcome hsorted hr]
  · exact ofJson_of_outcome hsorted

/-- Settings can be used if every value has the right type and the delay is allowed. -/
theorem exists_ofJson_iff : (∃ s, ofJson (.object ms) = .ok s) ↔
    (∀ f v, effective ms f = some v → ∃ x, f.Reads v x) ∧
    ∀ n, effective ms .debounceDelay = some (.number (.natural n)) → n ≤ maxDelay := by
  constructor
  · rintro ⟨s, hs⟩
    cases (ofJson_eq_iff hsorted).mp hs with
    | ok hsets hdelay =>
      refine ⟨fun f v hv => ⟨_, hsets.present f v hv⟩, fun n hn => ?_⟩
      have hget := (hsets.present _ _ hn).eq (.debounceDelay n)
      rwa [← Setting.milliseconds.inj hget]
  · rintro ⟨hreads, hdelay⟩
    obtain ⟨s, -, hsets⟩ := exists_ofMembers hsorted hreads
    refine ⟨s, ofJson_of_outcome hsorted (.ok hsets ?_)⟩
    cases hv : effective ms .debounceDelay with
    | none =>
      -- the object has no delay, so that of the defaults is in use
      have hget := hsets.absent _ hv
      rw [Setting.milliseconds.inj hget]
      decide
    | some v =>
      obtain ⟨x, hx⟩ := hreads _ v hv
      cases hx with
      | debounceDelay n =>
        have hget := (hsets.present _ _ hv).eq (.debounceDelay n)
        rw [Setting.milliseconds.inj hget]
        exact hdelay n hv

end

theorem readJson_of_read {t : Text} {v : Value} (h : Json.read t = .ok v) :
    readJson t = ofJson v := by
  rw [readJson, h]

/-- Another program's member changes no effective value. -/
theorem effective_insert {name : String} (h : ∀ f, name ≠ Field.key f ∧ name ≠ Field.sharedKey f)
    (v : Value) (ms : Members) : effective (ms.insert name v) = effective ms := by
  funext f
  rw [effective, effective, Members.get?_insert, Members.get?_insert, if_neg (h f).1,
    if_neg (h f).2]

/-- What is read from an object depends on the effective values only, and they say what it is. -/
theorem readJson_effective {t : Text} {ms : Members} (h : Json.read t = .ok (.object ms)) :
    (∀ r, readJson t = r ↔ Outcome (effective ms) r) ∧
    ((∃ s, readJson t = .ok s) ↔
      (∀ f v, effective ms f = some v → ∃ x, f.Reads v x) ∧
      ∀ n, effective ms .debounceDelay = some (.number (.natural n)) → n ≤ maxDelay) ∧
    (∀ t' ms', Json.read t' = .ok (.object ms') → (∀ f, effective ms' f = effective ms f) →
      readJson t' = readJson t) ∧
    (∀ name v t', (∀ f, name ≠ Field.key f ∧ name ≠ Field.sharedKey f) →
      Json.read t' = .ok (.object (ms.insert name v)) → readJson t' = readJson t) := by
  have hsorted := Json.read_isSorted h
  have hsame : ∀ t' ms', Json.read t' = .ok (.object ms') → effective ms' = effective ms →
      readJson t' = readJson t := by
    intro t' ms' h' heq
    rw [readJson_of_read h', ofJson_eq_iff (Json.read_isSorted h'), heq,
      ← ofJson_eq_iff hsorted, readJson_of_read h]
  refine ⟨fun r => ?_, ?_, fun t' ms' h' heq => hsame t' ms' h' (funext heq),
    fun name v t' hname h' => hsame t' _ h' (effective_insert hname v ms)⟩
  · rw [readJson_of_read h]
    exact ofJson_eq_iff hsorted
  · rw [readJson_of_read h]
    exact exists_ofJson_iff hsorted

/-- A wrong value under a shared name that a bare one hides, the same setting under its shared name
alone, and the first text with a member of another program. -/
theorem readJson_effective_of_hidden :
    let t := "\x7b\"autosemi.enabled\": 1, \"enabled\": false\x7d".toList
    let shared := "\x7b\"autosemi.enabled\": false\x7d".toList
    let other :=
      "\x7b\"enabled\": false, \"editor.tabSize\": [4], \"autosemi.enabled\": 1\x7d".toList
    let ms := [("autosemi.enabled", .number (.natural 1)), ("enabled", .boolean false)]
    Json.read t = .ok (.object ms) ∧
    Outcome (effective ms) (.ok { default with enabled := false }) ∧
    readJson shared = readJson t ∧ readJson other = readJson t := by
  intro t shared other ms
  have hread : Json.read t = .ok (.object ms) := rfl
  have hshared : Json.read shared = .ok (.object [("autosemi.enabled", .boolean false)]) := rfl
  have hother : Json.read other = .ok (.object
      (Members.insert "editor.tabSize" (.array [.number (.natural 4)]) ms)) := rfl
  have heffective : ∀ f, effective [("autosemi.enabled", .boolean false)] f = effective ms f := by
    intro f
    cases f with
    | switch s =>
      cases s with
      | language l => cases l <;> rfl
      | enabled | skipComments | skipStrings => rfl
    | languages | debounceDelay => rfl
  have hforeign : ∀ f ∈ Field.all, "editor.tabSize" ≠ f.key ∧ "editor.tabSize" ≠ f.sharedKey := by
    decide +kernel
  obtain ⟨houtcome, -, hsame, hinsert⟩ := readJson_effective hread
  exact ⟨hread, (houtcome _).mp rfl, hsame shared _ hshared heffective,
    hinsert _ _ other (fun f => hforeign f (Field.mem_all f)) hother⟩

end Settings

end Semicolon
