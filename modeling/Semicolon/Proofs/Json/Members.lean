import Semicolon.Json.Reader

/-!
# Json — members sorted by name

Members that were inserted one after the other are sorted (`sorted_isSorted`), so that each name
stands once and the earlier of two members has the smaller name.  An insertion changes what one name
stands for and nothing else (`get?_insert`).

**Main result** (`read_isSorted`).  The members of an object that was read are sorted.
-/

namespace Semicolon.Json

namespace Members

/-- The names grow from each member to the next. -/
def IsSorted (ms : Members) : Prop := ms.Pairwise (·.1 < ·.1)

variable {ms : Members} {name other : String} {v w : Value}

/-- An insertion brings in no other member. -/
theorem mem_of_mem_insert {m : String × Value} (h : m ∈ insert name v ms) :
    m = (name, v) ∨ m ∈ ms := by
  induction ms with
  | nil => exact .inl (List.mem_singleton.mp h)
  | cons first ms ih =>
    rw [insert] at h
    split at h
    · exact List.mem_cons.mp h
    · split at h
      · exact (List.mem_cons.mp h).imp_right (List.mem_cons_of_mem _)
      · rcases List.mem_cons.mp h with rfl | h
        · exact .inr List.mem_cons_self
        · exact (ih h).imp_right (List.mem_cons_of_mem _)

/-- An insertion keeps the names sorted. -/
theorem IsSorted.insert (h : ms.IsSorted) (name : String) (v : Value) :
    IsSorted (insert name v ms) := by
  induction ms with
  | nil => exact List.pairwise_singleton _ _
  | cons first ms ih =>
    obtain ⟨hfirst, hrest⟩ := List.pairwise_cons.mp h
    rw [Members.insert]
    split
    · next hlt =>
      refine List.pairwise_cons.mpr ⟨fun m hm => ?_, h⟩
      rcases List.mem_cons.mp hm with rfl | hm
      · exact hlt
      · exact String.lt_trans hlt (hfirst m hm)
    · next hnot =>
      split
      · next heq =>
        subst heq
        exact List.pairwise_cons.mpr ⟨hfirst, hrest⟩
      · next hne =>
        refine List.pairwise_cons.mpr ⟨fun m hm => ?_, ih hrest⟩
        rcases mem_of_mem_insert hm with rfl | hm
        · exact Std.lt_of_le_of_ne (String.not_lt.mp hnot) (Ne.symm hne)
        · exact hfirst m hm

theorem isSorted_foldl_insert (h : ms.IsSorted) (written : Members) :
    IsSorted (written.foldl (fun ms (name, v) => Members.insert name v ms) ms) := by
  induction written generalizing ms with
  | nil => exact h
  | cons m written ih => exact ih (h.insert m.1 m.2)

theorem sorted_isSorted (written : Members) : (sorted written).IsSorted :=
  isSorted_foldl_insert List.Pairwise.nil written

/-! ### What a name stands for -/

/-- An insertion changes what one name stands for and nothing else. -/
theorem get?_insert (name : String) (v : Value) (ms : Members) (other : String) :
    (insert name v ms).get? other = if name = other then some v else ms.get? other := by
  induction ms with
  | nil => rfl
  | cons first ms ih =>
    rw [insert]
    split
    · rfl
    · next hnot =>
      split
      · next heq =>
        subst heq
        rw [get?, get?]
        split <;> rfl
      · next hne =>
        rw [get?, get?, ih]
        split
        · -- the name in front is the one asked for, so it is not the one inserted
          next heq => rw [if_neg fun hname => hne (hname.trans heq.symm)]
        · rfl

theorem mem_of_get? (h : ms.get? name = some v) : (name, v) ∈ ms := by
  induction ms with
  | nil => cases h
  | cons first ms ih =>
    rw [get?] at h
    split at h
    · next heq =>
      cases h
      subst heq
      exact List.mem_cons_self
    · exact List.mem_cons_of_mem _ (ih h)

/-- Each name stands once, so it stands for the value of its member. -/
theorem IsSorted.get?_of_mem (hsorted : ms.IsSorted) (h : (name, v) ∈ ms) :
    ms.get? name = some v := by
  induction ms with
  | nil => cases h
  | cons first ms ih =>
    obtain ⟨hfirst, hrest⟩ := List.pairwise_cons.mp hsorted
    rw [get?]
    rcases List.mem_cons.mp h with rfl | h
    · rw [if_pos rfl]
    · have hne : first.1 ≠ name := fun heq => String.lt_irrefl name (heq ▸ hfirst (name, v) h)
      rw [if_neg hne, ih hrest h]

/-- Behind a member its name does not stand again, and no smaller one stands. -/
theorem IsSorted.get?_tail_eq_none {m : String × Value} (h : IsSorted (m :: ms))
    (hle : name ≤ m.1) : ms.get? name = none := by
  cases hget : ms.get? name with
  | none => rfl
  | some v =>
    have hlt := (List.pairwise_cons.mp h).1 _ (mem_of_get? hget)
    exact absurd hlt (String.not_lt.mpr hle)

/-- The members with a smaller name are those in front. -/
theorem IsSorted.mem_front_iff {front behind : Members} {m first : String × Value}
    (h : IsSorted (front ++ m :: behind)) :
    first ∈ front ↔ first ∈ front ++ m :: behind ∧ first.1 < m.1 := by
  obtain ⟨-, hrest, hacross⟩ := List.pairwise_append.mp h
  constructor
  · intro hmem
    exact ⟨List.mem_append_left _ hmem, hacross first hmem m List.mem_cons_self⟩
  · rintro ⟨hmem, hlt⟩
    rcases List.mem_append.mp hmem with hmem | hmem
    · exact hmem
    rcases List.mem_cons.mp hmem with rfl | hmem
    · exact absurd hlt (String.lt_irrefl _)
    · exact absurd ((List.pairwise_cons.mp hrest).1 first hmem) (String.lt_asymm hlt)

end Members

/-! ### Tokens -/

/-- The members are sorted, if the value is an object. -/
def Value.IsSorted : Value → Prop
  | .object ms => Members.IsSorted ms
  | _          => True

/-- The value of the token is sorted, if it has one. -/
def Token.IsSorted : Token → Prop
  | .scalar v => v.IsSorted
  | _         => True

theorem exists_of_map_eq_ok {ε α β : Type} {x : Except ε α} {f : α → β} {b : β}
    (h : x.map f = .ok b) : ∃ a, x = .ok a ∧ f a = b := by
  cases x with
  | error e => cases h
  | ok a => exact ⟨a, rfl, Except.ok.inj h⟩

/-- No token is an object: its braces are tokens of their own. -/
theorem token_isSorted {c : Char} {t rest : Text} {k : Token} (h : token c t = .ok (k, rest)) :
    k.IsSorted := by
  rw [token.eq_def] at h
  split at h
  case h_7 | h_8 | h_9 | h_10 =>
    obtain ⟨_, -, heq⟩ := exists_of_map_eq_ok h
    cases heq
    trivial
  case h_11 =>
    split at h
    · obtain ⟨_, -, heq⟩ := exists_of_map_eq_ok h
      cases heq
      trivial
    · cases h
  all_goals
    cases h
    trivial

theorem tokens_isSorted {fuel : Nat} {t : Text} {k : Token} (h : k ∈ tokens fuel t) :
    k.IsSorted := by
  induction fuel generalizing t with
  | zero => cases h
  | succ fuel ih =>
    rw [tokens] at h
    split at h
    · cases h
    · split at h
      · next hk =>
        rcases List.mem_cons.mp h with rfl | h
        · exact token_isSorted hk
        · exact ih h
      · obtain rfl := List.mem_singleton.mp h
        trivial

/-! ### The automaton -/

/-- The value is sorted, if it is complete. -/
def State.IsSorted : State → Prop
  | .done v => v.IsSorted
  | _       => True

namespace State

theorem supply_isSorted {v : Value} (h : v.IsSorted) (frames : List Frame) :
    (supply v frames).IsSorted := by
  cases frames with
  | nil => exact h
  | cons frame frames => cases frame <;> trivial

theorem begin_isSorted {frames : List Frame} {k : Token} {s : State} (hk : k.IsSorted)
    (h : begin frames k = .ok s) : s.IsSorted := by
  cases k with
  | scalar v =>
    cases h
    exact supply_isSorted hk frames
  | string v =>
    cases h
    exact supply_isSorted (v := .string v) trivial frames
  | openArray | openObject =>
    rw [begin] at h
    split at h
    · cases h
      trivial
    · cases h
  | closeArray | closeObject | comma | colon | broken => cases h

theorem beginName_isSorted {members : Members} {frames : List Frame} {k : Token} {s : State}
    (h : beginName members frames k = .ok s) : s.IsSorted := by
  rw [beginName.eq_def] at h
  split at h
  · cases h
    trivial
  · cases h
  · cases h

/-- What a token completes is sorted. -/
theorem step_isSorted {s s' : State} {k : Token} (hk : k.IsSorted) (h : s.step k = .ok s') :
    s'.IsSorted := by
  rw [step.eq_def] at h
  split at h
  case h_1 | h_3 => exact begin_isSorted hk h
  case h_7 | h_8 => exact beginName_isSorted h
  case h_2 | h_5 =>
    cases h
    exact supply_isSorted (v := .array _) trivial _
  case h_6 =>
    cases h
    exact supply_isSorted (v := .object []) List.Pairwise.nil _
  case h_11 =>
    cases h
    exact supply_isSorted (v := objectOf _) (Members.sorted_isSorted _) _
  case h_12 => cases h
  all_goals
    cases h
    trivial

/-- So is what a run of tokens completes. -/
theorem run_isSorted {ks : List Token} (hks : ∀ k ∈ ks, k.IsSorted) {s s' : State}
    (hs : s.IsSorted) (h : ks.foldlM step s = .ok s') : s'.IsSorted := by
  induction ks generalizing s with
  | nil =>
    cases h
    exact hs
  | cons k ks ih =>
    obtain ⟨hk, hks⟩ := List.forall_mem_cons.mp hks
    rw [List.foldlM_cons] at h
    cases hstep : s.step k with
    | error failure =>
      rw [hstep] at h
      cases h
    | ok s₁ =>
      rw [hstep] at h
      exact ih hks (step_isSorted hk hstep) h

end State

/-- An object that was read has its members sorted by name. -/
theorem read_isSorted {t : Text} {ms : Members} (h : read t = .ok (.object ms)) :
    ms.IsSorted := by
  rw [read] at h
  cases hrun : (tokens (t.length + 1) t).foldlM State.step (.value []) with
  | error failure =>
    rw [hrun] at h
    cases h
  | ok s =>
    rw [hrun] at h
    have hsorted := State.run_isSorted (fun k => tokens_isSorted) (s := .value []) trivial hrun
    cases s with
    | done v =>
      cases h
      exact hsorted
    | value | firstItem | nextItem | firstMember | memberName | colon | nextMember => cases h

end Semicolon.Json
