import Semicolon.Proofs.Dispatcher.Outcomes

/-!
# Dispatcher — the debouncer among the gates

An event that does not reach the debouncer leaves it as it is, and so does one that comes too early;
any other is accepted, and then the debouncer holds its time.

* `handle_gates`: which of the three it was, by what came of the event; `debounced_iff`,
  `isTooEarly_of_accepted` and `handle_debouncer` are read off it.
* `Debouncer.Records`: the debouncer holds the newest of the times at which events were accepted.
  So a trigger is too early if and only if any of these times is less than the window ago
  (`Records.isTooEarly_iff`).
-/

namespace Semicolon

/-! ### The times that were accepted -/

namespace Debouncer

/-- The debouncer holds the newest of these times, of which the oldest comes first. -/
structure Records (d : Debouncer) (times : List Nat) (now : Nat) : Prop where
  last_eq : d.last = times.getLast?
  sorted : times.Pairwise (· ≤ ·)
  le_now : ∀ t ∈ times, t ≤ now

theorem records_fresh (now : Nat) : fresh.Records [] now := ⟨rfl, .nil, List.forall_mem_nil _⟩

namespace Records

variable {d : Debouncer} {times : List Nat} {now now' : Nat}

theorem mono (h : d.Records times now) (hnow : now ≤ now') : d.Records times now' :=
  ⟨h.last_eq, h.sorted, fun t ht => (h.le_now t ht).trans hnow⟩

/-- A trigger that is accepted is the newest. -/
theorem accept (h : d.Records times now) : Records ⟨some now⟩ (times ++ [now]) now where
  last_eq := List.getLast?_concat.symm
  sorted := by
    rw [List.pairwise_append]
    exact ⟨h.sorted, List.pairwise_singleton _ _, by simpa using h.le_now⟩
  le_now := by simpa [or_imp, forall_and] using h.le_now

/-- A trigger comes too early if and only if one was accepted less than the window ago. -/
theorem isTooEarly_iff (h : d.Records times now) (window : Nat) :
    d.isTooEarly now window = true ↔ ∃ t ∈ times, now - t < window := by
  rcases List.eq_nil_or_concat times with rfl | ⟨older, last, rfl⟩
  · have hlast : d.last = none := h.last_eq
    simp [isTooEarly, hlast]
  · rw [List.concat_eq_append] at h ⊢
    have hlast : d.last = some last := by rw [h.last_eq, List.getLast?_concat]
    -- no time is newer than the last one, so none is less long ago
    have hnewest : ∀ t ∈ older, t ≤ last := by simpa using (List.pairwise_append.mp h.sorted).2.2
    simp only [isTooEarly, hlast, decide_eq_true_eq]
    constructor
    · intro hearly
      exact ⟨last, List.mem_append_right _ List.mem_cons_self, hearly⟩
    · rintro ⟨t, ht, hearly⟩
      have hle : t ≤ last := by
        rcases List.mem_append.mp ht with ht | ht
        · exact hnewest t ht
        · exact Nat.le_of_eq (List.mem_singleton.mp ht)
      omega

end Records

end Debouncer

/-! ### What an event does to the debouncer -/

/-- The event was accepted by the debouncer. -/
def Outcome.isAccepted : Outcome → Bool
  | .decided _               => true
  | .skipped .notNewline     => true
  | .skipped .notFocused     => true
  | .skipped .lineOutOfRange => true
  | .skipped _               => false

theorem Outcome.skipReason?_eq_some {outcome : Outcome} {reason : SkipReason} :
    outcome.skipReason? = some reason ↔ outcome = .skipped reason := by
  cases outcome <;> simp [Outcome.skipReason?]

/-- What is not admitted is not accepted, and not debounced either. -/
theorem admission_eq_error {settings : Settings} {editor : Editor} {name : String}
    {reason : SkipReason} (h : admission settings editor name = .error reason) :
    (Outcome.skipped reason).isAccepted = false ∧ reason ≠ .debounced := by
  rw [admission] at h
  repeat' split at h
  all_goals cases h
  all_goals decide

/-- What is skipped behind the debouncer has been accepted. -/
theorem snapshotOf_eq_error {settings : Settings} {editor : Editor} {name : String} {d : Document}
    {change : Change} {reason : SkipReason}
    (h : snapshotOf settings editor name d change = .error reason) :
    (Outcome.skipped reason).isAccepted = true := by
  rw [snapshotOf] at h
  repeat' split at h
  all_goals cases h
  all_goals decide

namespace Dispatcher

/-- The least time between two accepted events, by the settings in effect. -/
def delay (d : Dispatcher) : Nat := d.cache.get.1.debounceDelay

/-- The event passes the gates in front of the debouncer. -/
def Reaches (d : Dispatcher) (event : Event) : Prop :=
  event.changes ≠ [] ∧ ∃ admitted, admission d.cache.get.1 d.editor event.document = .ok admitted

/-- An event is held back in front of the debouncer, or by it, or it is accepted. -/
theorem handle_gates (d : Dispatcher) (now : Nat) (event : Event) :
    (¬ d.Reaches event ∧ (d.handle now event).1.isAccepted = false ∧
      (d.handle now event).1 ≠ .skipped .debounced ∧
      (d.handle now event).2.debouncer = d.debouncer) ∨
    (d.Reaches event ∧ d.debouncer.isTooEarly now d.delay = true ∧
      (d.handle now event).1 = .skipped .debounced ∧
      (d.handle now event).2.debouncer = d.debouncer) ∨
    (d.Reaches event ∧ d.debouncer.isTooEarly now d.delay = false ∧
      (d.handle now event).1.isAccepted = true ∧
      (d.handle now event).2.debouncer = ⟨some now⟩) := by
  cases hchange : event.firstChange? with
  | none =>
    have hempty : event.changes = [] := List.head?_eq_none_iff.mp hchange
    have hne : Outcome.skipped .noChanges ≠ .skipped .debounced := by decide
    rw [handle_of_no_change hchange]
    exact .inl ⟨fun h => h.1 hempty, rfl, hne, rfl⟩
  | some change =>
    have hne : event.changes ≠ [] := by
      intro hempty
      rw [Event.firstChange?, hempty] at hchange
      cases hchange
    have hreaches : d.Reaches event ↔
        ∃ admitted, admission d.cache.get.1 d.editor event.document = .ok admitted :=
      and_iff_right hne
    rw [handle, hchange, hreaches, delay]
    dsimp only
    cases hadmission : admission d.cache.get.1 d.editor event.document with
    | error reason =>
      -- the event is held back at the gates
      obtain ⟨hnot, hreason⟩ := admission_eq_error hadmission
      refine .inl ⟨?_, hnot, fun h => hreason (Outcome.skipped.inj h), rfl⟩
      rintro ⟨admitted, h⟩
      cases h
    | ok admitted =>
      -- the event reaches the debouncer, which drops or accepts it
      refine .inr ?_
      rw [Debouncer.accept?]
      cases hearly : d.debouncer.isTooEarly now d.cache.get.1.debounceDelay with
      | true => exact .inl ⟨⟨admitted, rfl⟩, rfl, rfl, rfl⟩
      | false =>
        refine .inr ⟨⟨admitted, rfl⟩, rfl, ?_⟩
        dsimp only
        cases hsnapshot : snapshotOf d.cache.get.1 d.editor event.document admitted.1 change with
        | error reason => exact ⟨snapshotOf_eq_error hsnapshot, rfl⟩
        | ok snapshot => exact ⟨rfl, rfl⟩

/-- An event is debounced exactly if it reaches the debouncer too early. -/
theorem debounced_iff (d : Dispatcher) (now : Nat) (event : Event) :
    (d.handle now event).1 = .skipped .debounced ↔
      d.Reaches event ∧ d.debouncer.isTooEarly now d.delay = true := by
  rcases d.handle_gates now event with
    ⟨hreaches, -, hne, -⟩ | ⟨hreaches, hearly, houtcome, -⟩ | ⟨-, hearly, haccepted, -⟩
  · exact ⟨fun h => absurd h hne, fun h => absurd h.1 hreaches⟩
  · exact ⟨fun _ => ⟨hreaches, hearly⟩, fun _ => houtcome⟩
  · constructor
    · intro h
      rw [h] at haccepted
      cases haccepted
    · rintro ⟨-, h⟩
      rw [h] at hearly
      cases hearly

theorem isTooEarly_of_accepted {d : Dispatcher} {now : Nat} {event : Event}
    (h : (d.handle now event).1.isAccepted = true) :
    d.debouncer.isTooEarly now d.delay = false := by
  rcases d.handle_gates now event with
    ⟨-, hnot, -, -⟩ | ⟨-, -, houtcome, -⟩ | ⟨-, hearly, -, -⟩
  · rw [hnot] at h
    cases h
  · rw [houtcome] at h
    cases h
  · exact hearly

/-- Only an event that is accepted leaves its time. -/
theorem handle_debouncer (d : Dispatcher) (now : Nat) (event : Event) :
    (d.handle now event).2.debouncer =
      if (d.handle now event).1.isAccepted then ⟨some now⟩ else d.debouncer := by
  rcases d.handle_gates now event with
    ⟨-, hnot, -, hsame⟩ | ⟨-, -, houtcome, hsame⟩ | ⟨-, -, haccepted, hnew⟩
  · rw [hnot, hsame]
    rfl
  · rw [houtcome, hsame]
    rfl
  · rw [haccepted, hnew]
    rfl

end Dispatcher

end Semicolon
