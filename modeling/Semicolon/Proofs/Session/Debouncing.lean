import Semicolon.Proofs.Dispatcher.Debouncing
import Semicolon.Proofs.Session.Runs

/-!
# Session — events that come too early

An `Arrival` is an event as the dispatcher gets it: with the dispatcher at that moment, and the
time.  `arrivals` lists those of a run, however the event came about (`outcomes_eq`).

The debouncer holds the time of the newest arrival that was accepted, and nothing else
(`records_arrival`): an action that hands over no event leaves it alone, and an arrival does to it
what `Dispatcher.handle_gates` says.

**Main result** (`debounced_iff_recent`).  An event that reaches the debouncer is debounced if and
only if an accepted event came less than the delay before it, by the delay in effect now.
-/

namespace Semicolon

/-- An event that is handed to a dispatcher at a time. -/
structure Arrival where
  dispatcher : Dispatcher
  time : Nat
  event : Event

namespace Arrival

def outcome (a : Arrival) : Outcome := (a.dispatcher.handle a.time a.event).1

/-- The debouncer once the event is handled. -/
def debouncer (a : Arrival) : Debouncer := (a.dispatcher.handle a.time a.event).2.debouncer

/-- The event passes the gates in front of the debouncer. -/
def Reaches (a : Arrival) : Prop := a.dispatcher.Reaches a.event

/-- The delay in effect. -/
def delay (a : Arrival) : Nat := a.dispatcher.delay

end Arrival

namespace Session

/-! ### The arrivals of a run -/

def deliverArrival? (s : Session) (event : Event) : Delivery → Option Arrival
  | .keep           => none
  | .decide | .edit => some ⟨s.dispatcher, s.now, event⟩

/-- A text that is typed arrives once it stands in its document. -/
def typeArrival? (s : Session) (name : String) (p : Position) (text : Text) (delivery : Delivery) :
    Option Arrival :=
  match s.editor.type name p text with
  | .error _        => none
  | .ok (event, e') => (s.withEditor e').deliverArrival? event delivery

/-- The event that an action hands to the dispatcher, if it does. -/
def arrival? (s : Session) : Action → Option Arrival
  | .type name p text delivery => s.typeArrival? name p text delivery
  | .enter name line delivery  => s.typeArrival? name (s.lineEnd name line) ['\n'] delivery
  | .deliver event delivery    => s.deliverArrival? event delivery
  | _                          => none

/-- The events that actions hand to the dispatcher, in order. -/
def arrivals (s : Session) : List Action → List Arrival
  | []      => []
  | a :: as => (s.arrival? a).toList ++ (s.perform a).2.arrivals as

/-! ### One action -/

/-- What an arrival has to do with the session before it, and with what came of it. -/
structure Arrives (s : Session) (arrival? : Option Arrival) (r : Answer × Session) : Prop where
  outcome_eq : r.1.outcome? = arrival?.map Arrival.outcome
  found : ∀ x ∈ arrival?, x.time = s.now ∧ x.dispatcher.debouncer = s.dispatcher.debouncer
  debouncer_eq : r.2.dispatcher.debouncer =
    (arrival?.map Arrival.debouncer).getD s.dispatcher.debouncer
  now_le : s.now ≤ r.2.now

/-- Without an arrival, the debouncer is left alone and the clock does not go back. -/
theorem arrives_none {s : Session} {r : Answer × Session} (houtcome : r.1.outcome? = none)
    (hdebouncer : r.2.dispatcher.debouncer = s.dispatcher.debouncer) (hnow : s.now ≤ r.2.now) :
    Arrives s none r :=
  ⟨houtcome, fun x hx => absurd hx (Option.not_mem_none x), hdebouncer, hnow⟩

/-- An event that is kept does not arrive, and any other does. -/
theorem deliver_arrives (s : Session) (event : Event) (delivery : Delivery) :
    Arrives s (s.deliverArrival? event delivery) (s.deliver event delivery) := by
  cases delivery with
  | keep => exact arrives_none rfl rfl (Nat.le_refl _)
  | decide =>
    refine ⟨rfl, ?_, rfl, Nat.le_refl _⟩
    rintro x ⟨⟩
    exact ⟨rfl, rfl⟩
  | edit =>
    refine ⟨congrArg some (Dispatcher.handleAndEdit_outcome _ _ _), ?_,
      Dispatcher.handleAndEdit_debouncer _ _ _, Nat.le_refl _⟩
    rintro x ⟨⟩
    exact ⟨rfl, rfl⟩

theorem type_arrives (s : Session) (name : String) (p : Position) (text : Text)
    (delivery : Delivery) :
    Arrives s (s.typeArrival? name p text delivery) (s.type name p text delivery) := by
  rw [typeArrival?, type]
  cases s.editor.type name p text with
  | error error => exact arrives_none rfl rfl (Nat.le_refl _)
  | ok typed =>
    -- the typing itself touches neither the debouncer nor the clock
    obtain ⟨houtcome, hfound, hdebouncer, hnow⟩ :=
      deliver_arrives (s.withEditor typed.2) typed.1 delivery
    exact ⟨houtcome, hfound, hdebouncer, hnow⟩

/-- An action hands over one event at most, and leaves the debouncer that this event left. -/
theorem perform_arrives (s : Session) (a : Action) : Arrives s (s.arrival? a) (s.perform a) := by
  cases a with
  | type name p text delivery => exact type_arrives s name p text delivery
  | enter name line delivery => exact type_arrives s name _ ['\n'] delivery
  | deliver event delivery => exact deliver_arrives s event delivery
  | insert edit =>
    have harrival : s.arrival? (.insert edit) = none := rfl
    rw [harrival, perform]
    cases s.editor.insert edit <;> exact arrives_none rfl rfl (Nat.le_refl _)
  | undo =>
    have harrival : s.arrival? .undo = none := rfl
    rw [harrival, perform]
    cases s.editor.undo? <;> exact arrives_none rfl rfl (Nat.le_refl _)
  | advance duration => exact arrives_none rfl rfl (Nat.le_add_right _ _)
  | openDocument | focus | terminate | setSource | settingsChanged | setReadOnly =>
    exact arrives_none rfl rfl (Nat.le_refl _)

/-! ### Runs -/

/-- What comes of the events of a run is what comes of its arrivals. -/
theorem outcomes_eq (s : Session) (actions : List Action) :
    (s.answers actions).filterMap Answer.outcome? =
      (s.arrivals actions).map Arrival.outcome := by
  induction actions generalizing s with
  | nil => rfl
  | cons a actions ih =>
    rw [answers, arrivals, List.filterMap_cons, (perform_arrives s a).outcome_eq, List.map_append,
      ih]
    cases s.arrival? a <;> rfl

/-- No event of a run arrives before the run begins. -/
theorem now_le_of_mem_arrivals {s : Session} {actions : List Action} {x : Arrival}
    (hx : x ∈ s.arrivals actions) : s.now ≤ x.time := by
  induction actions generalizing s with
  | nil => cases hx
  | cons a actions ih =>
    have harrives := perform_arrives s a
    rcases List.mem_append.mp hx with hx | hx
    · exact Nat.le_of_eq (harrives.found x (Option.mem_toList.mp hx)).1.symm
    · exact harrives.now_le.trans (ih hx)

/-- The times of the arrivals that were accepted. -/
def acceptedTimes (arrivals : List Arrival) : List Nat :=
  (arrivals.filter (·.outcome.isAccepted)).map Arrival.time

theorem mem_acceptedTimes {arrivals : List Arrival} {t : Nat} :
    t ∈ acceptedTimes arrivals ↔ ∃ b ∈ arrivals, b.outcome.isAccepted = true ∧ b.time = t := by
  simp [acceptedTimes, and_assoc]

theorem acceptedTimes_concat (past : List Arrival) (x : Arrival) :
    acceptedTimes (past ++ [x]) =
      acceptedTimes past ++ if x.outcome.isAccepted then [x.time] else [] := by
  cases hx : x.outcome.isAccepted <;> simp [acceptedTimes, List.filter_append, hx]

/-- An arrival leaves the debouncer with the newest time that was accepted. -/
theorem records_handled {past : List Arrival} {x : Arrival}
    (h : x.dispatcher.debouncer.Records (acceptedTimes past) x.time) :
    x.debouncer.Records (acceptedTimes (past ++ [x])) x.time := by
  rw [acceptedTimes_concat, Arrival.debouncer, x.dispatcher.handle_debouncer]
  cases haccepted : x.outcome.isAccepted with
  | false =>
    rw [Arrival.outcome] at haccepted
    simpa [haccepted] using h
  | true =>
    rw [Arrival.outcome] at haccepted
    simpa [haccepted] using h.accept

/-- An arrival finds the debouncer with the newest time that was accepted before it. -/
theorem records_arrival {s : Session} {past earlier later : List Arrival} {x : Arrival}
    {actions : List Action} (h : s.dispatcher.debouncer.Records (acceptedTimes past) s.now)
    (hx : s.arrivals actions = earlier ++ x :: later) :
    x.dispatcher.debouncer.Records (acceptedTimes (past ++ earlier)) x.time := by
  induction actions generalizing s past earlier with
  | nil => simp [arrivals] at hx
  | cons a actions ih =>
    obtain ⟨-, hfound, hdebouncer, hnow⟩ := perform_arrives s a
    rw [arrivals] at hx
    cases harrival : s.arrival? a with
    | none =>
      rw [harrival] at hx hdebouncer
      rw [Option.map_none, Option.getD_none] at hdebouncer
      exact ih (hdebouncer ▸ h.mono hnow) hx
    | some y =>
      rw [harrival] at hx hdebouncer hfound
      obtain ⟨htime, hsame⟩ := hfound y rfl
      rw [← hsame, ← htime] at h
      cases earlier with
      | nil =>
        obtain rfl : y = x := (List.cons.inj hx).1
        rwa [List.append_nil]
      | cons y' earlier =>
        -- the first arrival lies in the past of `x`, which the debouncer records
        obtain ⟨rfl, hrest⟩ := List.cons.inj hx
        rw [List.append_cons]
        refine ih ?_ hrest
        rw [hdebouncer]
        exact (records_handled h).mono (htime ▸ hnow)

/-- The clock of a run does not go back. -/
theorem arrivals_sorted (s : Session) (actions : List Action) :
    (s.arrivals actions).Pairwise (·.time ≤ ·.time) := by
  induction actions generalizing s with
  | nil => exact .nil
  | cons a actions ih =>
    have harrives := perform_arrives s a
    rw [arrivals, List.pairwise_append]
    refine ⟨?_, ih _, fun x hx y hy => ?_⟩
    · cases s.arrival? a with
      | none => exact .nil
      | some x => exact List.pairwise_singleton _ x
    · rw [(harrives.found x (Option.mem_toList.mp hx)).1]
      exact harrives.now_le.trans (now_le_of_mem_arrivals hy)

/-- An event that reaches the debouncer is debounced if and only if an accepted event came less than
the delay before it.  So accepted events lie apart by the delay of the later one, an event that is
not accepted leaves the debouncer as it is, and without a delay none is debounced. -/
theorem debounced_iff_recent {s : Session} (hfresh : s.dispatcher.debouncer = .fresh)
    (actions : List Action) :
    (s.answers actions).filterMap Answer.outcome? = (s.arrivals actions).map Arrival.outcome ∧
    ∀ earlier x later, s.arrivals actions = earlier ++ x :: later →
      (∀ b ∈ earlier, b.time ≤ x.time) ∧
      (x.Reaches → (x.outcome = .skipped .debounced ↔
        ∃ b ∈ earlier, b.outcome.isAccepted = true ∧ x.time - b.time < x.delay)) ∧
      (x.outcome.isAccepted = true →
        ∀ b ∈ earlier, b.outcome.isAccepted = true → x.delay ≤ x.time - b.time) ∧
      (x.outcome.isAccepted = false → x.debouncer = x.dispatcher.debouncer) ∧
      (x.delay = 0 → x.outcome ≠ .skipped .debounced) := by
  refine ⟨outcomes_eq s actions, fun earlier x later hx => ?_⟩
  have hstart : s.dispatcher.debouncer.Records (acceptedTimes []) s.now := by
    rw [hfresh]
    exact Debouncer.records_fresh s.now
  have hrecords := records_arrival hstart hx
  have hearly : x.dispatcher.debouncer.isTooEarly x.time x.delay = true ↔
      ∃ b ∈ earlier, b.outcome.isAccepted = true ∧ x.time - b.time < x.delay := by
    rw [hrecords.isTooEarly_iff, List.nil_append]
    simp only [mem_acceptedTimes]
    constructor
    · rintro ⟨t, ⟨b, hb, haccepted, rfl⟩, hrecent⟩
      exact ⟨b, hb, haccepted, hrecent⟩
    · rintro ⟨b, hb, haccepted, hrecent⟩
      exact ⟨b.time, ⟨b, hb, haccepted, rfl⟩, hrecent⟩
  have hsorted := arrivals_sorted s actions
  rw [hx, List.pairwise_append] at hsorted
  have hdebounced := x.dispatcher.debounced_iff x.time x.event
  refine ⟨fun b hb => hsorted.2.2 b hb x List.mem_cons_self, fun hreaches => ?_,
    fun haccepted b hb hb' => ?_, fun hnot => ?_, fun hdelay houtcome => ?_⟩
  · exact hdebounced.trans ((and_iff_right hreaches).trans hearly)
  · by_contra hrecent
    have hnot := Dispatcher.isTooEarly_of_accepted haccepted
    rw [← Bool.not_eq_true] at hnot
    exact hnot (hearly.mpr ⟨b, hb, hb', Nat.lt_of_not_le hrecent⟩)
  · exact (x.dispatcher.handle_debouncer x.time x.event).trans (if_neg (Bool.eq_false_iff.mp hnot))
  · obtain ⟨b, -, -, hrecent⟩ := hearly.mp (hdebounced.mp houtcome).2
    rw [hdelay] at hrecent
    exact Nat.not_lt_zero _ hrecent

/-- Three line breaks, the second too soon after the first. -/
def hurry : List Action := [
  .enter "Main" 0 .edit,
  .advance 40,
  .enter "Main" 0 .edit,
  .advance 10,
  .enter "Main" 0 .edit]

/-- The second line break is debounced, and does not make the third one wait. -/
theorem debounced_iff_recent_of_hurry :
    ∃ x y z, (ofDocument "Main" ⟨"java", "int x = 1\n".toList⟩).arrivals hurry = [x, y, z] ∧
      y.Reaches ∧ y.outcome = .skipped .debounced ∧ x.outcome.isAccepted = true ∧
      y.time - x.time < y.delay ∧ z.outcome.isAccepted = true ∧ z.delay ≤ z.time - x.time := by
  have hfresh : (ofDocument "Main" ⟨"java", "int x = 1\n".toList⟩).dispatcher.debouncer =
      .fresh := rfl
  obtain ⟨-, harrivals⟩ := debounced_iff_recent hfresh hurry
  have houtcomes : ((ofDocument "Main" ⟨"java", "int x = 1\n".toList⟩).arrivals hurry).map
      (fun a => (a.outcome.isAccepted, a.outcome.skipReason?)) =
        [(true, none), (false, some .debounced), (true, none)] := by decide
  have hlength := congrArg List.length houtcomes
  rw [List.length_map] at hlength
  obtain ⟨x, y, z, hxyz⟩ := List.length_eq_three.mp hlength
  simp only [hxyz, List.map_cons, List.map_nil, List.cons.injEq, Prod.mk.injEq] at houtcomes
  obtain ⟨⟨hx, -⟩, ⟨-, hskip⟩, ⟨hz, -⟩, -⟩ := houtcomes
  have hy : y.outcome = .skipped .debounced := Outcome.skipReason?_eq_some.mp hskip
  have hreaches : y.Reaches := ((y.dispatcher.debounced_iff y.time y.event).mp hy).1
  obtain ⟨-, hdebounced, -⟩ := harrivals [x] y [z] hxyz
  obtain ⟨-, -, hapart, -⟩ := harrivals [x, y] z [] hxyz
  obtain ⟨b, hb, -, hrecent⟩ := (hdebounced hreaches).mp hy
  rw [List.mem_singleton.mp hb] at hrecent
  exact ⟨x, y, z, hxyz, hreaches, hy, hx, hrecent, hz, hapart hz x (by simp) hx⟩

end Session

end Semicolon
