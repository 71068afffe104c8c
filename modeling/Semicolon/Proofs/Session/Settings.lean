import Semicolon.Proofs.Dispatcher.Outcomes
import Semicolon.Proofs.Session.Runs
import Semicolon.Proofs.Settings.Cache

/-!
# Session — the settings in effect

**Main result** (`settings_in_effect`).  Settings are loaded when they are asked for, if they were
not asked for since the beginning or the last invalidation.  A load that fails changes nothing: in
effect are the settings of the newest load that did not fail, or the defaults.  A line is decided
only if these settings are enabled, list the language of the document and have it switched on.

What a session asks of its cache is read off its actions (`requestsOf`), so the cache of a session
is the one of these requests (`cache_run`).
-/

namespace Semicolon
open Cache (Request)

/-- What an event asks of the cache: an event without a change asks for nothing. -/
def Delivery.requests (event : Event) : Delivery → List Request
  | .keep           => []
  | .decide | .edit => if event.changes.isEmpty then [] else [.get]

namespace Session

/-- What typing a text asks of the cache: if it is refused, there is no event. -/
def typeRequests (s : Session) (name : String) (p : Position) (text : Text) (delivery : Delivery) :
    List Request :=
  match s.editor.type name p text with
  | .error _       => []
  | .ok (event, _) => delivery.requests event

/-- What an action asks of the cache. -/
def requests (s : Session) : Action → List Request
  | .type name p text delivery => s.typeRequests name p text delivery
  | .enter name line delivery  => s.typeRequests name (s.lineEnd name line) ['\n'] delivery
  | .deliver event delivery    => delivery.requests event
  | .setSource source          => [.setSource source]
  | .settingsChanged           => [.invalidate]
  | _                          => []

/-- What actions that are carried out one after the other ask of the cache, the newest first. -/
def requestsOf (s : Session) : List Action → List Request
  | []      => []
  | a :: as => (s.perform a).2.requestsOf as ++ s.requests a

/-! ### The cache of a session -/

/-- An event that is handled asks the cache for the settings, if it has a change. -/
theorem deliver_cache (s : Session) (event : Event) (delivery : Delivery) :
    (s.deliver event delivery).2.dispatcher.cache =
      s.dispatcher.cache.after (delivery.requests event) := by
  have hhandle : (s.dispatcher.handle s.now event).2.cache =
      s.dispatcher.cache.after (if event.changes.isEmpty then [] else [.get]) := by
    cases hchange : event.changes with
    | nil =>
      rw [Dispatcher.handle_of_no_change (by rw [Event.firstChange?, hchange]; rfl)]
      rfl
    | cons change changes =>
      exact Dispatcher.handle_cache (by rw [Event.firstChange?, hchange]; rfl) s.dispatcher s.now
  cases delivery with
  | keep => rfl
  | decide => exact hhandle
  | edit => exact (Dispatcher.handleAndEdit_cache s.dispatcher s.now event).trans hhandle

theorem type_cache (s : Session) (name : String) (p : Position) (text : Text)
    (delivery : Delivery) :
    (s.type name p text delivery).2.dispatcher.cache =
      s.dispatcher.cache.after (s.typeRequests name p text delivery) := by
  rw [type, typeRequests]
  cases s.editor.type name p text with
  | error error => rfl
  | ok typed => exact deliver_cache (s.withEditor typed.2) typed.1 delivery

theorem cache_perform (s : Session) (a : Action) :
    (s.perform a).2.dispatcher.cache = s.dispatcher.cache.after (s.requests a) := by
  cases a with
  | type name p text delivery => exact type_cache s name p text delivery
  | enter name line delivery => exact type_cache s name _ ['\n'] delivery
  | deliver event delivery => exact deliver_cache s event delivery
  | insert edit =>
    rw [perform]
    cases s.editor.insert edit <;> rfl
  | undo =>
    rw [perform]
    cases s.editor.undo? <;> rfl
  | openDocument | focus | terminate | advance | setSource | settingsChanged | setReadOnly => rfl

/-- The cache of a session is that of the requests of its actions. -/
theorem cache_run (s : Session) (actions : List Action) :
    (s.run actions).dispatcher.cache = s.dispatcher.cache.after (s.requestsOf actions) := by
  induction actions generalizing s with
  | nil => rfl
  | cons a actions ih => rw [run, ih, cache_perform, requestsOf, Cache.after_append]

/-! ### Decisions -/

theorem outcome?_deliver {s : Session} {event : Event} {delivery : Delivery} {outcome : Outcome}
    (h : (s.perform (.deliver event delivery)).1.outcome? = some outcome) :
    (s.dispatcher.handle s.now event).1 = outcome := by
  cases delivery with
  | keep => cases h
  | decide => exact Option.some.inj h
  | edit => exact (Dispatcher.handleAndEdit_outcome _ _ _).symm.trans (Option.some.inj h)

/-- A line is decided only if the settings of the cache admit its language. -/
theorem admits_of_decided {s : Session} {event : Event} {delivery : Delivery} {v : Verdict}
    (h : (s.perform (.deliver event delivery)).1.outcome? = some (.decided v)) :
    ∃ d, s.editor.get? event.document = some d ∧ d.languageId = v.language.id ∧
      s.dispatcher.cache.get.1.enabled = true ∧
      d.languageId ∈ s.dispatcher.cache.get.1.languages ∧
      s.dispatcher.cache.get.1.enableFor.get v.language = true := by
  have hhandle := outcome?_deliver h
  obtain ⟨change, hchange⟩ := Dispatcher.exists_change_of_decided hhandle
  obtain ⟨d, hd, hl, hadmits, -⟩ :=
    Dispatcher.judge_eq_decided (Dispatcher.handle_eq_decided hchange hhandle)
  simp only [Settings.admits, Bool.and_eq_true, List.contains_iff_mem] at hadmits
  exact ⟨d, hd, hl, hadmits.1.1, hl ▸ hadmits.1.2, hadmits.2⟩

/-- When a cache loads, what it answers, and what a session decides by. -/
theorem settings_in_effect (source : Source) :
    (∀ rs : List Request,
      ((Cache.ofSource source).after rs).get.2.loads =
        ((Cache.ofSource source).after rs).loads + (if Cache.isDue rs then 1 else 0) ∧
      (∀ r, r ≠ .get → (((Cache.ofSource source).after rs).serve r).loads =
        ((Cache.ofSource source).after rs).loads) ∧
      ((Cache.ofSource source).after rs).get.1 = Cache.inEffect source (.get :: rs) ∧
      (source.IsChecked → (∀ source', .setSource source' ∈ rs → source'.IsChecked) →
        ((Cache.ofSource source).after rs).get.1.debounceDelay ≤ Settings.maxDelay)) ∧
    ∀ (s : Session) (actions : List Action), s.dispatcher.cache = .ofSource source →
      (s.run actions).dispatcher.cache = (Cache.ofSource source).after (s.requestsOf actions) ∧
      ∀ event delivery,
        (event.changes = [] →
          ((s.run actions).perform (.deliver event delivery)).2.dispatcher.cache =
            (s.run actions).dispatcher.cache) ∧
        ∀ v, ((s.run actions).perform (.deliver event delivery)).1.outcome? = some (.decided v) →
          ∃ d, (s.run actions).editor.get? event.document = some d ∧
            d.languageId = v.language.id ∧
            (Cache.inEffect source (.get :: s.requestsOf actions)).enabled = true ∧
            d.languageId ∈ (Cache.inEffect source (.get :: s.requestsOf actions)).languages ∧
            (Cache.inEffect source (.get :: s.requestsOf actions)).enableFor.get v.language =
              true := by
  refine ⟨fun rs => ⟨Cache.loads_get_after source rs, fun r hr => ?_, Cache.get_after source rs,
    fun hsource hrs => ?_⟩, fun s actions hcache => ?_⟩
  · cases r with
    | get => exact absurd rfl hr
    | invalidate => rfl
    | setSource source' => rfl
  · rw [Cache.get_after]
    have hset : ∀ source', .setSource source' ∈ Request.get :: rs → source'.IsChecked := by
      intro source' hmem
      rcases List.mem_cons.mp hmem with h | hmem
      · cases h
      · exact hrs source' hmem
    exact of_decide_eq_true (Cache.inEffect_isValid hsource hset)
  have hrun := cache_run s actions
  rw [hcache] at hrun
  refine ⟨hrun, fun event delivery => ⟨fun hempty => ?_, fun v hv => ?_⟩⟩
  · have hnothing : delivery.requests event = [] := by
      cases delivery <;> simp [Delivery.requests, hempty]
    rw [cache_perform, requests, hnothing]
    rfl
  · have hadmits := admits_of_decided hv
    rwa [hrun, Cache.get_after] at hadmits

/-- A source that cannot be loaded: its delay is too long. -/
def slowSource : Source := .fixed { Settings.default with debounceDelay := 20000 }

/-- An event without a change, an event that loads the settings, and a change of the settings. -/
def changingSettings : List Action := [
  .deliver ⟨"Main", []⟩ .edit,
  .deliver (.typed "Main" ⟨1, 0⟩ ['\n']) .decide,
  .setSource slowSource,
  .settingsChanged,
  .advance 50]

/-- Settings with a delay that is too long cannot be loaded: those of the load before stay in
effect, and a declaration is decided by them. -/
theorem settings_in_effect_after_failed_load :
    ((Cache.ofSource (.fixed .default)).after
      [.invalidate, .setSource slowSource, .get]).get.1 = .default ∧
    ((Cache.ofSource (.fixed .default)).after
      [.invalidate, .setSource slowSource, .get]).get.1.debounceDelay ≤ Settings.maxDelay ∧
    ∃ d v, ((ofDocument "Main" ⟨"java", "int x = 1\n".toList⟩).run changingSettings).editor.get?
        "Main" = some d ∧ d.languageId = Language.id v ∧
      d.languageId ∈ Settings.default.languages ∧ Settings.default.enableFor.get v = true := by
  obtain ⟨hcache, hsession⟩ := settings_in_effect (.fixed .default)
  obtain ⟨-, -, hget, hdelay⟩ := hcache [.invalidate, .setSource slowSource, .get]
  obtain ⟨-, hdeliver⟩ :=
    hsession (ofDocument "Main" ⟨"java", "int x = 1\n".toList⟩) changingSettings rfl
  refine ⟨hget.trans rfl, hdelay trivial (by simp [slowSource, Source.IsChecked]), ?_⟩
  obtain ⟨outcome, houtcome, hdecision⟩ : ∃ outcome,
      (((ofDocument "Main" ⟨"java", "int x = 1\n".toList⟩).run changingSettings).perform
        (.deliver (.typed "Main" ⟨0, 9⟩ ['\n']) .edit)).1.outcome? = some outcome ∧
          outcome.decision? = some .insert := Option.bind_eq_some_iff.mp (by decide)
  obtain ⟨v, rfl, -⟩ := Outcome.decision?_eq_some hdecision
  obtain ⟨d, hd, hl, -, hlisted, hon⟩ := (hdeliver _ _).2 v houtcome
  exact ⟨d, v.language, hd, hl, hlisted, hon⟩

end Session

end Semicolon
