import Semicolon.Proofs.Settings.Source
import Semicolon.Settings.Cache

/-!
# Settings — what the cache answers

A cache is asked for its settings, told that they may have changed, and given another source.  What
it holds is a function of these requests: it is due for a load if nothing was asked for since the
beginning or the last invalidation (`isDue`), each load sees the source of its time (`loadsOf`), and
the settings in effect are those of the newest load that did not fail, or the defaults (`inEffect`).

* `after_eq`: this is what the cache holds after any requests.
* `get_after` and `loads_get_after`: what it answers, and when it loads.
* `inEffect_isValid`: with sources that are checked, the delay never is too long.
* `get_get` and `get_ofSource`: settings that were asked for are in use.
-/

namespace Semicolon.Cache

/-- Asking a second time gives the same answer and loads nothing. -/
theorem get_get (c : Cache) : c.get.2.get = c.get := by
  cases hc : c.current with
  | some s => simp only [get, hc]
  | none =>
    cases hl : c.source.load with
    | ok s => simp only [get, hc, load, hl]
    | error e => simp only [get, hc, load, hl]

/-- Settings that can be loaded are in use. -/
theorem get_ofSource {source : Source} {s : Settings} (h : source.load = .ok s) :
    (Cache.ofSource source).get.1 = s := by
  simp only [get, ofSource, load, h]

/-- Settings without a delay can be loaded. -/
theorem load_withoutDelay (s : Settings) :
    Source.load (.fixed s.withoutDelay) = .ok s.withoutDelay := rfl

/-! ### Requests -/

inductive Request where
  | get
  | invalidate
  | setSource (source : Source)

/-- The cache after a request. -/
def serve (c : Cache) : Request → Cache
  | .get              => c.get.2
  | .invalidate       => c.invalidate
  | .setSource source => c.setSource source

/-- The cache after requests, of which the newest comes first. -/
def after (c : Cache) : List Request → Cache
  | []      => c
  | r :: rs => (c.after rs).serve r

theorem after_append (c : Cache) (rs rs' : List Request) :
    c.after (rs ++ rs') = (c.after rs').after rs := by
  induction rs with
  | nil => rfl
  | cons r rs ih => rw [List.cons_append, after, after, ih]

/-- The source after requests. -/
def sourceAfter (source : Source) : List Request → Source
  | []                      => source
  | .setSource source' :: _ => source'
  | .get :: rs              => sourceAfter source rs
  | .invalidate :: rs       => sourceAfter source rs

/-- Nothing was asked for since the beginning or the last invalidation. -/
def isDue : List Request → Bool
  | []                 => true
  | .get :: _          => false
  | .invalidate :: _   => true
  | .setSource _ :: rs => isDue rs

/-- What the loads gave, the newest first: settings that are asked for are loaded if that is due. -/
def loadsOf (source : Source) : List Request → List (Except SettingsError Settings)
  | []                 => []
  | .get :: rs         =>
    if isDue rs then (sourceAfter source rs).load :: loadsOf source rs else loadsOf source rs
  | .invalidate :: rs  => loadsOf source rs
  | .setSource _ :: rs => loadsOf source rs

/-- The settings of the newest load that did not fail. -/
def newestLoaded : List (Except SettingsError Settings) → Option Settings
  | []               => none
  | .ok s :: _       => some s
  | .error _ :: rest => newestLoaded rest

/-- The settings in effect after requests. -/
def inEffect (source : Source) (rs : List Request) : Settings :=
  (newestLoaded (loadsOf source rs)).getD .default

/-! ### The state of the cache -/

/-- What a cache holds is determined by what was asked of it. -/
theorem after_eq (source : Source) (rs : List Request) :
    (ofSource source).after rs =
      { source   := sourceAfter source rs
        current  := if isDue rs then none else some (inEffect source rs)
        lastGood := newestLoaded (loadsOf source rs)
        loads    := (loadsOf source rs).length } := by
  induction rs with
  | nil => rfl
  | cons r rs ih =>
    rw [after, ih]
    cases r with
    | invalidate => rfl
    | setSource source' => rfl
    | get =>
      -- only a request for the settings loads them, and only if that is due
      cases hdue : isDue rs with
      | false => simp [serve, get, isDue, hdue, sourceAfter, loadsOf, inEffect]
      | true =>
        cases hload : (sourceAfter source rs).load <;>
          simp [serve, get, load, isDue, hdue, sourceAfter, loadsOf, inEffect, hload, newestLoaded]

variable (source : Source) (rs : List Request)

/-- Asking is one more request. -/
theorem get_snd_after :
    ((ofSource source).after rs).get.2 = (ofSource source).after (.get :: rs) := rfl

/-- The answer is the settings of the newest load so far that did not fail, or the defaults. -/
theorem get_after : ((ofSource source).after rs).get.1 = inEffect source (.get :: rs) := by
  have hcurrent : ((ofSource source).after rs).get.2.get.1 = inEffect source (.get :: rs) := by
    rw [get_snd_after, after_eq]
    rfl
  rw [← hcurrent, get_get]

/-- The settings are loaded if nothing was asked for since the beginning or the last
invalidation. -/
theorem loads_get_after :
    ((ofSource source).after rs).get.2.loads =
      ((ofSource source).after rs).loads + if isDue rs then 1 else 0 := by
  rw [get_snd_after, after_eq, after_eq]
  cases hdue : isDue rs <;> simp [loadsOf, hdue]

/-! ### Sources that are checked -/

variable {source rs}

/-- If all sources are checked, the one after the requests is. -/
theorem sourceAfter_isChecked (hsource : source.IsChecked)
    (hrs : ∀ source', .setSource source' ∈ rs → source'.IsChecked) :
    (sourceAfter source rs).IsChecked := by
  induction rs with
  | nil => exact hsource
  | cons r rs ih =>
    have hrest := ih fun source' hmem => hrs source' (List.mem_cons_of_mem r hmem)
    cases r with
    | get => exact hrest
    | invalidate => exact hrest
    | setSource source' => exact hrs source' List.mem_cons_self

/-- Settings from checked sources can be used. -/
theorem isValid_of_mem_loadsOf (hsource : source.IsChecked)
    (hrs : ∀ source', .setSource source' ∈ rs → source'.IsChecked) {s : Settings}
    (hs : .ok s ∈ loadsOf source rs) : s.isValid = true := by
  induction rs with
  | nil => cases hs
  | cons r rs ih =>
    have htail : ∀ source', .setSource source' ∈ rs → source'.IsChecked :=
      fun source' hmem => hrs source' (List.mem_cons_of_mem r hmem)
    cases r with
    | invalidate => exact ih htail hs
    | setSource source' => exact ih htail hs
    | get =>
      rw [loadsOf] at hs
      split at hs
      · rcases List.mem_cons.mp hs with hload | hs
        · exact Source.load_isValid (sourceAfter_isChecked hsource htail) hload.symm
        · exact ih htail hs
      · exact ih htail hs

theorem mem_of_newestLoaded {results : List (Except SettingsError Settings)} {s : Settings}
    (h : newestLoaded results = some s) : .ok s ∈ results := by
  fun_induction newestLoaded results with
  | case1 => cases h
  | case2 s' rest =>
    cases h
    exact List.mem_cons_self
  | case3 e rest ih => exact List.mem_cons_of_mem _ (ih h)

/-- With sources that are checked, the settings in effect can be used. -/
theorem inEffect_isValid (hsource : source.IsChecked)
    (hrs : ∀ source', .setSource source' ∈ rs → source'.IsChecked) :
    (inEffect source rs).isValid = true := by
  rw [inEffect]
  cases hnewest : newestLoaded (loadsOf source rs) with
  | none => rfl
  | some s => exact isValid_of_mem_loadsOf hsource hrs (mem_of_newestLoaded hnewest)

end Semicolon.Cache
