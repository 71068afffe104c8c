import Semicolon.Settings.Source

/-!
# Settings — what a load gives

Settings that are given or read from a file are checked before they are used (`load_isValid`): only
another source can give a delay that is too long.
-/

namespace Semicolon

/-- Settings that pass the check can be used. -/
theorem Settings.validated_eq_ok {s s' : Settings} (h : s.validated = .ok s') :
    s'.isValid = true := by
  rw [validated] at h
  split at h
  · next hvalid =>
    cases h
    exact hvalid
  · cases h

theorem Settings.readJson_isValid {t : Text} {s : Settings} (h : readJson t = .ok s) :
    s.isValid = true := by
  rw [readJson] at h
  split at h
  · next v hread =>
    rw [ofJson.eq_def] at h
    split at h
    · split at h
      · exact validated_eq_ok h
      · cases h
    · cases h
  · cases h

theorem Settings.readToml_isValid {t : Text} {s : Settings} (h : readToml t = .ok s) :
    s.isValid = true := by
  rw [readToml] at h
  split at h
  · exact validated_eq_ok h
  · cases h

namespace Source

/-- A load of the source checks the settings. -/
def IsChecked : Source → Prop
  | .fixed _ | .file _ => True
  | .other _           => False

/-- What a checked source gives has passed the check. -/
theorem load_isValid {source : Source} {s : Settings} (hchecked : source.IsChecked)
    (h : source.load = .ok s) : s.isValid = true := by
  cases source with
  | fixed given => exact Settings.validated_eq_ok h
  | file f =>
    rw [load, loadFile] at h
    split at h
    · cases h
    · split at h
      · exact Settings.readJson_isValid h
      · exact Settings.readToml_isValid h
  | other result => exact hchecked.elim

end Source

end Semicolon
