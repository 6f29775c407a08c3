import ServiceCli.Proofs.Settings.Grammar

/-!
The log setting beside the others. A part of a parameter that sets the log is understood whatever
its value is, so that changing the value changes no other setting and no failure.
-/
namespace ServiceCli.Settings

/-- The settings without that of the log. -/
def unlogged (s : Settings) : Settings := { s with log := none }

variable {s t : Settings} {before after : List (List Char)} {part part' : List Char}

theorem unlogged_apply (h : s.unlogged = t.unlogged) (x : Setting) :
    (s.apply x).unlogged = (t.apply x).unlogged := by
  obtain ⟨hlayout, hshort, -⟩ := Settings.mk.inj h
  cases x <;> simp only [apply, unlogged, hlayout, hshort]

theorem unlogged_foldl (h : s.unlogged = t.unlogged) (xs : List Setting) :
    (xs.foldl apply s).unlogged = (xs.foldl apply t).unlogged := by
  induction xs generalizing s t with
  | nil => exact h
  | cons x xs ih => exact ih (unlogged_apply h x)

theorem unlogged_ofParts {directive directive' : String}
    (hpart : Setting.ofPart part = .ok (.log directive))
    (hpart' : Setting.ofPart part' = .ok (.log directive')) :
    (ofParts (before ++ part :: after)).map unlogged =
      (ofParts (before ++ part' :: after)).map unlogged := by
  simp only [ofParts, List.mapM_append, List.mapM_cons, hpart, hpart']
  cases before.mapM Setting.ofPart with
  | error e => rfl
  | ok xs =>
    cases after.mapM Setting.ofPart with
    | error e => rfl
    | ok ys =>
      simp only [bind, Except.bind, pure, Except.pure, Except.map, List.foldl_append,
        List.foldl_cons, Except.ok.injEq]
      have hset (s : Settings) :
          (s.apply (.log directive)).unlogged = (s.apply (.log directive')).unlogged := rfl
      exact unlogged_foldl (hset _) ys

/-- A part of a parameter that sets the log, as the only one of its kind between two commas. -/
theorem exists_parts_eq_log {key value : String} (hkey : Text.trim key.toList = "log".toList)
    (hvalue : ',' ∉ value.toList) : ∃ part directive,
      parts (key ++ "=" ++ value) = [part] ∧ Setting.ofPart part = .ok (.log directive) := by
  have hmem (c : Char) (hc : Text.isBlank c = false) (hlog : c ∉ "log".toList) : c ∉ key.toList :=
    fun hmem => hlog (hkey ▸ Text.mem_trim hmem hc)
  obtain ⟨part, hpart, hassigns⟩ := exists_parts_eq (hmem ',' (by decide) (by decide))
    (hmem '=' (by decide) (by decide)) hvalue
  refine ⟨part, String.ofList (Text.trim value.toList), hpart, ?_⟩
  rw [Setting.ofPart_of_assigns hassigns, hkey]
  rfl

theorem unlogged_ofParameter (p : String) : (ofParameter p).map unlogged =
    ((ofParts (parts p)).map unlogged).mapError .invalidParameter := by
  rw [ofParameter]
  cases ofParts (parts p) <;> rfl

/-- The value of one log setting in a parameter decides nothing but the log. -/
theorem unlogged_eq_of_log (before after : List String) {key value value' : String}
    (hkey : Text.trim key.toList = "log".toList) (hvalue : ',' ∉ value.toList)
    (hvalue' : ',' ∉ value'.toList) :
    (ofParameter (",".intercalate (before ++ (key ++ "=" ++ value) :: after))).map unlogged =
      (ofParameter (",".intercalate (before ++ (key ++ "=" ++ value') :: after))).map unlogged := by
  obtain ⟨part, _, hparts, hpart⟩ := exists_parts_eq_log hkey hvalue
  obtain ⟨part', _, hparts', hpart'⟩ := exists_parts_eq_log hkey hvalue'
  simp only [unlogged_ofParameter, parts_intercalate, List.flatMap_append, List.flatMap_cons,
    hparts, hparts', List.singleton_append]
  rw [unlogged_ofParts hpart hpart']

end ServiceCli.Settings
