import Mathlib.Data.List.DropRight
import ServiceCli.Proofs.Sequence
import ServiceCli.Settings

/-!
The grammar of the parts of a parameter. A part is understood exactly if it assigns to a known key a
value that the key takes, and white space around the part, its key and its value is no part of them.
-/
namespace ServiceCli

namespace Text

variable {c : Char} {cs ds before after : List Char}

theorem beq_of_not_mem (h : c ∉ cs) : ∀ d ∈ cs, (d == c) = false := by
  intro d hd
  apply beq_false_of_ne
  rintro rfl
  exact h hd

theorem mem_dropWhile_isBlank (hc : c ∈ cs) (h : isBlank c = false) : c ∈ cs.dropWhile isBlank := by
  rw [← List.takeWhile_append_dropWhile (p := isBlank) (l := cs), List.mem_append] at hc
  obtain hblank | hc := hc
  · rw [List.mem_takeWhile_imp hblank] at h
    cases h
  · exact hc

/-- Only white space is lost at the ends of a text. -/
theorem mem_trim (hc : c ∈ cs) (h : isBlank c = false) : c ∈ trim cs :=
  List.mem_reverse.2
    (mem_dropWhile_isBlank (List.mem_reverse.2 (mem_dropWhile_isBlank hc h)) h)

theorem dropWhile_isBlank_append_cons (h : isBlank c = false) :
    (cs ++ c :: ds).dropWhile isBlank = cs.dropWhile isBlank ++ c :: ds := by
  rw [List.dropWhile_append, List.dropWhile_cons_of_neg (by simp [h])]
  split
  · rename_i hnil
    rw [List.isEmpty_iff.1 hnil, List.nil_append]
  · rfl

/-- The ends of a text are trimmed on either side of a character that is no white space. -/
theorem trim_append_cons (h : isBlank c = false) : trim (cs ++ c :: ds) =
    cs.dropWhile isBlank ++ c :: (ds.reverse.dropWhile isBlank).reverse := by
  rw [trim, dropWhile_isBlank_append_cons h, List.reverse_append, List.reverse_cons,
    List.append_assoc, List.singleton_append, dropWhile_isBlank_append_cons h]
  simp

theorem trim_dropWhile_isBlank : trim (cs.dropWhile isBlank) = trim cs := by
  rw [trim, trim, List.dropWhile_idempotent]

theorem trim_eq_nil (h : ∀ c ∈ cs, isBlank c = true) : trim cs = [] := by
  rw [trim, List.dropWhile_eq_nil_iff.2 h]
  rfl

theorem trim_append_blank (h : ∀ c ∈ after, isBlank c = true) : trim (cs ++ after) = trim cs := by
  unfold trim
  rw [List.dropWhile_append]
  split
  · rename_i hnil
    rw [List.isEmpty_iff.1 hnil, List.dropWhile_eq_nil_iff.2 h]
  · have hreverse : ∀ c ∈ after.reverse, isBlank c = true := fun c hc => h c (List.mem_reverse.1 hc)
    rw [List.reverse_append, List.dropWhile_append_of_pos hreverse]

theorem trim_reverse_dropWhile (cs : List Char) :
    trim (cs.reverse.dropWhile isBlank).reverse = trim cs := by
  have hblank : ∀ c ∈ (cs.reverse.takeWhile isBlank).reverse, isBlank c = true := fun c hc =>
    List.mem_takeWhile_imp (List.mem_reverse.1 hc)
  rw [← trim_append_blank hblank, ← List.reverse_append, List.takeWhile_append_dropWhile,
    List.reverse_reverse]

/-- White space around a text is trimmed away. -/
theorem trim_surround (hbefore : ∀ c ∈ before, isBlank c = true)
    (hafter : ∀ c ∈ after, isBlank c = true) : trim (before ++ cs ++ after) = trim cs := by
  rw [trim_append_blank hafter]
  unfold trim
  rw [List.dropWhile_append_of_pos hbefore]

end Text

namespace Setting

/-- The key of the parts that make a setting. -/
def key : Setting → String
  | .layout _ => "layout"
  | .requestShort _ => "request_short"
  | .log _ => "log"

/-- The values that make a setting. -/
def GivenBy (value : String) : Setting → Prop
  | .layout .verb => value = "verb"
  | .layout .resource => value = "resource"
  | .requestShort none => value = "" ∨ value = "none"
  | .requestShort (some c) => c.isAlpha = true ∧ value = String.singleton c
  | .log directive => value = directive

/-- The part has the key before its first `=` and the value after it, with any white space around
both. -/
def Assigns (part : List Char) (key value : String) : Prop :=
  ∃ before after, part = before ++ '=' :: after ∧ '=' ∉ before ∧
    Text.trim before = key.toList ∧ Text.trim after = value.toList

/-- The part is understood, and what it sets. -/
def Sets (part : List Char) (x : Setting) : Prop :=
  ∃ value, Assigns part x.key value ∧ x.GivenBy value

/-- The part is not understood, and why. -/
def Offends (part : List Char) : ParameterFault → Prop
  | .notAssignment text => '=' ∉ part ∧ text = String.ofList part
  | .unknownKey key => (∃ value, Assigns part key value) ∧ ∀ x : Setting, x.key ≠ key
  | .badLayout value =>
    Assigns part "layout" value ∧ ∀ x : Setting, x.key = "layout" → ¬x.GivenBy value
  | .badShort value =>
    Assigns part "request_short" value ∧ ∀ x : Setting, x.key = "request_short" → ¬x.GivenBy value

variable {part before after : List Char} {key value : String} {x y : Setting} {e : ParameterFault}

/-- A reader of values that reports only one fault reports it for each value that it does not
take. -/
theorem eq_error_of_ok {reading : Except ParameterFault Setting} {P : Setting → Prop}
    {fault : ParameterFault} (hok : ∀ x, reading = .ok x ↔ P x)
    (hfault : ∀ e, reading = .error e → e = fault) (hnone : ∀ x, ¬P x) :
    reading = .error fault := by
  cases h : reading with
  | error e => rw [hfault e h]
  | ok x => exact absurd ((hok x).1 h) (hnone x)

theorem key_eq_layout : x.key = "layout" ↔ ∃ l, x = .layout l := by
  cases x <;> simp [Setting.key]

theorem key_eq_requestShort : x.key = "request_short" ↔ ∃ c, x = .requestShort c := by
  cases x <;> simp [Setting.key]

theorem key_eq_log : x.key = "log" ↔ ∃ directive, x = .log directive := by
  cases x <;> simp [Setting.key]

theorem ofLayout_eq_ok : ofLayout value = .ok x ↔ x.key = "layout" ∧ x.GivenBy value := by
  unfold ofLayout
  constructor
  · intro h
    split at h
    · cases h; exact ⟨rfl, rfl⟩
    · cases h; exact ⟨rfl, rfl⟩
    · cases h
  · rintro ⟨hkey, hgiven⟩
    obtain ⟨l, rfl⟩ := key_eq_layout.1 hkey
    cases l <;> cases hgiven <;> rfl

theorem eq_badLayout (h : ofLayout value = .error e) : e = .badLayout value := by
  unfold ofLayout at h
  split at h <;> cases h
  rfl

theorem singleton_ne_none (c : Char) :
    ¬(String.singleton c = "" ∨ String.singleton c = "none") := by
  simp [← String.toList_inj]

theorem ofShort_eq_ok : ofShort value = .ok x ↔ x.key = "request_short" ∧ x.GivenBy value := by
  unfold ofShort
  constructor
  · intro h
    split at h
    · rename_i hnone
      cases h
      exact ⟨rfl, hnone⟩
    · split at h
      · rename_i c hvalue
        split at h
        · rename_i hletter
          cases h
          refine ⟨rfl, hletter, ?_⟩
          rw [← String.toList_inj, hvalue, String.toList_singleton]
        · cases h
      · cases h
  · rintro ⟨hkey, hgiven⟩
    obtain ⟨c, rfl⟩ := key_eq_requestShort.1 hkey
    cases c with
    | none => exact if_pos hgiven
    | some c =>
      obtain ⟨hletter, rfl⟩ := hgiven
      rw [if_neg (singleton_ne_none c), String.toList_singleton]
      exact if_pos hletter

theorem eq_badShort (h : ofShort value = .error e) : e = .badShort value := by
  unfold ofShort at h
  split at h
  · cases h
  · split at h
    · split at h <;> cases h
      rfl
    · cases h; rfl

theorem ofKey_eq_ok : ofKey key value = .ok x ↔ x.key = key ∧ x.GivenBy value := by
  unfold ofKey
  split
  · exact ofLayout_eq_ok
  · exact ofShort_eq_ok
  · cases x <;> simp [Setting.key, GivenBy]
  · rename_i hlayout hshort hlog
    cases x <;> simp_all [Setting.key, eq_comm]

/-- A key for which there is no setting is not known. -/
theorem ofKey_of_unknown (h : ∀ x : Setting, x.key ≠ key) :
    ofKey key value = .error (.unknownKey key) := by
  unfold ofKey
  split
  · exact absurd rfl (h (.layout .verb))
  · exact absurd rfl (h (.requestShort none))
  · exact absurd rfl (h (.log value))
  · rfl

theorem ofPart_of_no_equals (h : '=' ∉ part) :
    ofPart part = .error (.notAssignment (String.ofList part)) := by
  rw [ofPart, Text.cutAt_of_none (Text.beq_of_not_mem h)]

theorem ofPart_of_assigns (h : Assigns part key value) : ofPart part = ofKey key value := by
  obtain ⟨before, after, rfl, hequals, hkey, hvalue⟩ := h
  rw [ofPart, Text.cutAt_append_separator (Text.beq_of_not_mem hequals) _ (by simp)]
  simp [hkey, hvalue]

theorem exists_assigns (h : '=' ∈ part) : ∃ key value, Assigns part key value := by
  obtain ⟨before, after, rfl, hequals⟩ := List.eq_append_cons_of_mem h
  exact ⟨String.ofList (Text.trim before), String.ofList (Text.trim after), before, after, rfl,
    hequals, by simp, by simp⟩

/-- White space around a part, its key and its value makes no difference. -/
theorem assigns_trim (h : '=' ∉ before) : Assigns (Text.trim (before ++ '=' :: after))
    (String.ofList (Text.trim before)) (String.ofList (Text.trim after)) := by
  refine ⟨before.dropWhile Text.isBlank, (after.reverse.dropWhile Text.isBlank).reverse,
    Text.trim_append_cons (by decide), fun hmem => h (List.dropWhile_subset _ hmem), ?_, ?_⟩
  · simp [Text.trim_dropWhile_isBlank]
  · simp [Text.trim_reverse_dropWhile]

theorem ofPart_eq_ok : ofPart part = .ok x ↔ Sets part x := by
  constructor
  · intro h
    by_cases hequals : '=' ∈ part
    · obtain ⟨key, value, hassigns⟩ := exists_assigns hequals
      rw [ofPart_of_assigns hassigns, ofKey_eq_ok] at h
      obtain ⟨rfl, hgiven⟩ := h
      exact ⟨value, hassigns, hgiven⟩
    · rw [ofPart_of_no_equals hequals] at h
      cases h
  · rintro ⟨value, hassigns, hgiven⟩
    rw [ofPart_of_assigns hassigns]
    exact ofKey_eq_ok.2 ⟨rfl, hgiven⟩

theorem offends_of_error (h : ofPart part = .error e) : Offends part e := by
  by_cases hequals : '=' ∈ part
  · obtain ⟨key, value, hassigns⟩ := exists_assigns hequals
    rw [ofPart_of_assigns hassigns] at h
    have hnone : ∀ x : Setting, x.key = key → ¬x.GivenBy value := by
      intro x hkey hgiven
      rw [ofKey_eq_ok.2 ⟨hkey, hgiven⟩] at h
      cases h
    unfold ofKey at h
    split at h
    · rw [eq_badLayout h]
      exact ⟨hassigns, hnone⟩
    · rw [eq_badShort h]
      exact ⟨hassigns, hnone⟩
    · cases h
    · rename_i hlayout hshort hlog
      cases h
      refine ⟨⟨value, hassigns⟩, fun x hx => ?_⟩
      cases x with
      | layout l => exact hlayout hx.symm
      | requestShort c => exact hshort hx.symm
      | log directive => exact hlog hx.symm
  · rw [ofPart_of_no_equals hequals] at h
    cases h
    exact ⟨hequals, rfl⟩

theorem ofPart_eq_error : ofPart part = .error e ↔ Offends part e := by
  refine ⟨offends_of_error, fun h => ?_⟩
  cases e with
  | notAssignment text =>
    obtain ⟨hequals, rfl⟩ := h
    exact ofPart_of_no_equals hequals
  | unknownKey key =>
    obtain ⟨⟨value, hassigns⟩, hkey⟩ := h
    rw [ofPart_of_assigns hassigns, ofKey_of_unknown hkey]
  | badLayout value =>
    obtain ⟨hassigns, hnone⟩ := h
    rw [ofPart_of_assigns hassigns]
    exact eq_error_of_ok (fun x => ofLayout_eq_ok) (fun e => eq_badLayout)
      (fun x hx => hnone x hx.1 hx.2)
  | badShort value =>
    obtain ⟨hassigns, hnone⟩ := h
    rw [ofPart_of_assigns hassigns]
    exact eq_error_of_ok (fun x => ofShort_eq_ok) (fun e => eq_badShort)
      (fun x hx => hnone x hx.1 hx.2)

/-- The key of a part that is an assignment. -/
def key? (part : List Char) : Option String :=
  (Text.cutAt (· == '=') part).map fun (key, _) => String.ofList (Text.trim key)

theorem Assigns.key?_eq (h : Assigns part key value) : key? part = some key := by
  obtain ⟨before, after, rfl, hequals, hkey, -⟩ := h
  rw [key?, Text.cutAt_append_separator (Text.beq_of_not_mem hequals) _ (by simp)]
  simp [hkey]

theorem Sets.key?_eq (h : Sets part x) : key? part = some x.key := by
  obtain ⟨value, hassigns, -⟩ := h
  exact hassigns.key?_eq

theorem Sets.unique (h : Sets part x) (h' : Sets part y) : x = y :=
  Except.ok.inj ((ofPart_eq_ok.2 h).symm.trans (ofPart_eq_ok.2 h'))

end Setting

namespace Settings

theorem parts_append_comma (p q : String) : parts (p ++ "," ++ q) = parts p ++ parts q := by
  simp [parts, Text.pieces_append_separator]

theorem parts_intercalate (ps : List String) : parts (",".intercalate ps) = ps.flatMap parts := by
  induction ps with
  | nil => decide
  | cons p ps ih =>
    by_cases hnil : ps = []
    · simp [hnil]
    · rw [String.intercalate_cons_of_ne_nil hnil, parts_append_comma, ih, List.flatMap_cons]

theorem parts_of_no_comma {p : String} (h : ',' ∉ p.toList) (hne : Text.trim p.toList ≠ []) :
    parts p = [Text.trim p.toList] := by
  rw [parts, Text.pieces_of_none (Text.beq_of_not_mem h)]
  simp [hne]

/-- An assignment without a comma is one part. -/
theorem exists_parts_eq {key value : String} (hcomma : ',' ∉ key.toList)
    (hequals : '=' ∉ key.toList) (hvalue : ',' ∉ value.toList) :
    ∃ part, parts (key ++ "=" ++ value) = [part] ∧ Setting.Assigns part
      (String.ofList (Text.trim key.toList)) (String.ofList (Text.trim value.toList)) := by
  have hchars : (key ++ "=" ++ value).toList = key.toList ++ '=' :: value.toList := by simp
  refine ⟨_, ?_, Setting.assigns_trim hequals⟩
  rw [parts_of_no_comma, hchars]
  · simp [hcomma, hvalue]
  · simp [Text.trim_append_cons (show Text.isBlank '=' = false by decide)]

end Settings

end ServiceCli
