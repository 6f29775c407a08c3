import ServiceCli.Proofs.Settings.Grammar

/-!
What a parameter sets. Of the parts with one key the last decides, and of the parts that are not
understood the first decides the failure. What is set is therefore the same if neighbouring parts
with different keys change places, and empty parts and white space do not matter.
-/
namespace ServiceCli.Settings

open Setting (key? Sets Offends)

/-- The last part with a key. -/
def lastWith (key : String) (parts : List (List Char)) : Option (List Char) :=
  (parts.filter fun part => key? part = some key).getLast?

/-- What the last part with a key sets is set, and where there is none the default stands. -/
structure Decided (parts : List (List Char)) (s : Settings) : Prop where
  layout : (lastWith "layout" parts).elim (s.layout = .verb) (Sets · (.layout s.layout))
  requestShort : (lastWith "request_short" parts).elim (s.requestShort = some 'd')
    (Sets · (.requestShort s.requestShort))
  log : (lastWith "log" parts).elim (s.log = none)
    fun part => ∃ directive ∈ s.log, Sets part (.log directive)

variable {ps qs before after : List (List Char)} {a b : List Char} {s t : Settings}
  {e : ParameterFault}

theorem lastWith_cons (key : String) (part : List Char) (ps : List (List Char)) :
    lastWith key (part :: ps) =
      (lastWith key ps).or (if key? part = some key then some part else none) := by
  unfold lastWith
  rw [List.filter_cons]
  by_cases h : key? part = some key
  · rw [if_pos (by simpa using h), if_pos h, List.getLast?_cons]
    cases (ps.filter fun part => key? part = some key).getLast? <;> rfl
  · rw [if_neg (by simpa using h), if_neg h, Option.or_none]

/-- Parts with different keys can come in either order. -/
theorem lastWith_swap (h : key? a ≠ key? b) (key : String) :
    lastWith key (before ++ a :: b :: after) = lastWith key (before ++ b :: a :: after) := by
  unfold lastWith
  simp only [List.filter_append, List.filter_cons]
  by_cases ha : key? a = some key
  · have hb : key? b ≠ some key := fun hb => h (ha.trans hb.symm)
    simp [ha, hb]
  · simp [ha]

theorem Decided.congr (h : Decided ps s) (hlast : ∀ key, lastWith key ps = lastWith key qs) :
    Decided qs s where
  layout := hlast _ ▸ h.layout
  requestShort := hlast _ ▸ h.requestShort
  log := hlast _ ▸ h.log

theorem eq_of_elim {α β : Type} {o : Option β} {default a a' : α} (R : β → α → Prop)
    (hunique : ∀ b a a', R b a → R b a' → a = a') (h : o.elim (a = default) (R · a))
    (h' : o.elim (a' = default) (R · a')) : a = a' := by
  cases o with
  | none => exact h.trans h'.symm
  | some b => exact hunique b a a' h h'

theorem Decided.unique (h : Decided ps s) (h' : Decided ps t) : s = t := by
  have hlayout : s.layout = t.layout := by
    apply eq_of_elim (fun part l => Sets part (.layout l)) _ h.layout h'.layout
    exact fun _ _ _ hl hl' => Setting.layout.inj (hl.unique hl')
  have hshort : s.requestShort = t.requestShort := by
    apply eq_of_elim (fun part c => Sets part (.requestShort c)) _ h.requestShort h'.requestShort
    exact fun _ _ _ hc hc' => Setting.requestShort.inj (hc.unique hc')
  have hlog : s.log = t.log := by
    apply eq_of_elim (fun part log => ∃ directive ∈ log, Sets part (.log directive)) _ h.log h'.log
    rintro part _ _ ⟨directive, rfl, hd⟩ ⟨directive', rfl, hd'⟩
    rw [Setting.log.inj (hd.unique hd')]
  cases s
  cases t
  simp_all

/-- A field of the settings is decided by the last part with the key that the field belongs to. The
induction goes through the parts from the first one on, so it has any settings to start with. -/
theorem last_decides {α : Type} {field : Settings → α} {key : String} {R : List Char → α → Prop}
    {xs : List Setting} (h : List.Forall₂ Sets ps xs) (s : Settings)
    (hkey : ∀ part x s, Sets part x → x.key = key → R part (field (apply s x)))
    (hother : ∀ x s, x.key ≠ key → field (apply s x) = field s) :
    (lastWith key ps).elim (field (xs.foldl apply s) = field s)
      (R · (field (xs.foldl apply s))) := by
  induction h generalizing s with
  | nil => rfl
  | @cons part x ps xs hpart _ ih =>
    specialize ih (s.apply x)
    rw [List.foldl_cons, lastWith_cons, hpart.key?_eq]
    cases hlast : lastWith key ps with
    | some last =>
      rw [hlast] at ih
      exact ih
    | none =>
      rw [hlast] at ih
      have hfield : field (xs.foldl apply (s.apply x)) = field (s.apply x) := ih
      rw [hfield]
      by_cases hx : x.key = key
      · rw [if_pos (by rw [hx])]
        exact hkey part x s hpart hx
      · rw [if_neg (by simpa using hx)]
        exact hother x s hx

theorem decided_foldl {xs : List Setting} (h : List.Forall₂ Sets ps xs) :
    Decided ps (xs.foldl apply {}) := by
  constructor
  case layout =>
    apply last_decides (R := fun part l => Sets part (.layout l)) h {}
    · intro part x s hx hkey
      obtain ⟨l, rfl⟩ := Setting.key_eq_layout.1 hkey
      exact hx
    · intro x s hx
      cases x with
      | layout l => exact absurd rfl hx
      | requestShort c => rfl
      | log directive => rfl
  case requestShort =>
    apply last_decides (R := fun part c => Sets part (.requestShort c)) h {}
    · intro part x s hx hkey
      obtain ⟨c, rfl⟩ := Setting.key_eq_requestShort.1 hkey
      exact hx
    · intro x s hx
      cases x with
      | layout l => rfl
      | requestShort c => exact absurd rfl hx
      | log directive => rfl
  case log =>
    apply last_decides (R := fun part log => ∃ directive ∈ log, Sets part (.log directive)) h {}
    · intro part x s hx hkey
      obtain ⟨directive, rfl⟩ := Setting.key_eq_log.1 hkey
      exact ⟨directive, rfl, hx⟩
    · intro x s hx
      cases x with
      | layout l => rfl
      | requestShort c => rfl
      | log directive => exact absurd rfl hx

theorem mapM_ofPart_eq_ok {xs : List Setting} :
    ps.mapM Setting.ofPart = .ok xs ↔ List.Forall₂ Sets ps xs := by
  simp only [mapM_eq_ok, Setting.ofPart_eq_ok]

theorem exists_ofParts_eq_ok_iff :
    (∃ s, ofParts ps = .ok s) ↔ ∀ part ∈ ps, ∃ x, Sets part x := by
  constructor
  · rintro ⟨s, hs⟩ part hpart
    obtain ⟨xs, hxs, -⟩ := bind_eq_ok.1 hs
    obtain ⟨x, -, hx⟩ := exists_of_forall₂ (mapM_ofPart_eq_ok.1 hxs) hpart
    exact ⟨x, hx⟩
  · intro hall
    simp only [← Setting.ofPart_eq_ok] at hall
    obtain ⟨xs, hxs⟩ := exists_mapM_of_forall hall
    exact ⟨xs.foldl apply {}, bind_eq_ok.2 ⟨xs, hxs, rfl⟩⟩

theorem decided_of_ok (h : ofParts ps = .ok s) : Decided ps s := by
  obtain ⟨xs, hxs, hs⟩ := bind_eq_ok.1 h
  cases hs
  exact decided_foldl (mapM_ofPart_eq_ok.1 hxs)

theorem ofParts_eq_ok : ofParts ps = .ok s ↔
    (∀ part ∈ ps, ∃ x, Sets part x) ∧ Decided ps s := by
  rw [← exists_ofParts_eq_ok_iff]
  constructor
  · intro h
    exact ⟨⟨s, h⟩, decided_of_ok h⟩
  · rintro ⟨⟨t, ht⟩, hdecided⟩
    rw [hdecided.unique (decided_of_ok ht)]
    exact ht

/-- The first part that is not understood decides the failure. -/
theorem ofParts_eq_error : ofParts ps = .error e ↔ ∃ before part after,
    ps = before ++ part :: after ∧ (∀ earlier ∈ before, ∃ x, Sets earlier x) ∧
      Offends part e := by
  have hok (xs : List Setting) : (pure (xs.foldl apply {}) : Except ParameterFault Settings) ≠
      .error e := nofun
  unfold ofParts
  rw [bind_eq_error]
  simp only [mapM_eq_error, Setting.ofPart_eq_ok, Setting.ofPart_eq_error, hok, and_false,
    exists_false, or_false]

theorem ofParameter_eq_ok {p : String} : ofParameter p = .ok s ↔ ofParts (parts p) = .ok s := by
  unfold ofParameter
  cases ofParts (parts p) <;> simp

theorem ofParameter_eq_error {p : String} {failure : Failure} : ofParameter p = .error failure ↔
    ∃ fault, ofParts (parts p) = .error fault ∧ failure = .invalidParameter fault := by
  unfold ofParameter
  cases ofParts (parts p) <;> simp [eq_comm]

/-- A text of white space only, possibly empty. -/
def Blank (p : String) : Prop := ∀ c ∈ p.toList, Text.isBlank c = true

instance (p : String) : Decidable (Blank p) :=
  decidable_of_iff (p.toList.all Text.isBlank = true) List.all_eq_true

/-- Other ways to write a parameter: two neighbouring parts with different keys change places, an
empty part is put in, or white space is put around a part, its key and its value. -/
inductive Respells : String → String → Prop where
  | swap {p q : String} {before after : List (List Char)} {a b : List Char} :
    parts p = before ++ a :: b :: after → parts q = before ++ b :: a :: after →
    key? a ≠ key? b → Respells p q
  | empty (before after : List String) {blank : String} : Blank blank →
    Respells (",".intercalate (before ++ after)) (",".intercalate (before ++ blank :: after))
  | space (before after : List String) {key value u v w x : String} :
    ',' ∉ key.toList → '=' ∉ key.toList → ',' ∉ value.toList →
    Blank u → Blank v → Blank w → Blank x →
    Respells (",".intercalate (before ++ (key ++ "=" ++ value) :: after))
      (",".intercalate (before ++ (u ++ key ++ v ++ "=" ++ (w ++ value ++ x)) :: after))

theorem Blank.not_mem {p : String} {c : Char} (h : Blank p) (hc : Text.isBlank c = false) :
    c ∉ p.toList := by
  intro hmem
  rw [h c hmem] at hc
  cases hc

theorem Blank.parts_eq {p : String} (h : Blank p) : parts p = [] := by
  rw [parts, Text.pieces_of_none (Text.beq_of_not_mem (h.not_mem (by decide)))]
  simp [Text.trim_eq_nil h]

theorem Blank.trim_surround {u v : String} (hu : Blank u) (hv : Blank v) (p : String) :
    Text.trim (u ++ p ++ v).toList = Text.trim p.toList := by
  rw [String.toList_append, String.toList_append]
  exact Text.trim_surround hu hv

theorem Blank.not_mem_surround {u v p : String} {c : Char} (hu : Blank u) (hv : Blank v)
    (hc : Text.isBlank c = false) (hp : c ∉ p.toList) : c ∉ (u ++ p ++ v).toList := by
  simp [hu.not_mem hc, hv.not_mem hc, hp]

theorem ofParts_congr (h : Setting.ofPart a = Setting.ofPart b) :
    ofParts (before ++ a :: after) = ofParts (before ++ b :: after) := by
  simp only [ofParts, List.mapM_append, List.mapM_cons, h]

theorem Respells.preserves {p q : String} (h : Respells p q)
    (hp : ofParts (parts p) = .ok s) : ofParts (parts q) = .ok s := by
  cases h with
  | @swap _ _ before after a b hp' hq hkeys =>
    rw [hp', ofParts_eq_ok] at hp
    rw [hq, ofParts_eq_ok]
    obtain ⟨hall, hdecided⟩ := hp
    refine ⟨fun part hpart => hall part ?_, hdecided.congr (lastWith_swap hkeys)⟩
    simp only [List.mem_append, List.mem_cons] at hpart ⊢
    tauto
  | empty before after hblank =>
    rw [parts_intercalate, List.flatMap_append] at hp ⊢
    rwa [List.flatMap_cons, hblank.parts_eq, List.nil_append]
  | @space before after key value u v w x hcomma hequals hvalue hu hv hw hx =>
    obtain ⟨part, hpart, hassigns⟩ := exists_parts_eq hcomma hequals hvalue
    obtain ⟨part', hpart', hassigns'⟩ := exists_parts_eq
      (hu.not_mem_surround hv (by decide) hcomma) (hu.not_mem_surround hv (by decide) hequals)
      (hw.not_mem_surround hx (by decide) hvalue)
    rw [hu.trim_surround hv, hw.trim_surround hx] at hassigns'
    have hsame : Setting.ofPart part = Setting.ofPart part' := by
      rw [Setting.ofPart_of_assigns hassigns, Setting.ofPart_of_assigns hassigns']
    simp only [parts_intercalate, List.flatMap_append, List.flatMap_cons, hpart, hpart',
      List.singleton_append] at hp ⊢
    rwa [← ofParts_congr hsame]

/-- A parameter is understood exactly if all its parts are, and the last part with each key decides
what is set. Otherwise the first part that is not understood decides the failure. Writing the
parameter in another way changes nothing that is set. -/
theorem ofParameter_grammar (p : String) :
    ((∃ s, ofParameter p = .ok s) ↔ ∀ part ∈ parts p, ∃ x, Sets part x) ∧
    (∀ s, ofParameter p = .ok s ↔ (∀ part ∈ parts p, ∃ x, Sets part x) ∧ Decided (parts p) s) ∧
    (∀ failure, ofParameter p = .error failure ↔ ∃ before part after fault,
      parts p = before ++ part :: after ∧ (∀ earlier ∈ before, ∃ x, Sets earlier x) ∧
        Offends part fault ∧ failure = .invalidParameter fault) ∧
    ∀ q s, Respells p q → ofParameter p = .ok s → ofParameter q = .ok s := by
  refine ⟨?_, fun s => ?_, fun failure => ?_, fun q s hrespells hp => ?_⟩
  · simp only [ofParameter_eq_ok]
    exact exists_ofParts_eq_ok_iff
  · rw [ofParameter_eq_ok, ofParts_eq_ok]
  · simp only [ofParameter_eq_error, ofParts_eq_error]
    constructor
    · rintro ⟨fault, ⟨before, part, after, hparts, hbefore, hpart⟩, hfailure⟩
      exact ⟨before, part, after, fault, hparts, hbefore, hpart, hfailure⟩
    · rintro ⟨before, part, after, fault, hparts, hbefore, hpart, hfailure⟩
      exact ⟨fault, ⟨before, part, after, hparts, hbefore, hpart⟩, hfailure⟩
  · rw [ofParameter_eq_ok] at hp ⊢
    exact hrespells.preserves hp

/-- Of two layouts the last counts, also after the other part has moved behind it, an empty part has
come in and the key and value of that other part have got white space around them. -/
theorem ofParameter_respelled :
    ofParameter "layout=verb,log=a=b,layout=resource" = .ok ⟨.resource, some 'd', some "a=b"⟩ ∧
    ofParameter "layout=verb,layout=resource,log=a=b" = .ok ⟨.resource, some 'd', some "a=b"⟩ ∧
    ofParameter "layout=verb,layout=resource, ,log=a=b" = .ok ⟨.resource, some 'd', some "a=b"⟩ ∧
    ofParameter "layout=verb,layout=resource, , log\t= a=b" =
      .ok ⟨.resource, some 'd', some "a=b"⟩ := by
  have hfirst : ofParameter "layout=verb,log=a=b,layout=resource" =
      .ok ⟨.resource, some 'd', some "a=b"⟩ := by
    decide
  have hswap : Respells "layout=verb,log=a=b,layout=resource"
      "layout=verb,layout=resource,log=a=b" :=
    @Respells.swap _ _ ["layout=verb".toList] [] "log=a=b".toList "layout=resource".toList
      (by decide) (by decide) (by decide)
  have hempty : Respells "layout=verb,layout=resource,log=a=b"
      "layout=verb,layout=resource, ,log=a=b" :=
    .empty ["layout=verb", "layout=resource"] ["log=a=b"] (show Blank " " by decide)
  have hspace : Respells "layout=verb,layout=resource, ,log=a=b"
      "layout=verb,layout=resource, , log\t= a=b" :=
    @Respells.space ["layout=verb", "layout=resource", " "] [] "log" "a=b" " " "\t" " " ""
      (by decide) (by decide) (by decide) (by decide) (by decide) (by decide) (by decide)
  have hsecond := (ofParameter_grammar _).2.2.2 _ _ hswap hfirst
  have hthird := (ofParameter_grammar _).2.2.2 _ _ hempty hsecond
  exact ⟨hfirst, hsecond, hthird, (ofParameter_grammar _).2.2.2 _ _ hspace hthird⟩

end ServiceCli.Settings
