import Mathlib
import ServiceCli.Proofs.Text.Ascii

/-!
The same words in different casings. A name is read from left to right with one letter of
look-ahead, and the words that were put into it come out again, whichever way it is written. Only
neighbours of one letter each would run together, as they look like an acronym when capitalised.
-/
namespace ServiceCli

namespace Text

/-- A word over the letters of ASCII, in upper or lower case. -/
def IsWord (w : List Char) : Prop := w ≠ [] ∧ ∀ c ∈ w, c.isAlpha = true

instance (w : List Char) : Decidable (IsWord w) :=
  decidable_of_iff (w ≠ [] ∧ w.all Char.isAlpha = true) (by rw [List.all_eq_true, IsWord])

/-- Of two neighbours at most one is a single letter. -/
def Apart (v w : List Char) : Prop := v.length = 1 → w.length ≠ 1

instance : DecidableRel Apart :=
  fun v w => inferInstanceAs (Decidable (v.length = 1 → w.length ≠ 1))

def capitalised : List Char → List Char
  | [] => []
  | c :: cs => c.toUpper :: cs.map Char.toLower

/-- The ways to write the words of a name: `get_account`, `GET_ACCOUNT`, `GetAccount`,
`getAccount`. -/
inductive Casing where
  | snake
  | screaming
  | pascal
  | camel
deriving Repr, DecidableEq

def Casing.chars : Casing → List (List Char) → List Char
  | .snake, ws => ['_'].intercalate (ws.map (·.map Char.toLower))
  | .screaming, ws => ['_'].intercalate (ws.map (·.map Char.toUpper))
  | .pascal, ws => ws.flatMap capitalised
  | .camel, [] => []
  | .camel, w :: ws => w.map Char.toLower ++ ws.flatMap capitalised

def Casing.spell (casing : Casing) (ws : List String) : String :=
  String.ofList (casing.chars (ws.map String.toList))

/-- Lower case as the scan for words sees it. -/
def IsLow (c : Char) : Prop := isLower c = true ∧ isUpper c = false

def IsHigh (c : Char) : Prop := isUpper c = true ∧ isLower c = false

theorem case_table : ∀ n < 128, let c := Char.ofNat n
    isLower c = c.isLower ∧ isUpper c = c.isUpper := by
  decide +kernel

theorem lt_of_isAlpha {c : Char} (h : c.isAlpha = true) : c.toNat < 128 :=
  lt_of_isAlphanum (by rw [Char.isAlphanum, h, Bool.true_or])

theorem isLow_toLower {c : Char} (h : c.isAlpha = true) : IsLow c.toLower := by
  have htable := case_table c.toLower.toNat (lt_of_isAlpha (by simpa using h))
  simp only [Char.ofNat_toNat] at htable
  exact ⟨htable.1.trans (by simpa using h), htable.2.trans (by simp)⟩

theorem isHigh_toUpper {c : Char} (h : c.isAlpha = true) : IsHigh c.toUpper := by
  have htable := case_table c.toUpper.toNat (lt_of_isAlpha (by simpa using h))
  simp only [Char.ofNat_toNat] at htable
  exact ⟨htable.2.trans (by simpa using h), htable.1.trans (by simp)⟩

theorem isAlphanumeric_of_isAlpha {c : Char} (h : c.isAlpha = true) : isAlphanumeric c = true := by
  rw [(simple_of_ascii (lt_of_isAlpha h)).isAlphanumeric_eq, Char.isAlphanum, h, Bool.true_or]

/-- The letters are those of the word, each in either case. -/
def Recased (w v : List Char) : Prop :=
  v.map Char.toLower = w.map Char.toLower ∧ ∀ c ∈ v, c.isAlpha = true

theorem recased_map {f : Char → Char} {w : List Char} (hw : IsWord w)
    (hf : ∀ c, c.isAlpha = true → (f c).isAlpha = true ∧ (f c).toLower = c.toLower) :
    Recased w (w.map f) := by
  refine ⟨?_, List.forall_mem_map.2 fun c hc => (hf c (hw.2 c hc)).1⟩
  rw [List.map_map]
  exact List.map_congr_left fun c hc => (hf c (hw.2 c hc)).2

theorem recased_toLower {w : List Char} (hw : IsWord w) : Recased w (w.map Char.toLower) :=
  recased_map hw fun c hc => ⟨by simpa using hc, Char.toLower_toLower_eq_toLower c⟩

theorem recased_toUpper {w : List Char} (hw : IsWord w) : Recased w (w.map Char.toUpper) :=
  recased_map hw fun c hc => ⟨by simpa using hc, Char.toLower_toUpper_eq_toLower c⟩

theorem recased_capitalised {w : List Char} (hw : IsWord w) : Recased w (capitalised w) := by
  obtain ⟨c, cs, rfl⟩ := List.exists_cons_of_ne_nil hw.1
  obtain ⟨hlower, halpha⟩ := recased_toLower hw
  obtain ⟨hupper, halpha'⟩ := recased_toUpper hw
  refine ⟨?_, List.forall_mem_cons.2 ⟨halpha' _ List.mem_cons_self, fun d hd => ?_⟩⟩
  · simp only [capitalised, List.map_cons, List.cons.injEq] at hlower hupper ⊢
    exact ⟨hupper.1, hlower.2⟩
  · exact halpha d (List.mem_cons_of_mem _ hd)

theorem lowerWord_of_recased {w v : List Char} (h : Recased w v) :
    lowerWord v = w.map Char.toLower := by
  rw [lowerWord_of_ascii fun c hc => lt_of_isAlpha (h.2 c hc), h.1]

theorem map_lowerWord_map {f : List Char → List Char} {ws : List (List Char)}
    (hf : ∀ w ∈ ws, Recased w (f w)) :
    (ws.map f).map lowerWord = ws.map (·.map Char.toLower) := by
  rw [List.map_map]
  exact List.map_congr_left fun w hw => lowerWord_of_recased (hf w hw)

theorem next_of_isLow (mode : CaseMode) {c : Char} (h : IsLow c) : mode.next c = .lower := by
  rw [CaseMode.next, if_pos h.1]

theorem next_of_isHigh (mode : CaseMode) {c : Char} (h : IsHigh c) : mode.next c = .upper := by
  rw [CaseMode.next, if_neg (by simp [h.2]), if_pos h.1]

/-- Letters in lower case end a word where the text ends or a capital follows. Whatever has been
read of the word already stands in front of them. -/
theorem wordsFrom_low {cs rest : List Char} (mode : CaseMode) (current : List Char)
    (hne : cs ≠ []) (hlow : ∀ c ∈ cs, IsLow c) (hrest : ∀ c ∈ rest.head?, IsHigh c) :
    wordsFrom mode current (cs ++ rest) =
      (current.reverse ++ cs) :: wordsFrom .boundary [] rest := by
  induction cs generalizing mode current with
  | nil => exact absurd rfl hne
  | cons c cs ih =>
    obtain ⟨hc, hcs⟩ := List.forall_mem_cons.1 hlow
    match cs, rest with
    | [], [] => simp [wordsFrom]
    | [], d :: rest =>
      have hd : IsHigh d := hrest d rfl
      simp [wordsFrom, next_of_isLow mode hc, hd.1]
    | d :: cs, rest =>
      have hd : IsLow d := hcs d List.mem_cons_self
      have htail := ih (mode.next c) (c :: current) (by simp) hcs
      rw [List.cons_append, List.cons_append, wordsFrom, if_neg (by simp [hd.2]),
        if_neg (by simp [hc.2]), ← List.cons_append, htail]
      simp

/-- Capitals without anything after them are one word. -/
theorem wordsFrom_high {cs : List Char} (mode : CaseMode) (current : List Char) (hne : cs ≠ [])
    (hhigh : ∀ c ∈ cs, IsHigh c) : wordsFrom mode current cs = [current.reverse ++ cs] := by
  induction cs generalizing mode current with
  | nil => exact absurd rfl hne
  | cons c cs ih =>
    obtain ⟨hc, hcs⟩ := List.forall_mem_cons.1 hhigh
    match cs with
    | [] => simp [wordsFrom]
    | d :: cs =>
      have hd : IsHigh d := hcs d List.mem_cons_self
      have htail := ih .upper (c :: current) (by simp) hcs
      rw [wordsFrom, next_of_isHigh mode hc, if_neg (by simp), if_neg (by simp [hd.2]), htail]
      simp

/-- A capital and the letters in lower case after it are a word. -/
theorem wordsFrom_high_low {c : Char} {cs rest : List Char} (hc : IsHigh c) (hne : cs ≠ [])
    (hlow : ∀ c ∈ cs, IsLow c) (hrest : ∀ c ∈ rest.head?, IsHigh c) :
    wordsFrom .boundary [] (c :: cs ++ rest) = (c :: cs) :: wordsFrom .boundary [] rest := by
  obtain ⟨d, ds, rfl⟩ := List.exists_cons_of_ne_nil hne
  have hscan := wordsFrom_low .upper [c] hne hlow hrest
  rw [List.cons_append, List.cons_append, wordsFrom, next_of_isHigh _ hc, if_neg (by simp),
    if_neg (by simp), ← List.cons_append, hscan]
  simp

/-- A single capital in front of a capitalised word is a word, for the scan looks ahead to the
letter in lower case. -/
theorem wordsFrom_high_high {b c : Char} {cs rest : List Char} (hb : IsHigh b) (hc : IsHigh c)
    (hne : cs ≠ []) (hlow : ∀ c ∈ cs, IsLow c) (hrest : ∀ c ∈ rest.head?, IsHigh c) :
    wordsFrom .boundary [] (b :: (c :: cs ++ rest)) =
      [b] :: wordsFrom .boundary [] (c :: cs ++ rest) := by
  have hword := wordsFrom_high_low hc hne hlow hrest
  have hscan := wordsFrom_low .boundary [c] hne hlow hrest
  obtain ⟨d, ds, rfl⟩ := List.exists_cons_of_ne_nil hne
  have hd : IsLow d := hlow d List.mem_cons_self
  -- The second capital has been read when the look-ahead puts it into a word of its own.
  rw [hword, List.cons_append, List.cons_append, wordsFrom, next_of_isHigh _ hb, if_neg (by simp),
    if_neg (by simp), wordsFrom, if_neg (by simp [hd.2]), if_pos ⟨rfl, hc.1, hd.1⟩,
    ← List.cons_append, hscan]
  simp

theorem wordsFrom_toLower {w : List Char} (hw : IsWord w) :
    wordsFrom .boundary [] (w.map Char.toLower) = [w.map Char.toLower] := by
  have hlow : ∀ c ∈ w.map Char.toLower, IsLow c :=
    List.forall_mem_map.2 fun c hc => isLow_toLower (hw.2 c hc)
  have hscan : wordsFrom .boundary [] (w.map Char.toLower ++ []) = _ :=
    wordsFrom_low .boundary [] (by simpa using hw.1) hlow (by simp)
  simpa [wordsFrom] using hscan

theorem wordsFrom_toUpper {w : List Char} (hw : IsWord w) :
    wordsFrom .boundary [] (w.map Char.toUpper) = [w.map Char.toUpper] :=
  wordsFrom_high .boundary [] (by simpa using hw.1)
    (List.forall_mem_map.2 fun c hc => isHigh_toUpper (hw.2 c hc))

/-- A capitalised word begins with a capital and goes on in lower case. -/
theorem exists_capitalised {w : List Char} (hw : IsWord w) : ∃ c cs, capitalised w = c :: cs ∧
    IsHigh c ∧ (∀ d ∈ cs, IsLow d) ∧ cs.length + 1 = w.length := by
  obtain ⟨c, cs, rfl⟩ := List.exists_cons_of_ne_nil hw.1
  obtain ⟨hc, hcs⟩ := List.forall_mem_cons.1 hw.2
  refine ⟨c.toUpper, cs.map Char.toLower, rfl, isHigh_toUpper hc, ?_, by simp⟩
  exact List.forall_mem_map.2 fun d hd => isLow_toLower (hcs d hd)

theorem isHigh_of_mem_head? {ws : List (List Char)} (hwords : ∀ w ∈ ws, IsWord w) {c : Char}
    (h : c ∈ (ws.flatMap capitalised).head?) : IsHigh c := by
  cases ws with
  | nil => simp at h
  | cons w ws =>
    obtain ⟨d, ds, hchars, hd, -⟩ := exists_capitalised (hwords w List.mem_cons_self)
    rw [List.flatMap_cons, hchars] at h
    obtain rfl : d = c := by simpa using h
    exact hd

theorem isAlpha_of_mem_flatMap {ws : List (List Char)} (hwords : ∀ w ∈ ws, IsWord w) {c : Char}
    (h : c ∈ ws.flatMap capitalised) : c.isAlpha = true := by
  obtain ⟨w, hw, hc⟩ := List.mem_flatMap.1 h
  exact (recased_capitalised (hwords w hw)).2 c hc

/-- Capitalised words are read as they were written, unless two single letters meet. -/
theorem wordsFrom_capitalised {ws : List (List Char)} (hwords : ∀ w ∈ ws, IsWord w)
    (hapart : ws.IsChain Apart) :
    wordsFrom .boundary [] (ws.flatMap capitalised) = ws.map capitalised := by
  induction ws with
  | nil => rfl
  | cons w ws ih =>
    obtain ⟨hw, hws⟩ := List.forall_mem_cons.1 hwords
    obtain ⟨hnext, hapart⟩ := List.isChain_cons.1 hapart
    obtain ⟨c, cs, hchars, hc, hcs, hlength⟩ := exists_capitalised hw
    rw [List.flatMap_cons, List.map_cons, ← ih hws hapart, hchars]
    by_cases hsingle : cs = []
    · subst hsingle
      match ws with
      | [] => rfl
      | v :: ws =>
        -- What follows a single letter is longer, so its second letter is there to look at.
        obtain ⟨d, ds, hchars', hd, hds, hlength'⟩ := exists_capitalised (hws v List.mem_cons_self)
        have hlong : v.length ≠ 1 := hnext v rfl hlength.symm
        have hne : ds ≠ [] := by
          rintro rfl
          exact hlong hlength'.symm
        rw [List.flatMap_cons, hchars']
        exact wordsFrom_high_high hc hd hne hds
          fun e he => isHigh_of_mem_head? (List.forall_mem_cons.1 hws).2 he
    · exact wordsFrom_high_low hc hsingle hcs fun d hd => isHigh_of_mem_head? hws hd

/-- Pieces between separators come out as they were joined. -/
theorem pieces_intercalate {p : Char → Bool} {s : Char} (hs : p s = true) {xs : List (List Char)}
    (hne : xs ≠ []) (h : ∀ x ∈ xs, ∀ c ∈ x, p c = false) : pieces p ([s].intercalate xs) = xs := by
  induction xs with
  | nil => exact absurd rfl hne
  | cons x xs ih =>
    obtain ⟨hx, hxs⟩ := List.forall_mem_cons.1 h
    match xs with
    | [] => rw [List.intercalate_singleton, pieces_of_none hx]
    | y :: ys =>
      rw [List.intercalate_cons_cons, List.append_assoc, List.singleton_append,
        pieces_append_separator p _ _ hs, pieces_of_none hx, ih (by simp) hxs]
      rfl

theorem map_intercalate (f : Char → Char) (s : List Char) (xs : List (List Char)) :
    (s.intercalate xs).map f = (s.map f).intercalate (xs.map (·.map f)) := by
  cases xs with
  | nil => rfl
  | cons x xs =>
    rw [intercalate_cons, List.map_cons, intercalate_cons]
    simp [List.map_flatMap, List.flatMap_map]

theorem words_of_isAlpha {cs : List Char} (h : ∀ c ∈ cs, c.isAlpha = true) :
    words cs = wordsFrom .boundary [] cs := by
  rw [words, pieces_of_none fun c hc => by simp [isAlphanumeric_of_isAlpha (h c hc)],
    List.flatMap_singleton]

/-- Words of letters that the scan leaves whole may be joined by underscores. -/
theorem words_intercalate {xs : List (List Char)} (halpha : ∀ x ∈ xs, ∀ c ∈ x, c.isAlpha = true)
    (hwhole : ∀ x ∈ xs, wordsFrom .boundary [] x = [x]) : words (['_'].intercalate xs) = xs := by
  by_cases hne : xs = []
  · subst hne
    rfl
  · have hunderscore : (!isAlphanumeric '_') = true := by decide +kernel
    rw [words, pieces_intercalate hunderscore hne fun x hx c hc => by
        simp [isAlphanumeric_of_isAlpha (halpha x hx c hc)],
      List.flatMap_congr hwhole, List.flatMap_singleton']

/-- In every casing the words of a name are the words it is spelled from, in some case. -/
theorem map_lowerWord_words_chars (casing : Casing) {ws : List (List Char)}
    (hwords : ∀ w ∈ ws, IsWord w) (hapart : ws.IsChain Apart) :
    (words (casing.chars ws)).map lowerWord = ws.map (·.map Char.toLower) := by
  have hlower : ∀ w ∈ ws, Recased w (w.map Char.toLower) :=
    fun w hw => recased_toLower (hwords w hw)
  have hupper : ∀ w ∈ ws, Recased w (w.map Char.toUpper) :=
    fun w hw => recased_toUpper (hwords w hw)
  have hcapitalised : ∀ w ∈ ws, Recased w (capitalised w) :=
    fun w hw => recased_capitalised (hwords w hw)
  cases casing with
  | snake =>
    rw [Casing.chars, words_intercalate, map_lowerWord_map hlower]
    · exact List.forall_mem_map.2 fun w hw => (hlower w hw).2
    · exact List.forall_mem_map.2 fun w hw => wordsFrom_toLower (hwords w hw)
  | screaming =>
    rw [Casing.chars, words_intercalate, map_lowerWord_map hupper]
    · exact List.forall_mem_map.2 fun w hw => (hupper w hw).2
    · exact List.forall_mem_map.2 fun w hw => wordsFrom_toUpper (hwords w hw)
  | pascal =>
    rw [Casing.chars, words_of_isAlpha fun c hc => isAlpha_of_mem_flatMap hwords hc,
      wordsFrom_capitalised hwords hapart, map_lowerWord_map hcapitalised]
  | camel =>
    cases ws with
    | nil => rfl
    | cons w ws =>
      obtain ⟨hw, hws⟩ := List.forall_mem_cons.1 hwords
      have halpha : ∀ c ∈ w.map Char.toLower ++ ws.flatMap capitalised, c.isAlpha = true :=
        List.forall_mem_append.2 ⟨(hlower w List.mem_cons_self).2,
          fun c hc => isAlpha_of_mem_flatMap hws hc⟩
      rw [Casing.chars, words_of_isAlpha halpha,
        wordsFrom_low .boundary [] (by simpa using hw.1)
          (List.forall_mem_map.2 fun c hc => isLow_toLower (hw.2 c hc))
          (fun c hc => isHigh_of_mem_head? hws hc),
        wordsFrom_capitalised hws (List.isChain_cons.1 hapart).2, List.map_cons,
        map_lowerWord_map (List.forall_mem_cons.1 hcapitalised).2, List.map_cons, List.reverse_nil,
        List.nil_append, lowerWord_of_recased (hlower w List.mem_cons_self)]

theorem lower_intercalate {xs : List (List Char)} (h : ∀ x ∈ xs, ∀ c ∈ x, c.isAlpha = true) :
    (lower (String.ofList (['_'].intercalate (xs.map (·.map Char.toLower))))).toList =
      ['_'].intercalate (xs.map (·.map Char.toLower)) := by
  have hascii : Ascii (['_'].intercalate (xs.map (·.map Char.toLower))) := by
    refine ascii_intercalate (by decide) (List.forall_mem_map.2 fun x hx => ?_)
    exact List.forall_mem_map.2 fun c hc => lt_of_isAlpha (by simpa using h x hx c hc)
  rw [lower, String.toList_ofList, String.toList_ofList, lowerFrom_of_ascii [] hascii,
    map_intercalate, List.map_map]
  simp [Function.comp_def]

end Text

open Text (Casing IsWord Apart)

namespace ResourceVerb

/-- In every casing the words that a name is made of are found in it. -/
theorem nameWords_spell (casing : Casing) {ws : List String} (hne : ws ≠ [])
    (hwords : ∀ w ∈ ws, IsWord w.toList)
    (hapart : ws.IsChain fun v w => Apart v.toList w.toList) :
    nameWords (casing.spell ws) = ws.map String.toLower := by
  have hwords' : ∀ w ∈ ws.map String.toList, IsWord w := List.forall_mem_map.2 hwords
  have hchars := Text.map_lowerWord_words_chars casing hwords' ((List.isChain_map _).2 hapart)
  have hsnake : Text.snake (casing.spell ws) =
      String.ofList (['_'].intercalate ((ws.map String.toList).map (·.map Char.toLower))) := by
    rw [Text.snake, Text.snakeChars, Casing.spell, String.toList_ofList, hchars]
  have hnone : ∀ w ∈ (ws.map String.toList).map (·.map Char.toLower), ∀ c ∈ w,
      (c == '_') = false := by
    refine List.forall_mem_map.2 fun w hw c hc => beq_eq_false_iff_ne.2 ?_
    have halpha := (Text.recased_toLower (hwords' w hw)).2 c hc
    rintro rfl
    exact absurd halpha (by decide)
  have hlower : ∀ w ∈ ws, String.ofList (w.toList.map Char.toLower) = w.toLower :=
    fun w _ => String.toList_inj.1 (by simp [String.toLower])
  rw [nameWords, hsnake, Text.lower_intercalate fun w hw => (hwords' w hw).2,
    Text.pieces_intercalate (by decide) (by simpa using hne) hnone, List.map_map, List.map_map]
  exact List.map_congr_left hlower

/-- Whatever the casing, a name says what the words it is spelled from say. -/
theorem ofNameBy_spell (singular : String → String) (casing : Casing) {ws : List String}
    (hwords : ∀ w ∈ ws, IsWord w.toList)
    (hapart : ws.IsChain fun v w => Apart v.toList w.toList) :
    ofNameBy singular (casing.spell ws) = ofWordsBy singular (ws.map String.toLower) := by
  by_cases hne : ws = []
  · subst hne
    cases casing <;> rfl
  · rw [ofNameBy, nameWords_spell casing hne hwords hapart]

theorem ofWordsBy_eq_empty (singular : String → String) {ws : List String} (htwo : ws.length ≠ 2)
    (hthree : ws.length ≠ 3) : ofWordsBy singular ws = ⟨"", ""⟩ := by
  unfold ofWordsBy
  split
  · exact absurd rfl htwo
  · exact absurd rfl hthree
  · rfl

variable {ε : Type}

/-- The annotation of the resource is read first, so its error goes before that of the verb. -/
theorem resolveBy_eq_error (singular : String → String) (name : String) (a : Annotations ε)
    (e : ε) : resolveBy singular name a = .error e ↔
      a.resource = .error e ∨ (∃ r?, a.resource = .ok r?) ∧ a.verb = .error e := by
  obtain ⟨resource, verb⟩ := a
  cases resource with
  | error e' => simp [resolveBy, bind, Except.bind]
  | ok r? => cases verb <;> simp [resolveBy, bind, Except.bind, pure, Except.pure]

/-- Each annotation that is there replaces its half of what the name says, also if it is empty, and
neither half may be empty in the end. -/
theorem resolveBy_eq_some (singular : String → String) (name : String) (a : Annotations ε)
    (pair : ResourceVerb) : resolveBy singular name a = .ok (some pair) ↔
      ∃ r? v?, a.resource = .ok r? ∧ a.verb = .ok v? ∧
        pair = ⟨r?.getD (ofNameBy singular name).resource, v?.getD (ofNameBy singular name).verb⟩ ∧
        pair.resource ≠ "" ∧ pair.verb ≠ "" := by
  obtain ⟨resource, verb⟩ := a
  cases resource with
  | error e => simp [resolveBy, bind, Except.bind]
  | ok r? =>
    cases verb with
    | error e => simp [resolveBy, bind, Except.bind]
    | ok v? =>
      have hresolve : resolveBy singular name ⟨.ok r?, .ok v?⟩ = Except.ok (ε := ε)
          (if r?.getD (ofNameBy singular name).resource = "" ∨
              v?.getD (ofNameBy singular name).verb = "" then none
            else some ⟨r?.getD (ofNameBy singular name).resource,
              v?.getD (ofNameBy singular name).verb⟩) := rfl
      rw [hresolve]
      split <;> grind

/-- In every casing a method is resolved alike. Its name is a verb, a noun and possibly one more
word, of which only a `list` after a `get` matters, and says nothing in any other shape. What
annotations add to it does not depend on the casing either. -/
theorem resolveBy_spell (singular : String → String) (ws : List String)
    (hwords : ∀ w ∈ ws, IsWord w.toList)
    (hapart : ws.IsChain fun v w => Apart v.toList w.toList) :
    ∃ rv : ResourceVerb, (∀ casing : Casing, ofNameBy singular (casing.spell ws) = rv) ∧
      (∀ v r, ws = [v, r] → rv = ⟨singular r.toLower, v.toLower⟩) ∧
      (∀ v r s, ws = [v, r, s] → rv = ⟨singular r.toLower,
        if v.toLower = "get" ∧ s.toLower = "list" then "list" else v.toLower⟩) ∧
      (ws.length ≠ 2 → ws.length ≠ 3 → rv = ⟨"", ""⟩) ∧
      ∀ (casing : Casing) (a : Annotations ε),
        (∀ e, resolveBy singular (casing.spell ws) a = .error e ↔
          a.resource = .error e ∨ (∃ r?, a.resource = .ok r?) ∧ a.verb = .error e) ∧
        ∀ pair, resolveBy singular (casing.spell ws) a = .ok (some pair) ↔
          ∃ r? v?, a.resource = .ok r? ∧ a.verb = .ok v? ∧
            pair = ⟨r?.getD rv.resource, v?.getD rv.verb⟩ ∧
            pair.resource ≠ "" ∧ pair.verb ≠ "" := by
  have hname : ∀ casing : Casing,
      ofNameBy singular (casing.spell ws) = ofWordsBy singular (ws.map String.toLower) :=
    fun casing => ofNameBy_spell singular casing hwords hapart
  refine ⟨ofWordsBy singular (ws.map String.toLower), hname, ?_, ?_, ?_, ?_⟩
  · rintro v r rfl
    rfl
  · rintro v r s rfl
    rfl
  · intro htwo hthree
    exact ofWordsBy_eq_empty singular (by simpa using htwo) (by simpa using hthree)
  · intro casing a
    rw [← hname casing]
    exact ⟨resolveBy_eq_error singular _ a, resolveBy_eq_some singular _ a⟩

theorem resolveBy_spell_accounts :
    (Casing.snake.spell ["Get", "accounts", "LIST"] = "get_accounts_list" ∧
      Casing.screaming.spell ["Get", "accounts", "LIST"] = "GET_ACCOUNTS_LIST" ∧
      Casing.pascal.spell ["Get", "accounts", "LIST"] = "GetAccountsList" ∧
      Casing.camel.spell ["Get", "accounts", "LIST"] = "getAccountsList") ∧
    (∀ w ∈ ["Get", "accounts", "LIST"], IsWord w.toList) ∧
    (["Get", "accounts", "LIST"].IsChain fun v w => Apart v.toList w.toList) ∧
    (∀ casing : Casing,
      ofName (casing.spell ["Get", "accounts", "LIST"]) = ⟨"account", "list"⟩) ∧
    ∀ casing : Casing, resolve (casing.spell ["Get", "accounts", "LIST"])
      (⟨.ok none, .ok (some "fetch")⟩ : Annotations Unit) = .ok (some ⟨"account", "fetch"⟩) := by
  have hwords : ∀ w ∈ ["Get", "accounts", "LIST"], IsWord w.toList := by decide
  have hapart : ["Get", "accounts", "LIST"].IsChain fun v w => Apart v.toList w.toList := by decide
  obtain ⟨rv, hname, -, hthree, -, hresolve⟩ :=
    resolveBy_spell (ε := Unit) Text.singular ["Get", "accounts", "LIST"] hwords hapart
  have hrv : rv = ⟨"account", "list"⟩ := by
    rw [hthree "Get" "accounts" "LIST" rfl]
    decide +kernel
  subst hrv
  refine ⟨by decide +kernel, hwords, hapart, hname, fun casing => ?_⟩
  have hfetch := (hresolve casing ⟨.ok none, .ok (some "fetch")⟩).2 ⟨"account", "fetch"⟩
  exact hfetch.2 ⟨none, some "fetch", rfl, rfl, rfl, by simp, by simp⟩

/-- Two neighbours of one letter are taken for one acronym where both are capitalised. -/
example : (ofName (Casing.snake.spell ["get", "a", "b"])).resource = "a" ∧
    (ofName (Casing.pascal.spell ["get", "a", "b"])).resource = "ab" := by
  decide +kernel

end ResourceVerb

end ServiceCli
