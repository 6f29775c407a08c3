import ServiceCli.Text.Identifier
import ServiceCli.Text.Words

/-!
When a name in snake case begins an identifier. Cutting a name into words keeps exactly its
alphanumeric characters, and each of them has to make do in lower case. The first one begins the
identifier.
-/
namespace ServiceCli.Text

theorem flatten_extendFirst (c : Char) (ps : List (List Char)) :
    (extendFirst c ps).flatten = c :: ps.flatten := by
  cases ps <;> rfl

theorem flatten_pieces (p : Char → Bool) (cs : List Char) :
    (pieces p cs).flatten = cs.filter (!p ·) := by
  induction cs with
  | nil => rfl
  | cons c cs ih =>
    unfold pieces
    by_cases hc : p c = true
    · simp [hc, ih]
    · simp [hc, ih, flatten_extendFirst]

theorem flatten_wordsFrom (mode : CaseMode) (current : List Char) {cs : List Char} (h : cs ≠ []) :
    (wordsFrom mode current cs).flatten = current.reverse ++ cs := by
  induction mode, current, cs using wordsFrom.induct with
  | case1 => exact absurd rfl h
  | case2 mode current c => simp [wordsFrom]
  | case3 mode current c next rest hlower ih =>
    rw [wordsFrom, if_pos hlower, List.flatten_cons, ih (by simp)]
    simp
  | case4 mode current c next rest hlower hupper ih =>
    rw [wordsFrom, if_neg hlower, if_pos hupper, List.flatten_cons, ih (by simp)]
    simp
  | case5 mode current c next rest hlower hupper ih =>
    rw [wordsFrom, if_neg hlower, if_neg hupper, ih (by simp)]
    simp

/-- No word is empty, for a word that an upper-case letter ends has begun with one. -/
theorem ne_nil_of_mem_wordsFrom {mode : CaseMode} {current cs w : List Char}
    (hmode : mode = .upper → current ≠ []) (h : w ∈ wordsFrom mode current cs) : w ≠ [] := by
  induction mode, current, cs using wordsFrom.induct with
  | case1 => simp [wordsFrom] at h
  | case2 mode current c =>
    rw [wordsFrom, List.mem_singleton] at h
    simp [h]
  | case3 mode current c next rest hlower ih =>
    rw [wordsFrom, if_pos hlower] at h
    rcases List.mem_cons.1 h with rfl | h
    · simp
    · exact ih (by simp) h
  | case4 mode current c next rest hlower hupper ih =>
    rw [wordsFrom, if_neg hlower, if_pos hupper] at h
    rcases List.mem_cons.1 h with rfl | h
    · simpa using hmode hupper.1
    · exact ih (by simp) h
  | case5 mode current c next rest hlower hupper ih =>
    rw [wordsFrom, if_neg hlower, if_neg hupper] at h
    exact ih (by simp) h

theorem flatten_words (name : List Char) : (words name).flatten = name.filter isAlphanumeric := by
  have hpieces : ∀ p ∈ pieces (!isAlphanumeric ·) name,
      (wordsFrom .boundary [] p).flatten = p := by
    intro p _
    by_cases hp : p = []
    · simp [hp, wordsFrom]
    · simp [flatten_wordsFrom _ _ hp]
  rw [words, List.flatMap_def, List.flatten_flatten, List.map_map,
    List.map_congr_left (g := id) (by simpa using hpieces), List.map_id, flatten_pieces]
  simp

theorem ne_nil_of_mem_words {name w : List Char} (h : w ∈ words name) : w ≠ [] := by
  obtain ⟨p, -, hw⟩ := List.mem_flatMap.1 h
  exact ne_nil_of_mem_wordsFrom (by simp) hw

/-- Whether the characters may stand behind the first one of an identifier. -/
def continues (cs : List Char) : Bool := cs.all identifierContinue.holds

/-- Whether the characters are an identifier. -/
def begins (cs : List Char) : Bool := isIdentifier (String.ofList cs)

/-- Whether the alphanumeric characters of a name make an identifier in lower case. -/
def spellable (name : String) : Bool :=
  match name.toList.filter isAlphanumeric with
  | [] => true
  | c :: cs => begins (lowerChar c) && cs.all fun d => continues (lowerChar d)

theorem continues_append (cs ds : List Char) :
    continues (cs ++ ds) = (continues cs && continues ds) := List.all_append

theorem begins_append {cs : List Char} (h : cs ≠ []) (ds : List Char) :
    begins (cs ++ ds) = (begins cs && continues ds) := by
  obtain ⟨c, cs, rfl⟩ := List.exists_cons_of_ne_nil h
  simp [begins, isIdentifier, continues, Bool.and_assoc]

theorem lowerChar_ne_nil (c : Char) : lowerChar c ≠ [] := by
  unfold lowerChar mapCase
  split
  · rename_i ns hns
    have hmem := List.lookup_eq_some_iff.1 hns
    obtain ⟨before, after, heq, -⟩ := hmem
    have hns : (c.toNat, ns) ∈ lowerExpansions := by simp [heq]
    simp only [lowerExpansions, List.mem_singleton, Prod.mk.injEq] at hns
    simp [hns.2]
  · simp

/-- In lower case a word begins as its first character does, also if that is a lone sigma. -/
theorem lowerWord_cons (c : Char) (cs : List Char) : ∃ part, part ≠ [] ∧
    begins part = begins (lowerChar c) ∧ continues part = continues (lowerChar c) ∧
    lowerWord (c :: cs) = part ++ lowerWord cs := by
  cases cs with
  | nil =>
    by_cases hc : c = 'Σ'
    · refine ⟨['ς'], by simp, ?_, ?_, by simp [lowerWord, hc]⟩ <;> subst hc <;> decide +kernel
    · exact ⟨lowerChar c, lowerChar_ne_nil c, rfl, rfl, by simp [lowerWord, hc]⟩
  | cons d cs => exact ⟨lowerChar c, lowerChar_ne_nil c, rfl, rfl, by simp [lowerWord]⟩

theorem continues_lowerWord (w : List Char) :
    continues (lowerWord w) = w.all fun c => continues (lowerChar c) := by
  induction w with
  | nil => rfl
  | cons c cs ih =>
    obtain ⟨part, -, -, hcontinues, hword⟩ := lowerWord_cons c cs
    rw [hword, continues_append, hcontinues, ih, List.all_cons]

theorem intercalate_cons (s x : List Char) (xs : List (List Char)) :
    s.intercalate (x :: xs) = x ++ xs.flatMap (s ++ ·) := by
  induction xs generalizing x with
  | nil => simp
  | cons y ys ih => rw [List.intercalate_cons_cons, ih, List.flatMap_cons, List.append_assoc,
      List.append_assoc]

theorem continues_lowerWords (ws : List (List Char)) :
    continues ((ws.map lowerWord).flatMap (['_'] ++ ·)) =
      ws.flatten.all fun c => continues (lowerChar c) := by
  have hunderscore : continues ['_'] = true := by decide +kernel
  induction ws with
  | nil => rfl
  | cons w ws ih =>
    rw [List.map_cons, List.flatMap_cons, continues_append, ih, continues_append, hunderscore,
      continues_lowerWord, List.flatten_cons, List.all_append, Bool.true_and]

/-- A name in snake case makes an identifier if and only if its alphanumeric characters do. What
follows makes one if there are none. -/
theorem isIdentifier_snake_append (name : String) {suffix : String}
    (hbegins : begins suffix.toList = true) (hcontinues : continues suffix.toList = true) :
    isIdentifier (snake name ++ suffix) = spellable name := by
  have hchars : isIdentifier (snake name ++ suffix) =
      begins (snakeChars name.toList ++ suffix.toList) := by
    rw [begins, String.ofList_append, String.ofList_toList, snake]
  have hwords := flatten_words name.toList
  rw [hchars, spellable, ← hwords, snakeChars]
  match hw : words name.toList with
  | [] => simpa using hbegins
  | w :: ws =>
    have hne : w ≠ [] := ne_nil_of_mem_words (hw ▸ List.mem_cons_self)
    obtain ⟨c, cs, rfl⟩ := List.exists_cons_of_ne_nil hne
    obtain ⟨part, hpart, hfirst, -, hword⟩ := lowerWord_cons c cs
    rw [List.map_cons, intercalate_cons, hword, List.append_assoc, List.append_assoc,
      begins_append hpart, hfirst, continues_append, continues_lowerWord, continues_append,
      continues_lowerWords, hcontinues, Bool.and_true]
    simp only [List.flatten_cons, List.cons_append, List.all_append]

end ServiceCli.Text
