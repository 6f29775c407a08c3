import ServiceCli.CommandTree
import ServiceCli.Proofs.Text.Spelling
import ServiceCli.ResourceVerb

/-!
Names in ASCII. Words, cases and singulars of such names are in ASCII again, so that a name in snake
case can only fail to begin an identifier by beginning with a digit.
-/
namespace ServiceCli

namespace Text

/-- All characters are in ASCII. -/
def Ascii (cs : List Char) : Prop := ∀ c ∈ cs, c.toNat < 128

-- Quantifying over a list is not to be decided by going through all characters that there are.
instance (cs : List Char) : Decidable (Ascii cs) :=
  List.decidableBAll (fun c : Char => c.toNat < 128) cs

theorem ascii_append {cs ds : List Char} : Ascii (cs ++ ds) ↔ Ascii cs ∧ Ascii ds :=
  List.forall_mem_append

theorem ascii_flatten {css : List (List Char)} : Ascii css.flatten ↔ ∀ cs ∈ css, Ascii cs := by
  simp only [Ascii, List.mem_flatten]
  grind

/-- Where only the first run is about ASCII, it alone maps characters in ASCII. -/
theorem mapCase_of_ascii {expansions : List (Nat × List Nat)} {runs : List CaseRun} {c : Char}
    (hc : c.toNat < 128) (hexpansions : ∀ e ∈ expansions, 128 ≤ e.1)
    (hruns : ∀ r ∈ runs.tail, 128 ≤ r.first) :
    mapCase expansions runs c = mapCase [] (runs.take 1) c := by
  have hlookup : expansions.lookup c.toNat = none := by
    refine List.lookup_eq_none_iff.2 fun e he => ?_
    have hlt : c.toNat < e.1 := Nat.lt_of_lt_of_le hc (hexpansions e he)
    simpa using Nat.ne_of_lt hlt
  have hrest : runs.tail.findSome? (·.map? c.toNat) = none := by
    refine List.findSome?_eq_none_iff.2 fun r hr => ?_
    have hlt : c.toNat < r.first := Nat.lt_of_lt_of_le hc (hruns r hr)
    rw [CaseRun.map?, if_neg fun hin => absurd hin.1 (Nat.not_le.2 hlt)]
  rw [mapCase, mapCase, hlookup]
  cases runs with
  | nil => rfl
  | cons run runs =>
    rw [List.tail_cons] at hrest
    cases hrun : run.map? c.toNat <;> simp [hrun, hrest]

/-- How a character is mapped to lower and upper case, and what it is mapped to. -/
structure Simple (c : Char) : Prop where
  lowerChar_eq : lowerChar c = [c.toLower]
  upperChar_eq : upperChar c = [c.toUpper]
  toLower_lt : c.toLower.toNat < 128
  toUpper_lt : c.toUpper.toNat < 128
  isAlphanum_toUpper : c.toUpper.isAlphanum = c.isAlphanum
  isAlpha_toUpper : c.toUpper.isAlpha = c.isAlpha
  isAlphanumeric_eq : isAlphanumeric c = c.isAlphanum
  continues_toLower : c.isAlphanum = true → continues [c.toLower] = true
  begins_toLower : c.isAlpha = true → begins [c.toLower] = true

theorem ascii_table : ∀ n < 128, let c := Char.ofNat n
    mapCase [] (lowerRuns.take 1) c = [c.toLower] ∧ mapCase [] (upperRuns.take 1) c = [c.toUpper] ∧
    c.toLower.toNat < 128 ∧ c.toUpper.toNat < 128 ∧ c.toUpper.isAlphanum = c.isAlphanum ∧
    c.toUpper.isAlpha = c.isAlpha ∧ isAlphanumeric c = c.isAlphanum ∧
    (c.isAlphanum = true → continues [c.toLower] = true) ∧
    (c.isAlpha = true → begins [c.toLower] = true) := by
  decide +kernel

theorem simple_of_ascii {c : Char} (h : c.toNat < 128) : Simple c := by
  have hbounds : ((∀ e ∈ lowerExpansions, 128 ≤ e.1) ∧ ∀ r ∈ lowerRuns.tail, 128 ≤ r.first) ∧
      (∀ e ∈ upperExpansions, 128 ≤ e.1) ∧ ∀ r ∈ upperRuns.tail, 128 ≤ r.first := by
    decide +kernel
  have hlower := mapCase_of_ascii h hbounds.1.1 hbounds.1.2
  have hupper := mapCase_of_ascii h hbounds.2.1 hbounds.2.2
  have htable := ascii_table c.toNat h
  simp only [Char.ofNat_toNat] at htable
  obtain ⟨hlower', hupper', hrest⟩ := htable
  obtain ⟨hlowerLt, hupperLt, halphanum, halpha, halphanumeric, hcontinues, hbegins⟩ := hrest
  exact ⟨hlower.trans hlower', hupper.trans hupper', hlowerLt, hupperLt, halphanum, halpha,
    halphanumeric, hcontinues, hbegins⟩

theorem lt_of_isAlphanum {c : Char} (h : c.isAlphanum = true) : c.toNat < 128 := by
  have hle : c.val ≤ 'z'.val := by
    rcases Bool.or_eq_true_iff.1 h with halpha | hdigit
    · rcases Bool.or_eq_true_iff.1 halpha with hupper | hlower
      · have hle : c.val ≤ 'Z'.val := (of_decide_eq_true hupper).2
        exact UInt32.le_trans hle (by decide)
      · exact of_decide_eq_true (Bool.and_eq_true_iff.1 hlower).2
    · have hle : c.val ≤ '9'.val := of_decide_eq_true (Bool.and_eq_true_iff.1 hdigit).2
      exact UInt32.le_trans hle (by decide)
  exact Nat.lt_of_le_of_lt (UInt32.le_iff_toNat_le.1 hle) (by decide)

theorem lowerFrom_of_ascii (before : List Char) {cs : List Char} (h : Ascii cs) :
    lowerFrom before cs = cs.map Char.toLower := by
  induction cs generalizing before with
  | nil => rfl
  | cons c cs ih =>
    obtain ⟨hc, hcs⟩ := List.forall_mem_cons.1 h
    have hsigma : c ≠ 'Σ' := by
      rintro rfl
      revert hc
      decide
    rw [lowerFrom, if_neg hsigma, (simple_of_ascii hc).lowerChar_eq, ih (c :: before) hcs]
    rfl

theorem lowerWord_of_ascii {w : List Char} (h : Ascii w) : lowerWord w = w.map Char.toLower := by
  induction w using lowerWord.induct with
  | case1 => rfl
  | case2 => exact absurd (h 'Σ' (by simp)) (by decide)
  | case3 c hc =>
    rw [lowerWord, if_neg hc, (simple_of_ascii (h c (by simp))).lowerChar_eq]
    rfl
  | case4 c cs hcs ih =>
    obtain ⟨hc, hcs'⟩ := List.forall_mem_cons.1 h
    rw [lowerWord, (simple_of_ascii hc).lowerChar_eq, ih hcs']
    · rfl
    · exact hcs

theorem ascii_map_toLower {cs : List Char} (h : Ascii cs) : Ascii (cs.map Char.toLower) :=
  List.forall_mem_map.2 fun c hc => (simple_of_ascii (h c hc)).toLower_lt

theorem ascii_lower {s : String} (h : Ascii s.toList) : Ascii (lower s).toList := by
  rw [lower, String.toList_ofList, lowerFrom_of_ascii [] h]
  exact ascii_map_toLower h

theorem ascii_lowerWord {w : List Char} (h : Ascii w) : Ascii (lowerWord w) := by
  rw [lowerWord_of_ascii h]
  exact ascii_map_toLower h

theorem ascii_of_mem_words {name w : List Char} (h : Ascii name) (hw : w ∈ words name) :
    Ascii w := by
  have hflat : Ascii (words name).flatten := by
    rw [flatten_words]
    exact fun c hc => h c (List.mem_filter.1 hc).1
  exact ascii_flatten.1 hflat w hw

theorem ascii_intercalate {s : List Char} {css : List (List Char)} (hs : Ascii s)
    (h : ∀ cs ∈ css, Ascii cs) : Ascii (s.intercalate css) := by
  cases css with
  | nil => simp [Ascii, List.intercalate]
  | cons cs css =>
    obtain ⟨hcs, hcss⟩ := List.forall_mem_cons.1 h
    rw [intercalate_cons, ascii_append, List.flatMap_def, ascii_flatten]
    refine ⟨hcs, fun ds hds => ?_⟩
    obtain ⟨es, hes, rfl⟩ := List.mem_map.1 hds
    exact ascii_append.2 ⟨hs, hcss es hes⟩

theorem ascii_snake {name : String} (h : Ascii name.toList) : Ascii (snake name).toList := by
  rw [snake, String.toList_ofList, snakeChars]
  refine ascii_intercalate (by decide) fun w hw => ?_
  obtain ⟨v, hv, rfl⟩ := List.mem_map.1 hw
  exact ascii_lowerWord (ascii_of_mem_words h hv)

theorem ascii_of_mem_pieces {p : Char → Bool} {cs piece : List Char} (h : Ascii cs)
    (hpiece : piece ∈ pieces p cs) : Ascii piece := by
  have hflat : Ascii (pieces p cs).flatten := by
    rw [flatten_pieces]
    exact fun c hc => h c (List.mem_filter.1 hc).1
  exact ascii_flatten.1 hflat piece hpiece

namespace Singular

/-- A rule makes nothing but ASCII of ASCII. -/
def Keeps (r : Rule) : Prop := ∀ word out, Ascii word → r word = some out → Ascii out

theorem keeps_knownStem {stems endings : List String} {tail : String}
    (hstems : ∀ stem ∈ stems, Ascii stem.toList) (htail : Ascii tail.toList) :
    Keeps (knownStem stems endings tail) := by
  intro word out _ h
  obtain ⟨stem, hstem, h⟩ := List.exists_of_findSome?_eq_some h
  obtain ⟨ending, -, h⟩ := List.exists_of_findSome?_eq_some h
  obtain ⟨_, -, rfl⟩ := Option.map_eq_some_iff.1 h
  exact ascii_append.2 ⟨hstems stem hstem, htail⟩

theorem keeps_wholeWord {stem : String} {endings : List String} {tail : String}
    (hstem : Ascii stem.toList) (htail : Ascii tail.toList) :
    Keeps (wholeWord stem endings tail) := by
  intro word out _ h
  obtain ⟨ending, -, h⟩ := List.exists_of_findSome?_eq_some h
  split at h
  · exact Option.some.inj h ▸ ascii_append.2 ⟨hstem, htail⟩
  · cases h

theorem keeps_startsWith {start stem : String} (hstem : Ascii stem.toList) :
    Keeps (startsWith start stem) := by
  intro word out _ h
  unfold startsWith at h
  split at h
  · exact Option.some.inj h ▸ hstem
  · cases h

theorem ascii_of_before {ending word stem : List Char} (hword : Ascii word)
    (h : before? ending word = some stem) : Ascii stem := by
  unfold before? at h
  split at h
  · exact Option.some.inj h ▸ fun c hc => hword c (List.mem_of_mem_take hc)
  · cases h

theorem ascii_trailingRun {word : List Char} (h : Ascii word) : Ascii (trailingRun word) := by
  intro c hc
  have hrun := List.takeWhile_subset _ (List.mem_reverse.1 hc)
  exact h c (List.mem_reverse.1 hrun)

theorem keeps_anyStem {endings : List String} {tail : String} (htail : Ascii tail.toList) :
    Keeps (anyStem endings tail) := by
  intro word out hword h
  obtain ⟨ending, -, h⟩ := List.exists_of_findSome?_eq_some h
  obtain ⟨stem, hstem, rfl⟩ := Option.map_eq_some_iff.1 h
  exact ascii_append.2 ⟨ascii_trailingRun (ascii_of_before hword hstem), htail⟩

theorem keeps_charBefore {p : Char → Bool} {ending : String} {keep : Bool} {tail : String}
    (htail : Ascii tail.toList) : Keeps (charBefore p ending keep tail) := by
  intro word out hword h
  unfold charBefore at h
  split at h
  · rename_i c stem hbefore
    obtain ⟨before, hword', heq⟩ := Option.map_eq_some_iff.1 hbefore
    have hreversed : Ascii (c :: stem) :=
      fun d hd => ascii_of_before hword hword' d (List.mem_reverse.1 (heq ▸ hd))
    obtain ⟨hc, hstem⟩ := List.forall_mem_cons.1 hreversed
    split at h
    · obtain rfl := Option.some.inj h
      refine ascii_append.2 ⟨ascii_append.2 ⟨ascii_trailingRun ?_, ?_⟩, htail⟩
      · exact fun d hd => hstem d (List.mem_reverse.1 hd)
      · split
        · simpa [Ascii] using hc
        · simp [Ascii]
    · cases h
  · cases h

theorem keeps_quies : Keeps quies := by
  intro word out hword h
  obtain ⟨stem, hstem, rfl⟩ := Option.map_eq_some_iff.1 h
  exact ascii_append.2 ⟨ascii_trailingRun (ascii_of_before hword hstem), by decide⟩

theorem keeps_rules : ∀ r ∈ rules, Keeps r := by
  simp only [rules, List.forall_mem_cons]
  and_intros <;> first
    | exact keeps_knownStem (by decide) (by decide)
    | exact keeps_anyStem (by decide)
    | exact keeps_charBefore (by decide)
    | exact keeps_wholeWord (by decide) (by decide)
    | exact keeps_startsWith (by decide)
    | exact keeps_quies
    | simp

end Singular

theorem ascii_singular {word : String} (h : Ascii word.toList) : Ascii (singular word).toList := by
  unfold singular
  split
  · exact h
  · split
    · rename_i s hs
      obtain ⟨before, after, heq, -⟩ := List.lookup_eq_some_iff.1 hs
      have hirregular : ∀ e ∈ Singular.irregular, Ascii e.2.toList := by decide
      exact hirregular (word, s) (by simp [heq])
    · cases hrule : Singular.rules.findSome? (· word.toList) with
      | none => simpa using h
      | some out =>
        obtain ⟨r, hr, hout⟩ := List.exists_of_findSome?_eq_some hrule
        simpa using Singular.keeps_rules r hr word.toList out h hout

/-- The first letter or digit of a name is a letter. -/
def LeadsWithLetter (name : String) : Prop :=
  ∃ c, name.toList.find? Char.isAlphanum = some c ∧ c.isAlpha = true

instance (name : String) : Decidable (LeadsWithLetter name) :=
  decidable_of_iff ((name.toList.find? Char.isAlphanum).any Char.isAlpha = true)
    (by rw [Option.any_eq_true, LeadsWithLetter])

theorem spellable_of_leadsWithLetter {name : String} (h : Ascii name.toList)
    (hletter : LeadsWithLetter name) : spellable name = true := by
  obtain ⟨c, hfind, hc⟩ := hletter
  have hfilter : name.toList.filter isAlphanumeric = name.toList.filter Char.isAlphanum :=
    List.filter_congr fun d hd => (simple_of_ascii (h d hd)).isAlphanumeric_eq
  have hhead : (name.toList.filter Char.isAlphanum).head? = some c := by
    rw [List.head?_filter, hfind]
  obtain ⟨cs, hcs⟩ := List.head?_eq_some_iff.1 hhead
  have hmem : ∀ d ∈ c :: cs, d ∈ name.toList ∧ d.isAlphanum = true :=
    fun d hd => List.mem_filter.1 (hcs ▸ hd)
  have hsimple : ∀ d ∈ c :: cs, Simple d := fun d hd => simple_of_ascii (h d (hmem d hd).1)
  rw [spellable, hfilter, hcs]
  simp only [Bool.and_eq_true, List.all_eq_true]
  constructor
  · have hfirst := hsimple c List.mem_cons_self
    rw [hfirst.lowerChar_eq]
    exact hfirst.begins_toLower hc
  · intro d hd
    have hd := List.mem_cons_of_mem c hd
    rw [(hsimple d hd).lowerChar_eq]
    exact (hsimple d hd).continues_toLower (hmem d hd).2

end Text

open Text (Ascii LeadsWithLetter)

namespace CommandTree

theorem ascii_pascalCase {parts : List String} (h : ∀ p ∈ parts, Ascii p.toList) :
    Ascii (pascalCase parts).toList := by
  rw [pascalCase, String.toList_ofList, List.flatMap_def, Text.ascii_flatten]
  intro cs hcs
  obtain ⟨part, hpart, rfl⟩ := List.mem_map.1 hcs
  have hascii := h part hpart
  cases hchars : part.toList with
  | nil => exact fun _ hc => absurd hc List.not_mem_nil
  | cons c cs =>
    rw [hchars] at hascii
    obtain ⟨hc, hcs⟩ := List.forall_mem_cons.1 hascii
    have hsimple := Text.simple_of_ascii hc
    simp only [hsimple.upperChar_eq]
    exact List.forall_mem_cons.2 ⟨hsimple.toUpper_lt, hcs⟩

theorem leads_pascalCase {first : String} (rest : List String) (h : Ascii first.toList)
    (hletter : LeadsWithLetter first) : LeadsWithLetter (pascalCase (first :: rest)) := by
  obtain ⟨c, hfind, hc⟩ := hletter
  rw [LeadsWithLetter, pascalCase, String.toList_ofList, List.flatMap_cons]
  cases hchars : first.toList with
  | nil => simp [hchars] at hfind
  | cons d cs =>
    rw [hchars] at h hfind
    have hsimple := Text.simple_of_ascii (h d List.mem_cons_self)
    simp only [hsimple.upperChar_eq, List.cons_append, List.nil_append]
    rw [List.find?_cons] at hfind ⊢
    rw [hsimple.isAlphanum_toUpper]
    cases hfirst : d.isAlphanum with
    | true =>
      obtain rfl : d = c := by simpa [hfirst] using hfind
      exact ⟨d.toUpper, rfl, hsimple.isAlpha_toUpper.trans hc⟩
    | false =>
      refine ⟨c, ?_, hc⟩
      rw [hfirst] at hfind
      simp [List.find?_append, hfind]

end CommandTree

namespace ResourceVerb

theorem ascii_of_mem_nameWords {name word : String} (h : Ascii name.toList)
    (hword : word ∈ nameWords name) : Ascii word.toList := by
  obtain ⟨piece, hpiece, rfl⟩ := List.mem_map.1 hword
  rw [String.toList_ofList]
  exact Text.ascii_of_mem_pieces (Text.ascii_lower (Text.ascii_snake h)) hpiece

theorem ascii_ofWords {words : List String} (h : ∀ w ∈ words, Ascii w.toList) :
    Ascii (ofWords words).resource.toList ∧ Ascii (ofWords words).verb.toList := by
  unfold ofWords ofWordsBy
  split
  · exact ⟨Text.ascii_singular (h _ (by simp)), h _ (by simp)⟩
  · refine ⟨Text.ascii_singular (h _ (by simp)), ?_⟩
    dsimp only
    split
    · decide
    · exact h _ (by simp)
  · decide

/-- A name and overrides in ASCII give a resource and a verb in ASCII. -/
theorem ascii_resolve {ε : Type} {name : String} {o : Overrides} {resource verb : String}
    (hname : Ascii name.toList) (hresource : ∀ s ∈ o.resource, Ascii s.toList)
    (hverb : ∀ s ∈ o.verb, Ascii s.toList)
    (h : resolve (ε := ε) name o.annotations = .ok (some ⟨resource, verb⟩)) :
    Ascii resource.toList ∧ Ascii verb.toList := by
  have hwords := ascii_ofWords fun w hw => ascii_of_mem_nameWords hname hw
  have hgiven : ∀ {o : Option String} {default : String}, (∀ s ∈ o, Ascii s.toList) →
      Ascii default.toList → Ascii (o.getD default).toList := by
    intro o default ho hdefault
    cases o with
    | none => exact hdefault
    | some s => exact ho s rfl
  have hresolved := Except.ok.inj h
  split at hresolved
  · cases hresolved
  · cases hresolved
    exact ⟨hgiven hresource hwords.1, hgiven hverb hwords.2⟩

end ResourceVerb

end ServiceCli
