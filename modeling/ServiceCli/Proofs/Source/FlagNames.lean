import ServiceCli.Proofs.Source.Identifiers

/-!
Names of the functions of sets of flags. A set goes by its short name unless another one shares it,
and then by its full name. No two sets may go by one name, and the first one that goes by the name
of an earlier one is reported together with it.
-/
namespace ServiceCli.Source

variable {sets : NameMap FlagSchema}

/-- A set of flags has a function of this name by the rule, whether or not others have it too. -/
def GoesBy (sets : NameMap FlagSchema) (fullName function : String) : Prop :=
  ∃ s, sets.get? fullName = some s ∧
    ((¬Shared sets fullName s ∧ function = Text.snake s.name ++ "_flags") ∨
      (Shared sets fullName s ∧ function = Text.snake fullName ++ "_flags"))

/-- Two sets of flags go by one name. -/
def SharesFunction (sets : NameMap FlagSchema) : Prop :=
  ∃ first second function, first ≠ second ∧
    GoesBy sets first function ∧ GoesBy sets second function

/-- `later` is the first set of flags, in the order of full names, that goes by the name of an
earlier one. -/
structure FirstClash (sets : NameMap FlagSchema) (earlier later function : String) : Prop where
  lt : earlier < later
  earlier_goesBy : GoesBy sets earlier function
  later_goesBy : GoesBy sets later function
  distinct_before : ∀ first second name, first < second → second < later →
    GoesBy sets first name → ¬GoesBy sets second name

theorem goesBy_iff {fullName function : String} :
    GoesBy sets fullName function ↔ (fullName, function) ∈ flagsFunctionNames sets := by
  simp only [flagsFunctionNames, List.mem_map, Prod.exists, Prod.mk.injEq, GoesBy,
    ← NameMap.get?_eq_some_iff]
  constructor
  · rintro ⟨s, hs, hrule⟩
    exact ⟨fullName, s, hs, rfl, (flagsStem_eq_iff hs).2 hrule⟩
  · rintro ⟨fullName, s, hs, rfl, hstem⟩
    exact ⟨s, hs, (flagsStem_eq_iff hs).1 hstem⟩

theorem map_fst_flagsFunctionNames (sets : NameMap FlagSchema) :
    (flagsFunctionNames sets).map (·.1) = sets.keys := by
  rw [flagsFunctionNames, List.map_map, NameMap.keys]
  rfl

theorem ascending_flagsFunctionNames (sets : NameMap FlagSchema) :
    (flagsFunctionNames sets).Pairwise (·.1 < ·.1) := by
  rw [flagsFunctionNames, List.pairwise_map]
  exact sets.ascending

theorem lookup_flagsFunctionNames {fullName function : String} :
    (flagsFunctionNames sets).lookup fullName = some function ↔ GoesBy sets fullName function := by
  rw [goesBy_iff]
  exact NameMap.get?_eq_some_iff (m := ⟨flagsFunctionNames sets, ascending_flagsFunctionNames sets⟩)

/-- Of two sets that go by one name, one goes by its full name, for sets that go by their short
names do not share them. -/
theorem sharesFunction_iff : SharesFunction sets ↔ ∃ first second s t,
    first ≠ second ∧ sets.get? first = some s ∧ sets.get? second = some t ∧ Shared sets first s ∧
      ((Shared sets second t ∧ Text.snake first = Text.snake second) ∨
        (¬Shared sets second t ∧ Text.snake first = Text.snake t.name)) := by
  have hinj {a b : String} : a ++ "_flags" = b ++ "_flags" ↔ a = b := String.append_left_inj _
  constructor
  · rintro ⟨first, second, function, hne, ⟨s, hs, hfirst⟩, t, ht, hsecond⟩
    rcases hfirst with ⟨hnot, rfl⟩ | ⟨hshared, rfl⟩ <;>
      rcases hsecond with ⟨hnot', heq⟩ | ⟨hshared', heq⟩ <;> rw [hinj] at heq
    · exact absurd ⟨second, t, hne.symm, ht, heq.symm⟩ hnot
    · exact ⟨second, first, t, s, hne.symm, ht, hs, hshared', .inr ⟨hnot, heq.symm⟩⟩
    · exact ⟨first, second, s, t, hne, hs, ht, hshared, .inr ⟨hnot', heq⟩⟩
    · exact ⟨first, second, s, t, hne, hs, ht, hshared, .inl ⟨hshared', heq⟩⟩
  · rintro ⟨first, second, s, t, hne, hs, ht, hshared, ⟨hshared', heq⟩ | ⟨hnot, heq⟩⟩
    · exact ⟨first, second, _, hne, ⟨s, hs, .inr ⟨hshared, rfl⟩⟩,
        t, ht, .inr ⟨hshared', by rw [heq]⟩⟩
    · exact ⟨first, second, _, hne, ⟨s, hs, .inr ⟨hshared, rfl⟩⟩, t, ht, .inl ⟨hnot, by rw [heq]⟩⟩

/-- The check stops at the first entry whose function an earlier entry has. -/
theorem checkDistinct_eq_error {before rest : List (String × String)} {e : SourceFault} :
    checkDistinct before rest = .error e ↔ ∃ passed fullName function after other,
      rest = passed ++ (fullName, function) :: after ∧ checkDistinct before passed = .ok () ∧
      (passed.reverse ++ before).find? (·.2 == function) = some other ∧
      e = .sharedFunction other.1 fullName function := by
  induction rest generalizing before with
  | nil => simp [checkDistinct]
  | cons entry rest ih =>
    obtain ⟨fullName, function⟩ := entry
    rw [checkDistinct]
    cases hfind : before.find? (·.2 == function) with
    | some other =>
      constructor
      · intro h
        exact ⟨[], fullName, function, rest, other, rfl, rfl, hfind, (Except.error.inj h).symm⟩
      · rintro ⟨passed, fullName', function', after, other', heq, hpassed, hother, rfl⟩
        rcases List.cons_eq_append_iff.1 heq with ⟨rfl, heq⟩ | ⟨passed, rfl, rfl⟩
        · obtain ⟨heq, rfl⟩ := List.cons.inj heq
          cases heq
          rw [List.reverse_nil, List.nil_append, hfind] at hother
          rw [Option.some.inj hother]
        · rw [checkDistinct, hfind] at hpassed
          cases hpassed
    | none =>
      dsimp only
      rw [ih]
      constructor
      · rintro ⟨passed, fullName', function', after, other, rfl, hpassed, hother, rfl⟩
        refine ⟨(fullName, function) :: passed, fullName', function', after, other, rfl, ?_, ?_,
          rfl⟩
        · rw [checkDistinct, hfind]
          exact hpassed
        · simpa using hother
      · rintro ⟨passed, fullName', function', after, other, heq, hpassed, hother, rfl⟩
        rcases List.cons_eq_append_iff.1 heq with ⟨rfl, heq⟩ | ⟨passed, rfl, rfl⟩
        · obtain ⟨heq, rfl⟩ := List.cons.inj heq
          cases heq
          rw [List.reverse_nil, List.nil_append, hfind] at hother
          cases hother
        · rw [checkDistinct, hfind] at hpassed
          refine ⟨passed, fullName', function', after, other, rfl, hpassed, ?_, rfl⟩
          simpa using hother

theorem checkDistinct_nil_iff {entries : List (String × String)} :
    checkDistinct [] entries = .ok () ↔ (entries.map (·.2)).Nodup :=
  ⟨fun h => (checkDistinct_ok h).1, fun h => checkDistinct_of_nodup h (by simp)⟩

theorem find?_function_eq_some_iff {entries : List (String × String)}
    (h : (entries.map (·.2)).Nodup) {function : String} {other : String × String} :
    entries.reverse.find? (·.2 == function) = some other ↔
      other ∈ entries ∧ other.2 = function := by
  constructor
  · intro hfind
    exact ⟨List.mem_reverse.1 (List.mem_of_find?_eq_some hfind),
      by simpa using List.find?_some hfind⟩
  · rintro ⟨hmem, rfl⟩
    cases hfind : entries.reverse.find? (·.2 == other.2) with
    | none => simpa using List.find?_eq_none.1 hfind other (List.mem_reverse.2 hmem)
    | some found =>
      have hfound := List.mem_reverse.1 (List.mem_of_find?_eq_some hfind)
      have heq : found.2 = other.2 := by simpa using List.find?_some hfind
      rw [List.inj_on_of_nodup_map h hfound hmem heq]

/-- In ascending order, what stands before an entry is what has a smaller name. -/
theorem mem_before_iff {before after : List (String × String)} {entry x : String × String}
    (h : (before ++ entry :: after).Pairwise (·.1 < ·.1)) :
    x ∈ before ↔ x ∈ before ++ entry :: after ∧ x.1 < entry.1 := by
  obtain ⟨-, hafter, hbefore⟩ := List.pairwise_append.1 h
  constructor
  · exact fun hx => ⟨List.mem_append_left _ hx, hbefore x hx entry List.mem_cons_self⟩
  · rintro ⟨hx, hlt⟩
    rcases List.mem_append.1 hx with hx | hx
    · exact hx
    rcases List.mem_cons.1 hx with rfl | hx
    · exact absurd hlt (String.lt_irrefl _)
    · exact absurd (String.lt_trans hlt ((List.pairwise_cons.1 hafter).1 x hx))
        (String.lt_irrefl _)

/-- Entries in ascending order have different functions if no entry has that of a smaller one. -/
theorem nodup_functions_iff {entries : List (String × String)}
    (h : entries.Pairwise (·.1 < ·.1)) : (entries.map (·.2)).Nodup ↔
      ∀ x ∈ entries, ∀ y ∈ entries, x.1 < y.1 → x.2 ≠ y.2 := by
  constructor
  · intro hnodup x hx y hy hlt heq
    rw [List.inj_on_of_nodup_map hnodup hx hy heq] at hlt
    exact String.lt_irrefl _ hlt
  · intro hne
    rw [List.Nodup, List.pairwise_map]
    exact h.imp_of_mem fun hx hy hlt => hne _ hx _ hy hlt

theorem nodup_flagsNames_iff : (flagsNames sets).Nodup ↔ ¬SharesFunction sets := by
  rw [flagsNames, nodup_functions_iff (ascending_flagsFunctionNames sets)]
  constructor
  · rintro h ⟨first, second, function, hne, hfirst, hsecond⟩
    rw [goesBy_iff] at hfirst hsecond
    by_cases hlt : first < second
    · exact h _ hfirst _ hsecond hlt rfl
    · have hgt : second < first := String.not_le.1 fun hle =>
        hne (String.le_antisymm hle (String.not_lt.1 hlt))
      exact h _ hsecond _ hfirst hgt rfl
  · rintro h ⟨first, function⟩ hx ⟨second, function'⟩ hy hlt rfl
    refine h ⟨first, second, function, ?_, goesBy_iff.2 hx, goesBy_iff.2 hy⟩
    rintro rfl
    exact String.lt_irrefl first hlt

theorem flagsFunctions_eq_error {e : SourceFault} : flagsFunctions sets = .error e ↔
    ∃ earlier later function, FirstClash sets earlier later function ∧
      e = .sharedFunction earlier later function := by
  have hcheck : flagsFunctions sets = .error e ↔
      checkDistinct [] (flagsFunctionNames sets) = .error e := by
    have hok : ∀ names : List (String × String),
        (pure names : Except SourceFault (List (String × String))) ≠ .error e := nofun
    rw [flagsFunctions, bind_eq_error]
    simp [hok]
  have hascending := ascending_flagsFunctionNames sets
  rw [hcheck, checkDistinct_eq_error]
  simp only [List.append_nil, checkDistinct_nil_iff]
  constructor
  · rintro ⟨passed, later, function, after, other, hnames, hpassed, hother, rfl⟩
    rw [find?_function_eq_some_iff hpassed] at hother
    obtain ⟨hmem, rfl⟩ := hother
    rw [hnames] at hascending
    have hbefore {x : String × String} := mem_before_iff (x := x) hascending
    have hother := hbefore.1 hmem
    rw [nodup_functions_iff (List.pairwise_append.1 hascending).1] at hpassed
    refine ⟨other.1, later, other.2, ⟨hother.2, ?_, ?_, ?_⟩, rfl⟩
    · exact goesBy_iff.2 (hnames ▸ hother.1)
    · exact goesBy_iff.2 (by simp [hnames])
    · intro first second name hlt hlater hfirst hsecond
      rw [goesBy_iff, hnames] at hfirst hsecond
      exact hpassed _ (hbefore.2 ⟨hfirst, String.lt_trans hlt hlater⟩) _
        (hbefore.2 ⟨hsecond, hlater⟩) hlt rfl
  · rintro ⟨earlier, later, function, hclash, rfl⟩
    obtain ⟨passed, after, hnames⟩ := List.append_of_mem (goesBy_iff.1 hclash.later_goesBy)
    rw [hnames] at hascending
    have hbefore {x : String × String} := mem_before_iff (x := x) hascending
    have hpassed : (passed.map (·.2)).Nodup := by
      rw [nodup_functions_iff (List.pairwise_append.1 hascending).1]
      rintro ⟨first, name⟩ hx ⟨second, name'⟩ hy hlt rfl
      have hgoes : ∀ x ∈ passed, GoesBy sets x.1 x.2 := fun x hx =>
        goesBy_iff.2 (hnames ▸ (hbefore.1 hx).1)
      exact hclash.distinct_before first second name hlt (hbefore.1 hy).2 (hgoes _ hx) (hgoes _ hy)
    have hearlier : (earlier, function) ∈ passed :=
      hbefore.2 ⟨hnames ▸ goesBy_iff.1 hclash.earlier_goesBy, hclash.lt⟩
    exact ⟨passed, later, function, after, (earlier, function), hnames, hpassed,
      (find?_function_eq_some_iff hpassed).2 ⟨hearlier, rfl⟩, rfl⟩

/-- Every set of flags gets the name that it goes by, unless two go by one name. Then the full name
of one of them reads like the full name of the other or like its short name, and the first set in
the order of full names that goes by the name of an earlier one is reported with that one. -/
theorem flagsFunctions_names (sets : NameMap FlagSchema) :
    (∀ functions, flagsFunctions sets = .ok functions →
      functions.map (·.1) = sets.keys ∧ (functions.map (·.2)).Nodup ∧
      ∀ fullName function, functions.lookup fullName = some function ↔
        GoesBy sets fullName function) ∧
    ((∃ e, flagsFunctions sets = .error e) ↔ SharesFunction sets) ∧
    ((∃ e, flagsFunctions sets = .error e) ↔ ∃ first second s t, first ≠ second ∧
      sets.get? first = some s ∧ sets.get? second = some t ∧ Shared sets first s ∧
        ((Shared sets second t ∧ Text.snake first = Text.snake second) ∨
          (¬Shared sets second t ∧ Text.snake first = Text.snake t.name))) ∧
    ∀ e, flagsFunctions sets = .error e ↔ ∃ earlier later function,
      FirstClash sets earlier later function ∧ e = .sharedFunction earlier later function := by
  have hfails : (∃ e, flagsFunctions sets = .error e) ↔ ¬(flagsNames sets).Nodup := by
    constructor
    · rintro ⟨e, he⟩ hnodup
      rw [flagsFunctions_of_nodup hnodup] at he
      cases he
    · intro hnodup
      cases hfunctions : flagsFunctions sets with
      | error e => exact ⟨e, rfl⟩
      | ok functions =>
        obtain ⟨rfl, h⟩ := flagsFunctions_ok hfunctions
        exact absurd h hnodup
  rw [hfails, ← sharesFunction_iff, nodup_flagsNames_iff, not_not]
  refine ⟨fun functions h => ?_, Iff.rfl, Iff.rfl, fun e => flagsFunctions_eq_error⟩
  obtain ⟨rfl, hnodup⟩ := flagsFunctions_ok h
  exact ⟨map_fst_flagsFunctionNames sets, hnodup, fun _ _ => lookup_flagsFunctionNames⟩

/-- The full name of one set can read like the short name of another. -/
example :
    let set (name fullName : String) : String × FlagSchema := (fullName, ⟨name, fullName, .empty⟩)
    flagsFunctions (.ofList [set "Q" "c.Q", set "A_Q" "b.A_Q", set "Q" "a.Q"]) =
      .error (.sharedFunction "a.Q" "b.A_Q" "a_q_flags") := by
  decide +kernel

end ServiceCli.Source
