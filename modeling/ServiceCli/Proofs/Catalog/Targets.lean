import ServiceCli.Proofs.Catalog.Closure

/-!
The target files of a catalog. They are taken from a pool one after the other with all that they
declare, the first target that cannot be had decides the failure, and nothing of the services of
other files is looked at.
-/
namespace ServiceCli

open Descriptor (Pool TypeTable MethodEntry ServiceEntry FileEntry OptionValue MessageEntry)

namespace Descriptor

def OptionValue.text? : OptionValue → Option String
  | .atom (.text s) => some s
  | .atom _ | .message .. | .list _ | .map _ => none

/-- Two pools have the same types and files of the same names. Of the files in `targets` all is the
same, of others the services, methods and options may be different. -/
structure Pool.AgreeOn (targets : List String) (p q : Pool) : Prop where
  types : p.types = q.types
  files : List.Forall₂ (fun f g => f.name = g.name ∧ (f.name ∈ targets → f = g)) p.files q.files

theorem Pool.file?_eq_none {p : Pool} {name : String} :
    p.file? name = none ↔ ∀ f ∈ p.files, f.name ≠ name := by
  simp [Pool.file?]

theorem Pool.file?_name {p : Pool} {name : String} {f : FileEntry} (h : p.file? name = some f) :
    f.name = name := by
  simpa using List.find?_some h

/-- Files that have a name among the targets are the same in both pools. -/
theorem Pool.AgreeOn.file? {targets : List String} {p q : Pool} (h : p.AgreeOn targets q)
    {name : String} (hname : name ∈ targets) : p.file? name = q.file? name := by
  have hfiles := h.files
  unfold Pool.file?
  generalize p.files = fs at hfiles
  generalize q.files = gs at hfiles
  induction hfiles with
  | nil => rfl
  | @cons f g fs gs hfg _ ih =>
    obtain ⟨heq, hsame⟩ := hfg
    by_cases hf : f.name = name
    · have hfg : f = g := hsame (hf ▸ hname)
      simp [← hfg, hf]
    · simpa [← heq, hf] using ih

end Descriptor

namespace Catalog

/-- An option that a method may set. -/
structure MethodOption where
  method : MethodEntry
  name : String

/-- The options of a file's methods in the order in which they are read: methods as they are
declared, and of each the resource before the verb. -/
def methodOptionsOf (f : FileEntry) : List MethodOption :=
  f.services.flatMap fun s => s.methods.flatMap fun m =>
    [⟨m, resourceExtension⟩, ⟨m, verbExtension⟩]

namespace MethodOption

/-- Its value, if it is declared and set. -/
def value? (types : TypeTable) (a : MethodOption) : Option OptionValue :=
  (types.extension? a.name).bind fun e => a.method.options.lookup e.field.number

def text? (types : TypeTable) (a : MethodOption) : Option String :=
  (a.value? types).bind OptionValue.text?

/-- It is set, and not to a text. -/
def IsMalformed (types : TypeTable) (a : MethodOption) : Prop :=
  ∃ v, a.value? types = some v ∧ v.text? = none

instance (types : TypeTable) (a : MethodOption) : Decidable (a.IsMalformed types) :=
  decidable_of_iff ((a.value? types).any (·.text?.isNone)) (by
    rw [IsMalformed]
    cases a.value? types <;> simp)

def read (types : TypeTable) (a : MethodOption) : Except Failure (Option String) :=
  optionText a.method (types.extension? a.name)

variable {types : TypeTable} {a : MethodOption}

theorem read_eq : a.read types =
    match a.value? types with
    | none => .ok none
    | some v =>
      match v.text? with
      | some s => .ok (some s)
      | none => .error (.malformedOption a.method.fullName a.name v.describe) := by
  unfold read value?
  cases hext : types.extension? a.name with
  | none => rfl
  | some ext =>
    have hname : ext.fullName = a.name := by simpa using List.find?_some hext
    simp only [optionText, Option.bind_some, hname]
    cases a.method.options.lookup ext.field.number with
    | none => rfl
    | some v =>
      cases v with
      | atom b => cases b <;> rfl
      | message | list | map => rfl

theorem read_eq_ok {text : Option String} :
    a.read types = .ok text ↔ ¬a.IsMalformed types ∧ text = a.text? types := by
  rw [read_eq, IsMalformed, text?]
  cases a.value? types with
  | none => simp [eq_comm]
  | some v => cases htext : v.text? <;> simp [htext, eq_comm]

theorem read_eq_error {e : Failure} : a.read types = .error e ↔ ∃ v, a.value? types = some v ∧
    v.text? = none ∧ e = .malformedOption a.method.fullName a.name v.describe := by
  rw [read_eq]
  cases a.value? types with
  | none => simp
  | some v => cases htext : v.text? <;> simp [htext, eq_comm]

end MethodOption

/-- A method as it is in a catalog, with those of its options that are texts. -/
def viewMethod (types : TypeTable) (m : MethodEntry) : Method :=
  ⟨m.name, m.fullName, m.input,
    ⟨MethodOption.text? types ⟨m, resourceExtension⟩, MethodOption.text? types ⟨m, verbExtension⟩⟩⟩

def viewService (types : TypeTable) (s : ServiceEntry) : Service :=
  ⟨s.name, s.fullName, s.methods.map (viewMethod types)⟩

def viewFile (types : TypeTable) (f : FileEntry) : ServiceFile :=
  ⟨f.name, f.services.map (viewService types)⟩

section Files

variable {types : TypeTable}

theorem methodOf_eq (m : MethodEntry) : methodOf types m = (do
    let resource ← MethodOption.read types ⟨m, resourceExtension⟩
    let verb ← MethodOption.read types ⟨m, verbExtension⟩
    return ⟨m.name, m.fullName, m.input, ⟨resource, verb⟩⟩) := rfl

theorem eq_viewMethod {m : MethodEntry} {method : Method} (h : methodOf types m = .ok method) :
    method = viewMethod types m := by
  obtain ⟨resource, hresource, h⟩ := bind_eq_ok.1 ((methodOf_eq m).symm.trans h)
  obtain ⟨verb, hverb, h⟩ := bind_eq_ok.1 h
  rw [viewMethod, ← (MethodOption.read_eq_ok.1 hresource).2, ← (MethodOption.read_eq_ok.1 hverb).2]
  exact (Except.ok.inj h).symm

theorem eq_viewService {s : ServiceEntry} {service : Service}
    (h : serviceOf types s = .ok service) : service = viewService types s := by
  obtain ⟨methods, hmethods, h⟩ := bind_eq_ok.1 h
  rw [viewService, ← eq_map_of_mapM (fun _ _ => eq_viewMethod) hmethods]
  exact (Except.ok.inj h).symm

theorem eq_viewFile {f : FileEntry} {file : ServiceFile} (h : fileOf types f = .ok file) :
    file = viewFile types f := by
  obtain ⟨services, hservices, h⟩ := bind_eq_ok.1 h
  rw [viewFile, ← eq_map_of_mapM (fun _ _ => eq_viewService) hservices]
  exact (Except.ok.inj h).symm

theorem verdict_methodOf (m : MethodEntry) : verdict (methodOf types m) =
    verdict (([⟨m, resourceExtension⟩, ⟨m, verbExtension⟩] : List MethodOption).mapM
      (MethodOption.read types)) := by
  simp only [methodOf_eq, List.mapM_cons, List.mapM_nil]
  cases MethodOption.read types ⟨m, resourceExtension⟩ with
  | error e => rfl
  | ok resource => cases MethodOption.read types ⟨m, verbExtension⟩ <;> rfl

theorem verdict_serviceOf (s : ServiceEntry) : verdict (serviceOf types s) =
    verdict ((s.methods.flatMap fun m => [⟨m, resourceExtension⟩, ⟨m, verbExtension⟩]).mapM
      (MethodOption.read types)) :=
  (verdict_bind_ok _ _).trans (verdict_mapM fun m _ => verdict_methodOf m)

/-- A file is had when each option of its methods can be read. -/
theorem verdict_fileOf (f : FileEntry) :
    verdict (fileOf types f) = verdict ((methodOptionsOf f).mapM (MethodOption.read types)) :=
  (verdict_bind_ok _ _).trans (verdict_mapM fun s _ => verdict_serviceOf s)

end Files

/-- A file of the pool has the name, and no option of its methods is malformed. -/
def Available (pool : Pool) (name : String) : Prop :=
  ∃ f, pool.file? name = some f ∧ ∀ a ∈ methodOptionsOf f, ¬a.IsMalformed pool.types

/-- Why a target cannot be had: there is no such file, or the first option of a method of it that is
malformed. -/
inductive Offends (pool : Pool) (name : String) : Failure → Prop where
  | missing : (∀ f ∈ pool.files, f.name ≠ name) → Offends pool name (.decode (.missingTarget name))
  | malformed {f : FileEntry} {before after : List MethodOption} {a : MethodOption}
      {v : OptionValue} :
      pool.file? name = some f → methodOptionsOf f = before ++ a :: after →
      (∀ b ∈ before, ¬b.IsMalformed pool.types) → a.value? pool.types = some v → v.text? = none →
      Offends pool name (.malformedOption a.method.fullName a.name v.describe)

variable {pool : Pool} {name : String}

/-- A file is had when no option of its methods is malformed. -/
theorem fileOf_eq_ok {types : TypeTable} {f : FileEntry} {file : ServiceFile} :
    fileOf types f = .ok file ↔
      (∀ a ∈ methodOptionsOf f, ¬a.IsMalformed types) ∧ file = viewFile types f := by
  have hread : (∃ texts, (methodOptionsOf f).mapM (MethodOption.read types) = .ok texts) ↔
      ∀ a ∈ methodOptionsOf f, ¬a.IsMalformed types := by
    constructor
    · rintro ⟨texts, htexts⟩ a ha
      obtain ⟨text, -, htext⟩ := exists_of_forall₂ (mapM_eq_ok.1 htexts) ha
      exact (MethodOption.read_eq_ok.1 htext).1
    · exact fun hall => exists_mapM_of_forall fun a ha =>
        ⟨_, MethodOption.read_eq_ok.2 ⟨hall a ha, rfl⟩⟩
  rw [← hread, ← verdict_eq_ok, ← verdict_fileOf, verdict_eq_ok]
  constructor
  · exact fun h => ⟨⟨file, h⟩, eq_viewFile h⟩
  · rintro ⟨⟨file', h⟩, rfl⟩
    rw [h, eq_viewFile h]

/-- The first malformed option in a file is reported. -/
theorem fileOf_eq_error {types : TypeTable} {f : FileEntry} {e : Failure} :
    fileOf types f = .error e ↔ ∃ before a after v, methodOptionsOf f = before ++ a :: after ∧
      (∀ b ∈ before, ¬b.IsMalformed types) ∧ a.value? types = some v ∧ v.text? = none ∧
      e = .malformedOption a.method.fullName a.name v.describe := by
  have hreadable (b : MethodOption) : (∃ text, b.read types = .ok text) ↔ ¬b.IsMalformed types := by
    simp [MethodOption.read_eq_ok]
  rw [← verdict_eq_error, verdict_fileOf, verdict_eq_error, mapM_eq_error]
  simp only [hreadable, MethodOption.read_eq_error]
  constructor
  · rintro ⟨before, a, after, hparts, hbefore, v, hv⟩
    exact ⟨before, a, after, v, hparts, hbefore, hv⟩
  · rintro ⟨before, a, after, v, hparts, hbefore, hv⟩
    exact ⟨before, a, after, hparts, hbefore, v, hv⟩

theorem targetOf_iff {file : ServiceFile} : targetOf pool name = .ok file ↔
    ∃ f, pool.file? name = some f ∧ (∀ a ∈ methodOptionsOf f, ¬a.IsMalformed pool.types) ∧
      file = viewFile pool.types f := by
  rw [targetOf]
  cases pool.file? name with
  | none => simp
  | some f => simp [fileOf_eq_ok]

theorem exists_targetOf_iff : (∃ file, targetOf pool name = .ok file) ↔ Available pool name := by
  simp only [targetOf_iff, Available]
  constructor
  · rintro ⟨_, f, hf, hall, -⟩
    exact ⟨f, hf, hall⟩
  · rintro ⟨f, hf, hall⟩
    exact ⟨_, f, hf, hall, rfl⟩

theorem targetOf_eq_error {e : Failure} :
    targetOf pool name = .error e ↔ Offends pool name e := by
  rw [targetOf]
  cases hfile : pool.file? name with
  | none =>
    have hnone := Pool.file?_eq_none.1 hfile
    constructor
    · intro h
      cases h
      exact .missing hnone
    · rintro (_ | ⟨hsome, -⟩)
      · rfl
      · cases hfile.symm.trans hsome
  | some f =>
    dsimp only
    rw [fileOf_eq_error]
    constructor
    · rintro ⟨before, a, after, v, hparts, hbefore, hvalue, htext, rfl⟩
      exact .malformed hfile hparts hbefore hvalue htext
    · rintro (hnone | ⟨hsome, hparts, hbefore, hvalue, htext⟩)
      · exact absurd (Pool.file?_name hfile) (hnone f (List.mem_of_find?_eq_some hfile))
      · obtain rfl := Option.some.inj (hfile.symm.trans hsome)
        exact ⟨_, _, _, _, hparts, hbefore, hvalue, htext, rfl⟩

/-- Nothing of the services of files that are no targets is looked at. -/
theorem ofPool_eq_of_agree {targets : List String} {p q : Pool} (h : p.AgreeOn targets q) :
    ofPool p targets = ofPool q targets := by
  have htargets : targets.mapM (targetOf p) = targets.mapM (targetOf q) :=
    mapM_congr fun name hname => by rw [targetOf, targetOf, h.file? hname, h.types]
  rw [ofPool, ofPool, htargets, h.types]

/-- Where the messages can be had, the rest is up to the targets. -/
theorem ofPool_of_messagesOf {ms : NameMap MessageType} (h : messagesOf pool.types = .ok ms)
    (targets : List String) : ofPool pool targets =
      (orStop (targets.mapM (targetOf pool))).map fun files => ⟨files, ms⟩ := by
  rw [ofPool, h]
  cases targets.mapM (targetOf pool) <;> rfl

theorem forall_available_iff {targets : List String} : (∀ t ∈ targets, Available pool t) ↔
    (∀ t ∈ targets, ∃ f ∈ pool.files, f.name = t) ∧
      ∀ t ∈ targets, ∀ f, pool.file? t = some f →
        ∀ a ∈ methodOptionsOf f, ¬a.IsMalformed pool.types := by
  constructor
  · intro h
    refine ⟨fun t ht => ?_, fun t ht f hf => ?_⟩
    · obtain ⟨f, hf, -⟩ := h t ht
      exact ⟨f, List.mem_of_find?_eq_some hf, Pool.file?_name hf⟩
    · obtain ⟨f', hf', hall⟩ := h t ht
      obtain rfl := Option.some.inj (hf.symm.trans hf')
      exact hall
  · rintro ⟨hfiles, hall⟩ t ht
    cases hfile : pool.file? t with
    | none =>
      obtain ⟨f, hf, hname⟩ := hfiles t ht
      exact absurd hname (Pool.file?_eq_none.1 hfile f hf)
    | some f => exact ⟨f, hfile, hall t ht f hfile⟩

/-- Where entries of maps have a key and a value, a catalog is had exactly when every target is a
file of the pool and no method of a target sets one of the two options to anything but a text.
Otherwise the first target for which this does not hold is reported, as missing or with the first
option of its methods that is malformed. The files of a catalog are the targets in their order, each
with all its services and methods in theirs; its messages are those of all files, whatever the
targets. Pools that agree on the targets give the same. -/
theorem ofPool_targets (pool : Pool) (targets : List String) (h : pool.EntriesComplete) :
    ((∃ c, ofPool pool targets = .ok c) ↔
      (∀ t ∈ targets, ∃ f ∈ pool.files, f.name = t) ∧
      ∀ t ∈ targets, ∀ f, pool.file? t = some f →
        ∀ a ∈ methodOptionsOf f, ¬a.IsMalformed pool.types) ∧
    (∀ stop, ofPool pool targets = .error stop ↔
      ∃ before t after e, targets = before ++ t :: after ∧ (∀ x ∈ before, Available pool x) ∧
        Offends pool t e ∧ stop = .failure e) ∧
    (∀ c, ofPool pool targets = .ok c →
      c.files.map (·.name) = targets ∧
      List.Forall₂ (fun t file => ∃ f, pool.file? t = some f ∧ file = viewFile pool.types f)
        targets c.files ∧
      messagesOf pool.types = .ok c.messages ∧
      ∀ m ∈ pool.types.messages, m.isMapEntry = false → c.messages.contains m.fullName) ∧
    ∀ q : Pool, pool.AgreeOn targets q → ofPool pool targets = ofPool q targets := by
  obtain ⟨ms, hms⟩ := exists_messagesOf h
  rw [ofPool_of_messagesOf hms]
  refine ⟨?_, fun stop => ?_, fun c hc => ?_, fun q hq => ?_⟩
  · rw [← forall_available_iff]
    simp only [map_eq_ok, orStop_eq_ok, ← exists_targetOf_iff]
    constructor
    · rintro ⟨_, files, hfiles, -⟩ t ht
      obtain ⟨file, -, hfile⟩ := exists_of_forall₂ (mapM_eq_ok.1 hfiles) ht
      exact ⟨file, hfile⟩
    · intro hall
      obtain ⟨files, hfiles⟩ := exists_mapM_of_forall hall
      exact ⟨_, files, hfiles, rfl⟩
  · simp only [map_eq_error, orStop_eq_error, mapM_eq_error, exists_targetOf_iff,
      targetOf_eq_error]
    constructor
    · rintro ⟨e, ⟨before, t, after, htargets, hbefore, he⟩, hstop⟩
      exact ⟨before, t, after, e, htargets, hbefore, he, hstop⟩
    · rintro ⟨before, t, after, e, htargets, hbefore, he, hstop⟩
      exact ⟨e, ⟨before, t, after, htargets, hbefore, he⟩, hstop⟩
  · obtain ⟨files, hfiles, rfl⟩ := map_eq_ok.1 hc
    have hall := mapM_eq_ok.1 (orStop_eq_ok.1 hfiles)
    have hviews : List.Forall₂ (fun t file => ∃ f, pool.file? t = some f ∧
        file = viewFile pool.types f) targets files := by
      refine hall.imp fun t file hfile => ?_
      obtain ⟨f, hf, -, hview⟩ := targetOf_iff.1 hfile
      exact ⟨f, hf, hview⟩
    have hnames : List.Forall₂ Eq targets (files.map (·.name)) := by
      refine List.forall₂_map_right_iff.2 (hviews.imp fun t file hfile => ?_)
      obtain ⟨f, hf, rfl⟩ := hfile
      exact (Pool.file?_name hf).symm
    rw [List.forall₂_eq_eq_eq] at hnames
    exact ⟨hnames.symm, hviews, hms, (messagesOf_eq_ok hms).1⟩
  · rw [← ofPool_of_messagesOf hms, ofPool_eq_of_agree hq]

/-- The option for the verb is declared with numbers as its values. -/
def libraryTypes : TypeTable where
  messages := [⟨"Book", "acme.Book", [], false⟩, ⟨"Loan", "acme.Loan", [], false⟩]
  extensions :=
    [⟨resourceExtension, "google.protobuf.MethodOptions",
        { name := "resource", number := 52001, type := .scalar .string }⟩,
     ⟨verbExtension, "google.protobuf.MethodOptions",
        { name := "verb", number := 52002, type := .scalar .int32 }⟩]

def booksFile : FileEntry :=
  ⟨"books.proto", [⟨"Books", "acme.Books",
    [⟨"GetBook", "acme.Books.GetBook", "acme.Book", [(52001, .atom (.text "shelf"))]⟩,
     ⟨"ListBooks", "acme.Books.ListBooks", "acme.Book", []⟩]⟩]⟩

/-- A method whose verb is a number. -/
def payLoan : MethodEntry :=
  ⟨"PayLoan", "acme.Loans.PayLoan", "acme.Loan", [(52002, .atom (.int32 3))]⟩

def loansFile : FileEntry := ⟨"loans.proto", [⟨"Loans", "acme.Loans", [payLoan]⟩]⟩

def library : Pool := ⟨[booksFile, loansFile], libraryTypes, true⟩

/-- The same without the services of the second file. -/
def bareLibrary : Pool := ⟨[booksFile, ⟨"loans.proto", []⟩], libraryTypes, true⟩

theorem agreeOn_library : library.AgreeOn ["books.proto", "books.proto"] bareLibrary where
  types := rfl
  files := .cons ⟨rfl, fun _ => rfl⟩ (.cons ⟨rfl, fun h => absurd h (by decide)⟩ .nil)

theorem ofPool_targets_library :
    library.EntriesComplete ∧
    (∃ c, ofPool library ["books.proto", "books.proto"] = .ok c ∧
      c.files.map (·.name) = ["books.proto", "books.proto"] ∧
      c.messages.contains "acme.Loan" = true ∧
      ofPool bareLibrary ["books.proto", "books.proto"] = .ok c) ∧
    ofPool library ["books.proto", "loans.proto", "lost.proto"] =
      .error (.failure (.malformedOption "acme.Loans.PayLoan" "cli.verb" "int32 3")) ∧
    ofPool library ["lost.proto", "loans.proto"] =
      .error (.failure (.decode (.missingTarget "lost.proto"))) := by
  have hcomplete : library.EntriesComplete := by decide
  have hbooks : ∀ a ∈ methodOptionsOf booksFile, ¬a.IsMalformed libraryTypes := by
    decide
  refine ⟨hcomplete, ?_, ?_, ?_⟩
  · obtain ⟨hok, -, hcontents, hagree⟩ :=
      ofPool_targets library ["books.proto", "books.proto"] hcomplete
    obtain ⟨c, hc⟩ := hok.2 (by
      refine ⟨by decide, fun t ht f hf => ?_⟩
      obtain rfl : t = "books.proto" := by simpa using ht
      obtain rfl : booksFile = f := Option.some.inj hf
      exact hbooks)
    obtain ⟨hnames, -, -, hmessages⟩ := hcontents c hc
    exact ⟨c, hc, hnames, hmessages ⟨"Loan", "acme.Loan", [], false⟩ (by decide) rfl,
      (hagree bareLibrary agreeOn_library).symm.trans hc⟩
  · have hresource : ¬MethodOption.IsMalformed libraryTypes ⟨payLoan, resourceExtension⟩ := by
      decide
    have hloans : Offends library "loans.proto"
        (.malformedOption "acme.Loans.PayLoan" "cli.verb" "int32 3") :=
      @Offends.malformed library "loans.proto" loansFile [⟨payLoan, resourceExtension⟩] []
        ⟨payLoan, verbExtension⟩ (.atom (.int32 3)) rfl rfl
        (List.forall_mem_singleton.2 hresource) rfl rfl
    exact ((ofPool_targets library _ hcomplete).2.1 _).2 ⟨["books.proto"], "loans.proto",
      ["lost.proto"], _, rfl, List.forall_mem_singleton.2 ⟨booksFile, rfl, hbooks⟩, hloans, rfl⟩
  · exact ((ofPool_targets library _ hcomplete).2.1 _).2 ⟨[], "lost.proto", ["loans.proto"], _,
      rfl, List.forall_mem_nil _, .missing (by decide), rfl⟩

end Catalog

end ServiceCli
