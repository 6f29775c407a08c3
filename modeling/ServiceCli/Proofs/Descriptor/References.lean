import ServiceCli.Descriptor.Pool
import ServiceCli.Proofs.Sequence

/-!
What references lead to. Names are defined by declarations, so what a reference is resolved to is
declared in one of the files, and it is in the types of the pool that the files make up.
-/
namespace ServiceCli.Descriptor

/-- Every name, except those of packages, is that of a declaration of its kind. -/
def Names.DefinedBy (names : Names) (ds : List Declaration) : Prop :=
  ∀ name d, names.lookup name = some d → d.kind ≠ .package →
    ∃ declaration ∈ ds, declaration.fullName = name ∧
      declaration.declared.nameKind? = some d.kind

variable {files : List FileRecord} {names names' : Names} {ds : List Declaration}

theorem Names.lookup_define {file : Nat} {name other : String} {kind : NameKind} {d : Definition}
    (h : names.define files file name kind = .ok names') (hd : names'.lookup other = some d) :
    names.lookup other = some d ∨ (other = name ∧ d.kind = kind) := by
  rw [Names.define] at h
  split at h
  · obtain rfl := Except.ok.inj h
    rw [List.lookup_cons] at hd
    split at hd
    · rename_i hname
      obtain rfl := Option.some.inj hd
      exact .inr ⟨by simpa using hname, rfl⟩
    · exact .inl hd
  · split at h
    · obtain rfl := Except.ok.inj h
      exact .inl hd
    · split at h <;> cases h

theorem Names.DefinedBy.of_define {d : Declaration} {kind : NameKind} (h : names.DefinedBy ds)
    (hd : d ∈ ds) (hkind : d.declared.nameKind? = some kind)
    (hdefine : names.define files d.file d.fullName kind = .ok names') : names'.DefinedBy ds := by
  intro name definition hlookup hpackage
  obtain hbefore | ⟨rfl, rfl⟩ := Names.lookup_define hdefine hlookup
  · exact h name definition hbefore hpackage
  · exact ⟨d, hd, rfl, hkind⟩

theorem Names.DefinedBy.of_package {file : Nat} {package : String} (h : names.DefinedBy ds)
    (hdefine : names.define files file package .package = .ok names') : names'.DefinedBy ds := by
  intro name definition hlookup hpackage
  obtain hbefore | ⟨-, hkind⟩ := Names.lookup_define hdefine hlookup
  · exact h name definition hbefore hpackage
  · exact absurd hkind hpackage

/-- A declaration defines packages or its own name. -/
theorem definedBy_define {d : Declaration} (h : names.DefinedBy ds) (hd : d ∈ ds)
    (hdefine : define files names d = .ok names') : names'.DefinedBy ds := by
  rw [define] at hdefine
  split at hdefine
  case h_1 r hr =>
    split at hdefine
    · cases hdefine
    · exact foldlM_keeps (I := (Names.DefinedBy · ds)) (fun _ _ _ _ h => h.of_package) h hdefine
  case h_2 r hr =>
    obtain ⟨names₁, hnames₁, hdefine⟩ := bind_eq_ok.1 hdefine
    have hnames₁ := h.of_define hd (by rw [hr]; rfl) hnames₁
    split at hdefine
    · obtain ⟨_, -, hdefine⟩ := bind_eq_ok.1 hdefine
      cases hdefine
      exact hnames₁
    · cases hdefine
      exact hnames₁
  case h_3 r hr =>
    obtain ⟨names₁, hnames₁, hdefine⟩ := bind_eq_ok.1 hdefine
    have hnames₁ := h.of_define hd (by rw [hr]; rfl) hnames₁
    split at hdefine
    · cases hdefine
    · split at hdefine <;> cases hdefine
      exact hnames₁
  case h_4 other _ _ _ =>
    split at hdefine
    · cases hdefine
      exact h
    · rename_i kind hkind
      exact h.of_define hd hkind hdefine

theorem definedBy_declarations (h : definedNames files = .ok names) :
    names.DefinedBy (declarations files) := by
  refine foldlM_keeps (I := (Names.DefinedBy · (declarations files)))
    (fun names d hd names' hdefined => definedBy_define hdefined hd) ?_ h
  intro name d hd
  cases hd

/-- A name is defined as what is wanted. -/
def Names.Offers (names : Names) (wanted : Wanted) (name : String) (kind : NameKind) : Prop :=
  wanted.accepts kind = true ∧ ∃ d, names.lookup name = some d ∧ d.kind = kind

/-- What a name is found to mean is defined as what is wanted. -/
def Meaning.Sound (names : Names) (wanted : Wanted) (m : Meaning) : Prop :=
  ∀ full kind, m = .found full kind → names.Offers wanted full kind

variable {visible : List Nat} {wanted : Wanted} {first name : String}

theorem sound_absoluteMeaning :
    (absoluteMeaning names visible wanted name).Sound names wanted := by
  intro full kind h
  rw [absoluteMeaning] at h
  split at h
  · cases h
  · rename_i d hd
    split at h
    · cases h
    · split at h
      · rename_i haccepts
        cases h
        exact ⟨haccepts, d, hd, rfl⟩
      · cases h

theorem sound_relativeMeaning {sofar : Meaning} {scopes : List String}
    (h : sofar.Sound names wanted) :
    (relativeMeaning names visible wanted first name sofar scopes).Sound names wanted := by
  induction scopes generalizing sofar with
  | nil => exact h
  | cons scope outer ih =>
    rw [relativeMeaning]
    dsimp only
    generalize (if scope = "" then first else scope ++ "." ++ first) = candidate
    split
    · split
      · rename_i hfound
        exact hfound ▸ sound_absoluteMeaning
      · rename_i hother
        refine ih ?_
        split
        · exact fun full kind hfound => absurd hfound (hother full kind)
        · exact h
    · split
      · split
        · split
          · exact nofun
          · exact sound_absoluteMeaning
        · exact ih h
      · exact ih h

theorem offers_of_resolveName {scope full : String} {kind : NameKind}
    (h : resolveName names visible wanted scope name = .ok (full, kind)) :
    names.Offers wanted full kind := by
  have hsound : (meaningAt names visible wanted scope name).Sound names wanted := by
    rw [meaningAt]
    split
    · exact sound_absoluteMeaning
    · exact sound_relativeMeaning nofun
  rw [resolveName] at h
  split at h
  · rename_i hfound
    cases h
    exact hsound _ _ hfound
  all_goals cases h

/-- A name with a leading dot means what has that name, if it can be seen. -/
theorem resolveName_absolute {scope full : String} {d : Definition}
    (hname : name.toList = '.' :: full.toList) (hlookup : names.lookup full = some d)
    (hvisible : d.file ∈ visible) (haccepts : wanted.accepts d.kind = true) :
    resolveName names visible wanted scope name = .ok (full, d.kind) := by
  have hmeaning : meaningAt names visible wanted scope name = .found full d.kind := by
    rw [meaningAt, hname]
    simp only [String.ofList_toList, absoluteMeaning, hlookup, hvisible, haccepts,
      not_true_eq_false, if_false, if_true]
  rw [resolveName, hmeaning]

variable {fs : NamedFiles} {d : Declaration}

/-- A field takes for a message what is defined as one. -/
theorem offers_of_fieldType {r : FieldRecord} {type : ValueType}
    (h : fieldType fs d r = .ok type) (hname : type.message? = some name) :
    ∃ wanted, fs.names.Offers wanted name .message := by
  rw [fieldType] at h
  split at h
  · split at h
    · cases h
    · cases h
      cases hname
  · obtain ⟨⟨full, kind⟩, hresolve, h⟩ := bind_eq_ok.1 h
    have hoffers := offers_of_resolveName hresolve
    split at h
    · rename_i heq
      cases heq
      cases h
      split at hname <;> cases hname <;> exact ⟨_, hoffers⟩
    · cases h
      cases hname

/-- The messages that a resolved declaration refers to. -/
def Link.references : Link → List String
  | .field _ entry => entry.type.message?.toList
  | .extension entry => entry.extendee :: entry.field.type.message?.toList
  | .method input output => [input, output]
  | .message _ | .enumeration _ | .none => []

theorem offers_of_resolveMessage (h : fs.resolveMessage d first = .ok name) :
    ∃ wanted, fs.names.Offers wanted name .message := by
  obtain ⟨⟨full, kind⟩, hresolve, h⟩ := bind_eq_ok.1 h
  cases h
  have hoffers := offers_of_resolveName hresolve
  obtain rfl : kind = .message := by
    cases kind <;> first | rfl | exact absurd hoffers.1 (by decide)
  exact ⟨_, hoffers⟩

theorem offers_of_linkField {r : FieldRecord} {index : Nat} {ownerName : String}
    {owner : MessageRecord} {l : Link} (h : linkField fs d r index ownerName owner = .ok l) :
    ∀ n ∈ l.references, ∃ wanted, fs.names.Offers wanted n .message := by
  rw [linkField] at h
  obtain ⟨_, -, h⟩ := bind_eq_ok.1 h
  obtain ⟨type, htype, h⟩ := bind_eq_ok.1 h
  obtain ⟨default, -, h⟩ := bind_eq_ok.1 h
  have hfield : ∀ entry : FieldEntry, entry.type = type →
      ∀ n ∈ (Link.field ownerName entry).references,
        ∃ wanted, fs.names.Offers wanted n .message := by
    rintro entry rfl n hn
    exact offers_of_fieldType htype (Option.mem_toList.1 hn)
  dsimp only at h
  split at h
  · split at h
    · cases h
    · obtain ⟨_, -, h⟩ := bind_eq_ok.1 h
      cases h
      exact hfield _ rfl
  · obtain ⟨_, -, h⟩ := bind_eq_ok.1 h
    cases h
    exact hfield _ rfl

theorem offers_of_linkExtension {r : FieldRecord} {l : Link}
    (h : linkExtension fs d r = .ok l) :
    ∀ n ∈ l.references, ∃ wanted, fs.names.Offers wanted n .message := by
  rw [linkExtension] at h
  obtain ⟨extendee, hextendee, h⟩ := bind_eq_ok.1 h
  have hextension : ∀ {type : ValueType} {entry : ExtensionEntry},
      fieldType fs d r = .ok type → entry.extendee = extendee → entry.field.type = type →
      ∀ n ∈ (Link.extension entry).references,
        ∃ wanted, fs.names.Offers wanted n .message := by
    rintro type entry htype rfl rfl n hn
    rcases List.mem_cons.1 hn with rfl | hn
    · exact offers_of_resolveMessage hextendee
    · exact offers_of_fieldType htype (Option.mem_toList.1 hn)
  dsimp only at h
  split at h
  · obtain ⟨_, -, h⟩ := bind_eq_ok.1 h
    obtain ⟨type, htype, h⟩ := bind_eq_ok.1 h
    obtain ⟨_, -, h⟩ := bind_eq_ok.1 h
    cases h
    exact hextension htype rfl rfl
  · obtain ⟨type, htype, h⟩ := bind_eq_ok.1 h
    obtain ⟨_, -, h⟩ := bind_eq_ok.1 h
    cases h
    exact hextension htype rfl rfl

/-- What a resolved declaration refers to is defined as a message. -/
theorem offers_of_link {l : Link} (h : link fs d = .ok l) :
    ∀ n ∈ l.references, ∃ wanted, fs.names.Offers wanted n .message := by
  rw [link] at h
  split at h
  case h_1 | h_5 =>
    obtain ⟨_, -, h⟩ := bind_eq_ok.1 h
    cases h
    exact nofun
  case h_2 | h_4 | h_8 | h_9 | h_10 =>
    cases h
    exact nofun
  case h_3 => exact offers_of_linkField h
  case h_7 => exact offers_of_linkExtension h
  case h_6 =>
    obtain ⟨input, hinput, h⟩ := bind_eq_ok.1 h
    obtain ⟨output, houtput, h⟩ := bind_eq_ok.1 h
    cases h
    intro n hn
    simp only [Link.references, List.mem_cons, List.not_mem_nil, or_false] at hn
    rcases hn with rfl | rfl
    · exact offers_of_resolveMessage hinput
    · exact offers_of_resolveMessage houtput

theorem TypeTable.exists_message?_iff {t : TypeTable} :
    (∃ e, t.message? name = some e) ↔ ∃ e ∈ t.messages, e.fullName = name := by
  rw [← Option.isSome_iff_exists, TypeTable.message?, List.find?_isSome]
  simp

/-- Every message type that a field or a method refers to is in the pool. -/
structure Pool.Resolves (p : Pool) : Prop where
  fields : ∀ m ∈ p.types.messages, ∀ f ∈ m.fields, ∀ name, f.type.message? = some name →
    ∃ e, p.types.message? name = some e
  inputs : ∀ f ∈ p.files, ∀ s ∈ f.services, ∀ m ∈ s.methods, ∃ e, p.types.message? m.input = some e

/-- What is defined as a message has been resolved as one. -/
theorem exists_message_of_offers {links : List Link}
    (hlinks : List.Forall₂ (fun d l => link fs d = .ok l) ds links)
    (hnames : fs.names.DefinedBy ds) (h : fs.names.Offers wanted name .message) :
    ∃ e ∈ (TypeTable.ofLinks links).messages, e.fullName = name := by
  obtain ⟨-, definition, hlookup, hkind⟩ := h
  obtain ⟨d, hd, hname, hdeclared⟩ := hnames name definition hlookup (by simp [hkind])
  obtain ⟨l, hl, hlink⟩ := exists_of_forall₂ hlinks hd
  rw [hkind] at hdeclared
  cases hrecord : d.declared <;> rw [hrecord] at hdeclared <;> cases hdeclared
  rw [link, hrecord] at hlink
  cases hlink
  exact ⟨_, List.mem_filterMap.2 ⟨_, hl, rfl⟩, hname⟩

/-- A field of a message has been resolved as one. -/
theorem mem_links_of_field {links : List Link} {m : MessageEntry} {f : FieldEntry}
    (hm : m ∈ (TypeTable.ofLinks links).messages) (hf : f ∈ m.fields) :
    ∃ owner, Link.field owner f ∈ links := by
  obtain ⟨l, -, hl⟩ := List.mem_filterMap.1 hm
  cases l <;> cases hl
  obtain ⟨l, hl, hfield⟩ := List.mem_filterMap.1 hf
  split at hfield
  · split at hfield <;> cases hfield
    exact ⟨_, hl⟩
  · cases hfield

/-- A method of a service has been resolved with what it takes. -/
theorem Pool.exists_link_of_method {rs : List Pool.Resolved} {file : Nat} {s : ServiceEntry}
    (hs : s ∈ Pool.servicesOf rs file) {m : MethodEntry} (hm : m ∈ s.methods) :
    ∃ r ∈ rs, ∃ output, r.link = .method m.input output := by
  obtain ⟨r, -, hservice⟩ := List.mem_filterMap.1 hs
  split at hservice
  · split at hservice <;> cases hservice
    obtain ⟨r, hr, hmethod⟩ := List.mem_filterMap.1 hm
    split at hmethod
    · rename_i hlink
      split at hmethod <;> cases hmethod
      exact ⟨r, hr, _, hlink⟩
    · cases hmethod
  · cases hservice

/-- In a pool that files make up, nothing refers to a message that is not there. -/
theorem Pool.resolves_ofFiles {pool : Pool} (h : Pool.ofFiles files = .ok pool) :
    pool.Resolves := by
  obtain ⟨names, hnames, h⟩ := bind_eq_ok.1 h
  obtain ⟨links, hlinks, h⟩ := bind_eq_ok.1 h
  obtain ⟨options, -, h⟩ := bind_eq_ok.1 h
  obtain rfl := (Except.ok.inj h).symm
  have hlinks := mapM_eq_ok.1 hlinks
  -- Marking the entries of maps changes neither the names nor the fields of messages.
  have hthere : ∀ l ∈ links, ∀ n ∈ l.references, ∀ rs,
      ∃ e, (Pool.typesOf rs (TypeTable.ofLinks links)).message? n = some e := by
    intro l hl n hn rs
    obtain ⟨d, -, hlink⟩ := exists_of_forall₂ hlinks.flip hl
    obtain ⟨wanted, hoffers⟩ := offers_of_link hlink n hn
    obtain ⟨e, he, hname⟩ :=
      exists_message_of_offers hlinks (definedBy_declarations hnames) hoffers
    exact TypeTable.exists_message?_iff.2 ⟨_, List.mem_map.2 ⟨e, he, rfl⟩, hname⟩
  constructor
  case fields =>
    intro m hm f hf n hn
    obtain ⟨m', hm', rfl⟩ := List.mem_map.1 hm
    obtain ⟨owner, hl⟩ := mem_links_of_field hm' hf
    exact hthere _ hl n (Option.mem_toList.2 hn) _
  case inputs =>
    intro f hf s hs m hm
    obtain ⟨⟨record, i⟩, -, rfl⟩ := List.mem_map.1 hf
    obtain ⟨r, hr, output, hlink⟩ := Pool.exists_link_of_method hs hm
    obtain ⟨⟨d, l, o⟩, hmem, rfl⟩ := List.mem_map.1 hr
    have hl : l ∈ links := (List.of_mem_zip (List.of_mem_zip hmem).2).1
    exact hthere l hl m.input (by simp [show l = _ from hlink, Link.references]) _

end ServiceCli.Descriptor
