import ServiceCli.Proofs.Catalog.Closure
import ServiceCli.Proofs.Sample.RoundTrip

/-!
The sample request for one method with options: how its files are read, what the names in them mean,
and which pool and catalog they come to. The options of the method are left open, and so is the type
of the option for the verb.
-/
namespace ServiceCli.Sample

open Descriptor
open Wire (Bytes)

variable {s : Scalar} {options : OptionsRecord}

/-- The numbers of the options that files may add to the standard ones. -/
def extensionNumbers : RangeRecord := { start := some 1000, stop := some 536870912 }

/-- The message that describes the options of methods. -/
def extensibleOptions : MessageRecord :=
  { message "MethodOptions" [] with extensionRanges := [extensionNumbers] }

theorem read_descriptorFile : FileRecord.ofBytes descriptorFile.write = .ok descriptorFile := by
  have hranges : ∀ r ∈ [extensionNumbers],
      RangeRecord.readExtensible 98 (.delimited r.write) = .ok r := by decide +kernel
  have hmessage : MessageRecord.read 99 (.delimited extensibleOptions.write) =
      .ok extensibleOptions :=
    read_message rfl (by decide +kernel) (List.forall_mem_nil _) hranges
  have hmessages : ∀ m ∈ descriptorFile.messages,
      MessageRecord.read 99 (.delimited m.write) = .ok m :=
    List.forall_mem_singleton.2 hmessage
  exact read_plainFile rfl (by decide +kernel) hmessages (List.forall_mem_nil _)

theorem length_cliOptionsFile (s : Scalar) : (cliOptionsFile (.scalar s)).write.length < 300 := by
  have hall : ∀ s ∈ Scalar.all, (cliOptionsFile (.scalar s)).write.length < 300 := by
    decide +kernel
  exact hall s s.mem_all

theorem read_cliOptionsFile (s : Scalar) :
    FileRecord.ofBytes (cliOptionsFile (.scalar s)).write = .ok (cliOptionsFile (.scalar s)) := by
  have hlen : (cliOptionsFile (.scalar s)).write.length < Number.rangeSize 64 :=
    Nat.lt_trans (length_cliOptionsFile s) (by decide)
  have hinside : ∀ e ∈ (cliOptionsFile (.scalar s)).extensions,
      e.write.length < Number.rangeSize 64 := by
    intro e he
    refine Nat.lt_of_le_of_lt ?_ hlen
    rw [plainFile_write_eq (f := cliOptionsFile (.scalar s)) rfl]
    exact length_le_of_extension he
  have hextensions : ∀ e ∈ (cliOptionsFile (.scalar s)).extensions,
      FieldRecord.read 99 (.delimited e.write) = .ok e := by
    obtain ⟨hresource, hverb⟩ := List.forall_mem_cons.1 hinside
    exact List.forall_mem_cons.2 ⟨read_field rfl (by decide) hresource,
      List.forall_mem_singleton.2 (read_field rfl (by decide) (hverb _ List.mem_cons_self))⟩
  exact read_plainFile rfl hlen (List.forall_mem_nil _) hextensions

/-- The message that the method takes. -/
def accountsRequest : MessageRecord :=
  message "GetAccountsRequest" [field "id" 1 (.scalar .string)]

theorem read_accountsFile : FileRecord.ofBytes accountsFile.write = .ok accountsFile := by
  have hfields : ∀ f ∈ [field "id" 1 (.scalar .string)],
      FieldRecord.read 98 (.delimited f.write) = .ok f :=
    List.forall_mem_singleton.2 (read_field rfl (by decide) (by decide +kernel))
  have hmessages : ∀ m ∈ accountsFile.messages,
      MessageRecord.read 99 (.delimited m.write) = .ok m :=
    List.forall_mem_singleton.2
      (read_message rfl (by decide +kernel) hfields (List.forall_mem_nil _))
  exact read_plainFile rfl (by decide +kernel) hmessages (List.forall_mem_nil _)

theorem accountsFile_write_eq : accountsFile.write =
    (fileFields "acme/accounts.proto" "acme" ["cli/options.proto"] accountsFile.messages []
      "proto3").flatMap writeField :=
  plainFile_write_eq rfl

/-- The only method of the service. -/
def accountsMethod (options : Bytes) : RawMethod :=
  ⟨"GetAccounts", ".acme.GetAccountsRequest", options⟩

/-- The file with its service, as it is read. -/
def accountsRecord (options : OptionsRecord) : FileRecord :=
  { accountsFile with
    services := [{ name := some "Accounts"
                   methods := [(accountsMethod options.write).record options] }] }

theorem read_annotatedFile (hplain : options.Plain .method)
    (hlen : (withRawServices accountsFile [accountsService options.write]).length <
      Number.rangeSize 64) :
    FileRecord.ofBytes (withRawServices accountsFile [accountsService options.write]) =
      .ok (accountsRecord options) := by
  have hservice : (accountsService options.write).write.length < Number.rangeSize 64 := by
    refine Nat.lt_of_le_of_lt ?_ hlen
    rw [withRawServices_eq accountsFile_write_eq]
    exact Wire.length_le_of_mem (List.mem_append_right _ List.mem_cons_self)
  have hmethod : (accountsMethod options.write).write.length < Number.rangeSize 64 := by
    refine Nat.lt_of_le_of_lt ?_ hservice
    rw [RawService.write_eq]
    exact Wire.length_le_of_mem (List.mem_cons_of_mem _ List.mem_cons_self)
  have hread : MethodRecord.read 98 _ = _ := RawMethod.read_write hmethod rfl hplain
  refine read_withRawServices accountsFile_write_eq formed_fileFields
    read_accountsFile hlen ?_
  rw [mapM_eq_ok, List.forall₂_cons]
  exact ⟨RawService.read_write hservice (mapM_eq_ok.2 (.cons hread .nil)), .nil⟩

/-- Everything but the options takes only so many bytes. -/
theorem length_accountsMethod_le (b : Bytes) :
    (accountsMethod b).write.length ≤ b.length + 100 := by
  have hinside := Wire.length_writeBytes_le 4 b
  have hclosed : (Wire.writeText 1 "GetAccounts" ++ Wire.writeText 2 ".acme.GetAccountsRequest" ++
    Wire.writeText 3 ".acme.GetAccountsRequest").length ≤ 80 := by decide +kernel
  rw [RawMethod.write, List.length_append]
  exact Nat.le_trans (Nat.add_le_add hclosed hinside) (by omega)

theorem length_accountsService_le (b : Bytes) :
    (accountsService b).write.length ≤ b.length + 140 := by
  have hmethod := length_accountsMethod_le b
  have hinside := Wire.length_writeBytes_le 2 (accountsMethod b).write
  have hclosed : (Wire.writeText 1 "Accounts").length ≤ 20 := by decide +kernel
  have hwrite : (accountsService b).write =
    Wire.writeText 1 "Accounts" ++ (Wire.writeBytes 2 (accountsMethod b).write ++ []) := rfl
  simp only [hwrite, List.length_append, List.length_nil]
  omega

theorem length_withRawServices_le (b : Bytes) :
    (withRawServices accountsFile [accountsService b]).length ≤ b.length + 280 := by
  have hservice := length_accountsService_le b
  have hinside := Wire.length_writeBytes_le 6 (accountsService b).write
  have hclosed : accountsFile.write.length ≤ 120 := by decide +kernel
  have hwrite : withRawServices accountsFile [accountsService b] =
    accountsFile.write ++ (Wire.writeBytes 6 (accountsService b).write ++ []) := rfl
  simp only [hwrite, List.length_append, List.length_nil]
  omega

theorem length_annotatedRequest_le (b : Bytes) :
    (annotatedRequest (.scalar s) b).length ≤ b.length + 820 := by
  have haccounts := length_withRawServices_le b
  have hinside := Wire.length_writeBytes_le 15 (withRawServices accountsFile [accountsService b])
  have hcliFile := length_cliOptionsFile s
  have hcli := Wire.length_writeBytes_le 15 (cliOptionsFile (.scalar s)).write
  have hclosed : (Wire.writeText 1 "acme/accounts.proto" ++ [] ++ Wire.writeText 2 "" ++
    Wire.writeBytes 15 descriptorFile.write).length ≤ 200 := by decide +kernel
  have hwrite : annotatedRequest (.scalar s) b =
    Wire.writeText 1 "acme/accounts.proto" ++ [] ++ Wire.writeText 2 "" ++
      (Wire.writeBytes 15 descriptorFile.write ++
        (Wire.writeBytes 15 (cliOptionsFile (.scalar s)).write ++
          (Wire.writeBytes 15 (withRawServices accountsFile [accountsService b]) ++ []))) := rfl
  simp only [hwrite, List.length_append] at hclosed ⊢
  simp only [List.length_nil]
  omega

/-- The files of the request, as they are read. -/
def accountsRecords (s : Scalar) (options : OptionsRecord) : List FileRecord :=
  [descriptorFile, cliOptionsFile (.scalar s), accountsRecord options]

def accountsNames : Names :=
  [("acme.Accounts.GetAccounts", ⟨2, .method⟩), ("acme.Accounts", ⟨2, .service⟩),
   ("acme.GetAccountsRequest.id", ⟨2, .field⟩), ("acme.GetAccountsRequest", ⟨2, .message⟩),
   ("acme", ⟨2, .package⟩), ("cli.verb", ⟨1, .extension⟩), ("cli.resource", ⟨1, .extension⟩),
   ("cli", ⟨1, .package⟩), ("google.protobuf.MethodOptions", ⟨0, .message⟩),
   ("google.protobuf", ⟨0, .package⟩), ("google", ⟨0, .package⟩)]

/-- The declaration of the method. -/
def methodDeclaration (options : OptionsRecord) : Declaration :=
  ⟨2, [6, 0, 2, 0], "acme.Accounts.GetAccounts",
    .method ((accountsMethod options.write).record options) "acme.Accounts"⟩

/-- All declarations, file by file. -/
def accountsDeclarations (s : Scalar) (options : OptionsRecord) : List Declaration :=
  [⟨0, [], "google.protobuf", .file descriptorFile⟩,
   ⟨0, [4, 0], "google.protobuf.MethodOptions", .message extensibleOptions⟩,
   ⟨0, [4, 0, 5, 0], "google.protobuf.MethodOptions", .extensionRange extensionNumbers⟩,
   ⟨1, [], "cli", .file (cliOptionsFile (.scalar s))⟩,
   ⟨1, [7, 0], "cli.resource",
     .extension (methodExtension "resource" resourceOption (.scalar .string))⟩,
   ⟨1, [7, 1], "cli.verb", .extension (methodExtension "verb" verbOption (.scalar s))⟩,
   ⟨2, [], "acme", .file (accountsRecord options)⟩,
   ⟨2, [4, 0], "acme.GetAccountsRequest", .message accountsRequest⟩,
   ⟨2, [4, 0, 2, 0], "acme.GetAccountsRequest.id",
     .field (field "id" 1 (.scalar .string)) 0 "acme.GetAccountsRequest" accountsRequest⟩,
   ⟨2, [6, 0], "acme.Accounts",
     .service ⟨some "Accounts", [(accountsMethod options.write).record options], none⟩⟩,
   methodDeclaration options]

theorem declarations_accountsRecords :
    declarations (accountsRecords s options) = accountsDeclarations s options := by
  simp only [declarations, accountsRecords, collect, List.zipIdx_cons, List.zipIdx_nil,
    List.flatMap_cons, List.flatMap_nil, List.append_nil]
  rfl

/-- Every declaration adds its name before those of the declarations that it follows. -/
theorem definedNames_accountsRecords :
    definedNames (accountsRecords s options) = .ok accountsNames := by
  have hcli : define (accountsRecords s options) (accountsNames.drop 8)
      ⟨1, [], "cli", .file (cliOptionsFile (.scalar s))⟩ = .ok (accountsNames.drop 7) := by
    simp only [define, accountsRecords, descriptorFile, cliOptionsFile, List.take_succ_cons,
      List.take_zero, Option.getD_some, List.any_cons, String.reduceBEq, List.any_nil,
      Bool.or_self, Bool.false_eq_true, if_false]
    rfl
  have hacme : define (accountsRecords s options) (accountsNames.drop 5)
      ⟨2, [], "acme", .file (accountsRecord options)⟩ = .ok (accountsNames.drop 4) := by
    simp only [define, accountsRecords, descriptorFile, cliOptionsFile, accountsRecord,
      accountsFile, file, List.take_succ_cons, List.take_zero, Option.getD_some, List.any_cons,
      String.reduceBEq, List.any_nil, Bool.or_self, Bool.false_eq_true, if_false]
    rfl
  rw [definedNames, declarations_accountsRecords]
  exact bind_eq_ok.2 ⟨accountsNames.drop 9, rfl, bind_eq_ok.2 ⟨accountsNames.drop 8, rfl,
    bind_eq_ok.2 ⟨accountsNames.drop 8, rfl, bind_eq_ok.2 ⟨accountsNames.drop 7, hcli,
    bind_eq_ok.2 ⟨accountsNames.drop 6, rfl, bind_eq_ok.2 ⟨accountsNames.drop 5, rfl,
    bind_eq_ok.2 ⟨accountsNames.drop 4, hacme, bind_eq_ok.2 ⟨accountsNames.drop 3, rfl,
    bind_eq_ok.2 ⟨accountsNames.drop 2, rfl, bind_eq_ok.2 ⟨accountsNames.drop 1, rfl,
    bind_eq_ok.2 ⟨accountsNames, rfl, rfl⟩⟩⟩⟩⟩⟩⟩⟩⟩⟩⟩

def accountsFiles (s : Scalar) (options : OptionsRecord) : NamedFiles :=
  ⟨accountsRecords s options, accountsNames, declarations (accountsRecords s options)⟩

/-- An option of methods that holds a value of a primitive type. -/
def methodOption (name : String) (number : Nat) (s : Scalar) : FieldEntry :=
  { name, number, type := .scalar s }

/-- What the declarations are resolved to, file by file. -/
def accountsLinks (s : Scalar) : List Link :=
  [.none, .message ⟨"MethodOptions", "google.protobuf.MethodOptions", [], false⟩, .none,
   .none,
   .extension ⟨"cli.resource", "google.protobuf.MethodOptions",
     methodOption "resource" resourceOption .string⟩,
   .extension ⟨"cli.verb", "google.protobuf.MethodOptions", methodOption "verb" verbOption s⟩,
   .none, .message ⟨"GetAccountsRequest", "acme.GetAccountsRequest", [], false⟩,
   .field "acme.GetAccountsRequest"
     { name := "id", number := 1, type := .scalar .string, absentAs := some (.text "") },
   .none, .method "acme.GetAccountsRequest" "acme.GetAccountsRequest"]

theorem resolve_methodOptions {d : Declaration} (hfile : d.file = 1) :
    (accountsFiles s options).resolveMessage d ".google.protobuf.MethodOptions" =
      .ok "google.protobuf.MethodOptions" := by
  have hvisible : 0 ∈ visibleFiles (accountsRecords s options) d.file := by
    rw [hfile, show visibleFiles (accountsRecords s options) 1 = [0, 1] by rfl]
    decide
  exact bind_eq_ok.2 ⟨_, resolveName_absolute (by rfl) (by rfl) hvisible rfl, rfl⟩

theorem resolve_accountsRequest {d : Declaration} (hfile : d.file = 2) :
    (accountsFiles s options).resolveMessage d ".acme.GetAccountsRequest" =
      .ok "acme.GetAccountsRequest" := by
  have hvisible : 2 ∈ visibleFiles (accountsRecords s options) d.file := by
    rw [hfile, show visibleFiles (accountsRecords s options) 2 = [1, 2] by rfl]
    decide
  exact bind_eq_ok.2 ⟨_, resolveName_absolute (by rfl) (by rfl) hvisible rfl, rfl⟩

theorem link_verb : link (accountsFiles s options)
      ⟨1, [7, 1], "cli.verb", .extension (methodExtension "verb" verbOption (.scalar s))⟩ =
    .ok (.extension ⟨"cli.verb", "google.protobuf.MethodOptions",
      methodOption "verb" verbOption s⟩) := by
  have htype (d : Declaration) : fieldType (accountsFiles s options) d
      (methodExtension "verb" verbOption (.scalar s)) = .ok (.scalar s) := by
    cases s <;> rfl
  have howner : (accountsFiles s options).messageRecord? "google.protobuf.MethodOptions" =
      descriptorFile.messages.head? := rfl
  refine bind_eq_ok.2 ⟨_, resolve_methodOptions rfl, ?_⟩
  dsimp only
  rw [howner]
  exact bind_eq_ok.2 ⟨(), rfl, bind_eq_ok.2 ⟨_, htype _, rfl⟩⟩

theorem mapM_link_accountsRecords :
    (declarations (accountsRecords s options)).mapM (link (accountsFiles s options)) =
      .ok (accountsLinks s) := by
  rw [mapM_eq_ok, declarations_accountsRecords]
  refine .cons rfl (.cons rfl (.cons rfl (.cons rfl (.cons rfl (.cons link_verb (.cons rfl
    (.cons rfl (.cons rfl (.cons rfl (.cons ?method .nil))))))))))
  case method =>
    exact bind_eq_ok.2 ⟨_, resolve_accountsRequest rfl,
      bind_eq_ok.2 ⟨_, resolve_accountsRequest rfl, rfl⟩⟩

def accountsTypes (s : Scalar) : TypeTable := TypeTable.ofLinks (accountsLinks s)

/-- The declarations with what they are resolved to and their options. -/
def accountsResolved (s : Scalar) (options : OptionsRecord) (i : InterpretedOptions) :
    List Pool.Resolved :=
  ((accountsDeclarations s options).zip
    ((accountsLinks s).zip [{}, {}, {}, {}, {}, {}, {}, {}, {}, {}, i])).map
      fun (d, l, o) => ⟨d, l, o⟩

/-- The pool when the options of the method are interpreted as given. -/
def accountsPool (s : Scalar) (i : InterpretedOptions) : Pool where
  files :=
    [⟨"google/protobuf/descriptor.proto", []⟩, ⟨"cli/options.proto", []⟩,
     ⟨"acme/accounts.proto", [⟨"Accounts", "acme.Accounts",
       [⟨"GetAccounts", "acme.Accounts.GetAccounts", "acme.GetAccountsRequest", i.entries⟩]⟩]⟩]
  types := accountsTypes s
  keepsForms := i.checked.all fun f => (Standard.check .method f).toBool

variable {i : InterpretedOptions}

theorem servicesOf_accounts : ((accountsRecords s options).zipIdx.map fun (f, k) =>
      (⟨f.name.getD "", Pool.servicesOf (accountsResolved s options i) k⟩ : FileEntry)) =
    (accountsPool s i).files := by
  rfl

theorem typesOf_accounts :
    Pool.typesOf (accountsResolved s options i) (accountsTypes s) = accountsTypes s := by
  rfl

theorem keepsForms_accounts :
    ((accountsResolved s options i).all fun r => r.declaration.keepsForms r.options) =
      (accountsPool s i).keepsForms :=
  Bool.and_true _

theorem ofFiles_accountsRecords (h : interpretOptions (accountsFiles s options) (accountsTypes s)
      (methodDeclaration options) .method options = .ok i) :
    Pool.ofFiles (accountsRecords s options) = .ok (accountsPool s i) := by
  have hoptions : (declarations (accountsRecords s options)).mapM
      (declaredOptions (accountsFiles s options) (accountsTypes s)) =
        .ok [{}, {}, {}, {}, {}, {}, {}, {}, {}, {}, i] := by
    rw [mapM_eq_ok, declarations_accountsRecords]
    exact .cons rfl (.cons rfl (.cons rfl (.cons rfl (.cons rfl (.cons rfl (.cons rfl (.cons rfl
      (.cons rfl (.cons rfl (.cons h .nil))))))))))
  refine bind_eq_ok.2 ⟨_, definedNames_accountsRecords, bind_eq_ok.2 ⟨_, mapM_link_accountsRecords,
    bind_eq_ok.2 ⟨_, hoptions, ?_⟩⟩⟩
  rw [declarations_accountsRecords]
  exact congrArg Except.ok
    (congr (congr (congrArg Pool.mk servicesOf_accounts) typesOf_accounts) keepsForms_accounts)

/-- The method with options that are interpreted as given. -/
def accountsMethodEntry (i : InterpretedOptions) : MethodEntry :=
  ⟨"GetAccounts", "acme.Accounts.GetAccounts", "acme.GetAccountsRequest", i.entries⟩

/-- The files of a catalog whose only method is given. -/
def accountsCatalogFiles (m : Method) : List ServiceFile :=
  [⟨"acme/accounts.proto", [⟨"Accounts", "acme.Accounts", [m]⟩]⟩]

theorem ofPool_accountsPool :
    (Catalog.ofPool (accountsPool s i) ["acme/accounts.proto"]).map (·.files) =
      (orStop (Catalog.methodOf (accountsTypes s) (accountsMethodEntry i))).map
        accountsCatalogFiles := by
  have hcomplete : (accountsPool s i).EntriesComplete := by
    simp [Pool.EntriesComplete, accountsPool, accountsTypes, TypeTable.ofLinks, accountsLinks]
  obtain ⟨ms, hms : Catalog.messagesOf (accountsTypes s) = .ok ms⟩ :=
    Catalog.exists_messagesOf hcomplete
  have hfile : (accountsPool s i).file? "acme/accounts.proto" = some ⟨"acme/accounts.proto",
    [⟨"Accounts", "acme.Accounts", [accountsMethodEntry i]⟩]⟩ := rfl
  have htypes : (accountsPool s i).types = accountsTypes s := rfl
  simp only [Catalog.ofPool, hms, bind, Except.bind, List.mapM_cons, List.mapM_nil,
    Catalog.targetOf, hfile, Catalog.fileOf, Catalog.serviceOf, htypes]
  cases Catalog.methodOf (accountsTypes s) (accountsMethodEntry i) <;> rfl

theorem ofBytes_annotatedRequest (hplain : options.Plain .method)
    (hlen : options.write.length < Number.rangeSize 63)
    (hi : interpretOptions (accountsFiles s options) (accountsTypes s)
      (methodDeclaration options) .method options = .ok i)
    (hforms : (accountsPool s i).keepsForms = true) :
    (Request.ofBytes (annotatedRequest (.scalar s) options.write)).map (·.catalog.files) =
      (orStop (Catalog.methodOf (accountsTypes s) (accountsMethodEntry i))).map
        accountsCatalogFiles := by
  have hrange : Number.rangeSize 64 = 2 * Number.rangeSize 63 := by decide
  have hroom : 820 < Number.rangeSize 63 := by decide
  have hrequest : (annotatedRequest (.scalar s) options.write).length < Number.rangeSize 64 :=
    Nat.lt_of_le_of_lt (length_annotatedRequest_le options.write) (by omega)
  have hfile : (withRawServices accountsFile [accountsService options.write]).length <
      Number.rangeSize 64 :=
    Nat.lt_of_le_of_lt (length_withRawServices_le options.write) (by omega)
  have hread : [descriptorFile.write, (cliOptionsFile (.scalar s)).write,
      withRawServices accountsFile [accountsService options.write]].mapM FileRecord.ofBytes =
        .ok (accountsRecords s options) :=
    mapM_eq_ok.2 (.cons read_descriptorFile (.cons (read_cliOptionsFile s)
      (.cons (read_annotatedFile hplain hfile) .nil)))
  have hpool := Request.poolOf_eq_ok.2 ⟨_, hread, rfl, ofFiles_accountsRecords hi, hforms⟩
  rw [annotatedRequest, Request.ofBytes_of_poolOf (ofBytes_rawRequest hrequest) hpool,
    ← ofPool_accountsPool]
  cases Catalog.ofPool (accountsPool s i) ["acme/accounts.proto"] <;> rfl

end ServiceCli.Sample
