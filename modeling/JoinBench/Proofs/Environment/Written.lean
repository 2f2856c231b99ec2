import JoinBench.Environment.Basic
import JoinBench.Proofs.Json.Unknown

/-!
# Environments as they are written

All records of an environment file are closed, and their fields keep clear of one another.  So an
environment does not depend on the order of the members in its file, and no file is loaded that has
a member of an unknown name in one of its sections.
-/

namespace JoinBench

open Json

/-! ### Grids -/

theorem isOrderFree_readSize :
  IsOrderFree readSize
  := isOrderFree_readNat _ _

namespace Grid

theorem isOrderFree_record :
  record.IsOrderFree
  where
    closed := rfl
    reads := by
      simp only [record, List.forall_mem_cons, List.not_mem_nil, false_imp_iff, implies_true,
        and_true]
      and_intros
      all_goals apply isOrderFree_of
      · exact isOrderFree_readSize.readList
      · exact isOrderFree_readSize.readList
      · exact isOrderFree_readSize.readList
      · exact isOrderFree_readSize
    aliases_eq := by simp [record, Field.of]
    nodup_names := by decide
    apart := by
      simp only [record, List.pairwise_cons, List.forall_mem_cons, List.not_mem_nil, false_imp_iff,
        implies_true, and_true, List.Pairwise.nil]
      and_intros
      all_goals exact Field.commutes_of (fun _ _ => rfl) (fun _ _ => rfl) (fun _ _ _ => rfl)

theorem isReadBy_read :
  record.IsReadBy read
  := ⟨fun d => ⟨d.nSources.getD [], d.setSize.getD [], d.joinSize.getD [], d.rep.getD 0⟩, {}, rfl⟩

theorem isOrderFree_read :
  IsOrderFree read
  := isReadBy_read.isOrderFree isOrderFree_record

end Grid

namespace Settings

/-! ### Records of texts -/

theorem isOrderFree_tlsRecord :
  tlsRecord.IsOrderFree
  where
    closed := rfl
    reads := by
      simp only [tlsRecord, List.forall_mem_cons, List.not_mem_nil, false_imp_iff,
        implies_true, and_true]
      and_intros
      all_goals exact isOrderFree_of isOrderFree_readText
    aliases_eq := by simp [tlsRecord, Field.of]
    nodup_names := by decide
    apart := by
      simp only [tlsRecord, List.pairwise_cons, List.forall_mem_cons, List.not_mem_nil,
        false_imp_iff, implies_true, and_true, List.Pairwise.nil]
      and_intros
      all_goals exact Field.commutes_of (fun _ _ => rfl) (fun _ _ => rfl) (fun _ _ _ => rfl)

theorem isReadBy_readTls :
  tlsRecord.IsReadBy readTls
  := ⟨fun d => ⟨d.clientCert.getD "", d.clientKey.getD "", d.caCert.getD ""⟩, {}, rfl⟩

theorem isOrderFree_imageRecord :
  imageRecord.IsOrderFree
  where
    closed := rfl
    reads := by
      simp only [imageRecord, List.forall_mem_cons, List.not_mem_nil, false_imp_iff,
        implies_true, and_true]
      and_intros
      all_goals exact isOrderFree_of isOrderFree_readText
    aliases_eq := by simp [imageRecord, Field.of]
    nodup_names := by decide
    apart := by
      simp only [imageRecord, List.pairwise_cons, List.forall_mem_cons, List.not_mem_nil,
        false_imp_iff, implies_true, and_true, List.Pairwise.nil]
      exact Field.commutes_of (fun _ _ => rfl) (fun _ _ => rfl) (fun _ _ _ => rfl)

theorem isReadBy_readImage :
  imageRecord.IsReadBy readImage
  :=
    let usual : ImageSettings := {}
    ⟨fun d => ⟨d.repository.getD usual.repository, d.baseTag.getD usual.baseTag⟩, {}, rfl⟩

theorem isOrderFree_commandsRecord :
  commandsRecord.IsOrderFree
  where
    closed := rfl
    reads := by
      simp only [commandsRecord, List.forall_mem_cons, List.not_mem_nil, false_imp_iff,
        implies_true, and_true]
      and_intros
      all_goals exact isOrderFree_of isOrderFree_readText
    aliases_eq := by simp [commandsRecord, Field.of]
    nodup_names := by decide
    apart := by
      simp only [commandsRecord, List.pairwise_cons, List.forall_mem_cons, List.not_mem_nil,
        false_imp_iff, implies_true, and_true, List.Pairwise.nil]
      and_intros
      all_goals exact Field.commutes_of (fun _ _ => rfl) (fun _ _ => rfl) (fun _ _ _ => rfl)

theorem isReadBy_readCommands :
  commandsRecord.IsReadBy readCommands
  :=
    let usual : Commands := {}
    ⟨fun d => ⟨d.generate.getD usual.generate, d.helper.getD usual.helper,
      d.receiver.getD usual.receiver, d.source.getD usual.source⟩, {}, rfl⟩

/-! ### Whole settings -/

theorem isOrderFree_readTls :
  IsOrderFree readTls
  := isReadBy_readTls.isOrderFree isOrderFree_tlsRecord

theorem isOrderFree_readImage :
  IsOrderFree readImage
  := isReadBy_readImage.isOrderFree isOrderFree_imageRecord

theorem isOrderFree_readCommands :
  IsOrderFree readCommands
  := isReadBy_readCommands.isOrderFree isOrderFree_commandsRecord

theorem isOrderFree_record :
  record.IsOrderFree
  where
    closed := rfl
    reads := by
      simp only [record, List.forall_mem_cons, List.not_mem_nil, false_imp_iff, implies_true,
        and_true]
      and_intros
      all_goals apply isOrderFree_of
      · exact isOrderFree_readText.readList
      · exact isOrderFree_readText
      · exact isOrderFree_readText
      · exact isOrderFree_readNat _ _
      · exact isOrderFree_readText.readOptional
      · exact isOrderFree_readTls.readOptional
      · exact isOrderFree_readNat _ _
      · exact isOrderFree_readImage
      · exact isOrderFree_readText
      · exact isOrderFree_readText.readList
      · exact isOrderFree_readCommands
      · exact isOrderFree_readNat _ _
      · exact isOrderFree_readNat _ _
      · exact Grid.isOrderFree_read.readMap
    aliases_eq := by simp [record, Field.of]
    nodup_names := by decide
    apart := by
      simp only [record, List.pairwise_cons, List.forall_mem_cons, List.not_mem_nil, false_imp_iff,
        implies_true, and_true, List.Pairwise.nil]
      and_intros
      all_goals exact Field.commutes_of (fun _ _ => rfl) (fun _ _ => rfl) (fun _ _ _ => rfl)

theorem isReadBy_read :
  record.IsReadBy read
  := ⟨ofDraft, {}, rfl⟩

theorem isOrderFree_read :
  IsOrderFree read
  := isReadBy_read.isOrderFree isOrderFree_record

/-! ### Sections -/

/-- The sections of an environment file: the names that their members may have, and the places where
they stand. -/
inductive IsSection : (names : List String) → (place : Document → Document) → Prop where
  | environment : IsSection record.names id
  | tls {place : Document → Document} (hplace : record.Place "tls" place) :
    IsSection tlsRecord.names place
  | image {place : Document → Document} (hplace : record.Place "image" place) :
    IsSection imageRecord.names place
  | commands {place : Document → Document} (hplace : record.Place "commands" place) :
    IsSection commandsRecord.names place
  | grid {place : Document → Document} (hplace : record.Place "grids" place)
    (before after : List (Spelling × Document)) (name : Spelling) :
    IsSection Grid.record.names fun d => place (.object (before ++ (name, d) :: after))

/-- No settings are read from a document with a member of an unknown name in a section. -/
theorem as?_read_of_unknown {names : List String} {place : Document → Document}
    (hsection : IsSection names place) (before after : List (Spelling × Document)) {s : Spelling}
    (hs : ∀ known ∈ names, s.value? ≠ some known) (d : Document) (room : Nat) :
  (place (.object (before ++ (s, d) :: after))).as? (read room) = none
  := by
  cases hsection with
  | environment => exact isReadBy_read.as?_of_unknown isOrderFree_record before after hs d room
  | tls hplace =>
      have hfield : Field.of "tls" (·.tls) (fun d x => { d with tls := some x })
          (readOptional readTls) ∈ record.fields := by
        simp [record]
      apply isReadBy_read.as?_of_place isOrderFree_record hfield hplace
      intro room
      have hopening : (Document.object (before ++ (s, d) :: after)).opening ≠ 'n' := by
        rw [Document.opening]
        decide
      exact as?_readOptional_eq_none isOrderFree_readTls.uniform
        (isReadBy_readTls.as?_of_unknown isOrderFree_tlsRecord before after hs d room) hopening
  | image hplace =>
      have hfield : Field.of "image" (·.image) (fun d x => { d with image := some x }) readImage
          ∈ record.fields := by
        simp [record]
      exact isReadBy_read.as?_of_place isOrderFree_record hfield hplace
        (isReadBy_readImage.as?_of_unknown isOrderFree_imageRecord before after hs d) room
  | commands hplace =>
      have hfield : Field.of "commands" (·.commands) (fun d x => { d with commands := some x })
          readCommands ∈ record.fields := by
        simp [record]
      exact isReadBy_read.as?_of_place isOrderFree_record hfield hplace
        (isReadBy_readCommands.as?_of_unknown isOrderFree_commandsRecord before after hs d) room
  | grid hplace =>
      have hfield : Field.of "grids" (·.grids) (fun d x => { d with grids := some x })
          (readMap Grid.read) ∈ record.fields := by
        simp [record]
      apply isReadBy_read.as?_of_place isOrderFree_record hfield hplace
      apply as?_readMap_eq_none Grid.isOrderFree_read.uniform
      exact Grid.isReadBy_read.as?_of_unknown Grid.isOrderFree_record before after hs d

/-- From a text of a document the settings are parsed that are read from the document. -/
theorem toOption_parse {d : Document} {text : String} (h : d.IsWritten text) :
  (parse text).toOption = d.as? (read maxNesting)
  := by
  rw [← h.toOption_ofText isOrderFree_read.uniform, parse]
  cases ofText read text <;> rfl

theorem exists_parse_eq_error {text : String} (h : (parse text).toOption = none) :
  ∃ message, parse text = .error (.json message)
  := by
  rw [parse] at h ⊢
  cases hread : ofText read text with
  | error fault => exact ⟨_, rfl⟩
  | ok s =>
      rw [hread] at h
      cases h

end Settings

namespace Environment

theorem settingsOfFile_toUTF8 (text : String) :
  settingsOfFile (.ok text.toUTF8) = Settings.parse text
  := by
  have htext : String.fromUTF8? text.toUTF8 = some text := dif_pos text.isValidUTF8
  rw [settingsOfFile]
  simp only [htext]

theorem load_of_as?_eq_none {d : Document} {text : String} (h : d.IsWritten text)
    (hd : d.as? (Settings.read maxNesting) = none) (path : String) :
  ∃ message, (load (some (path, .ok text.toUTF8))).2 = .error (.json message)
  := by
  obtain ⟨message, hmessage⟩ :=
    Settings.exists_parse_eq_error ((Settings.toOption_parse h).trans hd)
  use message
  simp only [load, settingsOfFile_toUTF8, hmessage]

/-- What is loaded depends on what is read from the document of a text alone. -/
theorem load_eq_ok_of_as?_eq {d d' : Document} {text text' : String} (h : d.IsWritten text)
    (h' : d'.IsWritten text')
    (hd : d'.as? (Settings.read maxNesting) = d.as? (Settings.read maxNesting)) {path : String}
    {env : Environment} (hload : (load (some (path, .ok text.toUTF8))).2 = .ok env) :
  (load (some (path, .ok text'.toUTF8))).2 = .ok env
  := by
  rw [← Settings.toOption_parse h, ← Settings.toOption_parse h'] at hd
  simp only [load, settingsOfFile_toUTF8] at hload ⊢
  cases hs : Settings.parse text with
  | error e =>
      rw [hs] at hload
      cases hload
  | ok s =>
      rw [hs] at hd hload
      cases hs' : Settings.parse text' with
      | error e =>
          rw [hs'] at hd
          cases hd
      | ok s' =>
          rw [hs'] at hd
          cases hd
          exact hload

/-- An environment is loaded from every text of a document in which the members of objects stand in
another order, and none is loaded where a section has a member of an unknown name. -/
theorem load_permuted_and_load_unknown (path : String) :
  (∀ (d d' : Document) (text text' : String) (env : Environment), d.HasUniqueNames →
      d.Permutes d' → d.IsWritten text → d'.IsWritten text' →
        (load (some (path, .ok text.toUTF8))).2 = .ok env →
          (load (some (path, .ok text'.toUTF8))).2 = .ok env)
    ∧ ∀ (names : List String) (place : Document → Document), Settings.IsSection names place →
      ∀ (before after : List (Spelling × Document)) (s : Spelling) (d : Document),
        (∀ known ∈ names, s.value? ≠ some known) →
          ∀ text, (place (.object (before ++ (s, d) :: after))).IsWritten text →
            ∃ message, (load (some (path, .ok text.toUTF8))).2 = .error (.json message)
  := by
  constructor
  · intro d d' text text' env hunique hpermutes hd hd' hload
    have hread := Settings.isOrderFree_read.as?_of_permutes hpermutes hunique maxNesting
    exact load_eq_ok_of_as?_eq hd hd' hread hload
  · intro names place hsection before after s d hs text htext
    have hread := Settings.as?_read_of_unknown hsection before after hs d maxNesting
    exact load_of_as?_eq_none htext hread path

section

def hostName : Spelling :=
  .plain "helperHost" rfl

def hostMember : Spelling × Document :=
  (hostName, .text (.plain "a" rfl))

def imageName : Spelling :=
  .plain "image" rfl

def repositoryMember : Spelling × Document :=
  (.plain "repository" rfl, .text (.plain "r" rfl))

def baseTagMember : Spelling × Document :=
  (.plain "baseTag" rfl, .text (.plain "b" rfl))

def imageText : String :=
  "\x7b\"helperHost\":\"a\",\"image\":\x7b\"repository\":\"r\",\"baseTag\":\"b\"\x7d\x7d"

/-- The members of both objects stand the other way round. -/
def reversedText : String :=
  "\x7b\"image\":\x7b\"baseTag\":\"b\",\"repository\":\"r\"\x7d,\"helperHost\":\"a\"\x7d"

/-- An image has no member of the name tag. -/
def unknownText : String :=
  "\x7b\"image\":\x7b\"repository\":\"r\",\"tag\":null,\"baseTag\":\"b\"\x7d\x7d"

theorem load_permuted_and_load_unknown_image :
  (∃ env, (load (some ("e", .ok imageText.toUTF8))).2 = .ok env
      ∧ (load (some ("e", .ok reversedText.toUTF8))).2 = .ok env
      ∧ env.helperHost = ⟨"a"⟩ ∧ env.helperAddress = ⟨"a", 40000⟩ ∧ env.image = ⟨"r", "b"⟩)
    ∧ ∃ message, (load (some ("e", .ok unknownText.toUTF8))).2 = .error (.json message)
  := by
  obtain ⟨hpermuted, hunknown⟩ := load_permuted_and_load_unknown "e"
  constructor
  · have hload : ∃ env, (load (some ("e", .ok imageText.toUTF8))).2 = .ok env
        ∧ env.helperHost = ⟨"a"⟩ ∧ env.helperAddress = ⟨"a", 40000⟩ ∧ env.image = ⟨"r", "b"⟩ := by
      simp only [load, settingsOfFile_toUTF8]
      exact ⟨_, rfl, rfl, rfl, rfl⟩
    obtain ⟨env, hload, hhost, haddress, himage⟩ := hload
    let image : Document := .object [repositoryMember, baseTagMember]
    let reversed : Document := .object [baseTagMember, repositoryMember]
    have hunique : (Document.object [hostMember, (imageName, image)]).HasUniqueNames :=
      .pair (by decide) (.text _) (.pair (by decide) (.text _) (.text _))
    have hswaps : Document.Swaps (.object [hostMember, (imageName, image)])
        (.object [hostMember, (imageName, reversed)]) :=
      .value [hostMember] [] imageName (.members (.swap ..))
    have hpermutes : Document.Permutes (.object [hostMember, (imageName, image)])
        (.object [(imageName, reversed), hostMember]) :=
      .tail (.single hswaps) (.members (.swap ..))
    refine ⟨env, hload, ?_, hhost, haddress, himage⟩
    exact hpermuted _ _ _ _ env hunique hpermutes ⟨_, [], by decide, .flatten _, nofun⟩
      ⟨_, [], by decide, .flatten _, nofun⟩ hload
  · have hplace : Settings.record.Place "image" fun d => .object [(imageName, d)] :=
      .member [] [] (by decide)
    exact hunknown _ _ (.image hplace) [repositoryMember] [baseTagMember] (.plain "tag" rfl) .null
      (by decide) _ ⟨_, [], by decide, .flatten _, nofun⟩

end

end Environment

end JoinBench
