import JoinBench.Proofs.Text
import JoinBench.Proofs.UnitFlags
import JoinBench.Proofs.UnitFlags.Address

/-!
# Flags as arguments

The text of flags that were built step by step comes apart at its spaces into the names of the
flags and their values, and the list of the sources comes apart at its commas.  So different flags
and different roles have different texts.  At blanks of any kind the text comes apart in the same
way only where no name of a source has a blank: a name may have any blank but the space.
-/

namespace JoinBench.UnitFlags

open Text

/-- The flags that can be built step by step from no flags. -/
inductive IsBuilt : UnitFlags → Prop where
  | none : IsBuilt .none
  | withHelperAddress {flags : UnitFlags} {text : String} {address : HelperAddress}
    (h : IsBuilt flags) (hparse : HelperAddress.parse text = .ok address) :
    IsBuilt (flags.withHelperAddress address)
  | withSources {flags flags' : UnitFlags} {ids : List RoleId} (h : IsBuilt flags)
    (hids : flags.withSources ids = .ok flags') : IsBuilt flags'
  | withRows {flags : UnitFlags} (h : IsBuilt flags) (n : Nat) : IsBuilt (flags.withRows n)
  | withCpu {flags : UnitFlags} (h : IsBuilt flags) (n : Nat) : IsBuilt (flags.withCpu n)

/-! ### Arguments -/

/-- A flag with its value as arguments, if it is set. -/
def argument (name : String) : Option String → List String
  | some value => [name, value]
  | .none => []

/-- The names of the sources as one value. -/
def sourceList (ids : List RoleId) : String :=
  String.intercalate "," (ids.map RoleId.text)

/-- The arguments that the flags of a role stand for: the identity, and the name and the value of
each flag that is set. -/
def arguments (flags : UnitFlags) (role : RoleId) : List String :=
  ["-id", role.text]
    ++ argument "-helper_address" (flags.helperAddress.map HelperAddress.display)
    ++ argument "-sources" (flags.sources.map sourceList)
    ++ argument "-n_rows" (flags.nRows.map Nat.repr)
    ++ argument "-n_cpu" (flags.nCpu.map Nat.repr)

variable {flags flags' : UnitFlags} {role role' : RoleId} {ids : List RoleId} {text : String}

/-- Flags with their values as arguments. -/
def pairArguments (pairs : List (String × String)) : List String :=
  pairs.flatMap fun f => ["-" ++ f.1, f.2]

theorem intercalate_flag (pairs : List (String × String)) :
  String.intercalate " " (pairs.map fun f => flag f.1 f.2)
    = String.intercalate " " (pairArguments pairs)
  := by
  induction pairs with
  | nil => rfl
  | cons first rest ih =>
      have hcons : pairArguments (first :: rest)
          = ("-" ++ first.1) :: first.2 :: pairArguments rest := rfl
      rw [List.map_cons, hcons, String.intercalate_cons_of_ne_nil (List.cons_ne_nil _ _), flag]
      cases rest with
      | nil => simp [pairArguments, String.intercalate_singleton]
      | cons next rest =>
          have hnext : pairArguments (next :: rest) ≠ [] := List.cons_ne_nil _ _
          rw [String.intercalate_cons_of_ne_nil (by simp), String.intercalate_cons_of_ne_nil hnext,
            ih]
          simp only [String.append_assoc]

theorem arguments_eq (flags : UnitFlags) (role : RoleId) :
  flags.arguments role = pairArguments (("id", role.text) :: flags.assigned)
  := by
  obtain ⟨address, ids, rows, cpu⟩ := flags
  cases address <;> cases ids <;> cases rows <;> cases cpu <;> rfl

/-- The text of flags is that of their arguments. -/
theorem text_eq_intercalate (flags : UnitFlags) (role : RoleId) :
  flags.text role = String.intercalate " " (flags.arguments role)
  := by
  rw [text, intercalate_flag, arguments_eq]

/-- A text that is not empty and has only such characters. -/
def IsOf (P : Char → Prop) (text : String) : Prop :=
  text ≠ "" ∧ ∀ c ∈ text.toList, P c

theorem IsOf.mono {P Q : Char → Prop} (h : IsOf P text) (hPQ : ∀ c, P c → Q c) :
  IsOf Q text
  := ⟨h.1, fun c hc => hPQ c (h.2 c hc)⟩

instance {P : Char → Prop} [DecidablePred P] (text : String) : Decidable (IsOf P text) :=
  decidable_of_iff (text ≠ "" ∧ (text.toList.all fun c => decide (P c)) = true)
    (by simp [IsOf])

/-- The characters of a word. -/
def IsSolid (c : Char) : Prop :=
  isBlank c = false

instance : DecidablePred IsSolid :=
  fun c => inferInstanceAs (Decidable (isBlank c = false))

theorem hasBlank_eq_false_iff :
  hasBlank text = false ↔ ∀ c ∈ text.toList, IsSolid c
  := by
  simp [hasBlank, IsSolid]

theorem render_eq_ok (h : flags.render role = .ok text) :
  text = flags.text role ∧ IsOf IsSolid role.text
  := by
  rw [render] at h
  split_ifs at h with hrole
  cases h
  rw [Bool.or_eq_true, not_or] at hrole
  refine ⟨rfl, ?_, ?_⟩
  · intro hempty
    exact hrole.1 (String.isEmpty_iff.mpr hempty)
  · exact hasBlank_eq_false_iff.mp (Bool.not_eq_true _ ▸ hrole.2)

/-! ### What is checked while flags are built -/

/-- The helper address and the list of sources passed their checks. -/
structure IsChecked (flags : UnitFlags) : Prop where
  isBlank_host : ∀ {address : HelperAddress}, flags.helperAddress = some address →
    ∀ c ∈ address.host.toList, isBlank c = false
  sources_ne_nil : ∀ {ids : List RoleId}, flags.sources = some ids → ids ≠ []
  isListable : ∀ {ids : List RoleId}, flags.sources = some ids → ∀ id ∈ ids, isListable id = true

theorem withSources_eq_ok (h : flags.withSources ids = .ok flags') :
  ids ≠ [] ∧ (∀ id ∈ ids, isListable id = true) ∧ flags' = { flags with sources := some ids }
  := by
  rw [withSources] at h
  split_ifs at h with hempty
  split at h
  · cases h
  · next hfind =>
    cases h
    refine ⟨?_, ?_, rfl⟩
    · simpa using hempty
    · simpa using hfind

theorem IsBuilt.isChecked (h : flags.IsBuilt) :
  flags.IsChecked
  := by
  induction h with
  | none =>
      constructor
      · rintro _ ⟨⟩
      · rintro _ ⟨⟩
      · rintro _ ⟨⟩
  | withHelperAddress _ hparse ih =>
      constructor
      · rintro _ ⟨⟩
        exact (HelperAddress.host_of_parse hparse).2
      · exact ih.sources_ne_nil
      · exact ih.isListable
  | withSources _ hids ih =>
      obtain ⟨hne, hlistable, rfl⟩ := withSources_eq_ok hids
      constructor
      · exact ih.isBlank_host
      · rintro _ ⟨⟩
        exact hne
      · rintro _ ⟨⟩
        exact hlistable
  | withRows _ _ ih => exact ⟨ih.isBlank_host, ih.sources_ne_nil, ih.isListable⟩
  | withCpu _ _ ih => exact ⟨ih.isBlank_host, ih.sources_ne_nil, ih.isListable⟩

theorem isListable_iff {id : RoleId} :
  isListable id = true ↔ id.text ≠ "" ∧ ',' ∉ id.text.toList ∧ ' ' ∉ id.text.toList
  := by
  simp only [isListable, Bool.and_eq_true, Bool.not_eq_true', List.any_eq_false,
    String.isEmpty_eq_false_iff, Bool.or_eq_true, decide_eq_true_eq, not_or]
  constructor
  · rintro ⟨hne, hchars⟩
    exact ⟨hne, fun hc => (hchars _ hc).1 rfl, fun hc => (hchars _ hc).2 rfl⟩
  · rintro ⟨hne, hcomma, hspace⟩
    exact ⟨hne, fun c hc => ⟨ne_of_mem_of_not_mem hc hcomma, ne_of_mem_of_not_mem hc hspace⟩⟩

/-! ### Splitting -/

theorem isOf_repr (n : Nat) :
  IsOf IsSolid n.repr
  := by
  constructor
  · simp
  · rw [Nat.toList_repr]
    exact fun c hc => isBlank_of_mem_toDigits hc

theorem isOf_display {address : HelperAddress}
    (h : ∀ c ∈ address.host.toList, isBlank c = false) :
  IsOf IsSolid address.display
  := by
  constructor
  · simp [HelperAddress.display]
  · simp only [HelperAddress.display, String.toList_append, List.forall_mem_append]
    exact ⟨⟨h, (by decide : IsOf IsSolid ":").2⟩, (isOf_repr address.port).2⟩

theorem sourceList_cons_cons (id next : RoleId) (rest : List RoleId) :
  sourceList (id :: next :: rest) = id.text ++ "," ++ sourceList (next :: rest)
  := String.intercalate_cons_of_ne_nil (List.cons_ne_nil _ _)

theorem isOf_sourceList {P : Char → Prop} (hcomma : P ',') (hne : ids ≠ [])
    (hids : ∀ id ∈ ids, IsOf P id.text) :
  IsOf P (sourceList ids)
  := by
  induction ids with
  | nil => cases hne rfl
  | cons id rest ih =>
      obtain ⟨hid, hrest⟩ := List.forall_mem_cons.mp hids
      cases rest with
      | nil =>
          rw [sourceList, List.map_singleton, String.intercalate_singleton]
          exact hid
      | cons next rest =>
          have hnext := ih (List.cons_ne_nil _ _) hrest
          rw [sourceList_cons_cons]
          constructor
          · simp
          · simp only [String.toList_append, List.forall_mem_append]
            exact ⟨⟨hid.2, List.forall_mem_singleton.mpr hcomma⟩, hnext.2⟩

theorem forall_mem_of_sourceList {P : Char → Prop} (h : ∀ c ∈ (sourceList ids).toList, P c) :
  ∀ id ∈ ids, ∀ c ∈ id.text.toList, P c
  := by
  induction ids with
  | nil => exact List.forall_mem_nil _
  | cons id rest ih =>
      cases rest with
      | nil =>
          rw [sourceList, List.map_singleton, String.intercalate_singleton] at h
          exact List.forall_mem_singleton.mpr h
      | cons next rest =>
          rw [sourceList_cons_cons] at h
          simp only [String.toList_append, List.forall_mem_append] at h
          exact List.forall_mem_cons.mpr ⟨h.1.1, ih h.2⟩

theorem forall_mem_argument {P : Char → Prop} {name : String} {value : Option String}
    (hname : IsOf P name) (hvalue : ∀ v, value = some v → IsOf P v) :
  ∀ a ∈ argument name value, IsOf P a
  := by
  cases value with
  | none => exact List.forall_mem_nil _
  | some v => exact List.forall_mem_cons.mpr ⟨hname, List.forall_mem_singleton.mpr (hvalue v rfl)⟩

/-- Where the names of the sources are words of some characters, to which all belong that are not
blank, the arguments are so as well. -/
theorem IsChecked.isOf_of_mem_arguments (h : flags.IsChecked) {P : Char → Prop}
    (hrole : IsOf IsSolid role.text) (hP : ∀ c, IsSolid c → P c)
    (hsources : ∀ ids, flags.sources = some ids → ∀ id ∈ ids, IsOf P id.text) :
  ∀ a ∈ flags.arguments role, IsOf P a
  := by
  have hname : ∀ name : String, IsOf IsSolid name → IsOf P name := fun _ h => h.mono hP
  have hnumber : ∀ {n? : Option Nat} (v : String), n?.map Nat.repr = some v → IsOf P v := by
    intro n? v hv
    obtain ⟨n, -, rfl⟩ := Option.map_eq_some_iff.mp hv
    exact (isOf_repr n).mono hP
  simp only [arguments, List.forall_mem_append]
  refine ⟨⟨⟨⟨?_, ?_⟩, ?_⟩, ?_⟩, ?_⟩
  · rw [List.forall_mem_cons, List.forall_mem_singleton]
    exact ⟨hname _ (by decide), hname _ hrole⟩
  · apply forall_mem_argument (hname _ (by decide))
    intro v hv
    obtain ⟨address, haddress, rfl⟩ := Option.map_eq_some_iff.mp hv
    exact hname _ (isOf_display (h.isBlank_host haddress))
  · apply forall_mem_argument (hname _ (by decide))
    intro v hv
    obtain ⟨ids, hids, rfl⟩ := Option.map_eq_some_iff.mp hv
    exact isOf_sourceList (hP _ (by decide)) (h.sources_ne_nil hids) (hsources ids hids)
  · exact forall_mem_argument (hname _ (by decide)) hnumber
  · exact forall_mem_argument (hname _ (by decide)) hnumber

/-- The list of the sources comes apart at its commas. -/
theorem splitOn_sourceList (hne : ids ≠ []) (hids : ∀ id ∈ ids, isListable id = true) :
  (sourceList ids).toList.splitOn ',' = ids.map (·.text.toList)
  := by
  have htext : (sourceList ids).toList = [','].intercalate (ids.map (·.text.toList)) := by
    rw [sourceList, String.toList_intercalate, List.map_map]
    rfl
  rw [htext]
  apply List.splitOn_intercalate
  · intro name hname
    obtain ⟨id, hid, rfl⟩ := List.mem_map.mp hname
    exact (isListable_iff.mp (hids id hid)).2.1
  · simpa using hne

/-- Different lists of sources are different values. -/
theorem sourceList_inj {ids' : List RoleId} (hne : ids ≠ [])
    (hids : ∀ id ∈ ids, isListable id = true) (hne' : ids' ≠ [])
    (hids' : ∀ id ∈ ids', isListable id = true)
    (h : sourceList ids = sourceList ids') :
  ids = ids'
  := by
  have hnames : ids.map (·.text.toList) = ids'.map (·.text.toList) := by
    rw [← splitOn_sourceList hne hids, h, splitOn_sourceList hne' hids']
  apply List.map_injective_iff.mpr ?_ hnames
  rintro ⟨name⟩ ⟨name'⟩ htext
  exact congrArg RoleId.mk (String.toList_inj.mp htext)

/-- The text comes apart at its spaces into the arguments. -/
theorem IsChecked.splitOn_text (h : flags.IsChecked) (hrole : IsOf IsSolid role.text) :
  (flags.text role).toList.splitOn ' ' = (flags.arguments role).map String.toList
  := by
  have harguments : ∀ a ∈ flags.arguments role, IsOf (· ≠ ' ') a := by
    apply h.isOf_of_mem_arguments hrole
    · rintro c hc rfl
      revert hc
      decide
    · intro ids hids id hid
      obtain ⟨hne, -, hspace⟩ := isListable_iff.mp (h.isListable hids id hid)
      exact ⟨hne, fun c hc => ne_of_mem_of_not_mem hc hspace⟩
  rw [text_eq_intercalate, String.toList_intercalate]
  apply List.splitOn_intercalate
  · rintro _ hargument hspace
    obtain ⟨a, ha, rfl⟩ := List.mem_map.mp hargument
    exact (harguments a ha).2 _ hspace rfl
  · simp [arguments]

/-- The text comes apart at its blanks into the arguments where the names of the sources have no
blanks.  Elsewhere it does not, since words have no blanks. -/
theorem IsChecked.words_text_iff (h : flags.IsChecked) (hrole : IsOf IsSolid role.text) :
  words (flags.text role).toList = (flags.arguments role).map String.toList
    ↔ ∀ ids, flags.sources = some ids → ∀ id ∈ ids, hasBlank id.text = false
  := by
  constructor
  · intro hwords ids hids id hid
    have hargument : sourceList ids ∈ flags.arguments role := by
      simp [arguments, hids, argument]
    have hword : (sourceList ids).toList ∈ words (flags.text role).toList :=
      hwords ▸ List.mem_map_of_mem hargument
    exact hasBlank_eq_false_iff.mpr (forall_mem_of_sourceList (isBlank_of_mem_words hword) id hid)
  · intro hsolid
    have harguments : ∀ a ∈ flags.arguments role, IsOf IsSolid a := by
      apply h.isOf_of_mem_arguments hrole (fun _ hc => hc)
      intro ids hids id hid
      refine ⟨(isListable_iff.mp (h.isListable hids id hid)).1, ?_⟩
      exact hasBlank_eq_false_iff.mp (hsolid ids hids id hid)
    rw [text_eq_intercalate, String.toList_intercalate]
    apply words_intercalate (by decide)
    intro _ hargument
    obtain ⟨a, ha, rfl⟩ := List.mem_map.mp hargument
    exact ⟨by simpa using (harguments a ha).1, (harguments a ha).2⟩

/-! ### Different flags -/

theorem pairArguments_injective :
  Function.Injective pairArguments
  := by
  intro pairs pairs' h
  induction pairs generalizing pairs' with
  | nil =>
      cases pairs' with
      | nil => rfl
      | cons first rest => cases h
  | cons first rest ih =>
      cases pairs' with
      | nil => cases h
      | cons first' rest' =>
          obtain ⟨hname, hvalue, hrest⟩ : "-" ++ first.1 = "-" ++ first'.1 ∧ first.2 = first'.2
              ∧ pairArguments rest = pairArguments rest' := by
            simpa [pairArguments] using h
          rw [Prod.ext (String.append_right_inj "-" |>.mp hname) hvalue, ih hrest]

theorem lookup_assigned (flags : UnitFlags) :
  flags.assigned.lookup "helper_address" = flags.helperAddress.map HelperAddress.display
    ∧ flags.assigned.lookup "sources" = flags.sources.map sourceList
    ∧ flags.assigned.lookup "n_rows" = flags.nRows.map Nat.repr
    ∧ flags.assigned.lookup "n_cpu" = flags.nCpu.map Nat.repr
  := by
  obtain ⟨address, ids, rows, cpu⟩ := flags
  cases address <;> cases ids <;> cases rows <;> cases cpu <;> exact ⟨rfl, rfl, rfl, rfl⟩

/-- Flags that passed their checks can be told from their arguments. -/
theorem IsChecked.eq_of_arguments_eq (h : flags.IsChecked) (h' : flags'.IsChecked)
    (heq : flags'.arguments role' = flags.arguments role) :
  flags' = flags ∧ role' = role
  := by
  rw [arguments_eq, arguments_eq] at heq
  obtain ⟨hrole, hassigned⟩ := List.cons.inj (pairArguments_injective heq)
  obtain ⟨haddress, hsources, hrows, hcpu⟩ := flags.lookup_assigned
  obtain ⟨haddress', hsources', hrows', hcpu'⟩ := flags'.lookup_assigned
  rw [hassigned] at haddress' hsources' hrows' hcpu'
  have hlist : flags'.sources = flags.sources := by
    have hmap := hsources'.symm.trans hsources
    cases hids : flags.sources with
    | none =>
        rw [hids] at hmap
        exact Option.map_eq_none_iff.mp hmap
    | some ids =>
        rw [hids] at hmap
        obtain ⟨ids', hids', heq⟩ := Option.map_eq_some_iff.mp hmap
        rw [hids', sourceList_inj (h'.sources_ne_nil hids') (h'.isListable hids')
          (h.sources_ne_nil hids) (h.isListable hids) heq]
  constructor
  · obtain ⟨address, ids, rows, cpu⟩ := flags
    obtain ⟨address', ids', rows', cpu'⟩ := flags'
    simp only [UnitFlags.mk.injEq]
    refine ⟨?_, hlist, ?_, ?_⟩
    · exact Option.map_injective HelperAddress.display_injective (haddress'.symm.trans haddress)
    · exact Option.map_injective (fun _ _ => Nat.repr_injective) (hrows'.symm.trans hrows)
    · exact Option.map_injective (fun _ _ => Nat.repr_injective) (hcpu'.symm.trans hcpu)
  · obtain ⟨name⟩ := role
    obtain ⟨name'⟩ := role'
    exact congrArg RoleId.mk (congrArg Prod.snd hrole)

/-- Texts of flags that were built come apart at their spaces into the names and the values of the
flags that are set, and at blanks of any kind just where no name of a source has a blank.  The list
of the sources comes apart at its commas.  Other flags or another role have another text. -/
theorem render_spec (hbuilt : flags.IsBuilt) (hrender : flags.render role = .ok text) :
  text.toList.splitOn ' ' = (flags.arguments role).map String.toList
  ∧ (words text.toList = (flags.arguments role).map String.toList
    ↔ ∀ ids, flags.sources = some ids → ∀ id ∈ ids, hasBlank id.text = false)
  ∧ (∀ ids, flags.sources = some ids →
    (sourceList ids).toList.splitOn ',' = ids.map (·.text.toList))
  ∧ ∀ flags' role', flags'.IsBuilt → flags'.render role' = .ok text →
    flags' = flags ∧ role' = role
  := by
  have hchecked := hbuilt.isChecked
  obtain ⟨rfl, hrole⟩ := render_eq_ok hrender
  refine ⟨hchecked.splitOn_text hrole, hchecked.words_text_iff hrole, ?_, ?_⟩
  · intro ids hids
    exact splitOn_sourceList (hchecked.sources_ne_nil hids) (hchecked.isListable hids)
  · intro flags' role' hbuilt' hrender'
    obtain ⟨htext, hrole'⟩ := render_eq_ok hrender'
    have hsplit := hbuilt'.isChecked.splitOn_text hrole'
    rw [← htext, hchecked.splitOn_text hrole] at hsplit
    apply hchecked.eq_of_arguments_eq hbuilt'.isChecked
    exact List.map_injective_iff.mpr (fun _ _ => String.toList_inj.mp) hsplit.symm

/-- All flags, with colons in the address and a tab in the name of a source. -/
def tabbed : UnitFlags where
  helperAddress := some ⟨"fe80::1", 80⟩
  sources := some [⟨"a\tb"⟩, ⟨"c"⟩]
  nRows := some 10
  nCpu := some 0

theorem isBuilt_tabbed :
  tabbed.IsBuilt
  := by
  have haddress : HelperAddress.parse "fe80::1:+0080" = .ok ⟨"fe80::1", 80⟩ := by
    decide +kernel
  have hids : (UnitFlags.none.withHelperAddress ⟨"fe80::1", 80⟩).withSources [⟨"a\tb"⟩, ⟨"c"⟩]
      = .ok ⟨some ⟨"fe80::1", 80⟩, some [⟨"a\tb"⟩, ⟨"c"⟩], .none, .none⟩ := by
    decide +kernel
  exact (((IsBuilt.none.withHelperAddress haddress).withSources hids).withRows 10).withCpu 0

theorem render_spec_tabbed :
  tabbed.render ⟨"receiver"⟩
      = .ok "-id receiver -helper_address fe80::1:80 -sources a\tb,c -n_rows 10 -n_cpu 0"
    ∧ "-id receiver -helper_address fe80::1:80 -sources a\tb,c -n_rows 10 -n_cpu 0".toList.splitOn
        ' ' = (tabbed.arguments ⟨"receiver"⟩).map String.toList
    ∧ (sourceList [⟨"a\tb"⟩, ⟨"c"⟩]).toList.splitOn ',' = ["a\tb".toList, "c".toList]
  := by
  have hrender : tabbed.render ⟨"receiver"⟩
      = .ok "-id receiver -helper_address fe80::1:80 -sources a\tb,c -n_rows 10 -n_cpu 0" := by
    decide +kernel
  obtain ⟨hsplit, -, hlist, -⟩ := render_spec isBuilt_tabbed hrender
  exact ⟨hrender, hsplit, hlist _ rfl⟩

/-- A name of a source with tabs may hold further flags: at its blanks the text comes apart into
the arguments of other flags. -/
theorem exists_words_render_ne :
  ∃ (flags : UnitFlags) (text : String), flags.IsBuilt ∧ flags.render ⟨"receiver"⟩ = .ok text
    ∧ words text.toList ≠ (flags.arguments ⟨"receiver"⟩).map String.toList
    ∧ words text.toList
      = (arguments { flags with sources := some [⟨"a"⟩], nRows := some 5 } ⟨"receiver"⟩).map
          String.toList
  := by
  have hids : UnitFlags.none.withSources [⟨"a\t-n_rows\t5"⟩]
      = .ok ⟨.none, some [⟨"a\t-n_rows\t5"⟩], .none, .none⟩ := by
    decide +kernel
  refine ⟨_, "-id receiver -sources a\t-n_rows\t5", IsBuilt.none.withSources hids, ?_, ?_, ?_⟩
  · decide +kernel
  · decide +kernel
  · decide +kernel

end JoinBench.UnitFlags
