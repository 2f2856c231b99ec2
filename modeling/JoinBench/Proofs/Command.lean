import JoinBench.Command
import JoinBench.Proofs.UnitFlags.Arguments
import Mathlib.Data.List.Find

/-!
# Filling templates

Filling a template replaces the placeholders of some fills in one pass from left to right and copies
everything else.  A placeholder is a name in braces.  What takes its place has no brace but a digit,
and no name has a digit; so no placeholder ever reaches into what was filled in.  Therefore filling
first with some fills and then with others is filling with all of them in one pass, and a template
that was filled has no placeholder left.
-/

namespace JoinBench.Command

/-- What takes the place of the placeholder of a name. -/
structure Fill where
  name : String
  text : String

/-- A name in braces. -/
def Fill.placeholder (f : Fill) : List Char :=
  '\x7b' :: (f.name.toList ++ ['\x7d'])

/-- The fill whose placeholder a text starts with. -/
def due? (fills : List Fill) (text : List Char) : Option Fill :=
  fills.find? fun f => f.placeholder.isPrefixOf text

/-- One pass over a text; `skip` characters still belong to a placeholder that was filled. -/
def fillFrom (fills : List Fill) : (skip : Nat) → List Char → List Char
  | _, [] => []
  | skip + 1, _ :: rest => fillFrom fills skip rest
  | 0, c :: rest =>
    match due? fills (c :: rest) with
    | some f => f.text.toList ++ fillFrom fills (f.placeholder.length - 1) rest
    | none => c :: fillFrom fills 0 rest

/-- The text with every placeholder filled, and all else copied. -/
def fill (fills : List Fill) (text : List Char) : List Char :=
  fillFrom fills 0 text

/-- The fills of a template for an experiment with the given sources. -/
def fills (sources : List RoleId) (point : Point) : List Fill :=
  [⟨"sources", UnitFlags.sourceList sources⟩, ⟨"set_size", point.setSize.repr⟩,
    ⟨"join_size", point.joinSize.repr⟩, ⟨"seed", point.seed.repr⟩]

variable {f : Fill} {earlier later : List Fill} {c : Char} {front rest text word : List Char}

/-! ### A single pass -/

theorem due?_eq_none_iff :
  due? later text = none ↔ ∀ f ∈ later, ¬ f.placeholder <+: text
  := by
  simp only [due?, List.find?_eq_none, List.isPrefixOf_iff_prefix]

theorem of_due?_eq_some (h : due? later text = some f) :
  f ∈ later ∧ f.placeholder <+: text
  := ⟨List.mem_of_find?_eq_some h, List.isPrefixOf_iff_prefix.mp (by simpa using List.find?_some h)⟩

theorem due?_append (earlier later : List Fill) (text : List Char) :
  due? (earlier ++ later) text = (due? earlier text).or (due? later text)
  := List.find?_append

/-- A placeholder starts with a brace. -/
theorem due?_cons_of_ne (h : c ≠ '\x7b') (later : List Fill) (rest : List Char) :
  due? later (c :: rest) = none
  := by
  rw [due?_eq_none_iff]
  intro f _ hstarts
  exact h (List.cons_prefix_cons.mp hstarts).1.symm

theorem fillFrom_eq (later : List Fill) (skip : Nat) (text : List Char) :
  fillFrom later skip text = fill later (text.drop skip)
  := by
  induction text generalizing skip with
  | nil => simp [fill, fillFrom]
  | cons c rest ih =>
      cases skip with
      | zero => rfl
      | succ skip => exact ih skip

theorem fill_of_due?_eq_some (h : due? later text = some f) :
  fill later text = f.text.toList ++ fill later (text.drop f.placeholder.length)
  := by
  cases text with
  | nil => cases List.prefix_nil.mp (of_due?_eq_some h).2
  | cons c rest =>
      rw [fill, fillFrom, h]
      simp only
      rw [fillFrom_eq]
      rfl

theorem fill_cons_of_due?_eq_none (h : due? later (c :: rest) = none) :
  fill later (c :: rest) = c :: fill later rest
  := by
  rw [fill, fillFrom, h]
  rfl

/-- What has no opening brace is copied. -/
theorem fill_append (h : '\x7b' ∉ front) (later : List Fill) (rest : List Char) :
  fill later (front ++ rest) = front ++ fill later rest
  := by
  induction front with
  | nil => rfl
  | cons c front ih =>
      rw [List.mem_cons, not_or] at h
      obtain ⟨hc, hfront⟩ := h
      rw [List.cons_append, fill_cons_of_due?_eq_none (due?_cons_of_ne (Ne.symm hc) _ _), ih hfront,
        List.cons_append]

/-- What has no placeholder is copied. -/
theorem fill_eq_self (h : ∀ f ∈ later, ¬ f.placeholder <:+: text) :
  fill later text = text
  := by
  induction text with
  | nil => rfl
  | cons c rest ih =>
      have hdue : due? later (c :: rest) = none :=
        due?_eq_none_iff.mpr fun f hf hstarts => h f hf hstarts.isInfix
      rw [fill_cons_of_due?_eq_none hdue, ih]
      exact fun f hf hrest => h f hf (List.infix_cons_iff.mpr (.inr hrest))

/-- Replacing the placeholder of a name is a pass with one fill. -/
theorem replace_eq_fill {pattern name by_ : String}
    (h : pattern.toList = '\x7b' :: (name.toList ++ ['\x7d'])) (text : List Char) :
  replace pattern by_ text = fill [⟨name, by_⟩] text
  := by
  have h : pattern.toList = Fill.placeholder ⟨name, by_⟩ := h
  have hfrom : ∀ skip, replaceFrom pattern.toList by_.toList skip text
      = fillFrom [⟨name, by_⟩] skip text := by
    rw [h]
    induction text with
    | nil =>
        intro skip
        rw [replaceFrom, fillFrom]
    | cons c rest ih =>
        rintro (_ | skip)
        · rw [replaceFrom, fillFrom, due?, List.find?_singleton]
          split_ifs
          · rw [ih]
          · rw [ih]
        · rw [replaceFrom, fillFrom, ih]
  exact hfrom 0

/-! ### Fills that keep apart from placeholders -/

/-- The characters of names: neither braces nor digits. -/
def IsOfName (c : Char) : Prop :=
  c ≠ '\x7b' ∧ c ≠ '\x7d' ∧ c.isDigit = false

instance : DecidablePred IsOfName :=
  fun _ => inferInstanceAs (Decidable (_ ∧ _))

/-- The characters of what is filled in. -/
def IsBraceless (c : Char) : Prop :=
  c ≠ '\x7b' ∧ c ≠ '\x7d'

/-- The name has neither braces nor digits, and the text has no brace, but a digit. -/
structure Fill.IsApart (f : Fill) : Prop where
  isOfName : ∀ c ∈ f.name.toList, IsOfName c
  isBraceless : ∀ c ∈ f.text.toList, IsBraceless c
  exists_isDigit : ∃ c ∈ f.text.toList, c.isDigit = true

theorem Fill.IsApart.notMem_text (h : f.IsApart) :
  '\x7b' ∉ f.text.toList
  := fun hmem => (h.isBraceless _ hmem).1 rfl

theorem Fill.IsApart.notMem_name (h : f.IsApart) :
  '\x7b' ∉ f.name.toList ++ ['\x7d']
  := by
  rw [List.mem_append, not_or]
  exact ⟨fun hmem => (h.isOfName _ hmem).1 rfl, by decide⟩

/-- The end of a placeholder does not begin with what was filled in. -/
theorem Fill.IsApart.not_isPrefix_text (h : f.IsApart) (hword : ∀ c ∈ word, IsOfName c)
    (rest : List Char) :
  ¬ word ++ ['\x7d'] <+: f.text.toList ++ rest
  := by
  intro hstarts
  obtain hin | hover := List.prefix_or_prefix_of_prefix hstarts (List.prefix_append _ rest)
  · exact (h.isBraceless _ (hin.mem (by simp))).2 rfl
  · obtain ⟨d, hd, hdigit⟩ := h.exists_isDigit
    obtain hmem | hmem := List.mem_append.mp (hover.mem hd)
    · rw [(hword d hmem).2.2] at hdigit
      cases hdigit
    · rw [List.mem_singleton.mp hmem] at hdigit
      revert hdigit
      decide

/-- Behind a pass a text begins with the end of a placeholder just where it did before. -/
theorem isPrefix_fill_iff (hearlier : ∀ f ∈ earlier, f.IsApart) (hword : ∀ c ∈ word, IsOfName c) :
  word ++ ['\x7d'] <+: fill earlier text ↔ word ++ ['\x7d'] <+: text
  := by
  constructor
  · intro hstarts
    induction text generalizing word with
    | nil => exact hstarts
    | cons c rest ih =>
        cases hdue : due? earlier (c :: rest) with
        | some f =>
            rw [fill_of_due?_eq_some hdue] at hstarts
            exact absurd hstarts
              ((hearlier f (of_due?_eq_some hdue).1).not_isPrefix_text hword _)
        | none =>
            rw [fill_cons_of_due?_eq_none hdue] at hstarts
            cases word with
            | nil => simpa using hstarts
            | cons a word =>
                rw [List.cons_append, List.cons_prefix_cons] at hstarts ⊢
                exact ⟨hstarts.1, ih (List.forall_mem_cons.mp hword).2 hstarts.2⟩
  · rintro ⟨rest, rfl⟩
    have hbrace : '\x7b' ∉ word ++ ['\x7d'] := by
      rw [List.mem_append, not_or]
      exact ⟨fun hmem => (hword _ hmem).1 rfl, by decide⟩
    rw [fill_append hbrace]
    apply List.prefix_append

/-- Where a pass copies a character, the same placeholders start there before and behind it. -/
theorem isPrefix_cons_fill_iff (hearlier : ∀ f ∈ earlier, f.IsApart) (hf : f.IsApart) :
  f.placeholder <+: c :: fill earlier rest ↔ f.placeholder <+: c :: rest
  := by
  rw [Fill.placeholder, List.cons_prefix_cons, List.cons_prefix_cons,
    isPrefix_fill_iff hearlier hf.isOfName]

theorem due?_cons_fill (hearlier : ∀ f ∈ earlier, f.IsApart) (hlater : ∀ f ∈ later, f.IsApart) :
  due? later (c :: fill earlier rest) = due? later (c :: rest)
  := by
  apply List.find?_congr
  intro f hf
  rw [Bool.eq_iff_iff, List.isPrefixOf_iff_prefix, List.isPrefixOf_iff_prefix,
    isPrefix_cons_fill_iff hearlier (hlater f hf)]

/-- A placeholder that an earlier pass has copied is skipped as a whole. -/
theorem drop_cons_fill (hf : f.IsApart) (h : f.placeholder <+: c :: rest) :
  (c :: fill earlier rest).drop f.placeholder.length
    = fill earlier ((c :: rest).drop f.placeholder.length)
  := by
  obtain ⟨behind, hbehind⟩ := h
  rw [Fill.placeholder, List.cons_append, List.cons.injEq] at hbehind
  obtain ⟨rfl, rfl⟩ := hbehind
  rw [fill_append hf.notMem_name]
  simp [Fill.placeholder]

/-- Two passes, one behind the other, are one pass. -/
theorem fill_fill (hearlier : ∀ f ∈ earlier, f.IsApart) (hlater : ∀ f ∈ later, f.IsApart)
    (text : List Char) :
  fill later (fill earlier text) = fill (earlier ++ later) text
  := by
  -- A placeholder is dropped as a whole, so the induction is on the length.
  induction hn : text.length using Nat.strong_induction_on generalizing text with
  | _ n ih =>
    cases text with
    | nil => rfl
    | cons c rest =>
        have ihdrop : ∀ f : Fill, fill later (fill earlier ((c :: rest).drop f.placeholder.length))
            = fill (earlier ++ later) ((c :: rest).drop f.placeholder.length) := by
          intro f
          apply ih _ _ _ rfl
          simp only [← hn, Fill.placeholder, List.length_drop, List.length_cons]
          omega
        have hboth := due?_append earlier later (c :: rest)
        cases hfirst : due? earlier (c :: rest) with
        | some f =>
            rw [hfirst, Option.some_or] at hboth
            have hf := hearlier f (of_due?_eq_some hfirst).1
            rw [fill_of_due?_eq_some hfirst, fill_of_due?_eq_some hboth, fill_append hf.notMem_text,
              ihdrop]
        | none =>
            rw [hfirst, Option.none_or] at hboth
            have hsame : due? later (c :: fill earlier rest) = due? later (c :: rest) :=
              due?_cons_fill hearlier hlater
            rw [fill_cons_of_due?_eq_none hfirst]
            cases hsecond : due? later (c :: rest) with
            | some f =>
                obtain ⟨hmem, hstarts⟩ := of_due?_eq_some hsecond
                rw [fill_of_due?_eq_some (hsame.trans hsecond),
                  fill_of_due?_eq_some (hboth.trans hsecond),
                  drop_cons_fill (hlater f hmem) hstarts, ihdrop]
            | none =>
                rw [fill_cons_of_due?_eq_none (hsame.trans hsecond),
                  fill_cons_of_due?_eq_none (hboth.trans hsecond),
                  ih rest.length (by simp [← hn]) rest rfl]

/-- No placeholder starts in what was filled in. -/
theorem isInfix_append_iff (h : '\x7b' ∉ front) :
  f.placeholder <:+: front ++ rest ↔ f.placeholder <:+: rest
  := by
  induction front with
  | nil => rfl
  | cons c front ih =>
      rw [List.mem_cons, not_or] at h
      obtain ⟨hc, hfront⟩ := h
      rw [List.cons_append, List.infix_cons_iff, ih hfront, or_iff_right]
      intro hstarts
      exact hc (List.cons_prefix_cons.mp hstarts).1

/-- Behind a pass no placeholder is left. -/
theorem not_isInfix_fill (hlater : ∀ f ∈ later, f.IsApart) (hf : f ∈ later) (text : List Char) :
  ¬ f.placeholder <:+: fill later text
  := by
  induction hn : text.length using Nat.strong_induction_on generalizing text with
  | _ n ih =>
    cases text with
    | nil => exact fun hinfix => List.cons_ne_nil _ _ (List.infix_nil.mp hinfix)
    | cons c rest =>
        cases hdue : due? later (c :: rest) with
        | some g =>
            rw [fill_of_due?_eq_some hdue,
              isInfix_append_iff (hlater g (of_due?_eq_some hdue).1).notMem_text]
            apply ih _ _ _ rfl
            simp only [← hn, Fill.placeholder, List.length_drop, List.length_cons]
            omega
        | none =>
            rw [fill_cons_of_due?_eq_none hdue, List.infix_cons_iff, not_or,
              isPrefix_cons_fill_iff hlater (hlater f hf)]
            exact ⟨due?_eq_none_iff.mp hdue f hf, ih rest.length (by simp [← hn]) rest rfl⟩

/-! ### The fills of an experiment -/

theorem isBraceless_of_le {c : Char} (h : c.toNat ≤ 122) :
  IsBraceless c
  := by
  constructor
  · rintro rfl
    revert h
    decide
  · rintro rfl
    revert h
    decide

/-- A number can be filled in for any name. -/
theorem isApart_repr {name : String} (hname : ∀ c ∈ name.toList, IsOfName c) (n : Nat) :
  Fill.IsApart ⟨name, n.repr⟩
  := by
  have hdigit : ∀ c ∈ n.repr.toList, c.isDigit = true := by
    rw [Nat.toList_repr]
    exact fun c => Nat.isDigit_of_mem_toDigits (by decide) (by decide)
  constructor
  · exact hname
  · intro c hc
    exact isBraceless_of_le (Nat.le_trans (Char.isDigit_iff_toNat.mp (hdigit c hc)).2 (by decide))
  · obtain ⟨c, hc⟩ := List.exists_mem_of_ne_nil n.repr.toList (by simp)
    exact ⟨c, hc, hdigit c hc⟩

/-- The names of sources can be filled in for any name, if there are any. -/
theorem isApart_sourceIds {name : String} (hname : ∀ c ∈ name.toList, IsOfName c) {t : Topology}
    (h : t.sourceHosts ≠ []) :
  Fill.IsApart ⟨name, UnitFlags.sourceList t.sourceIds⟩
  := by
  have hfirst : (Role.source 0).id ∈ t.sourceIds :=
    List.mem_map_of_mem (List.mem_map_of_mem (List.mem_range.mpr (List.length_pos_iff.mpr h)))
  constructor
  · exact hname
  · have hids : ∀ id ∈ t.sourceIds, UnitFlags.IsOf IsBraceless id.text := by
      intro id hid
      obtain ⟨role, -, rfl⟩ := List.mem_map.mp hid
      constructor
      · exact String.isEmpty_eq_false_iff.mp (UnitFlags.isEmpty_id role)
      · exact fun c hc => isBraceless_of_le (Role.toNat_of_mem_id hc).2
    have hcomma := isBraceless_of_le (c := ',') (by decide)
    exact (UnitFlags.isOf_sourceList hcomma (List.ne_nil_of_mem hfirst) hids).2
  · by_contra hnone
    have hdigit : ∀ c ∈ (UnitFlags.sourceList t.sourceIds).toList, c.isDigit = false := by
      simpa using hnone
    have hzero := UnitFlags.forall_mem_of_sourceList hdigit _ hfirst '0' (by decide)
    revert hzero
    decide

theorem isOfName_of_all {name : String} (h : name.toList.all (decide <| IsOfName ·) = true) :
  ∀ c ∈ name.toList, IsOfName c
  := by
  simpa using h

theorem isApart_fills {t : Topology} (h : t.sourceHosts ≠ []) (point : Point) :
  ∀ f ∈ fills t.sourceIds point, f.IsApart
  := by
  simp only [fills, List.forall_mem_cons]
  exact ⟨isApart_sourceIds (isOfName_of_all (by decide)) h,
    isApart_repr (isOfName_of_all (by decide)) _, isApart_repr (isOfName_of_all (by decide)) _,
    isApart_repr (isOfName_of_all (by decide)) _, List.forall_mem_nil _⟩

/-- Rendering a template is one pass for each of its fills. -/
theorem toList_render (template : String) (sources : List RoleId) (point : Point) :
  (render template sources point).toList
    = (fills sources point).foldl (fun text f => fill [f] text) template.toList
  := by
  simp only [render, String.toList_ofList, fills, List.foldl_cons, List.foldl_nil,
    UnitFlags.sourceList]
  have hsources := @replace_eq_fill "\x7bsources\x7d" "sources"
    (String.intercalate "," (sources.map RoleId.text)) (by decide)
  have hset := @replace_eq_fill "\x7bset_size\x7d" "set_size" point.setSize.repr (by decide)
  have hjoin := @replace_eq_fill "\x7bjoin_size\x7d" "join_size" point.joinSize.repr (by decide)
  have hseed := @replace_eq_fill "\x7bseed\x7d" "seed" point.seed.repr (by decide)
  rw [hseed, hjoin, hset, hsources]

theorem foldl_fill (hearlier : ∀ f ∈ earlier, f.IsApart) (hlater : ∀ f ∈ later, f.IsApart)
    (text : List Char) :
  later.foldl (fun text f => fill [f] text) (fill earlier text) = fill (earlier ++ later) text
  := by
  induction later generalizing earlier with
  | nil => rw [List.foldl_nil, List.append_nil]
  | cons f later ih =>
      obtain ⟨hf, hrest⟩ := List.forall_mem_cons.mp hlater
      have hone : ∀ g ∈ [f], g.IsApart := List.forall_mem_singleton.mpr hf
      rw [List.foldl_cons, fill_fill hearlier hone, ih _ hrest, List.append_assoc,
        List.singleton_append]
      exact List.forall_mem_append.mpr ⟨hearlier, hone⟩

/-- Passes that find no placeholder change nothing. -/
theorem render_eq_self {template : String} {sources : List RoleId} {point : Point}
    (h : ∀ f ∈ fills sources point, ¬ f.placeholder <:+: template.toList) :
  render template sources point = template
  := by
  have hfold : ∀ fs : List Fill, (∀ f ∈ fs, ¬ f.placeholder <:+: template.toList) →
      fs.foldl (fun text f => fill [f] text) template.toList = template.toList := by
    intro fs hfs
    induction fs with
    | nil => rfl
    | cons f rest ih =>
        obtain ⟨hf, hrest⟩ := List.forall_mem_cons.mp hfs
        rw [List.foldl_cons, fill_eq_self (List.forall_mem_singleton.mpr hf), ih hrest]
  rw [← String.toList_inj, toList_render, hfold _ h]

/-- Rendering a template for a topology with sources fills it in one pass.  What comes out has no
placeholder, so rendering it once more, for whatever experiment, changes nothing. -/
theorem render_eq_fill {t : Topology} (h : t.sourceHosts ≠ []) (template : String)
    (point : Point) :
  render template t.sourceIds point
      = String.ofList (fill (fills t.sourceIds point) template.toList)
    ∧ ∀ sources point', render (render template t.sourceIds point) sources point'
      = render template t.sourceIds point
  := by
  have hapart := isApart_fills h point
  have hnone : fill [] template.toList = template.toList := fill_eq_self (List.forall_mem_nil _)
  have hfill : (render template t.sourceIds point).toList
      = fill (fills t.sourceIds point) template.toList := by
    rw [toList_render, ← hnone, foldl_fill (List.forall_mem_nil _) hapart, List.nil_append, hnone]
  constructor
  · rw [← hfill, String.ofList_toList]
  · intro sources point'
    apply render_eq_self
    intro f hf
    -- Which placeholders there are does not depend on the experiment.
    have hsame : ∃ g ∈ fills t.sourceIds point, g.placeholder = f.placeholder := by
      simp only [fills, List.mem_cons, List.not_mem_nil, or_false] at hf
      obtain rfl | rfl | rfl | rfl := hf <;> simp [fills, Fill.placeholder]
    obtain ⟨g, hg, hplaceholder⟩ := hsame
    rw [hfill, ← hplaceholder]
    exact not_isInfix_fill hapart hg _

/-- Braces around placeholders, and placeholders within what looks like one. -/
def nested : String :=
  "\x7b\x7bseed\x7d\x7d \x7bse\x7bset_size\x7ded\x7d \x7b\x7bsources\x7d \x7bset_\x7bsize\x7d"

/-- What is left of them behind one pass. -/
def nestedOnce : String :=
  "\x7b4\x7d \x7bse100ed\x7d \x7bsource_0,source_1 \x7bset_\x7bsize\x7d"

theorem render_eq_fill_nested :
  (⟨[.localhost, .localhost], .localhost, .localhost⟩ : Topology).sourceHosts ≠ []
    ∧ render nested [⟨"source_0"⟩, ⟨"source_1"⟩] ⟨4, 2, 100, 80, 1⟩ = nestedOnce
    ∧ render nestedOnce [] ⟨0, 0, 0, 0, 0⟩ = nestedOnce
  := by
  have hne : (⟨[.localhost, .localhost], .localhost, .localhost⟩ : Topology).sourceHosts ≠ [] := by
    decide
  obtain ⟨hfill, hagain⟩ := render_eq_fill hne nested ⟨4, 2, 100, 80, 1⟩
  have htext := hfill.trans (show _ = nestedOnce by decide +kernel)
  refine ⟨hne, htext, ?_⟩
  have hsame := hagain [] ⟨0, 0, 0, 0, 0⟩
  rw [htext] at hsame
  exact hsame

/-- Without sources nothing stands for them, and what is left may be a placeholder. -/
example : render "\x7bse\x7bsources\x7ded\x7d" [] ⟨4, 0, 0, 0, 0⟩ = "4" := by
  decide +kernel

end JoinBench.Command
