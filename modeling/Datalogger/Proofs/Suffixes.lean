import Datalogger.Proofs.Placeholders

/-!
Suffixes. Settings that put a suffix on the names of an instance change nothing else in what it
contributes: every use of a name is found by the rewriting that puts the suffix on it wherever it stands
as a word, and that rewriting finds nothing else.
-/

namespace Datalogger

open Text (fold)

theorem Declaration.map_name_vars (d : Declaration) :
    d.vars.map Variable.name = (d.register?.map Register.name).toList ++
      d.suffixable.map Variable.name := by
  cases d with
  | scalar v => rfl
  | register r => simp [vars, Register.vars, register?, suffixable, Register.name]

theorem map_name_perm (ds : List Declaration) :
    ((ds.flatMap Declaration.vars).map Variable.name).Perm
      ((ds.filterMap Declaration.register?).map Register.name ++
        (ds.flatMap Declaration.suffixable).map Variable.name) := by
  induction ds with
  | nil => exact .refl _
  | cons d rest ih =>
    have registers : ((d :: rest).filterMap Declaration.register?).map Register.name =
        (d.register?.map Register.name).toList ++
          (rest.filterMap Declaration.register?).map Register.name := by
      cases d <;> rfl
    rw [registers, List.flatMap_cons, List.map_append, d.map_name_vars, List.flatMap_cons,
      List.map_append, List.append_assoc, List.append_assoc]
    refine List.Perm.append_left _ ?_
    exact (ih.append_left _).trans (List.perm_append_comm_assoc _ _ _)

theorem registerName_not_renameable {D : Design} (sound : D.Sound) {name : String}
    (member : name ∈ D.registerNames) : name ∉ D.renameable := by
  have distinct : D.names.Nodup := by
    refine List.Nodup.of_map fold ?_
    rw [Design.names, List.map_map]
    exact (VariableSet.firstRepeated_eq_none_iff.1 sound.names).1
  exact fun there =>
    List.disjoint_of_nodup_append ((map_name_perm D.declarations).nodup_iff.1 distinct) member there

theorem cases_of_mem_suffixed {set : VariableSet} {t : String} {v : Variable}
    (member : v ∈ (set.suffixed t).vars) :
    (v.name ∈ set.renameable ∧ v.effectiveName = v.name ++ t) ∨
      v.name ∈ set.registers.map Register.name ∧ v.effectiveName = v.name := by
  simp only [VariableSet.suffixed, VariableSet.vars, List.mem_flatMap, List.mem_map] at member
  obtain ⟨_, ⟨d, hd, rfl⟩, hv⟩ := member
  cases d with
  | scalar w =>
    obtain rfl : v = w.suffixed t := List.mem_singleton.1 hv
    exact .inl ⟨List.mem_map.2 ⟨w, List.mem_flatMap.2 ⟨_, hd, List.mem_singleton_self _⟩, rfl⟩, rfl⟩
  | register r =>
    rcases List.mem_cons.1 hv with rfl | hv
    · exact .inr ⟨List.mem_map.2 ⟨r, List.mem_filterMap.2 ⟨_, hd, rfl⟩, rfl⟩, r.effectiveName_base⟩
    · simp only [Register.suffixed, List.map_map, List.mem_map] at hv
      obtain ⟨a, ha, rfl⟩ := hv
      have taken : a.2 ∈ set.suffixable := List.mem_flatMap.2 ⟨_, hd, List.mem_map_of_mem ha⟩
      exact .inl ⟨List.mem_map.2 ⟨a.2, taken, rfl⟩, rfl⟩

theorem renameable_suffixed (set : VariableSet) (t : String) :
    (set.suffixed t).renameable = set.renameable := by
  rw [VariableSet.renameable, VariableSet.suffixable_suffixed, List.map_map]
  rfl

theorem Design.Sound.build_without_suffix {D : Design} (sound : D.Sound) {o : Outline}
    {s : InstrumentSettings} {p : Parts} (made : D.build o s = .ok (.ofOutline p o)) :
    D.build o { s with nameInclusion := .none } =
      .ok (.ofOutline { p with vars := ⟨p.id, D.declarations⟩ } o) := by
  obtain ⟨w, suffix, moved, _, same⟩ := sound.build_eq_ok_iff.1 made
  obtain rfl : p = D.parts s w suffix := congrArg Instrument.parts same
  exact sound.build_eq_ok_iff.2 ⟨w, none, moved, rfl, rfl⟩

theorem wordsOf_placeholder {name : String} (word : Word name) :
    wordsOf (placeholder name) = [name.toList] := by
  have ne : name.toList ≠ [] := by simpa using word.nonempty
  have opening := wordsFrom_split (c := '<') (by decide) [] [] (name.toList ++ '>' :: [])
  have closing := wordsFrom_split (c := '>') (by decide) [] name.toList []
  rw [wordsOf, toList_placeholder]
  simpa [closing, wordsFrom, wordsFrom_of_word word.chars, ne] using opening

namespace Instruments

section Seen

variable {typeId : String} {s : InstrumentSettings} {D : Design} {o : Outline} {p : Parts} {t : String}

theorem suffixNames_of_other {names : List String} {u : String} (word : Word u) (other : u ∉ names) :
    suffixNames names t u = u :=
  suffixNames_eq_self (Inert.of_word word other).words

theorem Seen.word_of_name (seen : Seen typeId s D o p) {name : String} (known : name ∈ D.names) :
    Word name := by
  obtain ⟨v, hv, rfl⟩ := List.mem_map.1 known
  exact word_of_isIdentifier (seen.shape.sound.roomy v hv).valid

theorem Seen.word_of_registerName (seen : Seen typeId s D o p) {name : String}
    (known : name ∈ D.registerNames) : Word name :=
  seen.word_of_name ((map_name_perm D.declarations).mem_iff.2 (List.mem_append_left _ known))

theorem Seen.var_suffixed (seen : Seen typeId s D o p)
    (renamed : p.vars = VariableSet.suffixed t ⟨p.id, D.declarations⟩) {name : String}
    (known : name ∈ D.names) :
    Parts.var { p with vars := ⟨p.id, D.declarations⟩ } name = .ok name ∧
      p.var name = .ok (suffixNames D.renameable t name) := by
  have sound := seen.shape.sound
  have word := seen.word_of_name known
  obtain ⟨w, hw, rfl, plain⟩ := VariableSet.exists_name ⟨p.id, D.declarations⟩ known
  have own : w.name ∈ p.vars.vars.map Variable.name := by rwa [seen.built.map_name_vars]
  obtain ⟨v, hv, named, effective⟩ := VariableSet.exists_name _ own
  have bare : w.effectiveName = w.name := by
    rw [Variable.effectiveName, sound.fresh w hw, Option.getD_none]
  have image : v.effectiveName = suffixNames D.renameable t w.name := by
    rcases cases_of_mem_suffixed (renamed ▸ hv) with ⟨listed, ends⟩ | ⟨listed, ends⟩
    · rw [named] at listed ends
      exact ends.trans (suffixNames_of_mem word listed).symm
    · rw [named] at listed ends
      have other := registerName_not_renameable sound listed
      exact ends.trans (suffixNames_of_other word other).symm
  exact ⟨plain.trans (congrArg Except.ok bare), effective.trans (congrArg Except.ok image)⟩

/-- What a suffix makes of a piece is the piece without it, rewritten. -/
theorem Seen.carries_suffixing (seen : Seen typeId s D o p)
    (renamed : p.vars = VariableSet.suffixed t ⟨p.id, D.declarations⟩)
    (chars : ∀ c ∈ t.toList, isWordChar c = true) :
    (Rewriting.suffixing D.renameable t chars).CarriesAll D
      { p with vars := ⟨p.id, D.declarations⟩ } p (Deps.placeholders p.id)
      (Deps.placeholders p.id) := by
  intro piece known kept
  cases piece with
  | text u => exact congrArg Except.ok kept.symm
  | var name =>
    obtain ⟨plain, effective⟩ := seen.var_suffixed renamed known
    rw [Rewriting.Carries, Piece.fill, Piece.fill, plain, effective]
    rfl
  | register name =>
    obtain ⟨r, _, rfl, plain⟩ := VariableSet.exists_register ⟨p.id, D.declarations⟩ known
    have own : r.name ∈ p.vars.registers.map Register.name := by rwa [seen.built.map_name_registers]
    obtain ⟨q, _, named, found⟩ := VariableSet.exists_register _ own
    have other := registerName_not_renameable seen.shape.sound known
    have kept : suffixNames D.renameable t r.name = r.name :=
      suffixNames_of_other (seen.word_of_registerName known) other
    rw [Rewriting.Carries, Piece.fill, Piece.fill, Parts.register, Parts.register, found, plain]
    exact congrArg Except.ok (named.trans kept.symm)
  | terminal role =>
    obtain ⟨port, found⟩ := (seen.serves seen.unchanged).terminal role known
    have plain : Parts.terminal { p with vars := ⟨p.id, D.declarations⟩ } role = .ok port := found
    have kept : suffixNames D.renameable t port.code = port.code :=
      suffixNames_eq_self (inert_code seen.shape.standsOut.distinctive port).words
    rw [Rewriting.Carries, Piece.fill, Piece.fill, found, plain]
    exact congrArg Except.ok kept.symm
  | dependency name =>
    obtain ⟨x, member, rfl⟩ := List.mem_map.1 known
    obtain ⟨word, other⟩ := seen.shape.standsOut.dependencies x member
    have kept : suffixNames D.renameable t (placeholder x.name) = placeholder x.name := by
      refine suffixNames_eq_self fun w hw => ?_
      rw [wordsOf_placeholder word, List.mem_singleton] at hw
      rwa [hw, String.ofList_toList]
    exact congrArg Except.ok kept.symm

end Seen

/-- Where the settings of an instance put a suffix on its names, everything that the instance contributes is
what it contributes without one, with the suffix on every word that is a name which takes it. -/
theorem suffix_reaches_uses {typeId : String} {s : InstrumentSettings} {i : Instrument}
    (made : builtin.instantiate typeId s = .ok i) (named : s.nameInclusion ≠ .none)
    (host : typeId = "ProStar_EMC1" → ∀ t, s.params.get? "modbus_host" = some (.str t) →
      ∀ w ∈ wordsOf t, String.ofList w ∉ i.vars.renameable) :
    ∃ suffix plain shown, s.suffix i.id = .ok (some suffix) ∧
      builtin.instantiate typeId { s with nameInclusion := .none } = .ok plain ∧
      plain.contribution (Deps.placeholders plain.id) = .ok shown ∧
      i.contribution (Deps.placeholders i.id) =
        .ok (shown.mapTexts (suffixNames i.vars.renameable suffix)) := by
  obtain ⟨D, o, p, seen, rfl⟩ := seen_of_instantiate made
  have built : D.build o s = .ok (.ofOutline p o) := (seen.renamed s.nameInclusion).symm.trans made
  obtain ⟨suffix, asked, renamed⟩ := seen.built.vars
  rcases suffixForm_of_settings asked with ⟨none, _⟩ | ⟨_, t, rfl, form⟩
  · exact absurd none named
  have chars := form.chars
  have names : (Instrument.ofOutline p o).vars.renameable = D.renameable := by
    change p.vars.renameable = D.renameable
    rw [renamed]
    exact renameable_suffixed ⟨p.id, D.declarations⟩ t
  rw [names] at host ⊢
  have bare := (seen.renamed .none).trans (seen.shape.sound.build_without_suffix built)
  obtain ⟨shown, ran⟩ := exists_shown bare
  refine ⟨t, _, shown, asked, bare, ran, ?_⟩
  have keeps : (Rewriting.suffixing D.renameable t chars).Keeps D.renameable := fun u inert =>
    suffixNames_eq_self inert.words
  have own : s.HostKept D.descriptor.typeId (Rewriting.suffixing D.renameable t chars) :=
    fun known u given => suffixNames_eq_self (host (seen.own.symm.trans known) u given)
  have related := Design.contribution_eq_map (fun k member => keeps k (seen.shape.standsOut.heads k member))
    (seen.carries_suffixing renamed chars) rfl seen.shape.fits
    (seen.shape.isolated _ keeps own)
  exact related.trans (congrArg (Except.map (Contribution.mapTexts _)) ran)

/-! A charge controller whose names carry a depth, at an address that the user gave. -/

namespace ChargeController

def buried : InstrumentSettings :=
  { InstrumentSettings.standard with
    elevation := some (-40)
    nameInclusion := .elevation
    params := .ofList [("modbus_host", .str "charge-state.local")] }

end ChargeController

open ChargeController in
theorem buried_suffix_reaches_uses :
    ∃ i suffix plain shown, builtin.instantiate "ProStar_EMC1" buried = .ok i ∧
      buried.suffix i.id = .ok (some suffix) ∧
      builtin.instantiate "ProStar_EMC1" { buried with nameInclusion := .none } = .ok plain ∧
      plain.contribution (Deps.placeholders plain.id) = .ok shown ∧
      i.contribution (Deps.placeholders i.id) =
        .ok (shown.mapTexts (suffixNames i.vars.renameable suffix)) := by
  have clear : ∃ i, builtin.instantiate "ProStar_EMC1" buried = .ok i ∧
      ((wordsOf "charge-state.local").all fun w => !i.vars.renameable.contains (String.ofList w)) = true :=
    Outcome.exists_ok_of_all (by decide +kernel)
  obtain ⟨i, made, clear⟩ := clear
  have host : ∀ t, buried.params.get? "modbus_host" = some (.str t) →
      ∀ w ∈ wordsOf t, String.ofList w ∉ i.vars.renameable := by
    intro t given w member
    have there : buried.params.get? "modbus_host" = some (.str "charge-state.local") := rfl
    obtain rfl : "charge-state.local" = t := by simpa using there.symm.trans given
    simpa using List.all_eq_true.1 clear w member
  obtain ⟨suffix, plain, shown, found⟩ := suffix_reaches_uses made (by decide) fun _ => host
  exact ⟨i, suffix, plain, shown, made, found⟩

end Instruments

end Datalogger
