import Datalogger.Proofs.Instruments.Requirements
import Datalogger.Proofs.Instruments.Shapes

/-!
Instances of the built-in types as parts and an outline. The parts depend on how names are to be made, the
outline does not; what is filled in under any view keeps the headings of the outline.
-/

namespace Datalogger

theorem Table.mapM_eq_ok {α β ε : Type} {f : α → Except ε β} {t : Table α} {u : Table β}
    (made : t.mapM f = .ok u) :
    u.name = t.name ∧ u.settings = t.settings ∧ t.items.mapM (TableItem.mapM f) = .ok u.items := by
  obtain ⟨items, filled, same⟩ := Outcome.bind_eq_ok_iff.1 made
  cases same
  exact ⟨rfl, rfl, filled⟩

theorem Instrument.facets_of_contribution {i : Instrument} {d : Deps} {c : Contribution}
    (made : i.contribution d = .ok c) :
    i.tables d = .ok c.tables ∧ i.slowSequence d = .ok c.slowSequence := by
  obtain ⟨_, tables, made⟩ := Outcome.bind_eq_ok_iff.1 made
  obtain ⟨_, sequence, made⟩ := Outcome.bind_eq_ok_iff.1 made
  obtain ⟨_, _, made⟩ := Outcome.bind_eq_ok_iff.1 made
  obtain ⟨_, _, made⟩ := Outcome.bind_eq_ok_iff.1 made
  obtain ⟨_, _, made⟩ := Outcome.bind_eq_ok_iff.1 made
  obtain ⟨_, _, same⟩ := Outcome.bind_eq_ok_iff.1 made
  cases same
  exact ⟨tables, sequence⟩

section Filled

variable {p : Parts} {o : Outline} {d : Deps} {c : Contribution}

theorem tables_of_contribution (made : (Instrument.ofOutline p o).contribution d = .ok c) :
    ∀ ts ∈ c.tables, ∃ us ∈ o.tables,
      List.Forall₂ (fun u t => Table.mapM (Template.fill p d) u = .ok t) us ts := by
  intro ts member
  obtain ⟨us, there, each⟩ :=
    Outcome.exists_of_option_mapM (Instrument.facets_of_contribution made).1 ts member
  exact ⟨us, there, Outcome.mapM_eq_ok_iff.1 each⟩

theorem slowSequence_of_contribution (made : (Instrument.ofOutline p o).contribution d = .ok c) :
    ∀ q ∈ c.slowSequence, ∃ r ∈ o.slowSequence, q.id = r.id := by
  intro q member
  obtain ⟨r, there, each⟩ :=
    Outcome.exists_of_option_mapM (Instrument.facets_of_contribution made).2 q member
  obtain ⟨_, _, same⟩ := Outcome.map_eq_ok_iff.1 each
  exact ⟨r, there, same ▸ rfl⟩

end Filled

theorem Design.Sound.words {D : Design} {s : InstrumentSettings} {p : Parts} (sound : D.Sound)
    (built : D.Built s p) : ∀ v ∈ p.vars.vars, Word v.effectiveName := by
  intro v member
  obtain ⟨w, hw, _, effective⟩ := sound.exists_of_mem_vars built member
  have word : Word w.name := word_of_isIdentifier (sound.roomy w hw).valid
  rcases effective with plain | ⟨t, asked, suffixed⟩
  · exact plain ▸ word
  · rcases suffixForm_of_settings asked with ⟨_, never⟩ | ⟨_, _, same, form⟩
    · cases never
    cases same
    rw [suffixed]
    exact ⟨by simp [word.nonempty], wordChars_append word.chars form.chars⟩

namespace Instruments

structure Seen (typeId : String) (s : InstrumentSettings) (D : Design) (o : Outline) (p : Parts) :
    Prop where
  shape : Shape D o s
  built : D.Built s p
  own : D.descriptor.typeId = typeId
  /-- The type that takes a text from the user depends on nothing. -/
  alone : typeId = "ProStar_EMC1" → D.dependencies = []
  renamed : ∀ m, builtin.instantiate typeId { s with nameInclusion := m } =
    D.build o { s with nameInclusion := m }

theorem seen_of_instantiate {typeId : String} {s : InstrumentSettings} {i : Instrument}
    (made : builtin.instantiate typeId s = .ok i) :
    ∃ D o p, Seen typeId s D o p ∧ i = .ofOutline p o := by
  cases found : builtin.get? typeId with
  | none =>
    rw [Catalog.instantiate, found] at made
    cases made
  | some e =>
    have same : ∀ t, builtin.instantiate typeId t = e.build t := by
      intro t
      rw [Catalog.instantiate, found]
    have member := Catalog.mem_of_get? found
    have named := Catalog.typeId_of_get? found
    have alone : ∀ e ∈ builtinEntries, e.descriptor.typeId = "ProStar_EMC1" → e.dependencies = [] := by
      decide
    rw [same] at made
    rcases shaped_builtin e member s with ⟨err, failed⟩ | ⟨D, o, shape, own, needs, build⟩
    · rw [failed] at made
      cases made
    · have whole : e.build s = D.build o s := build s.nameInclusion
      rw [whole] at made
      obtain ⟨p, built, rfl⟩ := shape.sound.built_of_build made
      refine ⟨D, o, p, ⟨shape, built, by rw [own, named], fun host => ?_, fun m => ?_⟩, rfl⟩
      · rw [needs, alone e member (named.trans host)]
      · rw [same, build]

end Instruments

end Datalogger
