import Datalogger.Proofs.Views
import Datalogger.Summary

/-!
Placeholders. A summary shows the dependencies of an instance by name, in angle brackets; a program shows
the variables that they are bound to. Both are made from one outline, so the facets of the program are
those of the summary with the brackets filled in.
-/

namespace Datalogger

open Text (joinLines indent fold)

/-- The facets of a contribution as a summary shows them, with their titles. -/
def Contribution.bodies (c : Contribution) : List (String × Option String) :=
  [("Defined Tables", c.tables.map fun ts => "\n\n".intercalate (ts.map Table.text)),
    ("User-Defined Functions", c.functions.map ("\n\n".intercalate ·)),
    ("Pre-Scan Logic", c.preScan),
    ("Program Logic", c.program),
    ("Post Table Call Logic", c.postScan),
    ("Slow Sequence", c.slowSequence.map SlowSequence.text)]

def Instrument.heading (i : Instrument) : List String :=
  [i.descriptor.text] ++
    (if i.wiring.isEmpty then [] else [titled "Wiring Defaults" i.wiring.diagram]) ++
    [titled "Variables" (joinLines i.vars.lines)] ++
    (if i.dependencies = [] then []
      else [titled "Dependencies" (joinLines (i.dependencies.map dependencyLine))])

def Instrument.summaryOf (i : Instrument) (c : Contribution) : String :=
  "\n\n".intercalate (i.heading ++ c.bodies.flatMap fun b => block? b.1 b.2)

theorem Instrument.summary_of_contribution {i : Instrument} {c : Contribution}
    (shown : i.contribution (Deps.placeholders i.id) = .ok c) : i.summary = .ok (i.summaryOf c) := by
  obtain ⟨tables, tablesOk, shown⟩ := Outcome.bind_eq_ok_iff.1 shown
  obtain ⟨sequence, sequenceOk, shown⟩ := Outcome.bind_eq_ok_iff.1 shown
  obtain ⟨preScan, preScanOk, shown⟩ := Outcome.bind_eq_ok_iff.1 shown
  obtain ⟨program, programOk, shown⟩ := Outcome.bind_eq_ok_iff.1 shown
  obtain ⟨postScan, postScanOk, shown⟩ := Outcome.bind_eq_ok_iff.1 shown
  obtain ⟨functions, functionsOk, same⟩ := Outcome.bind_eq_ok_iff.1 shown
  cases same
  simp only [summary, tablesOk, sequenceOk, preScanOk, programOk, postScanOk, functionsOk, bind,
    Except.bind, pure, Except.pure, summaryOf, heading, Contribution.bodies, List.flatMap_cons,
    List.flatMap_nil, List.append_nil, List.append_assoc]

def Rewriting.Fills (ρ : Rewriting) : Prop :=
  ∀ s, marksPlaceholder s.toList = false → ρ.text s = s

section Facets

variable {ρ : Rewriting}

theorem Rewriting.Fills.kept (fills : ρ.Fills) {s : String} (plain : '<' ∉ s.toList) : ρ.text s = s :=
  fills s (marksPlaceholder_of_not_mem plain)

theorem Word.angle {s : String} (word : Word s) : '<' ∉ s.toList := fun member =>
  absurd (word.chars _ member) (by decide)

theorem angle_of_bytes {s : String} (test : 60 ∉ Text.bytes s) : '<' ∉ s.toList := fun member =>
  test ((Text.mem_bytes_iff (c := '<') (by decide)).2 member)

theorem angle_append {a b : String} (ha : '<' ∉ a.toList) (hb : '<' ∉ b.toList) :
    '<' ∉ (a ++ b).toList := by
  rw [String.toList_append, List.mem_append]
  exact not_or.2 ⟨ha, hb⟩

theorem angle_intText (n : Int) : '<' ∉ (intText n).toList := by
  cases n with
  | ofNat n => exact (natText_word n).angle
  | negSucc n =>
    rw [intText]
    exact angle_append (angle_of_bytes (by decide)) (natText_word (n + 1)).angle

theorem angle_unit (u : TimeUnit) : '<' ∉ u.text.toList := by
  cases u <;> exact angle_of_bytes (by decide)

theorem angle_comma : '<' ∉ ",".toList := angle_of_bytes (by decide)

theorem angle_closing : '<' ∉ ")".toList := angle_of_bytes (by decide)

theorem angle_scan (s : Scan) : '<' ∉ s.text.toList := by
  have opening : '<' ∉ "Scan(".toList := angle_of_bytes (by decide)
  unfold Scan.text
  simp only [String.toList_append, List.mem_append, opening, angle_comma, angle_closing,
    (natText_word _).angle, angle_unit, or_self, not_false_eq_true]

theorem angle_interval (i : DataInterval) : '<' ∉ i.text.toList := by
  have opening : '<' ∉ "DataInterval(".toList := angle_of_bytes (by decide)
  unfold DataInterval.text
  simp only [String.toList_append, List.mem_append, opening, angle_comma, angle_closing,
    (natText_word _).angle, angle_unit, or_self, not_false_eq_true]

theorem angle_cardOut (c : CardOut) : '<' ∉ c.text.toList := by
  have opening : '<' ∉ "CardOut(".toList := angle_of_bytes (by decide)
  unfold CardOut.text
  simp only [String.toList_append, List.mem_append, opening, angle_comma, angle_closing,
    (natText_word _).angle, angle_intText, or_self, not_false_eq_true]

theorem trigger_houseSettings (folded : String) : (houseSettings folded).trigger = "True" := by
  unfold houseSettings
  split
  · rfl
  · split <;> rfl

theorem text_step (fills : ρ.Fills) (s : String) : ρ.text (Table.step s) = Table.step (ρ.text s) := by
  have margin : ρ.text "    " = "    " := fills.kept (angle_of_bytes (by decide))
  rw [Table.step, Table.step, ρ.text_append_of_ends (by decide), margin]

theorem text_item (fills : ρ.Fills) (i : TableItem String) :
    (i.mapTexts ρ.text).text = ρ.text i.text := by
  have comma : ρ.text "," = "," := fills.kept angle_comma
  have labels : ρ.text ":FieldNames(" = ":FieldNames(" := fills.kept (angle_of_bytes (by decide))
  have closing : ρ.text ")" = ")" := fills.kept angle_closing
  simp only [TableItem.text, TableItem.mapTexts, List.map_eq_nil_iff]
  split
  · rfl
  · rw [ρ.text_append_of_starts (by decide), closing, ρ.text_around (by decide) (by decide) labels,
      Template.text_quoted, ρ.text_intercalate (by decide) (by decide) comma]

theorem text_table (fills : ρ.Fills) {t : Table String} (word : Word t.name)
    (settings : t.settings = houseSettings (fold t.name)) :
    (t.mapTexts ρ.text).text = ρ.text t.text := by
  have head : ρ.text t.head = t.head := by
    refine fills.kept ?_
    have opening : '<' ∉ "DataTable(".toList := angle_of_bytes (by decide)
    have trigger : '<' ∉ "True".toList := angle_of_bytes (by decide)
    unfold Table.head
    simp only [settings, trigger_houseSettings, String.toList_append, List.mem_append,
      opening, trigger, word.angle, angle_intText, angle_comma, angle_closing, or_self,
      not_false_eq_true]
  have items : (t.items.map (TableItem.mapTexts ρ.text)).map (Table.step ·.text) =
      (t.items.map (Table.step ·.text)).map ρ.text := by
    rw [List.map_map, List.map_map]
    refine List.map_congr_left fun i _ => ?_
    exact (congrArg Table.step (text_item fills i)).trans (text_step fills i.text).symm
  have card : (t.settings.cardOut.map (Table.step ·.text)).toList.map ρ.text =
      (t.settings.cardOut.map (Table.step ·.text)).toList := by
    cases t.settings.cardOut with
    | none => rfl
    | some c =>
      exact congrArg (fun x => [x]) ((text_step fills _).trans (congrArg _ (fills.kept (angle_cardOut c))))
  have interval := (text_step fills t.settings.interval.text).trans
    (congrArg Table.step (fills.kept (angle_interval t.settings.interval)))
  have ends : ρ.text "EndTable" = "EndTable" := fills.kept (angle_of_bytes (by decide))
  rw [Table.text, Table.text, ρ.text_joinLines, Table.lines, Table.lines]
  simp only [List.map_cons, List.map_append, List.map_nil, head, interval, card, ends, ρ.text_empty,
    ← items]
  rfl

theorem text_slowSequence (fills : ρ.Fills) {q : SlowSequence String} (word : Word q.id) :
    (q.mapTexts ρ.text).text = ρ.text q.text := by
  have head : ρ.text ("SlowSequence '" ++ q.id) = "SlowSequence '" ++ q.id :=
    fills.kept (angle_append (angle_of_bytes (by decide)) word.angle)
  have scan : ρ.text q.scan.text = q.scan.text := fills.kept (angle_scan q.scan)
  have next : ρ.text "NextScan" = "NextScan" := fills.kept (angle_of_bytes (by decide))
  have body : indent (q.mapTexts ρ.text).logic 1 = ρ.text (indent q.logic 1) := by
    rw [ρ.text_indent, SlowSequence.logic, SlowSequence.logic, ρ.text_joinLines]
    rfl
  have blank : ∀ s, ρ.text s = "" ↔ s = "" := by
    intro s
    rw [← String.toList_inj, ρ.toList_text, ← String.toList_inj, String.toList_empty,
      ρ.apply_eq_nil_iff]
  rw [SlowSequence.text, SlowSequence.text, ρ.text_joinLines, body]
  simp only [blank, SlowSequence.mapTexts]
  split <;> simp [head, scan, next]

/-- The names under which a contribution writes: no brackets, and the settings that go with them. -/
structure Contribution.Headed (c : Contribution) : Prop where
  tables : ∀ ts ∈ c.tables, ∀ t ∈ ts, Word t.name ∧ t.settings = houseSettings (fold t.name)
  slowSequence : ∀ q ∈ c.slowSequence, Word q.id

theorem bodies_mapTexts (fills : ρ.Fills) {c : Contribution} (headed : c.Headed) :
    (c.mapTexts ρ.text).bodies = c.bodies.map fun b => (b.1, b.2.map ρ.text) := by
  have blank : ρ.text "\n\n" = "\n\n" := fills.kept (angle_of_bytes (by decide))
  have apart : ∀ parts : List String, ρ.text ("\n\n".intercalate parts) =
      "\n\n".intercalate (parts.map ρ.text) := fun parts =>
    ρ.text_intercalate (by decide) (by decide) blank parts
  have tables : ∀ ts ∈ c.tables, (ts.map (Table.mapTexts ρ.text)).map Table.text =
      (ts.map Table.text).map ρ.text := by
    intro ts member
    rw [List.map_map, List.map_map]
    refine List.map_congr_left fun t ht => ?_
    obtain ⟨word, settings⟩ := headed.tables ts member t ht
    rw [Function.comp_apply, Function.comp_apply, text_table fills word settings]
  have sequence : (c.slowSequence.map (SlowSequence.mapTexts ρ.text)).map SlowSequence.text =
      (c.slowSequence.map SlowSequence.text).map ρ.text := by
    rw [Option.map_map, Option.map_map]
    refine Option.map_congr fun q member => ?_
    rw [Function.comp_apply, Function.comp_apply, text_slowSequence fills (headed.slowSequence q member)]
  have shown : (c.tables.map (List.map (Table.mapTexts ρ.text))).map
      (fun ts => "\n\n".intercalate (ts.map Table.text)) =
      (c.tables.map fun ts => "\n\n".intercalate (ts.map Table.text)).map ρ.text := by
    rw [Option.map_map, Option.map_map]
    refine Option.map_congr fun ts member => ?_
    exact (congrArg _ (tables ts member)).trans (apart _).symm
  simp [Contribution.bodies, Contribution.mapTexts, shown, sequence, Function.comp_def, apart]

end Facets

def Deps.unchanged (instrument : String) (ds : List Dependency) : Deps :=
  ⟨instrument, .bound (ds.foldr (fun d b => b.insert d.name ⟨instrument, d.name, d.name⟩) .empty)⟩

theorem Deps.name_unchanged {instrument : String} {ds : List Dependency} {d : Dependency}
    (member : d ∈ ds) : (unchanged instrument ds).name d.name = .ok d.name := by
  have found : ∀ ds : List Dependency, d ∈ ds → ∃ v : BoundVariable, v.effective = d.name ∧
      (ds.foldr (fun d b => b.insert d.name ⟨instrument, d.name, d.name⟩) .empty :
        Dict BoundVariable).get? d.name = some v := by
    intro ds member
    induction ds with
    | nil => cases member
    | cons x rest ih =>
      rw [List.foldr_cons, Dict.get?_insert]
      split
      · rename_i same
        exact ⟨_, same.symm, rfl⟩
      · rename_i other
        rcases List.mem_cons.1 member with rfl | member
        · exact absurd rfl other
        · exact ih member
  obtain ⟨v, same, there⟩ := found ds member
  simp [unchanged, Deps.name, there, same]

namespace Instruments

variable {typeId : String} {s : InstrumentSettings} {D : Design} {o : Outline} {p : Parts}
  {ρ : Rewriting} {n : String → String} {d : Deps}

theorem Seen.serves (seen : Seen typeId s D o p)
    (bound : ∀ x ∈ D.dependencies, Word (n x.name) ∧ d.name x.name = .ok (n x.name)) :
    D.Serves p d :=
  seen.shape.sound.serves_of_words seen.built (seen.shape.sound.words seen.built) fun x member =>
    ⟨n x.name, (bound x member).2, (bound x member).1⟩

/-- What the view makes of a piece is the placeholder view of it, filled in. -/
theorem Seen.carries (seen : Seen typeId s D o p)
    (bound : ∀ x ∈ D.dependencies, Word (n x.name) ∧ d.name x.name = .ok (n x.name))
    (fill : ∀ t, ρ.text t = fillPlaceholders n D.dependencies t) (fills : ρ.Fills) :
    ρ.CarriesAll D p p (Deps.placeholders p.id) d := by
  have serves := seen.serves bound
  have word : ∀ {t}, Word t → ρ.text t = t := fun word => fills.kept word.angle
  intro piece known kept
  cases piece with
  | text t => exact congrArg Except.ok kept.symm
  | var name =>
    obtain ⟨suffix, found, effective⟩ := serves.var name known
    rw [Rewriting.Carries, Piece.fill, Piece.fill, found]
    exact congrArg Except.ok (word effective).symm
  | register name =>
    obtain ⟨r, found, same, named⟩ := serves.register name known
    rw [Rewriting.Carries, Piece.fill, Piece.fill, found]
    exact congrArg Except.ok (word (same ▸ named)).symm
  | terminal role =>
    obtain ⟨t, found⟩ := serves.terminal role known
    rw [Rewriting.Carries, Piece.fill, Piece.fill, found]
    exact congrArg Except.ok (word (word_code t)).symm
  | dependency name =>
    obtain ⟨x, member, rfl⟩ := List.mem_map.1 known
    rw [Rewriting.Carries, Piece.fill, Piece.fill, (bound x member).2]
    refine congrArg Except.ok (Eq.symm ?_)
    rw [fill]
    exact fillPlaceholders_placeholder (fun y hy =>
      ⟨(seen.shape.standsOut.dependencies y hy).1, (bound y hy).1⟩) member

/-- Under any view every facet is that under the placeholders, filled in. -/
theorem Seen.filled (seen : Seen typeId s D o p)
    (bound : ∀ x ∈ D.dependencies, Word (n x.name) ∧ d.name x.name = .ok (n x.name)) :
    ∃ c, (Instrument.ofOutline p o).contribution (Deps.placeholders p.id) = .ok c ∧
      (Instrument.ofOutline p o).contribution d =
        .ok (c.mapTexts (fillPlaceholders n D.dependencies)) ∧
      (c.mapTexts (fillPlaceholders n D.dependencies)).bodies =
        c.bodies.map fun b => (b.1, b.2.map (fillPlaceholders n D.dependencies)) := by
  have words : ∀ x ∈ D.dependencies, Word x.name ∧ Word (n x.name) := fun x member =>
    ⟨(seen.shape.standsOut.dependencies x member).1, (bound x member).1⟩
  obtain ⟨ρ, fill⟩ := exists_rewriting_fillPlaceholders words
  have fills : ρ.Fills := fun t plain => by
    rw [fill, fillPlaceholders_of_marks (fun x member => (words x member).1) plain]
  have own : s.HostKept D.descriptor.typeId ρ := by
    intro host t _
    rw [fill, seen.alone (seen.own.symm.trans host), fillPlaceholders]
  have isolated := seen.shape.isolated ρ (fun t inert => fills t inert.brackets) own
  have heads : Statement.KeepsHeads ρ := fun k member =>
    fills k (seen.shape.standsOut.heads k member).brackets
  have related := Design.contribution_eq_map heads (seen.carries bound fill fills) rfl
    seen.shape.fits isolated
  obtain ⟨e, emitted, plain⟩ := (seen.serves bound).contribution seen.shape.fits
  rw [related] at emitted
  obtain ⟨c, shown, rfl⟩ := Outcome.map_eq_ok_iff.1 emitted
  have headed : c.Headed := by
    refine ⟨fun ts member t ht => ?_, fun q member => ?_⟩
    · have there := plain.tables _ (Option.mem_map_of_mem _ member) _ (List.mem_map_of_mem ht)
      exact ⟨there.name, there.settings⟩
    · obtain ⟨r, listed, same⟩ := slowSequence_of_contribution shown q member
      exact same ▸ seen.shape.ids r listed
  rw [← funext fill]
  exact ⟨c, shown, by rw [related, shown]; rfl, bodies_mapTexts fills headed⟩

theorem Seen.unchanged (seen : Seen typeId s D o p) : ∀ x ∈ D.dependencies, Word (id x.name) ∧
    (Deps.unchanged p.id D.dependencies).name x.name = .ok (id x.name) := fun x member =>
  ⟨(seen.shape.standsOut.dependencies x member).1, Deps.name_unchanged member⟩

theorem exists_shown {i : Instrument} (made : builtin.instantiate typeId s = .ok i) :
    ∃ shown, i.contribution (Deps.placeholders i.id) = .ok shown := by
  obtain ⟨D, o, p, seen, rfl⟩ := seen_of_instantiate made
  obtain ⟨shown, ran, _⟩ := seen.filled seen.unchanged
  exact ⟨shown, ran⟩

namespace SnowDepth

def settings : InstrumentSettings :=
  { InstrumentSettings.standard with address := some anyAddress }

def bindings : Bindings :=
  (Bindings.unbound 1).bind 0 "air_temperature" ⟨"Vaisala_HMP155", "air_temp", "air_temp_120"⟩

end SnowDepth

end Instruments

end Datalogger
