import Datalogger.Proofs.Assembly
import Datalogger.Proofs.Suffixes
import Datalogger.Proofs.TableMerge

/-!
Column labels. Instruments write to the same tables, and most of their columns are named after their own
variables, which differ across a program. The archive of a soil probe names its columns after the address
instead; there the register of that address, whose name is unique as well, stands behind each column.
-/

namespace Datalogger

open Assembly
open Text (fold)

/-- What is listed for each part is distinct altogether, if behind all of it stands something that is. -/
theorem nodup_flatMap_of_backed {α β : Type} {A : α → List String} {B : β → List String}
    (back : String → String) {xs : List α} {ys : List β} (distinct : (xs.flatMap A).Nodup)
    (backed : List.Forall₂ (fun x y => (B y).Nodup ∧ ∀ b ∈ B y, back b ∈ A x) xs ys) :
    (ys.flatMap B).Nodup := by
  induction backed with
  | nil => exact List.nodup_nil
  | @cons x y xs ys first later ih =>
    rw [List.flatMap_cons, List.nodup_append] at distinct
    have behind : ∀ b ∈ ys.flatMap B, back b ∈ xs.flatMap A := by
      intro b member
      obtain ⟨z, hz, there⟩ := List.mem_flatMap.1 member
      obtain ⟨w, hw, _, backs⟩ := Outcome.exists_of_forall₂ later hz
      exact List.mem_flatMap.2 ⟨w, hw, backs b there⟩
    rw [List.flatMap_cons, List.nodup_append]
    refine ⟨first.1, ih distinct.2.1, fun a ha b hb same => ?_⟩
    exact distinct.2.2 (back a) (first.2 a ha) (back b) (behind b hb) (by rw [same])

theorem nodup_of_forall₂ {α : Type} {R : α → String → Prop} {xs : List α} {ys : List String}
    (related : List.Forall₂ R xs ys) (distinct : xs.Nodup)
    (apart : ∀ {a b x y}, R a x → R b y → fold x = fold y → a = b) : (ys.map fold).Nodup := by
  induction related with
  | nil => exact List.nodup_nil
  | cons first later ih =>
    obtain ⟨fresh, distinct⟩ := List.nodup_cons.1 distinct
    refine List.nodup_cons.2 ⟨fun member => ?_, ih distinct⟩
    obtain ⟨y, hy, same⟩ := List.mem_map.1 member
    obtain ⟨b, hb, there⟩ := Outcome.exists_of_forall₂ later hy
    exact fresh (apart first there same.symm ▸ hb)

theorem forall₂_contributionsFrom {bindings : Bindings} {start : Nat} {instruments : List Instrument}
    {contributions : List Contribution}
    (collected : contributionsFrom bindings start instruments = .ok contributions) :
    List.Forall₂ (fun i c => ∃ d, Instrument.contribution i d = .ok c) instruments contributions := by
  induction instruments generalizing start contributions with
  | nil =>
    cases collected
    exact .nil
  | cons i rest ih =>
    obtain ⟨c, others, first, tail, rfl⟩ := contributionsFrom_cons_eq_ok_iff.1 collected
    exact .cons ⟨_, first⟩ (ih tail)

theorem given_collectTables (contributions : List Contribution) :
    Table.given (collectTables contributions) = contributions.flatMap fun c => c.tables.getD [] := by
  induction contributions with
  | nil => rfl
  | cons c rest ih =>
    rw [List.flatMap_cons, ← ih, collectTables, List.filterMap_cons]
    cases c.tables with
    | none => rfl
    | some ts =>
      have own : (ts.map fun t => (c.id, t)).map Prod.snd = ts := by simp
      simp [Table.given, Table.contributed, own, collectTables]

/-- The columns that a contribution adds to the tables of a name. -/
def Contribution.columns (k : String) (c : Contribution) : List String :=
  ((c.tables.getD []).filter fun t => fold t.name = k).flatMap Table.fields

theorem fields_mapM {α β ε : Type} {f : α → Except ε β} {t : Table α} {u : Table β}
    (made : t.mapM f = .ok u) : List.Forall₂ (fun x y => f x = .ok y) t.fields u.fields := by
  obtain ⟨_, _, items⟩ := Table.mapM_eq_ok made
  rw [Table.fields, Table.fields]
  have each := Outcome.mapM_eq_ok_iff.1 items
  generalize t.items = xs at each
  generalize u.items = ys at each
  induction each with
  | nil => exact .nil
  | cons first _ ih =>
    obtain ⟨_, _, first⟩ := Outcome.bind_eq_ok_iff.1 first
    obtain ⟨fields, labels, same⟩ := Outcome.bind_eq_ok_iff.1 first
    cases same
    exact List.rel_append (Outcome.mapM_eq_ok_iff.1 labels) ih

/-- What stands behind a column of the tables of a name: the column is a variable itself, or ends in the
address that the name of a register ends in. -/
def behind (k column : String) : String :=
  if k = "soils" then "soil_" ++ String.ofList column.toList.getLast?.toList else column

def Parts.foldedNames (p : Parts) : List String :=
  p.vars.vars.map fun v => fold v.effectiveName

/-- Columns of one instance: identifiers that differ, each with a name of the instance behind it. -/
structure Parts.Labels (p : Parts) (k : String) (columns : List String) : Prop where
  valid : ∀ f ∈ columns, isIdentifier f = true
  distinct : (columns.map fold).Nodup
  behind : ∀ f ∈ columns, behind k (fold f) ∈ p.foldedNames

section Filled

variable {p : Parts} {d : Deps}

theorem mem_of_fill_var {n y : String} (made : Template.fill p d (Template.var n) = .ok y) :
    ∃ v ∈ p.vars.vars, v.name = n ∧ v.effectiveName = y := by
  obtain ⟨front, first, made⟩ := Outcome.bind_eq_ok_iff.1 made
  obtain ⟨back, rest, same⟩ := Outcome.bind_eq_ok_iff.1 made
  cases rest
  cases same
  rw [Piece.fill, Parts.var, VariableSet.name] at first
  split at first
  · rename_i v found
    cases first
    exact ⟨v, List.mem_of_find?_eq_some found, by simpa using List.find?_some found, by simp⟩
  · cases first

theorem labels_of_vars {k : String} {names columns : List String} (other : k ≠ "soils")
    (valid : ∀ v ∈ p.vars.vars, isIdentifier v.effectiveName = true) (distinct : p.foldedNames.Nodup)
    (named : names.Nodup)
    (filled : List.Forall₂ (fun n y => Template.fill p d (Template.var n) = .ok y) names columns) :
    p.Labels k columns := by
  have owned : ∀ f ∈ columns, ∃ v ∈ p.vars.vars, v.effectiveName = f := by
    intro f member
    obtain ⟨n, _, made⟩ := Outcome.exists_of_forall₂ filled member
    obtain ⟨v, hv, _, effective⟩ := mem_of_fill_var made
    exact ⟨v, hv, effective⟩
  refine ⟨fun f member => ?valid, ?distinct, fun f member => ?behind⟩
  case valid =>
    obtain ⟨v, hv, rfl⟩ := owned f member
    exact valid v hv
  case distinct =>
    refine nodup_of_forall₂ filled named fun {a b x y} ha hb same => ?_
    obtain ⟨v, hv, rfl, rfl⟩ := mem_of_fill_var ha
    obtain ⟨w, hw, rfl, rfl⟩ := mem_of_fill_var hb
    rw [List.inj_on_of_nodup_map distinct hv hw same]
  case behind =>
    obtain ⟨v, hv, rfl⟩ := owned f member
    rw [behind, if_neg other]
    exact List.mem_map_of_mem hv

theorem eq_of_fill_texts {α : Type} {g : α → String} {xs : List α} {ys : List String}
    (filled : List.Forall₂ (fun t y => Template.fill p d t = .ok y) (xs.map fun x => [.text (g x)]) ys) :
    ys = xs.map g := by
  induction xs generalizing ys with
  | nil =>
    cases filled
    rfl
  | cons x xs ih =>
    cases filled with
    | cons first later =>
      obtain ⟨front, text, made⟩ := Outcome.bind_eq_ok_iff.1 first
      obtain ⟨back, rest, same⟩ := Outcome.bind_eq_ok_iff.1 made
      cases text
      cases rest
      cases same
      rw [ih later, List.map_cons, String.append_empty]

end Filled

open Instruments.SoilProbe (registerName elements) in
theorem labels_of_elements {p : Parts} (address : Sdi12Address)
    (own : fold (registerName address) ∈ p.foldedNames) :
    p.Labels "soils" (elements.map fun e => e.2 ++ "_" ++ address.text) where
  valid := by
    have stems : ∀ e ∈ elements, Roomy (e.2 ++ "_") := by
      simp only [elements, List.forall_mem_cons]
      exact ⟨.of_test (by decide), .of_test (by decide), .of_test (by decide), .of_test (by decide),
        .of_test (by decide), by simp⟩
    have suffix : SuffixPart 14 address.text :=
      ⟨address.text_chars, by rw [address.length_text]; decide⟩
    rintro _ member
    obtain ⟨e, listed, rfl⟩ := List.mem_map.1 member
    exact (stems e listed).append suffix
  distinct := by
    have stems : ((elements.map fun e => e.2 ++ "_").map fold).Nodup := nodup_fold_of_test (by decide)
    have ends := stems.map (f := (· ++ fold address.text)) fun _ _ same => by simpa using same
    simpa [List.map_map, Function.comp_def] using ends
  behind := by
    rintro _ member
    obtain ⟨e, listed, rfl⟩ := List.mem_map.1 member
    have last : ∀ s : String, behind "soils" (fold (s ++ address.text)) = "soil_" ++ fold address.text := by
      intro s
      have symbol : fold address.text = String.ofList [address.symbol.toLower] := by
        rw [← String.toList_inj]
        simp [fold, Sdi12Address.text]
      simp [behind, symbol]
    have register : fold (registerName address) = "soil_" ++ fold address.text := by
      have stem : fold "soil_" = "soil_" := by decide +kernel
      rw [registerName, Text.fold_append, stem]
    rw [last, ← register]
    exact own

namespace Instruments

variable {typeId : String} {s : InstrumentSettings} {D : Design} {o : Outline} {p : Parts}

theorem Seen.fold_registerName_mem (seen : Seen typeId s D o p) {name : String}
    (member : name ∈ D.registerNames) : fold name ∈ p.foldedNames := by
  rw [← seen.built.map_name_registers] at member
  obtain ⟨r, hr, rfl⟩ := List.mem_map.1 member
  have base : r.base.effectiveName = r.name := by
    rw [Variable.effectiveName, r.base_isBase.rename, Option.getD_none, Register.name]
  exact List.mem_map.2 ⟨r.base, VariableSet.base_mem_vars hr, congrArg fold base⟩

/-- Whatever the name of a table, an instance adds columns to at most one table of that name. -/
theorem Seen.labels (seen : Seen typeId s D o p)
    (valid : ∀ v ∈ p.vars.vars, isIdentifier v.effectiveName = true) (distinct : p.foldedNames.Nodup)
    {d : Deps} {c : Contribution} (ran : (Instrument.ofOutline p o).contribution d = .ok c)
    (k : String) : p.Labels k (c.columns k) := by
  have none : p.Labels k [] := ⟨by simp, List.nodup_nil, by simp⟩
  cases given : c.tables with
  | none => simpa [Contribution.columns, given] using none
  | some ts =>
    obtain ⟨us, there, filled⟩ := tables_of_contribution ran ts given
    have names : ts.map (fun t => fold t.name) = us.map fun u => fold u.name := by
      clear given there
      induction filled with
      | nil => rfl
      | cons first _ ih => rw [List.map_cons, List.map_cons, ih, (Table.mapM_eq_ok first).1]
    have apart : (ts.map fun t => fold t.name).Nodup := names ▸ seen.shape.columned.names us there
    rw [Contribution.columns, given, Option.getD_some]
    rcases filter_key apart k with empty | ⟨t, ht, rfl, one⟩
    · rw [empty]
      exact none
    rw [one, List.flatMap_singleton]
    obtain ⟨u, hu, made⟩ := Outcome.exists_of_forall₂ filled ht
    have same : fold t.name = fold u.name := congrArg fold (Table.mapM_eq_ok made).1
    have fields := fields_mapM made
    rcases seen.shape.columned.columns us there u hu with ⟨ns, other, named, _, vars⟩ | ⟨address, soils, own, texts⟩
    · rw [vars, List.forall₂_map_left_iff] at fields
      exact labels_of_vars (same ▸ other) valid distinct named fields
    · rw [texts] at fields
      rw [same, soils, eq_of_fill_texts fields]
      exact labels_of_elements address (seen.fold_registerName_mem own)

theorem forall₂_labels {request : ProgramRequest} {stages : Stages}
    (reached : stages.Reached builtin request) (k : String) :
    List.Forall₂ (fun i c => Parts.Labels (Instrument.parts i) k (Contribution.columns k c))
      stages.instruments stages.contributions := by
  obtain ⟨valid, distinct⟩ := ensureUnique_eq_ok_iff.1 reached.unique
  rw [allVariables, List.flatMap_map, List.map_flatMap, List.nodup_flatMap] at distinct
  have each : ∀ i ∈ stages.instruments, ∀ c, (∃ d, Instrument.contribution i d = .ok c) →
      i.parts.Labels k (c.columns k) := by
    rintro i member c ⟨d, ran⟩
    have owned : ∀ v ∈ i.parts.vars.vars, isIdentifier v.effectiveName = true := fun v hv =>
      valid v (List.mem_flatMap.2 ⟨i.vars, List.mem_map_of_mem member, hv⟩)
    have apart : i.parts.foldedNames.Nodup := distinct.1 i member
    obtain ⟨r, _, made⟩ := Outcome.exists_of_forall₂ (Outcome.mapM_eq_ok_iff.1 reached.built) member
    obtain ⟨D, o, p, seen, rfl⟩ := seen_of_instantiate made
    exact seen.labels owned apart ran k
  have related := forall₂_contributionsFrom reached.collected
  have known := (List.forall₂_and_left _ _).2 ⟨fun _ member => member, related⟩
  exact known.imp fun i c own => each i own.1 c own.2

/-- In every table of a program the columns have labels of their own, whoever writes to it. -/
theorem column_labels_distinct {request : ProgramRequest} {document : Document}
    (made : assemble builtin request = .ok document) :
    ∀ t ∈ document.tables, (∀ f ∈ t.fields, isIdentifier f = true) ∧ (t.fields.map fold).Nodup := by
  obtain ⟨stages, reached, rfl⟩ := assemble_eq_ok_iff.1 made
  obtain ⟨_, distinct⟩ := ensureUnique_eq_ok_iff.1 reached.unique
  intro t member
  have labels := forall₂_labels reached (fold t.name)
  have fields : t.fields = stages.contributions.flatMap (Contribution.columns (fold t.name)) := by
    have items := (Table.gathered_merge reached.merged).parts t member
    rw [given_collectTables, List.filter_flatMap, List.flatMap_assoc] at items
    rw [Table.fields, items, List.flatMap_assoc]
    refine List.flatMap_congr fun c _ => ?_
    rw [List.flatMap_assoc]
    rfl
  rw [fields]
  constructor
  · intro f listed
    obtain ⟨c, hc, there⟩ := List.mem_flatMap.1 listed
    obtain ⟨i, _, own⟩ := Outcome.exists_of_forall₂ labels hc
    exact own.valid f there
  · rw [List.map_flatMap]
    refine nodup_flatMap_of_backed (A := fun i => i.parts.foldedNames) (behind (fold t.name)) ?_
      (labels.imp fun i c own => ⟨own.distinct, ?_⟩)
    · rwa [allVariables, List.flatMap_map, List.map_flatMap] at distinct
    · rintro _ listed
      obtain ⟨f, hf, rfl⟩ := List.mem_map.1 listed
      exact own.behind f hf

/-! Two probes at addresses that differ, and a battery. -/

namespace SoilProbe

def at_ (symbol : Char) (word : symbol.isAlphanum = true) : InstrumentSettings :=
  { InstrumentSettings.standard with
    elevation := some (-20)
    address := some ⟨symbol, word⟩
    nameInclusion := .sdi12 }

def profile : ProgramRequest where
  name := "Profile"
  options := ⟨.pipeline, false, .standard, ⟨2024, 1, 1⟩, none⟩
  instruments :=
    [⟨"Acclima_TDR310N", at_ 'a' (by decide), .empty⟩, ⟨"Acclima_TDR310N", at_ 'b' (by decide), .empty⟩,
      ⟨"Campbell_CR1000X_Battery", .standard, .empty⟩]

end SoilProbe

theorem profile_column_labels_distinct :
    ∃ d, assemble builtin SoilProbe.profile = .ok d ∧ d.tables.length = 2 ∧
      ∀ t ∈ d.tables, (∀ f ∈ t.fields, isIdentifier f = true) ∧ (t.fields.map fold).Nodup := by
  have accepted : ∃ d, assemble builtin SoilProbe.profile = .ok d ∧ decide (d.tables.length = 2) = true :=
    Outcome.exists_ok_of_all (by decide +kernel)
  obtain ⟨d, made, two⟩ := accepted
  exact ⟨d, made, of_decide_eq_true two, column_labels_distinct made⟩

end Instruments

end Datalogger
