import Datalogger.Proofs.Design
import Datalogger.Proofs.Statement.Map

/-!
Templates whose pieces are kept apart by separators. Where the pieces of one view of an instance are those
of another view, rewritten, so is everything that is filled in from them: no run of the text reaches from
one piece into the next.
-/

namespace Datalogger

open Text (joinLines)

namespace Piece

def opens : Piece → Bool
  | .text s => s.toList.head?.any isSeparator
  | _ => false

def closes : Piece → Bool
  | .text s => s.toList.getLast?.any isSeparator
  | _ => false

/-- A separator ends the one or begins the other. -/
def Apart (a b : Piece) : Prop :=
  a.closes = true ∨ b.opens = true

def Kept (ρ : Rewriting) : Piece → Prop
  | .text s => ρ.text s = s
  | _ => True

end Piece

structure Template.Isolated (ρ : Rewriting) (t : Template) : Prop where
  chain : t.IsChain Piece.Apart
  kept : ∀ p ∈ t, p.Kept ρ

/-- What a view makes of a piece is what another view makes of it, rewritten. -/
def Rewriting.Carries (ρ : Rewriting) (p p' : Parts) (d d' : Deps) (piece : Piece) : Prop :=
  piece.fill p' d' = (piece.fill p d).map ρ.text

section Filling

variable {ρ : Rewriting} {p p' : Parts} {d d' : Deps}

theorem Template.starts_of_opens {piece : Piece} {rest : Template} {u : String}
    (opens : piece.opens = true) (filled : Template.fill p d (piece :: rest) = .ok u) :
    u.toList.head?.any isSeparator = true := by
  cases piece with
  | text s =>
    obtain ⟨front, first, filled⟩ := Outcome.bind_eq_ok_iff.1 filled
    obtain ⟨back, _, same⟩ := Outcome.bind_eq_ok_iff.1 filled
    cases first
    cases same
    rw [String.toList_append]
    cases chars : s.toList with
    | nil => simp [Piece.opens, chars] at opens
    | cons c cs => simpa [Piece.opens, chars] using opens
  | _ => cases opens

theorem Template.fill_eq_map {t : Template} (isolated : t.Isolated ρ)
    (carried : ∀ piece ∈ t, ρ.Carries p p' d d' piece) :
    Template.fill p' d' t = (Template.fill p d t).map ρ.text := by
  induction t with
  | nil => simp [Template.fill, Except.map]
  | cons piece rest ih =>
    have later : Isolated ρ rest :=
      ⟨isolated.chain.tail, fun q member => isolated.kept q (List.mem_cons_of_mem piece member)⟩
    have tail := ih later fun q member => carried q (List.mem_cons_of_mem piece member)
    have first : piece.fill p' d' = (piece.fill p d).map ρ.text := carried piece List.mem_cons_self
    rw [Template.fill, Template.fill, first, tail]
    cases front : piece.fill p d with
    | error e => rfl
    | ok u =>
      cases back : Template.fill p d rest with
      | error e => rfl
      | ok v =>
        have cut : ρ.text (u ++ v) = ρ.text u ++ ρ.text v := by
          cases rest with
          | nil =>
            cases back
            simp
          | cons next rest =>
            rcases (List.isChain_cons_cons.1 isolated.chain).1 with closes | opens
            · cases piece with
              | text s =>
                cases front
                exact ρ.text_append_of_ends closes
              | _ => cases closes
            · exact ρ.text_append_of_starts (starts_of_opens opens back)
        simp [Except.map, bind, Except.bind, pure, Except.pure, cut]

end Filling

def VariableSet.renameable (s : VariableSet) : List String :=
  s.suffixable.map Variable.name

def Design.renameable (D : Design) : List String :=
  (D.declarations.flatMap Declaration.suffixable).map Variable.name

structure Outline.Isolated (ρ : Rewriting) (o : Outline) : Prop where
  tables : ∀ ts ∈ o.tables, ∀ t ∈ ts, ∀ i ∈ t.items,
    i.output.Isolated ρ ∧ ∀ f ∈ i.fields, f.Isolated ρ
  preScan : ∀ body ∈ o.preScan, ∀ s ∈ body,
    s.Every (Template.Isolated ρ) (Template.Isolated ρ) (Template.Isolated ρ)
  program : ∀ body ∈ o.program, ∀ s ∈ body,
    s.Every (Template.Isolated ρ) (Template.Isolated ρ) (Template.Isolated ρ)
  postScan : ∀ body ∈ o.postScan, ∀ s ∈ body,
    s.Every (Template.Isolated ρ) (Template.Isolated ρ) (Template.Isolated ρ)
  slowSequence : ∀ q ∈ o.slowSequence, ∀ s ∈ q.lines,
    s.Every (Template.Isolated ρ) (Template.Isolated ρ) (Template.Isolated ρ)
  functions : ∀ fs ∈ o.functions, ∀ f ∈ fs, f.Isolated ρ

def TableItem.mapTexts (f : String → String) (i : TableItem String) : TableItem String :=
  ⟨f i.output, i.fields.map f⟩

def Table.mapTexts (f : String → String) (t : Table String) : Table String :=
  { t with items := t.items.map (TableItem.mapTexts f) }

def SlowSequence.mapTexts (f : String → String) (s : SlowSequence String) : SlowSequence String :=
  { s with lines := s.lines.map f }

def Contribution.mapTexts (f : String → String) (c : Contribution) : Contribution where
  id := c.id
  tables := c.tables.map (List.map (Table.mapTexts f))
  slowSequence := c.slowSequence.map (SlowSequence.mapTexts f)
  preScan := c.preScan.map f
  program := c.program.map f
  postScan := c.postScan.map f
  functions := c.functions.map (List.map f)

section Facets

variable {D : Design} {ρ : Rewriting} {p p' : Parts} {d d' : Deps}

def Rewriting.CarriesAll (ρ : Rewriting) (D : Design) (p p' : Parts) (d d' : Deps) : Prop :=
  ∀ piece, D.Knows .anything piece → piece.Kept ρ → ρ.Carries p p' d d' piece

namespace Design

theorem fill_eq_map (carried : ρ.CarriesAll D p p' d d') {t : Template}
    (part : D.Part .anything t) (isolated : t.Isolated ρ) :
    Template.fill p' d' t = (Template.fill p d t).map ρ.text :=
  Template.fill_eq_map isolated fun piece member =>
    carried piece (part piece member) (isolated.kept piece member)

theorem fill_body_eq_map (carried : ρ.CarriesAll D p p' d d') {body : List (Statement Template)}
    (logic : D.Logic .anything body)
    (isolated : ∀ s ∈ body,
      s.Every (Template.Isolated ρ) (Template.Isolated ρ) (Template.Isolated ρ)) :
    body.mapM (Statement.mapM (Template.fill p' d')) =
      (body.mapM (Statement.mapM (Template.fill p d))).map (List.map (Statement.map ρ.text)) := by
  have counter : ∀ t, D.Counter t → D.Part .anything t := by
    rintro _ ⟨name, member, rfl⟩ piece listed
    rw [List.mem_singleton.1 listed]
    exact member
  refine Outcome.mapM_eq_map fun s member => ?_
  have parts := (Statement.everyIn_iff.1 logic.every s member).imp (fun _ line => line.part)
    (fun _ part => part) counter
  exact Statement.mapM_eq_map (fun t both => fill_eq_map carried both.1 both.2) s
    (parts.and (isolated s member))

theorem mapList_eq {α β : Type} (f : α → β) (body : List (Statement α)) :
    Statement.mapList f body = body.map (Statement.map f) := by
  induction body with
  | nil => rfl
  | cons s rest ih => rw [Statement.mapList, ih, List.map_cons]

theorem fill_logic_eq_map (heads : Statement.KeepsHeads ρ) (carried : ρ.CarriesAll D p p' d d')
    {body : List (Statement Template)} (logic : D.Logic .anything body)
    (isolated : ∀ s ∈ body,
      s.Every (Template.Isolated ρ) (Template.Isolated ρ) (Template.Isolated ρ)) :
    fillLogic p' d' body = (fillLogic p d body).map ρ.text := by
  have laid : ∀ filled, joinLines (Statement.texts (filled.map (Statement.map ρ.text))) =
      ρ.text (joinLines (Statement.texts filled)) := by
    intro filled
    rw [← mapList_eq, Statement.texts_map heads, ρ.text_joinLines]
  rw [fillLogic, fillLogic, fill_body_eq_map carried logic isolated]
  cases body.mapM (Statement.mapM (Template.fill p d)) with
  | error e => rfl
  | ok filled => exact congrArg Except.ok (laid filled)

theorem fill_sequence_eq_map (heads : Statement.KeepsHeads ρ) (carried : ρ.CarriesAll D p p' d d')
    {s : SlowSequence (Statement Template)} (logic : D.Logic .anything s.lines)
    (isolated : ∀ x ∈ s.lines,
      x.Every (Template.Isolated ρ) (Template.Isolated ρ) (Template.Isolated ρ)) :
    fillSequence p' d' s = (fillSequence p d s).map (SlowSequence.mapTexts ρ.text) := by
  rw [fillSequence, fillSequence, fill_body_eq_map carried logic isolated]
  cases s.lines.mapM (Statement.mapM (Template.fill p d)) with
  | error e => rfl
  | ok filled =>
    simp only [Except.map, SlowSequence.mapTexts]
    rw [← mapList_eq, Statement.texts_map heads]

theorem fill_item_eq_map (carried : ρ.CarriesAll D p p' d d') {i : TableItem Template}
    (output : D.Line .anything i.output) (fields : ∀ f ∈ i.fields, D.Part .anything f)
    (isolated : i.output.Isolated ρ ∧ ∀ f ∈ i.fields, f.Isolated ρ) :
    i.mapM (Template.fill p' d') = (i.mapM (Template.fill p d)).map (TableItem.mapTexts ρ.text) := by
  have labels := Outcome.mapM_eq_map fun f member =>
    fill_eq_map carried (fields f member) (isolated.2 f member)
  rw [TableItem.mapM, TableItem.mapM, fill_eq_map carried output.part isolated.1, labels]
  exact Outcome.bind_map_eq fun u => Outcome.bind_map_eq fun fs => rfl

theorem fill_table_eq_map (carried : ρ.CarriesAll D p p' d d') {t : Table Template}
    (fits : D.FitsTable .anything t)
    (isolated : ∀ i ∈ t.items, i.output.Isolated ρ ∧ ∀ f ∈ i.fields, f.Isolated ρ) :
    t.mapM (Template.fill p' d') = (t.mapM (Template.fill p d)).map (Table.mapTexts ρ.text) := by
  have items := Outcome.mapM_eq_map fun i member =>
    fill_item_eq_map carried (fits.outputs i member) (fits.fields i member) (isolated i member)
  rw [Table.mapM, Table.mapM, items]
  exact Outcome.bind_map_eq fun is => rfl

theorem fill_function_eq_map (carried : ρ.CarriesAll D p p' d d') {f : Template}
    (routine : ∃ ls, Routine ls ∧ f = [.text (joinLines ls)]) (isolated : f.Isolated ρ) :
    Template.fill p' d' f = (Template.fill p d f).map ρ.text := by
  obtain ⟨ls, _, rfl⟩ := routine
  refine fill_eq_map carried (fun piece member => ?_) isolated
  rw [List.mem_singleton.1 member]
  trivial

/-- Every facet of one view is that of the other, rewritten. -/
theorem contribution_eq_map (heads : Statement.KeepsHeads ρ) (carried : ρ.CarriesAll D p p' d d')
    (id : p'.id = p.id) {o : Outline} (fits : D.Fits .anything o) (isolated : o.Isolated ρ) :
    (Instrument.ofOutline p' o).contribution d' =
      ((Instrument.ofOutline p o).contribution d).map (Contribution.mapTexts ρ.text) := by
  have tables := Outcome.option_mapM_eq_map fun ts (same : ts ∈ o.tables) =>
    Outcome.mapM_eq_map fun t member =>
      fill_table_eq_map carried (fits.tables ts same t member) (isolated.tables ts same t member)
  have preScan := Outcome.option_mapM_eq_map fun body (same : body ∈ o.preScan) =>
    fill_logic_eq_map heads carried (fits.preScan body same) (isolated.preScan body same)
  have program := Outcome.option_mapM_eq_map fun body (same : body ∈ o.program) =>
    fill_logic_eq_map heads carried (fits.program body same) (isolated.program body same)
  have postScan := Outcome.option_mapM_eq_map fun body (same : body ∈ o.postScan) =>
    fill_logic_eq_map heads carried (fits.postScan body same) (isolated.postScan body same)
  have sequence := Outcome.option_mapM_eq_map fun s (same : s ∈ o.slowSequence) =>
    fill_sequence_eq_map heads carried (fits.slowSequence s same).2 (isolated.slowSequence s same)
  have functions := Outcome.option_mapM_eq_map fun fs (same : fs ∈ o.functions) =>
    Outcome.mapM_eq_map (h := ρ.text) fun f member =>
      fill_function_eq_map carried (fits.functions fs same f member) (isolated.functions fs same f member)
  simp only [Instrument.contribution, Instrument.ofOutline, Instrument.id, id]
  rw [tables, sequence, preScan, program, postScan, functions]
  exact Outcome.bind_map_eq fun ts => Outcome.bind_map_eq fun s => Outcome.bind_map_eq fun t =>
    Outcome.bind_map_eq fun t => Outcome.bind_map_eq fun t => Outcome.bind_map_eq fun fs => rfl

end Design

end Facets

end Datalogger
