import Datalogger.Definition
import Datalogger.Proofs.Progress
import Datalogger.Proofs.Sections

/-!
Comments with texts from outside in them. A comment reaches to the end of its line, so a text with line
breaks leaves it unless each of its further lines begins with an apostrophe. Names and configured station
lines cannot do that. Station lines and labels of a definition can, and then the comment sections of the
program hold other lines than comments.
-/

namespace Datalogger

open Instruments Assembly
open Text (OneLine joinLines pieces)

namespace Text

def Commented (s : String) : Prop :=
  ∀ l ∈ pieces s.toList, l.head? = some '\''

/-- Every line but the first is a comment of its own. -/
def Contained (s : String) : Prop :=
  ∀ l ∈ (pieces s.toList).tail, l.head? = some '\''

instance (s : String) : Decidable (Commented s) :=
  inferInstanceAs (Decidable (∀ l ∈ pieces s.toList, l.head? = some '\''))

instance (s : String) : Decidable (Contained s) :=
  inferInstanceAs (Decidable (∀ l ∈ (pieces s.toList).tail, l.head? = some '\''))

theorem Contained.of_oneLine {s : String} (one : OneLine s) : Contained s := by
  simp [Contained, pieces_of_not_mem one.newline_not_mem]

/-- A text behind another one extends its last line. -/
theorem pieces_append_of_not_mem_right {b : List Char} (clear : '\n' ∉ b) (a : List Char) :
    ∃ init last, pieces a = init ++ [last] ∧ pieces (a ++ b) = init ++ [last ++ b] := by
  induction a with
  | nil => exact ⟨[], [], rfl, pieces_of_not_mem clear⟩
  | cons c a ih =>
    obtain ⟨init, last, same, extended⟩ := ih
    by_cases hc : c = '\n'
    · exact ⟨[] :: init, last, by simp [pieces, hc, same], by simp [pieces, hc, extended]⟩
    · cases init with
      | nil => exact ⟨[], c :: last, by simp [pieces, hc, same], by simp [pieces, hc, extended]⟩
      | cons first init =>
        exact ⟨(c :: first) :: init, last, by simp [pieces, hc, same],
          by simp [pieces, hc, extended]⟩

theorem mem_pieces_joinLines {ls : List String} (ne : ls ≠ []) {p : List Char} :
    p ∈ pieces (joinLines ls).toList ↔ ∃ l ∈ ls, p ∈ pieces l.toList := by
  induction ls with
  | nil => exact absurd rfl ne
  | cons l ls ih =>
    cases ls with
    | nil => simp [joinLines]
    | cons m ls =>
      have rest := ih (by simp)
      rw [← List.singleton_append, joinLines_append (by simp) (by simp)]
      have feed : ("\n" : String).toList = ['\n'] := rfl
      simp only [String.toList_append, List.append_assoc, feed, List.singleton_append,
        pieces_newline_append, List.mem_append, rest, List.mem_cons, exists_eq_or_imp]
      simp [joinLines]

/-- Paragraphs with blank lines between them have their own lines and empty ones. -/
theorem mem_pieces_paragraphs {ts : List String} {p : List Char}
    (member : p ∈ pieces ("\n\n".intercalate ts).toList) : p = [] ∨ ∃ t ∈ ts, p ∈ pieces t.toList := by
  have feeds : ("\n\n" : String).toList = ['\n', '\n'] := rfl
  induction ts with
  | nil => exact .inl (by simpa [pieces] using member)
  | cons t ts ih =>
    cases ts with
    | nil => exact .inr ⟨t, by simp, by simpa using member⟩
    | cons u ts =>
      rw [String.intercalate_cons_cons, String.toList_append, String.toList_append, feeds,
        List.append_assoc, List.cons_append, List.singleton_append, pieces_newline_append,
        List.mem_append] at member
      rcases member with first | later
      · exact .inr ⟨t, List.mem_cons_self, first⟩
      · rw [pieces, if_pos rfl, List.mem_cons] at later
        rcases later with blank | later
        · exact .inl blank
        · rcases ih later with blank | ⟨x, hx, inside⟩
          · exact .inl blank
          · exact .inr ⟨x, List.mem_cons_of_mem t hx, inside⟩

theorem pieces_prefix_append (a b : String) : pieces a.toList <+: pieces (a ++ "\n" ++ b).toList := by
  have feed : ("\n" : String).toList = ['\n'] := rfl
  simp [feed, pieces_newline_append]

theorem pieces_prefix_intercalate (blank t : String) (ts : List String) :
    pieces t.toList <+: pieces (("\n" ++ blank).intercalate (t :: ts)).toList := by
  cases ts with
  | nil => simp
  | cons u ts =>
    rw [String.intercalate_cons_cons, String.append_assoc, String.append_assoc, ← String.append_assoc]
    exact pieces_prefix_append t _

theorem exists_pieces_append {a : String} (one : OneLine a) (b : String) :
    ∃ first rest, pieces b.toList = first :: rest ∧ pieces (a ++ b).toList = (a.toList ++ first) :: rest := by
  obtain ⟨first, rest, same⟩ := List.exists_cons_of_ne_nil (pieces_ne_nil b.toList)
  rw [String.toList_append]
  exact ⟨first, rest, same, pieces_append_of_not_mem one.newline_not_mem same⟩

theorem contained_append_left {a b : String} (one : OneLine a) :
    Contained (a ++ b) ↔ Contained b := by
  obtain ⟨first, rest, same, extended⟩ := exists_pieces_append one b
  rw [Contained, Contained, same, extended, List.tail_cons, List.tail_cons]

theorem contained_append_right {a b : String} (one : OneLine b)
    (other : b.toList.head? ≠ some '\'') : Contained (a ++ b) ↔ Contained a := by
  obtain ⟨init, last, same, extended⟩ :=
    pieces_append_of_not_mem_right one.newline_not_mem a.toList
  have head : (last ++ b.toList).head? = some '\'' ↔ last.head? = some '\'' := by
    cases last with
    | nil => simpa using other
    | cons c last => simp
  cases init with
  | nil => simp [Contained, String.toList_append, same, extended]
  | cons first init =>
    simp only [Contained, String.toList_append, same, extended, List.cons_append, List.tail_cons,
      List.forall_mem_append, List.forall_mem_singleton, head]

theorem commented_append {a b : String} (one : OneLine a) (starts : a.toList.head? = some '\'') :
    Commented (a ++ b) ↔ Contained b := by
  obtain ⟨first, rest, same, extended⟩ := exists_pieces_append one b
  have head : (a.toList ++ first).head? = some '\'' := by
    rw [List.head?_append, starts]
    rfl
  rw [Commented, Contained, same, extended, List.forall_mem_cons, and_iff_right head, List.tail_cons]

theorem commented_of_oneLine {t : String} (one : OneLine t) : Commented ("'" ++ t) :=
  (commented_append (by decide) rfl).2 (.of_oneLine one)

theorem commented_joinLines {ls : List String} (ne : ls ≠ []) :
    Commented (joinLines ls) ↔ ∀ l ∈ ls, Commented l := by
  simp only [Commented, mem_pieces_joinLines ne]
  constructor
  · intro all l member p hp
    exact all p ⟨l, member, hp⟩
  · rintro each p ⟨l, member, hp⟩
    exact each l member p hp

end Text

open Text (Commented Contained)

namespace Document

theorem commented_header {d : Document} (name : OneLine d.name) :
    Commented d.header ↔ ∀ t ∈ d.options.station, Contained t := by
  have title : Commented ("'Program: " ++ d.name) :=
    (Text.commented_append (by decide) rfl).2 (.of_oneLine name)
  have date : Commented ("'Date: " ++ d.options.created.text) :=
    (Text.commented_append (by decide) rfl).2 (.of_oneLine (oneLine_date _))
  have station : ∀ t, Commented ("'Station: " ++ t) ↔ Contained t := fun t =>
    Text.commented_append (by decide) rfl
  rw [header, Text.commented_joinLines (by simp)]
  simp [title, date, station]

/-- The id of an instrument is left out only where it is the name of a type. -/
theorem commented_systemLine {p : Parts} (drawn : p.Drawn) :
    Commented (systemLine p) ↔ Contained p.id := by
  have typeId : OneLine p.descriptor.typeId := drawn.descriptor _ (by simp)
  rw [systemLine_eq, Text.commented_append (by decide) rfl,
    Text.contained_append_left drawn.oneLine_system]
  split
  · rename_i shown
    rw [shown]
    exact ⟨fun _ => .of_oneLine typeId, fun _ => .of_oneLine Text.oneLine_empty⟩
  · rw [Text.contained_append_right (by decide) (by decide), Text.contained_append_left (by decide)]

theorem commented_wiringBlock {p : Parts} (drawn : p.Drawn) (wired : p.wiring.isEmpty = false) :
    Commented (wiringBlock p) ↔ Contained p.id := by
  have title : Commented ("'Wiring: " ++ (p.id ++ (" (" ++ (p.descriptor.manufacturer ++ " " ++
      p.descriptor.model ++ ")")))) ↔ Contained p.id := by
    rw [Text.commented_append (by decide) rfl, Text.contained_append_right drawn.oneLine_type (by simp)]
  have diagram : ∀ l ∈ p.wiring.wires.map Wire.diagramLine ++ (p.wiring.note.map ("'" ++ ·)).toList,
      Commented l := by
    intro l member
    obtain ⟨t, one, rfl⟩ := drawn.exists_comment member
    exact Text.commented_of_oneLine one
  rw [wiringBlock_eq wired, Text.commented_joinLines (by simp), List.forall_mem_cons, title]
  exact and_iff_left diagram

theorem commented_sections_iff {d : Document} (name : OneLine d.name)
    (drawn : ∀ p ∈ d.instruments, p.Drawn) :
    (∀ t ∈ d.commentSections, Commented t) ↔
      (∀ t ∈ d.options.station, Contained t) ∧ ∀ p ∈ d.instruments, Contained p.id := by
  have systems : Commented d.systemConfiguration ↔ ∀ p ∈ d.instruments, Contained p.id := by
    have title : Commented "'System Configuration" := by decide
    rw [systemConfiguration, Text.commented_joinLines (by simp), List.forall_mem_cons,
      List.forall_mem_map]
    rw [and_iff_right title]
    exact forall₂_congr fun p hp => commented_systemLine (drawn p hp)
  have blocks : (∀ p ∈ d.instruments, Contained p.id) → ∀ t ∈ d.wiringBlocks, Commented t := by
    intro contained t member
    obtain ⟨p, hp, rfl⟩ := List.mem_map.1 member
    obtain ⟨present, wired⟩ := List.mem_filter.1 hp
    exact (commented_wiringBlock (drawn p present) (by simpa using wired)).2 (contained p present)
  rw [commentSections, List.forall_mem_append, List.forall_mem_cons, List.forall_mem_singleton,
    commented_header name, systems]
  constructor
  · rintro ⟨⟨station, contained⟩, _⟩
    exact ⟨station, contained⟩
  · rintro ⟨station, contained⟩
    exact ⟨⟨station, contained⟩, blocks contained⟩

/-- In front of the first declaration or directive there are only the comment sections, with empty
lines between them. -/
theorem exists_pieces_text (d : Document) :
    ∃ front back entry, pieces d.text.toList = front ++ back ∧
      (∀ l ∈ front, l = [] ∨ ∃ t ∈ d.commentSections, l ∈ pieces t.toList) ∧
      (d.declarations ++ d.directives).head? = some entry ∧ pieces entry.toList <+: back := by
  have code : ∃ entry rest more, (d.declarations ++ d.directives).head? = some entry ∧
      d.codeSections = joinLines (entry :: rest) :: more := by
    cases same : d.declarations with
    | nil =>
      obtain ⟨entry, rest, directives⟩ := List.exists_cons_of_ne_nil
        (show d.directives ≠ [] by simp [Document.directives])
      exact ⟨entry, rest, d.tables.map Table.text ++ (d.functions ++ [joinLines d.bodyParts]),
        by simp [directives], by simp [codeSections, same, directives]⟩
    | cons entry rest =>
      exact ⟨entry, rest, joinLines d.directives ::
        (d.tables.map Table.text ++ (d.functions ++ [joinLines d.bodyParts])), rfl,
        by simp [codeSections, same]⟩
  obtain ⟨entry, rest, more, first, code⟩ := code
  have text : d.text.toList = ("\n\n".intercalate d.commentSections).toList ++
      '\n' :: '\n' :: ("\n\n".intercalate d.codeSections ++ "\n").toList := by
    have feeds : ("\n\n" : String).toList = ['\n', '\n'] := rfl
    rw [Document.text, String.intercalate_append_of_ne_nil (by simp [commentSections])
      (by simp [code])]
    simp [feeds]
  refine ⟨pieces ("\n\n".intercalate d.commentSections).toList ++ [[]],
    pieces ("\n\n".intercalate d.codeSections ++ "\n").toList, entry, ?_, ?_, first, ?_⟩
  · rw [text, Text.pieces_newline_append, pieces, if_pos rfl]
    simp
  · intro l member
    rcases List.mem_append.1 member with comment | blank
    · exact Text.mem_pieces_paragraphs comment
    · exact .inl (List.mem_singleton.1 blank)
  · rw [code]
    have lines := Text.pieces_prefix_intercalate "" entry rest
    have sections := Text.pieces_prefix_intercalate "\n" (joinLines (entry :: rest)) more
    have ended := Text.pieces_prefix_append ("\n\n".intercalate (joinLines (entry :: rest) :: more)) ""
    rw [String.append_empty] at lines ended
    exact lines.trans (sections.trans ended)

end Document

theorem Configuration.oneLine_of_onOneLine {s : String} (passed : onOneLine s = true) : OneLine s := by
  intro c member
  have clear := List.all_eq_true.1 passed c member
  simpa using clear

theorem Configuration.oneLine_stationLine {c : Configuration} (valid : c.validate = .ok ()) :
    ∀ t ∈ c.stationLine, OneLine t := by
  intro t given
  have none := validate_eq_ok_iff.1 valid
  refine oneLine_of_onOneLine ?_
  by_contra broken
  have several : (c.stationLine.any fun s => !onOneLine s) = true := by
    rw [Option.mem_def.1 given]
    simpa using broken
  unfold fault? at none
  split at none
  · cases none
  · cases none

theorem ProgramDefinition.oneLine_name {p : ProgramDefinition} (valid : p.validate = .ok ()) :
    OneLine p.name := by
  have none := validate_eq_ok_iff.1 valid
  refine Configuration.oneLine_of_onOneLine ?_
  by_contra broken
  unfold fault? at none
  split at none
  · cases none
  · rw [if_pos (by simpa using broken)] at none
    cases none

/-- The texts that a definition gives without being asked for single lines. -/
def ProgramDefinition.Contained (p : ProgramDefinition) : Prop :=
  (∀ t ∈ p.station, Text.Contained t) ∧
    ∀ r ∈ p.instruments, ∀ t ∈ r.settings.label, Text.Contained t

theorem contained_id_iff {s : InstrumentSettings} {i : Instrument} (described : Described s i) :
    i.parts.Drawn ∧ (Contained i.parts.id ↔ ∀ t ∈ s.label, Contained t) := by
  obtain ⟨D, o, p, describes, built, rfl⟩ := described.exists_design
  have typeId : OneLine D.descriptor.typeId := describes.legible.descriptor _ (by simp)
  exact ⟨describes.legible.drawn built, built.id_iff (Contained.of_oneLine typeId)⟩

theorem contained_ids_iff {requests : List InstrumentRequest} {instruments : List Instrument}
    (built : List.Forall₂ (fun r i => Described r.settings i) requests instruments) :
    (∀ i ∈ instruments, i.parts.Drawn) ∧ ((∀ i ∈ instruments, Contained i.parts.id) ↔
      ∀ r ∈ requests, ∀ t ∈ r.settings.label, Contained t) := by
  induction built with
  | nil => simp
  | cons first _ ih =>
    obtain ⟨drawn, label⟩ := contained_id_iff first
    refine ⟨List.forall_mem_cons.2 ⟨drawn, ih.1⟩, ?_⟩
    rw [List.forall_mem_cons, List.forall_mem_cons, label, ih.2]

/-- The lines in front of the first declaration or directive are comments exactly where the station line
and the labels of a definition stay inside theirs. -/
theorem commented_sections_of_assemble {c : Configuration} {p : ProgramDefinition}
    {created : CalendarDate} {d : Document} (configured : c.validate = .ok ())
    (defined : p.validate = .ok ())
    (made : assemble builtin (p.request created c.defaults c.stationLine) = .ok d) :
    ((∀ t ∈ d.commentSections, Commented t) ↔ p.Contained) ∧
      (p.Contained → ∃ front back entry, pieces d.text.toList = front ++ back ∧
        (∀ l ∈ front, l = [] ∨ l.head? = some '\'') ∧
        (d.declarations ++ d.directives).head? = some entry ∧ pieces entry.toList <+: back) := by
  obtain ⟨s, reached, rfl⟩ := assemble_eq_ok_iff.1 made
  obtain ⟨drawn, labels⟩ := contained_ids_iff
    ((Outcome.mapM_eq_ok_iff.1 reached.built).imp fun _ _ => described_of_instantiate)
  generalize laid : s.document _ = d
  have instruments : d.instruments = s.instruments.map Instrument.parts := laid ▸ rfl
  have name : d.name = p.name := laid ▸ rfl
  have options : d.options.station = p.station.or c.stationLine := laid ▸ rfl
  have each : ∀ {P : Parts → Prop}, (∀ x ∈ d.instruments, P x) ↔ ∀ i ∈ s.instruments, P i.parts := by
    intro P
    rw [instruments, List.forall_mem_map]
  have labelled := (@each fun x => Contained x.id).trans labels
  have station : (∀ t ∈ d.options.station, Contained t) ↔ ∀ t ∈ p.station, Contained t := by
    rw [options]
    cases p.station with
    | none =>
      have prefixed := Configuration.oneLine_stationLine configured
      simpa using fun t given => Contained.of_oneLine (prefixed t given)
    | some t => simp
  have iff : (∀ t ∈ d.commentSections, Commented t) ↔ p.Contained := by
    rw [Document.commented_sections_iff (name ▸ ProgramDefinition.oneLine_name defined) (each.2 drawn),
      station, labelled]
    rfl
  refine ⟨iff, fun contained => ?_⟩
  obtain ⟨front, back, entry, text, comments, first, begins⟩ := d.exists_pieces_text
  refine ⟨front, back, entry, text, fun l member => ?_, first, begins⟩
  rcases comments l member with blank | ⟨t, ht, inside⟩
  · exact .inl blank
  · exact .inr (iff.2 contained t ht l inside)

/-! Further lines with apostrophes of their own keep the sections comments; one without makes a line of the
program. -/

namespace Comments

def barometer : InstrumentRequest :=
  ⟨"Setra_CS100", { InstrumentSettings.standard with label := some "mast\n'top" }, .empty⟩

def yard : ProgramDefinition :=
  ⟨"Yard", some "North\n'field", none, none, none, [barometer]⟩

def broken : ProgramDefinition :=
  ⟨"x", some "A\nBeginProg", none, none, none, []⟩

end Comments

open Comments in
theorem yard_commented :
    Configuration.standard.validate = .ok () ∧ yard.validate = .ok () ∧
      ∃ d, assemble builtin (yard.request ⟨2024, 1, 1⟩ Configuration.standard.defaults
          Configuration.standard.stationLine) = .ok d ∧
        (∀ t ∈ d.commentSections, Commented t) ∧
        ∃ front back entry, pieces d.text.toList = front ++ back ∧
          (∀ l ∈ front, l = [] ∨ l.head? = some '\'') ∧
          (d.declarations ++ d.directives).head? = some entry ∧ pieces entry.toList <+: back := by
  have configured : Configuration.standard.validate = .ok () := by decide
  have defined : yard.validate = .ok () := by decide
  have contained : yard.Contained := by
    refine ⟨by rintro _ ⟨⟩; decide, ?_⟩
    simp only [yard, List.forall_mem_singleton]
    rintro _ ⟨⟩
    decide
  have made : ∃ d, assemble builtin (yard.request ⟨2024, 1, 1⟩ Configuration.standard.defaults
      Configuration.standard.stationLine) = .ok d ∧ true = true :=
    Outcome.exists_ok_of_all (by decide +kernel)
  obtain ⟨d, made, _⟩ := made
  obtain ⟨iff, introduced⟩ := commented_sections_of_assemble configured defined made
  exact ⟨configured, defined, d, made, iff.2 contained, introduced contained⟩

open Comments in
theorem station_not_commented :
    ¬ ∀ (c : Configuration) (p : ProgramDefinition) (created : CalendarDate) (d : Document),
      c.validate = .ok () → p.validate = .ok () →
        assemble builtin (p.request created c.defaults c.stationLine) = .ok d →
          ∀ t ∈ d.commentSections, ∀ l ∈ pieces t.toList, l = [] ∨ l.head? = some '\'' := by
  intro all
  have line := all .standard broken ⟨2026, 1, 15⟩ _ (by decide) (by decide) rfl _
    List.mem_cons_self "BeginProg".toList (by decide)
  revert line
  decide

end Datalogger
