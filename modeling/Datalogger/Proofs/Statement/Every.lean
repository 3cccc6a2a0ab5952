import Datalogger.Proofs.Outcome
import Datalogger.Statement

/-!
Properties of all texts in a statement: one for plain lines and one for the parts of block heads. A
function that is applied to every text carries such properties over, so filling a statement whose
texts can all be filled succeeds.
-/

namespace Datalogger.Statement

variable {α β ε : Type}

mutual

/-- Plain lines have the property `line`, counters the property `name`, and conditions and bounds the
property `part`. -/
def Every (line part name : α → Prop) : Statement α → Prop
  | .line t => line t
  | .choice condition body rest =>
    part condition ∧ EveryIn line part name body ∧ EveryAlternative line part name rest
  | .loop counter first last step body =>
    name counter ∧ part first ∧ part last ∧ (∀ s ∈ step, part s) ∧ EveryIn line part name body

def EveryIn (line part name : α → Prop) : List (Statement α) → Prop
  | [] => True
  | s :: rest => Every line part name s ∧ EveryIn line part name rest

def EveryAlternative (line part name : α → Prop) : Alternative α → Prop
  | .none => True
  | .otherwise body => EveryIn line part name body
  | .elseIf condition body rest =>
    part condition ∧ EveryIn line part name body ∧ EveryAlternative line part name rest

end

theorem everyIn_iff {line part name : α → Prop} {body : List (Statement α)} :
    EveryIn line part name body ↔ ∀ s ∈ body, s.Every line part name := by
  induction body with
  | nil => simp [EveryIn]
  | cons s rest ih => simp [EveryIn, ih]

section Shapes

variable {line part name : α → Prop}

@[simp] theorem every_line {t : α} : (Statement.line t).Every line part name ↔ line t := Iff.rfl

@[simp] theorem every_ifThen {condition : α} {body : List (Statement α)} :
    (ifThen condition body).Every line part name ↔
      part condition ∧ ∀ s ∈ body, s.Every line part name := by
  simp [ifThen, Every, EveryAlternative, everyIn_iff]

@[simp] theorem every_ifThenElse {condition : α} {body other : List (Statement α)} :
    (ifThenElse condition body other).Every line part name ↔
      part condition ∧ (∀ s ∈ body, s.Every line part name) ∧
        ∀ s ∈ other, s.Every line part name := by
  simp [ifThenElse, Every, EveryAlternative, everyIn_iff]

@[simp] theorem every_loop {counter first last : α} {body : List (Statement α)} :
    (Statement.loop counter first last none body).Every line part name ↔
      name counter ∧ part first ∧ part last ∧ ∀ s ∈ body, s.Every line part name := by
  simp [Every, everyIn_iff]

end Shapes

section Weakening

variable {line part name line' part' name' : α → Prop}

mutual

theorem Every.imp (hline : ∀ t, line t → line' t) (hpart : ∀ t, part t → part' t)
    (hname : ∀ t, name t → name' t) :
    ∀ {s : Statement α}, s.Every line part name → s.Every line' part' name'
  | .line t, h => hline t h
  | .choice condition _ _, ⟨hc, hb, hr⟩ =>
    ⟨hpart condition hc, hb.imp hline hpart hname, hr.imp hline hpart hname⟩
  | .loop counter first last _ _, ⟨hc, hf, hl, hs, hb⟩ =>
    ⟨hname counter hc, hpart first hf, hpart last hl, fun t member => hpart t (hs t member),
      hb.imp hline hpart hname⟩

theorem EveryIn.imp (hline : ∀ t, line t → line' t) (hpart : ∀ t, part t → part' t)
    (hname : ∀ t, name t → name' t) :
    ∀ {body : List (Statement α)}, EveryIn line part name body → EveryIn line' part' name' body
  | [], _ => trivial
  | _ :: _, ⟨hs, hr⟩ => ⟨hs.imp hline hpart hname, hr.imp hline hpart hname⟩

theorem EveryAlternative.imp (hline : ∀ t, line t → line' t) (hpart : ∀ t, part t → part' t)
    (hname : ∀ t, name t → name' t) :
    ∀ {a : Alternative α}, EveryAlternative line part name a → EveryAlternative line' part' name' a
  | .none, _ => trivial
  | .otherwise _, hb => EveryIn.imp hline hpart hname hb
  | .elseIf condition _ _, ⟨hc, hb, hr⟩ =>
    ⟨hpart condition hc, hb.imp hline hpart hname, hr.imp hline hpart hname⟩

end

end Weakening

section Filling

variable {f : α → Except ε β} {line part name : α → Prop} {line' part' name' : β → Prop}

mutual

theorem mapM_every (hline : ∀ t, line t → ∃ u, f t = .ok u ∧ line' u)
    (hpart : ∀ t, part t → ∃ u, f t = .ok u ∧ part' u)
    (hname : ∀ t, name t → ∃ u, f t = .ok u ∧ name' u) :
    ∀ s : Statement α, s.Every line part name → ∃ s', s.mapM f = .ok s' ∧ s'.Every line' part' name'
  | .line t, h => by
    obtain ⟨u, filled, hu⟩ := hline t h
    exact ⟨.line u, by simp [mapM, filled, bind, Except.bind, pure, Except.pure], hu⟩
  | .choice condition body rest, ⟨hc, hb, hr⟩ => by
    obtain ⟨c, filledC, hc'⟩ := hpart condition hc
    obtain ⟨b, filledB, hb'⟩ := mapMList_every hline hpart hname body hb
    obtain ⟨r, filledR, hr'⟩ := mapMAlternative_every hline hpart hname rest hr
    exact ⟨.choice c b r,
      by simp [mapM, filledC, filledB, filledR, bind, Except.bind, pure, Except.pure],
      hc', hb', hr'⟩
  | .loop counter first last step body, ⟨hc, hf, hl, hs, hb⟩ => by
    obtain ⟨c, filledC, hc'⟩ := hname counter hc
    obtain ⟨x, filledF, hf'⟩ := hpart first hf
    obtain ⟨y, filledL, hl'⟩ := hpart last hl
    obtain ⟨z, filledS, hs'⟩ := Outcome.option_mapM_ok_of_forall (P := part')
      fun t (same : step = some t) => hpart t (hs t same)
    obtain ⟨b, filledB, hb'⟩ := mapMList_every hline hpart hname body hb
    exact ⟨.loop c x y z b,
      by simp [mapM, filledC, filledF, filledL, filledS, filledB, bind, Except.bind, pure,
        Except.pure],
      hc', hf', hl', hs', hb'⟩

theorem mapMList_every (hline : ∀ t, line t → ∃ u, f t = .ok u ∧ line' u)
    (hpart : ∀ t, part t → ∃ u, f t = .ok u ∧ part' u)
    (hname : ∀ t, name t → ∃ u, f t = .ok u ∧ name' u) :
    ∀ body : List (Statement α), EveryIn line part name body →
      ∃ body', mapMList f body = .ok body' ∧ EveryIn line' part' name' body'
  | [], _ => ⟨[], rfl, trivial⟩
  | s :: rest, ⟨hs, hr⟩ => by
    obtain ⟨s', filledS, hs'⟩ := mapM_every hline hpart hname s hs
    obtain ⟨r, filledR, hr'⟩ := mapMList_every hline hpart hname rest hr
    exact ⟨s' :: r, by simp [mapMList, filledS, filledR, bind, Except.bind, pure, Except.pure],
      hs', hr'⟩

theorem mapMAlternative_every (hline : ∀ t, line t → ∃ u, f t = .ok u ∧ line' u)
    (hpart : ∀ t, part t → ∃ u, f t = .ok u ∧ part' u)
    (hname : ∀ t, name t → ∃ u, f t = .ok u ∧ name' u) :
    ∀ a : Alternative α, EveryAlternative line part name a →
      ∃ a', mapMAlternative f a = .ok a' ∧ EveryAlternative line' part' name' a'
  | .none, _ => ⟨.none, rfl, trivial⟩
  | .otherwise body, h => by
    obtain ⟨b, filled, hb'⟩ := mapMList_every hline hpart hname body h
    exact ⟨.otherwise b, by simp [mapMAlternative, filled, bind, Except.bind, pure, Except.pure],
      hb'⟩
  | .elseIf condition body rest, ⟨hc, hb, hr⟩ => by
    obtain ⟨c, filledC, hc'⟩ := hpart condition hc
    obtain ⟨b, filledB, hb'⟩ := mapMList_every hline hpart hname body hb
    obtain ⟨r, filledR, hr'⟩ := mapMAlternative_every hline hpart hname rest hr
    exact ⟨.elseIf c b r,
      by simp [mapMAlternative, filledC, filledB, filledR, bind, Except.bind, pure, Except.pure],
      hc', hb', hr'⟩

end

end Filling

end Datalogger.Statement
