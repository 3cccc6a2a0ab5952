import Datalogger.Proofs.Statement.Every
import Datalogger.Proofs.Text.Rewriting

/-!
Changing every text of a statement. Filling commutes with it, and so does the layout if the change is a
rewriting that keeps the keywords.
-/

namespace Datalogger

namespace Outcome

variable {α β γ δ ε : Type} {f : α → Except ε β} {g : α → Except ε γ} {h : β → γ}

theorem bind_map_eq {x : Except ε β} {k : β → Except ε α} {k' : γ → Except ε δ} {l : α → δ}
    (same : ∀ y, k' (h y) = (k y).map l) : (x.map h >>= k') = (x >>= k).map l := by
  cases x with
  | error e => rfl
  | ok y => exact same y

theorem mapM_eq_map {xs : List α} (same : ∀ x ∈ xs, g x = (f x).map h) :
    xs.mapM g = (xs.mapM f).map (List.map h) := by
  induction xs with
  | nil => rfl
  | cons x xs ih =>
    rw [List.mapM_cons, List.mapM_cons, same x List.mem_cons_self,
      ih fun y member => same y (List.mem_cons_of_mem x member)]
    exact bind_map_eq fun y => bind_map_eq fun ys => rfl

theorem option_mapM_eq_map {o : Option α} (same : ∀ x ∈ o, g x = (f x).map h) :
    o.mapM g = (o.mapM f).map (Option.map h) := by
  cases o with
  | none => rfl
  | some x =>
    rw [Option.mapM_some, Option.mapM_some, same x rfl]
    cases f x <;> rfl

end Outcome

namespace Statement

open Text (joinLines indent)

variable {α β γ ε : Type}

mutual

def map (f : α → β) : Statement α → Statement β
  | .line t => .line (f t)
  | .choice condition body rest => .choice (f condition) (mapList f body) (mapAlternative f rest)
  | .loop counter first last step body =>
    .loop (f counter) (f first) (f last) (step.map f) (mapList f body)

def mapList (f : α → β) : List (Statement α) → List (Statement β)
  | [] => []
  | s :: rest => map f s :: mapList f rest

def mapAlternative (f : α → β) : Alternative α → Alternative β
  | .none => .none
  | .otherwise body => .otherwise (mapList f body)
  | .elseIf condition body rest => .elseIf (f condition) (mapList f body) (mapAlternative f rest)

end

mutual

theorem Every.and {line part name line' part' name' : α → Prop} :
    ∀ {s : Statement α}, s.Every line part name → s.Every line' part' name' →
      s.Every (fun t => line t ∧ line' t) (fun t => part t ∧ part' t) (fun t => name t ∧ name' t)
  | .line _, h, h' => ⟨h, h'⟩
  | .choice _ _ _, ⟨hc, hb, hr⟩, ⟨hc', hb', hr'⟩ => ⟨⟨hc, hc'⟩, hb.and hb', hr.and hr'⟩
  | .loop _ _ _ _ _, ⟨hc, hf, hl, hs, hb⟩, ⟨hc', hf', hl', hs', hb'⟩ =>
    ⟨⟨hc, hc'⟩, ⟨hf, hf'⟩, ⟨hl, hl'⟩, fun t member => ⟨hs t member, hs' t member⟩, hb.and hb'⟩

theorem EveryIn.and {line part name line' part' name' : α → Prop} :
    ∀ {body : List (Statement α)}, EveryIn line part name body → EveryIn line' part' name' body →
      EveryIn (fun t => line t ∧ line' t) (fun t => part t ∧ part' t) (fun t => name t ∧ name' t) body
  | [], _, _ => trivial
  | _ :: _, ⟨hs, hr⟩, ⟨hs', hr'⟩ => ⟨hs.and hs', hr.and hr'⟩

theorem EveryAlternative.and {line part name line' part' name' : α → Prop} :
    ∀ {a : Alternative α}, EveryAlternative line part name a →
      EveryAlternative line' part' name' a →
      EveryAlternative (fun t => line t ∧ line' t) (fun t => part t ∧ part' t)
        (fun t => name t ∧ name' t) a
  | .none, _, _ => trivial
  | .otherwise _, hb, hb' => EveryIn.and hb hb'
  | .elseIf _ _ _, ⟨hc, hb, hr⟩, ⟨hc', hb', hr'⟩ => ⟨⟨hc, hc'⟩, hb.and hb', hr.and hr'⟩

end

section Filling

variable {f : α → Except ε β} {g : α → Except ε γ} {h : β → γ} {P : α → Prop}

mutual

theorem mapM_eq_map (same : ∀ t, P t → g t = (f t).map h) :
    ∀ s : Statement α, s.Every P P P → s.mapM g = (s.mapM f).map (map h)
  | .line t, every => by
    rw [mapM, mapM, same t every]
    exact Outcome.bind_map_eq fun u => rfl
  | .choice condition body rest, ⟨hc, hb, hr⟩ => by
    rw [mapM, mapM, same condition hc, mapMList_eq_map same body hb,
      mapMAlternative_eq_map same rest hr]
    exact Outcome.bind_map_eq fun c => Outcome.bind_map_eq fun b => Outcome.bind_map_eq fun r => rfl
  | .loop counter first last step body, ⟨hc, hf, hl, hs, hb⟩ => by
    rw [mapM, mapM, same counter hc, same first hf, same last hl,
      Outcome.option_mapM_eq_map fun t member => same t (hs t member), mapMList_eq_map same body hb]
    exact Outcome.bind_map_eq fun c => Outcome.bind_map_eq fun x => Outcome.bind_map_eq fun y =>
      Outcome.bind_map_eq fun z => Outcome.bind_map_eq fun b => rfl

theorem mapMList_eq_map (same : ∀ t, P t → g t = (f t).map h) :
    ∀ body : List (Statement α), EveryIn P P P body →
      mapMList g body = (mapMList f body).map (mapList h)
  | [], _ => rfl
  | s :: rest, ⟨hs, hr⟩ => by
    rw [mapMList, mapMList, mapM_eq_map same s hs, mapMList_eq_map same rest hr]
    exact Outcome.bind_map_eq fun s' => Outcome.bind_map_eq fun r => rfl

theorem mapMAlternative_eq_map (same : ∀ t, P t → g t = (f t).map h) :
    ∀ a : Alternative α, EveryAlternative P P P a →
      mapMAlternative g a = (mapMAlternative f a).map (mapAlternative h)
  | .none, _ => rfl
  | .otherwise body, every => by
    rw [mapMAlternative, mapMAlternative, mapMList_eq_map same body every]
    exact Outcome.bind_map_eq fun b => rfl
  | .elseIf condition body rest, ⟨hc, hb, hr⟩ => by
    rw [mapMAlternative, mapMAlternative, same condition hc, mapMList_eq_map same body hb,
      mapMAlternative_eq_map same rest hr]
    exact Outcome.bind_map_eq fun c => Outcome.bind_map_eq fun b => Outcome.bind_map_eq fun r => rfl

end

end Filling

def headParts : List String :=
  ["If ", " Then", "ElseIf ", "Else", "EndIf", "For ", " = ", " To ", " Step ", "Next "]

def KeepsHeads (ρ : Rewriting) : Prop :=
  ∀ k ∈ headParts, ρ.text k = k

section Layout

variable {ρ : Rewriting}

theorem text_choiceHead (kept : KeepsHeads ρ) (c : String) : ρ.text (choiceHead c) = choiceHead (ρ.text c) := by
  rw [choiceHead, choiceHead, ρ.text_append_of_starts (by decide), ρ.text_append_of_ends (by decide),
    kept "If " (by decide), kept " Then" (by decide)]

theorem text_elseIfHead (kept : KeepsHeads ρ) (c : String) : ρ.text (elseIfHead c) = elseIfHead (ρ.text c) := by
  rw [elseIfHead, elseIfHead, ρ.text_append_of_starts (by decide), ρ.text_append_of_ends (by decide),
    kept "ElseIf " (by decide), kept " Then" (by decide)]

theorem text_next (kept : KeepsHeads ρ) (counter : String) :
    ρ.text ("Next " ++ counter) = "Next " ++ ρ.text counter := by
  rw [ρ.text_append_of_ends (by decide), kept "Next " (by decide)]

theorem text_loopHead (kept : KeepsHeads ρ) (counter first last : String) (step : Option String) :
    ρ.text (loopHead counter first last step) =
      loopHead (ρ.text counter) (ρ.text first) (ρ.text last) (step.map ρ.text) := by
  have bounds : ρ.text ("For " ++ counter ++ " = " ++ first ++ " To " ++ last) =
      "For " ++ ρ.text counter ++ " = " ++ ρ.text first ++ " To " ++ ρ.text last := by
    rw [ρ.text_around (by decide) (by decide) (kept " To " (by decide)),
      ρ.text_around (by decide) (by decide) (kept " = " (by decide)),
      ρ.text_append_of_ends (by decide), kept "For " (by decide)]
  cases step with
  | none =>
    rw [loopHead, loopHead, Option.map_none, Option.elim_none, String.append_empty,
      String.append_empty, bounds]
  | some t =>
    rw [loopHead, loopHead, Option.map_some, Option.elim_some, Option.elim_some, ← String.append_assoc,
      ← String.append_assoc, ρ.text_around (by decide) (by decide) (kept " Step " (by decide)), bounds]

theorem text_inset (body : List String) :
    (Body.inset ⟨body⟩).map ρ.text = Body.inset ⟨body.map ρ.text⟩ := by
  cases body with
  | nil => rfl
  | cons t rest =>
    rw [Body.inset_of_ne_nil (by simp), Body.inset_of_ne_nil (by simp), List.map_singleton,
      ρ.text_indent, ρ.text_joinLines]

mutual

theorem text_map (kept : KeepsHeads ρ) : ∀ s : Statement String, (s.map ρ.text).text = ρ.text s.text
  | .line t => by rw [map, text, text]
  | .choice condition body rest => by
    rw [map, text, text, ρ.text_joinLines, texts_map kept body, alternativeTexts_map kept rest,
      List.map_append, List.map_append, List.map_cons, text_choiceHead kept, text_inset,
      List.map_singleton, kept "EndIf" (by decide)]
  | .loop counter first last step body => by
    rw [map, text, text, ρ.text_joinLines, texts_map kept body, List.map_append, List.map_cons,
      text_loopHead kept, text_inset, List.map_singleton, text_next kept]

theorem texts_map (kept : KeepsHeads ρ) : ∀ body : List (Statement String),
    texts (mapList ρ.text body) = (texts body).map ρ.text
  | [] => rfl
  | s :: rest => by
    rw [mapList, texts, texts, text_map kept s, texts_map kept rest, List.map_cons]

theorem alternativeTexts_map (kept : KeepsHeads ρ) : ∀ a : Alternative String,
    alternativeTexts (mapAlternative ρ.text a) = (alternativeTexts a).map ρ.text
  | .none => rfl
  | .otherwise body => by
    rw [mapAlternative, alternativeTexts, alternativeTexts, texts_map kept body, List.map_cons, text_inset,
      kept "Else" (by decide)]
  | .elseIf condition body rest => by
    rw [mapAlternative, alternativeTexts, alternativeTexts, texts_map kept body, alternativeTexts_map kept rest,
      List.map_append, List.map_cons, text_elseIfHead kept, text_inset]

end

end Layout

end Statement

end Datalogger
