import Datalogger.Proofs.Identifiers
import Datalogger.Proofs.Names

/-!
Reading the declared names off declaration lines. A line declares one name: the effective name of a
scalar, of a register or of an element of one. Read in order, the lines of a set give the effective
names of its declared variables, and nothing else.
-/

namespace Datalogger

def afterAssign? : List Char → Option (List Char)
  | [] => none
  | c :: cs =>
    match " = ".toList.isPrefixOf? (c :: cs) with
    | some rest => some rest
    | none => afterAssign? cs

def declarationKeywords : List String := ["Public ", "Dim ", "Const ", "Alias "]

def endsName (c : Char) : Bool :=
  c == '(' || c == ' '

/-- What follows the keyword on a line that gives an element of a register a name: the element has a
parenthesis behind its base. -/
def aliased? (line : List Char) : Option (List Char) :=
  ("Alias ".toList.isPrefixOf? line).filter fun rest =>
    (rest.dropWhile fun c => !endsName c).head? == some '('

/-- The name that a declaration line declares. If the line gives an element of a register a name, that
name stands behind the equals sign, up to a space. On any other line the name stands behind the keyword,
up to a parenthesis, a space or the end; an equals sign there belongs to the value or to the units. -/
def declaredName? (line : String) : Option String :=
  match aliased? line.toList with
  | some rest => (afterAssign? rest).map fun cs => String.ofList (cs.takeWhile (· != ' '))
  | none =>
    (declarationKeywords.findSome? fun k => k.toList.isPrefixOf? line.toList).map fun cs =>
      String.ofList (cs.takeWhile fun c => !endsName c)

def Spaced (s : String) : Prop :=
  ∀ c ∈ s.toList.head?, c = ' '

theorem spaced_empty : Spaced "" := by
  intro c member
  simp at member

theorem Spaced.append {a b : String} (ha : Spaced a) (hb : Spaced b) : Spaced (a ++ b) := by
  intro c member
  rw [String.toList_append] at member
  cases chars : a.toList with
  | nil =>
    rw [chars, List.nil_append] at member
    exact hb c member
  | cons x rest =>
    rw [chars, List.cons_append, List.head?_cons] at member
    exact ha c (by simpa [chars] using member)

section Word

variable {p : Char → Bool} {name rest : List Char} (all : ∀ c ∈ name, p c = true)
  (stop : ∀ c ∈ rest.head?, p c = false)

include all stop

theorem takeWhile_name : (name ++ rest).takeWhile p = name := by
  rw [List.takeWhile_append_of_pos all]
  cases rest with
  | nil => simp
  | cons c rest =>
    have := stop c rfl
    simp [this]

theorem dropWhile_name : (name ++ rest).dropWhile p = rest := by
  rw [List.dropWhile_append_of_pos all]
  cases rest with
  | nil => rfl
  | cons c rest =>
    have := stop c rfl
    simp [this]

end Word

theorem not_endsName {name : String} (valid : isIdentifier name = true) :
    ∀ c ∈ name.toList, (!endsName c) = true := by
  intro c member
  have hc := isWordChar_of_isIdentifier valid member
  have paren : c ≠ '(' := isWordChar_ne hc (by decide)
  have space : c ≠ ' ' := isWordChar_ne hc (by decide)
  simp [endsName, paren, space]

theorem aliased?_keyword {name : String} (valid : isIdentifier name = true) {rest : List Char}
    (ends : ∀ c ∈ rest.head?, endsName c = true) :
    aliased? ("Alias ".toList ++ (name.toList ++ rest)) =
      if rest.head? = some '(' then some (name.toList ++ rest) else none := by
  have left : (name.toList ++ rest).dropWhile (fun c => !endsName c) = rest :=
    dropWhile_name (not_endsName valid) fun c member => by simp [ends c member]
  have cut : "Alias ".toList.isPrefixOf? ("Alias ".toList ++ (name.toList ++ rest)) =
      some (name.toList ++ rest) := by simp [List.isPrefixOf?]
  simp only [aliased?, cut, Option.filter_some, left, beq_iff_eq]

theorem spaced_typeClause (v : Variable) : Spaced v.typeClause := by
  unfold Variable.typeClause
  cases v.dataType with
  | none => exact spaced_empty
  | some t => intro c member; simpa using member.symm

theorem spaced_unitsClause (v : Variable) : Spaced v.unitsClause := by
  unfold Variable.unitsClause
  cases v.units with
  | none => exact spaced_empty
  | some u => intro c member; simpa using member.symm

theorem spaced_value (v : Variable) : Spaced (v.value.elim "" (" = " ++ ·)) := by
  cases v.value with
  | none => exact spaced_empty
  | some x => intro c member; simpa using member.symm

/-- A line that gives no element a name. -/
theorem declaredName_of_keyword (kind : DeclKind) {name : String} (valid : isIdentifier name = true)
    (rest : List Char) (stop : ∀ c ∈ rest.head?, c = ' ' ∨ kind ≠ .element ∧ c = '(') :
    declaredName? (kind.keyword ++ " " ++ name ++ String.ofList rest) = some name := by
  have word := not_endsName valid
  have ends : ∀ c ∈ rest.head?, endsName c = true := by
    intro c member
    rcases stop c member with rfl | ⟨_, rfl⟩ <;> rfl
  have read : (name.toList ++ rest).takeWhile (fun c => !endsName c) = name.toList :=
    takeWhile_name word fun c member => by simp [ends c member]
  cases kind with
  | published =>
    simp [declaredName?, aliased?, declarationKeywords, DeclKind.keyword, List.isPrefixOf?, read]
  | constant =>
    simp [declaredName?, aliased?, declarationKeywords, DeclKind.keyword, List.isPrefixOf?, read]
  | scratch =>
    simp [declaredName?, aliased?, declarationKeywords, DeclKind.keyword, List.isPrefixOf?, read]
  | element =>
    have apart : rest.head? ≠ some '(' := by
      intro paren
      rcases stop '(' paren with never | ⟨never, _⟩
      · exact absurd never (by decide)
      · exact never rfl
    have chars : (DeclKind.element.keyword ++ " " ++ name ++ String.ofList rest).toList =
        "Alias ".toList ++ (name.toList ++ rest) := by simp [DeclKind.keyword]
    rw [declaredName?, chars, aliased?_keyword valid ends, if_neg apart]
    simp [declarationKeywords, List.isPrefixOf?, read]

theorem declaredName_declaration {v : Variable} (valid : isIdentifier v.effectiveName = true) :
    declaredName? v.declaration = some v.effectiveName := by
  have clauses : Spaced (v.typeClause ++ v.value.elim "" (" = " ++ ·) ++ v.unitsClause) :=
    ((spaced_typeClause v).append (spaced_value v)).append (spaced_unitsClause v)
  have read := declaredName_of_keyword v.kind valid
    (v.typeClause ++ v.value.elim "" (" = " ++ ·) ++ v.unitsClause).toList
    fun c member => .inl (clauses c member)
  simpa [Variable.declaration, String.append_assoc] using read

/-- The name of an element may be declared without its register. -/
example : declaredName? "Alias stage : Units stage = mm" = some "stage" := by decide

theorem declaredName_head {r : Register} (valid : isIdentifier r.name = true) :
    declaredName? r.head = some r.name := by
  have own : r.base.kind ≠ .element := by
    rcases r.base_isBase.kind with kind | kind <;> simp [kind]
  have read := declaredName_of_keyword r.base.kind valid
    ("(" ++ natText r.dimension ++ ")" ++ r.base.typeClause).toList
    fun c member => .inr ⟨own, by simpa using member.symm⟩
  simpa [Register.head, String.append_assoc] using read

theorem afterAssign_of_no_space {front : List Char} (h : ' ' ∉ front) (rest : List Char) :
    afterAssign? (front ++ ' ' :: '=' :: ' ' :: rest) = some rest := by
  induction front with
  | nil => simp [afterAssign?, List.isPrefixOf?]
  | cons c front ih =>
    have hc : ' ' ≠ c := by rintro rfl; simp at h
    have later := ih fun member => h (List.mem_cons_of_mem c member)
    rw [List.cons_append, afterAssign?]
    simp [List.isPrefixOf?, hc, later]

theorem no_space_element {r : Register} (valid : isIdentifier r.name = true) (index : Nat) :
    ' ' ∉ (r.element (natText index)).toList := by
  intro member
  simp only [Register.element, String.toList_append, List.mem_append] at member
  rcases member with ((name | paren) | digits) | paren
  · exact isWordChar_ne (isWordChar_of_isIdentifier valid name) (by decide) rfl
  · simp at paren
  · exact absurd (natText_digits digits) (by decide)
  · simp at paren

theorem declaredName_aliasLine {r : Register} (base : isIdentifier r.name = true) (index : Nat)
    {v : Variable} (valid : isIdentifier v.effectiveName = true) :
    declaredName? (r.aliasLine index v) = some v.effectiveName := by
  have found := afterAssign_of_no_space (no_space_element base index)
    (v.effectiveName.toList ++ v.unitsClause.toList)
  have word : ∀ c ∈ v.effectiveName.toList, (c != ' ') = true := by
    intro c member
    have space : c ≠ ' ' := isWordChar_ne (isWordChar_of_isIdentifier valid member) (by decide)
    simp [space]
  have ends : ∀ c ∈ v.unitsClause.toList.head?, (c != ' ') = false := by
    intro c member
    simp [spaced_unitsClause v c member]
  have read := takeWhile_name word ends
  have opens : (r.element (natText index)).toList =
      r.name.toList ++ '(' :: ((natText index).toList ++ [')']) := by
    simp [Register.element]
  have chars : (r.aliasLine index v).toList = "Alias ".toList ++
      ((r.element (natText index)).toList ++ ' ' :: '=' :: ' ' ::
        (v.effectiveName.toList ++ v.unitsClause.toList)) := by
    simp [Register.aliasLine]
  rw [declaredName?, chars, opens, List.append_assoc, aliased?_keyword base (by simp [endsName]),
    if_pos (by simp), ← List.append_assoc, ← opens]
  simp only [found, Option.map_some, read, String.ofList_toList]

theorem map_declaredName_lines {d : Declaration}
    (valid : ∀ v ∈ d.vars, isIdentifier v.effectiveName = true) :
    d.lines.map declaredName? =
      (d.vars.filter fun v => !v.fieldOnly).map fun v => some v.effectiveName := by
  cases d with
  | scalar v =>
    have hv := valid v (by simp [Declaration.vars])
    cases only : v.fieldOnly with
    | true => simp [Declaration.lines, Declaration.vars, only]
    | false =>
      simp [Declaration.lines, Declaration.vars, only, declaredName_declaration hv]
  | register r =>
    have same : r.base.effectiveName = r.name := r.effectiveName_base
    have base : isIdentifier r.name = true :=
      same ▸ valid r.base (by simp [Declaration.vars, Register.vars])
    have elements : ∀ a ∈ r.aliases, declaredName? (r.aliasLine a.1 a.2) = some a.2.effectiveName := by
      intro a member
      refine declaredName_aliasLine base a.1 (valid a.2 ?_)
      exact List.mem_cons_of_mem _ (List.mem_map_of_mem member)
    have kept : (r.aliases.map (·.2)).filter (fun v => !v.fieldOnly) = r.aliases.map (·.2) := by
      rw [List.filter_eq_self, List.forall_mem_map]
      intro a member
      simp [(r.alias_isElement a member).declared]
    have shown : (r.vars.filter fun v => !v.fieldOnly) = r.vars := by
      rw [Register.vars, List.filter_cons_of_pos (by simp [r.base_isBase.declared]), kept]
    rw [Declaration.lines, Declaration.vars, shown, Register.declarations, Register.vars,
      List.map_cons, List.map_cons, List.map_map, List.map_map, declaredName_head base, same]
    exact congrArg (some r.name :: ·) (List.map_congr_left elements)

theorem VariableSet.map_declaredName_lines {s : VariableSet}
    (valid : ∀ v ∈ s.vars, isIdentifier v.effectiveName = true) :
    s.lines.map declaredName? =
      (s.vars.filter fun v => !v.fieldOnly).map fun v => some v.effectiveName := by
  rw [VariableSet.lines, VariableSet.vars, List.map_flatMap, List.filter_flatMap, List.map_flatMap]
  refine congrArg List.flatten (List.map_congr_left fun d member => ?_)
  exact Datalogger.map_declaredName_lines fun v hv =>
    valid v (List.mem_flatMap.2 ⟨d, member, hv⟩)

end Datalogger
