import TreeFetch.Proofs.Template

/-!
# What a template shows of its values

A template that mentions none of the declared names stays as it is, whatever these names stand for.
A name that it mentions shows in every result: where the name stands for something else, and all
other names for the same as before, the result is another text.

Results:
1. `Splits.mem_of_mentions`: a mentioned name is one of those at which the template splits.
2. `fill_inj`: a result tells what a name stands for, if all other names are known.
3. `isDecisive_of_mentions` and `isInert_iff`: names that show, and templates in which none does.
-/

namespace TreeFetch.Template

variable {values : Assignment} {declared : List String} {name template : String}
  {text first literal front later : List Char} {rest more : List (String × List Char)}
  {stands other : String → List Char}

/-- Each declared name has a value, and no other name has one. -/
def Assigns (values : Assignment) (declared : List String) : Prop :=
  ∀ name, name ∈ declared ↔ (values.lookup name).isSome = true

/-- A substitution leaves a template as it is, whatever the declared names stand for. -/
def IsInert (declared : List String) (template : String) : Prop :=
  ∀ values, Assigns values declared → substitute values template = template

/-- Where one name stands for something else and all other names for the same, the result is
another. -/
def IsDecisive (declared : List String) (template name : String) : Prop :=
  ∀ values other, Assigns values declared → Assigns other declared →
    values.lookup name ≠ other.lookup name →
    (∀ different, different ≠ name → values.lookup different = other.lookup different) →
    substitute values template ≠ substitute other template

/-! ## Mentioned names -/

theorem fill_between (stands : String → List Char) (first : List Char)
    (rest : List (String × List Char))
    (name : String) (literal : List Char) (more : List (String × List Char)) :
    fill stands first (rest ++ (name, literal) :: more) =
      fill stands first rest ++ stands name ++ fill stands literal more := by
  simp [fill]

theorem Splits.between (h : Splits declared front first rest) (known : name ∈ declared)
    (h' : Splits declared later literal more) :
    Splits declared (front ++ marker name ++ later) first (rest ++ (name, literal) :: more) where
  whole := by rw [fill_between, ← h.whole, ← h'.whole]
  names part present := by
    rcases List.mem_append.1 present with before | after
    · exact h.names part before
    · exact (h'.cons_marker known).names part after
  plain text present := by
    rw [List.map_append, List.map_cons, ← List.cons_append] at present
    rcases List.mem_append.1 present with before | after
    · exact h.plain text before
    · exact h'.plain text after

theorem Splits.mem_of_mentions (plain : ∀ name ∈ declared, IsPlain name)
    (h : Splits declared text first rest)
    (known : name ∈ declared) (mentioned : marker name <:+: text) : name ∈ rest.map (·.1) := by
  obtain ⟨front, later, rfl⟩ := mentioned
  obtain ⟨_, before, splits⟩ := Splits.exists plain front
  obtain ⟨_, after, splits'⟩ := Splits.exists plain later
  obtain ⟨_, rfl⟩ := h.unique plain (splits.between known splits')
  simp

/-! ## Values that show -/

theorem length_fill_le (shorter : ∀ name, (stands name).length ≤ (other name).length)
    (first : List Char) (rest : List (String × List Char)) :
    (fill stands first rest).length ≤ (fill other first rest).length := by
  induction rest generalizing first with
  | nil => rfl
  | cons part rest ih =>
    obtain ⟨named, literal⟩ := part
    have here := shorter named
    have later := ih literal
    simp only [fill_cons, List.length_append]
    omega

theorem length_fill_lt (shorter : ∀ name, (stands name).length ≤ (other name).length)
    (present : name ∈ rest.map (·.1)) (less : (stands name).length < (other name).length)
    (first : List Char) : (fill stands first rest).length < (fill other first rest).length := by
  induction rest generalizing first with
  | nil => simp at present
  | cons part rest ih =>
    obtain ⟨named, literal⟩ := part
    simp only [fill_cons, List.length_append]
    rcases List.mem_cons.1 present with rfl | inside
    · have later := length_fill_le shorter literal rest
      omega
    · have here := shorter named
      have later := ih inside literal
      omega

/-- A name that stood for a longer text would make the result longer. -/
theorem length_le_of_fill (apart : ∀ different, different ≠ name →
      stands different = other different)
    (present : name ∈ rest.map (·.1)) (same : fill stands first rest = fill other first rest) :
    (other name).length ≤ (stands name).length := by
  by_contra longer
  have shorter : ∀ n, (stands n).length ≤ (other n).length := by
    intro n
    by_cases it : n = name
    · subst it
      omega
    · rw [apart n it]
  have less := length_fill_lt shorter present (by omega) first
  rw [same] at less
  exact absurd less (lt_irrefl _)

/-- A result tells what a name stands for, if all other names are known. -/
theorem fill_inj (apart : ∀ different, different ≠ name → stands different = other different)
    (present : name ∈ rest.map (·.1)) (same : fill stands first rest = fill other first rest) :
    stands name = other name := by
  have lengths : (stands name).length = (other name).length :=
    le_antisymm (length_le_of_fill (fun n it => (apart n it).symm) present same.symm)
      (length_le_of_fill apart present same)
  induction rest generalizing first with
  | nil => simp at present
  | cons part rest ih =>
    obtain ⟨named, literal⟩ := part
    rw [fill_cons, fill_cons, List.append_cancel_left_eq] at same
    by_cases it : named = name
    · rw [it] at same
      exact (List.append_inj same lengths).1
    · rw [apart _ it, List.append_cancel_left_eq] at same
      rcases List.mem_cons.1 present with rfl | inside
      · exact absurd rfl it
      · exact ih inside same

theorem isDecisive_of_mentions (plain : ∀ name ∈ declared, IsPlain name)
    (known : name ∈ declared)
    (mentioned : marker name <:+: template.toList) : IsDecisive declared template name := by
  intro values other given given' differs agree same
  obtain ⟨first, rest, splits⟩ := Splits.exists plain template.toList
  have filled : fill (valueOf values) first rest = fill (valueOf other) first rest := by
    rw [← expand_eq_fill plain given splits, ← expand_eq_fill plain given' splits]
    exact String.ofList_injective same
  have apart : ∀ different, different ≠ name →
      valueOf values different = valueOf other different := by
    intro different it
    rw [valueOf, valueOf, agree different it]
  have stands := fill_inj apart (splits.mem_of_mentions plain known mentioned) filled
  obtain ⟨value, found⟩ := Option.isSome_iff_exists.1 ((given name).1 known)
  obtain ⟨value', found'⟩ := Option.isSome_iff_exists.1 ((given' name).1 known)
  rw [valueOf, valueOf, found, found'] at stands
  rw [found, found'] at differs
  exact differs (congrArg some (String.toList_inj.1 stands))

/-- A template is inert exactly if it mentions none of the declared names. -/
theorem isInert_iff (plain : ∀ name ∈ declared, IsPlain name) :
    IsInert declared template ↔ ∀ name ∈ declared, ¬marker name <:+: template.toList := by
  constructor
  · intro inert name known mentioned
    -- two assignments that differ in the mentioned name cannot both give the template
    let values : Assignment := declared.map fun name => (name, "")
    have given : Assigns values declared := fun name => by simp [values]
    have given' : Assigns ((name, "x") :: values) declared := by
      intro other
      rw [List.lookup_cons]
      by_cases it : other = name
      · simp [it, known]
      · rw [beq_false_of_ne it]
        exact given other
    refine isDecisive_of_mentions plain known mentioned values ((name, "x") :: values)
      given given' ?_ ?_ ?_
    · rw [List.lookup_cons_self]
      intro found
      obtain ⟨before, after, split, _⟩ := List.lookup_eq_some_iff.1 found
      have present : (name, "x") ∈ values := by simp [split]
      simp [values] at present
    · intro different it
      rw [List.lookup_cons, beq_false_of_ne it]
    · rw [inert _ given, inert _ given']
  · intro unmentioned values given
    have splits : Splits declared template.toList template.toList [] := by
      refine ⟨(fill_nil ..).symm, List.forall_mem_nil _, fun literal present name known => ?_⟩
      obtain rfl := List.mem_singleton.1 present
      exact unmentioned name known
    rw [substitute, expand_eq_fill plain given splits, fill_nil, String.ofList_toList]

end TreeFetch.Template
