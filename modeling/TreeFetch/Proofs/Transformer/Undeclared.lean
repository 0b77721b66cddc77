import TreeFetch.Proofs.Template.Names
import TreeFetch.Proofs.Transformer

/-!
# Placeholders that a pattern never captures

A transformer knows which placeholders of its template its pattern never captures. Such a
placeholder makes a transformation fail, as long as its closing brace is kept. It is not kept where
the name hides a placeholder that the pattern captures, as in an opening that nothing closes before
the next placeholder.

Where the pattern captures all placeholders, a path that it matches is transformed, if the groups
take something and nothing that could be a part of a placeholder.

Results:
1. `unresolved_iff`: when an undeclared placeholder makes a transformation fail.
2. `transform_of_declared`: a transformation with declared placeholders only.
-/

namespace TreeFetch.Transformer

open Template (LooksOpen AllPlain AllSolid IsSolid Hides marker marker_eq expand)

variable {pattern template : String} {t : Transformer} {captures : List Regex.Capture}
    {path name : String}

theorem mem_undeclared :
    name ∈ t.undeclared ↔ name ∈ Template.namesIn t.template.toList ∧
    name ∉ t.groupNames := by
  simp [undeclared, Template.placeholderNames]

theorem isSome_lookup_values (matched : t.pattern.captures? path = some captures) (name : String) :
    ((values captures).lookup name).isSome = true ↔ name ∈ t.groupNames := by
  rw [Template.isSome_lookup_iff, groupNames, ← Regex.Pattern.map_fst_captures matched, values,
    List.map_map]
  rfl

theorem allPlain_values (h : create pattern template = .ok t)
    (matched : t.pattern.captures? path = some captures) :
    AllPlain (values captures) := fun name listed =>
  Regex.Pattern.isPlain_groupNames (of_create_eq_ok h).1
    ((isSome_lookup_values matched name).1 listed)

/-- A path that the pattern matches fails exactly if the result looks like a placeholder
somewhere. -/
theorem transform_of_match (matched : t.pattern.captures? path = some captures) :
    let result := Template.substitute (values captures) t.template
    (LooksOpen (expand (values captures) t.template.toList) ∧
      t.transform path = .error (.unresolvedPlaceholder result)) ∨
    (¬LooksOpen (expand (values captures) t.template.toList) ∧
      t.transform path = .ok result) := by
  intro result
  have open_ : Template.hasPlaceholder result = true ↔
      LooksOpen (expand (values captures) t.template.toList) := by
    simp only [result, Template.hasPlaceholder_iff, Template.substitute, String.toList_ofList]
  rw [← open_, transform, matched]
  by_cases found : Template.hasPlaceholder result = true
  · exact .inl ⟨found, if_pos found⟩
  · exact .inr ⟨found, if_neg found⟩

/-- An undeclared placeholder makes the transformation of a path fail, unless its name hides a
placeholder that the pattern captures. The opening that is left is then closed only if a closing
brace comes from what the hidden group took, or from what follows. -/
theorem unresolved_iff (h : create pattern template = .ok t) (unknown : name ∈ t.undeclared) :
    ∃ front later, template.toList = front ++ marker name ++ later ∧
      ∀ path captures, t.pattern.captures? path = some captures →
        let result := Template.substitute (values captures) template
        (t.transform path = .error (.unresolvedPlaceholder result) ∨
          t.transform path = .ok result) ∧
        (t.transform path = .error (.unresolvedPlaceholder result) ↔
          LooksOpen (expand (values captures) front) ∨
          '\x7d' ∈ expand (values captures) later ∨
            ∀ known ∈ t.groupNames, Hides name known → '\x7d' ∈ taken captures known) := by
  obtain ⟨_, rfl, _⟩ := of_create_eq_ok h
  obtain ⟨found, undeclared⟩ := mem_undeclared.1 unknown
  obtain ⟨free, front, later, whole⟩ := Template.mem_namesIn found
  refine ⟨front, later, whole.symm, fun path captures matched => ?_⟩
  have unnamed : (values captures).lookup name = none :=
    Option.not_isSome_iff_eq_none.1 (mt (isSome_lookup_values matched name).1 undeclared)
  have fails := Template.looksOpen_expand_iff (allPlain_values h matched) unnamed free front later
  simp only [isSome_lookup_values matched, valueOf_values, whole] at fails
  intro result
  rcases transform_of_match matched with ⟨looksOpen, refused⟩ | ⟨closed, made⟩
  · exact ⟨.inl refused, fun _ => fails.1 looksOpen, fun _ => refused⟩
  · refine ⟨.inr made, fun refused => ?_, fun left => (closed (fails.2 left)).elim⟩
    cases made.symm.trans refused

/-- The template ends with two closing braces, one of which stays when the group is filled in. -/
def closedTwice : Transformer := ⟨optional, "$\x7b$\x7b_\x7d\x7d"⟩

theorem create_closedTwice : create "(?P<_>a)?" "$\x7b$\x7b_\x7d\x7d" = .ok closedTwice :=
  create_optional (by decide)

theorem cut_closedTwice {front later : List Char}
    (whole : "$\x7b$\x7b_\x7d\x7d".toList = front ++ marker "$\x7b_" ++ later) :
    later = ['\x7d'] := by
  have chars : "$\x7b$\x7b_\x7d\x7d".toList = marker "$\x7b_" ++ ['\x7d'] := by decide
  have six : (marker "$\x7b_").length = 6 := by decide
  rw [chars] at whole
  have count := congrArg List.length whole
  simp only [List.length_append, List.length_cons, List.length_nil, six] at count
  cases front with
  | nil => simpa using whole.symm
  | cons c front =>
    obtain rfl : front = [] := List.length_eq_zero_iff.1 (by simp at count; omega)
    simp [marker_eq] at whole

/-- What the reader takes for one name is an opening and a placeholder that is filled in. The path
is refused, since the second brace closes the opening. -/
theorem unresolved_iff_closedTwice :
    create "(?P<_>a)?" "$\x7b$\x7b_\x7d\x7d" = .ok closedTwice ∧
    "$\x7b_" ∈ closedTwice.undeclared ∧
      closedTwice.transform "a" = .error (.unresolvedPlaceholder "$\x7ba\x7d") := by
  have names : closedTwice.undeclared = ["$\x7b_"] := by cbv
  have unknown : "$\x7b_" ∈ closedTwice.undeclared := by simp [names]
  obtain ⟨front, later, whole, fails⟩ := unresolved_iff create_closedTwice unknown
  obtain rfl := cut_closedTwice whole
  have took : optional.captures? "a" = some [("_", some "a")] := by cbv
  have closes : '\x7d' ∈ expand (values [("_", some "a")]) ['\x7d'] := by
    rw [Template.expand_cons fun _ brace => by simp at brace]
    exact List.mem_cons_self ..
  have made : Template.substitute (values [("_", some "a")]) "$\x7b$\x7b_\x7d\x7d" =
      "$\x7ba\x7d" := by cbv
  exact ⟨create_closedTwice, unknown, made ▸ (fails "a" _ took).2.2 (.inr (.inl closes))⟩

/-- An undeclared placeholder is in the template, and still a path is transformed. -/
theorem undeclared_yet_transformed :
    create "(?P<_>a)?" "$\x7b$\x7b_\x7d" = .ok afterOpening ∧
    afterOpening.undeclared = ["$\x7b_"] ∧
      afterOpening.transform "a" = .ok "$\x7ba" := by
  have unknown : afterOpening.undeclared = ["$\x7b_"] := by cbv
  have made : afterOpening.transform "a" = .ok "$\x7ba" := by cbv
  exact ⟨create_afterOpening, unknown, made⟩

/-- Where all placeholders are declared and the groups take solid texts, a path that the pattern
matches is transformed. An opening in the result is one of the template, after all that a brace
closes in it. -/
theorem transform_of_declared (h : create pattern template = .ok t) (declared : t.undeclared = [])
    (matched : t.pattern.captures? path = some captures)
    (solid : ∀ name ∈ t.groupNames, marker name <:+: template.toList →
      IsSolid (taken captures name)) :
    ∃ result, t.transform path = .ok result ∧
      ∀ before after, result.toList = before ++ '$' :: '\x7b' :: after →
        '\x7d' ∉ after ∧ ∃ front, template.toList = front ++ '$' :: '\x7b' :: after ∧
          expand (values captures) front = before := by
  obtain ⟨_, rfl, _⟩ := of_create_eq_ok h
  have allSolid : AllSolid (values captures) t.template.toList := by
    intro name found
    have known : name ∈ t.groupNames := by
      by_contra unknown
      have present := mem_undeclared.2 ⟨found, unknown⟩
      simp [declared] at present
    obtain ⟨value, listed⟩ :=
      Option.isSome_iff_exists.1 ((isSome_lookup_values matched name).2 known)
    refine ⟨value, listed, ?_⟩
    have took := solid name known (Template.mem_namesIn found).2
    rwa [← valueOf_values, Template.valueOf, listed] at took
  rcases transform_of_match matched with
    ⟨⟨between, left, right, looksOpen⟩, _⟩ | ⟨_, made⟩
  · have split : expand (values captures) t.template.toList =
        left ++ '$' :: '\x7b' :: (between ++ '\x7d' :: right) := by simp [← looksOpen]
    exact absurd (by simp) (Template.opening_of_expand allSolid split).1
  · refine ⟨_, made, fun before after split => ?_⟩
    rw [Template.substitute, String.toList_ofList] at split
    exact Template.opening_of_expand allSolid split

/-- The template ends with an opening that nothing closes. -/
def unclosed : Transformer := ⟨optional, "$\x7b_\x7d$\x7b"⟩

theorem create_unclosed : create "(?P<_>a)?" "$\x7b_\x7d$\x7b" = .ok unclosed :=
  create_optional (by decide)

/-- The opening in the result is the one at the end of the template. -/
theorem transform_of_declared_unclosed :
    create "(?P<_>a)?" "$\x7b_\x7d$\x7b" = .ok unclosed ∧ unclosed.undeclared = [] ∧
      optional.captures? "a" = some [("_", some "a")] ∧ IsSolid (taken [("_", some "a")] "_") ∧
      unclosed.transform "a" = .ok "a$\x7b" ∧
      ∃ front, "$\x7b_\x7d$\x7b".toList = front ++ ['$', '\x7b'] ∧
        expand (values [("_", some "a")]) front = ['a'] := by
  have declared : unclosed.undeclared = [] := by cbv
  have took : optional.captures? "a" = some [("_", some "a")] := by cbv
  have solid : IsSolid (taken [("_", some "a")] "_") :=
    ⟨by decide, by decide, by decide, by decide⟩
  obtain ⟨result, made, openings⟩ :=
    transform_of_declared create_unclosed declared took fun name known _ => by
    obtain rfl : name = "_" := List.mem_singleton.1 known
    exact solid
  have value : unclosed.transform "a" = .ok "a$\x7b" := by cbv
  obtain rfl := Except.ok.inj (made.symm.trans value)
  exact ⟨create_unclosed, declared, took, solid, value, (openings ['a'] [] (by decide)).2⟩

end TreeFetch.Transformer
