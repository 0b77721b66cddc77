import TreeFetch.Proofs.Template.Sensitivity
import TreeFetch.Proofs.Transformer

/-!
# Making a transformer

A pattern and a template are checked once, and the check looks for the placeholders of the declared
names as mere parts of the template. This agrees with what a substitution does to the template. One
that is refused as unused would have come out the same for every path, and one that is accepted has
a name that shows in every result.

Results:
1. `Creation`: what a check answers.
2. `create_decides`: the check agrees with the substitution.
-/

namespace TreeFetch.Transformer

open Template (IsInert IsDecisive)

/-- What a check answers to a pattern and a template: whether something is missing, then whether the
pattern can be used, and then whether a substitution of its names can change the template at all. -/
inductive Creation (pattern template : String) : Except Error Transformer → Prop
  | missing (blank : pattern = "" ∨ template = "") :
      Creation pattern template
        (.error (.invalidArguments "both pattern and format must be non-empty"))
  | invalid {fault : Regex.PatternError} (filled : pattern ≠ "" ∧ template ≠ "")
      (fails : Regex.Pattern.compile pattern = .error fault) :
      Creation pattern template (.error (.invalidPattern pattern fault))
  | unused {compiled : Regex.Pattern} (filled : pattern ≠ "" ∧ template ≠ "")
      (ready : Regex.Pattern.compile pattern = .ok compiled)
      (inert : IsInert compiled.groupNames template) :
      Creation pattern template (.error (.templateUnused pattern template))
  | made {compiled : Regex.Pattern} (filled : pattern ≠ "" ∧ template ≠ "")
      (ready : Regex.Pattern.compile pattern = .ok compiled)
      (used : ¬IsInert compiled.groupNames template) :
      Creation pattern template (.ok ⟨compiled, template⟩)

variable {pattern template : String} {compiled : Regex.Pattern} {fault : Regex.PatternError}

theorem create_of_blank (blank : pattern = "" ∨ template = "") :
    create pattern template =
      .error (.invalidArguments "both pattern and format must be non-empty") := by
  rw [create, if_pos (by simpa using blank)]

theorem create_of_invalid (filled : pattern ≠ "" ∧ template ≠ "")
    (fails : Regex.Pattern.compile pattern = .error fault) :
    create pattern template = .error (.invalidPattern pattern fault) := by
  rw [create, if_neg (by simpa using filled), fails]

/-- The check for a mention tells whether a substitution can change the template. -/
theorem mentions_iff_not_inert (ready : Regex.Pattern.compile pattern = .ok compiled)
    (template : String) :
    compiled.groupNames.any (Template.mentions template) = true ↔
      ¬IsInert compiled.groupNames template := by
  rw [Template.isInert_iff fun _ => Regex.Pattern.isPlain_groupNames ready, List.any_eq_true]
  simp only [Template.mentions_iff, not_forall, not_not, exists_prop]

theorem create_of_ready (filled : pattern ≠ "" ∧ template ≠ "")
    (ready : Regex.Pattern.compile pattern = .ok compiled) :
    (IsInert compiled.groupNames template →
      create pattern template = .error (.templateUnused pattern template)) ∧
    (¬IsInert compiled.groupNames template →
      create pattern template = .ok ⟨compiled, template⟩) := by
  have mentions := mentions_iff_not_inert ready template
  rw [create, if_neg (by simpa using filled), ready]
  exact ⟨fun inert => if_neg fun used => mentions.1 used inert, fun used =>
    if_pos (mentions.2 used)⟩

theorem creation_create (pattern template : String) :
    Creation pattern template (create pattern template) := by
  by_cases blank : pattern = "" ∨ template = ""
  · exact create_of_blank blank ▸ .missing blank
  · have filled := not_or.1 blank
    cases ready : Regex.Pattern.compile pattern with
    | error fault => exact create_of_invalid filled ready ▸ .invalid filled ready
    | ok compiled =>
      by_cases inert : IsInert compiled.groupNames template
      · exact (create_of_ready filled ready).1 inert ▸ .unused filled ready inert
      · exact (create_of_ready filled ready).2 inert ▸ .made filled ready inert

theorem Creation.create_eq {answer : Except Error Transformer}
    (h : Creation pattern template answer) : create pattern template = answer := by
  cases h with
  | missing blank => exact create_of_blank blank
  | invalid filled fails => exact create_of_invalid filled fails
  | unused filled ready inert => exact (create_of_ready filled ready).1 inert
  | made filled ready used => exact (create_of_ready filled ready).2 used

/-- The check of a pattern and a template agrees with the substitution. What it accepts has a
declared name that shows: a different text for this name alone always gives a different result. -/
theorem create_decides (pattern template : String) :
    (∀ answer, create pattern template = answer ↔ Creation pattern template answer) ∧
      ∀ t, create pattern template = .ok t →
        ∃ name ∈ t.groupNames, IsDecisive t.groupNames t.template name := by
  refine ⟨fun answer => ⟨fun h => h ▸ creation_create pattern template, Creation.create_eq⟩,
    fun t h => ?_⟩
  obtain ⟨ready, rfl, name, known, mentioned⟩ := of_create_eq_ok h
  exact ⟨name, known, Template.isDecisive_of_mentions
    (fun _ => Regex.Pattern.isPlain_groupNames ready)
    known mentioned⟩

/-- A placeholder of an unknown name changes nothing, and one of a known name shows behind an
opening. -/
theorem create_decides_optional :
    create "(?P<_>a)?" "$\x7bx\x7d" = .error (.templateUnused "(?P<_>a)?" "$\x7bx\x7d") ∧
      IsInert optional.groupNames "$\x7bx\x7d" ∧
      create "(?P<_>a)?" "$\x7b$\x7b_\x7d" = .ok afterOpening ∧
      IsDecisive afterOpening.groupNames afterOpening.template "_" := by
  have inert : IsInert optional.groupNames "$\x7bx\x7d" := by
    by_contra used
    have mentioned := (mentions_iff_not_inert compile_optional _).2 used
    revert mentioned
    decide
  have refused := ((create_decides "(?P<_>a)?" "$\x7bx\x7d").1 _).2
    (.unused ⟨by decide, by decide⟩ compile_optional inert)
  obtain ⟨name, known, decisive⟩ := (create_decides _ _).2 afterOpening create_afterOpening
  obtain rfl : name = "_" := List.mem_singleton.1 known
  exact ⟨refused, inert, create_afterOpening, decisive⟩

end TreeFetch.Transformer
