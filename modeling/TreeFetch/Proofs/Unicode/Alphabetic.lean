import TreeFetch.Unicode.Property

/-!
# What is not alphabetic

A set of characters holds only what lies in one of the spans of which it was made. So it is read off
the tables of the Unicode character database that the characters of which placeholders are made are
neither alphabetic nor numbers.

Results:
1. `CharSet.Avoids.unions` and `CharSet.Avoids.not_contains`: a set avoids what its parts avoid.
2. `not_alphanumeric`: a dollar sign and braces are neither alphabetic nor numbers.
-/

namespace TreeFetch.Unicode

namespace CharSet

/-- No span reaches a code point. -/
def AvoidsIn (n : Nat) (spans : List Span) : Prop := ∀ s ∈ spans, n < s.first ∨ s.last < n

/-- No span of a set reaches any of some code points. -/
def Avoids (codes : List Nat) (set : CharSet) : Prop := ∀ n ∈ codes, AvoidsIn n set.spans.toList

variable {n : Nat} {spans done : List Span} {codes : List Nat} {set : CharSet} {sets : List CharSet}

/-! ## Normal form -/

theorem avoidsIn_step {s : Span} (h : AvoidsIn n done) (outside : n < s.first ∨ s.last < n) :
    AvoidsIn n (joinTouching.step done s) := by
  unfold joinTouching.step
  split
  · exact List.forall_mem_singleton.2 outside
  · next p rest =>
    obtain ⟨first, others⟩ := List.forall_mem_cons.1 h
    split
    · next touch =>
      refine List.forall_mem_cons.2 ⟨?_, others⟩
      simp only
      omega
    · exact List.forall_mem_cons.2 ⟨outside, h⟩

theorem avoidsIn_joinTouching (h : AvoidsIn n spans) : AvoidsIn n (joinTouching spans) := by
  have folded : ∀ done, AvoidsIn n done → AvoidsIn n (spans.foldl joinTouching.step done) := by
    induction spans with
    | nil => exact fun done avoids => avoids
    | cons s rest ih =>
      obtain ⟨first, others⟩ := List.forall_mem_cons.1 h
      exact fun done avoids => ih others _ (avoidsIn_step avoids first)
  intro s present
  exact folded [] (List.forall_mem_nil _) s (List.mem_reverse.1 present)

theorem avoids_ofSpans (h : ∀ n ∈ codes, AvoidsIn n spans) : Avoids codes (ofSpans spans) := by
  intro n code
  refine avoidsIn_joinTouching fun s present => h n code s ?_
  exact (List.mergeSort_perm spans _).mem_iff.1 present

namespace Avoids

theorem unions (h : ∀ part ∈ sets, Avoids codes part) : Avoids codes (.unions sets) := by
  refine avoids_ofSpans fun n code s present => ?_
  obtain ⟨part, inside, member⟩ := List.mem_flatMap.1 present
  exact h part inside n code s member

theorem not_search {spans : Array Span} (h : AvoidsIn n spans.toList) (lo hi : Nat) :
    search spans n lo hi = false := by
  fun_induction search spans n lo hi with
  | case1 => rfl
  | case2 => assumption
  | case3 => assumption
  | case4 lo hi _ mid s at_ above below =>
    have present : s ∈ spans.toList := Array.mem_toList_iff.2 (Array.mem_of_getElem? at_)
    have := h s present
    omega
  | case5 => rfl

theorem not_contains (h : Avoids codes set) {c : Char} (code : c.toNat ∈ codes) :
    set.contains c = false :=
  not_search (h _ code) _ _

end Avoids

/-! ## Tables -/

/-- Whether a table lists no span that reaches any of some code points. -/
def skips (codes : List Nat) (chars : List Char) : Bool :=
  (chars.foldl TableReader.step {}).close.done.all fun s =>
    codes.all fun n => n < s.first || s.last < n

theorem avoids_ofTable {chars : List Char} (h : skips codes chars = true) :
    Avoids codes (.ofTable (String.ofList chars)) := by
  intro n code s present
  simp only [ofTable, String.toList_ofList, List.mem_reverse] at present
  simpa using List.all_eq_true.1 (List.all_eq_true.1 h s present) n code

end CharSet

open CharSet

/-- The code points of a dollar sign, an opening and a closing brace. -/
def placeholderMarks : List Nat := [0x24, 0x7b, 0x7d]

/-- The tables of which letters, other alphabetic characters and numbers are made. -/
def alphanumericTables : List CharSet :=
  [uppercaseLetter, lowercaseLetter, titlecaseLetter, modifierLetter, otherLetter, otherAlphabetic,
    decimalNumber, letterNumber, otherNumber]

set_option maxRecDepth 100000 in
theorem avoids_of_mem_tables : ∀ table ∈ alphanumericTables, Avoids placeholderMarks table := by
  simp only [alphanumericTables, List.forall_mem_cons]
  refine ⟨?_, ?_, ?_, ?_, ?_, ?_, ?_, ?_, ?_, List.forall_mem_nil _⟩
  all_goals exact avoids_ofTable (by decide +kernel)

theorem avoids_unions {sets : List CharSet}
    (h : ∀ part ∈ sets, part ∈ alphanumericTables ∨ Avoids placeholderMarks part) :
    Avoids placeholderMarks (.unions sets) :=
  .unions fun part present => (h part present).elim (avoids_of_mem_tables part) id

theorem letter_avoids : Avoids placeholderMarks letter := by
  have cased : Avoids placeholderMarks casedLetter := avoids_unions (by simp [alphanumericTables])
  exact avoids_unions (by simp [alphanumericTables, cased])

theorem alphabetic_avoids : Avoids placeholderMarks alphabetic :=
  avoids_unions (by simp [alphanumericTables, letter_avoids])

theorem number_avoids : Avoids placeholderMarks number :=
  avoids_unions (by simp [alphanumericTables])

/-- No character of which placeholders are made is alphabetic or a number. -/
theorem not_alphanumeric {c : Char} (mark : c.toNat ∈ placeholderMarks) :
    isAlphabetic c = false ∧ isAlphanumeric c = false := by
  have alpha := alphabetic_avoids.not_contains mark
  have num := number_avoids.not_contains mark
  exact ⟨alpha, by rw [isAlphanumeric, alpha, num, Bool.or_false]⟩

end TreeFetch.Unicode
