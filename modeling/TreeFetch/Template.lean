/-!
# Templates

A template is a text with placeholders: a dollar sign, an opening brace, a name, and the first
closing brace after it. `substitute` replaces the placeholders that name something, from left to
right and in a single pass, so that an inserted value is never looked at again; all other text is
kept as it is. `hasPlaceholder` tells whether something that looks like a placeholder is in a text,
and `placeholderNames` lists the names that a reader of the template would take for placeholders.
-/

namespace TreeFetch.Template

abbrev Assignment := List (String × String)

/-- The text up to the first closing brace, and what follows that brace. -/
def closing? : List Char → Option (List Char × List Char)
  | [] => none
  | '\x7d' :: rest => some ([], rest)
  | c :: rest => (closing? rest).map fun (name, after) => (c :: name, after)

theorem closing?_length {text name after : List Char} (h : closing? text = some (name, after)) :
    after.length < text.length := by
  induction text generalizing name with
  | nil => simp [closing?] at h
  | cons c rest ih =>
    unfold closing? at h
    split at h
    · cases h
    · simp_all
    · next heq =>
      cases heq
      obtain ⟨⟨n, a⟩, hr, he⟩ := Option.map_eq_some_iff.1 h
      cases he
      have := ih hr
      simp only [List.length_cons]
      omega

/-- A name with its value at the beginning of what follows an opening, and the text after it. -/
def slot? (values : Assignment) (text : List Char) : Option (String × List Char) :=
  match closing? text with
  | none => none
  | some (name, after) => (values.lookup (String.ofList name)).map fun value => (value, after)

theorem slot?_length {values : Assignment} {text after : List Char} {value : String}
    (h : slot? values text = some (value, after)) : after.length < text.length := by
  unfold slot? at h
  split at h
  · cases h
  · next name rest hc =>
    obtain ⟨_, _, he⟩ := Option.map_eq_some_iff.1 h
    cases he
    exact closing?_length hc

def expand (values : Assignment) : List Char → List Char
  | [] => []
  | '$' :: '\x7b' :: text =>
    match h : slot? values text with
    | some (value, after) =>
      have := slot?_length h
      value.toList ++ expand values after
    | none => '$' :: expand values ('\x7b' :: text)
  | c :: text => c :: expand values text
termination_by text => text.length

/-- A template with every placeholder replaced whose name has a value. -/
def substitute (values : Assignment) (template : String) : String :=
  String.ofList (expand values template.toList)

/-- Whether an opening and, anywhere after it, a closing brace are in a text. -/
def opened : List Char → Bool
  | [] => false
  | '$' :: '\x7b' :: text => text.contains '\x7d'
  | _ :: text => opened text

/-- Whether something that looks like a placeholder is in a text. -/
def hasPlaceholder (text : String) : Bool := opened text.toList

/-- The names between each opening and the first closing brace after it, one placeholder after the
other. -/
def namesIn : List Char → List String
  | [] => []
  | '$' :: '\x7b' :: text =>
    match h : closing? text with
    | some (name, after) =>
      have := closing?_length h
      String.ofList name :: namesIn after
    | none => []
  | _ :: text => namesIn text
termination_by text => text.length

def placeholderNames (template : String) : List String := namesIn template.toList

def placeholder (name : String) : String := "$\x7b" ++ name ++ "\x7d"

def occursIn (part : List Char) : List Char → Bool
  | [] => part.isEmpty
  | c :: rest => part.isPrefixOf (c :: rest) || occursIn part rest

def mentions (template name : String) : Bool :=
  occursIn (placeholder name).toList template.toList

end TreeFetch.Template
