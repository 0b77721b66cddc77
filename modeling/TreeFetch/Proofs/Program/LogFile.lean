import TreeFetch.Journal
import TreeFetch.Proofs.FileSystem.Elsewhere
import TreeFetch.Proofs.Storage.Heard

/-!
# What a log file changes

The log file is opened first, which makes it if it does not exist. From there on messages are added
at its end, and nothing else is changed by them.

Results:
1. `Journal.tell_appends`: a message is added at the end of the log file.
2. `Journal.tell_alike`: every path leads where it led before the message.
3. `Journal.logOnly_of_appends`: what is changed by the log file altogether.
-/

namespace TreeFetch

namespace FileSystem

variable {fs before mid after opened : FileSystem} {path : String} {at_ : Location}
  {log : Option Location}

/-! ## Adding to a file -/

theorem Tree.except_of_except {t t' : Tree} {spot wider : Location → Bool}
    (same : t'.except spot = t.except spot)
    (within : ∀ at_, spot at_ = true → wider at_ = true) :
    t'.except wider = t.except wider := by
  have twice : ∀ t : Tree, t.except wider = (t.except spot).filter fun e => !wider e.1 := by
    intro t
    rw [except, except, List.filter_filter]
    refine List.filter_congr fun e _ => ?_
    cases inside : spot e.1 with
    | false => simp
    | true => simp [within _ inside]
  rw [twice, twice, same]

def isLog (log : Option Location) (at_ : Location) : Bool := log = some at_

/-- Something is added at the end of a log file, if there is one, and nothing else is changed. -/
structure Appends (log : Option Location) (before after : FileSystem) : Prop where
  unlogged : log = none → after = before
  current : after.current = before.current
  limits : after.limits = before.limits
  elsewhere : after.tree.except (isLog log) = before.tree.except (isLog log)
  appended : ∀ at_ old t, log = some at_ → before.tree.node? at_ = some (.file old t) →
    ∃ more t', after.tree.node? at_ = some (.file (old ++ more) t')

namespace Appends

theorem refl (log : Option Location) (fs : FileSystem) : Appends log fs fs :=
  ⟨fun _ => rfl, rfl, rfl, rfl, fun _ _ t _ there =>
    ⟨.empty, t, by rw [ByteArray.append_empty, there]⟩⟩

theorem trans (h : Appends log before mid) (h' : Appends log mid after) :
    Appends log before after := by
  refine ⟨fun none_ => (h'.unlogged none_).trans (h.unlogged none_), h'.current.trans h.current,
    h'.limits.trans h.limits, h'.elsewhere.trans h.elsewhere, fun at_ old t here there => ?_⟩
  obtain ⟨more, _, added⟩ := h.appended at_ old t here there
  obtain ⟨others, t', all⟩ := h'.appended at_ _ _ here added
  exact ⟨more ++ others, t', by rw [all, ByteArray.append_assoc]⟩

end Appends

theorem appends_overwrite {content : ByteArray} {t : Time}
    (there : fs.tree.node? at_ = some (.file content t)) (more : ByteArray) :
    Appends (some at_) fs (fs.overwrite at_ (content ++ more)) := by
  refine ⟨nofun, rfl, rfl, except_overwrite fs _ (by simp [isLog]),
    fun place old s here found => ?_⟩
  obtain rfl := Option.some.inj here
  obtain ⟨rfl, rfl⟩ := Node.file.inj (Option.some.inj (found.symm.trans there))
  have file : fs.tree.shape? at_ = some .file := Tree.shape?_of_node? there
  exact ⟨more, _, (Tree.leaf?_eq_some.1 (leaf?_overwrite_self file)).1⟩

end FileSystem

open FileSystem

namespace Journal

variable {fs after opened : FileSystem} (j : Journal)

theorem tell_appends (fs : FileSystem) (r : Record) : Appends j.file fs (j.tell fs r) := by
  unfold tell
  cases j.file with
  | none => exact .refl _ _
  | some at_ =>
    simp only
    split
    · exact .refl _ _
    · split
      · next content t there => exact appends_overwrite there _
      · exact .refl _ _

theorem tellAll_appends (fs : FileSystem) (records : List Record) :
    Appends j.file fs (j.tellAll fs records) := by
  induction records generalizing fs with
  | nil => exact .refl _ _
  | cons r rest ih => exact (j.tell_appends fs r).trans (ih _)

/-- Messages change nothing but the content and the time of the log file. -/
theorem tell_alike (fs : FileSystem) (r : Record) : Alike fs (j.tell fs r) := by
  unfold tell
  cases j.file with
  | none => exact .refl fs
  | some at_ =>
    simp only
    split
    · exact .refl fs
    · split
      · exact alike_overwrite fs at_ _
      · exact .refl fs

theorem keeps_alike (fs : FileSystem) : Storage.Preserves j.tell (Alike fs) :=
  fun before r now => now.trans (j.tell_alike before r)

/-! ## The log file altogether -/

/-- Nothing is changed but a log file. What it held before is still its beginning. A log file that
did not exist is new, which renews the time of the folder that holds it. -/
inductive LogOnly (before after : FileSystem) : Option Location → Prop
  | without : after = before → LogOnly before after none
  | kept {at_ : Location} {old more : ByteArray} {t t' : Time} :
      before.tree.node? at_ = some (.file old t) →
      after.tree.node? at_ = some (.file (old ++ more) t') →
      after.tree.except (· = at_) = before.tree.except (· = at_) →
        LogOnly before after (some at_)
  | made {folder : Location} {name : Name} {content : ByteArray} {t made renewed : Time} :
      before.tree.node? (name :: folder) = none →
      after.tree.node? (name :: folder) = some (.file content made) →
      before.tree.node? folder = some (.folder t) →
      after.tree.node? folder = some (.folder renewed) →
      after.tree.except (fun at_ => at_ = name :: folder || at_ = folder) =
        before.tree.except (fun at_ => at_ = name :: folder || at_ = folder) →
      LogOnly before after (some (name :: folder))

variable {j} in
/-- If messages are all that comes after the log file is opened, nothing but the log file is
changed. -/
theorem logOnly_of_appends {verbosity : Verbosity} {file : Option String}
    (opens : start fs verbosity file = .ok (j, opened)) (appends : Appends j.file opened after) :
    LogOnly fs after j.file ∧ after.current = fs.current ∧ after.limits = fs.limits := by
  cases file with
  | none =>
    simp only [start, Except.ok.injEq, Prod.mk.injEq] at opens
    obtain ⟨rfl, rfl⟩ := opens
    exact ⟨.without (appends.unlogged rfl), appends.current, appends.limits⟩
  | some path =>
    cases found : fs.openFile path with
    | error fault => simp [start, found, Except.map] at opens
    | ok result =>
      obtain ⟨at_, made⟩ := result
      simp only [start, found, Except.map, Except.ok.injEq, Prod.mk.injEq] at opens
      obtain ⟨rfl, rfl⟩ := opens
      have widen : ∀ {wider : Location → Bool}, wider at_ = true →
          after.tree.except wider = made.tree.except wider := by
        intro wider within
        refine Tree.except_of_except appends.elsewhere fun place here => ?_
        obtain rfl : at_ = place := by simpa [isLog] using here
        exact within
      rcases openFile_cases found with ⟨rfl, old, t, there⟩ |
        ⟨folder, name, rfl, vacant, rfl⟩
      · obtain ⟨more, t', added⟩ := appends.appended at_ old t rfl there
        exact ⟨.kept there added (widen (by simp)), appends.current, appends.limits⟩
      · refine ⟨?_, appends.current, appends.limits⟩
        obtain ⟨t, held⟩ := Tree.isFolder_iff_node?.1 vacant.held
        obtain ⟨new, s, renewed⟩ := node?_create vacant (.file .empty fs.clock)
        obtain ⟨more, t', added⟩ := appends.appended _ _ _ rfl new
        have elsewhere : isLog (some (name :: folder)) folder = false := by simp [isLog]
        refine .made vacant.free added held
          ((Tree.node?_of_except appends.elsewhere elsewhere).trans renewed) ?_
        rw [widen (by simp), except_create fs name _ (by simp) (by simp)]

end Journal

end TreeFetch
