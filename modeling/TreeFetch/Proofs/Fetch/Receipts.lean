import TreeFetch.Proofs.Fetch.Stages

/-!
# Receipts of downloads

A storage can keep receipts: for every download that it is asked for, which file goes to which path
and what became of it. This makes no difference to a run. A file that is to be saved nowhere leaves
no receipt and changes nothing; any other one leaves one receipt.

Results:
1. `Fetch.fetch_withReceipts`: keeping receipts changes nothing else.
2. `Fetch.receipts_of_none` and `Fetch.receipts_of_some`: the receipts of one attempt.
-/

namespace TreeFetch

open Storage (Answer Client File)

namespace Storage

/-! ## Receipts -/

/-- A download that a storage was asked for, with what became of it. -/
structure Receipt where
  file : File
  path : String
  result : Except Error Unit

namespace Receipt

def order (r : Receipt) : File × String := (r.file, r.path)

def succeeded (r : Receipt) : Bool :=
  match r.result with
  | .ok () => true
  | .error _ => false

end Receipt

/-- The same storage, which keeps a receipt of every download. -/
def Client.withReceipts {σ : Type} (client : Client σ) : Client (σ × List Receipt) where
  rootId s := client.rootId s.1
  list s := client.list s.1
  download s file path :=
    let (answer, state) := client.download s.1 file path
    (answer, state, s.2 ++ [⟨file, path, answer.result⟩])
  folderIdAt s := client.folderIdAt s.1
  height s := client.height s.1

namespace Search

variable {σ : Type} {client : Client σ} {s : σ × List Receipt} {pattern : Regex.Pattern}
  {limits : Limits}

theorem visitFolder_withReceipts (levels : Nat) :
    visitFolder client.withReceipts s pattern limits levels =
      visitFolder client s.1 pattern limits levels := by
  induction levels with
  | zero => rfl
  | succ levels ih =>
    funext depth id path found
    rw [visitFolder_succ, visitFolder_succ, ih]
    rfl

theorem search_withReceipts (folder : Option String) :
    search client.withReceipts s folder pattern limits =
      search client s.1 folder pattern limits := by
  have walks : walk client.withReceipts s = walk client s.1 := by
    funext start pattern limits
    rw [walk, walk, visitFolder_withReceipts]
    rfl
  rw [search_unheard, search_unheard, walks]
  rfl

end Search

end Storage

open Storage (Receipt)

variable {σ : Type} {client : Client σ} {state : σ} {config : Config}

def Ending.plain (e : Ending (σ × List Receipt)) : Ending σ := { e with state := e.state.1 }

namespace Fetch

def Downloads.plain (d : Downloads (σ × List Receipt)) :
    Downloads σ := { d with state := d.state.1 }

variable {outputDir path : String} {total index : Nat} {p : Planned} {s : σ × List Receipt}

theorem downloadOne_withReceipts (p : Planned) (s : σ × List Receipt) :
    (downloadOne client.withReceipts outputDir total index p s).plain =
      downloadOne client outputDir total index p s.1 := by
  rw [downloadOne_eq, downloadOne_eq]
  split
  · rfl
  · cases destination outputDir p.destination with
    | error e => rfl
    | ok path =>
      simp only [Client.withReceipts]
      cases (client.download s.1 p.file path).1.result with
      | ok done => rfl
      | error e => rfl

theorem downloadAll_withReceipts (plan : List Planned) (s : σ × List Receipt) :
    (downloadAll client.withReceipts outputDir total index plan s).plain =
      downloadAll client outputDir total index plan s.1 := by
  induction plan generalizing index s with
  | nil => rfl
  | cons p rest ih =>
    rw [downloadAll_cons, downloadAll_cons, ← downloadOne_withReceipts]
    simp only [Downloads.plain, ← ih]
    rfl

theorem deliver_withReceipts (transformer : Option Transformer) (files : List File)
    (s : σ × List Receipt) :
    (deliver client.withReceipts s config transformer files).plain =
      deliver client s.1 config transformer files := by
  cases files with
  | nil => rfl
  | cons file files =>
    rw [deliver_cons, deliver_cons]
    split
    · rfl
    · simp only [← downloadAll_withReceipts]
      rfl

theorem fetch_withReceipts (client : Client σ) (s : σ × List Receipt) (config : Config) :
    (fetch client.withReceipts s config).plain = fetch client s.1 config := by
  have outputId : client.withReceipts.folderIdAt s = client.folderIdAt s.1 := rfl
  rw [fetch_unheard, fetch_unheard]
  cases prepare config with
  | error failure => rfl
  | ok ready =>
    simp only [outputId, Storage.Search.search_withReceipts]
    cases Fetch.limits config (client.folderIdAt s.1 config.outputDir) with
    | error failure => rfl
    | ok found =>
      simp only
      split
      · rfl
      · rfl
      · simp only [← deliver_withReceipts]
        rfl

/-! ## Attempts -/

theorem receipts_of_none (h : savedAt? outputDir p = none) :
    (downloadOne client.withReceipts outputDir total index p s).state = s :=
  (downloadOne_of_none h).1

/-- A file that is to be saved at a path leaves a receipt that says so. -/
theorem receipts_of_some (h : savedAt? outputDir p = some path) :
    (downloadOne client.withReceipts outputDir total index p s).state =
      ((client.download s.1 p.file path).2,
        s.2 ++ [⟨p.file, path, (client.download s.1 p.file path).1.result⟩]) :=
  (downloadOne_of_some h).1

end Fetch

end TreeFetch
