import TreeFetch.Proofs.Fetch.Failures
import TreeFetch.Proofs.Storage.Heard

/-!
# Runs in which messages change the storage

A run tells its messages on the way, and the storage may keep them. Until the first download, these
messages are all that changes it.

Results:
1. `Fetch.state_of_gaveUp`: a run that gives up has changed nothing but by its messages.
2. `Fetch.downloaded_add_errors`: every file that is found is downloaded or counted as an error.
3. `Fetch.fetchWith_ne_endlessWalk`: a run does not give up for want of an end if its walk has
   levels enough in every state that messages can lead to.
-/

namespace TreeFetch.Fetch

open Storage (Client Event Hearing Preserves)

variable {σ : Type} {hear : Hearing σ} {client : Client σ} {state : σ} {config : Config}
  {outputDir : String} {total index : Nat}

/-! ## Runs that give up -/

/-- A run that gives up has changed nothing but by its messages. -/
theorem state_of_gaveUp {failure : Failure}
    (gaveUp : (fetchWith hear client state config).result = .error failure) :
    (fetchWith hear client state config).state =
      Event.heard hear state (fetchWith hear client state config).events := by
  unfold fetchWith at gaveUp ⊢
  split at gaveUp
  · rfl
  · simp only at gaveUp ⊢
    split at gaveUp
    · rfl
    · split at gaveUp
      · simp only [Event.heard_append]
      · simp only [Event.heard_append]
      · next files _ =>
        obtain ⟨report, reports⟩ := deliverWith_reports hear client _ config _ files
        cases reports.symm.trans gaveUp

/-! ## Counts -/

theorem downloadAllWith_counts (plan : List Planned) (state : σ) :
    let done := downloadAllWith hear client outputDir total index plan state
    done.downloaded + ((Report.ofPlan false plan).errors + done.errors) = plan.length := by
  induction plan generalizing index state with
  | nil => rfl
  | cons p rest ih =>
    rw [errors_ofPlan_cons, List.length_cons]
    simp only [downloadAllWith, Downloads.after]
    have here := @downloadOneWith_counts σ client outputDir total index hear p state
    have later := @ih (index + 1) (downloadOneWith hear client outputDir total index p state).state
    simp only [errorsFor] at here later
    omega

/-- Every file that is found is downloaded or counted as an error. -/
theorem downloaded_add_errors {report : Report}
    (done : (fetchWith hear client state config).result = .ok report)
    (real : config.dryRun = false) : report.downloaded + report.errors = report.found := by
  unfold fetchWith at done
  split at done
  · cases done
  · simp only at done
    split at done
    · cases done
    · split at done
      · cases done
      · cases done
      · next files _ =>
        cases files with
        | nil =>
          obtain rfl := Except.ok.inj done
          rfl
        | cons file files =>
          rw [deliverWith, real] at done
          obtain rfl := Except.ok.inj done
          exact downloadAllWith_counts _ _

/-! ## Finite walks -/

/-- A run does not give up for want of an end if the levels that its search allows for suffice. -/
theorem fetchWith_ne_endlessWalk {valid : σ → Prop} (keeps : Preserves hear valid)
    (now : valid state)
    (enough : ∀ limits state start, valid state → Storage.Search.SufficesIn valid client limits
      (Storage.Search.levels client state limits) 0 start) :
    (fetchWith hear client state config).result ≠ .error .endlessWalk := by
  unfold fetchWith
  split
  · next failure failed =>
    rintro same
    obtain rfl := Except.error.inj same
    exact prepare_ne_endlessWalk config failed
  · next ready _ =>
    simp only
    split
    · next failure failed =>
      rintro same
      obtain rfl := Except.error.inj same
      cases (limits_eq_error.1 failed).2
    · next limits noted _ =>
      have told := Event.heard_kept keeps (ready.transformer.elim [] announce) now
      have before := Event.heard_kept keeps noted told
      split
      · simp
      · next endless =>
        exact absurd endless (Storage.Search.searchWith_ne_endless keeps before
          (fun state start later => enough limits state start later) config.folderId)
      · next files _ =>
        obtain ⟨report, reports⟩ :=
          deliverWith_reports hear client _ config ready.transformer files
        rw [reports]
        simp

end TreeFetch.Fetch
